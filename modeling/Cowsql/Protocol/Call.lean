import Cowsql.Protocol.Recv
import Cowsql.Wire.Request

/-!
# The call engine

`Protocol` with `Call`, `More` and `Interrupt` from `protocol.go`, and runs of them on one
protocol.  `Call` fails at once with the cached network error when there is one; otherwise it
sends the request, receives one response, and caches the error when it fails with a
`*net.OpError`.  `More` receives one response.  `Interrupt` sends an interrupt request and
receives responses until one of type `ResponseEmpty`, so it runs on `fuel`: `none` means the
loop had not ended after `fuel` responses.

An operation returns an `Exchange`, which besides the outcome lists every response the
operation received (ghost data: the code only leaves the last one in the caller's message).
The mutex and the close channel of `Protocol` serialise callers and stop the disabled
heartbeat; a model of one caller at a time has neither.
-/

namespace Cowsql

/-- `Protocol`: the protocol version, the connection and the cached network error. -/
structure Protocol where
  version : UInt64
  conn : Conn
  netErr : Option GoError

/-- `newProtocol`. -/
def newProtocol (version : UInt64) (conn : Conn) : Protocol := ⟨version, conn, none⟩

/-- The deferred check of `Call`: keep the `*net.OpError` a failure carries. -/
def Protocol.cache (p : Protocol) (e : GoError) : Protocol :=
  match e.netOpOf with
  | some o => { p with netErr := some o }
  | none => p

@[simp] theorem Protocol.cache_conn (p : Protocol) (e : GoError) : (p.cache e).conn = p.conn := by
  unfold Protocol.cache; split <;> rfl

@[simp] theorem Protocol.cache_version (p : Protocol) (e : GoError) :
    (p.cache e).version = p.version := by
  unfold Protocol.cache; split <;> rfl

/-- What an operation on a protocol gives back: its outcome, the response message, every
response it received, in order, and the protocol after it. -/
structure Exchange where
  result : Except GoError Unit
  response : Message
  received : List Message
  protocol : Protocol

/-- `sendHeader`: write the eight header bytes; fewer is `io.ErrShortWrite`. -/
def sendHeader (req : Message) (c : Conn) : Except GoError Unit × Conn :=
  match c.write req.header with
  | (_, some e, c') => (.error e, c')
  | (n, none, c') => (if n ≠ messageHeaderSize then .error .shortWrite else .ok (), c')

/-- `sendBody`: write the body up to the offset; fewer is `io.ErrShortWrite`. -/
def sendBody (req : Message) (c : Conn) : Except GoError Unit × Conn :=
  let buf := req.body.take req.offset
  match c.write buf with
  | (_, some e, c') => (.error e, c')
  | (n, none, c') => (if n ≠ buf.length then .error .shortWrite else .ok (), c')

/-- `send`: the header, then the body. -/
def send (req : Message) (c : Conn) : Except GoError Unit × Conn :=
  match sendHeader req c with
  | (.error e, c') => (.error (.wrap "header" e), c')
  | (.ok (), c') =>
    match sendBody req c' with
    | (.error e, c'') => (.error (.wrap "body" e), c'')
    | (.ok (), c'') => (.ok (), c'')

/-- `c'` is `c` after writes only: the read side and the descriptor are as they were. -/
def Conn.WriteOnly (c c' : Conn) : Prop :=
  c'.pos = c.pos ∧ c'.reads = c.reads ∧ c'.peer = c.peer ∧ c'.fd = c.fd

theorem Conn.WriteOnly.trans {c c' c'' : Conn} (h : c.WriteOnly c') (h' : c'.WriteOnly c'') :
    c.WriteOnly c'' := by
  obtain ⟨a, b, d, e⟩ := h; obtain ⟨a', b', d', e'⟩ := h'
  exact ⟨a'.trans a, b'.trans b, d'.trans d, e'.trans e⟩

theorem Conn.WriteOnly.refl (c : Conn) : c.WriteOnly c := ⟨rfl, rfl, rfl, rfl⟩

theorem Conn.write_writeOnly (c : Conn) (buf : List UInt8) : c.WriteOnly (c.write buf).2.2 :=
  c.write_read_side buf

theorem sendHeader_writeOnly (req : Message) (c : Conn) : c.WriteOnly (sendHeader req c).2 := by
  have := c.write_writeOnly req.header
  unfold sendHeader
  split <;> simp_all

theorem sendBody_writeOnly (req : Message) (c : Conn) : c.WriteOnly (sendBody req c).2 := by
  have := c.write_writeOnly (req.body.take req.offset)
  dsimp only [sendBody]
  split <;> simp_all

/-- Sending only writes. -/
theorem send_writeOnly (req : Message) (c : Conn) : c.WriteOnly (send req c).2 := by
  have h := sendHeader_writeOnly req c
  unfold send
  split
  · simp_all
  · rename_i c' heq
    rw [heq] at h
    have h' := h.trans (sendBody_writeOnly req c')
    split <;> simp_all

/-- The bytes of the frame `send` writes for a request. -/
def Message.frameBytes (m : Message) : List UInt8 := m.header ++ m.body.take m.offset

/-- A `sendHeader` that succeeds has written the whole header. -/
theorem sendHeader_sent_of_ok {req : Message} {c c' : Conn}
    (h : sendHeader req c = (.ok (), c')) : c'.sent = c.sent ++ req.header := by
  unfold sendHeader at h
  rcases hw : c.write req.header with ⟨n, _ | e, c₁⟩ <;> simp only [hw] at h
  · split_ifs at h with hn
    · simp at h
    · cases h
      simpa only [hw] using c.write_sent_of_count req.header (by simpa [hw] using hn)
  · simp at h

/-- A `sendBody` that succeeds has written the whole body up to the offset. -/
theorem sendBody_sent_of_ok {req : Message} {c c' : Conn}
    (h : sendBody req c = (.ok (), c')) : c'.sent = c.sent ++ req.body.take req.offset := by
  unfold sendBody at h
  rcases hw : c.write (req.body.take req.offset) with ⟨n, _ | e, c₁⟩ <;> simp only [hw] at h
  · split_ifs at h with hn
    · simp at h
    · cases h
      simpa only [hw] using
        c.write_sent_of_count (req.body.take req.offset) (by simpa [hw] using hn)
  · simp at h

/-- A `send` that succeeds has written the request's whole frame, whatever the peer did. -/
theorem send_sent_of_ok {req : Message} {c c' : Conn} (h : send req c = (.ok (), c')) :
    c'.sent = c.sent ++ req.frameBytes := by
  unfold send at h
  rcases hh : sendHeader req c with ⟨_ | ⟨⟩, c₁⟩ <;> simp only [hh] at h
  · simp at h
  · rcases hb : sendBody req c₁ with ⟨_ | ⟨⟩, c₂⟩ <;> simp only [hb] at h
    · simp at h
    · cases h
      rw [sendBody_sent_of_ok hb, sendHeader_sent_of_ok hh, List.append_assoc]; rfl

/-- Against a peer that takes every write whole, `send` succeeds, having written the whole
frame. -/
theorem send_of_writes_all (req : Message) (c : Conn) (hw : ∀ k, c.peer.writeStep k = .all) :
    send req c =
      (.ok (), { c with writes := c.writes + 2, sent := c.sent ++ req.frameBytes }) := by
  have hh : req.header.take messageHeaderSize = req.header := List.take_of_length_le (by simp)
  have hb : (req.body.take req.offset).take (min req.offset req.body.length) =
      req.body.take req.offset := List.take_of_length_le (by simp)
  simp [send, sendHeader, sendBody, Conn.write, hw, Message.frameBytes, Nat.add_assoc, hh, hb]

/-! ## The frame a request is sent as -/

/-- The frame a request is sent as when the puts since its reset wrote `bs`: those bytes padded
to a word, under a header with the request's type and schema, no flags, and the number of words
as the 32-bit header field holds it. -/
def requestFrame (bs : List UInt8) (mtype schema : UInt8) : Frame :=
  ⟨UInt32.ofNat ((padToWord bs).length / messageWordSize), mtype, schema, 0, padToWord bs⟩

/-- Whatever the message held before, a request built by puts after a reset and finished by
`putHeader` is sent as the bytes of `requestFrame` of what the puts wrote: nothing of an earlier
request goes out. -/
theorem frameBytes_puts (m : Message) (chunks : List (List UInt8)) (mtype schema : UInt8) :
    ((chunks.foldl Message.put m.reset).putHeader mtype schema).frameBytes =
      (requestFrame chunks.flatten mtype schema).bytes := by
  have hoff := Message.offset_foldl_put m.reset chunks
  have htake := Message.take_foldl_put m.reset chunks
  simp only [Message.reset_offset, Nat.zero_add, List.take_zero, List.nil_append] at hoff htake
  simp only [Message.frameBytes, Message.header, Message.take_putHeader, Message.putHeader_words,
    Message.putHeader_mtype, Message.putHeader_schema, Message.putHeader_extra,
    Message.foldl_put_extra, htake, requestFrame, Frame.bytes]
  rfl

/-- The frame of a request is well formed exactly when its body has fewer than `2^35` bytes:
from there on the number of words wraps in its 32-bit field. -/
theorem requestFrame_wellFormed_iff (bs : List UInt8) (mtype schema : UInt8) :
    (requestFrame bs mtype schema).WellFormed ↔ (padToWord bs).length < 2 ^ 35 := by
  have hmod := length_padToWord_mod bs
  simp only [Frame.WellFormed, requestFrame, toNat_uint32OfNat, messageWordSize] at hmod ⊢
  omega

/-- **Round trip.** Whatever the message held before, a request built by puts after a reset and
`putHeader` goes out, to a peer that takes every write whole, as exactly the bytes of the frame
of what the puts wrote; when its body has fewer than `2^35` bytes that frame is well formed,
and a `recv` against a steady peer whose stream carries those bytes reads it back whole, header
fields and padded bytes. -/
theorem request_roundtrip (maxEmptyReads : Nat) (m : Message) (chunks : List (List UInt8))
    (mtype schema : UInt8) (hsize : (padToWord chunks.flatten).length < 2 ^ 35) (c : Conn)
    (hw : ∀ k, c.peer.writeStep k = .all) (res : Message) (c' : Conn)
    (hc' : c'.upcoming (requestFrame chunks.flatten mtype schema).bytes.length =
      (requestFrame chunks.flatten mtype schema).bytes)
    (hs : Steady maxEmptyReads c'.peer) :
    (send ((chunks.foldl Message.put m.reset).putHeader mtype schema) c).2.sent =
        c.sent ++ (requestFrame chunks.flatten mtype schema).bytes ∧
      ∃ res' r, recv maxEmptyReads res c' =
          (.ok (), res', c'.advance (requestFrame chunks.flatten mtype schema).bytes.length r) ∧
        res'.frame = requestFrame chunks.flatten mtype schema := by
  rw [send_of_writes_all _ c hw, frameBytes_puts]
  exact ⟨rfl, recv_frame maxEmptyReads res c' _
    ((requestFrame_wellFormed_iff _ _ _).2 hsize) hc' hs⟩

/-- A connection whose peer serves the frame of a one-word request of type 2, answers every
read with up to 4096 bytes and takes every write whole. -/
def sampleRequestConn : Conn :=
  Conn.fresh 0 ⟨fun i => (requestFrame [5, 0, 0, 0, 0, 0, 0, 0] 2 0).bytes.getD i 0,
    fun _ => .data 4096, fun _ => .all⟩

/-- The one-word request, put into a fresh buffer and sent on the sample connection, goes out as
its frame, and a `recv` on that connection reads the frame back. -/
theorem request_roundtrip_sample :
    (padToWord [5, 0, 0, 0, 0, 0, 0, 0]).length < 2 ^ 35 ∧
      (send (([[5, 0, 0, 0, 0, 0, 0, 0]].foldl Message.put
        (Message.init 16 (by decide)).reset).putHeader 2 0) sampleRequestConn).2.sent =
        (requestFrame [5, 0, 0, 0, 0, 0, 0, 0] 2 0).bytes ∧
      ∃ res' r, recv 1 (Message.init 16 (by decide)) sampleRequestConn =
          (.ok (), res', sampleRequestConn.advance
            (requestFrame [5, 0, 0, 0, 0, 0, 0, 0] 2 0).bytes.length r) ∧
        res'.frame = requestFrame [5, 0, 0, 0, 0, 0, 0, 0] 2 0 := by
  have hs : Steady 1 sampleRequestConn.peer :=
    ⟨fun _ _ h => (by cases h), fun _ => ⟨0, by omega, 4096, by omega, rfl⟩⟩
  exact ⟨by decide, request_roundtrip 1 _ [[5, 0, 0, 0, 0, 0, 0, 0]] 2 0 (by decide)
    sampleRequestConn (fun _ => rfl) _ sampleRequestConn (by decide) hs⟩

section Engine

/- `maxEmptyReads` stands for the constant `messageMaxConsecutiveEmptyReads`. -/
variable (maxEmptyReads : Nat)

/-- `Call`: fail with the cached error, or send the request and receive the response, caching
a `*net.OpError` on failure.  The error messages also print the remaining time budget, which is
left out. -/
def Protocol.call (p : Protocol) (request response : Message) : Exchange :=
  match p.netErr with
  | some e => ⟨.error e, response, [], p⟩
  | none =>
    let desc := requestDesc request.mtype
    match send request p.conn with
    | (.error e, c) =>
      let e := GoError.wrap ("call " ++ desc ++ ": send") e
      ⟨.error e, response, [], ({ p with conn := c }).cache e⟩
    | (.ok (), c) =>
      match recv maxEmptyReads response c with
      | (.error e, res, c') =>
        let e := GoError.wrap ("call " ++ desc ++ ": receive") e
        ⟨.error e, res, [], ({ p with conn := c' }).cache e⟩
      | (.ok (), res, c') => ⟨.ok (), res, [res], { p with conn := c' }⟩

/-- With a cached network error, `Call` returns it and touches nothing. -/
theorem Protocol.call_of_netErr {p : Protocol} {e : GoError} (h : p.netErr = some e)
    (request response : Message) :
    p.call maxEmptyReads request response = ⟨.error e, response, [], p⟩ := by
  simp [Protocol.call, h]

/-- `Call` keeps the connection's descriptor. -/
theorem Protocol.call_fd (p : Protocol) (request response : Message) :
    (p.call maxEmptyReads request response).protocol.conn.fd = p.conn.fd := by
  have hw := send_writeOnly request p.conn
  unfold Protocol.call
  split
  · rfl
  · split
    · rename_i c heq
      rw [heq] at hw
      simpa using hw.2.2.2
    · rename_i c heq
      have hfd : c.fd = p.conn.fd := by rw [heq] at hw; exact hw.2.2.2
      obtain ⟨k, r, hr⟩ := recv_readOnly maxEmptyReads response c
      split <;> simp_all [Conn.advance]

/-- `Call` keeps the protocol version. -/
theorem Protocol.call_version (p : Protocol) (request response : Message) :
    (p.call maxEmptyReads request response).protocol.version = p.version := by
  unfold Protocol.call
  repeat' split
  all_goals simp

/-- A `Call` that succeeds has written the request's whole frame on the connection, and
nothing else. -/
theorem Protocol.call_sent_of_ok {p : Protocol} {request response : Message}
    (h : (p.call maxEmptyReads request response).result = .ok ()) :
    (p.call maxEmptyReads request response).protocol.conn.sent =
      p.conn.sent ++ request.frameBytes := by
  unfold Protocol.call at h ⊢
  rcases hn : p.netErr with _ | e <;> simp only [hn] at h ⊢
  · rcases hs : send request p.conn with ⟨_ | ⟨⟩, c⟩ <;> simp only [hs] at h ⊢
    · cases h
    · obtain ⟨k, r, hr⟩ := recv_readOnly maxEmptyReads response c
      rcases hrecv : recv maxEmptyReads response c with ⟨_ | ⟨⟩, res, c'⟩ <;>
        simp only [hrecv] at h hr ⊢
      · cases h
      · rw [hr]
        exact (send_sent_of_ok hs : c.sent = _)
  · cases h

/-- `More`: receive one more response. -/
def Protocol.more (p : Protocol) (response : Message) : Exchange :=
  match recv maxEmptyReads response p.conn with
  | (.error e, res, c) => ⟨.error e, res, [], { p with conn := c }⟩
  | (.ok (), res, c) => ⟨.ok (), res, [res], { p with conn := c }⟩

/-- The receive loop of `Interrupt`, for at most `fuel` responses: receive until a response of
type `ResponseEmpty`.  It returns the outcome, the last response, the responses received and
the connection. -/
def drain :
    Nat → Message → Conn → Option (Except GoError Unit × Message × List Message × Conn)
  | 0, _, _ => none
  | fuel + 1, res, c =>
    match recv maxEmptyReads res c with
    | (.error e, res', c') => some (.error (.wrap "failed to receive response" e), res', [], c')
    | (.ok (), res', c') =>
      if res'.getHeader.1 = responseEmpty then some (.ok (), res', [res'], c')
      else (drain fuel res' c').map fun (r, m, got, c'') => (r, m, res' :: got, c'')

/-- `Interrupt`: encode and send an interrupt request, then drain.  The interrupt request is
encoded into the caller's request message; every caller encodes its next request afresh, so
only the response is given back. -/
def Protocol.interrupt (fuel : Nat) (p : Protocol) (request response : Message) :
    Option Exchange :=
  match send (request.encodeInterrupt 0) p.conn with
  | (.error e, c) =>
    let e := GoError.wrap "failed to send interrupt request" e
    some ⟨.error e, response, [], { p with conn := c }⟩
  | (.ok (), c) =>
    (drain maxEmptyReads fuel response c).map fun (r, res, got, c') =>
      ⟨r, res, got, { p with conn := c' }⟩

/-- An operation a caller makes on a protocol. -/
inductive Op where
  | call (request response : Message)
  | more (response : Message)
  | interrupt (request response : Message)

/-- One operation, `Interrupt` draining for at most `fuel` responses. -/
def Op.run (fuel : Nat) (p : Protocol) : Op → Option Exchange
  | .call request response => some (p.call maxEmptyReads request response)
  | .more response => some (p.more maxEmptyReads response)
  | .interrupt request response => p.interrupt maxEmptyReads fuel request response

/-- A run of operations on one protocol: the exchanges, and the protocol after them. -/
def runOps (fuel : Nat) : Protocol → List Op → Option (List Exchange × Protocol)
  | p, [] => some ([], p)
  | p, o :: os =>
    match o.run maxEmptyReads fuel p with
    | none => none
    | some x => (runOps fuel x.protocol os).map fun (xs, q) => (x :: xs, q)

end Engine

/-- A sixteen-byte message, the request and response buffer of the samples. -/
def sampleMessage : Message := Message.init 16 (by decide)

end Cowsql
