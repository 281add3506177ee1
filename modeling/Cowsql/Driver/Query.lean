import Cowsql.Driver.Rows
import Cowsql.Protocol.Frames

/-!
# Queries and their rows on the wire

`Conn.QueryContext`, `Stmt.QueryContext`, `Rows.Next` and `Rows.Close` of `driver.go`, with the
protocol.  `QueryContext` sends the query and decodes the first part of the result; `Rows.Next`
fetches every further part with `More`; `Rows.Close` interrupts a query whose result was not
read to its end.  `DecodeRows` is not among the sources: it is a parameter, a function of the
frame received.

The rows on the wire refine `DriverRows` of `Rows`, where the parts still to come are a list:
while the connection carries one well formed frame for each part still to come, `Next` returns
what `DriverRows.next` does, call after call, empty parts included.  Closing rows in the middle
of a result drains the connection up to the server's empty response.  `Rows` share the protocol
and buffers of their connection; the model threads them through the rows.
-/

namespace Cowsql

/-- The fields of the driver's `Rows` that `Next` and `Close` read and write: the protocol and the
buffers they fetch parts and interrupt with, the current part, whether the result set was read
to its end, and whether it has a log function. -/
structure WireRows (Row : Type) where
  protocol : Protocol
  request : Message
  response : Message
  rows : Part Row
  consumed : Bool
  log : Bool

/-- The parts as the server sends them: each part that is not the last is followed by another,
and the last one is final. -/
def Chain {Row : Type} : Bool → List (Part Row) → Prop
  | final, [] => final = true
  | final, p :: ps => final = false ∧ Chain p.final ps

theorem DriverRows.PartsOK.chain {Row : Type} : ∀ {final : Bool} {ps : List (Part Row)},
    DriverRows.PartsOK final ps → Chain final ps
  | _, [], h => h
  | _, _ :: _, ⟨hf, _, h⟩ => ⟨hf, h.chain⟩

@[simp] theorem Part.next_final {Row : Type} (p : Part Row) : p.next.2.final = p.final := by
  obtain ⟨_ | _, _ | _⟩ := p <;> rfl

/-- `protocol.Rows.Close` as the driver reads it (`rows.go` is not among the sources): the end
marker of the current part tells whether another part follows, `io.EOF` after the last part and
`ErrRowsPart` before another. -/
def Part.close {Row : Type} (p : Part Row) : GoError := if p.final then .eof else .rowsPart

section Query

/- `maxEmptyReads` stands for `messageMaxConsecutiveEmptyReads`; `decodeRows` is `DecodeRows`
on the frame received. -/
variable (maxEmptyReads : Nat) (codec : Codec) {Row : Type}
  (decodeRows : Frame → Except GoError (Part Row))

/-- `Conn.QueryContext`: `QuerySQL` on the connection's database; the rows keep the connection's
log function. -/
def DriverConn.queryContext (c : DriverConn) (query : String) (args : List NamedValue) :
    Except GoError (WireRows Row) × DriverConn :=
  match callStatement maxEmptyReads
      (fun m vs => m.encodeQuerySQLV0 codec c.id.toUInt64 query vs)
      (fun m vs => m.encodeQuerySQLV1 codec c.id.toUInt64 query vs) (fun m => decodeRows m.frame)
      c.protocol c.request c.response args with
  | (.error e, p, request, response) => (.error e, { c with protocol := p, request, response })
  | (.ok rows, p, request, response) =>
    (.ok ⟨p, request, response, rows, false, true⟩, { c with protocol := p, request, response })

/-- `Stmt.QueryContext`: `Query` of the prepared statement; the rows get no log function. -/
def DriverStmt.queryContext (s : DriverStmt) (args : List NamedValue) :
    Except GoError (WireRows Row) × DriverStmt :=
  match callStatement maxEmptyReads (fun m vs => m.encodeQueryV0 codec s.db s.id vs)
      (fun m vs => m.encodeQueryV1 codec s.db s.id vs) (fun m => decodeRows m.frame) s.protocol
      s.request s.response args with
  | (.error e, p, request, response) => (.error e, { s with protocol := p, request, response })
  | (.ok rows, p, request, response) =>
    (.ok ⟨p, request, response, rows, false, false⟩, { s with protocol := p, request, response })

namespace WireRows

/-- `return driverError(r.log, err)` from `Next`. -/
def fail (r : WireRows Row) (e : GoError) : Option (Except GoError Row × WireRows Row) :=
  (driverErrorWith r.log e).map fun e => (.error e, r)

/-- `Rows.Next`.  At the end of a part that is not the last, receive the next part with `More`,
decode it and return its first result. -/
def next (r : WireRows Row) : Option (Except GoError Row × WireRows Row) :=
  match r.rows.next with
  | (.error .rowsPart, _) =>
    let x := r.protocol.more maxEmptyReads r.response
    let r := { r with protocol := x.protocol, response := x.response }
    match x.result with
    | .error e => r.fail e
    | .ok () =>
      match decodeRows x.response.frame with
      | .error e => r.fail e
      | .ok part =>
        match part.next with
        | (res, part) => some (res, { r with rows := part })
  | (.error e, rows) => some (.error e, { r with rows, consumed := r.consumed || e == .eof })
  | (.ok row, rows) => some (.ok row, { r with rows })

/-- `n` calls of `Rows.Next`, unless one panics: their results, and the rows after them. -/
def nextN : Nat → WireRows Row → Option (List (Except GoError Row) × WireRows Row)
  | 0, r => some ([], r)
  | n + 1, r =>
    match r.next maxEmptyReads decodeRows with
    | none => none
    | some (x, r) => (nextN n r).map fun (xs, r) => (x :: xs, r)

/-- The rows on the wire `r` are the rows `d`: the same current part and end flag, and the
connection carries, well formed and from a steady peer, one frame for each part still to
come, which decodes to it. -/
def Refines (r : WireRows Row) (d : DriverRows Row) : Prop :=
  r.rows = d.rows ∧ r.consumed = d.consumed ∧
    ∃ fs : List Frame, (∀ f ∈ fs, f.WellFormed) ∧ r.protocol.conn.Carries fs ∧
      Steady maxEmptyReads r.protocol.conn.peer ∧
      List.Forall₂ (fun f p => decodeRows f = .ok p) fs d.pending

/-- **Step lemma.** One call of `Next` on the wire returns what `DriverRows.next` does, and the
rows after it still refine, the parts still chained. -/
theorem next_refines {r : WireRows Row} {d : DriverRows Row}
    (h : r.Refines maxEmptyReads decodeRows d) (hc : Chain d.rows.final d.pending) :
    ∃ r', r.next maxEmptyReads decodeRows = some (d.next.1, r') ∧
      r'.Refines maxEmptyReads decodeRows d.next.2 ∧ Chain d.next.2.rows.final d.next.2.pending := by
  obtain ⟨hrows, hcons, fs, hwf, hcar, hs, hdec⟩ := h
  obtain ⟨⟨rows, final⟩, pending, consumed⟩ := d
  dsimp only at hrows hcons hdec hc
  cases rows with
  | cons row rs =>
    refine ⟨_, by simp [next, DriverRows.next, hrows, Part.next]; rfl, ?_, hc⟩
    exact ⟨rfl, hcons, fs, hwf, hcar, hs, hdec⟩
  | nil =>
    cases final with
    | true =>
      refine ⟨_, by simp [next, DriverRows.next, hrows, Part.next]; rfl, ?_, hc⟩
      exact ⟨rfl, by simp [DriverRows.next, Part.next], fs, hwf, hcar, hs, hdec⟩
    | false =>
      -- the end of a part that is not the last: `More` reads the next frame
      obtain ⟨p, ps, rfl⟩ : ∃ p ps, pending = p :: ps := by
        cases pending with
        | nil => cases hc
        | cons p ps => exact ⟨p, ps, rfl⟩
      obtain ⟨f, fs, rfl, hf, hfs⟩ : ∃ f fs', fs = f :: fs' ∧ decodeRows f = .ok p ∧
          List.Forall₂ (fun f p => decodeRows f = .ok p) fs' ps := by
        cases hdec with
        | cons hf hfs => exact ⟨_, _, rfl, hf, hfs⟩
      obtain ⟨res, c', hr, hrf⟩ :=
        recv_readFrames maxEmptyReads r.response r.protocol.conn _ hwf hcar hs
      have hres : decodeRows res.frame = .ok p := by rw [hrf.frame_of_single]; exact hf
      refine ⟨_, by simp [next, DriverRows.next, hrows, Part.next, Protocol.more, hr, hres]; rfl,
        ?_, by simpa [DriverRows.next, Part.next.eq_2] using hc.2⟩
      exact ⟨rfl, hcons, fs, fun g hg => hwf g (.tail _ hg), by simpa using hrf.carries hcar,
        hrf.2.1 ▸ hs, hfs⟩

/-- **Run lemma.** Call after call, `Next` on the wire returns what `DriverRows.next` does. -/
theorem nextN_refines (n : Nat) {r : WireRows Row} {d : DriverRows Row}
    (h : r.Refines maxEmptyReads decodeRows d) (hc : Chain d.rows.final d.pending) :
    ∃ r', r.nextN maxEmptyReads decodeRows n = some ((d.nextN n).1, r') := by
  induction n generalizing r d with
  | zero => exact ⟨r, rfl⟩
  | succ n ih =>
    obtain ⟨r₁, h₁, hr₁, hc₁⟩ := next_refines maxEmptyReads decodeRows h hc
    obtain ⟨r', h'⟩ := ih hr₁ hc₁
    exact ⟨r', by simp [nextN, DriverRows.nextN, h₁, h']⟩

/-- `Rows.Close`: nothing more to do once the result set was read to its end or the current part
is the last; otherwise `Interrupt` the query, draining for at most `fuel` responses. -/
def close (fuel : Nat) (r : WireRows Row) : Option (Option GoError × WireRows Row) :=
  if r.consumed then some (none, r)
  else if r.rows.close = .eof then some (none, r)
  else
    match r.protocol.interrupt maxEmptyReads fuel r.request r.response with
    | none => none
    | some x =>
      let r := { r with protocol := x.protocol, response := x.response }
      match x.result with
      | .error e => (driverErrorWith r.log e).map fun e => (some e, r)
      | .ok () => some (none, r)

/-- Closing rows in a part that is not the last, their result not read to its end, interrupts
the query: on a protocol serving frames none of whose first `pre` is of type `ResponseEmpty`,
then one that is, then `rest`, `Close` returns nil and leaves a protocol serving `rest`. -/
theorem close_serves (fuel : Nat) {r : WireRows Row} (hcons : r.consumed = false)
    (hfinal : r.rows.final = false) {pre : List Frame} {e : Frame} {rest : List Frame}
    (h : Serves maxEmptyReads r.protocol (pre ++ e :: rest))
    (hpre : ∀ g ∈ pre, g.mtype ≠ responseEmpty) (he : e.mtype = responseEmpty)
    (hfuel : pre.length < fuel) :
    ∃ r', r.close maxEmptyReads fuel = some (none, r') ∧ Serves maxEmptyReads r'.protocol rest := by
  obtain ⟨x, hx, hr, hs⟩ := h.interrupt maxEmptyReads fuel hpre he hfuel r.request r.response
  exact ⟨{ r with protocol := x.protocol, response := x.response },
    by simp [close, hcons, Part.close, hfinal, hx, hr], hs⟩

end WireRows

/-- On a protocol serving `f :: rest`, a statement whose response decodes to `a` from `f` returns
`a`, and the protocol after it serves `rest`. -/
theorem callStatement_serves {α : Type} (encodeV0 encodeV1 : Message → List NamedValue → Message)
    (decode : Message → Except GoError α) (p : Protocol) (request response : Message)
    (args : List NamedValue) (hargs : args.length ≤ 4294967295) {f : Frame} {rest : List Frame}
    (h : Serves maxEmptyReads p (f :: rest)) {a : α} (hd : ∀ m : Message, m.frame = f → decode m = .ok a) :
    (callStatement maxEmptyReads encodeV0 encodeV1 decode p request response args).1 = .ok a ∧
      Serves maxEmptyReads
        (callStatement maxEmptyReads encodeV0 encodeV1 decode p request response args).2.1 rest := by
  obtain ⟨h1, h2, h3⟩ := h.call maxEmptyReads
    (if args.length > 255 then encodeV1 request args else encodeV0 request args) response
  rw [callStatement_ok maxEmptyReads encodeV0 encodeV1 decode p request response args hargs rfl h1
    (hd _ h2)]
  exact ⟨rfl, h3⟩

/-- On a protocol serving `f :: rest`, `QueryContext` returns rows, with a log function, whose
first part is what `f` decodes to, and whose protocol serves `rest`. -/
theorem DriverConn.queryContext_serves (c : DriverConn) (query : String)
    (args : List NamedValue) (hargs : args.length ≤ 4294967295) {f : Frame} {rest : List Frame}
    (h : Serves maxEmptyReads c.protocol (f :: rest)) {p : Part Row} (hd : decodeRows f = .ok p) :
    ∃ r, (c.queryContext maxEmptyReads codec decodeRows query args).1 = .ok r ∧ r.rows = p ∧
      r.consumed = false ∧ r.log = true ∧ Serves maxEmptyReads r.protocol rest := by
  obtain ⟨h1, h2⟩ := callStatement_serves maxEmptyReads
    (fun m vs => m.encodeQuerySQLV0 codec c.id.toUInt64 query vs)
    (fun m vs => m.encodeQuerySQLV1 codec c.id.toUInt64 query vs) (fun m => decodeRows m.frame)
    c.protocol c.request c.response args hargs h (fun m hm => hm ▸ hd)
  unfold queryContext
  split
  · rename_i heq; rw [heq] at h1; cases h1
  · rename_i heq
    rw [heq] at h1 h2
    cases h1
    exact ⟨_, rfl, rfl, rfl, rfl, h2⟩

/-- On a connection with no cached error whose peer takes every write whole and carries, well
formed and steadily, the frame of the first part and then one frame for each part still to
come, `QueryContext` returns rows, with a log function, that refine those parts. -/
theorem DriverConn.queryContext_refines (c : DriverConn) (query : String)
    (args : List NamedValue) (hargs : args.length ≤ 4294967295) {f₀ : Frame} {fs : List Frame}
    {p₀ : Part Row} {pending : List (Part Row)} (hwf : ∀ f ∈ f₀ :: fs, f.WellFormed)
    (hc : c.protocol.conn.Carries (f₀ :: fs)) (hs : Steady maxEmptyReads c.protocol.conn.peer)
    (hn : c.protocol.netErr = none) (hw : ∀ k, c.protocol.conn.peer.writeStep k = .all)
    (hd₀ : decodeRows f₀ = .ok p₀)
    (hd : List.Forall₂ (fun f p => decodeRows f = .ok p) fs pending) :
    ∃ r, (c.queryContext maxEmptyReads codec decodeRows query args).1 = .ok r ∧ r.log = true ∧
      r.Refines maxEmptyReads decodeRows ⟨p₀, pending, false⟩ := by
  obtain ⟨r, hq, hrows, hcons, hlog, hs'⟩ := DriverConn.queryContext_serves maxEmptyReads codec
    decodeRows c query args hargs ⟨hwf, hc, hs, hn, hw⟩ hd₀
  exact ⟨r, hq, hlog, hrows, hcons, fs, hs'.wellFormed, hs'.carries, hs'.steady, hd⟩

/-- A query whose answer is the frames, well formed and from a steady peer, of a first part and
of parts after it that each hold a row: the rows `QueryContext` returns give every row of every
part, in order, and then `io.EOF`. -/
theorem queryContext_returns_all_rows (c : DriverConn) (query : String)
    (args : List NamedValue) (hargs : args.length ≤ 4294967295) {f₀ : Frame} {fs : List Frame}
    {p₀ : Part Row} {pending : List (Part Row)} (hwf : ∀ f ∈ f₀ :: fs, f.WellFormed)
    (hc : c.protocol.conn.Carries (f₀ :: fs)) (hs : Steady maxEmptyReads c.protocol.conn.peer)
    (hn : c.protocol.netErr = none) (hw : ∀ k, c.protocol.conn.peer.writeStep k = .all)
    (hd₀ : decodeRows f₀ = .ok p₀)
    (hd : List.Forall₂ (fun f p => decodeRows f = .ok p) fs pending)
    (hok : DriverRows.PartsOK p₀.final pending) :
    ∃ r r', (c.queryContext maxEmptyReads codec decodeRows query args).1 = .ok r ∧
      r.nextN maxEmptyReads decodeRows ((p₀.rows ++ (pending.map Part.rows).flatten).length + 1) =
        some ((p₀.rows ++ (pending.map Part.rows).flatten).map .ok ++ [.error .eof], r') := by
  obtain ⟨r, hq, -, hr⟩ := DriverConn.queryContext_refines maxEmptyReads codec decodeRows c query
    args hargs hwf hc hs hn hw hd₀ hd
  obtain ⟨r', h'⟩ := WireRows.nextN_refines maxEmptyReads decodeRows
    ((p₀.rows ++ (pending.map Part.rows).flatten).length + 1) hr hok.chain
  have hall := DriverRows.nextN_of_nonempty_parts ⟨p₀, pending, false⟩ hok
  exact ⟨r, r', hq, h'.trans (congrArg (fun xs => some (xs, r')) hall)⟩

/-- A driver connection on `framesProtocol fs`, with the samples' buffers, on database 0. -/
def framesConn (fs : List Frame) : DriverConn := ⟨framesProtocol fs, sampleMessage, sampleMessage, 0⟩

/-- A query answered by one last part holding one row gives that row, then `io.EOF`. -/
theorem queryContext_returns_all_rows_oneRow :
    ∃ r r', ((framesConn [⟨0, 7, 0, 0, []⟩]).queryContext 1 simpleCodec
        (fun _ => .ok (⟨[1], true⟩ : Part Nat)) "SELECT 1" []).1 = .ok r ∧
      r.nextN 1 (fun _ => .ok (⟨[1], true⟩ : Part Nat)) 2 = some ([.ok 1, .error .eof], r') := by
  have hs := framesProtocol_serves [⟨0, 7, 0, 0, []⟩] (by decide)
  exact queryContext_returns_all_rows 1 simpleCodec (fun _ => .ok ⟨[1], true⟩) (framesConn _)
    "SELECT 1" [] (by decide)
    hs.wellFormed hs.carries hs.steady hs.noNetErr hs.writesAll rfl .nil rfl

/-- Three frames, told apart by their schema byte. -/
def schemaFrames : List Frame := [⟨0, 7, 0, 0, []⟩, ⟨0, 7, 1, 0, []⟩, ⟨0, 7, 2, 0, []⟩]

/-- A decoder that reads the frame of schema 0 as a part of one row that is not the last, that
of schema 1 as an empty part that is not the last, and any other as a last part of one row. -/
def schemaDecoder (f : Frame) : Except GoError (Part Nat) :=
  if f.schema = 0 then .ok ⟨[1], false⟩
  else if f.schema = 1 then .ok ⟨[], false⟩
  else .ok ⟨[2], true⟩

/-- **Refinement.** On a connection with no cached error whose peer takes every write whole and
carries, well formed and steadily, the frame of the first part and then one frame for each part
still to come, only the last part final: whatever the parts hold, empty ones included, any
number of calls of `Next` on the rows `QueryContext` returns give what the same calls of
`DriverRows.next` give on those parts, and none panics. -/
theorem DriverConn.queryContext_rows_refine (c : DriverConn) (query : String)
    (args : List NamedValue) (hargs : args.length ≤ 4294967295) {f₀ : Frame} {fs : List Frame}
    {p₀ : Part Row} {pending : List (Part Row)} (hwf : ∀ f ∈ f₀ :: fs, f.WellFormed)
    (hc : c.protocol.conn.Carries (f₀ :: fs)) (hs : Steady maxEmptyReads c.protocol.conn.peer)
    (hn : c.protocol.netErr = none) (hw : ∀ k, c.protocol.conn.peer.writeStep k = .all)
    (hd₀ : decodeRows f₀ = .ok p₀)
    (hd : List.Forall₂ (fun f p => decodeRows f = .ok p) fs pending)
    (hchain : Chain p₀.final pending) (n : Nat) :
    ∃ r r', (c.queryContext maxEmptyReads codec decodeRows query args).1 = .ok r ∧
      r.nextN maxEmptyReads decodeRows n =
        some (((⟨p₀, pending, false⟩ : DriverRows Row).nextN n).1, r') := by
  obtain ⟨r, hq, -, hr⟩ := DriverConn.queryContext_refines maxEmptyReads codec decodeRows c query
    args hargs hwf hc hs hn hw hd₀ hd
  obtain ⟨r', h'⟩ := WireRows.nextN_refines maxEmptyReads decodeRows n hr hchain
  exact ⟨r, r', hq, h'⟩

/-- On the wire as in `DriverRows`, an empty part in the middle hands `ErrRowsPart` to the
caller. -/
theorem queryContext_rows_refine_emptyMiddle :
    ∃ r r', ((framesConn schemaFrames).queryContext 1 simpleCodec schemaDecoder "SELECT 1"
        []).1 = .ok r ∧
      r.nextN 1 schemaDecoder 3 = some ([.ok 1, .error .rowsPart, .ok 2], r') := by
  have hs := framesProtocol_serves schemaFrames (by decide)
  exact DriverConn.queryContext_rows_refine 1 simpleCodec schemaDecoder (framesConn _) "SELECT 1"
    [] (by decide) hs.wellFormed hs.carries hs.steady hs.noNetErr hs.writesAll rfl
    (.cons rfl (.cons rfl .nil)) ⟨rfl, rfl, rfl⟩ 3

end Query

end Cowsql
