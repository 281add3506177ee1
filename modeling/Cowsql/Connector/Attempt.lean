import Cowsql.Protocol.Call
import Cowsql.Connector.Retry

/-!
# One connection attempt

`Handshake`, `DecodeNodeCompat` and `connectAttemptOne` of `request.go` and `protocol.go`.

The connector acts in an `Env`: the node store's answer to each `Get`, the dialer's answer to
each dial, and the codec.  Its own state is a `Net`: the counts of store reads, dials and looks
at the context, the sleeps of the retry loop, every call of `connectAttemptOne` with its
outcome, and one `ConnRecord` per connection obtained, the `k`-th having descriptor `k`.  The
calls and the records are ghost data, written by `connectAttemptOne` itself.  A `leader`
outcome is a protocol on the connection just dialed, whose peer named the dialed address and
welcomed the client, and on which exactly the handshake, the Leader request and the Client
request were written (`connectAttemptOne_leader`).
-/

namespace Cowsql

/-- `VersionOne`. -/
def versionOne : UInt64 := 1

/-- `VersionLegacy`, the pre-1.0 protocol version. -/
def versionLegacy : UInt64 := 0x86104dd760433fe5

/-- `NodeInfo`: a node's id, address and role (`Voter` 0, `StandBy` 1, `Spare` 2). -/
structure NodeInfo where
  id : UInt64
  address : String
  role : Int
  deriving DecidableEq, Repr

/-- What happened to one connection: the address dialed, the leader its peer named, the
heartbeat timeout of the welcome decoded from the answer to the Client request, and whether it
was closed. -/
structure ConnRecord where
  address : String
  named : Option String
  welcome : Option UInt64
  closed : Bool
  deriving DecidableEq, Repr

/-- The record of a connection just dialed. -/
def ConnRecord.fresh (address : String) : ConnRecord := ⟨address, none, none, false⟩

/-- `Close`, on the record. -/
def ConnRecord.close (r : ConnRecord) : ConnRecord := { r with closed := true }

/-- The connector's environment. -/
structure Env where
  /-- The node store's answer to the `k`-th `Get`. -/
  get : Nat → Except GoError (List NodeInfo)
  /-- `Config.Dial`'s answer to the `k`-th dial of an address. -/
  dial : Nat → String → Except GoError Peer
  /-- The decoders of `response.go`. -/
  codec : Codec

/-- What `connectAttemptOne` reports: a failure; no known leader; another node as leader; or a
protocol to the dialed node, which is the leader. -/
inductive Attempt where
  | fail (err : GoError)
  | noLeader
  | redirect (leader : String)
  | leader (p : Protocol)

/-- A call of `connectAttemptOne`: the address, the version and the outcome. -/
structure AttemptCall where
  address : String
  version : UInt64
  outcome : Attempt

/-- The connector's state. -/
structure Net where
  gets : Nat
  dials : Nat
  clock : Nat
  slept : List Duration
  attempts : List AttemptCall
  conns : List ConnRecord

/-- Before the first `Connect` step. -/
def Net.init : Net := ⟨0, 0, 0, [], [], []⟩

/-- The Leader request `connectAttemptOne` sends, in a 16-byte buffer. -/
def leaderRequest : Message := (Message.init 16 (by decide)).encodeLeader

/-- The Client request it sends next in the same buffer, reset, for the client id `id`. -/
def clientRequest (id : UInt64) : Message := leaderRequest.reset.encodeClient id

/-- The connection of `p` is one the connector dialed, whose peer named the dialed address as
leader and answered the Client request with a welcome, and it is open; on it the connector wrote
the handshake of `p`'s version, the Leader request and the Client request for `id`, and nothing
else. -/
def Net.LeaderConn (id : UInt64) (s : Net) (p : Protocol) : Prop :=
  ∃ r, s.conns[p.conn.fd]? = some r ∧ r.named = some r.address ∧ r.welcome.isSome ∧
    r.closed = false ∧
    p.conn.sent = leBytes 8 p.version.toNat ++ leaderRequest.frameBytes ++
      (clientRequest id).frameBytes

/-- `Handshake`: write the protocol version as eight little-endian bytes and wrap the
connection.  Setting and clearing the deadline is left out. -/
def handshake (conn : Conn) (version : UInt64) : Except GoError Protocol :=
  match conn.write (leBytes 8 version.toNat) with
  | (_, some e, _) => .error (.wrap "write handshake" e)
  | (n, none, conn') =>
    if n ≠ 8 then .error (.text "short handshake write: %!w(<nil>)")
    else .ok (newProtocol version conn')

/-- A handshake that succeeds wraps the connection, with the eight bytes of the version
written, in a protocol of that version. -/
theorem handshake_ok {conn : Conn} {version : UInt64} {p : Protocol}
    (h : handshake conn version = .ok p) :
    p.version = version ∧ p.conn.fd = conn.fd ∧
      p.conn.sent = conn.sent ++ leBytes 8 version.toNat := by
  have hw := (conn.write_read_side (leBytes 8 version.toNat)).2.2.2
  have hs := conn.write_sent_of_count (leBytes 8 version.toNat)
  unfold handshake at h
  rcases hx : conn.write (leBytes 8 version.toNat) with ⟨n, _ | e, c'⟩ <;>
    simp only [hx] at h hw hs
  · split_ifs at h with hn
    cases h
    exact ⟨rfl, hw, hs (by simpa using hn)⟩
  · cases h

/-- `DecodeNodeCompat`: the leader's id and address, in the legacy format on a legacy
protocol. -/
def decodeNodeCompat (codec : Codec) (p : Protocol) (response : Message) :
    Except GoError (UInt64 × String) :=
  if p.version = versionLegacy then
    match codec.decodeNodeLegacy response with
    | .error e => .error e
    | .ok address => .ok (0, address)
  else codec.decodeNode response

section Attempt

/- `maxEmptyReads` stands for `messageMaxConsecutiveEmptyReads`, `id` for the connector's
client id. -/
variable (maxEmptyReads : Nat) (codec : Codec) (id : UInt64)

/-- `connectAttemptOne` after the dial: the handshake, the Leader request and, to a peer that
names itself, the Client request, on the new connection `conn`, whose record `r` it keeps. -/
def attemptOnConn (conn : Conn) (address : String) (version : UInt64) (r : ConnRecord) :
    Attempt × ConnRecord :=
  match handshake conn version with
  | .error e => (.fail e, r.close)
  | .ok protocol =>
    let x := protocol.call maxEmptyReads leaderRequest (Message.init 512 (by decide))
    match x.result with
    | .error e =>
      if e.netOpOf = some (.netOp false) ∨ e.isEOF then (.fail .badProtocol, r.close)
      else (.fail e, r.close)
    | .ok () =>
      match decodeNodeCompat codec x.protocol x.response with
      | .error e => (.fail e, r.close)
      | .ok (_, leader) =>
        let r := { r with named := some leader }
        if leader = "" then (.noLeader, r.close)
        else if leader = address then
          let y := x.protocol.call maxEmptyReads (clientRequest id) x.response.reset
          match y.result with
          | .error e => (.fail e, r.close)
          | .ok () =>
            match codec.decodeWelcome y.response with
            | .error e => (.fail e, r.close)
            | .ok heartbeat => (.leader y.protocol, { r with welcome := some heartbeat })
        else (.redirect leader, r.close)

/-- `connectAttemptOne`: dial, then talk to the new connection; the call is recorded. -/
def connectAttemptOne (env : Env) (address : String) (version : UInt64) (s : Net) :
    Attempt × Net :=
  match env.dial s.dials address with
  | .error e =>
    (.fail (.wrap "dial" e),
      { s with
        dials := s.dials + 1
        attempts := s.attempts ++ [⟨address, version, .fail (.wrap "dial" e)⟩] })
  | .ok peer =>
    let (o, r) := attemptOnConn maxEmptyReads env.codec id (Conn.fresh s.conns.length peer) address
      version (ConnRecord.fresh address)
    (o,
      { s with
        dials := s.dials + 1
        attempts := s.attempts ++ [⟨address, version, o⟩]
        conns := s.conns ++ [r] })

/-- `connectAttemptOne` records its call: the address, the version and the outcome. -/
theorem connectAttemptOne_attempts (env : Env) (address : String) (version : UInt64) (s : Net) :
    (connectAttemptOne maxEmptyReads id env address version s).2.attempts = s.attempts ++
      [⟨address, version, (connectAttemptOne maxEmptyReads id env address version s).1⟩] := by
  unfold connectAttemptOne
  split
  · rfl
  · split; rfl

/-- A `leader` outcome is a protocol of the version attempted on the connection attempted, whose
peer named the dialed address and welcomed the client, and on which the handshake, the Leader
request and the Client request were written, in that order. -/
theorem attemptOnConn_leader {conn : Conn} {address : String} {version : UInt64}
    {r r' : ConnRecord} {p : Protocol}
    (h : attemptOnConn maxEmptyReads codec id conn address version r = (.leader p, r')) :
    p.conn.fd = conn.fd ∧ p.version = version ∧
      p.conn.sent = conn.sent ++ leBytes 8 version.toNat ++ leaderRequest.frameBytes ++
        (clientRequest id).frameBytes ∧
      ∃ w, r' = { r with named := some address, welcome := some w } := by
  unfold attemptOnConn at h
  dsimp only at h
  repeat' split at h
  all_goals cases h
  rename_i _ protocol hh _ hx _ _ _ _ _ hl _ hy _ w _
  subst hl
  obtain ⟨hv, hfd, hsent⟩ := handshake_ok hh
  refine ⟨by rw [Protocol.call_fd, Protocol.call_fd, hfd],
    by rw [Protocol.call_version, Protocol.call_version, hv], ?_, w, rfl⟩
  rw [Protocol.call_sent_of_ok maxEmptyReads hy, Protocol.call_sent_of_ok maxEmptyReads hx, hsent]

/-- A `leader` outcome of `connectAttemptOne` is a protocol on the connection it dialed, to a
leader. -/
theorem connectAttemptOne_leader {env : Env} {address : String} {version : UInt64} {s s' : Net}
    {p : Protocol}
    (h : connectAttemptOne maxEmptyReads id env address version s = (.leader p, s')) :
    s'.LeaderConn id p := by
  unfold connectAttemptOne at h
  split at h
  · cases h
  · rename_i peer _
    rcases ha : attemptOnConn maxEmptyReads env.codec id (Conn.fresh s.conns.length peer) address
      version (ConnRecord.fresh address) with ⟨o, r⟩
    rw [ha] at h
    cases h
    obtain ⟨hfd, hv, hsent, w, rfl⟩ := attemptOnConn_leader maxEmptyReads env.codec id ha
    exact ⟨⟨address, some address, some w, false⟩, by simp [hfd, Conn.fresh, ConnRecord.fresh],
      rfl, rfl, rfl, by rw [hsent, hv]; rfl⟩

end Attempt

end Cowsql
