import Cowsql.Protocol.Call

/-!
# Which failures stick

`Call` keeps the `*net.OpError` a failure carries, and from then on fails at once with it.
Nothing else consults or sets the cached error: `More` and `Interrupt` go to the connection
whatever failed before, and a failure that carries no `*net.OpError` (a short write, a stream
that stopped making progress) is not kept.

One operation keeps a cached error (`Op.run_netErr`), hence so does a run (`runOps_netErr`), and
so once a `Call` has failed with a network error every later `Call` fails with it without
touching the connection (`call_after_net_error`).  The samples at the end show that the other
operations and the other failures are not stopped.
-/

namespace Cowsql

open Conn

theorem Protocol.cache_netErr (p : Protocol) {e o : GoError} (h : e.netOpOf = some o) :
    (p.cache e).netErr = some o := by
  simp [Protocol.cache, h]

section Engine

/- `maxEmptyReads` stands for the constant `messageMaxConsecutiveEmptyReads`. -/
variable (maxEmptyReads : Nat)

/-- A `Call` that fails with an error carrying a network error leaves a cached error carrying
the same one. -/
theorem Protocol.call_caches (p : Protocol) (request response : Message) {e o : GoError}
    (hfail : (p.call maxEmptyReads request response).result = .error e)
    (ho : e.netOpOf = some o) :
    ∃ e', (p.call maxEmptyReads request response).protocol.netErr = some e' ∧
      e'.netOpOf = some o := by
  cases hne : p.netErr with
  | some e' =>
    rw [Protocol.call_of_netErr maxEmptyReads hne] at hfail ⊢
    cases hfail
    exact ⟨e, hne, ho⟩
  | none =>
    rcases hsend : send request p.conn with ⟨_ | ⟨⟩, c⟩
    · simp only [Protocol.call, hne, hsend] at hfail ⊢
      cases hfail
      exact ⟨o, Protocol.cache_netErr _ ho, GoError.netOpOf_of_netOpOf ho⟩
    · rcases hrecv : recv maxEmptyReads response c with ⟨_ | ⟨⟩, res, c'⟩
      · simp only [Protocol.call, hne, hsend, hrecv] at hfail ⊢
        cases hfail
        exact ⟨o, Protocol.cache_netErr _ ho, GoError.netOpOf_of_netOpOf ho⟩
      · simp [Protocol.call, hne, hsend, hrecv] at hfail

/-- **Step lemma.** Every operation keeps a cached error. -/
theorem Op.run_netErr (fuel : Nat) (p : Protocol) (o : Op) {e : GoError}
    (h : p.netErr = some e) {x : Exchange} (hx : o.run maxEmptyReads fuel p = some x) :
    x.protocol.netErr = some e := by
  cases o with
  | call request response =>
    cases hx
    rw [Protocol.call_of_netErr maxEmptyReads h]
    exact h
  | more response =>
    cases hx
    unfold Protocol.more
    split <;> exact h
  | interrupt request response =>
    simp only [Op.run, Protocol.interrupt] at hx
    split at hx
    · cases hx
      exact h
    · obtain ⟨_, -, rfl⟩ := Option.map_eq_some'.1 hx
      exact h

/-- **Run lemma.** A run of operations keeps a cached error. -/
theorem runOps_netErr (fuel : Nat) (p : Protocol) (ops : List Op) {e : GoError}
    (h : p.netErr = some e) {xs : List Exchange} {q : Protocol}
    (hrun : runOps maxEmptyReads fuel p ops = some (xs, q)) : q.netErr = some e := by
  induction ops generalizing p xs with
  | nil =>
    simp only [runOps, Option.some.injEq, Prod.mk.injEq] at hrun
    rw [← hrun.2]
    exact h
  | cons o os ih =>
    simp only [runOps] at hrun
    split at hrun
    · cases hrun
    · rename_i x hx
      obtain ⟨⟨xs', q'⟩, h', heq⟩ := Option.map_eq_some'.1 hrun
      cases heq
      exact ih x.protocol (Op.run_netErr maxEmptyReads fuel p o h hx) h'

/-- Once a `Call` has failed with an error carrying a network error, every `Call` after any run
of operations fails with an error carrying the same one, receives nothing, and leaves the
protocol, and so the connection, as it was. -/
theorem call_after_net_error (fuel : Nat) (p : Protocol) (request response : Message)
    {e o : GoError} (hfail : (p.call maxEmptyReads request response).result = .error e)
    (ho : e.netOpOf = some o) (ops : List Op) {xs : List Exchange} {q : Protocol}
    (hrun : runOps maxEmptyReads fuel (p.call maxEmptyReads request response).protocol ops =
      some (xs, q))
    (request' response' : Message) :
    ∃ e', q.call maxEmptyReads request' response' = ⟨.error e', response', [], q⟩ ∧
      e'.netOpOf = some o := by
  obtain ⟨e', hc, he'⟩ := Protocol.call_caches maxEmptyReads p request response hfail ho
  exact ⟨e', Protocol.call_of_netErr maxEmptyReads
    (runOps_netErr maxEmptyReads fuel _ ops hc hrun) _ _, he'⟩

/-- A `Call` whose request goes out whole and whose first response read fails fails with that
error, having written the whole request. -/
theorem Protocol.call_of_read_fail (p : Protocol) (request response : Message) (e : GoError)
    (hM : 0 < maxEmptyReads) (hn : p.netErr = none) (hw : ∀ k, p.conn.peer.writeStep k = .all)
    (hr : p.conn.peer.readStep p.conn.reads = .fail e) :
    (p.call maxEmptyReads request response).result =
        .error (.wrap ("call " ++ requestDesc request.mtype ++ ": receive") (.wrap "header" e)) ∧
      (p.call maxEmptyReads request response).protocol.conn.sent =
        p.conn.sent ++ request.frameBytes := by
  let c : Conn :=
    { p.conn with writes := p.conn.writes + 2, sent := p.conn.sent ++ request.frameBytes }
  have hs : send request p.conn = (.ok (), c) := send_of_writes_all request p.conn hw
  have hrv := recv_of_read_fail maxEmptyReads response c e hM hr
  obtain ⟨k, r, hk⟩ := recv_readOnly maxEmptyReads response c
  rcases hrecv : recv maxEmptyReads response c with ⟨res, m, c'⟩
  rw [hrecv] at hrv hk
  cases hrv
  dsimp only at hk
  subst hk
  simp [Protocol.call, hn, hs, hrecv, Conn.advance, Protocol.cache_conn, c]

end Engine

/-- A peer whose every read fails with a network error and which takes every write whole. -/
def readFailPeer : Peer := ⟨fun _ => 0, fun _ => .fail (.netOp false), fun _ => .all⟩

/-- A fresh protocol on `readFailPeer`. -/
def readFailProtocol : Protocol := newProtocol 1 (Conn.fresh 0 readFailPeer)

theorem call_after_net_error_sample :
    (readFailProtocol.call 1 sampleMessage.encodeLeader sampleMessage).result =
        .error (.wrap "call leader: receive" (.wrap "header" (.netOp false))) ∧
      GoError.netOpOf (.wrap "call leader: receive" (.wrap "header" (.netOp false))) =
        some (.netOp false) ∧
      ∃ xs q, runOps 1 1 (readFailProtocol.call 1 sampleMessage.encodeLeader sampleMessage).protocol
          [.more sampleMessage] = some (xs, q) ∧
        ∃ e', q.call 1 sampleMessage.encodeLeader sampleMessage =
          ⟨.error e', sampleMessage, [], q⟩ ∧ e'.netOpOf = some (.netOp false) := by
  have hfail : (readFailProtocol.call 1 sampleMessage.encodeLeader sampleMessage).result =
      .error (.wrap "call leader: receive" (.wrap "header" (.netOp false))) := rfl
  have ho : GoError.netOpOf (.wrap "call leader: receive" (.wrap "header" (.netOp false))) =
      some (.netOp false) := rfl
  obtain ⟨xs, q, hrun⟩ : ∃ xs q, runOps 1 1
      (readFailProtocol.call 1 sampleMessage.encodeLeader sampleMessage).protocol
      [.more sampleMessage] = some (xs, q) := ⟨_, _, rfl⟩
  exact ⟨hfail, ho, xs, q, hrun, call_after_net_error 1 1 readFailProtocol _ _ hfail ho _ hrun
    sampleMessage.encodeLeader sampleMessage⟩

/-- A peer that takes three bytes of the first write and every later write whole, and sends
zeros. -/
def shortWritePeer : Peer :=
  ⟨fun _ => 0, fun _ => .data 4096, fun k => if k = 0 then .part 3 else .all⟩

/-- A fresh protocol on `shortWritePeer`. -/
def shortWriteProtocol : Protocol := newProtocol 1 (Conn.fresh 0 shortWritePeer)

/-- Neither kind of failure sticks.  After a `Call` fails with a network error, `More` reads
the connection again; after a `Call` fails having written three bytes of its request, the next
`Call` writes a whole request after them and succeeds. -/
theorem failures_not_sticky :
    (readFailProtocol.call 1 sampleMessage.encodeLeader sampleMessage).result =
        .error (.wrap "call leader: receive" (.wrap "header" (.netOp false))) ∧
      (((readFailProtocol.call 1 sampleMessage.encodeLeader sampleMessage).protocol.more 1
        sampleMessage).protocol.conn.reads = 2) ∧
      (shortWriteProtocol.call 1 sampleMessage.encodeLeader sampleMessage).result =
        .error (.wrap "call leader: send" (.wrap "header" .shortWrite)) ∧
      (shortWriteProtocol.call 1 sampleMessage.encodeLeader sampleMessage).protocol.conn.sent =
        sampleMessage.encodeLeader.frameBytes.take 3 ∧
      ((shortWriteProtocol.call 1 sampleMessage.encodeLeader sampleMessage).protocol.call 1
        sampleMessage.encodeLeader sampleMessage).result = .ok () ∧
      ((shortWriteProtocol.call 1 sampleMessage.encodeLeader sampleMessage).protocol.call 1
        sampleMessage.encodeLeader sampleMessage).protocol.conn.sent =
        sampleMessage.encodeLeader.frameBytes.take 3 ++ sampleMessage.encodeLeader.frameBytes :=
  ⟨rfl, rfl, rfl, rfl, rfl, rfl⟩

end Cowsql
