import Cowsql.Connector.Pass

/-!
# Finding the leader

`Connector.Connect` of `request.go`: run passes over the candidates under `retry.Retry` with the
strategies of `makeRetryStrategies`, each attempt first looking whether the context is done,
then check the context once more and return the protocol found.

The context is a `Ctx`: whether it has expired at each look `Connect` takes at it, the looks
being counted by `Net.clock`; the deadlines it sets on dials and I/O are the peers' business.
A loop that ends without error either holds the protocol of a pass or has seen the context
done, and a context once done stays done; so `Connect` returns a protocol that is
`Net.LeaderConn`, on an open connection to a peer that named the dialed address as leader and
answered the client request it was sent, or `ErrNoAvailableLeader`.  With a positive retry limit
it returns within `limit + 2` rounds; it does not close the protocol of a pass when the context
expires right after that pass.
-/

namespace Cowsql

/-- A `context.Context` as `Connect` looks at it: whether it has expired at each look, in
order.  Once expired it stays so. -/
structure Ctx where
  expired : Nat → Bool
  mono : ∀ i j, i ≤ j → expired i = true → expired j = true

/-- The fields of `Config` that the modelled code reads; the dial function is the
environment's, and the timeouts only bound what the peers do. -/
structure Config where
  backoffFactor : Duration
  backoffCap : Duration
  retryLimit : GoUint

/-- The defaults `NewConnector` fills in: a backoff factor of 100 ms and a cap of one second. -/
def Config.withDefaults (c : Config) : Config :=
  { c with
    backoffFactor := if c.backoffFactor = 0 then 100000000#64 else c.backoffFactor
    backoffCap := if c.backoffCap = 0 then 1000000000#64 else c.backoffCap }

/-- How `Connect` ends: with a protocol, with an error, or with the panic `"no protocol
object"`. -/
inductive ConnectResult where
  | ok (p : Protocol)
  | error (err : GoError)
  | panic (msg : String)

/-- A sleep of the retry loop. -/
def Net.sleep (d : Duration) (s : Net) : Net := { s with slept := s.slept ++ [d] }

section Connect

/- `maxEmptyReads` stands for `messageMaxConsecutiveEmptyReads` and `id` for the connector's
client id; the sort of `connectAttemptAll` is `roleSort`. -/
variable (maxEmptyReads : Nat) (id : UInt64) (env : Env) (ctx : Ctx) (roleSort : RoleSort)

/-- The closure `Connect` retries: stop when the context is done, otherwise make a pass and keep
its protocol.  The attempt number only goes into log messages. -/
def connectAction (_attempt : GoUint) (st : Net × Option Protocol) :
    Option GoError × (Net × Option Protocol) :=
  let s := { st.1 with clock := st.1.clock + 1 }
  if ctx.expired st.1.clock then (none, (s, st.2))
  else
    match connectAttemptAll (connectAttemptOne maxEmptyReads id env) (Net.storeGet env) roleSort
        s with
    | (.ok p, s) => (none, (s, some p))
    | (.error e, s) => (some e, (s, none))

/-- `Connect`, its retry loop run for at most `fuel` rounds. -/
def connect (config : Config) (fuel : Nat) : Option (ConnectResult × Net) :=
  let strategies := makeRetryStrategies config.backoffFactor config.backoffCap config.retryLimit
  match retry strategies (fun d st => (st.1.sleep d, st.2))
      (connectAction maxEmptyReads id env ctx roleSort) fuel (Net.init, none) with
  | none => none
  | some (some _, s, _) => some (.error .noAvailableLeader, s)
  | some (none, s, protocol) =>
    if ctx.expired s.clock then some (.error .noAvailableLeader, { s with clock := s.clock + 1 })
    else
      match protocol with
      | none => some (.panic "no protocol object", s)
      | some p => some (.ok p, s)

/-- The protocol `Connect`'s loop holds is on a connection to a leader. -/
def HoldsLeader (st : Net × Option Protocol) : Prop := ∀ p, st.2 = some p → st.1.LeaderConn id p

/-- What `Connect`'s loop keeps: it holds a protocol to a leader, if any, and when the last
attempt returned no error it holds one or has seen the context done. -/
def ConnectInv (err : Option GoError) (st : Net × Option Protocol) : Prop :=
  HoldsLeader id st ∧ (err = none → st.2.isSome ∨ ∃ k < st.1.clock, ctx.expired k = true)

/-- A pass that returns a protocol returns one on a connection to a leader. -/
theorem connectAttemptAll_leaderConn {s s' : Net} {p : Protocol}
    (h : connectAttemptAll (connectAttemptOne maxEmptyReads id env) (Net.storeGet env) roleSort
      s = (.ok p, s')) : s'.LeaderConn id p := by
  unfold connectAttemptAll at h
  split at h
  · cases h
  · exact attemptServers_ok _ (fun s p => s.LeaderConn id p)
      (fun _ _ _ _ _ h => connectAttemptOne_leader maxEmptyReads id h) _ h

/-- **Step lemma.** The closure establishes the invariant from any state whose protocol, if
any, is on a connection to a leader. -/
theorem connectAction_inv (attempt : GoUint) {st : Net × Option Protocol}
    (h : HoldsLeader id st) :
    ConnectInv id ctx (connectAction maxEmptyReads id env ctx roleSort attempt st).1
      (connectAction maxEmptyReads id env ctx roleSort attempt st).2 := by
  unfold connectAction
  dsimp only
  split
  · exact ⟨fun p hp => h p hp, fun _ => .inr ⟨st.1.clock, by simp, ‹_›⟩⟩
  · rcases hpass : connectAttemptAll (connectAttemptOne maxEmptyReads id env) (Net.storeGet env)
      roleSort { st.1 with clock := st.1.clock + 1 } with ⟨_ | p, s'⟩
    · exact ⟨fun _ hq => (by cases hq), fun hn => (by cases hn)⟩
    · refine ⟨fun q hq => ?_, fun _ => .inl rfl⟩
      cases hq
      exact connectAttemptAll_leaderConn maxEmptyReads id env roleSort hpass

/-- **Run lemma.** When `Connect`'s retry loop ends, the protocol it holds, if any, is on a
connection to a leader, and when the last attempt returned no error it holds one or has seen the
context done. -/
theorem connect_loop_inv (config : Config) (fuel : Nat) {err : Option GoError}
    {st : Net × Option Protocol}
    (h : retry (makeRetryStrategies config.backoffFactor config.backoffCap config.retryLimit)
      (fun d st => (st.1.sleep d, st.2)) (connectAction maxEmptyReads id env ctx roleSort) fuel
      (Net.init, none) = some (err, st)) :
    ConnectInv id ctx err st := by
  cases fuel with
  | zero => simp [retry, retryLoop] at h
  | succ fuel =>
    have h0 : shouldAttempt 0 (makeRetryStrategies config.backoffFactor config.backoffCap
        config.retryLimit) = (true, []) := by
      have hle : (0 : GoUint) ≤ config.retryLimit := by bv_omega
      rw [shouldAttempt_makeRetryStrategies, if_pos (.inr hle), if_neg (by simp)]
    rw [retry_succ _ _ _ h0] at h
    have hinit : HoldsLeader id ((Net.init, none) : Net × Option Protocol) := by
      simp [HoldsLeader]
    exact retryLoop_inv _ (fun d st => (st.1.sleep d, st.2)) _ (ConnectInv id ctx)
      (fun _ _ _ hP => ⟨fun p hp => hP.1 p hp, hP.2⟩)
      (fun a _ _ hP => connectAction_inv maxEmptyReads id env ctx roleSort a hP.1)
      _ _ _ _ _ (connectAction_inv maxEmptyReads id env ctx roleSort 0 hinit) h

/-- `Connect` returns a protocol on a connection it dialed to an address whose peer named that
same address as leader and welcomed the client, a connection still open; or it returns
`ErrNoAvailableLeader`.  It never panics. -/
theorem connect_result (config : Config) (fuel : Nat) {r : ConnectResult} {s : Net}
    (h : connect maxEmptyReads id env ctx roleSort config fuel = some (r, s)) :
    (∃ p, r = .ok p ∧ s.LeaderConn id p) ∨ r = .error .noAvailableLeader := by
  unfold connect at h
  dsimp only at h
  split at h
  · cases h
  · cases h
    exact .inr rfl
  · rename_i s₁ protocol hloop
    have hinv := connect_loop_inv maxEmptyReads id env ctx roleSort config fuel hloop
    split at h
    · cases h
      exact .inr rfl
    · rename_i hlive
      rcases hinv.2 rfl with hsome | ⟨k, hk, hexp⟩
      · obtain ⟨p, rfl⟩ := Option.isSome_iff_exists.1 hsome
        cases h
        exact .inl ⟨p, rfl, hinv.1 p rfl⟩
      · exact absurd (ctx.mono k s₁.clock (Nat.le_of_lt hk) hexp) hlive

end Connect

/-! ## A one-node cluster -/

/-- A node that answers the Leader request naming itself, `"node"`, and welcomes the client. -/
def leaderPeer : Peer :=
  let frames : List Frame :=
    [⟨2, 1, 0, 0, leBytes 8 1 ++ [110, 111, 100, 101, 0, 0, 0, 0]⟩, ⟨1, 2, 0, 0, leBytes 8 15000⟩]
  ⟨fun i => (framesBytes frames).getD i 0, fun _ => .data 4096, fun _ => .all⟩

/-- A store listing the one node, which every dial reaches. -/
def oneNodeEnv : Env := ⟨fun _ => .ok [⟨1, "node", 0⟩], fun _ _ => .ok leaderPeer, simpleCodec⟩

/-- `NewConnector`'s default backoff, with no retry limit. -/
def defaultConfig : Config := Config.withDefaults ⟨0, 0, 0⟩

/-- A context that never expires. -/
def liveCtx : Ctx := ⟨fun _ => false, fun _ _ _ h => h⟩

/-- A context that expires after its first look. -/
def lateCtx : Ctx := ⟨fun k => decide (1 ≤ k), fun i j hij h => by simp at h ⊢; omega⟩

set_option maxRecDepth 100000 in
theorem connect_result_sample :
    ∃ r s, connect 1 0 oneNodeEnv liveCtx roleInsertionSort defaultConfig 2 = some (r, s) ∧
      ((∃ p, r = .ok p ∧ s.LeaderConn 0 p) ∨ r = .error .noAvailableLeader) := by
  obtain ⟨⟨r, s⟩, h⟩ := Option.isSome_iff_exists.1
    (by decide : (connect 1 0 oneNodeEnv liveCtx roleInsertionSort defaultConfig 2).isSome = true)
  exact ⟨r, s, h, connect_result 1 0 oneNodeEnv liveCtx roleInsertionSort defaultConfig 2 h⟩

set_option maxRecDepth 100000 in
/-- When the context expires right after a pass that found the leader, `Connect` returns
`ErrNoAvailableLeader` and leaves that pass's connection open. -/
theorem connect_leaks_on_late_expiry :
    ∃ s, connect 1 0 oneNodeEnv lateCtx roleInsertionSort defaultConfig 2 =
        some (.error .noAvailableLeader, s) ∧
      s.conns = [⟨"node", some "node", some 15000, false⟩] :=
  ⟨_, rfl, rfl⟩

/-! ## Bounded retries -/

section Bounded

/- The parameters of `Connect`, as above. -/
variable (maxEmptyReads : Nat) (id : UInt64) (env : Env) (ctx : Ctx) (roleSort : RoleSort)

/-- **Bounded retries.** With a retry limit that is positive and below the largest `uint`,
`Connect` has returned after `limit + 2` rounds of its retry loop, so after at most `limit + 1`
passes over the cluster, whatever the store, the peers and the context answer, and more rounds
change nothing.  A limit of zero, or the largest `uint`, which `makeRetryStrategies` bumps round
to zero, sets no bound. -/
theorem connect_within_limit (config : Config) (hpos : 0 < config.retryLimit.toNat)
    (hmax : config.retryLimit.toNat + 1 < 2 ^ 64) (fuel : Nat)
    (hfuel : config.retryLimit.toNat + 2 ≤ fuel) :
    (connect maxEmptyReads id env ctx roleSort config fuel).isSome ∧
      connect maxEmptyReads id env ctx roleSort config fuel =
        connect maxEmptyReads id env ctx roleSort config (config.retryLimit.toNat + 2) := by
  obtain ⟨⟨err, s, protocol⟩, hx⟩ := Option.isSome_iff_exists.1
    (retryLoop_makeRetryStrategies_isSome (fun d st => (st.1.sleep d, st.2))
      (connectAction maxEmptyReads id env ctx roleSort) config.backoffFactor config.backoffCap
      config.retryLimit hpos hmax (config.retryLimit.toNat + 2) 0 none (Net.init, none)
      (by simp) (by simp))
  have heq : connect maxEmptyReads id env ctx roleSort config fuel =
      connect maxEmptyReads id env ctx roleSort config (config.retryLimit.toNat + 2) := by
    simp only [connect, retry, hx, retryLoop_fuel_le _ _ _ hfuel hx]
  refine ⟨?_, heq⟩
  rw [heq, connect, retry, hx]
  cases err <;> dsimp only
  · split
    · rfl
    · split <;> rfl
  · rfl

end Bounded

/-- With one retry allowed, `Connect` to the one-node cluster returns within five rounds what
it returns within three. -/
theorem connect_within_limit_oneRetry :
    (0 < (1#64 : GoUint).toNat ∧ (1#64 : GoUint).toNat + 1 < 2 ^ 64 ∧
        (1#64 : GoUint).toNat + 2 ≤ 5) ∧
      (connect 1 0 oneNodeEnv liveCtx roleInsertionSort { defaultConfig with retryLimit := 1#64 }
          5).isSome ∧
      connect 1 0 oneNodeEnv liveCtx roleInsertionSort { defaultConfig with retryLimit := 1#64 } 5 =
        connect 1 0 oneNodeEnv liveCtx roleInsertionSort { defaultConfig with retryLimit := 1#64 }
          ((1#64 : GoUint).toNat + 2) :=
  ⟨⟨by decide, by decide, by decide⟩, connect_within_limit 1 0 oneNodeEnv liveCtx
    roleInsertionSort { defaultConfig with retryLimit := 1#64 } (by decide) (by decide) 5
    (by decide)⟩

end Cowsql
