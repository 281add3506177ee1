import Cowsql.Connector.Attempt

/-!
# One pass over the candidates

`connectAttemptAll` of `request.go`: read the node store, sort the servers by role, and try each
in turn with `connectAttemptOne`, falling back to the legacy protocol after `errBadProtocol` and
following one redirect to a reported leader, until a call finds the leader.

The pass is written over any `attemptOne` and any state, so that what it does holds whatever
each call reports; what it did is read off the calls as the state records them, and for the
connector that record is `Net.attempts`, which `connectAttemptOne` writes.  `PassSpec` says what
a pass does in the terms of the specification.  `sort.Slice` is not stable, so the sort is a
parameter (`RoleSort`) with what every sort by role gives.
-/

namespace Cowsql

/-- `sort.Slice(servers, func(i, j int) bool { return servers[i].Role < servers[j].Role })`:
some sort of the servers by role. -/
structure RoleSort where
  sort : List NodeInfo → List NodeInfo
  perm : ∀ l, (sort l).Perm l
  sorted : ∀ l, (sort l).Pairwise fun a b => a.role ≤ b.role

/-- Servers ordered by role. -/
def NodeInfo.RoleLE (a b : NodeInfo) : Prop := a.role ≤ b.role

instance : DecidableRel NodeInfo.RoleLE := fun a b => inferInstanceAs (Decidable (a.role ≤ b.role))

instance : IsTotal NodeInfo NodeInfo.RoleLE := ⟨fun a b => Int.le_total a.role b.role⟩

instance : IsTrans NodeInfo NodeInfo.RoleLE := ⟨fun _ _ _ => Int.le_trans⟩

/-- Sorting by role with `List.insertionSort`, one of the sorts `sort.Slice` may stand for. -/
def roleInsertionSort : RoleSort where
  sort := List.insertionSort NodeInfo.RoleLE
  perm := List.perm_insertionSort NodeInfo.RoleLE
  sorted := List.sorted_insertionSort NodeInfo.RoleLE

section Pass

variable {σ : Type} (attemptOne : String → UInt64 → σ → Attempt × σ)

/-- The first call for a server at `VersionOne`, and after `errBadProtocol` a second at
`VersionLegacy`: the version last used, its outcome, and the state. -/
def firstCalls (address : String) (s : σ) : UInt64 × Attempt × σ :=
  match attemptOne address versionOne s with
  | (.fail .badProtocol, s) =>
    match attemptOne address versionLegacy s with
    | (o, s) => (versionLegacy, o, s)
  | (o, s) => (versionOne, o, s)

/-- The rest of the loop body, given the version last used and its outcome: return the
protocol of a leader; after a redirect, one call to the leader named, at that version. -/
def followLeader (version : UInt64) (o : Attempt) (s : σ) : Option Protocol × σ :=
  match o with
  | .fail _ => (none, s)
  | .noLeader => (none, s)
  | .leader p => (some p, s)
  | .redirect leader =>
    match attemptOne leader version s with
    | (.leader p, s) => (some p, s)
    | (_, s) => (none, s)

/-- The body of the loop of `connectAttemptAll`, for one server: the protocol it returns, if
any (`none` where the loop goes on to the next server), and the state. -/
def attemptCandidate (server : NodeInfo) (s : σ) : Option Protocol × σ :=
  match firstCalls attemptOne server.address s with
  | (version, o, s) => followLeader attemptOne version o s

/-- The loop of `connectAttemptAll` over the sorted servers. -/
def attemptServers : List NodeInfo → σ → Except GoError Protocol × σ
  | [], s => (.error .noAvailableLeader, s)
  | server :: servers, s =>
    match attemptCandidate attemptOne server s with
    | (some p, s) => (.ok p, s)
    | (none, s) => attemptServers servers s

/-- `connectAttemptAll`: read the store, then try the servers sorted by role. -/
def connectAttemptAll (get : σ → Except GoError (List NodeInfo) × σ) (roleSort : RoleSort)
    (s : σ) : Except GoError Protocol × σ :=
  match get s with
  | (.error e, s) => (.error (.wrap "get servers" e), s)
  | (.ok servers, s) => attemptServers attemptOne (roleSort.sort servers) s

end Pass

/-! ## What a pass does -/

/-- The calls for a candidate once its version `v` is settled and its call at `v` had outcome
`o`, and the protocol they end with: after a redirect, one call to the leader named, at `v`. -/
inductive AfterVersion (v : UInt64) : Attempt → List AttemptCall → Option Protocol → Prop
  | leader (p : Protocol) : AfterVersion v (.leader p) [] (some p)
  | fail (e : GoError) : AfterVersion v (.fail e) [] none
  | noLeader : AfterVersion v .noLeader [] none
  | redirectLeader (x : String) (p : Protocol) :
      AfterVersion v (.redirect x) [⟨x, v, .leader p⟩] (some p)
  | redirectOther (x : String) (o : Attempt) (h : ∀ p, o ≠ .leader p) :
      AfterVersion v (.redirect x) [⟨x, v, o⟩] none

/-- The calls for the candidate at address `a`: the candidate at `VersionOne`, again at
`VersionLegacy` only after `errBadProtocol`, then as `AfterVersion` says. -/
inductive CandidateSpec (a : String) : List AttemptCall → Option Protocol → Prop
  | one {o : Attempt} {calls : List AttemptCall} {r : Option Protocol}
      (hbad : o ≠ .fail .badProtocol) (h : AfterVersion versionOne o calls r) :
      CandidateSpec a (⟨a, versionOne, o⟩ :: calls) r
  | legacy {o : Attempt} {calls : List AttemptCall} {r : Option Protocol}
      (h : AfterVersion versionLegacy o calls r) :
      CandidateSpec a (⟨a, versionOne, .fail .badProtocol⟩ :: ⟨a, versionLegacy, o⟩ :: calls) r

/-- A pass over `servers` in their order: each candidate's calls, until a candidate's calls end
with a protocol, which the pass returns; `ErrNoAvailableLeader` when none does. -/
inductive PassSpec : List NodeInfo → List AttemptCall → Except GoError Protocol → Prop
  | exhausted : PassSpec [] [] (.error .noAvailableLeader)
  | found {server : NodeInfo} {servers : List NodeInfo} {calls : List AttemptCall}
      {p : Protocol} (h : CandidateSpec server.address calls (some p)) :
      PassSpec (server :: servers) calls (.ok p)
  | next {server : NodeInfo} {servers : List NodeInfo} {calls calls' : List AttemptCall}
      {r : Except GoError Protocol} (h : CandidateSpec server.address calls none)
      (h' : PassSpec servers calls' r) :
      PassSpec (server :: servers) (calls ++ calls') r

theorem AfterVersion.length_le {v : UInt64} {o : Attempt} {calls : List AttemptCall}
    {r : Option Protocol} (h : AfterVersion v o calls r) : calls.length ≤ 1 := by
  cases h <;> simp

/-- A candidate gets at most three calls. -/
theorem CandidateSpec.length_le {a : String} {calls : List AttemptCall} {r : Option Protocol}
    (h : CandidateSpec a calls r) : calls.length ≤ 3 := by
  cases h with
  | one _ h => simpa using h.length_le.trans (by omega)
  | legacy h => simpa using h.length_le

/-- A pass makes at most three calls per candidate. -/
theorem PassSpec.length_le {servers : List NodeInfo} {calls : List AttemptCall}
    {r : Except GoError Protocol} (h : PassSpec servers calls r) :
    calls.length ≤ 3 * servers.length := by
  induction h with
  | exhausted => simp
  | found h => have := h.length_le; simp only [List.length_cons]; omega
  | next h _ ih => have := h.length_le; simp only [List.length_append, List.length_cons]; omega

section Trace

/- `trace s` is the calls of `attemptOne` the state `s` records, each recorded by the call
itself. -/
variable {σ : Type} (attemptOne : String → UInt64 → σ → Attempt × σ)
  (trace : σ → List AttemptCall)
  (hrec : ∀ a v s, trace (attemptOne a v s).2 = trace s ++ [⟨a, v, (attemptOne a v s).1⟩])

include hrec in
/-- The first calls are the call at `VersionOne`, or that call failing with `errBadProtocol`
and the call at `VersionLegacy`. -/
theorem firstCalls_cases {address : String} {s s' : σ} {v : UInt64} {o : Attempt}
    (h : firstCalls attemptOne address s = (v, o, s')) :
    (v = versionOne ∧ o ≠ .fail .badProtocol ∧ trace s' = trace s ++ [⟨address, versionOne, o⟩]) ∨
      (v = versionLegacy ∧ trace s' =
        trace s ++ [⟨address, versionOne, .fail .badProtocol⟩, ⟨address, versionLegacy, o⟩]) := by
  have t₁ := hrec address versionOne s
  unfold firstCalls at h
  split at h
  · rename_i s₁ heq
    have t₂ := hrec address versionLegacy s₁
    rcases h₂ : attemptOne address versionLegacy s₁ with ⟨o₂, s₂⟩
    rw [h₂] at h t₂
    cases h
    rw [heq] at t₁
    exact .inr ⟨rfl, by rw [t₂, t₁, List.append_assoc]; rfl⟩
  · rename_i hbad heq
    cases h
    rw [heq] at t₁
    exact .inl ⟨rfl, hbad, t₁⟩

include hrec in
theorem followLeader_spec (v : UInt64) (o : Attempt) (s : σ) :
    ∃ calls, trace (followLeader attemptOne v o s).2 = trace s ++ calls ∧
      AfterVersion v o calls (followLeader attemptOne v o s).1 := by
  cases o with
  | fail e => exact ⟨[], by simp [followLeader], .fail e⟩
  | noLeader => exact ⟨[], by simp [followLeader], .noLeader⟩
  | leader p => exact ⟨[], by simp [followLeader], .leader p⟩
  | redirect x =>
    have t := hrec x v s
    dsimp only [followLeader]
    split
    · rename_i heq
      rw [heq] at t
      exact ⟨_, t, .redirectLeader x _⟩
    · rename_i hother heq
      rw [heq] at t
      exact ⟨_, t, .redirectOther x _ hother⟩

include hrec in
/-- **Step lemma.** The calls for one server are those `CandidateSpec` allows. -/
theorem attemptCandidate_spec (server : NodeInfo) (s : σ) :
    ∃ calls, trace (attemptCandidate attemptOne server s).2 = trace s ++ calls ∧
      CandidateSpec server.address calls (attemptCandidate attemptOne server s).1 := by
  unfold attemptCandidate
  rcases hfirst : firstCalls attemptOne server.address s with ⟨v, o, s₁⟩
  obtain ⟨calls, ht, htail⟩ := followLeader_spec attemptOne trace hrec v o s₁
  rcases firstCalls_cases attemptOne trace hrec hfirst with ⟨rfl, hbad, h₁⟩ | ⟨rfl, h₁⟩
  · exact ⟨_, by rw [ht, h₁, List.append_assoc]; rfl, .one hbad htail⟩
  · exact ⟨_, by rw [ht, h₁, List.append_assoc]; rfl, .legacy htail⟩

include hrec in
/-- **Run lemma.** The loop over the servers makes the calls `PassSpec` allows and returns what
it says. -/
theorem attemptServers_pass (servers : List NodeInfo) (s : σ) :
    ∃ calls, trace (attemptServers attemptOne servers s).2 = trace s ++ calls ∧
      PassSpec servers calls (attemptServers attemptOne servers s).1 := by
  induction servers generalizing s with
  | nil => exact ⟨[], by simp [attemptServers], .exhausted⟩
  | cons server servers ih =>
    obtain ⟨calls, ht, hc⟩ := attemptCandidate_spec attemptOne trace hrec server s
    unfold attemptServers
    split
    · rename_i heq
      rw [heq] at ht hc
      exact ⟨calls, ht, .found hc⟩
    · rename_i s₁ heq
      rw [heq] at ht hc
      obtain ⟨calls', ht', hp⟩ := ih s₁
      exact ⟨calls ++ calls', by rw [ht', ht, List.append_assoc], .next hc hp⟩

end Trace

/-! ## Where a protocol comes from -/

section Found

variable {σ : Type} (attemptOne : String → UInt64 → σ → Attempt × σ)

/- `G s p`: what holds of a protocol `p` that a call of `attemptOne` returned with the state
`s` after it. -/
variable (G : σ → Protocol → Prop)
  (hone : ∀ a v s p s', attemptOne a v s = (.leader p, s') → G s' p)

/-- The outcome the first calls end with is that of a call of `attemptOne`, with the state after
it. -/
theorem firstCalls_last {address : String} {s s' : σ} {v : UInt64} {o : Attempt}
    (h : firstCalls attemptOne address s = (v, o, s')) :
    ∃ a v' s₀, attemptOne a v' s₀ = (o, s') := by
  unfold firstCalls at h
  split at h
  · rename_i s₁ _
    rcases h₂ : attemptOne address versionLegacy s₁ with ⟨o₂, s₂⟩
    rw [h₂] at h
    cases h
    exact ⟨address, versionLegacy, s₁, h₂⟩
  · rename_i heq
    cases h
    exact ⟨_, _, _, heq⟩

include hone in
/-- A protocol the loop body returns is the outcome of a call of `attemptOne`, returned at
once. -/
theorem attemptCandidate_some {server : NodeInfo} {s s' : σ} {p : Protocol}
    (h : attemptCandidate attemptOne server s = (some p, s')) : G s' p := by
  unfold attemptCandidate at h
  rcases hf : firstCalls attemptOne server.address s with ⟨v, o, s₁⟩
  obtain ⟨a, v', s₀, hlast⟩ := firstCalls_last attemptOne hf
  rw [hf] at h
  cases o with
  | fail e => cases h
  | noLeader => cases h
  | leader q =>
    cases h
    exact hone _ _ _ _ _ hlast
  | redirect x =>
    dsimp only [followLeader] at h
    split at h
    · cases h
      exact hone _ _ _ _ _ ‹_›
    · cases h

include hone in
/-- A protocol a pass returns is the outcome of a call of `attemptOne`, returned at once. -/
theorem attemptServers_ok (servers : List NodeInfo) {s s' : σ} {p : Protocol}
    (h : attemptServers attemptOne servers s = (.ok p, s')) : G s' p := by
  induction servers generalizing s with
  | nil => cases h
  | cons server servers ih =>
    unfold attemptServers at h
    split at h
    · cases h
      exact attemptCandidate_some attemptOne G hone ‹_›
    · exact ih h

end Found

/-! ## The connector's pass -/

/-- A read of the node store. -/
def Net.storeGet (env : Env) (s : Net) : Except GoError (List NodeInfo) × Net :=
  (env.get s.gets, { s with gets := s.gets + 1 })

section Connector

/- `maxEmptyReads` stands for `messageMaxConsecutiveEmptyReads` and `id` for the connector's
client id. -/
variable (maxEmptyReads : Nat) (id : UInt64)

/-- One pass of the connector over the servers the store returned tries them in an order that
is non-decreasing by role: as `connectAttemptOne` records its calls, each candidate at
`VersionOne`, again at `VersionLegacy` only after `errBadProtocol`, and after a redirect once
more at the leader named, at the version last used, so at most three calls per candidate; it
returns the protocol of the first call that finds the leader, or `ErrNoAvailableLeader`. -/
theorem connectAttemptAll_pass (env : Env) (roleSort : RoleSort) {s : Net}
    {servers : List NodeInfo} (hget : env.get s.gets = .ok servers) :
    ∃ order calls, order.Perm servers ∧ order.Pairwise (fun a b => a.role ≤ b.role) ∧
      (connectAttemptAll (connectAttemptOne maxEmptyReads id env) (Net.storeGet env)
          roleSort s).2.attempts = s.attempts ++ calls ∧
      calls.length ≤ 3 * servers.length ∧
      PassSpec order calls
        (connectAttemptAll (connectAttemptOne maxEmptyReads id env) (Net.storeGet env)
          roleSort s).1 := by
  obtain ⟨calls, ht, hp⟩ := attemptServers_pass (connectAttemptOne maxEmptyReads id env)
    Net.attempts (connectAttemptOne_attempts maxEmptyReads id env) (roleSort.sort servers)
    { s with gets := s.gets + 1 }
  refine ⟨roleSort.sort servers, calls, roleSort.perm servers, roleSort.sorted servers, ?_, ?_, ?_⟩
  · simpa only [connectAttemptAll, Net.storeGet, hget] using ht
  · simpa only [(roleSort.perm servers).length_eq] using hp.length_le
  · simpa only [connectAttemptAll, Net.storeGet, hget] using hp

end Connector

/-- Two servers, a spare listed before a voter. -/
def sampleServers : List NodeInfo := [⟨1, "spare", 2⟩, ⟨2, "voter", 0⟩]

/-- A store listing `sampleServers`, and a dialer that reaches no one. -/
def unreachableEnv : Env :=
  ⟨fun _ => .ok sampleServers, fun _ _ => .error (.text "connection refused"), simpleCodec⟩

theorem connectAttemptAll_pass_sample :
    ∃ order calls, order.Perm sampleServers ∧ order.Pairwise (fun a b => a.role ≤ b.role) ∧
      (connectAttemptAll (connectAttemptOne 1 0 unreachableEnv) (Net.storeGet unreachableEnv)
          roleInsertionSort Net.init).2.attempts = Net.init.attempts ++ calls ∧
      calls.length ≤ 3 * sampleServers.length ∧
      PassSpec order calls
        (connectAttemptAll (connectAttemptOne 1 0 unreachableEnv) (Net.storeGet unreachableEnv)
          roleInsertionSort Net.init).1 :=
  connectAttemptAll_pass 1 0 unreachableEnv roleInsertionSort rfl

end Cowsql
