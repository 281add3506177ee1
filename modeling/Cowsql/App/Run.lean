import Cowsql.App.Handover
import Cowsql.Client.Cluster

/-!
# The membership loop of an application node

`App.run`, the background task `New` starts, with `maybePromoteOurselves` and
`maybeAdjustRoles`.  Each round waits for its delay or for the context to be done; then it gets
a client connected to the leader, joins the cluster as a spare if the node is new, refreshes the
node store with the cluster's servers, lets the node assume a role until it is ready, and once
it leads adjusts the roles of the others.  Every `continue` closes the client of its round.

As for `Handover`, the cluster is an environment answering the `k`-th call of each kind, and so
are what `Assume`, `count` and `Adjust` of `roles.go`, not among the sources, return after the
`k`-th probe.  Errors that are only logged keep their message but not their cause's text.
Every state the loop reaches satisfies `RunInv`: the ready channel is closed once and in time,
every client is closed, and only a joining node adds itself, once, before any role is assigned.
-/

namespace Cowsql

/-- `time.Second`, in nanoseconds. -/
def second : Duration := 1000000000

/-- `client.Voter`. -/
def roleVoter : Int := 0

/-- The cluster and the machine as `run` sees them: the answer to the `k`-th call of each
kind. -/
structure RunEnv where
  /-- Whether `select` takes `<-ctx.Done()` in the `k`-th round. -/
  done : Nat → Bool
  /-- `a.Leader(ctx)`: a client connected to the leader, or an error. -/
  findLeader : Nat → Option GoError
  /-- `cli.Add(ctx, info)`. -/
  add : Nat → Option GoError
  /-- `fileRemove(a.dir, joinFile)`. -/
  removeJoin : Nat → Option GoError
  /-- `cli.Cluster(ctx)`. -/
  cluster : Nat → Except GoError (List NodeInfo)
  /-- `cli.Leader(ctx)`: the leader's info. -/
  leader : Nat → Except GoError NodeInfo
  /-- `cli.Assign(ctx, id, role)`. -/
  assign : Nat → Option GoError
  /-- `Assume(a.id)` of the `k`-th `makeRolesChanges`: the role to take, `-1` for none. -/
  assume : Nat → List NodeInfo → Int
  /-- `count(client.Voter, true)` of the `k`-th `makeRolesChanges`: the online voters. -/
  onlineVoters : Nat → List NodeInfo → Nat
  /-- The order in which `range` visits the nodes of the `k`-th `makeRolesChanges`'s map. -/
  order : Nat → List NodeInfo → List NodeInfo
  /-- `Adjust(a.id)` of the `k`-th `makeRolesChanges`: a role, `-1` for none, and the nodes to
  try it on. -/
  adjust : Nat → List NodeInfo → Int × List NodeInfo

/-- The loop's variables, the join file and the ready channel, and the calls made so far: how
many of each kind, and the nodes `Add` was called with, the ids and roles of `Assign` and the
server lists stored, in order. -/
structure RunState where
  join : Bool
  ready : Bool
  delay : Duration
  /-- Whether the join file is on disk. -/
  joinFile : Bool
  /-- How often `close(a.readyCh)` ran. -/
  readyCloses : Nat
  /-- Whether `run` returned. -/
  returned : Bool
  rounds : Nat
  leaders : Nat
  /-- The clients `a.Leader` handed out, and how often `cli.Close` ran. -/
  clients : Nat
  closed : Nat
  adds : List NodeInfo
  removes : Nat
  clusters : Nat
  stored : List (List NodeInfo)
  leaderQueries : Nat
  assigns : List (UInt64 × Int)
  probes : Nat
  deriving DecidableEq, Repr

/-- The loop as `New` starts it, with `join` exactly when the join file exists. -/
def RunState.init (join : Bool) : RunState :=
  ⟨join, false, 0, join, 0, false, 0, 0, 0, 0, [], 0, 0, [], 0, [], 0⟩

section Run

/- `id` and `address` are the node's, `frequency` is `RolesAdjustmentFrequency`. -/
variable (env : RunEnv) (id : UInt64) (address : String) (frequency : Duration)

/-- `a.Leader(ctx)`. -/
def RunState.findLeader (s : RunState) : Option GoError × RunState :=
  match env.findLeader s.leaders with
  | some e => (some e, { s with leaders := s.leaders + 1 })
  | none => (none, { s with leaders := s.leaders + 1, clients := s.clients + 1 })

/-- `cli.Close()`. -/
def RunState.closeClient (s : RunState) : RunState := { s with closed := s.closed + 1 }

/-- `cli.Add(ctx, info)`. -/
def RunState.add (s : RunState) (info : NodeInfo) : Option GoError × RunState :=
  (env.add s.adds.length, { s with adds := s.adds ++ [info] })

/-- `fileRemove(a.dir, joinFile)`; a failure is only logged. -/
def RunState.removeJoin (s : RunState) : RunState :=
  match env.removeJoin s.removes with
  | some _ => { s with removes := s.removes + 1 }
  | none => { s with removes := s.removes + 1, joinFile := false }

/-- `cli.Cluster(ctx)`. -/
def RunState.cluster (s : RunState) : Except GoError (List NodeInfo) × RunState :=
  (env.cluster s.clusters, { s with clusters := s.clusters + 1 })

/-- `cli.Leader(ctx)`. -/
def RunState.leader (s : RunState) : Except GoError NodeInfo × RunState :=
  (env.leader s.leaderQueries, { s with leaderQueries := s.leaderQueries + 1 })

/-- `cli.Assign(ctx, id, role)`. -/
def RunState.assign (s : RunState) (id : UInt64) (role : Int) : Option GoError × RunState :=
  (env.assign s.assigns.length, { s with assigns := s.assigns ++ [(id, role)] })

/-! ## Roles -/

/-- The loop over the nodes of `roles.State`: skip this node and the voters, and `Assign` the
voter role to the others in turn until one call succeeds.  Failures are only logged. -/
def promoteAnother : List NodeInfo → RunState → RunState
  | [], s => s
  | node :: rest, s =>
    if node.id = id ∨ node.role = roleVoter then promoteAnother rest s
    else
      match s.assign env node.id roleVoter with
      | (none, s) => s
      | (some _, s) => promoteAnother rest s

/-- `maybePromoteOurselves`: take the role `Assume` gives, if any; a voter that is then the only
online voter promotes one more node to voter. -/
def maybePromoteOurselves (nodes : List NodeInfo) (s : RunState) : Option GoError × RunState :=
  let k := s.probes
  let s := { s with probes := s.probes + 1 }
  let role := env.assume k nodes
  if role = -1 then (none, s)
  else
    match s.assign env id role with
    | (some _, s) => (some (.text ("assign " ++ roleString role ++ " role to ourselves")), s)
    | (none, s) =>
      if role = roleVoter ∧ env.onlineVoters k nodes = 1 then
        (none, promoteAnother env id (env.order k nodes) s)
      else (none, s)

/-- The loop over the nodes `Adjust` chose, the `i`-th of `n`: `Assign` the role to each in turn
until one call succeeds; when the last fails, fail. -/
def adjustLoop (role : Int) (n : Nat) : Nat → List NodeInfo → RunState → Option GoError × RunState
  | _, [], s => (none, s)
  | i, node :: rest, s =>
    match s.assign env node.id role with
    | (some _, s) =>
      if i = n - 1 then
        (some (.text ("could not assign role " ++ roleString role ++ " to any node")), s)
      else adjustLoop role n (i + 1) rest s
    | (none, s) => (none, s)

/-- `maybeAdjustRoles`, going through its label `again` at most `fuel` times: `none` when it had
not returned by then. -/
def maybeAdjustRoles : Nat → RunState → Option (Option GoError × RunState)
  | 0, _ => none
  | fuel + 1, s =>
    match s.leader env with
    | (.error e, s) => some (some e, s)
    | (.ok info, s) =>
      if info.id ≠ id then some (none, s)
      else
        match s.cluster env with
        | (.error e, s) => some (some e, s)
        | (.ok nodes, s) =>
          let k := s.probes
          let s := { s with probes := s.probes + 1 }
          let role := (env.adjust k nodes).1
          let candidates := (env.adjust k nodes).2
          if role = -1 then some (none, s)
          else
            match adjustLoop env role candidates.length 0 candidates s with
            | (some e, s) => some (some e, s)
            | (none, s) => maybeAdjustRoles fuel s

/-- Attempt to join the cluster if this is a brand new node: `.inl` when `Add` failed and the
round goes on to the next, `.inr` to go on with this one. -/
def joinCluster (s : RunState) : RunState ⊕ RunState :=
  if s.join then
    match s.add env ⟨id, address, roleSpare⟩ with
    | (some _, s) => .inl { s with delay := second }
    | (none, s) => .inr ({ s with join := false }.removeJoin env)
  else .inr s

/-- The end of a round whose node store was refreshed with `servers`: until the node is ready,
possibly promote it, and once ready adjust the roles; `none` when `maybeAdjustRoles` had not
returned after `fuel` passes. -/
def afterRefresh (fuel : Nat) (servers : List NodeInfo) (s : RunState) : Option RunState :=
  if s.ready then (maybeAdjustRoles env id fuel s).map fun r => r.2.closeClient
  else
    match maybePromoteOurselves env id servers s with
    | (some _, s) => some { s with delay := second }.closeClient
    | (none, s) =>
      some { s with ready := true, delay := frequency, readyCloses := s.readyCloses + 1 }.closeClient

/-- One round of `run`'s loop. -/
def runRound (fuel : Nat) (s : RunState) : Option RunState :=
  if env.done s.rounds then
    some { s with rounds := s.rounds + 1, returned := true,
                  readyCloses := if s.ready then s.readyCloses else s.readyCloses + 1 }
  else
    match { s with rounds := s.rounds + 1 }.findLeader env with
    | (some _, s) => some s
    | (none, s) =>
      match joinCluster env id address s with
      | .inl s => some s.closeClient
      | .inr s =>
        match s.cluster env with
        | (.error _, s) => some s.closeClient
        | (.ok [], s) => some s.closeClient
        | (.ok servers, s) =>
          afterRefresh env id frequency fuel servers { s with stored := s.stored ++ [servers] }

/-- `run` for at most `rounds` rounds of its loop, until it returns; `none` when a
`maybeAdjustRoles` had not returned after `fuel` passes. -/
def runLoop (fuel : Nat) : Nat → RunState → Option RunState
  | 0, s => some s
  | rounds + 1, s =>
    if s.returned then some s
    else (runRound env id address frequency fuel s).bind (runLoop fuel rounds)

/-! ## What the role functions change -/

/-- The calls of an `Assign` loop change only the `Assign` calls. -/
theorem promoteAnother_calls (nodes : List NodeInfo) (s : RunState) :
    ∃ as, promoteAnother env id nodes s = { s with assigns := as } := by
  induction nodes generalizing s with
  | nil => exact ⟨s.assigns, rfl⟩
  | cons node rest ih =>
    simp only [promoteAnother, RunState.assign]
    split
    · exact ih s
    · cases env.assign s.assigns.length
      · exact ⟨_, rfl⟩
      · obtain ⟨as, h⟩ := ih { s with assigns := s.assigns ++ [(node.id, roleVoter)] }
        exact ⟨as, h⟩

theorem adjustLoop_calls (role : Int) (n i : Nat) (nodes : List NodeInfo) (s : RunState) :
    ∃ as, (adjustLoop env role n i nodes s).2 = { s with assigns := as } := by
  induction nodes generalizing i s with
  | nil => exact ⟨s.assigns, rfl⟩
  | cons node rest ih =>
    simp only [adjustLoop, RunState.assign]
    cases env.assign s.assigns.length
    · exact ⟨_, rfl⟩
    · dsimp only
      split
      · exact ⟨_, rfl⟩
      · obtain ⟨as, h⟩ := ih (i + 1) { s with assigns := s.assigns ++ [(node.id, role)] }
        exact ⟨as, h⟩

/-- `maybePromoteOurselves` changes only the probes and the `Assign` calls. -/
theorem maybePromoteOurselves_calls (nodes : List NodeInfo) (s : RunState) :
    ∃ as pr, (maybePromoteOurselves env id nodes s).2 = { s with assigns := as, probes := pr } := by
  simp only [maybePromoteOurselves, RunState.assign]
  split
  · exact ⟨_, _, rfl⟩
  · cases env.assign s.assigns.length
    · dsimp only
      split
      · obtain ⟨as, h⟩ := promoteAnother_calls env id (env.order s.probes nodes)
          { s with probes := s.probes + 1, assigns := s.assigns ++ [(id, env.assume s.probes nodes)] }
        exact ⟨as, _, h⟩
      · exact ⟨_, _, rfl⟩
    · exact ⟨_, _, rfl⟩

/-- `maybeAdjustRoles` changes only the `Leader`, `Cluster` and `Assign` calls and the
probes. -/
theorem maybeAdjustRoles_spec (fuel : Nat) (s : RunState) {o : Option GoError} {s' : RunState}
    (h : maybeAdjustRoles env id fuel s = some (o, s')) :
    ∃ lq cl as pr,
      s' = { s with leaderQueries := lq, clusters := cl, assigns := as, probes := pr } := by
  induction fuel generalizing s with
  | zero => cases h
  | succ fuel ih =>
    simp only [maybeAdjustRoles, RunState.leader, RunState.cluster] at h
    cases hl : env.leader s.leaderQueries with
    | error e => simp only [hl] at h; cases h; exact ⟨_, _, _, _, rfl⟩
    | ok info =>
      simp only [hl] at h
      split at h
      · cases h; exact ⟨_, _, _, _, rfl⟩
      cases hc : env.cluster s.clusters with
      | error e => simp only [hc] at h; cases h; exact ⟨_, _, _, _, rfl⟩
      | ok nodes =>
        simp only [hc] at h
        split at h
        · cases h; exact ⟨_, _, _, _, rfl⟩
        obtain ⟨as, has⟩ := adjustLoop_calls env
          (env.adjust s.probes nodes).1 (env.adjust s.probes nodes).2.length 0
          (env.adjust s.probes nodes).2
          { s with leaderQueries := s.leaderQueries + 1, clusters := s.clusters + 1,
                   probes := s.probes + 1 }
        rcases hr : adjustLoop env (env.adjust s.probes nodes).1
          (env.adjust s.probes nodes).2.length 0 (env.adjust s.probes nodes).2
          { s with leaderQueries := s.leaderQueries + 1, clusters := s.clusters + 1,
                   probes := s.probes + 1 } with ⟨_ | e, s₁⟩
        all_goals rw [hr] at h has; dsimp only at h has; subst has
        · obtain ⟨lq, cl, as', pr, rfl⟩ := ih _ h
          exact ⟨lq, cl, as', pr, rfl⟩
        · cases h; exact ⟨_, _, _, _, rfl⟩

/-! ## The invariant of the loop -/

/-- What every state of the loop keeps, from a start with `join₀`. -/
structure RunInv (join₀ : Bool) (s : RunState) : Prop where
  /-- `a.readyCh` is closed once the node is ready or `run` returned, and never twice. -/
  readyCloses : s.readyCloses = if s.ready || s.returned then 1 else 0
  /-- Every client `a.Leader` handed out is closed. -/
  clients : s.closed = s.clients
  /-- Only a node started to join joins, and only it calls `Add`, for itself as a spare. -/
  join_start : s.join = true → join₀ = true
  adds_start : s.adds ≠ [] → join₀ = true
  adds_self : ∀ info ∈ s.adds, info = ⟨id, address, roleSpare⟩
  /-- Every `Add` failed but the last, which succeeded exactly when the node stopped joining. -/
  adds_ok : ∀ k < s.adds.length, env.add k = none ↔ s.join = false ∧ k + 1 = s.adds.length
  joined : join₀ = true → s.join = false → s.adds ≠ []
  /-- The join file is removed once, when the node stopped joining, and is gone only if that
  removal succeeded. -/
  removes : s.removes = if join₀ && !s.join then 1 else 0
  joinFile : s.joinFile = (join₀ && (s.join || (env.removeJoin 0).isSome))
  /-- A ready node has joined, stored servers and waits `frequency` between rounds. -/
  ready : s.ready = true → s.join = false ∧ s.stored ≠ [] ∧ s.delay = frequency
  /-- Every server list stored is non-empty. -/
  stored : ∀ l ∈ s.stored, l ≠ []
  /-- No role is assigned, to this node or to another, while the node is joining. -/
  assigned : s.join = true → s.assigns = []

variable {env id address frequency}

theorem RunInv.init (join₀ : Bool) :
    RunInv env id address frequency join₀ (RunState.init join₀) where
  readyCloses := rfl
  clients := rfl
  join_start h := h
  adds_start h := absurd rfl h
  adds_self _ h := absurd h (List.not_mem_nil _)
  adds_ok _ h := absurd h (Nat.not_lt_zero _)
  joined h h' := by simp_all [RunState.init]
  removes := by cases join₀ <;> rfl
  joinFile := by cases join₀ <;> rfl
  ready h := absurd h Bool.false_ne_true
  stored _ h := absurd h (List.not_mem_nil _)
  assigned _ := rfl

/-- The calls of the role functions, made once the node joined, keep the invariant. -/
theorem RunInv.withCalls {join₀ : Bool} {s : RunState}
    (h : RunInv env id address frequency join₀ s) (hj : s.join = false) (lq cl : Nat)
    (as : List (UInt64 × Int)) (pr : Nat) :
    RunInv env id address frequency join₀
      { s with leaderQueries := lq, clusters := cl, assigns := as, probes := pr } :=
  ⟨h.1, h.2, h.3, h.4, h.5, h.6, h.7, h.8, h.9, h.10, h.11,
    fun h' => absurd (hj.symm.trans h') Bool.false_ne_true⟩

/-- The counters of the calls whose answers only the roles use keep the invariant. -/
theorem RunInv.withCounts {join₀ : Bool} {s : RunState}
    (h : RunInv env id address frequency join₀ s) (r l cl lq pr : Nat) :
    RunInv env id address frequency join₀
      { s with rounds := r, leaders := l, clusters := cl, leaderQueries := lq, probes := pr } :=
  ⟨h.1, h.2, h.3, h.4, h.5, h.6, h.7, h.8, h.9, h.10, h.11, h.12⟩

/-! ### One round, stage by stage

In the middle of a round the loop holds a client it has not closed yet: a state `s` there
satisfies the invariant once that client is closed, `RunInv join₀ s.closeClient`. -/

/-- A round in which the context is done closes the ready channel if it was not closed. -/
theorem RunInv.done {join₀ : Bool} {s : RunState} (h : RunInv env id address frequency join₀ s)
    (hr : s.returned = false) :
    RunInv env id address frequency join₀
      { s with rounds := s.rounds + 1, returned := true,
               readyCloses := if s.ready then s.readyCloses else s.readyCloses + 1 } :=
  { h with
    readyCloses := by
      have := h.readyCloses
      cases hready : s.ready <;> simp_all }

/-- A client handed out by `a.Leader`, held. -/
theorem RunInv.takeClient {join₀ : Bool} {s : RunState}
    (h : RunInv env id address frequency join₀ s) :
    RunInv env id address frequency join₀
      { s with leaders := s.leaders + 1, clients := s.clients + 1 }.closeClient :=
  { h with clients := congrArg (· + 1) h.clients }

/-- A failed `Add` keeps the node joining. -/
theorem RunInv.addFailed {join₀ : Bool} {s : RunState}
    (h : RunInv env id address frequency join₀ s.closeClient) (hj : s.join = true)
    (hadd : env.add s.adds.length ≠ none) :
    RunInv env id address frequency join₀
      { s with adds := s.adds ++ [NodeInfo.mk id address roleSpare], delay := second }.closeClient :=
  { h with
    adds_start := fun _ => h.join_start hj
    adds_self := by
      simpa [RunState.closeClient, or_imp, forall_and] using h.adds_self
    adds_ok := fun k hk => by
      dsimp only [RunState.closeClient] at h hk ⊢
      rw [hj, List.length_append, List.length_singleton]
      rw [List.length_append, List.length_singleton] at hk
      rcases Nat.lt_succ_iff_lt_or_eq.1 hk with hk' | rfl
      · simpa [hj] using h.adds_ok k hk'
      · simpa using hadd
    joined := fun _ h' => absurd hj (by simpa [RunState.closeClient] using h')
    ready := fun h' => absurd hj (by simpa [RunState.closeClient] using (h.ready h').1) }

/-- A joining node is not ready and has not removed the join file. -/
theorem RunInv.joining {join₀ : Bool} {s : RunState}
    (h : RunInv env id address frequency join₀ s) (hj : s.join = true) :
    join₀ = true ∧ s.ready = false ∧ s.removes = 0 := by
  have hj₀ := h.join_start hj
  refine ⟨hj₀, ?_, by simpa [hj] using h.removes⟩
  cases hr : s.ready
  · rfl
  · exact absurd hj (by simp [(h.ready hr).1])

/-- A successful `Add` ends the joining; the join file is then removed, once. -/
theorem RunInv.addSucceeded {join₀ : Bool} {s : RunState}
    (h : RunInv env id address frequency join₀ s.closeClient) (hj : s.join = true)
    (hadd : env.add s.adds.length = none) :
    RunInv env id address frequency join₀
      ({ s with adds := s.adds ++ [NodeInfo.mk id address roleSpare], join := false }.removeJoin
        env).closeClient := by
  obtain ⟨hj₀, hready, hrem⟩ := h.joining hj
  have hok := h.adds_ok
  have hself := h.adds_self
  have hfile := h.joinFile
  simp only [RunState.closeClient, hj, Bool.true_eq_false, false_and, iff_false] at hok hself hfile
  simp only [RunState.closeClient] at hready hrem
  unfold RunState.removeJoin
  dsimp only
  rw [hrem]
  cases hr : env.removeJoin 0 <;> dsimp only [RunState.closeClient] <;>
  exact
    { h with
      join_start := fun h' => absurd h' Bool.false_ne_true
      adds_start := fun _ => hj₀
      adds_self := by simpa [or_imp, forall_and] using hself
      adds_ok := fun k hk => by
        simp only [List.length_append, List.length_singleton, true_and] at hk ⊢
        rcases Nat.lt_succ_iff_lt_or_eq.1 hk with hk' | rfl
        · simpa [Nat.ne_of_lt hk'] using hok k hk'
        · simpa using hadd
      joined := fun _ _ => by simp
      removes := by simp [hj₀]
      joinFile := by simp [hj₀, hr, hfile]
      ready := fun h' => absurd h' (by simp [hready])
      assigned := fun h' => absurd h' Bool.false_ne_true }

/-- An `Add` that failed ends the round with the invariant, the client held. -/
theorem RunInv.joinCluster_inl {join₀ : Bool} {s s' : RunState}
    (h : RunInv env id address frequency join₀ s.closeClient)
    (hj : joinCluster env id address s = .inl s') :
    RunInv env id address frequency join₀ s'.closeClient := by
  unfold joinCluster at hj
  split at hj
  · rename_i hjoin
    cases hadd : env.add s.adds.length with
    | none => simp only [RunState.add, hadd] at hj; cases hj
    | some e =>
      simp only [RunState.add, hadd] at hj
      cases hj
      exact h.addFailed hjoin (by simp [hadd])
  · cases hj

/-- A round goes on after `joinCluster` with the invariant, the client held, and a node that no
longer joins. -/
theorem RunInv.joinCluster_inr {join₀ : Bool} {s s' : RunState}
    (h : RunInv env id address frequency join₀ s.closeClient)
    (hj : joinCluster env id address s = .inr s') :
    RunInv env id address frequency join₀ s'.closeClient ∧ s'.join = false ∧
      s'.returned = s.returned := by
  unfold joinCluster at hj
  split at hj
  · rename_i hjoin
    cases hadd : env.add s.adds.length with
    | some e => simp only [RunState.add, hadd] at hj; cases hj
    | none =>
      simp only [RunState.add, hadd] at hj
      cases hj
      refine ⟨h.addSucceeded hjoin hadd, ?_, ?_⟩ <;>
        unfold RunState.removeJoin <;> split <;> rfl
  · cases hj
    exact ⟨h, by simpa using ‹¬s.join = true›, rfl⟩

/-- Storing a non-empty server list keeps the invariant. -/
theorem RunInv.store {join₀ : Bool} {s : RunState} {servers : List NodeInfo}
    (h : RunInv env id address frequency join₀ s.closeClient) (hne : servers ≠ []) :
    RunInv env id address frequency join₀ { s with stored := s.stored ++ [servers] }.closeClient :=
  { h with
    stored := fun l hl => by
      simp only [RunState.closeClient, List.mem_append, List.mem_singleton] at hl
      rcases hl with hl | rfl
      · exact h.stored l hl
      · exact hne
    ready := fun hready => by
      obtain ⟨hj, -, hd⟩ := h.ready hready
      exact ⟨hj, by simp [RunState.closeClient], hd⟩ }

/-- The end of a round whose node store was refreshed keeps the invariant: the client is
closed, and a node that becomes ready closes the ready channel for the first time. -/
theorem RunInv.roundEnd {join₀ : Bool} {fuel : Nat} {servers : List NodeInfo}
    {s s' : RunState} (h : RunInv env id address frequency join₀ s.closeClient)
    (hj : s.join = false) (hr : s.returned = false) (hst : s.stored ≠ [])
    (ha : afterRefresh env id frequency fuel servers s = some s') :
    RunInv env id address frequency join₀ s' := by
  unfold afterRefresh at ha
  split at ha
  · obtain ⟨⟨o, s₁⟩, hm, rfl⟩ := Option.map_eq_some'.1 ha
    obtain ⟨lq, cl, as, pr, rfl⟩ := maybeAdjustRoles_spec env id fuel s hm
    exact h.withCalls hj lq cl as pr
  · rename_i hready
    obtain ⟨as, pr, hp⟩ := maybePromoteOurselves_calls env id servers s
    rcases hpr : maybePromoteOurselves env id servers s with ⟨_ | e, s₁⟩ <;>
      rw [hpr] at hp ha <;> dsimp only at hp ha <;> subst hp <;> cases ha
    · have hcl := h.readyCloses
      simp only [RunState.closeClient, hready, hr, Bool.false_or, Bool.false_eq_true,
        if_false] at hcl
      exact
        { h with
          readyCloses := by simp [RunState.closeClient, hcl]
          ready := fun _ => ⟨hj, hst, rfl⟩
          assigned := fun h' => absurd (hj.symm.trans h') Bool.false_ne_true }
    · exact { h with
        ready := fun h' => absurd h' (by simpa [RunState.closeClient] using hready)
        assigned := fun h' => absurd (hj.symm.trans h') Bool.false_ne_true }

/-- A node started to join that no longer joins owes it to its last `Add`, which succeeded. -/
theorem RunInv.lastAdd {join₀ : Bool} {s : RunState} (h : RunInv env id address frequency join₀ s)
    (hj₀ : join₀ = true) (hj : s.join = false) :
    ∃ k, s.adds.length = k + 1 ∧ env.add k = none := by
  have hpos : 0 < s.adds.length := List.length_pos.2 (h.joined hj₀ hj)
  exact ⟨s.adds.length - 1, by omega, (h.adds_ok _ (by omega)).2 ⟨hj, by omega⟩⟩

/-- **Step lemma.** A round of the loop before it returned keeps the invariant. -/
theorem runRound_inv {join₀ : Bool} {fuel : Nat} {s s' : RunState}
    (h : RunInv env id address frequency join₀ s) (hr : s.returned = false)
    (hround : runRound env id address frequency fuel s = some s') :
    RunInv env id address frequency join₀ s' := by
  unfold runRound at hround
  split at hround
  · cases hround
    exact h.done hr
  cases hl : env.findLeader s.leaders with
  | some e =>
    simp only [RunState.findLeader, hl] at hround
    cases hround
    exact h.withCounts _ _ _ _ _
  | none =>
    simp only [RunState.findLeader, hl] at hround
    have h₁ := (h.withCounts (s.rounds + 1) s.leaders s.clusters s.leaderQueries
      s.probes).takeClient
    rcases hj : joinCluster env id address
      { s with rounds := s.rounds + 1, leaders := s.leaders + 1, clients := s.clients + 1 }
      with s₂ | s₂ <;> simp only [hj] at hround
    · cases hround
      exact h₁.joinCluster_inl hj
    obtain ⟨h₂, hj₂, hr₂⟩ := h₁.joinCluster_inr hj
    cases hc : env.cluster s₂.clusters with
    | error e =>
      simp only [RunState.cluster, hc] at hround
      cases hround
      exact h₂.withCounts _ _ _ _ _
    | ok servers =>
      cases servers with
      | nil =>
        simp only [RunState.cluster, hc] at hround
        cases hround
        exact h₂.withCounts _ _ _ _ _
      | cons x xs =>
        simp only [RunState.cluster, hc] at hround
        have h₃ : RunInv env id address frequency join₀
            { s₂ with clusters := s₂.clusters + 1 }.closeClient := h₂.withCounts _ _ _ _ _
        exact (h₃.store (List.cons_ne_nil x xs)).roundEnd hj₂ (hr₂.trans hr) (by simp) hround

/-- **Run lemma.** Every state the loop reaches, from the start `New` gives it, satisfies the
invariant. -/
theorem runLoop_inv (join₀ : Bool) (fuel rounds : Nat) {s : RunState}
    (h : runLoop env id address frequency fuel rounds (RunState.init join₀) = some s) :
    RunInv env id address frequency join₀ s := by
  suffices ∀ rounds s₀, RunInv env id address frequency join₀ s₀ →
      runLoop env id address frequency fuel rounds s₀ = some s →
        RunInv env id address frequency join₀ s from this rounds _ (RunInv.init join₀) h
  intro rounds
  induction rounds with
  | zero => intro s₀ h₀ hl; cases hl; exact h₀
  | succ rounds ih =>
    intro s₀ h₀ hl
    simp only [runLoop] at hl
    split at hl
    · cases hl; exact h₀
    · rename_i hr
      obtain ⟨s₁, h₁, hl⟩ := Option.bind_eq_some.1 hl
      exact ih s₁ (runRound_inv h₀ (by simpa using hr) h₁) hl

end Run

/-! ## What every run does -/

section Runs

variable (env : RunEnv) (id : UInt64) (address : String) (frequency : Duration)

/-- A node joining a one-node cluster in which every call succeeds, no node takes a role, and
the context is done from the third round on. -/
def sampleRunEnv : RunEnv where
  done k := decide (2 ≤ k)
  findLeader _ := none
  add _ := none
  removeJoin _ := none
  cluster _ := .ok [⟨1, "a", roleVoter⟩]
  leader _ := .ok ⟨1, "a", roleVoter⟩
  assign _ := none
  assume _ _ := -1
  onlineVoters _ _ := 1
  order _ nodes := nodes
  adjust _ _ := (-1, [])

/-- Where the sample run stands after three rounds: joined, ready, returned. -/
def sampleRun : RunState :=
  (runLoop sampleRunEnv 2 "b" second 1 3 (RunState.init true)).getD (RunState.init true)

/-- In every run the ready channel is closed at most once, so `run` never panics closing it, and
it is closed as soon as the node is ready or `run` returned, which unblocks every `Ready`. -/
theorem run_closes_ready_once (join₀ : Bool) (fuel rounds : Nat) {s : RunState}
    (h : runLoop env id address frequency fuel rounds (RunState.init join₀) = some s) :
    s.readyCloses ≤ 1 ∧ (s.readyCloses = 1 ↔ s.ready = true ∨ s.returned = true) := by
  rw [(runLoop_inv join₀ fuel rounds h).readyCloses]
  cases s.ready <;> cases s.returned <;> decide

theorem sampleRun_closes_ready_once :
    sampleRun.readyCloses ≤ 1 ∧
      (sampleRun.readyCloses = 1 ↔ sampleRun.ready = true ∨ sampleRun.returned = true) :=
  run_closes_ready_once sampleRunEnv 2 "b" second true 1 3 rfl

/-- In every run, every client `a.Leader` handed out is closed in its round, whichever way the
round ends: the loop leaks no connection. -/
theorem run_closes_clients (join₀ : Bool) (fuel rounds : Nat) {s : RunState}
    (h : runLoop env id address frequency fuel rounds (RunState.init join₀) = some s) :
    s.closed = s.clients :=
  (runLoop_inv join₀ fuel rounds h).clients

theorem sampleRun_closes_clients : sampleRun.closed = sampleRun.clients :=
  run_closes_clients sampleRunEnv 2 "b" second true 1 3 rfl

/-- In every run, `Add` is called only by a node started with the join file, always to add
itself as a spare, and the only call that can succeed is the last one: the node stops joining
exactly when an `Add` succeeded.  The join file is removed at most once, right after that
success, and stays on disk while the node is joining. -/
theorem run_joins_once (join₀ : Bool) (fuel rounds : Nat) {s : RunState}
    (h : runLoop env id address frequency fuel rounds (RunState.init join₀) = some s) :
    (s.adds ≠ [] → join₀ = true) ∧ (∀ info ∈ s.adds, info = ⟨id, address, roleSpare⟩) ∧
      (∀ k < s.adds.length, env.add k = none → k + 1 = s.adds.length) ∧
      (s.join = false ↔ join₀ = false ∨ ∃ k < s.adds.length, env.add k = none) ∧
      s.removes ≤ 1 ∧ (s.removes = 1 ↔ join₀ = true ∧ s.join = false) ∧
      (s.join = true → s.joinFile = true) := by
  have hi := runLoop_inv join₀ fuel rounds h
  refine ⟨hi.adds_start, hi.adds_self, fun k hk hadd => ((hi.adds_ok k hk).1 hadd).2, ?_, ?_, ?_,
    fun hj => by simp [hi.joinFile, hj, hi.join_start hj]⟩
  · constructor
    · intro hj
      cases hj₀ : join₀
      · exact .inl rfl
      · obtain ⟨k, hk, hadd⟩ := hi.lastAdd hj₀ hj
        exact .inr ⟨k, by omega, hadd⟩
    · rintro (hj₀ | ⟨k, hk, hadd⟩)
      · cases hj : s.join
        · rfl
        · exact absurd (hi.join_start hj) (by simp [hj₀])
      · exact ((hi.adds_ok k hk).1 hadd).1
  · rw [hi.removes]; split <;> omega
  · rw [hi.removes]; cases join₀ <;> cases s.join <;> decide

theorem sampleRun_joins_once :
    (sampleRun.adds ≠ [] → true = true) ∧
      (∀ info ∈ sampleRun.adds, info = ⟨2, "b", roleSpare⟩) ∧
      (∀ k < sampleRun.adds.length, sampleRunEnv.add k = none → k + 1 = sampleRun.adds.length) ∧
      (sampleRun.join = false ↔
        true = false ∨ ∃ k < sampleRun.adds.length, sampleRunEnv.add k = none) ∧
      sampleRun.removes ≤ 1 ∧ (sampleRun.removes = 1 ↔ true = true ∧ sampleRun.join = false) ∧
      (sampleRun.join = true → sampleRun.joinFile = true) :=
  run_joins_once sampleRunEnv 2 "b" second true 1 3 rfl

/-- In every run, a ready node has joined, stored a non-empty server list and waits `frequency`
between rounds, and the loop never stores an empty server list. -/
theorem run_ready_after_join (join₀ : Bool) (fuel rounds : Nat) {s : RunState}
    (h : runLoop env id address frequency fuel rounds (RunState.init join₀) = some s) :
    (s.ready = true → s.join = false ∧ s.stored ≠ [] ∧ s.delay = frequency) ∧
      ∀ l ∈ s.stored, l ≠ [] :=
  have hi := runLoop_inv join₀ fuel rounds h
  ⟨hi.ready, hi.stored⟩

theorem sampleRun_ready_after_join :
    (sampleRun.ready = true →
      sampleRun.join = false ∧ sampleRun.stored ≠ [] ∧ sampleRun.delay = second) ∧
      ∀ l ∈ sampleRun.stored, l ≠ [] :=
  run_ready_after_join sampleRunEnv 2 "b" second true 1 3 rfl

/-- In every run, no role is assigned, to this node or to another, before the node joined: a
run that called `Assign` has a node that no longer joins, and if it was started to join, its
last `Add` succeeded. -/
theorem run_assigns_after_join (join₀ : Bool) (fuel rounds : Nat) {s : RunState}
    (h : runLoop env id address frequency fuel rounds (RunState.init join₀) = some s) :
    s.assigns = [] ∨
      s.join = false ∧ (join₀ = true → ∃ k, s.adds.length = k + 1 ∧ env.add k = none) := by
  have hi := runLoop_inv join₀ fuel rounds h
  cases hj : s.join
  · exact .inr ⟨rfl, fun hj₀ => hi.lastAdd hj₀ hj⟩
  · exact .inl (hi.assigned hj)

theorem sampleRun_assigns_after_join :
    sampleRun.assigns = [] ∨ sampleRun.join = false ∧
      (true = true → ∃ k, sampleRun.adds.length = k + 1 ∧ sampleRunEnv.add k = none) :=
  run_assigns_after_join sampleRunEnv 2 "b" second true 1 3 rfl

end Runs

end Cowsql
