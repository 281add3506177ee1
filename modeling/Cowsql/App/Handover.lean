import Cowsql.Connector.Attempt

/-!
# Handing leadership over

`App.Handover`: before shutting a node down, promote another node to its role, transfer
leadership away if it is the leader, and demote it to spare.

The cluster is the environment: the answers to each call of `a.Leader`, `cli.Cluster`,
`cli.Leader`, `cli.Assign` and `cli.Transfer`, and to each look at the context in the demotion
loop.  `makeRolesChanges` probes the nodes, and `RolesChanges.Handover` and `RolesChanges.list`
are not among the sources, so what they give is the environment's too.  The state counts the
calls and keeps the ids `Assign` and `Transfer` were called with.

The promotion loop goes on to the next candidate after a failed `Assign`.  The transfer loop
has no `continue`: after a failed `Transfer` at any voter but the last it re-resolves the leader
and stops, so it calls `Transfer` on the first voter other than this node and on no other, and
`Handover` calls it at most once.  A leader whose transfers all fail hands over without error.
-/

namespace Cowsql

/-- `NodeRole.String`. -/
def roleString (role : Int) : String :=
  match role with
  | 0 => "voter"
  | 1 => "stand-by"
  | 2 => "spare"
  | _ => "unknown role"

/-- The cluster as `Handover` sees it: the answer to the `k`-th call of each kind. -/
structure HandoverEnv where
  /-- `a.Leader(ctx)`: a client connected to the leader, or an error. -/
  findLeader : Nat → Option GoError
  /-- `cli.Cluster(ctx)`. -/
  cluster : Nat → Except GoError (List NodeInfo)
  /-- `cli.Leader(ctx)`: the leader's info, if there is a leader. -/
  leader : Nat → Except GoError (Option NodeInfo)
  /-- `cli.Assign(ctx, id, role)`. -/
  assign : Nat → Option GoError
  /-- `cli.Transfer(ctx, id)`. -/
  transfer : Nat → Option GoError
  /-- Whether the context is done at the `k`-th look of the demotion loop. -/
  done : Nat → Bool
  /-- `a.makeRolesChanges(nodes).Handover(a.id)`: the role to hand over (`-1` for none) and the
  candidates for it. -/
  handover : List NodeInfo → Int × List NodeInfo
  /-- `a.makeRolesChanges(nodes).list(client.Voter, true)`: the online voters. -/
  onlineVoters : List NodeInfo → List NodeInfo

/-- The calls `Handover` made: how many of each kind, and the ids and roles of `Assign` and the
ids of `Transfer`, in order. -/
structure HandoverState where
  leaders : Nat
  clusters : Nat
  leaderQueries : Nat
  assigns : List (UInt64 × Int)
  transfers : List UInt64
  looks : Nat
  deriving DecidableEq, Repr

/-- No call made yet. -/
def HandoverState.init : HandoverState := ⟨0, 0, 0, [], [], 0⟩

section Handover

variable (env : HandoverEnv)

/-- `a.Leader(ctx)`. -/
def HandoverState.findLeader (s : HandoverState) : Option GoError × HandoverState :=
  (env.findLeader s.leaders, { s with leaders := s.leaders + 1 })

/-- `cli.Cluster(ctx)`. -/
def HandoverState.cluster (s : HandoverState) : Except GoError (List NodeInfo) × HandoverState :=
  (env.cluster s.clusters, { s with clusters := s.clusters + 1 })

/-- `cli.Leader(ctx)`. -/
def HandoverState.leader (s : HandoverState) : Except GoError (Option NodeInfo) × HandoverState :=
  (env.leader s.leaderQueries, { s with leaderQueries := s.leaderQueries + 1 })

/-- `cli.Assign(ctx, id, role)`. -/
def HandoverState.assign (s : HandoverState) (id : UInt64) (role : Int) :
    Option GoError × HandoverState :=
  (env.assign s.assigns.length, { s with assigns := s.assigns ++ [(id, role)] })

/-- `cli.Transfer(ctx, id)`. -/
def HandoverState.transfer (s : HandoverState) (id : UInt64) : Option GoError × HandoverState :=
  (env.transfer s.transfers.length, { s with transfers := s.transfers ++ [id] })

/-- The promotion loop over the candidates, the `i`-th of `n`: `Assign` the role to each in turn
until one call succeeds; when the last fails, fail. -/
def promoteLoop (role : Int) (n : Nat) : Nat → List NodeInfo → HandoverState →
    Option GoError × HandoverState
  | _, [], s => (none, s)
  | i, node :: rest, s =>
    match s.assign env node.id role with
    | (some _, s) =>
      if i = n - 1 then
        (some (.text ("could not promote any online node to " ++ roleString role)), s)
      else promoteLoop role n (i + 1) rest s
    | (none, s) => (none, s)

/-- `cli, err = a.Leader(ctx)` after a transfer: re-resolve the leader. -/
def findNewLeader (s : HandoverState) : Option GoError × HandoverState :=
  match s.findLeader env with
  | (some e, s) => (some (.wrap "find new leader" e), s)
  | (none, s) => (none, s)

/-- The transfer loop over the online voters, the `i`-th of `n`: skip this node; `Transfer` to
the voter; when that fails at the last voter, fail; otherwise re-resolve the leader and stop. -/
def transferLoop (self : String) (n : Nat) : Nat → List NodeInfo → HandoverState →
    Option GoError × HandoverState
  | _, [], s => (none, s)
  | i, voter :: rest, s =>
    if voter.address = self then transferLoop self n (i + 1) rest s
    else
      match s.transfer env voter.id with
      | (some e, s) =>
        if i = n - 1 then (some (.wrap "transfer leadership" e), s) else findNewLeader env s
      | (none, s) => findNewLeader env s

/-- Possibly transfer our role: when there is a role to hand over, promote a candidate to it. -/
def promote (role : Int) (candidates : List NodeInfo) (s : HandoverState) :
    Option GoError × HandoverState :=
  if role ≠ -1 then promoteLoop env role candidates.length 0 candidates s else (none, s)

/-- Check if we are the current leader and transfer leadership if so. -/
def transferLeadership (address : String) (s : HandoverState) : Option GoError × HandoverState :=
  match s.leader env with
  | (.error e, s) => (some (.wrap "leader address" e), s)
  | (.ok leader, s) =>
    if leader.any (·.address = address) then
      match s.cluster env with
      | (.error e, s) => (some (.wrap "cluster servers" e), s)
      | (.ok nodes, s) =>
        let voters := env.onlineVoters nodes
        transferLoop env address voters.length 0 voters s
    else (none, s)

/-- The demotion loop, for at most `fuel` rounds: `Assign` this node the spare role until that
succeeds or the context is done. -/
def demoteLoop (id : UInt64) : Nat → HandoverState → Option (Option GoError × HandoverState)
  | 0, _ => none
  | fuel + 1, s =>
    match s.assign env id 2 with
    | (none, s) => some (none, s)
    | (some e, s) =>
      if env.done s.looks then
        some (some (.wrap "demote ourselves context done" e), { s with looks := s.looks + 1 })
      else demoteLoop id fuel { s with looks := s.looks + 1 }

/-- Demote ourselves if we have promoted someone else. -/
def demote (id : UInt64) (role : Int) (fuel : Nat) (s : HandoverState) :
    Option (Option GoError × HandoverState) :=
  if role ≠ -1 then demoteLoop env id fuel s else some (none, s)

/-- `App.Handover` of the node with this id and address, its demotion loop run for at most
`fuel` rounds. -/
def handover (id : UInt64) (address : String) (fuel : Nat) :
    Option (Option GoError × HandoverState) :=
  match HandoverState.init.findLeader env with
  | (some e, s) => some (some (.wrap "find leader" e), s)
  | (none, s) =>
    match s.cluster env with
    | (.error e, s) => some (some (.wrap "cluster servers" e), s)
    | (.ok nodes, s) =>
      let (role, candidates) := env.handover nodes
      match promote env role candidates s with
      | (some e, s) => some (some e, s)
      | (none, s) =>
        match transferLeadership env address s with
        | (some e, s) => some (some e, s)
        | (none, s) => demote env id role fuel s

/-! ## The two loops -/

@[simp] theorem findNewLeader_transfers (s : HandoverState) :
    (findNewLeader env s).2.transfers = s.transfers := by
  unfold findNewLeader HandoverState.findLeader
  cases env.findLeader s.leaders <;> rfl

/-- The transfer loop calls `Transfer` once, on the first voter other than this node, if there
is one, whatever the call returns. -/
theorem transferLoop_transfers (self : String) (n i : Nat) (vs : List NodeInfo)
    (s : HandoverState) :
    (transferLoop env self n i vs s).2.transfers =
      s.transfers ++ ((vs.find? (fun v => v.address != self)).map (·.id)).toList := by
  induction vs generalizing i with
  | nil => simp [transferLoop]
  | cons v rest ih =>
    unfold transferLoop
    by_cases hv : v.address = self
    · simp [hv, ih]
    · simp only [if_neg hv, HandoverState.transfer]
      cases env.transfer s.transfers.length
      · simp [hv]
      · dsimp only
        split <;> simp [hv]

/-! ## Transfer calls over a whole handover -/

@[simp] theorem promoteLoop_transfers (role : Int) (n i : Nat) (cs : List NodeInfo)
    (s : HandoverState) : (promoteLoop env role n i cs s).2.transfers = s.transfers := by
  induction cs generalizing i s with
  | nil => rfl
  | cons c rest ih =>
    simp only [promoteLoop, HandoverState.assign]
    cases env.assign s.assigns.length
    · rfl
    · dsimp only
      split
      · rfl
      · exact ih _ _

@[simp] theorem promote_transfers (role : Int) (cs : List NodeInfo) (s : HandoverState) :
    (promote env role cs s).2.transfers = s.transfers := by
  unfold promote
  split <;> simp

theorem demoteLoop_transfers (id : UInt64) (fuel : Nat) {s s' : HandoverState}
    {o : Option GoError} (h : demoteLoop env id fuel s = some (o, s')) :
    s'.transfers = s.transfers := by
  induction fuel generalizing s with
  | zero => cases h
  | succ fuel ih =>
    simp only [demoteLoop, HandoverState.assign] at h
    cases hx : env.assign s.assigns.length <;> simp only [hx] at h
    · cases h; rfl
    · split at h
      · cases h; rfl
      · exact (ih h).trans rfl

/-- Leadership is transferred at most once. -/
theorem transferLeadership_transfers (address : String) (s : HandoverState) :
    (transferLeadership env address s).2.transfers.length ≤ s.transfers.length + 1 := by
  unfold transferLeadership HandoverState.leader HandoverState.cluster
  cases env.leader s.leaderQueries
  · simp
  · dsimp only
    split
    · cases env.cluster s.clusters
      · simp
      · dsimp only
        rw [transferLoop_transfers]
        cases List.find? _ _ <;> simp
    · simp

end Handover

/-! ## A leader whose transfers fail -/

/-- This node, 1 at `"a"`, leads a cluster of three online voters, has a voter's role to hand
over but no candidate for it, and every `Transfer` fails. -/
def transferFailsEnv : HandoverEnv where
  findLeader _ := none
  cluster _ := .ok [⟨1, "a", 0⟩, ⟨2, "b", 0⟩, ⟨3, "c", 0⟩]
  leader _ := .ok (some ⟨1, "a", 0⟩)
  assign _ := none
  transfer _ := some (.text "leadership transfer failed")
  done _ := true
  handover _ := (0, [])
  onlineVoters nodes := nodes

/-- Leading a cluster of three voters in which every `Transfer` fails, `Handover` tries only the
second voter, re-resolves the leader after that failure, demotes this node and returns no
error. -/
theorem handover_ignores_failed_transfer :
    handover transferFailsEnv 1 "a" 1 = some (none, ⟨2, 2, 1, [(1, 2)], [2], 0⟩) := rfl

/-! ## What every handover does -/

section Transfers

variable (env : HandoverEnv)

/-- `Handover` calls `Transfer` at most once, on whatever it returns. -/
theorem handover_transfers_le_one (id : UInt64) (address : String) (fuel : Nat)
    {o : Option GoError} {s : HandoverState} (h : handover env id address fuel = some (o, s)) :
    s.transfers.length ≤ 1 := by
  simp only [handover, HandoverState.findLeader, HandoverState.cluster, HandoverState.init,
    Nat.zero_add] at h
  cases hl : env.findLeader 0 <;> simp only [hl] at h
  · cases hc : env.cluster 0 with
    | error e => simp only [hc] at h; cases h; exact Nat.zero_le _
    | ok nodes =>
      simp only [hc] at h
      have h₀ := promote_transfers env (env.handover nodes).1 (env.handover nodes).2
        ⟨1, 1, 0, [], [], 0⟩
      rcases hp : promote env (env.handover nodes).1 (env.handover nodes).2 ⟨1, 1, 0, [], [], 0⟩
        with ⟨_ | e, s₁⟩ <;> simp only [hp] at h h₀
      · have ht := transferLeadership_transfers env address s₁
        rcases hq : transferLeadership env address s₁ with ⟨_ | e, s₂⟩ <;>
          simp only [hq, h₀] at h ht
        · unfold demote at h
          split at h
          · rw [demoteLoop_transfers env id fuel h]; exact ht
          · cases h; exact ht
        · cases h; exact ht
      · cases h
        simp [h₀]
  · cases h; exact Nat.zero_le _

theorem handover_transfers_le_one_sample :
    ∃ o s, handover transferFailsEnv 1 "a" 1 = some (o, s) ∧ s.transfers.length ≤ 1 :=
  ⟨_, _, rfl, handover_transfers_le_one transferFailsEnv 1 "a" 1 rfl⟩

end Transfers

end Cowsql
