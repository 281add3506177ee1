import Cowsql.Connector.Attempt

/-!
# Creating and opening an application node

`app.New`: load or create the node's identity in `info.yaml`, mark a joining node with the join
file, populate the node store `cluster.yaml`, start the local node, register the driver, check
the voters option and, with TLS, start listening.  Each resource `New` creates has a cleanup,
pushed on a list that a deferred function runs in reverse order when `New` returns an error.
What the file operations, constructors and `cowsql` helpers (not among the sources) answer is
an environment, `NewEnv`; a failed write leaves no file, as `renameio` guarantees.

The invariant `Tracked` says that each cleanup registered undoes a change `New` made to a
resource that had been absent, and that every other resource but the join file is as it was, so
on error the cleanups restore the directory and stop what was started.  The join file has no
cleanup: it is left behind.  `App.Open` pings the database it opens up to 60 times while no
leader is available; `PingContext` of `database/sql` is not among the sources.
-/

namespace Cowsql

/-- The files of an application node's directory. -/
inductive AppFile where
  | info
  | join
  | store
  deriving DecidableEq, Repr

/-- The application node's directory and what `New` started: the contents of `info.yaml` and
of `cluster.yaml`, whether the join file is there, whether a node `New` started is running and
whether the proxy's listener is open. -/
structure AppState where
  info : Option NodeInfo
  store : Option (List NodeInfo)
  join : Bool
  node : Bool
  listener : Bool
  deriving DecidableEq, Repr

/-- A directory in which `New` has started nothing yet. -/
def AppState.init (info : Option NodeInfo) (store : Option (List NodeInfo)) (join : Bool) :
    AppState :=
  ⟨info, store, join, false, false⟩

/-- The options `New` reads: the address, the cluster to join, the numbers of voters and
stand-bys, and whether a TLS configuration or an external connection was given. -/
structure Options where
  address : String
  cluster : List String
  voters : Int
  standBys : Int
  tls : Bool
  conn : Bool
  deriving DecidableEq, Repr

/-- The outcome of what `New` calls. -/
structure NewEnv where
  /-- `net.Listen("unix", o.UnixSocket)`: the address bound, or an error. -/
  autobind : Except GoError String
  /-- `fileExists(dir, name)` failing on this file. -/
  existsErr : AppFile → Option GoError
  /-- `defaultAddress()`. -/
  defaultAddress : Except GoError String
  /-- `cowsql.BootstrapID`. -/
  bootstrapID : UInt64
  /-- `cowsql.GenerateID(address)`. -/
  generateID : String → UInt64
  /-- `fileWrite` and `fileMarshal` failing on this file. -/
  writeErr : AppFile → Option GoError
  /-- `fileUnmarshal(dir, infoFile, &info)` failing. -/
  readErr : Option GoError
  /-- `client.NewYamlNodeStore` failing. -/
  openStoreErr : Option GoError
  /-- `store.Set` failing. -/
  setErr : Option GoError
  /-- `os.Getenv("SNAP_INSTANCE_NAME")`. -/
  snapInstanceName : String
  /-- `cowsql.New` failing. -/
  nodeNewErr : Option GoError
  /-- `node.Start` failing. -/
  nodeStartErr : Option GoError
  /-- `driver.New` failing. -/
  driverNewErr : Option GoError
  /-- `net.Listen("tcp", info.Address)` failing. -/
  listenErr : Option GoError

/-- The fields of the `App` that `New` returns that it computes. -/
structure App where
  id : UInt64
  address : String
  nodeBindAddress : String
  voters : Int
  standBys : Int
  deriving DecidableEq, Repr

/-- The functions on the cleanup list. -/
inductive Cleanup where
  /-- `fileRemove(dir, infoFile)`. -/
  | removeInfo
  /-- `fileRemove(dir, storeFile)`. -/
  | removeStore
  /-- `node.Close()`. -/
  | closeNode
  /-- `listener.Close(); <-proxyCh`. -/
  | closeListener
  deriving DecidableEq, Repr

/-- Run one cleanup. -/
def Cleanup.run : Cleanup → AppState → AppState
  | removeInfo, s => { s with info := none }
  | removeStore, s => { s with store := none }
  | closeNode, s => { s with node := false }
  | closeListener, s => { s with listener := false }

/-- The deferred function of `New` on error: run the cleanups, the last registered first. -/
def runCleanups (cleanups : List Cleanup) (s : AppState) : AppState :=
  cleanups.foldr Cleanup.run s

/-- Cleanups touch one resource each, never the join file, so they commute. -/
@[simp] theorem Cleanup.run_join (c : Cleanup) (s : AppState) : (c.run s).join = s.join := by
  cases c <;> rfl

theorem Cleanup.run_comm (c d : Cleanup) (s : AppState) : c.run (d.run s) = d.run (c.run s) := by
  cases c <;> cases d <;> rfl

theorem Cleanup.run_setJoin (c : Cleanup) (s : AppState) (b : Bool) :
    c.run { s with join := b } = { c.run s with join := b } := by
  cases c <;> rfl

@[simp] theorem runCleanups_join (cleanups : List Cleanup) (s : AppState) :
    (runCleanups cleanups s).join = s.join := by
  induction cleanups with
  | nil => rfl
  | cons d cleanups ih =>
    simp only [runCleanups, List.foldr_cons] at ih ⊢; rw [Cleanup.run_join, ih]

theorem runCleanups_append (cleanups : List Cleanup) (c : Cleanup) (s : AppState) :
    runCleanups (cleanups ++ [c]) s = runCleanups cleanups (c.run s) := by
  simp [runCleanups]

theorem runCleanups_run (cleanups : List Cleanup) (c : Cleanup) (s : AppState) :
    runCleanups cleanups (c.run s) = c.run (runCleanups cleanups s) := by
  induction cleanups with
  | nil => rfl
  | cons d cleanups ih =>
    simp only [runCleanups, List.foldr_cons] at ih ⊢; rw [ih, Cleanup.run_comm]

theorem runCleanups_setJoin (cleanups : List Cleanup) (s : AppState) (b : Bool) :
    runCleanups cleanups { s with join := b } = { runCleanups cleanups s with join := b } := by
  induction cleanups with
  | nil => rfl
  | cons d cleanups ih =>
    simp only [runCleanups, List.foldr_cons] at ih ⊢; rw [ih, Cleanup.run_setJoin]

/-- What a stage of `New` ends with: its result or error, the cleanups registered so far, and
the state. -/
abbrev Stage (α : Type) := Except GoError α × List Cleanup × AppState

section New

variable (env : NewEnv)

/-- `fileMarshal(dir, infoFile, info)`, then register its removal. -/
def writeInfo (info : NodeInfo) (s : AppState) : Stage (NodeInfo × Bool) :=
  match env.writeErr .info with
  | some e => (.error e, [], s)
  | none => (.ok (info, false), [.removeInfo], { s with info := some info })

/-- Load our ID, or generate one if we are joining: the node's info and whether `info.yaml`
existed. -/
def loadInfo (o : Options) (s : AppState) : Stage (NodeInfo × Bool) :=
  match env.existsErr .info with
  | some e => (.error e, [], s)
  | none =>
    match s.info with
    | none =>
      let address := if o.address = "" then env.defaultAddress else .ok o.address
      match address with
      | .error e => (.error e, [], s)
      | .ok address =>
        if o.cluster = [] then writeInfo env ⟨env.bootstrapID, address, 0⟩ s
        else
          match env.writeErr .join with
          | some e => (.error e, [], s)
          | none => writeInfo env ⟨env.generateID address, address, 0⟩ { s with join := true }
    | some info =>
      match env.readErr with
      | some e => (.error e, [], s)
      | none =>
        if o.address ≠ "" ∧ o.address ≠ info.address then
          (.error (.text ("address " ++ info.address.quote ++ " in info.yaml does not match " ++
            o.address.quote)), [], s)
        else (.ok (info, true), [], s)

/-- Whether the join file exists, which a bootstrap node refuses. -/
def checkJoin (info : NodeInfo) (cleanups : List Cleanup) (s : AppState) : Stage Bool :=
  match env.existsErr .join with
  | some e => (.error e, cleanups, s)
  | none =>
    if info.id = env.bootstrapID ∧ s.join = true then
      (.error (.text "bootstrap node can't join a cluster"), cleanups, s)
    else (.ok s.join, cleanups, s)

/-- Open the nodes store; a brand new node populates it with its own address (a bootstrap
node) or with the cluster's addresses (a joining node). -/
def openStore (o : Options) (info : NodeInfo) (infoFileExists : Bool)
    (cleanups : List Cleanup) (s : AppState) : Stage Unit :=
  match env.existsErr .store with
  | some e => (.error e, cleanups, s)
  | none =>
    let storeFileExists := s.store.isSome
    match env.openStoreErr with
    | some e => (.error (.wrap "open cluster.yaml node store" e), cleanups, s)
    | none =>
      if infoFileExists ≠ storeFileExists then
        (.error (.text "inconsistent info.yaml and cluster.yaml"), cleanups, s)
      else if storeFileExists then (.ok (), cleanups, s)
      else
        let nodes : Except GoError (List NodeInfo) :=
          if info.id = env.bootstrapID then .ok [⟨0, info.address, 0⟩]
          else if o.cluster = [] then .error (.text "no cluster addresses provided")
          else .ok (o.cluster.map fun address => ⟨0, address, 0⟩)
        match nodes with
        | .error e => (.error e, cleanups, s)
        | .ok nodes =>
          match env.setErr with
          | some e => (.error (.wrap "initialize node store" e), cleanups, s)
          | none => (.ok (), cleanups ++ [.removeStore], { s with store := some nodes })

/-- `nodeBindAddress`, the address the local node binds: the autobound unix socket with an
external connection, an abstract socket named after the node's id with TLS, its own address
otherwise. -/
def bindAddress (o : Options) (autobound : String) (info : NodeInfo) : String :=
  if o.conn then autobound
  else if o.tls then
    if env.snapInstanceName.length > 0 then
      "@snap." ++ env.snapInstanceName ++ ".cowsql-" ++ toString info.id
    else "@cowsql-" ++ toString info.id
  else info.address

/-- Start the local cowsql engine. -/
def startNode (cleanups : List Cleanup) (s : AppState) : Stage Unit :=
  match env.nodeNewErr with
  | some e => (.error (.wrap "create node" e), cleanups, s)
  | none =>
    match env.nodeStartErr with
    | some e => (.error (.wrap "start node" e), cleanups, s)
    | none => (.ok (), cleanups ++ [.closeNode], { s with node := true })

/-- Register the local cowsql driver, then check the voters option. -/
def registerDriver (o : Options) (cleanups : List Cleanup) (s : AppState) : Stage Unit :=
  match env.driverNewErr with
  | some e => (.error (.wrap "create driver" e), cleanups, s)
  | none =>
    if o.voters < 3 ∨ o.voters % 2 = 0 then
      (.error (.text ("invalid voters " ++ toString o.voters ++
        ": must be an odd number greater than 1")), cleanups, s)
    else (.ok (), cleanups, s)

/-- Start the proxy if a TLS configuration was provided. -/
def listenProxy (o : Options) (info : NodeInfo) (cleanups : List Cleanup) (s : AppState) :
    Stage Unit :=
  if o.tls then
    match env.listenErr with
    | some e => (.error (.wrap ("listen to " ++ info.address) e), cleanups, s)
    | none => (.ok (), cleanups ++ [.closeListener], { s with listener := true })
  else (.ok (), cleanups, s)

/-- `app.New`: the stages in order; on error, the cleanups registered so far run. -/
def App.new (o : Options) (s : AppState) : Except GoError App × AppState :=
  match (if o.conn then env.autobind else .ok "") with
  | .error e => (.error (.wrap "failed to autobind unix socket" e), s)
  | .ok autobound =>
    match loadInfo env o s with
    | (.error e, cs, s) => (.error e, runCleanups cs s)
    | (.ok (info, infoFileExists), cs, s) =>
      match checkJoin env info cs s with
      | (.error e, cs, s) => (.error e, runCleanups cs s)
      | (.ok _, cs, s) =>
        match openStore env o info infoFileExists cs s with
        | (.error e, cs, s) => (.error e, runCleanups cs s)
        | (.ok (), cs, s) =>
          match startNode env cs s with
          | (.error e, cs, s) => (.error e, runCleanups cs s)
          | (.ok (), cs, s) =>
            match registerDriver env o cs s with
            | (.error e, cs, s) => (.error e, runCleanups cs s)
            | (.ok (), cs, s) =>
              match listenProxy env o info cs s with
              | (.error e, cs, s) => (.error e, runCleanups cs s)
              | (.ok (), _, s) =>
                (.ok ⟨info.id, info.address, bindAddress env o autobound info, o.voters,
                  o.standBys⟩, s)

/-! ## The cleanups undo what `New` did -/

/-- What `New` keeps from the state `s₀` it started in: running the cleanups registered so far
would give back `s₀` but for the join file, which was only written for a joining node with no
`info.yaml`. -/
structure Tracked (o : Options) (s₀ : AppState) (cleanups : List Cleanup) (s : AppState) :
    Prop where
  undo : runCleanups cleanups s = { s₀ with join := s.join }
  join : s.join = s₀.join ∨ (s.join = true ∧ s₀.info = none ∧ o.cluster ≠ [])

theorem Tracked.init (o : Options) (s₀ : AppState) : Tracked o s₀ [] s₀ := ⟨rfl, .inl rfl⟩

/-- Registering the cleanup of a change to a resource that was absent in `s₀`. -/
theorem Tracked.register {o : Options} {s₀ s : AppState} {cleanups : List Cleanup}
    (h : Tracked o s₀ cleanups s) {c : Cleanup} (hc₀ : c.run s₀ = s₀) {s' : AppState}
    (hs : c.run s' = c.run s) : Tracked o s₀ (cleanups ++ [c]) s' := by
  have hj : s'.join = s.join := by rw [← Cleanup.run_join c s', hs, Cleanup.run_join]
  refine ⟨?_, hj ▸ h.join⟩
  calc runCleanups (cleanups ++ [c]) s' = c.run (runCleanups cleanups s) := by
        rw [runCleanups_append, hs, runCleanups_run]
    _ = { s₀ with join := s'.join } := by rw [h.undo, Cleanup.run_setJoin, hc₀, hj]

/-- A resource absent now was absent in `s₀`. -/
theorem Tracked.run_init {o : Options} {s₀ s : AppState} {cleanups : List Cleanup}
    (h : Tracked o s₀ cleanups s) {c : Cleanup} (hc : c.run s = s) : c.run s₀ = s₀ := by
  have h₁ : c.run { s₀ with join := s.join } = { s₀ with join := s.join } := by
    rw [← h.undo, ← runCleanups_run, hc]
  cases c <;> cases s₀ <;> simp_all [Cleanup.run]

theorem Tracked.setJoin {o : Options} {s₀ s : AppState} {cleanups : List Cleanup}
    (h : Tracked o s₀ cleanups s) (hi : s₀.info = none) (hc : o.cluster ≠ []) :
    Tracked o s₀ cleanups { s with join := true } :=
  ⟨by rw [runCleanups_setJoin, h.undo], .inr ⟨rfl, hi, hc⟩⟩

/-- On error, what the cleanups leave. -/
theorem Tracked.restores {o : Options} {s₀ s : AppState} {cleanups : List Cleanup}
    (h : Tracked o s₀ cleanups s) :
    runCleanups cleanups s = { s₀ with join := (runCleanups cleanups s).join } ∧
      ((runCleanups cleanups s).join = s₀.join ∨
        ((runCleanups cleanups s).join = true ∧ s₀.info = none ∧ o.cluster ≠ [])) := by
  simp only [runCleanups_join] at *
  exact ⟨h.undo, h.join⟩

/-! ## Every stage keeps `Tracked` -/

/-- Writing `info.yaml` where there was none registers its removal. -/
theorem writeInfo_tracked {o : Options} {s₀ s s' : AppState} (t : Tracked o s₀ [] s)
    (hi : s₀.info = none) {info : NodeInfo} {r : Except GoError (NodeInfo × Bool)}
    {cleanups : List Cleanup} (h : writeInfo env info s = (r, cleanups, s')) :
    Tracked o s₀ cleanups s' := by
  unfold writeInfo at h
  split at h <;> cases h
  · exact t
  · exact t.register (by rw [Cleanup.run, ← hi]) rfl

theorem loadInfo_tracked (o : Options) {s₀ s : AppState} {r : Except GoError (NodeInfo × Bool)}
    {cleanups : List Cleanup} (h : loadInfo env o s₀ = (r, cleanups, s)) :
    Tracked o s₀ cleanups s := by
  have t := Tracked.init o s₀
  unfold loadInfo at h
  split at h
  · cases h; exact t
  · split at h
    · -- no info.yaml: write it, after the join file for a joining node
      rename_i hi
      dsimp only at h
      split at h
      · cases h; exact t
      · split at h
        · exact writeInfo_tracked env t hi h
        · split at h
          · cases h; exact t
          · exact writeInfo_tracked env (t.setJoin hi ‹_›) hi h
    · repeat' split at h
      all_goals cases h; exact t

/-- `checkJoin` registers no cleanup and changes nothing. -/
theorem checkJoin_state {info : NodeInfo} {cleanups cleanups' : List Cleanup} {s s' : AppState}
    {r : Except GoError Bool} (h : checkJoin env info cleanups s = (r, cleanups', s')) :
    cleanups' = cleanups ∧ s' = s := by
  unfold checkJoin at h
  repeat' split at h
  all_goals cases h; exact ⟨rfl, rfl⟩

theorem openStore_tracked {o : Options} {s₀ s s' : AppState} {cleanups cleanups' : List Cleanup}
    (t : Tracked o s₀ cleanups s) (info : NodeInfo) (infoFileExists : Bool)
    {r : Except GoError Unit}
    (h : openStore env o info infoFileExists cleanups s = (r, cleanups', s')) :
    Tracked o s₀ cleanups' s' := by
  unfold openStore at h
  dsimp only at h
  repeat' split at h
  all_goals cases h
  -- every branch but the one that writes cluster.yaml leaves the cleanups and the state alone
  all_goals try exact t
  have hs : s.store = none := Option.not_isSome_iff_eq_none.1 ‹_›
  exact t.register (t.run_init (c := .removeStore) (by rw [Cleanup.run, ← hs])) rfl

theorem startNode_tracked {o : Options} {s₀ s s' : AppState} {cleanups cleanups' : List Cleanup}
    (t : Tracked o s₀ cleanups s) (h₀ : s₀.node = false) {r : Except GoError Unit}
    (h : startNode env cleanups s = (r, cleanups', s')) : Tracked o s₀ cleanups' s' := by
  unfold startNode at h
  repeat' split at h
  all_goals cases h
  · exact t
  · exact t
  · exact t.register (by rw [Cleanup.run, ← h₀]) rfl

/-- `registerDriver` registers no cleanup and changes nothing. -/
theorem registerDriver_state {o : Options} {cleanups cleanups' : List Cleanup} {s s' : AppState}
    {r : Except GoError Unit} (h : registerDriver env o cleanups s = (r, cleanups', s')) :
    cleanups' = cleanups ∧ s' = s := by
  unfold registerDriver at h
  repeat' split at h
  all_goals cases h; exact ⟨rfl, rfl⟩

theorem listenProxy_tracked {o : Options} {s₀ s s' : AppState} {cleanups cleanups' : List Cleanup}
    (t : Tracked o s₀ cleanups s) (h₀ : s₀.listener = false) (info : NodeInfo)
    {r : Except GoError Unit} (h : listenProxy env o info cleanups s = (r, cleanups', s')) :
    Tracked o s₀ cleanups' s' := by
  unfold listenProxy at h
  repeat' split at h
  all_goals cases h
  · exact t
  · exact t.register (by rw [Cleanup.run, ← h₀]) rfl
  · exact t

end New

/-! ## A joining node whose engine fails to start -/

/-- Every call succeeds but `node.Start`. -/
def startFailsEnv : NewEnv where
  autobind := .ok ""
  existsErr _ := none
  defaultAddress := .ok "127.0.0.1:9001"
  bootstrapID := 1
  generateID _ := 2
  writeErr _ := none
  readErr := none
  openStoreErr := none
  setErr := none
  snapInstanceName := ""
  nodeNewErr := none
  nodeStartErr := some (.text "start failed")
  driverNewErr := none
  listenErr := none

/-- A node joining the cluster of `10.0.0.1:9001`. -/
def joinOptions : Options := ⟨"10.0.0.2:9001", ["10.0.0.1:9001"], 3, 3, false, false⟩

/-- In a fresh directory, a joining node whose engine fails to start: `New` fails, its cleanups
remove `info.yaml` and `cluster.yaml` but the join file it wrote stays, and a bootstrap `New` in
that directory then fails. -/
theorem new_leaves_join_file :
    App.new startFailsEnv joinOptions (AppState.init none none false) =
        (.error (.wrap "start node" (.text "start failed")), ⟨none, none, true, false, false⟩) ∧
      (App.new startFailsEnv { joinOptions with cluster := [] }
          ⟨none, none, true, false, false⟩).1 =
        .error (.text "bootstrap node can't join a cluster") :=
  ⟨rfl, rfl⟩

/-! ## What every failed `New` leaves -/

section Restores

variable (env : NewEnv)

/-- When `New` fails, `info.yaml` and `cluster.yaml` are as they were before the call, no node it
started runs and no listener it opened is open; the join file was there before, or `New`
wrote it for a joining node with no `info.yaml`. -/
theorem new_error_restores (o : Options) (info : Option NodeInfo) (store : Option (List NodeInfo))
    (join : Bool) {e : GoError} {s : AppState}
    (h : App.new env o (AppState.init info store join) = (.error e, s)) :
    s = { AppState.init info store join with join := s.join } ∧
      (s.join = join ∨ (s.join = true ∧ info = none ∧ o.cluster ≠ [])) := by
  unfold App.new at h
  split at h
  · cases h; exact ⟨rfl, .inl rfl⟩
  rcases h₁ : loadInfo env o (AppState.init info store join) with ⟨_ | ⟨i, ex⟩, cs₁, s₁⟩ <;>
    simp only [h₁] at h
  · cases h; exact (loadInfo_tracked env o h₁).restores
  have t₁ := loadInfo_tracked env o h₁
  rcases h₂ : checkJoin env i cs₁ s₁ with ⟨_ | _, cs₂, s₂⟩ <;> simp only [h₂] at h
  all_goals obtain ⟨rfl, rfl⟩ := checkJoin_state env h₂
  · cases h; exact t₁.restores
  rcases h₃ : openStore env o i ex cs₂ s₂ with ⟨_ | _, cs₃, s₃⟩ <;> simp only [h₃] at h
  all_goals have t₃ := openStore_tracked env t₁ i ex h₃
  · cases h; exact t₃.restores
  rcases h₄ : startNode env cs₃ s₃ with ⟨_ | _, cs₄, s₄⟩ <;> simp only [h₄] at h
  all_goals have t₄ := startNode_tracked env t₃ rfl h₄
  · cases h; exact t₄.restores
  rcases h₅ : registerDriver env o cs₄ s₄ with ⟨_ | _, cs₅, s₅⟩ <;> simp only [h₅] at h
  all_goals obtain ⟨rfl, rfl⟩ := registerDriver_state env h₅
  · cases h; exact t₄.restores
  rcases h₆ : listenProxy env o i cs₅ s₅ with ⟨_ | _, cs₆, s₆⟩ <;> simp only [h₆] at h
  · cases h; exact (listenProxy_tracked env t₄ rfl i h₆).restores
  · cases h

theorem new_error_restores_startFails :
    ∃ e s, App.new startFailsEnv joinOptions (AppState.init none none false) = (.error e, s) ∧
      s = { AppState.init none none false with join := s.join } ∧
      (s.join = false ∨
        (s.join = true ∧ (none : Option NodeInfo) = none ∧ joinOptions.cluster ≠ [])) :=
  ⟨_, _, rfl, new_error_restores startFailsEnv joinOptions none none false rfl⟩

end Restores

/-! ## Opening a database -/

/-- What `App.Open` did besides its result: the pings made and the seconds slept. -/
structure OpenState where
  pings : Nat
  sleeps : Nat
  deriving DecidableEq, Repr

/-- The answer of a ping, as `App.Open` returns it: the handle, or the error. -/
def openResult : Option GoError → Except GoError Unit
  | none => .ok ()
  | some e => .error e

section Open

/- `ping k` is the answer of the `k`-th `db.PingContext(ctx)`. -/
variable (ping : Nat → Option GoError)

/-- The `for range 60` loop of `App.Open` with `n` turns left, `err` the error of the last ping:
ping; stop on success, return an error that is not `ErrNoAvailableLeader` at once, and otherwise
sleep a second and go on. -/
def pingLoop : Nat → Option GoError → OpenState → Option GoError × OpenState
  | 0, err, s => (err, s)
  | n + 1, _, s =>
    match ping s.pings with
    | none => (none, { s with pings := s.pings + 1 })
    | some e =>
      if e.isNoAvailableLeader then pingLoop n (some e) ⟨s.pings + 1, s.sleeps + 1⟩
      else (some e, { s with pings := s.pings + 1 })

/-- `App.Open`: `sql.Open`, answering `sqlOpen`, then the ping loop from a nil error; the
handle is not closed when the pings fail. -/
def appOpen (sqlOpen : Option GoError) : Except GoError Unit × OpenState :=
  match sqlOpen with
  | some e => (.error e, ⟨0, 0⟩)
  | none =>
    let (err, s) := pingLoop ping 60 none ⟨0, 0⟩
    (openResult err, s)

end Open

end Cowsql
