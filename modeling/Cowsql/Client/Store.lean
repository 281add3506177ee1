import Cowsql.Connector.Attempt

/-!
# Node stores

`YamlNodeStore` and `DatabaseNodeStore` of `client/store.go`, the stores the connector reads the
nodes to dial from (`Env.get`).

The YAML store's file holds what the store holds, so that a store opened again on the file after
any run of `Set`s, failed or not, holds the same nodes.  It needs of the YAML library, which is
not among the sources, only that it reads back what it writes.

The database store keeps a table of addresses only, and `Get` makes every node of it a voter
with id 1.  `Set` works in one transaction and rolls it back on every failure after `Begin`, so
a `Set` that fails leaves the table as it was and no transaction open.
-/

namespace Cowsql

/-! ## The YAML store -/

/-- `yaml.Marshal` and `yaml.Unmarshal` of a node list. -/
structure YamlCodec where
  marshal : List NodeInfo → Except GoError (List UInt8)
  unmarshal : List UInt8 → Except GoError (List NodeInfo)

/-- The YAML library reads back what it writes. -/
def YamlCodec.RoundTrips (yaml : YamlCodec) : Prop :=
  ∀ ns data, yaml.marshal ns = .ok data → yaml.unmarshal data = .ok ns

/-- The file system as the store uses it: `os.Stat` fails with `statErr` (a file that does not
exist is no error), `os.ReadFile` with `readErr`, and the `k`-th `renameio.WriteFile` with
`writeErr k`.  `renameio` writes a temporary file and renames it over the store's file, so a
write that fails leaves the file as it was. -/
structure FileSystem where
  statErr : Option GoError
  readErr : Option GoError
  writeErr : Nat → Option GoError

/-- The store's file, if it exists, and the count of writes made to it. -/
structure Disk where
  file : Option (List UInt8)
  writes : Nat

/-- `YamlNodeStore`: the nodes it holds; its file is on the `Disk`. -/
structure YamlNodeStore where
  servers : List NodeInfo

section Yaml

variable (yaml : YamlCodec) (fs : FileSystem)

/-- `NewYamlNodeStore`: no nodes when the file does not exist, otherwise the nodes the file
holds. -/
def newYamlNodeStore (disk : Disk) : Except GoError YamlNodeStore :=
  match fs.statErr, disk.file with
  | some e, _ => .error e
  | none, none => .ok ⟨[]⟩
  | none, some data =>
    match fs.readErr with
    | some e => .error e
    | none => (yaml.unmarshal data).map fun servers => ⟨servers⟩

/-- `YamlNodeStore.Get`: a copy of the nodes. -/
def YamlNodeStore.get (s : YamlNodeStore) : List NodeInfo := s.servers

/-- `YamlNodeStore.Set`: write the nodes to the file, then keep them. -/
def YamlNodeStore.set (servers : List NodeInfo) (s : YamlNodeStore) (disk : Disk) :
    Option GoError × YamlNodeStore × Disk :=
  match yaml.marshal servers with
  | .error e => (some e, s, disk)
  | .ok data =>
    match fs.writeErr disk.writes with
    | some e => (some e, s, { disk with writes := disk.writes + 1 })
    | none => (none, ⟨servers⟩, ⟨some data, disk.writes + 1⟩)

/-- The store and its file agree: the file holds the store's nodes, and with no file the store
holds none. -/
def Persisted (s : YamlNodeStore) (disk : Disk) : Prop :=
  match disk.file with
  | none => s.servers = []
  | some data => yaml.unmarshal data = .ok s.servers

/-- A store just opened agrees with its file. -/
theorem newYamlNodeStore_persisted {disk : Disk} {s : YamlNodeStore}
    (h : newYamlNodeStore yaml fs disk = .ok s) : Persisted yaml s disk := by
  unfold newYamlNodeStore at h
  unfold Persisted
  cases hst : fs.statErr with
  | some e => rw [hst] at h; cases h
  | none =>
    cases hf : disk.file with
    | none => rw [hst, hf] at h; cases h; rfl
    | some data =>
      cases hr : fs.readErr with
      | some e => simp only [hst, hf, hr] at h; cases h
      | none =>
        simp only [hst, hf, hr] at h
        cases hu : yaml.unmarshal data with
        | error e => rw [hu] at h; cases h
        | ok servers => rw [hu] at h; cases h; exact hu

/-- **Step lemma.** `Set` keeps the store and its file in agreement. -/
theorem YamlNodeStore.set_persisted (hyaml : yaml.RoundTrips) (servers : List NodeInfo)
    {s : YamlNodeStore} {disk : Disk} (h : Persisted yaml s disk) :
    Persisted yaml (s.set yaml fs servers disk).2.1 (s.set yaml fs servers disk).2.2 := by
  unfold YamlNodeStore.set
  split
  · exact h
  · rename_i data hm
    split
    · exact h
    · exact hyaml _ _ hm

/-- `n` calls of `Set`, one per node list: their errors, and the store and file after them. -/
def YamlNodeStore.setAll : List (List NodeInfo) → YamlNodeStore → Disk →
    List (Option GoError) × YamlNodeStore × Disk
  | [], s, disk => ([], s, disk)
  | ns :: nss, s, disk =>
    let x := s.set yaml fs ns disk
    let y := setAll nss x.2.1 x.2.2
    (x.1 :: y.1, y.2)

/-- **Run lemma.** After any run of `Set`s, failed or not, the store and its file agree. -/
theorem YamlNodeStore.setAll_persisted (hyaml : yaml.RoundTrips) (nss : List (List NodeInfo)) :
    ∀ {s : YamlNodeStore} {disk : Disk}, Persisted yaml s disk →
      Persisted yaml (s.setAll yaml fs nss disk).2.1 (s.setAll yaml fs nss disk).2.2 := by
  induction nss with
  | nil => exact fun h => h
  | cons ns nss ih => exact fun h => ih (YamlNodeStore.set_persisted yaml fs hyaml ns h)

/-- A store opened on its file again, after any run of `Set`s on a store opened on it, holds the
same nodes as the store the run left. -/
theorem reopen_after_sets (hyaml : yaml.RoundTrips) (nss : List (List NodeInfo)) {disk : Disk}
    {s : YamlNodeStore} (h : newYamlNodeStore yaml fs disk = .ok s) (fs' : FileSystem)
    (hstat : fs'.statErr = none) (hread : fs'.readErr = none) :
    newYamlNodeStore yaml fs' (s.setAll yaml fs nss disk).2.2 =
      .ok (s.setAll yaml fs nss disk).2.1 := by
  have hp := YamlNodeStore.setAll_persisted yaml fs hyaml nss (newYamlNodeStore_persisted yaml fs h)
  generalize (s.setAll yaml fs nss disk).2.1 = s' at hp ⊢
  generalize (s.setAll yaml fs nss disk).2.2 = disk' at hp ⊢
  obtain ⟨servers⟩ := s'
  unfold Persisted at hp
  unfold newYamlNodeStore
  rw [hstat]
  split at hp
  · rename_i hfile; dsimp only at hp; subst hp; rw [hfile]
  · rename_i data hfile; simp [hfile, hread, hp, Except.map]

/-- A YAML library for the samples that writes the empty node list and the one voter `1` at
`"a"` only, each as a byte of its own. -/
def sampleYaml : YamlCodec where
  marshal ns :=
    if ns = [] then .ok [0] else if ns = [⟨1, "a", 0⟩] then .ok [1]
    else .error (.text "unsupported")
  unmarshal data :=
    if data = [0] then .ok [] else if data = [1] then .ok [⟨1, "a", 0⟩]
    else .error (.text "malformed")

/-- A file system on which every write after the first fails. -/
def fullAfterOneWrite : FileSystem := ⟨none, none, fun k => if k = 0 then none else
  some (.text "disk full")⟩

/-- On a disk whose second write fails, a store opened on no file, set to the one voter and then
to no node, is opened again holding the voter. -/
theorem reopen_after_sets_sample :
    newYamlNodeStore sampleYaml ⟨none, none, fun _ => none⟩
        (YamlNodeStore.setAll sampleYaml fullAfterOneWrite [[⟨1, "a", 0⟩], []] ⟨[]⟩
          ⟨none, 0⟩).2.2 =
      .ok (YamlNodeStore.setAll sampleYaml fullAfterOneWrite [[⟨1, "a", 0⟩], []] ⟨[]⟩
        ⟨none, 0⟩).2.1 := by
  have hyaml : sampleYaml.RoundTrips := by
    intro ns data h
    simp only [sampleYaml] at h ⊢
    split_ifs at h <;> cases h <;> simp_all
  exact @reopen_after_sets sampleYaml fullAfterOneWrite hyaml [[⟨1, "a", 0⟩], []] ⟨none, 0⟩ ⟨[]⟩ rfl
    ⟨none, none, fun _ => none⟩ rfl rfl

end Yaml

/-! ## The database store -/

/-- The database behind the store: the servers table's addresses, in the order `SELECT` returns
them, whether its address column is `UNIQUE`, as `DefaultNodeStore` creates it, and the rows as
the open transaction sees them, if one is open. -/
structure ServersDb where
  addresses : List String
  unique : Bool
  tx : Option (List String)
  deriving DecidableEq, Repr

/-- `db.Begin`: a transaction that sees the table as it is. -/
def ServersDb.begin (db : ServersDb) : ServersDb := { db with tx := some db.addresses }

/-- The `DELETE` of every row, in the open transaction. -/
def ServersDb.deleteAll (db : ServersDb) : ServersDb := { db with tx := some [] }

/-- `tx.Rollback`: the transaction ends and the table is left as it was. -/
def ServersDb.rollback (db : ServersDb) : ServersDb := { db with tx := none }

/-- `tx.Commit` that succeeds: the transaction's rows become the table's. -/
def ServersDb.commit (db : ServersDb) : ServersDb :=
  { db with addresses := db.tx.getD db.addresses, tx := none }

/-- The steps of the database store that can fail on their own. -/
inductive DbStep where
  | begin
  | delete
  | prepare
  | insert (address : String)
  | commit
  | query
  | scan
  | rows
  deriving DecidableEq, Repr

/-- `DatabaseNodeStore`: the `WHERE` clause of its query, as the addresses it selects. -/
structure DatabaseNodeStore where
  whereClause : Option (String → Bool)

/-- Whether the query of `Get` selects a row: every row when the clause is empty. -/
def DatabaseNodeStore.selects (d : DatabaseNodeStore) (address : String) : Bool :=
  match d.whereClause with
  | none => true
  | some p => p address

section Database

/- `fails` says which steps of the database fail, and with what; `uniqueErr` is the database's
error for an address already in a `UNIQUE` column. -/
variable (fails : DbStep → Option GoError) (uniqueErr : GoError)

/-- `ExecContext` of the prepared insert, in the open transaction. -/
def ServersDb.insert (address : String) (db : ServersDb) : Option GoError × ServersDb :=
  match fails (.insert address) with
  | some e => (some e, db)
  | none =>
    if db.unique && (db.tx.getD []).contains address then (some uniqueErr, db)
    else (none, { db with tx := some (db.tx.getD [] ++ [address]) })

/-- The loop of `Set` inserting the addresses. -/
def insertAll : List NodeInfo → ServersDb → Option GoError × ServersDb
  | [], db => (none, db)
  | server :: servers, db =>
    match db.insert fails uniqueErr server.address with
    | (some e, db) => (some (.wrap ("failed to insert server " ++ server.address) e), db)
    | (none, db) => insertAll servers db

/-- `DatabaseNodeStore.Set`: in one transaction, delete every row, then insert the addresses.
Every failure after `Begin` calls `Rollback`, but that of the commit, which ends the transaction
without applying it. -/
def DatabaseNodeStore.set (servers : List NodeInfo) (db : ServersDb) :
    Option GoError × ServersDb :=
  match fails .begin with
  | some e => (some (.wrap "failed to begin transaction" e), db)
  | none =>
    match fails .delete with
    | some e => (some (.wrap "failed to delete existing servers rows" e), db.begin.rollback)
    | none =>
      match fails .prepare with
      | some e =>
        (some (.wrap "failed to prepare insert statement" e), db.begin.deleteAll.rollback)
      | none =>
        match insertAll fails uniqueErr servers db.begin.deleteAll with
        | (some e, db') => (some e, db'.rollback)
        | (none, db') =>
          match fails .commit with
          | some e => (some (.wrap "failed to commit transaction" e), { db' with tx := none })
          | none => (none, db'.commit)

/-- `DatabaseNodeStore.Get`: in a transaction of its own, rolled back on return, select the
addresses, each a node with id 1. -/
def DatabaseNodeStore.get (d : DatabaseNodeStore) (db : ServersDb) :
    Except GoError (List NodeInfo) :=
  match fails .begin with
  | some e => .error (.wrap "failed to begin transaction" e)
  | none =>
    match fails .query with
    | some e => .error (.wrap "failed to query servers table" e)
    | none =>
      let addresses := db.addresses.filter d.selects
      match fails .scan, addresses with
      | some e, _ :: _ => .error (.wrap "failed to fetch server address" e)
      | _, _ =>
        match fails .rows with
        | some e => .error (.wrap "result set failure" e)
        | none => .ok (addresses.map fun address => ⟨1, address, 0⟩)

@[simp] theorem ServersDb.begin_rollback (db : ServersDb) : db.begin.rollback = db.rollback := rfl

@[simp] theorem ServersDb.deleteAll_rollback (db : ServersDb) :
    db.deleteAll.rollback = db.rollback := rfl

/-- With no transaction open, a rollback changes nothing. -/
theorem ServersDb.rollback_of_tx_none {db : ServersDb} (h : db.tx = none) : db.rollback = db := by
  cases db; cases h; rfl

/-- **Step lemma.** An insert changes only the transaction's rows. -/
@[simp] theorem ServersDb.insert_rollback (address : String) (db : ServersDb) :
    (db.insert fails uniqueErr address).2.rollback = db.rollback := by
  unfold ServersDb.insert
  split
  · rfl
  · split <;> rfl

/-- **Run lemma.** The insert loop changes only the transaction's rows. -/
theorem insertAll_rollback :
    ∀ (servers : List NodeInfo) (db : ServersDb),
      (insertAll fails uniqueErr servers db).2.rollback = db.rollback
  | [], _ => rfl
  | server :: servers, db => by
    unfold insertAll
    rcases hx : db.insert fails uniqueErr server.address with ⟨_ | e, db'⟩
    · rw [insertAll_rollback servers db', ← ServersDb.insert_rollback fails uniqueErr
        server.address db, hx]
    · rw [← ServersDb.insert_rollback fails uniqueErr server.address db, hx]

/-- A `Set` started with no transaction open that fails, at whatever step, leaves the table as
it was and no transaction open. -/
theorem DatabaseNodeStore.set_error (servers : List NodeInfo) {db : ServersDb}
    (htx : db.tx = none) {e : GoError}
    (h : (DatabaseNodeStore.set fails uniqueErr servers db).1 = some e) :
    (DatabaseNodeStore.set fails uniqueErr servers db).2 = db := by
  have hins : ∀ {r db'}, insertAll fails uniqueErr servers db.begin.deleteAll = (r, db') →
      db'.rollback = db := fun hx => calc
    _ = (insertAll fails uniqueErr servers db.begin.deleteAll).2.rollback := by rw [hx]
    _ = db.rollback := insertAll_rollback fails uniqueErr servers _
    _ = db := ServersDb.rollback_of_tx_none htx
  unfold DatabaseNodeStore.set at h ⊢
  split
  · rfl -- `Begin` failed
  split
  · exact ServersDb.rollback_of_tx_none htx -- the `DELETE` failed
  split
  · exact ServersDb.rollback_of_tx_none htx -- the `Prepare` failed
  split
  · exact hins ‹_› -- an insert failed
  split
  · exact hins ‹_› -- the commit failed
  · simp_all -- the `Set` succeeded

/-- On a `UNIQUE` column, a `Set` of two nodes at one address fails at its second insert and
rolls the first back. -/
theorem set_error_duplicateAddress :
    (DatabaseNodeStore.set (fun _ => none) (.text "UNIQUE constraint failed")
        [⟨1, "a", 0⟩, ⟨2, "a", 1⟩] ⟨["b"], true, none⟩).1 =
        some (.wrap "failed to insert server a" (.text "UNIQUE constraint failed")) ∧
      (DatabaseNodeStore.set (fun _ => none) (.text "UNIQUE constraint failed")
        [⟨1, "a", 0⟩, ⟨2, "a", 1⟩] ⟨["b"], true, none⟩).2 = ⟨["b"], true, none⟩ :=
  ⟨rfl, DatabaseNodeStore.set_error (fun _ => none) _ _ rfl rfl⟩

end Database

end Cowsql
