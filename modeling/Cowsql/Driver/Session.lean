import Cowsql.Connector.Connect
import Cowsql.Driver.Query

/-!
# Sessions on one connection

`Connector.Connect` of `driver.go`, which opens a database on the leader the protocol's
connector found, and the driver's operations on one connection, one after another, against a
server that answers each request in order (`Serves`).  Each operation that succeeds reads its
responses and leaves a protocol serving the frames after them.  Chained, they give whole
sessions: a statement prepared, executed and closed (`prepare_exec_close`), and a query given up
in its first part, closed, and followed by an `ExecContext` on the same connection that reads
the response to its own request (`query_close_exec`).
-/

namespace Cowsql

/-- `Protocol.Close`, on the connection records: the protocol's connection is closed. -/
def Net.close (p : Protocol) (s : Net) : Net :=
  { s with conns := List.modify ConnRecord.close p.conn.fd s.conns }

section Open

/- `maxEmptyReads` stands for `messageMaxConsecutiveEmptyReads`. -/
variable (maxEmptyReads : Nat) (env : Env) (ctx : Ctx) (roleSort : RoleSort)

/-- `Connector.Connect` of the driver, for the database `uri`, the retry loop of the protocol's
connector (client id 0) run for at most `fuel` rounds; then `Open` the database on the leader
found, closing the connection when that fails.  A panic of the protocol's connector propagates:
that run, like one out of fuel, returns nothing. -/
def driverConnect (uri : String) (config : Config) (fuel : Nat) :
    Option (Except GoError DriverConn × Net) :=
  match connect maxEmptyReads 0 env ctx roleSort config fuel with
  | none => none
  | some (.panic _, _) => none
  | some (.error e, s) => some (.error (.wrap "failed to create cowsql connection" e), s)
  | some (.ok p, s) =>
    let request := (Message.init 4096 (by decide)).encodeOpen env.codec uri 0 "volatile"
    let x := p.call maxEmptyReads request (Message.init 4096 (by decide))
    match x.result with
    | .error e => some (.error (.wrap "failed to open database" e), s.close x.protocol)
    | .ok () =>
      match env.codec.decodeDb x.response with
      | .error e => some (.error (.wrap "failed to open database" e), s.close x.protocol)
      | .ok id => some (.ok ⟨x.protocol, request, x.response, id⟩, s)

end Open

section Session

/- `maxEmptyReads` stands for `messageMaxConsecutiveEmptyReads`. -/
variable (maxEmptyReads : Nat) (codec : Codec)

/-- When the `Call` of `Prepare` succeeds and its response decodes to a statement,
`PrepareContext` returns that statement on the protocol and buffers the call leaves. -/
theorem DriverConn.prepareContext_ok (c : DriverConn) (query : String) {x : Exchange}
    (hx : c.protocol.call maxEmptyReads (c.request.encodePrepare codec c.id.toUInt64 query)
      c.response = x)
    (hcall : x.result = .ok ()) {db id : UInt32} {params : UInt64}
    (hdec : codec.decodeStmt x.response = .ok (db, id, params)) :
    (c.prepareContext maxEmptyReads codec query).1 =
      .ok ⟨x.protocol, c.request.encodePrepare codec c.id.toUInt64 query, x.response, db, id,
        params⟩ := by
  subst hx
  simp only [prepareContext, hcall, hdec]

/-- On a protocol serving `f :: rest`, `PrepareContext` returns the statement `f` decodes to, on
a protocol serving `rest`. -/
theorem DriverConn.prepareContext_serves (c : DriverConn) (query : String) {f : Frame}
    {rest : List Frame} (h : Serves maxEmptyReads c.protocol (f :: rest)) {db id : UInt32}
    {params : UInt64}
    (hd : ∀ m : Message, m.frame = f → codec.decodeStmt m = .ok (db, id, params)) :
    ∃ s, (c.prepareContext maxEmptyReads codec query).1 = .ok s ∧ s.db = db ∧ s.id = id ∧
      s.params = params ∧ Serves maxEmptyReads s.protocol rest := by
  obtain ⟨h1, h2, h3⟩ := h.call maxEmptyReads (c.request.encodePrepare codec c.id.toUInt64 query)
    c.response
  exact ⟨_, DriverConn.prepareContext_ok maxEmptyReads codec c query rfl h1 (hd _ h2), rfl, rfl,
    rfl, h3⟩

/-- On a protocol serving `f :: rest`, the prepared statement's `ExecContext` returns the result
`f` decodes to; the statement is the same one, on a protocol serving `rest`. -/
theorem DriverStmt.execContext_serves (s : DriverStmt) (args : List NamedValue)
    (hargs : args.length ≤ 4294967295) {f : Frame} {rest : List Frame}
    (h : Serves maxEmptyReads s.protocol (f :: rest)) {res : ExecResult}
    (hd : ∀ m : Message, m.frame = f → codec.decodeResult m = .ok res) :
    (s.execContext maxEmptyReads codec args).1 = .ok res ∧
      (s.execContext maxEmptyReads codec args).2.db = s.db ∧
      (s.execContext maxEmptyReads codec args).2.id = s.id ∧
      Serves maxEmptyReads (s.execContext maxEmptyReads codec args).2.protocol rest := by
  obtain ⟨h1, h2⟩ := callStatement_serves maxEmptyReads
    (fun m vs => m.encodeExecV0 codec s.db s.id vs) (fun m vs => m.encodeExecV1 codec s.db s.id vs)
    codec.decodeResult s.protocol s.request s.response args hargs h hd
  unfold execContext
  split
  rename_i heq
  rw [heq] at h1 h2
  exact ⟨h1, rfl, rfl, h2⟩

/-- On a protocol serving `f :: rest`, the connection's `ExecContext` returns the result `f`
decodes to, and leaves a protocol serving `rest`. -/
theorem DriverConn.execContext_serves (c : DriverConn) (query : String) (args : List NamedValue)
    (hargs : args.length ≤ 4294967295) {f : Frame} {rest : List Frame}
    (h : Serves maxEmptyReads c.protocol (f :: rest)) {res : ExecResult}
    (hd : ∀ m : Message, m.frame = f → codec.decodeResult m = .ok res) :
    (c.execContext maxEmptyReads codec query args).1 = .ok res ∧
      Serves maxEmptyReads (c.execContext maxEmptyReads codec query args).2.protocol rest := by
  obtain ⟨h1, h2⟩ := callStatement_serves maxEmptyReads
    (fun m vs => m.encodeExecSQLV0 codec c.id.toUInt64 query vs)
    (fun m vs => m.encodeExecSQLV1 codec c.id.toUInt64 query vs) codec.decodeResult c.protocol
    c.request c.response args hargs h hd
  unfold execContext
  split
  rename_i heq
  rw [heq] at h1 h2
  exact ⟨h1, h2⟩

/-- On a protocol serving `f :: rest`, with `f` an empty response, `Stmt.Close` returns nil and
leaves a protocol serving `rest`. -/
theorem DriverStmt.close_serves (s : DriverStmt) {f : Frame} {rest : List Frame}
    (h : Serves maxEmptyReads s.protocol (f :: rest))
    (hd : ∀ m : Message, m.frame = f → codec.decodeEmpty m = .ok ()) :
    (s.close maxEmptyReads codec).1 = none ∧
      Serves maxEmptyReads (s.close maxEmptyReads codec).2.protocol rest := by
  obtain ⟨h1, h2, h3⟩ := h.call maxEmptyReads (s.request.encodeFinalize s.db s.id) s.response
  simp only [DriverStmt.close, h1, hd _ h2, true_and]
  exact h3

/-- A server that answers `Prepare` with a statement, `Exec` with a result and `Finalize` with an
empty response: the statement `PrepareContext` returns executes to that result and closes with
nil, and the connection then serves what follows. -/
theorem prepare_exec_close (c : DriverConn) (query : String) (args : List NamedValue)
    (hargs : args.length ≤ 4294967295) {f₁ f₂ f₃ : Frame} {rest : List Frame}
    (h : Serves maxEmptyReads c.protocol (f₁ :: f₂ :: f₃ :: rest)) {db id : UInt32}
    {params : UInt64} {res : ExecResult}
    (hd₁ : ∀ m : Message, m.frame = f₁ → codec.decodeStmt m = .ok (db, id, params))
    (hd₂ : ∀ m : Message, m.frame = f₂ → codec.decodeResult m = .ok res)
    (hd₃ : ∀ m : Message, m.frame = f₃ → codec.decodeEmpty m = .ok ()) :
    ∃ s, (c.prepareContext maxEmptyReads codec query).1 = .ok s ∧ s.db = db ∧ s.id = id ∧
      (s.execContext maxEmptyReads codec args).1 = .ok res ∧
      ((s.execContext maxEmptyReads codec args).2.close maxEmptyReads codec).1 = none ∧
      Serves maxEmptyReads
        ((s.execContext maxEmptyReads codec args).2.close maxEmptyReads codec).2.protocol rest := by
  obtain ⟨s, hs, hdb, hid, -, h₁⟩ :=
    DriverConn.prepareContext_serves maxEmptyReads codec c query h hd₁
  obtain ⟨he, -, -, h₂⟩ := DriverStmt.execContext_serves maxEmptyReads codec s args hargs h₁ hd₂
  exact ⟨s, hs, hdb, hid, he, DriverStmt.close_serves maxEmptyReads codec _ h₂ hd₃⟩

/-- A codec for the samples that decodes a response by its type alone: a statement (database 1,
statement 1, no parameters) from type 5 and an empty result from type 6; the rest as
`simpleCodec`. -/
def typeCodec : Codec :=
  { simpleCodec with
    decodeStmt := fun m =>
      if m.mtype = 5 then .ok (1, 1, 0) else .error (.text "unexpected response")
    decodeResult := fun m =>
      if m.mtype = 6 then .ok ⟨0, 0⟩ else .error (.text "unexpected response") }

theorem prepare_exec_close_sample :
    ∃ s, ((framesConn [⟨0, 5, 0, 0, []⟩, ⟨0, 6, 0, 0, []⟩, ⟨0, 8, 0, 0, []⟩]).prepareContext 1
        typeCodec "INSERT INTO t VALUES (1)").1 = .ok s ∧ s.db = 1 ∧ s.id = 1 ∧
      (s.execContext 1 typeCodec []).1 = .ok ⟨0, 0⟩ ∧
      ((s.execContext 1 typeCodec []).2.close 1 typeCodec).1 = none ∧
      Serves 1 ((s.execContext 1 typeCodec []).2.close 1 typeCodec).2.protocol [] :=
  prepare_exec_close 1 typeCodec (framesConn _) _ [] (by decide)
    (framesProtocol_serves _ (by decide)) (fun _ h => if_pos (congrArg Frame.mtype h))
    (fun _ h => if_pos (congrArg Frame.mtype h)) (fun _ h => if_pos (congrArg Frame.mtype h))

/-- A decoder that reads every frame as an empty part that is not the last. -/
def emptyPartDecoder : Frame → Except GoError (Part Nat) := fun _ => .ok ⟨[], false⟩

/-- A query given up in its first part, a part that is not the last, then closed: `Close`
interrupts it, reading the frames the server still sends for it up to its empty response, and
an `ExecContext` on the same connection, its protocol and response buffer those the rows left,
reads the response to its own request. -/
theorem query_close_exec {Row : Type} (decodeRows : Frame → Except GoError (Part Row))
    (c : DriverConn) (query : String) (args : List NamedValue) (hargs : args.length ≤ 4294967295)
    (fuel : Nat) (statement : String) {f₀ e f : Frame} {pre rest : List Frame}
    (h : Serves maxEmptyReads c.protocol (f₀ :: (pre ++ e :: f :: rest))) {p₀ : Part Row}
    (hd₀ : decodeRows f₀ = .ok p₀) (hfinal : p₀.final = false)
    (hpre : ∀ g ∈ pre, g.mtype ≠ responseEmpty) (he : e.mtype = responseEmpty)
    (hfuel : pre.length < fuel) {res : ExecResult}
    (hd : ∀ m : Message, m.frame = f → codec.decodeResult m = .ok res) :
    ∃ r r', (c.queryContext maxEmptyReads codec decodeRows query args).1 = .ok r ∧
      r.close maxEmptyReads fuel = some (none, r') ∧
      ({ (c.queryContext maxEmptyReads codec decodeRows query args).2 with
          protocol := r'.protocol, response := r'.response }.execContext maxEmptyReads codec
          statement []).1 = .ok res := by
  obtain ⟨r, hq, hrows, hcons, -, h₁⟩ :=
    DriverConn.queryContext_serves maxEmptyReads codec decodeRows c query args hargs h hd₀
  obtain ⟨r', hc, h₂⟩ := WireRows.close_serves maxEmptyReads fuel hcons (hrows ▸ hfinal) h₁ hpre he
    hfuel
  exact ⟨r, r', hq, hc, (DriverConn.execContext_serves maxEmptyReads codec _ statement []
    (by simp) h₂ hd).1⟩

theorem query_close_exec_sample :
    ∃ r r', ((framesConn [⟨0, 7, 0, 0, []⟩, ⟨0, 8, 0, 0, []⟩, ⟨0, 6, 0, 0, []⟩]).queryContext 1
        typeCodec emptyPartDecoder "SELECT 1" []).1 = .ok r ∧
      r.close 1 1 = some (none, r') ∧
      ({ ((framesConn [⟨0, 7, 0, 0, []⟩, ⟨0, 8, 0, 0, []⟩, ⟨0, 6, 0, 0, []⟩]).queryContext 1
          typeCodec emptyPartDecoder "SELECT 1" []).2 with
          protocol := r'.protocol, response := r'.response }.execContext 1 typeCodec
          "COMMIT" []).1 = .ok ⟨0, 0⟩ :=
  @query_close_exec 1 typeCodec Nat emptyPartDecoder (framesConn _) "SELECT 1" [] (by decide) 1
    "COMMIT" ⟨0, 7, 0, 0, []⟩ ⟨0, 8, 0, 0, []⟩ ⟨0, 6, 0, 0, []⟩ [] [] (framesProtocol_serves _
      (by decide)) _ rfl rfl (by simp) rfl (by decide) _
    (fun _ h => if_pos (congrArg Frame.mtype h))

end Session

end Cowsql
