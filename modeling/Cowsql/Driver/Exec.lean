import Cowsql.Protocol.Sticky

/-!
# Statements that do not return rows

`driverError`, `Conn.ExecContext`, `Stmt.ExecContext`, `Conn.BeginTx`, `Tx.Commit`,
`Tx.Rollback`, `Conn.PrepareContext` and `Stmt.Close` of `driver.go`.

`database/sql` runs an operation again on a fresh connection when it fails with
`driver.ErrBadConn`, so that error should only come back when the server cannot have run the
statement.  `driverError` turns into `ErrBadConn` every error carrying an errno or a network
error, every `io.EOF`, and the failure codes of leadership loss, not-found and zero; a network
error can come from the receive half of `Protocol.Call`, after the whole request went out.
`driverError` changes nothing the second time, so `Tx.Commit` and `Tx.Rollback` hand the error
of their `ExecContext` on unchanged.  A prepared statement shares the protocol and buffers of
its connection.
-/

namespace Cowsql

/-- `errIoErr`, SQLite's `SQLITE_IOERR`. -/
def errIoErr : UInt64 := 10
/-- `errIoErrNotLeader`. -/
def errIoErrNotLeader : UInt64 := errIoErr ||| ((40 : UInt64) <<< 8)
/-- `errIoErrLeadershipLost`. -/
def errIoErrLeadershipLost : UInt64 := errIoErr ||| ((41 : UInt64) <<< 8)
/-- `errNotFound`, SQLite's `SQLITE_NOTFOUND`. -/
def errNotFound : UInt64 := 12
/-- `errIoErrNotLeaderLegacy`. -/
def errIoErrNotLeaderLegacy : UInt64 := errIoErr ||| ((32 : UInt64) <<< 8)
/-- `errIoErrLeadershipLostLegacy`. -/
def errIoErrLeadershipLostLegacy : UInt64 := errIoErr ||| ((33 : UInt64) <<< 8)

/-- `driverError`: the error the driver hands to `database/sql`.  The log messages are left
out. -/
def driverError (err : GoError) : GoError :=
  if err.errnoOf ≠ 0 then .badConn
  else if err.netOpOf.isSome then .badConn
  else
    match err.requestOf with
    | some (code, description) =>
      if code = errIoErrNotLeaderLegacy ∨ code = errIoErrLeadershipLostLegacy ∨
          code = errIoErrNotLeader ∨ code = errIoErrLeadershipLost then .badConn
      else if code = errNotFound then .badConn
      else if code = 0 then .badConn
      else .sql code.toBitVec.toInt description
    | none => if err.isEOF then .badConn else err

/-- Whether `driverError` calls its log function: on each branch that returns `ErrBadConn`, just
before it returns, and on no other. -/
def driverErrorLogs (err : GoError) : Bool := driverError err == .badConn && err != .badConn

/-- `driverError(log, err)` with a log function that may be nil: calling a nil one panics, and a
panic returns nothing. -/
def driverErrorWith (log : Bool) (err : GoError) : Option GoError :=
  if driverErrorLogs err && !log then none else some (driverError err)

/-- What `driverError` returns: `ErrBadConn`, an application error, or the error itself. -/
theorem driverError_cases (err : GoError) :
    driverError err = .badConn ∨ (∃ code message, driverError err = .sql code message) ∨
      driverError err = err := by
  generalize hd : driverError err = d
  unfold driverError at hd
  -- every branch returns `ErrBadConn`, an application error or `err`
  repeat' split at hd
  all_goals subst hd; first | exact .inl rfl | exact .inr (.inl ⟨_, _, rfl⟩) | exact .inr (.inr rfl)

/-- `driverError` changes nothing the second time. -/
theorem driverError_driverError (err : GoError) : driverError (driverError err) = driverError err := by
  rcases driverError_cases err with h | ⟨code, message, h⟩ | h
  · rw [h]; rfl
  · rw [h]; rfl
  · rw [h]; exact h

/-- The fields of the driver's `Conn` that the modelled code reads and writes: the protocol, the
request and response buffers and the database id. -/
structure DriverConn where
  protocol : Protocol
  request : Message
  response : Message
  id : UInt32

/-- The fields of the driver's `Stmt` that the modelled code reads and writes. -/
structure DriverStmt where
  protocol : Protocol
  request : Message
  response : Message
  db : UInt32
  id : UInt32
  params : UInt64

section Exec

/- `maxEmptyReads` stands for `messageMaxConsecutiveEmptyReads`. -/
variable (maxEmptyReads : Nat) (codec : Codec)

/-- The body shared by `ExecContext` and `QueryContext` of `Conn` and `Stmt`, given their
encoders and decoder: check the parameter count, encode with an 8-bit or a 32-bit count, call,
decode the response; every failure goes through `driverError`.  It gives back the outcome, the
protocol and the two buffers. -/
def callStatement {α : Type} (encodeV0 encodeV1 : Message → List NamedValue → Message)
    (decode : Message → Except GoError α) (p : Protocol) (request response : Message)
    (args : List NamedValue) : Except GoError α × Protocol × Message × Message :=
  if args.length > 4294967295 then
    let e := GoError.text ("too many parameters (" ++ toString args.length ++ ")")
    (.error (driverError e), p, request, response)
  else
    let request := if args.length > 255 then encodeV1 request args else encodeV0 request args
    let x := p.call maxEmptyReads request response
    match x.result with
    | .error e => (.error (driverError e), x.protocol, request, x.response)
    | .ok () =>
      match decode x.response with
      | .error e => (.error (driverError e), x.protocol, request, x.response)
      | .ok result => (.ok result, x.protocol, request, x.response)

/-- `Conn.ExecContext`: `ExecSQL` on the connection's database. -/
def DriverConn.execContext (c : DriverConn) (query : String) (args : List NamedValue) :
    Except GoError ExecResult × DriverConn :=
  match callStatement maxEmptyReads
      (fun m vs => m.encodeExecSQLV0 codec c.id.toUInt64 query vs)
      (fun m vs => m.encodeExecSQLV1 codec c.id.toUInt64 query vs) codec.decodeResult
      c.protocol c.request c.response args with
  | (r, p, request, response) => (r, { c with protocol := p, request, response })

/-- `Stmt.ExecContext`: `Exec` of the prepared statement. -/
def DriverStmt.execContext (s : DriverStmt) (args : List NamedValue) :
    Except GoError ExecResult × DriverStmt :=
  match callStatement maxEmptyReads (fun m vs => m.encodeExecV0 codec s.db s.id vs)
      (fun m vs => m.encodeExecV1 codec s.db s.id vs) codec.decodeResult s.protocol s.request
      s.response args with
  | (r, p, request, response) => (r, { s with protocol := p, request, response })

/-- `Conn.BeginTx`: exec `BEGIN`, handing its error on as it is. -/
def DriverConn.beginTx (c : DriverConn) : Except GoError Unit × DriverConn :=
  match c.execContext maxEmptyReads codec "BEGIN" [] with
  | (.error e, c) => (.error e, c)
  | (.ok _, c) => (.ok (), c)

/-- `Tx.Commit` and `Tx.Rollback`: exec the statement on the transaction's connection, passing
its error through `driverError` once more. -/
def DriverConn.endTx (c : DriverConn) (statement : String) : Except GoError Unit × DriverConn :=
  match c.execContext maxEmptyReads codec statement [] with
  | (.error e, c) => (.error (driverError e), c)
  | (.ok _, c) => (.ok (), c)

/-- `Tx.Commit`. -/
def DriverConn.commit (c : DriverConn) : Except GoError Unit × DriverConn :=
  c.endTx maxEmptyReads codec "COMMIT"

/-- `Tx.Rollback`. -/
def DriverConn.rollback (c : DriverConn) : Except GoError Unit × DriverConn :=
  c.endTx maxEmptyReads codec "ROLLBACK"

/-- `Conn.PrepareContext`: `Prepare` the query on the connection's database.  The statement
shares the connection's protocol and buffers. -/
def DriverConn.prepareContext (c : DriverConn) (query : String) :
    Except GoError DriverStmt × DriverConn :=
  let request := c.request.encodePrepare codec c.id.toUInt64 query
  let x := c.protocol.call maxEmptyReads request c.response
  let c := { c with protocol := x.protocol, request, response := x.response }
  match x.result with
  | .error e => (.error (driverError e), c)
  | .ok () =>
    match codec.decodeStmt x.response with
    | .error e => (.error (driverError e), c)
    | .ok (db, id, params) => (.ok ⟨c.protocol, c.request, c.response, db, id, params⟩, c)

/-- `Stmt.Close`: `Finalize` the statement and expect an empty response. -/
def DriverStmt.close (s : DriverStmt) : Option GoError × DriverStmt :=
  let request := s.request.encodeFinalize s.db s.id
  let x := s.protocol.call maxEmptyReads request s.response
  let s := { s with protocol := x.protocol, request, response := x.response }
  match x.result with
  | .error e => (some (driverError e), s)
  | .ok () =>
    match codec.decodeEmpty x.response with
    | .error e => (some (driverError e), s)
    | .ok () => (none, s)

/-- Every error a statement returns has been through `driverError`. -/
theorem callStatement_error {α : Type} (encodeV0 encodeV1 : Message → List NamedValue → Message)
    (decode : Message → Except GoError α) (p : Protocol) (request response : Message)
    (args : List NamedValue) {e : GoError}
    (h : (callStatement maxEmptyReads encodeV0 encodeV1 decode p request response args).1 =
      .error e) :
    driverError e = e := by
  unfold callStatement at h
  split at h
  · cases h; exact driverError_driverError _
  · dsimp only at h
    split at h
    · cases h; exact driverError_driverError _
    · split at h
      · cases h; exact driverError_driverError _
      · cases h

/-- Every error `Conn.ExecContext` returns has been through `driverError`. -/
theorem DriverConn.execContext_error (c : DriverConn) (query : String) (args : List NamedValue)
    {e : GoError} (h : (c.execContext maxEmptyReads codec query args).1 = .error e) :
    driverError e = e := by
  unfold execContext at h
  split at h
  rename_i heq
  cases h
  exact callStatement_error maxEmptyReads _ _ _ _ _ _ _ (congrArg Prod.fst heq)

/-- `Tx.Commit` and `Tx.Rollback` fail with exactly the error of the statement they exec. -/
theorem DriverConn.endTx_error_iff (c : DriverConn) (statement : String) {e : GoError} :
    (c.endTx maxEmptyReads codec statement).1 = .error e ↔
      (c.execContext maxEmptyReads codec statement []).1 = .error e := by
  unfold endTx
  rcases hx : c.execContext maxEmptyReads codec statement [] with ⟨_ | _, c'⟩
  · have hfix := execContext_error maxEmptyReads codec c statement [] (congrArg Prod.fst hx)
    simp only [Except.error.injEq, hfix]
  · simp

/-- With at most `2^32 - 1` parameters, when the `Call` of the encoded request `req` succeeds and
its response decodes to `a`, a statement returns `a`, the protocol and the response after the
call, and `req`. -/
theorem callStatement_ok {α : Type} (encodeV0 encodeV1 : Message → List NamedValue → Message)
    (decode : Message → Except GoError α) (p : Protocol) (request response : Message)
    (args : List NamedValue) (hargs : args.length ≤ 4294967295) {req : Message}
    (hreq : (if args.length > 255 then encodeV1 request args else encodeV0 request args) = req)
    {a : α} (hcall : (p.call maxEmptyReads req response).result = .ok ())
    (hdec : decode (p.call maxEmptyReads req response).response = .ok a) :
    callStatement maxEmptyReads encodeV0 encodeV1 decode p request response args =
      (.ok a, (p.call maxEmptyReads req response).protocol, req,
        (p.call maxEmptyReads req response).response) := by
  subst hreq
  simp only [callStatement, if_neg (show ¬args.length > 4294967295 by omega), hcall, hdec]

/-- When the request goes out whole and the first read of the response fails with a network
error, a statement returns `ErrBadConn` with the whole request frame written. -/
theorem callStatement_badConn_after_send {α : Type}
    (encodeV0 encodeV1 : Message → List NamedValue → Message) (decode : Message → Except GoError α)
    (p : Protocol) (request response : Message) (args : List NamedValue) (t : Bool)
    (hM : 0 < maxEmptyReads) (hn : p.netErr = none) (hargs : args.length ≤ 4294967295)
    (hw : ∀ k, p.conn.peer.writeStep k = .all)
    (hr : p.conn.peer.readStep p.conn.reads = .fail (.netOp t)) :
    let x := callStatement maxEmptyReads encodeV0 encodeV1 decode p request response args
    x.1 = .error .badConn ∧ x.2.1.conn.sent = p.conn.sent ++ x.2.2.1.frameBytes := by
  rw [callStatement, if_neg (by omega)]
  dsimp only
  obtain ⟨h1, h2⟩ := Protocol.call_of_read_fail maxEmptyReads p
    (if args.length > 255 then encodeV1 request args else encodeV0 request args) response
    (.netOp t) hM hn hw hr
  rw [h1]
  simp [driverError, GoError.errnoOf, GoError.netOpOf, GoError.root, h2]

end Exec

/-- A driver connection whose peer takes every write whole and fails every read with a network
error. -/
def netDownConn : DriverConn := ⟨readFailProtocol, sampleMessage, sampleMessage, 0⟩

/-- `ExecContext` on `netDownConn` writes the whole `ExecSQL` frame, then fails to read the
response, and returns `ErrBadConn`. -/
theorem exec_badConn_after_full_request :
    (DriverConn.execContext 1 simpleCodec netDownConn "INSERT INTO test VALUES (1)" []).1 =
        .error .badConn ∧
      (DriverConn.execContext 1 simpleCodec netDownConn "INSERT INTO test VALUES (1)"
        []).2.protocol.conn.sent =
        (DriverConn.execContext 1 simpleCodec netDownConn "INSERT INTO test VALUES (1)"
          []).2.request.frameBytes := by
  obtain ⟨h1, h2⟩ := callStatement_badConn_after_send 1
    (fun m vs => m.encodeExecSQLV0 simpleCodec 0 "INSERT INTO test VALUES (1)" vs)
    (fun m vs => m.encodeExecSQLV1 simpleCodec 0 "INSERT INTO test VALUES (1)" vs)
    simpleCodec.decodeResult readFailProtocol sampleMessage sampleMessage [] false (by decide) rfl
    (by decide) (fun _ => rfl) rfl
  exact ⟨h1, h2⟩

end Cowsql
