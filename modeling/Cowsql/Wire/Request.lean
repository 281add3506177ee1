import Cowsql.Wire.Message

/-!
# Request encoders and the codec

The request type codes, the response type codes and the encoders of `request.go` that the
modelled code calls.  Each encoder resets the message, puts its fields and finishes with
`putHeader`.

`request.go` builds its requests from the `put` functions of `message.go`, and the callers
decode responses with the functions of `response.go`; neither file is among the sources.  The
fixed-width puts are modelled from the specification in `Cowsql.Wire.Message`; the others, and
the decoders, are the fields of a `Codec`, a parameter of everything that uses them.
-/

namespace Cowsql

/-! ## Type codes -/

/-- `RequestLeader`. -/
def requestLeader : UInt8 := 0
/-- `RequestClient`. -/
def requestClient : UInt8 := 1
/-- `RequestOpen`. -/
def requestOpen : UInt8 := 3
/-- `RequestPrepare`. -/
def requestPrepare : UInt8 := 4
/-- `RequestExec`. -/
def requestExec : UInt8 := 5
/-- `RequestQuery`. -/
def requestQuery : UInt8 := 6
/-- `RequestFinalize`. -/
def requestFinalize : UInt8 := 7
/-- `RequestExecSQL`. -/
def requestExecSQL : UInt8 := 8
/-- `RequestQuerySQL`. -/
def requestQuerySQL : UInt8 := 9
/-- `RequestInterrupt`. -/
def requestInterrupt : UInt8 := 10
/-- `RequestAdd`. -/
def requestAdd : UInt8 := 12
/-- `RequestAssign`. -/
def requestAssign : UInt8 := 13
/-- `RequestRemove`. -/
def requestRemove : UInt8 := 14
/-- `RequestDump`. -/
def requestDump : UInt8 := 15
/-- `RequestCluster`. -/
def requestCluster : UInt8 := 16
/-- `RequestTransfer`. -/
def requestTransfer : UInt8 := 17
/-- `RequestDescribe`. -/
def requestDescribe : UInt8 := 18
/-- `RequestWeight`. -/
def requestWeight : UInt8 := 19

/-- `ResponseFailure`. -/
def responseFailure : UInt8 := 0
/-- `ResponseEmpty`. -/
def responseEmpty : UInt8 := 8

/-- `requestDesc`: the name of a request type, as error messages print it. -/
def requestDesc (code : UInt8) : String :=
  match code.toNat with
  | 0 => "leader"
  | 1 => "client"
  | 2 => "heartbeat"
  | 3 => "open"
  | 4 => "prepare"
  | 5 => "exec"
  | 6 => "query"
  | 7 => "finalize"
  | 8 => "exec-sql"
  | 9 => "query-sql"
  | 10 => "interrupt"
  | 12 => "add"
  | 13 => "assign"
  | 14 => "remove"
  | 15 => "dump"
  | 16 => "cluster"
  | 17 => "transfer"
  | 18 => "describe"
  | _ => "unknown"

/-! ## Values and the codec -/

/-- A statement parameter's value, of one of the kinds the protocol encodes; a float is kept as
its IEEE-754 bits and a time as nanoseconds since the Unix epoch. -/
inductive Value where
  | integer (v : Int)
  | float (bits : UInt64)
  | text (s : String)
  | blob (b : List UInt8)
  | boolean (b : Bool)
  | null
  | time (unixNanos : Int)
  deriving DecidableEq, Repr

/-- `driver.NamedValue`: a parameter and the placeholder it binds. -/
structure NamedValue where
  ordinal : Nat
  value : Value
  deriving DecidableEq, Repr

/-- `protocol.Result`: what an exec returns. -/
structure ExecResult where
  lastInsertID : UInt64
  rowsAffected : UInt64
  deriving DecidableEq, Repr

/-- The functions of `message.go` and `response.go` that the modelled code calls and the sources
do not contain. -/
structure Codec where
  /-- `putString`. -/
  putString : Message → String → Message
  /-- `putNamedValues`, with an 8-bit count. -/
  putNamedValues : Message → List NamedValue → Message
  /-- `putNamedValues32`, with a 32-bit count. -/
  putNamedValues32 : Message → List NamedValue → Message
  /-- `DecodeNode`: the leader's id and address. -/
  decodeNode : Message → Except GoError (UInt64 × String)
  /-- `DecodeNodeLegacy`: the leader's address, in the pre-1.0 format. -/
  decodeNodeLegacy : Message → Except GoError String
  /-- `DecodeWelcome`: the heartbeat timeout the server grants. -/
  decodeWelcome : Message → Except GoError UInt64
  /-- `DecodeResult`; a failure response decodes to `ErrRequest`. -/
  decodeResult : Message → Except GoError ExecResult
  /-- `DecodeDb`: the id of the database opened. -/
  decodeDb : Message → Except GoError UInt32
  /-- `DecodeStmt`: the database, the id and the parameter count of a prepared statement. -/
  decodeStmt : Message → Except GoError (UInt32 × UInt32 × UInt64)
  /-- `DecodeEmpty`. -/
  decodeEmpty : Message → Except GoError Unit

/-- The bytes up to the first zero, as a string. -/
def cString (bs : List UInt8) : String :=
  String.mk ((bs.takeWhile fun b => b ≠ 0).map fun b => Char.ofNat b.toNat)

/-- A codec for the samples, after the wire format of `message.go`: a string is its bytes and a
terminating zero, padded to a word; a node response is an id and an address, a welcome a
heartbeat timeout, a result a last insert id and a count of rows affected, a database
response the database's id, and a statement response its database, id and parameter count.  It
puts no parameters. -/
def simpleCodec : Codec where
  putString m s := m.put (s.toUTF8.data.toList ++ List.replicate (8 - s.utf8ByteSize % 8) 0)
  putNamedValues m _ := m
  putNamedValues32 m _ := m
  decodeNode m :=
    if m.mtype = 1 then .ok (UInt64.ofNat (leValue (m.body.take 8)), cString (m.body.drop 8))
    else .error (.text "unexpected response")
  decodeNodeLegacy m := if m.mtype = 1 then .ok (cString m.body) else .error (.text "unexpected")
  decodeWelcome m :=
    if m.mtype = 2 then .ok (UInt64.ofNat (leValue (m.body.take 8)))
    else .error (.text "unexpected response")
  decodeResult m :=
    if m.mtype = 6 then
      .ok ⟨UInt64.ofNat (leValue (m.body.take 8)), UInt64.ofNat (leValue ((m.body.drop 8).take 8))⟩
    else .error (.text "unexpected response")
  decodeDb m :=
    if m.mtype = 4 then .ok (UInt32.ofNat (leValue (m.body.take 4)))
    else .error (.text "unexpected response")
  decodeStmt m :=
    if m.mtype = 5 then
      .ok (UInt32.ofNat (leValue (m.body.take 4)), UInt32.ofNat (leValue ((m.body.drop 4).take 4)),
        UInt64.ofNat (leValue ((m.body.drop 8).take 8)))
    else .error (.text "unexpected response")
  decodeEmpty m := if m.mtype = 8 then .ok () else .error (.text "unexpected response")

/-! ## Encoders -/

namespace Message

/-- The encoders with a single 64-bit field: reset, put the field, finish the header. -/
def encodeUint64 (request : Message) (mtype : UInt8) (v : UInt64) : Message :=
  (request.reset.putUint64 v).putHeader mtype 0

/-- `EncodeLeader`. -/
def encodeLeader (request : Message) : Message := request.encodeUint64 requestLeader 0

/-- `EncodeClient`. -/
def encodeClient (request : Message) (id : UInt64) : Message :=
  request.encodeUint64 requestClient id

/-- `EncodeOpen`: the database name, the open flags and the VFS name. -/
def encodeOpen (codec : Codec) (request : Message) (name : String) (flags : UInt64)
    (vfs : String) : Message :=
  (codec.putString ((codec.putString request.reset name).putUint64 flags) vfs).putHeader
    requestOpen 0

/-- `EncodePrepare`: the database and the SQL text. -/
def encodePrepare (codec : Codec) (request : Message) (db : UInt64) (sql : String) : Message :=
  (codec.putString (request.reset.putUint64 db) sql).putHeader requestPrepare 0

/-- `EncodeFinalize`: the database and the statement. -/
def encodeFinalize (request : Message) (db stmt : UInt32) : Message :=
  ((request.reset.putUint32 db).putUint32 stmt).putHeader requestFinalize 0

/-- `EncodeInterrupt`. -/
def encodeInterrupt (request : Message) (db : UInt64) : Message :=
  request.encodeUint64 requestInterrupt db

/-- `EncodeRemove`. -/
def encodeRemove (request : Message) (id : UInt64) : Message := request.encodeUint64 requestRemove id

/-- `EncodeCluster`. -/
def encodeCluster (request : Message) (format : UInt64) : Message :=
  request.encodeUint64 requestCluster format

/-- `EncodeTransfer`. -/
def encodeTransfer (request : Message) (id : UInt64) : Message :=
  request.encodeUint64 requestTransfer id

/-- `EncodeDescribe`. -/
def encodeDescribe (request : Message) (format : UInt64) : Message :=
  request.encodeUint64 requestDescribe format

/-- `EncodeWeight`. -/
def encodeWeight (request : Message) (weight : UInt64) : Message :=
  request.encodeUint64 requestWeight weight

/-- `EncodeAdd`: the node's id and address. -/
def encodeAdd (codec : Codec) (request : Message) (id : UInt64) (address : String) : Message :=
  (codec.putString (request.reset.putUint64 id) address).putHeader requestAdd 0

/-- `EncodeAssign`: the node's id and role. -/
def encodeAssign (request : Message) (id role : UInt64) : Message :=
  ((request.reset.putUint64 id).putUint64 role).putHeader requestAssign 0

/-- `EncodeDump`: the database's name. -/
def encodeDump (codec : Codec) (request : Message) (name : String) : Message :=
  (codec.putString request.reset name).putHeader requestDump 0

/-- The requests of an SQL text: database, SQL text and the parameters put by `put`. -/
def encodeSQLText (put : Message → List NamedValue → Message) (codec : Codec) (request : Message)
    (mtype schema : UInt8) (db : UInt64) (sql : String) (values : List NamedValue) : Message :=
  (put (codec.putString (request.reset.putUint64 db) sql) values).putHeader mtype schema

/-- The requests of a prepared statement: database, statement and the parameters put by `put`. -/
def encodeStmt (put : Message → List NamedValue → Message) (request : Message)
    (mtype schema : UInt8) (db stmt : UInt32) (values : List NamedValue) : Message :=
  (put ((request.reset.putUint32 db).putUint32 stmt) values).putHeader mtype schema

/-- `EncodeExecSQLV0`: database, SQL text and parameters with an 8-bit count. -/
def encodeExecSQLV0 (codec : Codec) (request : Message) (db : UInt64) (sql : String)
    (values : List NamedValue) : Message :=
  request.encodeSQLText codec.putNamedValues codec requestExecSQL 0 db sql values

/-- `EncodeExecSQLV1`: database, SQL text and parameters with a 32-bit count. -/
def encodeExecSQLV1 (codec : Codec) (request : Message) (db : UInt64) (sql : String)
    (values : List NamedValue) : Message :=
  request.encodeSQLText codec.putNamedValues32 codec requestExecSQL 1 db sql values

/-- `EncodeQuerySQLV0`: database, SQL text and parameters with an 8-bit count. -/
def encodeQuerySQLV0 (codec : Codec) (request : Message) (db : UInt64) (sql : String)
    (values : List NamedValue) : Message :=
  request.encodeSQLText codec.putNamedValues codec requestQuerySQL 0 db sql values

/-- `EncodeQuerySQLV1`: database, SQL text and parameters with a 32-bit count. -/
def encodeQuerySQLV1 (codec : Codec) (request : Message) (db : UInt64) (sql : String)
    (values : List NamedValue) : Message :=
  request.encodeSQLText codec.putNamedValues32 codec requestQuerySQL 1 db sql values

/-- `EncodeExecV0`: database, statement and parameters with an 8-bit count. -/
def encodeExecV0 (codec : Codec) (request : Message) (db stmt : UInt32)
    (values : List NamedValue) : Message :=
  request.encodeStmt codec.putNamedValues requestExec 0 db stmt values

/-- `EncodeExecV1`: database, statement and parameters with a 32-bit count. -/
def encodeExecV1 (codec : Codec) (request : Message) (db stmt : UInt32)
    (values : List NamedValue) : Message :=
  request.encodeStmt codec.putNamedValues32 requestExec 1 db stmt values

/-- `EncodeQueryV0`: database, statement and parameters with an 8-bit count. -/
def encodeQueryV0 (codec : Codec) (request : Message) (db stmt : UInt32)
    (values : List NamedValue) : Message :=
  request.encodeStmt codec.putNamedValues requestQuery 0 db stmt values

/-- `EncodeQueryV1`: database, statement and parameters with a 32-bit count. -/
def encodeQueryV1 (codec : Codec) (request : Message) (db stmt : UInt32)
    (values : List NamedValue) : Message :=
  request.encodeStmt codec.putNamedValues32 requestQuery 1 db stmt values

end Message

end Cowsql
