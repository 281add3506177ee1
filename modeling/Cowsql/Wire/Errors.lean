import Mathlib
/-!
# Errors as the client inspects them

Go errors form chains: `fmt.Errorf("...: %w", err)` wraps `err` under a message, and
`errors.As` and `errors.Is` search the chain for an error of a given type or value.  Every
inspection the client makes (in `Protocol.Call`, `connectAttemptOne` and `driverError`) asks
about the error at the bottom of a chain, so an error is modelled as the messages it is wrapped
in and its root cause.
-/

namespace Cowsql

/-- The errors the client creates, receives or inspects. -/
inductive GoError where
  /-- A `*net.OpError`; `timeout` is what its `Timeout()` method reports. -/
  | netOp (timeout : Bool)
  /-- A `syscall.Errno`. -/
  | errno (code : Nat)
  /-- `io.EOF`. -/
  | eof
  /-- `io.ErrShortWrite`. -/
  | shortWrite
  /-- `io.ErrNoProgress`. -/
  | noProgress
  /-- `protocol.ErrRequest`: a failure response from the server. -/
  | request (code : UInt64) (description : String)
  /-- `protocol.Error`, the application error `driverError` hands to the caller. -/
  | sql (code : Int) (message : String)
  /-- `driver.ErrBadConn`. -/
  | badConn
  /-- `errBadProtocol`. -/
  | badProtocol
  /-- `protocol.ErrNoAvailableLeader`. -/
  | noAvailableLeader
  /-- `protocol.ErrRowsPart`. -/
  | rowsPart
  /-- An error with no cause, made by `errors.New` or by `fmt.Errorf` without `%w`. -/
  | text (msg : String)
  /-- `fmt.Errorf(msg + ": %w", err)`. -/
  | wrap (msg : String) (err : GoError)
  deriving DecidableEq, Repr

namespace GoError

/-- The bottom of a chain of wrapped errors. -/
def root : GoError → GoError
  | wrap _ e => root e
  | e => e

@[simp] theorem root_wrap (msg : String) (e : GoError) : (wrap msg e).root = e.root := rfl

@[simp] theorem root_root (e : GoError) : e.root.root = e.root := by
  induction e with
  | wrap _ e ih => exact ih
  | _ => rfl

/-- `errors.As(err, &netErr)` for `netErr *net.OpError`: the operation error in the chain. -/
def netOpOf (e : GoError) : Option GoError :=
  match e.root with
  | netOp t => some (netOp t)
  | _ => none

@[simp] theorem netOpOf_wrap (msg : String) (e : GoError) :
    (wrap msg e).netOpOf = e.netOpOf := rfl

/-- `errors.As(err, &errno)` for `errno syscall.Errno`: the errno in the chain, zero if there is
none. -/
def errnoOf (e : GoError) : Nat :=
  match e.root with
  | errno c => c
  | _ => 0

/-- `errors.As(err, &pErr)` for `pErr protocol.ErrRequest`: the failure response in the chain. -/
def requestOf (e : GoError) : Option (UInt64 × String) :=
  match e.root with
  | request c d => some (c, d)
  | _ => none

/-- `errors.Is(err, io.EOF)`. -/
def isEOF (e : GoError) : Bool := e.root == eof

@[simp] theorem isEOF_wrap (msg : String) (e : GoError) : (wrap msg e).isEOF = e.isEOF := rfl

/-- `errors.Is(err, ErrNoAvailableLeader)`. -/
def isNoAvailableLeader (e : GoError) : Bool := e.root == noAvailableLeader

@[simp] theorem isNoAvailableLeader_wrap (msg : String) (e : GoError) :
    (wrap msg e).isNoAvailableLeader = e.isNoAvailableLeader := rfl

/-- The root of a chain with an operation error in it is that operation error. -/
theorem root_eq_of_netOpOf {e o : GoError} (h : e.netOpOf = some o) : e.root = o := by
  unfold netOpOf at h
  split at h <;> simp_all

@[simp] theorem netOpOf_root (e : GoError) : e.root.netOpOf = e.netOpOf := by
  simp [netOpOf]

/-- The operation error found in a chain is found again in itself. -/
theorem netOpOf_of_netOpOf {e o : GoError} (h : e.netOpOf = some o) : o.netOpOf = some o := by
  calc o.netOpOf = e.root.netOpOf := by rw [root_eq_of_netOpOf h]
    _ = some o := by rw [netOpOf_root, h]

end GoError

end Cowsql
