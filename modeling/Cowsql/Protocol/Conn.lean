import Cowsql.Wire.Message

/-!
# The connection

A `net.Conn` as the protocol code uses it: `Read` and `Write` on a byte stream.  The far end is a
`Peer`: the bytes it sends, in order, and its answer to each `Read` and `Write` call, so that
every way a transport can split the stream into reads, stall, write short or fail is one `Peer`.
A read delivers the next bytes of the stream, at most as many as asked for; the model's reads
either deliver bytes or fail.
-/

namespace Cowsql

/-- The answer to one `Read`: up to `n` bytes of the stream, or an error. -/
inductive ReadStep where
  | data (n : Nat)
  | fail (err : GoError)
  deriving DecidableEq, Repr

/-- The answer to one `Write`: take the whole buffer, take at most `n` bytes, or take at most
`n` bytes and fail. -/
inductive WriteStep where
  | all
  | part (n : Nat)
  | fail (n : Nat) (err : GoError)
  deriving DecidableEq, Repr

/-- The far end of a connection: the bytes it sends and its answers to the `k`-th `Read` and
the `k`-th `Write`. -/
structure Peer where
  stream : Nat → UInt8
  readStep : Nat → ReadStep
  writeStep : Nat → WriteStep

/-- The `k` bytes of the stream from position `start`. -/
def Peer.chunk (p : Peer) (start : Nat) : Nat → List UInt8
  | 0 => []
  | k + 1 => p.stream start :: p.chunk (start + 1) k

@[simp] theorem Peer.length_chunk (p : Peer) (start k : Nat) : (p.chunk start k).length = k := by
  induction k generalizing start <;> simp_all [Peer.chunk]

theorem Peer.chunk_add (p : Peer) (start a b : Nat) :
    p.chunk start (a + b) = p.chunk start a ++ p.chunk (start + a) b := by
  induction a generalizing start with
  | zero => simp [Peer.chunk]
  | succ a ih =>
    rw [Nat.add_right_comm, Peer.chunk, ih, Peer.chunk, List.cons_append, Nat.add_right_comm,
      Nat.add_assoc]

/-- A connection: the descriptor it was opened under, the peer, how far the stream has been
read, how many reads and writes were made, and every byte written. -/
structure Conn where
  fd : Nat
  peer : Peer
  pos : Nat
  reads : Nat
  writes : Nat
  sent : List UInt8

namespace Conn

/-- A fresh connection to `peer`. -/
def fresh (fd : Nat) (peer : Peer) : Conn := ⟨fd, peer, 0, 0, 0, []⟩

/-- The next `k` bytes the connection will read. -/
def upcoming (c : Conn) (k : Nat) : List UInt8 := c.peer.chunk c.pos k

/-- `c` after reads that consumed `k` bytes in `r` calls. -/
def advance (c : Conn) (k r : Nat) : Conn := { c with pos := c.pos + k, reads := c.reads + r }

@[simp] theorem advance_zero (c : Conn) : c.advance 0 0 = c := rfl

theorem advance_advance (c : Conn) (k r k' r' : Nat) :
    (c.advance k r).advance k' r' = c.advance (k + k') (r + r') := by
  simp [advance, Nat.add_assoc]

/-- `Read(buf)` with `len(buf) = want`. -/
def read (c : Conn) (want : Nat) : Except GoError (List UInt8) × Conn :=
  match c.peer.readStep c.reads with
  | .data n => (.ok (c.upcoming (min n want)), c.advance (min n want) 1)
  | .fail e => (.error e, c.advance 0 1)

/-- `Write(buf)`: the count written and the error, if any. -/
def write (c : Conn) (buf : List UInt8) : Nat × Option GoError × Conn :=
  let took (n : Nat) : Conn := { c with writes := c.writes + 1, sent := c.sent ++ buf.take n }
  match c.peer.writeStep c.writes with
  | .all => (buf.length, none, took buf.length)
  | .part n => (min n buf.length, none, took n)
  | .fail n e => (min n buf.length, some e, took n)

/-- Writing touches neither the read side nor the descriptor. -/
theorem write_read_side (c : Conn) (buf : List UInt8) :
    (c.write buf).2.2.pos = c.pos ∧ (c.write buf).2.2.reads = c.reads ∧
      (c.write buf).2.2.peer = c.peer ∧ (c.write buf).2.2.fd = c.fd := by
  unfold write
  split <;> simp

/-- What a write appends to the bytes sent: a prefix of the buffer, all of it when it reports
no error and the full count. -/
theorem write_sent (c : Conn) (buf : List UInt8) :
    ∃ k, (c.write buf).2.2.sent = c.sent ++ buf.take k ∧
      (c.write buf).1 = min k buf.length := by
  unfold write
  split
  · exact ⟨buf.length, by simp⟩
  · exact ⟨_, rfl, rfl⟩
  · exact ⟨_, rfl, rfl⟩

/-- A write that reports the full count has appended the whole buffer. -/
theorem write_sent_of_count (c : Conn) (buf : List UInt8) (h : (c.write buf).1 = buf.length) :
    (c.write buf).2.2.sent = c.sent ++ buf := by
  obtain ⟨k, hs, hk⟩ := c.write_sent buf
  rw [hs, List.take_of_length_le (by omega)]

end Conn

end Cowsql
