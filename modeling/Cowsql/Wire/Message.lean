import Cowsql.Wire.Errors

/-!
# Messages and frames

Everything on the wire after the handshake is a frame: an 8-byte little-endian header
`words:uint32 | type:uint8 | schema:uint8 | extra:uint16` followed by a body of `8 * words`
bytes.  A `Message` is the reusable buffer one request or one response is built in or read into.

The file defining `Message` (`message.go`) is not part of the sources, only its uses are.  The
message is therefore modelled with the fields `protocol.go` reads and writes, and the few
operations of it that the modelled code calls are modelled from the specification.  The header
buffer is not kept: every message that is sent got its header from `putHeader`, which writes
the encoding of the header fields, so `sendHeader` writes exactly `Message.header`.
-/

namespace Cowsql

/-- Modelled from the spec: `messageWordSize`, the 8-byte word. -/
def messageWordSize : Nat := 8

/-- Modelled from the spec: `messageHeaderSize`, the 8-byte header. -/
def messageHeaderSize : Nat := 8

/-! ## Little-endian integers -/

/-- The low `k` bytes of `v`, least significant first, as `binary.LittleEndian.PutUintN`
writes them. -/
def leBytes : Nat → Nat → List UInt8
  | 0, _ => []
  | k + 1, v => UInt8.ofNat v :: leBytes k (v / 256)

/-- The number the bytes spell least significant first, as `binary.LittleEndian.UintN`
reads it. -/
def leValue : List UInt8 → Nat
  | [] => 0
  | b :: bs => b.toNat + 256 * leValue bs

@[simp] theorem length_leBytes (k v : Nat) : (leBytes k v).length = k := by
  induction k generalizing v <;> simp_all [leBytes]

theorem toNat_uint8OfNat (v : Nat) : (UInt8.ofNat v).toNat = v % 256 := by
  simp [UInt8.toNat, UInt8.ofNat, BitVec.toNat_ofNat]

theorem toNat_uint32OfNat (v : Nat) : (UInt32.ofNat v).toNat = v % 4294967296 := by
  simp [UInt32.toNat, UInt32.ofNat, BitVec.toNat_ofNat]

/-- Reading back `k` written bytes gives the value modulo `256 ^ k`. -/
theorem leValue_leBytes (k v : Nat) : leValue (leBytes k v) = v % 256 ^ k := by
  induction k generalizing v with
  | zero => simp [leBytes, leValue, Nat.mod_one]
  | succ k ih =>
    rw [leBytes, leValue, ih, toNat_uint8OfNat, Nat.pow_succ, Nat.mul_comm (256 ^ k) 256,
      Nat.mod_mul]

/-- `binary.LittleEndian.Uint32` on the first four bytes. -/
def leUint32 (bs : List UInt8) : UInt32 := UInt32.ofNat (leValue (bs.take 4))

/-- `binary.LittleEndian.Uint16` on the first two bytes. -/
def leUint16 (bs : List UInt8) : UInt16 := UInt16.ofNat (leValue (bs.take 2))

theorem leUint32_leBytes (w : UInt32) (rest : List UInt8) :
    leUint32 (leBytes 4 w.toNat ++ rest) = w := by
  have hw := UInt32.toNat_lt_size w
  apply UInt32.toNat.inj
  rw [leUint32, List.take_left' (length_leBytes 4 _), leValue_leBytes,
    Nat.mod_eq_of_lt (by simpa using hw), UInt32.toNat_ofNat_of_lt hw]

theorem leUint16_leBytes (x : UInt16) (rest : List UInt8) :
    leUint16 (leBytes 2 x.toNat ++ rest) = x := by
  have hx := UInt16.toNat_lt_size x
  apply UInt16.toNat.inj
  rw [leUint16, List.take_left' (length_leBytes 2 _), leValue_leBytes,
    Nat.mod_eq_of_lt (by simpa using hx), UInt16.toNat_ofNat_of_lt hx]

/-- The eight header bytes of a frame with the given header fields. -/
def encodeHeader (words : UInt32) (mtype schema : UInt8) (extra : UInt16) : List UInt8 :=
  leBytes 4 words.toNat ++ mtype :: schema :: leBytes 2 extra.toNat

@[simp] theorem length_encodeHeader (words : UInt32) (mtype schema : UInt8) (extra : UInt16) :
    (encodeHeader words mtype schema extra).length = messageHeaderSize := by
  simp [encodeHeader, messageHeaderSize]

/-! ## Frames -/

/-- A frame: its header fields and its body. -/
structure Frame where
  words : UInt32
  mtype : UInt8
  schema : UInt8
  extra : UInt16
  body : List UInt8
  deriving DecidableEq, Repr

namespace Frame

/-- A frame is well formed when its body holds exactly `words` words. -/
def WellFormed (f : Frame) : Prop := f.body.length = f.words.toNat * messageWordSize

instance (f : Frame) : Decidable f.WellFormed := inferInstanceAs (Decidable (_ = _))

/-- The bytes of a frame on the wire. -/
def bytes (f : Frame) : List UInt8 := encodeHeader f.words f.mtype f.schema f.extra ++ f.body

@[simp] theorem length_bytes (f : Frame) :
    f.bytes.length = messageHeaderSize + f.body.length := by
  simp [bytes]

end Frame

/-- The bytes of a sequence of frames, one after the other. -/
def framesBytes (fs : List Frame) : List UInt8 := (fs.map Frame.bytes).flatten

@[simp] theorem framesBytes_nil : framesBytes [] = [] := rfl

@[simp] theorem framesBytes_cons (f : Frame) (fs : List Frame) :
    framesBytes (f :: fs) = f.bytes ++ framesBytes fs := rfl

theorem framesBytes_append (fs gs : List Frame) :
    framesBytes (fs ++ gs) = framesBytes fs ++ framesBytes gs := by
  simp [framesBytes]

/-! ## Messages -/

/-- The doubling loop `for n > len(buf) { buf = make([]byte, len(buf)*2) }`, on the length.
From a positive length it stops within `n` rounds, which is the bound its recursion runs on. -/
def growLoop : Nat → Nat → Nat → Nat
  | 0, len, _ => len
  | rounds + 1, len, n => if n > len then growLoop rounds (2 * len) n else len

/-- The length the doubling loop reaches from `len` to hold `n` bytes. -/
def grownLen (len n : Nat) : Nat := growLoop n len n

theorem le_growLoop (rounds len n : Nat) : len ≤ growLoop rounds len n := by
  induction rounds generalizing len with
  | zero => simp [growLoop]
  | succ rounds ih =>
    simp only [growLoop]
    split
    · exact le_trans (by omega) (ih (2 * len))
    · exact le_refl len

/-- From a positive length, `rounds` doublings reach `n` whenever `n < len + rounds`. -/
theorem le_growLoop_of_lt (rounds len n : Nat) (hlen : 0 < len) (h : n < len + rounds) :
    n ≤ growLoop rounds len n := by
  induction rounds generalizing len with
  | zero => simp [growLoop]; omega
  | succ rounds ih =>
    simp only [growLoop]
    split
    · exact ih (2 * len) (by omega) (by omega)
    · omega

theorem le_grownLen (len n : Nat) : len ≤ grownLen len n := le_growLoop n len n

theorem le_grownLen_of_pos {len : Nat} (n : Nat) (hlen : 0 < len) : n ≤ grownLen len n :=
  le_growLoop_of_lt n len n hlen (by omega)

theorem grownLen_of_le {len n : Nat} (h : n ≤ len) : grownLen len n = len := by
  cases n
  · rfl
  · simp [grownLen, growLoop]; omega

/-! ### The number of doublings

The loop's guard `n > len` is tested at `len`, `2 * len`, `4 * len`, ...; it makes `k`
doublings when the guard holds at `len * 2^j` for each `j < k` and fails at `len * 2^k`.  From a
positive length such a `k` exists, it is at most `n` (so the `n` rounds `grownLen` gives are
enough), and it is `max 0 ⌈log₂ (n / len)⌉`. -/

/-- A loop whose guard holds at `len * 2^j` for each `j < k` and fails at `len * 2^k` makes
exactly `k` doublings, given at least `k` rounds. -/
theorem growLoop_eq_of_guard {rounds len n k : Nat} (hk : k ≤ rounds)
    (hguard : ∀ j < k, len * 2 ^ j < n) (hstop : n ≤ len * 2 ^ k) :
    growLoop rounds len n = len * 2 ^ k := by
  induction k generalizing rounds len with
  | zero =>
    rw [pow_zero, mul_one] at hstop ⊢
    cases rounds with
    | zero => rfl
    | succ rounds => exact if_neg (by omega)
  | succ k ih =>
    obtain ⟨rounds, rfl⟩ : ∃ r, rounds = r + 1 := ⟨rounds - 1, by omega⟩
    have hlen : len < n := by simpa using hguard 0 (by omega)
    have hdouble : ∀ j, 2 * len * 2 ^ j = len * 2 ^ (j + 1) := fun j => by ring
    rw [growLoop, if_pos hlen, ih (by omega) (fun j hj => hdouble j ▸ hguard (j + 1) (by omega))
      (hdouble k ▸ hstop), hdouble]

/-- From a positive length, the guard holds at `len * 2^j` for at most `n` values of `j`. -/
theorem doublings_le {len n k : Nat} (hlen : 0 < len) (hguard : ∀ j < k, len * 2 ^ j < n) :
    k ≤ n := by
  by_contra hk
  have := hguard n (by omega)
  have := Nat.lt_two_pow n
  have := Nat.le_mul_of_pos_left (2 ^ n) hlen
  omega

theorem grownLen_eq_of_guard {len n k : Nat} (hlen : 0 < len)
    (hguard : ∀ j < k, len * 2 ^ j < n) (hstop : n ≤ len * 2 ^ k) :
    grownLen len n = len * 2 ^ k :=
  growLoop_eq_of_guard (doublings_le hlen hguard) hguard hstop

/- A 16-byte body grows twice, to 64 bytes, to hold 40. -/
example : grownLen 16 40 = 16 * 2 ^ 2 := by decide

/-- From a positive length, the guard fails after some number of doublings. -/
theorem exists_doublings {len : Nat} (hlen : 0 < len) (n : Nat) :
    ∃ k, (∀ j < k, len * 2 ^ j < n) ∧ n ≤ len * 2 ^ k := by
  have hex : ∃ k, n ≤ len * 2 ^ k :=
    ⟨n, (Nat.lt_two_pow n).le.trans (Nat.le_mul_of_pos_left _ hlen)⟩
  exact ⟨Nat.find hex, fun j hj => Nat.lt_of_not_le (Nat.find_min hex hj), Nat.find_spec hex⟩

/-- The number of doublings after which the guard first fails is `max 0 ⌈log₂ (n / len)⌉`. -/
theorem max_ceil_logb_eq_doublings {len n k : Nat} (hlen : 0 < len)
    (hguard : ∀ j < k, len * 2 ^ j < n) (hstop : n ≤ len * 2 ^ k) :
    max 0 ⌈Real.logb 2 ((n : ℝ) / len)⌉ = k := by
  have hL : (0 : ℝ) < len := Nat.cast_pos.2 hlen
  have hle : ∀ j : Nat, (n : ℝ) / len ≤ 2 ^ j ↔ n ≤ len * 2 ^ j := fun j => by
    rw [div_le_iff₀ hL, mul_comm]; norm_cast
  rcases Nat.eq_zero_or_pos n with rfl | hn
  · obtain rfl : k = 0 := by by_contra hk; have := hguard 0 (by omega); omega
    simp
  have hx : (0 : ℝ) < n / len := div_pos (Nat.cast_pos.2 hn) hL
  have hceil : ⌈Real.logb 2 ((n : ℝ) / len)⌉ ≤ k := by
    rw [Int.ceil_le, Real.logb_le_iff_le_rpow one_lt_two hx, Int.cast_natCast, Real.rpow_natCast]
    exact (hle k).2 hstop
  cases k with
  | zero => omega
  | succ k =>
    have : (k : ℤ) < ⌈Real.logb 2 ((n : ℝ) / len)⌉ := by
      rw [Int.lt_ceil, Int.cast_natCast, Real.lt_logb_iff_rpow_lt one_lt_two hx, Real.rpow_natCast,
        ← not_le, hle]
      exact Nat.not_le_of_lt (hguard k (by omega))
    omega

/-- A `Message`: the header fields, and the body buffer with its offset.  Every message is made
by `Init` with a positive size, and the buffer never shrinks, so the body is never empty; the
offset never passes the end of the body. -/
structure Message where
  words : UInt32
  mtype : UInt8
  schema : UInt8
  extra : UInt16
  body : List UInt8
  offset : Nat
  body_pos : 0 < body.length
  offset_le : offset ≤ body.length

namespace Message

/-- `Init(size)`: a zeroed message whose body holds `size` bytes (the call sites pass 16, 512
and 4096). -/
def init (size : Nat) (h : 0 < size) : Message where
  words := 0
  mtype := 0
  schema := 0
  extra := 0
  body := List.replicate size 0
  offset := 0
  body_pos := by simpa using h
  offset_le := Nat.zero_le _

/-- Modelled from the spec: `reset` clears the header fields and rewinds the offset, so that a
message can be encoded into or received into again; the body bytes stay. -/
def reset (m : Message) : Message :=
  { m with words := 0, mtype := 0, schema := 0, extra := 0, offset := 0,
           offset_le := Nat.zero_le _ }

@[simp] theorem reset_body (m : Message) : m.reset.body = m.body := rfl

@[simp] theorem reset_offset (m : Message) : m.reset.offset = 0 := rfl

/-- The header bytes `sendHeader` writes for the message. -/
def header (m : Message) : List UInt8 := encodeHeader m.words m.mtype m.schema m.extra

@[simp] theorem length_header (m : Message) : m.header.length = messageHeaderSize := by
  simp [header]

/-- `getHeader`: the type and schema of the message. -/
def getHeader (m : Message) : UInt8 × UInt8 := (m.mtype, m.schema)

/-- What a caller decodes from a received message: its header fields and the first
`8 * words` bytes of its body. -/
def frame (m : Message) : Frame :=
  ⟨m.words, m.mtype, m.schema, m.extra, m.body.take (m.words.toNat * messageWordSize)⟩

/-- Modelled from the spec: the body buffer doubled, keeping its contents, until it holds `n`
bytes. -/
def growBuf (body : List UInt8) (n : Nat) : List UInt8 :=
  body ++ List.replicate (grownLen body.length n - body.length) 0

theorem length_growBuf (body : List UInt8) (n : Nat) :
    (growBuf body n).length = grownLen body.length n := by
  have := le_grownLen body.length n
  simp only [growBuf, List.length_append, List.length_replicate]
  omega

/-- Modelled from the spec: appending bytes at the offset, after growing the buffer until they
fit. -/
def put (m : Message) (bytes : List UInt8) : Message :=
  let buf := growBuf m.body (m.offset + bytes.length)
  have hbuf : m.offset + bytes.length ≤ buf.length := by
    rw [length_growBuf]; exact le_grownLen_of_pos _ m.body_pos
  { m with
    body := buf.take m.offset ++ bytes ++ buf.drop (m.offset + bytes.length)
    offset := m.offset + bytes.length
    body_pos := by
      have := m.body_pos
      have := le_grownLen m.body.length (m.offset + bytes.length)
      simp only [List.length_append, List.length_take, List.length_drop, buf,
        length_growBuf] at hbuf ⊢
      omega
    offset_le := by
      simp only [List.length_append, List.length_take, List.length_drop] at hbuf ⊢
      omega }

/-- Modelled from the spec: `putUint32`, four little-endian bytes. -/
def putUint32 (m : Message) (v : UInt32) : Message := m.put (leBytes 4 v.toNat)

/-- Modelled from the spec: `putUint64`, eight little-endian bytes. -/
def putUint64 (m : Message) (v : UInt64) : Message := m.put (leBytes 8 v.toNat)

/-- Modelled from the spec: `putHeader` pads the body with zeros to a whole number of words and
records the type, the schema and the number of words. -/
def putHeader (m : Message) (mtype schema : UInt8) : Message :=
  let m := m.put (List.replicate ((messageWordSize - m.offset % messageWordSize) %
    messageWordSize) 0)
  { m with mtype := mtype, schema := schema,
           words := UInt32.ofNat (m.offset / messageWordSize) }

/-! ### What the puts since a reset leave

Everything a message sends is the body up to its offset.  `put` keeps the bytes before the
offset and writes its own right after them, so after a reset the body up to the offset is the
bytes put since, one after another, whatever the body held before; `putHeader` pads them to a
whole number of words. -/

@[simp] theorem put_offset (m : Message) (bytes : List UInt8) :
    (m.put bytes).offset = m.offset + bytes.length := rfl

/-- `put` keeps the bytes before the offset and writes `bytes` right after them. -/
theorem take_put (m : Message) (bytes : List UInt8) :
    (m.put bytes).body.take (m.put bytes).offset = m.body.take m.offset ++ bytes := by
  have hle := le_grownLen_of_pos (m.offset + bytes.length) m.body_pos
  have hoff := m.offset_le
  have hbuf : (growBuf m.body (m.offset + bytes.length)).take m.offset = m.body.take m.offset := by
    rw [growBuf, List.take_append_of_le_length hoff]
  simp only [put, put_offset]
  rw [List.take_left' (by simp [length_growBuf]; omega), hbuf]

theorem offset_foldl_put (m : Message) (chunks : List (List UInt8)) :
    (chunks.foldl put m).offset = m.offset + chunks.flatten.length := by
  induction chunks generalizing m with
  | nil => rfl
  | cons c cs ih => simp only [List.foldl_cons, ih, put_offset, List.flatten_cons,
      List.length_append, Nat.add_assoc]

/-- Puts write their bytes one after another from the offset. -/
theorem take_foldl_put (m : Message) (chunks : List (List UInt8)) :
    (chunks.foldl put m).body.take (chunks.foldl put m).offset =
      m.body.take m.offset ++ chunks.flatten := by
  induction chunks generalizing m with
  | nil => simp
  | cons c cs ih => rw [List.foldl_cons, ih, take_put, List.flatten_cons, List.append_assoc]

end Message

/-- The bytes `bs` padded with zeros to a whole number of words, as `putHeader` pads a body. -/
def padToWord (bs : List UInt8) : List UInt8 :=
  bs ++ List.replicate ((messageWordSize - bs.length % messageWordSize) % messageWordSize) 0

theorem length_padToWord_mod (bs : List UInt8) :
    (padToWord bs).length % messageWordSize = 0 := by
  simp only [padToWord, List.length_append, List.length_replicate, messageWordSize]
  omega

namespace Message

/-- `putHeader` pads the body up to the offset to a whole number of words and records them. -/
theorem take_putHeader (m : Message) (mtype schema : UInt8) :
    (m.putHeader mtype schema).body.take (m.putHeader mtype schema).offset =
      padToWord (m.body.take m.offset) := by
  have hlen : (m.body.take m.offset).length = m.offset := by simp [m.offset_le]
  simp only [putHeader, take_put, padToWord, hlen]

theorem putHeader_words (m : Message) (mtype schema : UInt8) :
    (m.putHeader mtype schema).words =
      UInt32.ofNat ((padToWord (m.body.take m.offset)).length / messageWordSize) := by
  have hlen : (m.body.take m.offset).length = m.offset := by simp [m.offset_le]
  simp only [putHeader, put_offset, padToWord, List.length_append, hlen]

@[simp] theorem putHeader_mtype (m : Message) (mtype schema : UInt8) :
    (m.putHeader mtype schema).mtype = mtype := rfl

@[simp] theorem putHeader_schema (m : Message) (mtype schema : UInt8) :
    (m.putHeader mtype schema).schema = schema := rfl

@[simp] theorem putHeader_extra (m : Message) (mtype schema : UInt8) :
    (m.putHeader mtype schema).extra = m.extra := rfl

@[simp] theorem put_extra (m : Message) (bytes : List UInt8) : (m.put bytes).extra = m.extra :=
  rfl

theorem foldl_put_extra (m : Message) (chunks : List (List UInt8)) :
    (chunks.foldl put m).extra = m.extra := by
  induction chunks generalizing m with
  | nil => rfl
  | cons c cs ih => rw [List.foldl_cons, ih, put_extra]

end Message

end Cowsql
