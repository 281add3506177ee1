import Cowsql.Protocol.Conn

/-!
# Receiving a frame

`recv` and its helpers from `protocol.go`: `recvFill` makes up to
`messageMaxConsecutiveEmptyReads` reads and stops at the first that delivers anything,
`recvPeek` fills until the bytes it needs have arrived, and `recvHeader` and `recvBody` read the
header and then the body of one frame.  That constant is defined in `message.go`, which is not
among the sources; it is the parameter `maxEmptyReads` here, and every result holds for any
value of it.

The bytes a read delivers are always the next bytes of the stream, whatever the peer does.  When
the peer's reads never fail and never deliver nothing `maxEmptyReads` times in a row, `recv`
from the start of a well-formed frame reads exactly that frame.  From a positive body length `L`
and a header of `w` words, the growth loop of `recvBody` makes exactly `max 0 ⌈log₂ (8w / L)⌉`
doublings.
-/

namespace Cowsql

namespace Conn

/-- `c'` is `c` after reads that delivered exactly `bs`, the next bytes of the stream. -/
def Took (c : Conn) (bs : List UInt8) (c' : Conn) : Prop :=
  (∃ r, c' = c.advance bs.length r) ∧ bs = c.upcoming bs.length

/-- `c'` is `c` after reads only: nothing was written and the stream only moved forward. -/
def ReadOnly (c c' : Conn) : Prop := ∃ k r, c' = c.advance k r

theorem ReadOnly.refl (c : Conn) : ReadOnly c c := ⟨0, 0, rfl⟩

theorem ReadOnly.trans {c c' c'' : Conn} (h : ReadOnly c c') (h' : ReadOnly c' c'') :
    ReadOnly c c'' := by
  obtain ⟨k, r, rfl⟩ := h
  obtain ⟨k', r', rfl⟩ := h'
  exact ⟨k + k', r + r', advance_advance ..⟩

theorem Took.readOnly {c c' : Conn} {bs : List UInt8} (h : Took c bs c') : ReadOnly c c' :=
  let ⟨⟨r, hr⟩, _⟩ := h; ⟨_, r, hr⟩

@[simp] theorem advance_peer (c : Conn) (k r : Nat) : (c.advance k r).peer = c.peer := rfl

@[simp] theorem advance_pos (c : Conn) (k r : Nat) : (c.advance k r).pos = c.pos + k := rfl

@[simp] theorem advance_reads (c : Conn) (k r : Nat) :
    (c.advance k r).reads = c.reads + r := rfl

theorem upcoming_add (c : Conn) (a b r : Nat) :
    c.upcoming (a + b) = c.upcoming a ++ (c.advance a r).upcoming b := by
  simp [upcoming, Peer.chunk_add]

theorem Took.trans {c c' c'' : Conn} {bs bs' : List UInt8} (h : Took c bs c')
    (h' : Took c' bs' c'') : Took c (bs ++ bs') c'' := by
  obtain ⟨⟨r, rfl⟩, hbs⟩ := h
  obtain ⟨⟨r', rfl⟩, hbs'⟩ := h'
  refine ⟨⟨r + r', by simp [advance_advance]⟩, ?_⟩
  rw [List.length_append, upcoming_add c _ _ r, ← hbs, ← hbs']

theorem Took.nil (c : Conn) : Took c [] c := ⟨⟨0, rfl⟩, rfl⟩

/-- Every read either delivers the next bytes of the stream, at most `want` of them, or fails
having delivered nothing. -/
theorem read_cases (c : Conn) (want : Nat) :
    (∃ bs, bs.length ≤ want ∧ bs = c.upcoming bs.length ∧
      c.read want = (.ok bs, c.advance bs.length 1)) ∨
    (∃ e, c.read want = (.error e, c.advance 0 1)) := by
  unfold read
  split
  · rename_i n _
    exact .inl ⟨c.upcoming (min n want), by simp [upcoming, Nat.min_le_right], by simp [upcoming],
      by simp [upcoming]⟩
  · exact .inr ⟨_, rfl⟩

end Conn

namespace Message

/-- The growth loop of `recvBody`: while the body is shorter than `n` bytes, replace it by a
zeroed buffer twice as long. -/
def growBody (m : Message) (n : Nat) : Message :=
  if n > m.body.length then
    { m with body := List.replicate (grownLen m.body.length n) 0
             body_pos := by
               have := le_grownLen m.body.length n
               have := m.body_pos
               simp only [List.length_replicate]; omega
             offset_le := by
               have := le_grownLen m.body.length n
               have := m.offset_le
               simp only [List.length_replicate]; omega }
  else m

/-- The bytes `bs` read into the front of the body. -/
def fillBody (m : Message) (bs : List UInt8) : Message :=
  { m with body := bs ++ m.body.drop bs.length
           body_pos := by
             have := m.body_pos
             simp only [List.length_append, List.length_drop]; omega
           offset_le := by
             have := m.offset_le
             simp only [List.length_append, List.length_drop]; omega }

theorem le_length_growBody (m : Message) (n : Nat) : n ≤ (m.growBody n).body.length := by
  unfold growBody
  split
  · simpa using le_grownLen_of_pos n m.body_pos
  · omega

@[simp] theorem growBody_words (m : Message) (n : Nat) : (m.growBody n).words = m.words := by
  unfold growBody; split <;> rfl

@[simp] theorem growBody_mtype (m : Message) (n : Nat) : (m.growBody n).mtype = m.mtype := by
  unfold growBody; split <;> rfl

@[simp] theorem growBody_schema (m : Message) (n : Nat) : (m.growBody n).schema = m.schema := by
  unfold growBody; split <;> rfl

@[simp] theorem growBody_extra (m : Message) (n : Nat) : (m.growBody n).extra = m.extra := by
  unfold growBody; split <;> rfl

/-- The growth loop leaves a body of `len * 2^k` bytes, where `k` is the number of doublings
after which its guard first fails. -/
theorem length_growBody_of_guard (m : Message) {n k : Nat}
    (hguard : ∀ j < k, m.body.length * 2 ^ j < n) (hstop : n ≤ m.body.length * 2 ^ k) :
    (m.growBody n).body.length = m.body.length * 2 ^ k := by
  have h := grownLen_eq_of_guard m.body_pos hguard hstop
  unfold growBody
  split
  · simpa using h
  · rwa [grownLen_of_le (by omega)] at h

/-- Reading at most a body's worth of bytes into it keeps its length. -/
theorem length_fillBody (m : Message) {bs : List UInt8} (h : bs.length ≤ m.body.length) :
    (m.fillBody bs).body.length = m.body.length := by
  simp only [fillBody, List.length_append, List.length_drop]; omega

end Message

/-- The reads of `p` never fail, and among any `m` consecutive reads one delivers bytes: at
most `m - 1` reads in a row return nothing. -/
structure Steady (m : Nat) (p : Peer) : Prop where
  no_fail : ∀ k e, p.readStep k ≠ .fail e
  progress : ∀ k, ∃ j < m, ∃ n, 0 < n ∧ p.readStep (k + j) = .data n

/-- Decoding the header bytes of a frame gives back its header fields. -/
theorem decode_encodeHeader (w : UInt32) (mt sc : UInt8) (ex : UInt16) :
    leUint32 (encodeHeader w mt sc ex) = w ∧ (encodeHeader w mt sc ex).getD 4 0 = mt ∧
      (encodeHeader w mt sc ex).getD 5 0 = sc ∧
        leUint16 ((encodeHeader w mt sc ex).drop 6) = ex := by
  refine ⟨leUint32_leBytes w _, ?_, ?_, ?_⟩
  · simp [encodeHeader, leBytes]
  · simp [encodeHeader, leBytes]
  · simpa [encodeHeader, leBytes] using leUint16_leBytes ex []

section Recv

/- `maxEmptyReads` stands for the constant `messageMaxConsecutiveEmptyReads`. -/
variable (maxEmptyReads : Nat)

/-- The loop of `recvFill`: at most `tries` more reads, stopping at the first that fails or
delivers bytes. -/
def recvFillLoop (want : Nat) : Nat → Conn → Except GoError (List UInt8) × Conn
  | 0, c => (.error .noProgress, c)
  | tries + 1, c =>
    match c.read want with
    | (.error e, c') => (.error e, c')
    | (.ok bs, c') => if bs = [] then recvFillLoop want tries c' else (.ok bs, c')

/-- `recvFill`: fill at most `want` bytes with at most `messageMaxConsecutiveEmptyReads`
reads. -/
def recvFill (want : Nat) (c : Conn) : Except GoError (List UInt8) × Conn :=
  recvFillLoop want maxEmptyReads c

/-- The loop of `recvPeek`: fill until `need` more bytes have arrived.  Each fill delivers at
least one byte, so `need` fills are enough: the loop is entered with `fuel = need`, and `fuel`
only runs out once nothing more is needed. -/
def recvPeekLoop : Nat → Nat → Conn → Except GoError (List UInt8) × Conn
  | 0, _, c => (.ok [], c)
  | fuel + 1, need, c =>
    if need = 0 then (.ok [], c) else
    match recvFill maxEmptyReads need c with
    | (.error e, c') => (.error e, c')
    | (.ok bs, c') =>
      match recvPeekLoop fuel (need - bs.length) c' with
      | (.error e, c'') => (.error e, c'')
      | (.ok rest, c'') => (.ok (bs ++ rest), c'')

/-- `recvPeek`: read until `need` bytes have arrived.  The bytes of a fill that later fails are
not kept: every caller resets the message before it is read from again. -/
def recvPeek (need : Nat) (c : Conn) : Except GoError (List UInt8) × Conn :=
  recvPeekLoop maxEmptyReads need need c

/-- `recvHeader`: read the eight header bytes and decode the header fields from them. -/
def recvHeader (res : Message) (c : Conn) : Except GoError Unit × Message × Conn :=
  match recvPeek maxEmptyReads messageHeaderSize c with
  | (.error e, c') => (.error e, res, c')
  | (.ok h, c') =>
    (.ok (), { res with words := leUint32 h, mtype := h.getD 4 0, schema := h.getD 5 0,
                        extra := leUint16 (h.drop 6) }, c')

/-- `recvBody`: grow the body to hold `8 * words` bytes and read them into its front. -/
def recvBody (res : Message) (c : Conn) : Except GoError Unit × Message × Conn :=
  let n := res.words.toNat * messageWordSize
  match recvPeek maxEmptyReads n c with
  | (.error e, c') => (.error e, res.growBody n, c')
  | (.ok bs, c') => (.ok (), (res.growBody n).fillBody bs, c')

/-- `recv`: reset the response, then read one frame's header and body into it. -/
def recv (res : Message) (c : Conn) : Except GoError Unit × Message × Conn :=
  match recvHeader maxEmptyReads res.reset c with
  | (.error e, res', c') => (.error (.wrap "header" e), res', c')
  | (.ok (), res', c') =>
    match recvBody maxEmptyReads res' c' with
    | (.error e, res'', c'') => (.error (.wrap "body" e), res'', c'')
    | (.ok (), res'', c'') => (.ok (), res'', c'')

/-! ### What a read delivers -/

open Conn

/-- Whatever the peer does, a fill only reads, and what it returns are the next bytes of the
stream: at least one of them and at most `want`. -/
theorem recvFillLoop_spec (want tries : Nat) (c : Conn) :
    ReadOnly c (recvFillLoop want tries c).2 ∧ ∀ bs, (recvFillLoop want tries c).1 = .ok bs →
      Took c bs (recvFillLoop want tries c).2 ∧ bs ≠ [] ∧ bs.length ≤ want := by
  induction tries generalizing c with
  | zero => exact ⟨.refl c, by simp [recvFillLoop]⟩
  | succ tries ih =>
    rcases read_cases c want with ⟨bs, hlen, hbs, h⟩ | ⟨e, h⟩
    · by_cases hb : bs = []
      · subst hb
        have hc : Took c [] (c.advance 0 1) := ⟨⟨1, rfl⟩, rfl⟩
        simp only [recvFillLoop, h, if_true]
        refine ⟨hc.readOnly.trans (ih _).1, fun bs' h' => ?_⟩
        obtain ⟨ht, hne, hle⟩ := (ih _).2 bs' h'
        exact ⟨by simpa using hc.trans ht, hne, hle⟩
      · simp only [recvFillLoop, h, hb, if_false]
        have hc : Took c bs (c.advance bs.length 1) := ⟨⟨1, rfl⟩, hbs⟩
        exact ⟨hc.readOnly, fun bs' h' => by cases h'; exact ⟨hc, hb, hlen⟩⟩
    · simp only [recvFillLoop, h]
      exact ⟨⟨0, 1, rfl⟩, fun _ h' => by cases h'⟩

/-- Whatever the peer does, the loop of `recvPeek` only reads, and what it returns are the next
bytes of the stream, `need` of them when the loop has a fill for each. -/
theorem recvPeekLoop_spec (fuel need : Nat) (c : Conn) :
    ReadOnly c (recvPeekLoop maxEmptyReads fuel need c).2 ∧
      ∀ bs, (recvPeekLoop maxEmptyReads fuel need c).1 = .ok bs →
        Took c bs (recvPeekLoop maxEmptyReads fuel need c).2 ∧
          (need ≤ fuel → bs.length = need) := by
  induction fuel generalizing need c with
  | zero => exact ⟨.refl c, fun bs h => by cases h; exact ⟨.nil c, fun h => by simp; omega⟩⟩
  | succ fuel ih =>
    by_cases hn : need = 0
    · simp only [recvPeekLoop, hn, if_true]
      exact ⟨.refl c, fun bs h => by cases h; exact ⟨.nil c, by simp⟩⟩
    obtain ⟨hro, hok⟩ := recvFillLoop_spec need maxEmptyReads c
    simp only [recvPeekLoop, hn, if_false, recvFill]
    generalize recvFillLoop need maxEmptyReads c = x at hro hok
    obtain ⟨r, c'⟩ := x
    cases r with
    | error e => exact ⟨hro, fun _ h => by cases h⟩
    | ok bs =>
      dsimp only at hro hok ⊢
      obtain ⟨ht, hne, hle⟩ := hok bs rfl
      obtain ⟨hro', hok'⟩ := ih (need - bs.length) c'
      generalize recvPeekLoop maxEmptyReads fuel (need - bs.length) c' = y
        at hro' hok'
      obtain ⟨r', c''⟩ := y
      cases r' with
      | error e =>
        dsimp only at hro' ⊢
        exact ⟨hro.trans hro', fun _ h => by cases h⟩
      | ok rest =>
        dsimp only at hro' hok' ⊢
        obtain ⟨ht', hlen'⟩ := hok' rest rfl
        have := List.length_pos.2 hne
        refine ⟨hro.trans hro', fun bs' h => ?_⟩
        cases h
        refine ⟨ht.trans ht', fun _ => ?_⟩
        have := hlen' (by omega)
        simp only [List.length_append]; omega

/-- Whatever the peer does, `recvPeek` only reads, and when it succeeds it returns exactly the
next `need` bytes of the stream. -/
theorem recvPeek_spec (need : Nat) (c : Conn) :
    ReadOnly c (recvPeek maxEmptyReads need c).2 ∧
      ∀ bs, (recvPeek maxEmptyReads need c).1 = .ok bs →
        Took c bs (recvPeek maxEmptyReads need c).2 ∧ bs.length = need :=
  let ⟨h, h'⟩ := recvPeekLoop_spec maxEmptyReads need need c
  ⟨h, fun bs hb => let ⟨ht, hl⟩ := h' bs hb; ⟨ht, hl le_rfl⟩⟩

/-! ### Steady peers -/

/-- A fill whose reads never fail, and one of whose next `tries` reads delivers bytes,
succeeds. -/
theorem recvFillLoop_ok (want tries : Nat) (c : Conn) (hw : 0 < want)
    (hnf : ∀ k e, c.peer.readStep k ≠ .fail e)
    (hj : ∃ j < tries, ∃ n, 0 < n ∧ c.peer.readStep (c.reads + j) = .data n) :
    ∃ bs, (recvFillLoop want tries c).1 = .ok bs := by
  induction tries generalizing c with
  | zero => obtain ⟨j, hj, -⟩ := hj; omega
  | succ tries ih =>
    obtain ⟨j, hjt, n, hn, hjn⟩ := hj
    cases h0 : c.peer.readStep c.reads with
    | fail e => exact absurd h0 (hnf _ e)
    | data n0 =>
      have hr : c.read want = (.ok (c.upcoming (min n0 want)), c.advance (min n0 want) 1) := by
        simp [Conn.read, h0]
      by_cases hz : n0 = 0
      · have hj0 : j ≠ 0 := by
          rintro rfl; rw [Nat.add_zero, h0, hz, ReadStep.data.injEq] at hjn; omega
        subst hz
        simp only [recvFillLoop, hr, Nat.zero_min, upcoming, Peer.chunk, if_true]
        refine ih _ hnf ⟨j - 1, by omega, n, hn, ?_⟩
        simpa [Nat.add_assoc, Nat.add_sub_cancel' (Nat.one_le_iff_ne_zero.2 hj0)] using hjn
      · have hne : c.upcoming (min n0 want) ≠ [] := by
          rw [← List.length_pos, upcoming, Peer.length_chunk]; omega
        simp only [recvFillLoop, hr, hne, if_false]
        exact ⟨_, rfl⟩

/-- Against a steady peer the loop of `recvPeek` succeeds. -/
theorem recvPeekLoop_ok (fuel need : Nat) (c : Conn)
    (hs : Steady maxEmptyReads c.peer) :
    ∃ bs, (recvPeekLoop maxEmptyReads fuel need c).1 = .ok bs := by
  induction fuel generalizing need c with
  | zero => exact ⟨[], rfl⟩
  | succ fuel ih =>
    by_cases hn : need = 0
    · simp [recvPeekLoop, hn]
    obtain ⟨bs, hbs⟩ := recvFillLoop_ok need maxEmptyReads c (by omega)
      hs.no_fail (hs.progress c.reads)
    obtain ⟨hro, -⟩ := recvFillLoop_spec need maxEmptyReads c
    simp only [recvPeekLoop, hn, if_false, recvFill]
    generalize recvFillLoop need maxEmptyReads c = x at hbs hro
    obtain ⟨r, c'⟩ := x
    cases hbs
    obtain ⟨k, t, rfl⟩ := hro
    obtain ⟨rest, hrest⟩ := ih (need - bs.length) (c.advance k t) (by simpa using hs)
    dsimp only
    generalize recvPeekLoop maxEmptyReads fuel (need - bs.length)
      (c.advance k t) = y at hrest
    obtain ⟨r', c''⟩ := y
    cases hrest
    exact ⟨_, rfl⟩

/-- Against a steady peer, `recvPeek` returns the next `need` bytes of the stream. -/
theorem recvPeek_steady (need : Nat) (c : Conn)
    (hs : Steady maxEmptyReads c.peer) :
    ∃ r, recvPeek maxEmptyReads need c =
      (.ok (c.upcoming need), c.advance need r) := by
  obtain ⟨bs, hbs⟩ := recvPeekLoop_ok maxEmptyReads need need c hs
  obtain ⟨-, hok⟩ := recvPeek_spec maxEmptyReads need c
  obtain ⟨⟨⟨r, hr⟩, hup⟩, hlen⟩ := hok bs hbs
  refine ⟨r, Prod.ext ?_ ?_⟩
  · rw [recvPeek, hbs, hup, hlen]
  · rw [hr, hlen]

/-! ### Receiving a frame -/

/-- Against a steady peer, `recv` at the start of a well-formed frame reads exactly that frame:
the header fields and the first `8 * words` bytes of the body are the frame's, and the stream
moves past the frame and no further. -/
theorem recv_frame (res : Message) (c : Conn) (f : Frame) (hf : f.WellFormed)
    (hc : c.upcoming f.bytes.length = f.bytes) (hs : Steady maxEmptyReads c.peer) :
    ∃ res' r, recv maxEmptyReads res c = (.ok (), res', c.advance f.bytes.length r) ∧
      res'.frame = f := by
  obtain ⟨r₁, h₁⟩ := recvPeek_steady maxEmptyReads messageHeaderSize c hs
  have hsplit := upcoming_add c messageHeaderSize f.body.length r₁
  rw [← Frame.length_bytes, hc, Frame.bytes] at hsplit
  obtain ⟨hh, hb⟩ := List.append_inj hsplit (by simp [upcoming])
  have hn : f.words.toNat * messageWordSize = f.body.length := hf.symm
  obtain ⟨r₂, h₂⟩ := recvPeek_steady maxEmptyReads f.body.length
    (c.advance messageHeaderSize r₁) (by simpa using hs)
  obtain ⟨dw, dm, ds, de⟩ := decode_encodeHeader f.words f.mtype f.schema f.extra
  let hdr : Message :=
    { res.reset with words := f.words, mtype := f.mtype, schema := f.schema, extra := f.extra }
  have key : recv maxEmptyReads res c =
      (.ok (), (hdr.growBody f.body.length).fillBody f.body,
        c.advance f.bytes.length (r₁ + r₂)) := by
    simp only [recv, recvHeader, h₁, ← hh, dw, dm, ds, de, recvBody, hdr]
    simp only [hn, h₂, ← hb, advance_advance, Frame.length_bytes]
  refine ⟨_, _, key, ?_⟩
  simp only [Message.frame, Message.fillBody, hdr, Message.growBody_words, Message.growBody_mtype,
    Message.growBody_schema, Message.growBody_extra, hn, List.take_left' rfl]

/-- Whatever the peer does, `recvHeader` only reads. -/
theorem recvHeader_readOnly (res : Message) (c : Conn) :
    ReadOnly c (recvHeader maxEmptyReads res c).2.2 := by
  have h := (recvPeek_spec maxEmptyReads messageHeaderSize c).1
  unfold recvHeader
  split <;> simp_all

/-- Whatever the peer does, `recvBody` only reads. -/
theorem recvBody_readOnly (res : Message) (c : Conn) :
    ReadOnly c (recvBody maxEmptyReads res c).2.2 := by
  have h := (recvPeek_spec maxEmptyReads (res.words.toNat * messageWordSize) c).1
  dsimp only [recvBody]
  split <;> simp_all

/-- Whatever the peer does, `recv` only reads: it writes nothing and only moves the stream
forward. -/
theorem recv_readOnly (res : Message) (c : Conn) :
    ReadOnly c (recv maxEmptyReads res c).2.2 := by
  have h := recvHeader_readOnly maxEmptyReads res.reset c
  unfold recv
  split
  · simp_all
  · rename_i res' c' heq
    rw [heq] at h
    have h' := h.trans (recvBody_readOnly maxEmptyReads res' c')
    split <;> simp_all

/-! ### The growth of the body buffer -/

/-- Whatever the peer does, `recvBody` leaves the body its growth loop made: the bytes read only
fill its front. -/
theorem length_recvBody (res : Message) (c : Conn) :
    (recvBody maxEmptyReads res c).2.1.body.length =
      (res.growBody (res.words.toNat * messageWordSize)).body.length := by
  have h := (recvPeek_spec maxEmptyReads (res.words.toNat * messageWordSize) c).2
  dsimp only [recvBody]
  split
  · rfl
  · rename_i bs c' heq
    rw [heq] at h
    exact Message.length_fillBody _ ((h bs rfl).2.trans_le (Message.le_length_growBody _ _))

/-- The growth loop of `recvBody` on a body of `L` bytes (positive: every message is made by
`Init` with a positive size) and a header of `w` words makes exactly
`k = max 0 ⌈log₂ (8w / L)⌉` doublings: its guard `8w > len` holds at `L * 2^j` for each
`j < k` and fails at `L * 2^k`.  Whatever the peer does, `recvBody` leaves a body of `L * 2^k`
bytes, enough for the slice of `8w` bytes it reads into, and below `16w` bytes when the loop
doubled at all (so no length it computes overflows an `int`). -/
theorem recvBody_doublings (res : Message) (c : Conn) :
    ∃ k : Nat, (k : ℤ) = max 0 ⌈Real.logb 2 ((8 * res.words.toNat : ℝ) / res.body.length)⌉ ∧
      (∀ j < k, res.body.length * 2 ^ j < res.words.toNat * messageWordSize) ∧
      res.words.toNat * messageWordSize ≤ res.body.length * 2 ^ k ∧
      (recvBody maxEmptyReads res c).2.1.body.length = res.body.length * 2 ^ k ∧
      (0 < k → res.body.length * 2 ^ k < 16 * res.words.toNat) := by
  obtain ⟨k, hguard, hstop⟩ := exists_doublings res.body_pos (res.words.toNat * messageWordSize)
  refine ⟨k, ?_, hguard, hstop, ?_, fun hk => ?_⟩
  · have h := max_ceil_logb_eq_doublings res.body_pos hguard hstop
    rw [Nat.cast_mul, messageWordSize, Nat.cast_ofNat, mul_comm] at h
    exact h.symm
  · rw [length_recvBody, res.length_growBody_of_guard hguard hstop]
  · obtain ⟨j, rfl⟩ : ∃ j, k = j + 1 := ⟨k - 1, by omega⟩
    have := hguard j (by omega)
    rw [pow_succ, ← mul_assoc]
    simp only [messageWordSize] at this
    omega

/-- A `recv` whose first read fails returns that error. -/
theorem recv_of_read_fail (res : Message) (c : Conn) (e : GoError) (hM : 0 < maxEmptyReads)
    (h : c.peer.readStep c.reads = .fail e) :
    (recv maxEmptyReads res c).1 = .error (.wrap "header" e) := by
  obtain ⟨m, rfl⟩ : ∃ m, maxEmptyReads = m + 1 :=
    ⟨maxEmptyReads - 1, by omega⟩
  simp [recv, recvHeader, recvPeek, messageHeaderSize, recvPeekLoop, recvFill, recvFillLoop,
    Conn.read, h]

end Recv

end Cowsql
