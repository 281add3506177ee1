import Cowsql.Driver.Exec

/-!
# Rows across result parts

`Rows.Next` of `driver.go`.  The server sends a large result in parts; `protocol.Rows.Next`
hands out the rows of the current part and returns `ErrRowsPart` at the end of a part that is
not the last, whereupon the driver fetches the next part with `More` and `DecodeRows`.

`protocol.Rows`, `More` and `DecodeRows` are not among the sources: a part is the list of its
rows and whether it is the last, and its `Next` is what the specification assumes of it.  The
parts still to come are the `pending` list, which `More` and `DecodeRows` pop.

`Rows.Next` fetches one part and returns that part's first `Next` result as it is.  When every
part after the first has a row, the caller sees every row in order and then `io.EOF`
(`nextN_of_nonempty_parts`); a part with no rows hands `ErrRowsPart` to the caller
(`rows_next_empty_part`).
-/

namespace Cowsql

/-- A result part as `DecodeRows` gives it: its rows, and whether it is the last part. -/
structure Part (Row : Type) where
  rows : List Row
  final : Bool

/-- `protocol.Rows.Next` as the specification assumes it: the part's rows in order, then
`ErrRowsPart` at the end of a part that is not the last, and `io.EOF` at the end of the last. -/
def Part.next {Row : Type} : Part Row → Except GoError Row × Part Row
  | ⟨r :: rs, f⟩ => (.ok r, ⟨rs, f⟩)
  | ⟨[], false⟩ => (.error .rowsPart, ⟨[], false⟩)
  | ⟨[], true⟩ => (.error .eof, ⟨[], true⟩)

/-- The fields of the driver's `Rows` that `Next` reads and writes: the current part, the parts
the server sends after it, and whether the result set was read to its end. -/
structure DriverRows (Row : Type) where
  rows : Part Row
  pending : List (Part Row)
  consumed : Bool

namespace DriverRows

variable {Row : Type}

/-- `Rows.Next`.  At the end of a part that is not the last, fetch the next part and return its
first result; when the server sends nothing more, `More` fails with `io.EOF`. -/
def next (r : DriverRows Row) : Except GoError Row × DriverRows Row :=
  match r.rows.next with
  | (.error .rowsPart, _) =>
    match r.pending with
    | [] => (.error (driverError .eof), r)
    | part :: pending =>
      match part.next with
      | (res, part) => (res, { r with rows := part, pending })
  | (.error e, rows) => (.error e, { r with rows, consumed := r.consumed || e == .eof })
  | (.ok row, rows) => (.ok row, { r with rows })

/-- `n` calls of `Rows.Next`: their results, and the rows after them. -/
def nextN : Nat → DriverRows Row → List (Except GoError Row) × DriverRows Row
  | 0, r => ([], r)
  | n + 1, r =>
    match r.next with
    | (x, r) =>
      match nextN n r with
      | (xs, r) => (x :: xs, r)

/-- The rows still to come. -/
def remaining (r : DriverRows Row) : List Row := r.rows.rows ++ (r.pending.map Part.rows).flatten

/-- `PartsOK final ps`: a part whose finality is `final` is followed by the parts `ps` as the
server sends them, every one of which has a row: only the last part is final. -/
def PartsOK : Bool → List (Part Row) → Prop
  | final, [] => final = true
  | final, p :: ps => final = false ∧ p.rows ≠ [] ∧ PartsOK p.final ps

/-- **Step lemma.** With rows to come and the parts to come well formed, `Next` returns the next
row and leaves the rest to come, the parts still well formed. -/
theorem next_of_partsOK {r : DriverRows Row} {row : Row} {rest : List Row}
    (h : PartsOK r.rows.final r.pending) (hrem : r.remaining = row :: rest) :
    ∃ r', r.next = (.ok row, r') ∧ r'.remaining = rest ∧ PartsOK r'.rows.final r'.pending := by
  obtain ⟨⟨rows, final⟩, pending, consumed⟩ := r
  cases rows with
  | cons row' rs =>
    simp only [remaining, List.cons_append, List.cons.injEq] at hrem
    obtain ⟨rfl, rfl⟩ := hrem
    exact ⟨_, rfl, rfl, h⟩
  | nil =>
    cases pending with
    | nil =>
      simp [remaining] at hrem
    | cons p ps =>
      obtain ⟨rfl, hne, hps⟩ := h
      obtain ⟨⟨_ | ⟨row', rs'⟩, pfinal⟩⟩ := p
      · exact absurd rfl hne
      · simp only [remaining, List.nil_append, List.map_cons, List.flatten_cons, List.cons_append,
          List.cons.injEq] at hrem
        obtain ⟨rfl, rfl⟩ := hrem
        exact ⟨_, rfl, rfl, hps⟩

/-- With nothing to come and the parts well formed, `Next` returns `io.EOF`. -/
theorem next_of_partsOK_nil {r : DriverRows Row} (h : PartsOK r.rows.final r.pending)
    (hrem : r.remaining = []) : (r.next).1 = .error .eof := by
  obtain ⟨⟨rows, final⟩, pending, consumed⟩ := r
  simp only [remaining, List.append_eq_nil] at hrem
  obtain ⟨rfl, hp⟩ := hrem
  cases pending with
  | nil =>
    cases h
    rfl
  | cons p ps =>
    obtain ⟨-, hne, -⟩ := h
    simp at hp
    exact absurd hp.1 hne

/-- **Run lemma.** When every part after the first has a row and only the last is final, the
calls of `Next` return every row to come, in order, and then `io.EOF`. -/
theorem nextN_of_nonempty_parts (r : DriverRows Row) (h : PartsOK r.rows.final r.pending) :
    (r.nextN (r.remaining.length + 1)).1 = r.remaining.map .ok ++ [.error .eof] := by
  generalize hn : r.remaining.length = n
  induction n generalizing r with
  | zero =>
    have hrem : r.remaining = [] := List.eq_nil_of_length_eq_zero hn
    simp only [nextN, hrem, List.map_nil, List.nil_append]
    rw [← next_of_partsOK_nil h hrem]
  | succ n ih =>
    obtain ⟨row, rest, hrem⟩ : ∃ row rest, r.remaining = row :: rest :=
      List.exists_cons_of_length_pos (by omega)
    obtain ⟨r', hnext, hrest, h'⟩ := next_of_partsOK h hrem
    have hlen : r'.remaining.length = n := by rw [hrem] at hn; simpa [hrest] using hn
    rw [nextN, hnext]
    dsimp only
    rw [ih r' h' hlen, hrem, hrest]
    rfl

end DriverRows

/-- A first part of one row, then a part with no row, then a last part of one row. -/
def emptyMiddle : DriverRows Nat := ⟨⟨[1], false⟩, [⟨[], false⟩, ⟨[2], true⟩], false⟩

/-- After the first row, `Rows.Next` fetches the empty part and returns its `ErrRowsPart` to the
caller. -/
theorem rows_next_empty_part : (emptyMiddle.nextN 2).1 = [.ok 1, .error .rowsPart] := rfl

end Cowsql
