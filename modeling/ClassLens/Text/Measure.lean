/-! # Measuring text

Positions in a text are counted in two units besides characters: bytes of its UTF-8 form, for
offsets, and UTF-16 code units, for the columns that an editor speaks of.

* `byteLength s`, `units16 s`: the two lengths.
* `splitAtByte? s n`: the two parts of `s` around byte `n`, if a character starts (or the text
  ends) there.
* `floorByte s n`: the greatest character boundary that is not past byte `n`.

**Main statements.** `splitAtByte?_eq_some_iff`: the two parts are exactly the ways of cutting
`s` with `n` bytes in front. -/

namespace ClassLens.Text

/-- Number of bytes of the UTF-8 form. -/
def byteLength : List Char → Nat
  | [] => 0
  | c :: cs => c.utf8Size + byteLength cs

/-- UTF-16 code units of one character: two beyond the basic plane. -/
def unitsOf (c : Char) : Nat :=
  if c.toNat < 0x10000 then 1 else 2

/-- Number of UTF-16 code units. -/
def units16 : List Char → Nat
  | [] => 0
  | c :: cs => unitsOf c + units16 cs

/-- The parts before and after byte `n`; none if `n` is inside a character or past the end. -/
def splitAtByte? : List Char → Nat → Option (List Char × List Char)
  | s, 0 => some ([], s)
  | [], _ + 1 => none
  | c :: cs, n + 1 =>
    if c.utf8Size ≤ n + 1 then
      (splitAtByte? cs (n + 1 - c.utf8Size)).map fun (front, back) => (c :: front, back)
    else
      none

/-- The greatest character boundary at or before byte `n`. -/
def floorByte : List Char → Nat → Nat
  | [], _ => 0
  | c :: cs, n => if c.utf8Size ≤ n then c.utf8Size + floorByte cs (n - c.utf8Size) else 0

/-! ### Laws of the lengths -/

@[simp] theorem byteLength_append (s t : List Char) :
    byteLength (s ++ t) = byteLength s + byteLength t := by
  induction s with
  | nil => simp [byteLength]
  | cons c cs ih => simp [byteLength, ih, Nat.add_assoc]

@[simp] theorem units16_append (s t : List Char) : units16 (s ++ t) = units16 s + units16 t := by
  induction s with
  | nil => simp [units16]
  | cons c cs ih => simp [units16, ih, Nat.add_assoc]

theorem unitsOf_pos (c : Char) : 0 < unitsOf c := by
  unfold unitsOf; split <;> decide

theorem byteLength_eq_zero {s : List Char} (h : byteLength s = 0) : s = [] := by
  cases s with
  | nil => rfl
  | cons c cs =>
    have := c.utf8Size_pos
    simp only [byteLength] at h
    omega

/-- A cut at byte `n` is a cut with `n` bytes in front. -/
theorem splitAtByte?_eq_some_iff {s front back : List Char} {n : Nat} :
    splitAtByte? s n = some (front, back) ↔ s = front ++ back ∧ byteLength front = n := by
  induction s generalizing n front with
  | nil =>
    cases n with
    | zero =>
      simp only [splitAtByte?, Option.some.injEq, Prod.mk.injEq]
      constructor
      · rintro ⟨rfl, rfl⟩
        simp [byteLength]
      · rintro ⟨h, -⟩
        have := List.append_eq_nil_iff.mp h.symm
        simp [this]
    | succ n =>
      simp only [splitAtByte?, reduceCtorEq, false_iff, not_and]
      intro h
      have := List.append_eq_nil_iff.mp h.symm
      simp [this, byteLength]
  | cons c cs ih =>
    cases n with
    | zero =>
      simp only [splitAtByte?, Option.some.injEq, Prod.mk.injEq]
      constructor
      · rintro ⟨rfl, rfl⟩
        simp [byteLength]
      · rintro ⟨h, hz⟩
        have := byteLength_eq_zero hz
        subst this
        simpa using h
    | succ n =>
      have hpos := c.utf8Size_pos
      rw [splitAtByte?]
      split
      · rename_i hle
        simp only [Option.map_eq_some_iff, Prod.exists, Prod.mk.injEq]
        constructor
        · rintro ⟨f, b, h, rfl, rfl⟩
          obtain ⟨rfl, hlen⟩ := ih.mp h
          exact ⟨by simp, by simp only [byteLength]; omega⟩
        · rintro ⟨h, hlen⟩
          cases front with
          | nil => simp [byteLength] at hlen
          | cons d front =>
            simp only [List.cons_append, List.cons.injEq] at h
            obtain ⟨rfl, rfl⟩ := h
            refine ⟨front, back, ih.mpr ⟨rfl, ?_⟩, rfl, rfl⟩
            simp only [byteLength] at hlen
            omega
      · rename_i hgt
        simp only [reduceCtorEq, false_iff, not_and]
        intro h
        cases front with
        | nil => simp [byteLength]
        | cons d front =>
          simp only [List.cons_append, List.cons.injEq] at h
          obtain ⟨rfl, -⟩ := h
          simp only [byteLength]
          omega

/-- The boundary found is never past the byte asked for. -/
theorem floorByte_le (s : List Char) (n : Nat) : floorByte s n ≤ n := by
  induction s generalizing n with
  | nil => simp [floorByte]
  | cons c cs ih =>
    unfold floorByte
    split
    · have := ih (n - c.utf8Size); omega
    · omega

end ClassLens.Text
