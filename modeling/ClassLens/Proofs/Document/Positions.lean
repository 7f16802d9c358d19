import ClassLens.Document.Basic
import Mathlib.Data.List.DropRight

/-! # Positions and bytes

An editor tells a byte of a text by the line feeds before it and the UTF-16 code units since the last
of them.  A document finds the byte again in its table of lines.

* `Position.after front`: the position of the byte that follows the characters `front`.

**Main statements.** `Document.offsetOf?_after`: the byte of such a position is the one it was told for.
`Document.positionOf_byteLength`: the document tells a byte by this position.
`Position.after_lt`: in a text of fewer than 2³² bytes, 32 bits hold both numbers of a position. -/

namespace ClassLens

open Text

namespace Text

/-- No character has more UTF-16 units than bytes. -/
theorem unitsOf_le_utf8Size (c : Char) : unitsOf c ≤ c.utf8Size := by
  unfold unitsOf
  split
  · exact c.utf8Size_pos
  · rename_i h
    -- a character beyond the basic plane takes four bytes
    have hbig : 0xffff < c.val := UInt32.lt_iff_toNat_lt.mpr (Nat.lt_of_not_le fun hle =>
      h (Nat.lt_succ_of_le hle))
    simp only [Char.utf8Size]
    grind

theorem units16_le_byteLength (s : List Char) : units16 s ≤ byteLength s := by
  induction s with
  | nil => exact Nat.le_refl 0
  | cons c cs ih =>
      have := unitsOf_le_utf8Size c
      rw [units16, byteLength]
      omega

/-- A byte that a character starts at, or the text ends at, is its own boundary. -/
theorem floorByte_byteLength (front back : List Char) :
    floorByte (front ++ back) (byteLength front) = byteLength front := by
  induction front with
  | nil =>
      cases back with
      | nil => rfl
      | cons c cs =>
          have hpos := c.utf8Size_pos
          exact if_neg (by rw [byteLength]; omega)
  | cons c cs ih =>
      rw [List.cons_append, floorByte, byteLength, if_pos (Nat.le_add_right _ _),
        Nat.add_sub_cancel_left, ih]

theorem length_le_byteLength (s : List Char) : s.length ≤ byteLength s := by
  induction s with
  | nil => exact Nat.le_refl 0
  | cons c cs ih =>
      have := c.utf8Size_pos
      rw [List.length_cons, byteLength]
      omega

end Text

/-- The position of the byte that follows some characters: the line feeds among them, and the units
since the last one. -/
def Position.after (front : List Char) : Position :=
  ⟨front.count '\n', units16 (front.rtakeWhile (· ≠ '\n'))⟩

/-- Neither number of a position is past the bytes before it. -/
theorem Position.after_lt {front : List Char} {bound : Nat} (h : byteLength front < bound) :
    (after front).line < bound ∧ (after front).character < bound := by
  constructor
  · calc front.count '\n' ≤ front.length := List.count_le_length
      _ ≤ byteLength front := length_le_byteLength front
      _ < bound := h
  · have hsplit : byteLength front = byteLength (front.rdropWhile (· ≠ '\n')) +
        byteLength (front.rtakeWhile (· ≠ '\n')) := by
      rw [← byteLength_append, List.rdropWhile_append_rtakeWhile]
    calc units16 (front.rtakeWhile (· ≠ '\n'))
        ≤ byteLength (front.rtakeWhile (· ≠ '\n')) := units16_le_byteLength _
      _ ≤ byteLength front := by omega
      _ < bound := h

/-! ### The table of lines -/

theorem lineStartsFrom_append (offset : Nat) (s t : List Char) :
    lineStartsFrom offset (s ++ t) =
      lineStartsFrom offset s ++ lineStartsFrom (offset + byteLength s) t := by
  induction s generalizing offset with
  | nil => rfl
  | cons c cs ih =>
      by_cases hc : c = '\n' <;>
        simp [lineStartsFrom, hc, ih, byteLength, Nat.add_assoc]

theorem length_lineStartsFrom (offset : Nat) (s : List Char) :
    (lineStartsFrom offset s).length = s.count '\n' := by
  induction s generalizing offset with
  | nil => rfl
  | cons c cs ih => by_cases hc : c = '\n' <;> simp [lineStartsFrom, hc, ih]

/-- Lines of the rest of a text start in it, or at its end. -/
theorem bounds_of_mem_lineStartsFrom {offset start : Nat} {s : List Char}
    (h : start ∈ lineStartsFrom offset s) : offset < start ∧ start ≤ offset + byteLength s := by
  induction s generalizing offset with
  | nil => cases h
  | cons c cs ih =>
      have hpos := c.utf8Size_pos
      have hlater : start ∈ lineStartsFrom (offset + c.utf8Size) cs →
          offset < start ∧ start ≤ offset + byteLength (c :: cs) := by
        intro hmem
        have hbounds := ih hmem
        rw [byteLength]
        omega
      unfold lineStartsFrom at h
      split at h
      · rcases List.mem_cons.mp h with rfl | hmem
        · rw [byteLength]
          omega
        · exact hlater hmem
      · exact hlater h

/-- After a part of the text that ends with a line feed, or is empty, the next line starts. -/
theorem lineStarts_of_lines {head : List Char} (hhead : head.rtakeWhile (· ≠ '\n') = [])
    (rest : List Char) :
    (0 :: lineStartsFrom 0 (head ++ rest))[head.count '\n']? = some (byteLength head) := by
  rcases List.eq_nil_or_concat head with rfl | ⟨front, last, rfl⟩
  · rfl
  · rw [List.concat_eq_append] at hhead ⊢
    have hlast : last = '\n' := by
      by_contra hne
      simp [hne] at hhead
    have hfeed : ('\n' : Char).utf8Size = 1 := by decide
    rw [hlast, List.count_append, List.count_singleton_self, List.getElem?_cons_succ,
      lineStartsFrom_append, lineStartsFrom_append, List.append_assoc,
      List.getElem?_append_right (by rw [length_lineStartsFrom]), length_lineStartsFrom, Nat.sub_self]
    simp [lineStartsFrom, byteLength, hfeed]

/-- The line start after a byte ends the line that the byte stands on, or there is none and the line is
the rest of the text. -/
theorem exists_line (offset : Nat) (back : List Char) :
    ∃ line rest, back = line ++ rest ∧
      (lineStartsFrom offset back).head?.getD (offset + byteLength back) =
        offset + byteLength line := by
  induction back generalizing offset with
  | nil => exact ⟨[], [], rfl, rfl⟩
  | cons c cs ih =>
      by_cases hc : c = '\n'
      · exact ⟨[c], cs, rfl, by simp [lineStartsFrom, hc, byteLength]⟩
      · obtain ⟨line, rest, rfl, hline⟩ := ih (offset + c.utf8Size)
        refine ⟨c :: line, rest, rfl, ?_⟩
        simp only [lineStartsFrom, hc, if_false, byteLength, ← Nat.add_assoc] at hline ⊢
        exact hline

/-! ### From a position to its byte -/

/-- As many bytes stand before a column as the characters before it have. -/
theorem bytesBefore_units16 (s t : List Char) :
    Document.bytesBefore (units16 s) (s ++ t) = byteLength s := by
  induction s with
  | nil => cases t <;> rfl
  | cons c cs ih =>
      have hne : unitsOf c + units16 cs ≠ 0 := by
        have := unitsOf_pos c
        omega
      rw [List.cons_append, units16, Document.bytesBefore, if_neg hne, Nat.add_sub_cancel_left, ih,
        byteLength]

namespace Document

variable {d : Document}

/-- The characters between two bytes. -/
theorem slice_eq {front middle back : List Char} (h : d.text.toList = front ++ middle ++ back) :
    d.slice (byteLength front) (byteLength front + byteLength middle) = middle := by
  have hfront : splitAtByte? d.text.toList (byteLength front) = some (front, middle ++ back) :=
    splitAtByte?_eq_some_iff.mpr ⟨by rw [h, List.append_assoc], rfl⟩
  have hmiddle : splitAtByte? (middle ++ back) (byteLength middle) = some (middle, back) :=
    splitAtByte?_eq_some_iff.mpr ⟨rfl, rfl⟩
  simp only [slice, hfront, Nat.add_sub_cancel_left, hmiddle]

/-- The line of the byte that follows some characters starts after the last line feed among them. -/
theorem start_of_line (hlines : d.lines = lineStarts d.text) {front back : List Char}
    (h : d.text.toList = front ++ back) :
    d.lines[front.count '\n']? = some (byteLength (front.rdropWhile (· ≠ '\n'))) := by
  set head := front.rdropWhile (· ≠ '\n')
  set tail := front.rtakeWhile (· ≠ '\n')
  have hfront : front = head ++ tail := List.rdropWhile_append_rtakeWhile.symm
  have htail : tail.count '\n' = 0 := List.count_eq_zero.mpr fun hmem => by
    simpa using List.mem_rtakeWhile_imp hmem
  have hhead : head.rtakeWhile (· ≠ '\n') = [] := by
    rw [List.rtakeWhile_eq_nil_iff]
    exact fun hne => List.rdropWhile_last_not _ _ hne
  rw [hlines, lineStarts, h, hfront, List.count_append, htail, Nat.add_zero, List.append_assoc]
  exact lineStarts_of_lines hhead _

/-- The byte of a position is the one that the position was told for. -/
theorem offsetOf?_after (hlines : d.lines = lineStarts d.text) {front back : List Char}
    (h : d.text.toList = front ++ back) :
    d.offsetOf? (.after front) = some (byteLength front) := by
  have hstart := start_of_line hlines h
  -- the line that the position is on: what stands before it, and on it before the position
  set head := front.rdropWhile (· ≠ '\n')
  set tail := front.rtakeWhile (· ≠ '\n')
  have hfront : front = head ++ tail := List.rdropWhile_append_rtakeWhile.symm
  obtain ⟨line, rest, hback, hstop⟩ := exists_line (byteLength front) back
  have hend : (d.lines[front.count '\n' + 1]?).getD d.size = byteLength front + byteLength line := by
    rw [← hstop, hlines, lineStarts, size, h, List.getElem?_cons_succ, lineStartsFrom_append,
      List.getElem?_append_right (by rw [length_lineStartsFrom]), length_lineStartsFrom,
      Nat.sub_self, Nat.zero_add, List.head?_eq_getElem?, byteLength_append]
  have hslice : d.slice (byteLength head) (byteLength front + byteLength line) = tail ++ line := by
    have htext : d.text.toList = head ++ (tail ++ line) ++ rest := by
      rw [h, hfront, hback]
      simp only [List.append_assoc]
    rw [← slice_eq htext, hfront]
    simp only [byteLength_append, Nat.add_assoc]
  have hbytes : byteLength front = byteLength head + byteLength tail := by
    rw [hfront, byteLength_append]
  simp only [offsetOf?, Position.after, hstart, Option.bind_eq_bind, Option.bind_some, hend, hslice]
  rw [bytesBefore_units16, hbytes]
  rfl

/-! ### From a byte to its position -/

/-- A byte is on the line that as many line feeds stand before. -/
theorem lineOf_after (hlines : d.lines = lineStarts d.text) {front back : List Char}
    (h : d.text.toList = front ++ back) : d.lineOf (byteLength front) = front.count '\n' := by
  have hall : ∀ start ∈ 0 :: lineStartsFrom 0 front, decide (start ≤ byteLength front) = true := by
    intro start hstart
    rcases List.mem_cons.mp hstart with rfl | hmem
    · exact decide_eq_true (Nat.zero_le _)
    · have hbounds := bounds_of_mem_lineStartsFrom hmem
      exact decide_eq_true (by omega)
  have hnone : (lineStartsFrom (byteLength front) back).takeWhile (· ≤ byteLength front) = [] := by
    cases hlater : lineStartsFrom (byteLength front) back with
    | nil => rfl
    | cons start rest =>
        have hbounds := bounds_of_mem_lineStartsFrom (hlater ▸ List.mem_cons_self)
        exact List.takeWhile_cons_of_neg (by simp; omega)
  rw [lineOf, hlines, lineStarts, h, lineStartsFrom_append, Nat.zero_add, ← List.cons_append,
    List.takeWhile_append_of_pos hall, hnone, List.append_nil, List.length_cons,
    length_lineStartsFrom, Nat.add_sub_cancel]

/-- The position of the byte that follows some characters. -/
theorem positionOf_byteLength (hlines : d.lines = lineStarts d.text) {front back : List Char}
    (h : d.text.toList = front ++ back) : d.positionOf (byteLength front) = .after front := by
  have hstart := start_of_line hlines h
  set head := front.rdropWhile (· ≠ '\n')
  set tail := front.rtakeWhile (· ≠ '\n') with htail
  have hfront : front = head ++ tail := List.rdropWhile_append_rtakeWhile.symm
  have hfloor : floorByte d.text.toList (byteLength front) = byteLength front := by
    rw [h, floorByte_byteLength]
  have hslice : d.slice (byteLength head) (byteLength front) = tail := by
    have htext : d.text.toList = head ++ tail ++ back := by rw [h, ← hfront]
    rw [hfront, byteLength_append]
    exact slice_eq htext
  unfold positionOf Position.after
  simp only [hfloor, lineOf_after hlines h, hstart, Option.getD_some, hslice, htail]

end Document

end ClassLens
