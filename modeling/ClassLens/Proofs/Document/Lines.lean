import Mathlib
import ClassLens.Proofs.Document.Positions

/-! # Lines of a text

A position is a line and a column.  What it means can be read off the text without a table: pass as many
line feeds as the line says, and then as many characters as the column needs, the next line feed being
the last.

* `LineAt s l head line rest`: line `l` of a text, what stands in front of it, and what follows, which
  starts with the line feed that ends the line.
* `cutAt? s p`: the two parts of a text around a position.

**Main statements.** `exists_lineAt`, `mem_lineStarts_iff`, `pairwise_lineStarts`: the table of lines has
the start of each line, in order.  `Document.offsetOf?_eq`: a document finds in its table the byte at which
a position cuts the text. -/

namespace ClassLens

open Text

/-! ### Lines -/

/-- A line of a text: the text is the part in front, which ends with a line feed if it is not empty, the
line without a line feed, and the rest, which starts with one if it is not empty. -/
structure LineAt (s : List Char) (l : Nat) (head line rest : List Char) : Prop where
  text : s = head ++ line ++ rest
  number : head.count '\n' = l
  start : ∀ c ∈ head.getLast?, c = '\n'
  inside : '\n' ∉ line
  stop : ∀ c ∈ rest.head?, c = '\n'

section LineAt

variable {s head line rest : List Char} {l column : Nat}

/-- There are as many lines as line feeds, and one more. -/
theorem exists_lineAt (h : l ≤ s.count '\n') : ∃ head line rest, LineAt s l head line rest := by
  induction s generalizing l with
  | nil =>
      have hl : l = 0 := by simpa using h
      exact ⟨[], [], [], rfl, hl ▸ rfl, by simp, by simp, by simp⟩
  | cons c cs ih =>
      by_cases hc : c = '\n'
      · subst hc
        cases l with
        | zero => exact ⟨[], [], '\n' :: cs, rfl, rfl, by simp, by simp, by simp⟩
        | succ l =>
            rw [List.count_cons_self] at h
            obtain ⟨head, line, rest, hline⟩ := ih (Nat.le_of_succ_le_succ h)
            refine ⟨'\n' :: head, line, rest, ?_, ?_, ?_, hline.inside, hline.stop⟩
            · rw [hline.text]
              rfl
            · rw [List.count_cons_self, hline.number]
            · intro x hx
              cases hhead : head.getLast? with
              | none => simpa [List.getLast?_cons, hhead, eq_comm] using hx
              | some y =>
                  have hy : y = x := by simpa [List.getLast?_cons, hhead] using hx
                  exact hline.start x (hy ▸ hhead)
      · rw [List.count_cons_of_ne hc] at h
        obtain ⟨head, line, rest, hline⟩ := ih h
        cases head with
        | nil =>
            -- the character is the first one of the line
            refine ⟨[], c :: line, rest, ?_, hline.number, by simp, ?_, hline.stop⟩
            · rw [hline.text]
              rfl
            · rw [List.mem_cons, not_or]
              exact ⟨Ne.symm hc, hline.inside⟩
        | cons b bs =>
            refine ⟨c :: b :: bs, line, rest, ?_, ?_, ?_, hline.inside, hline.stop⟩
            · rw [hline.text]
              rfl
            · rw [List.count_cons_of_ne hc, hline.number]
            · intro x hx
              exact hline.start x (by simpa [List.getLast?_cons] using hx)

theorem LineAt.rtakeWhile_head (h : LineAt s l head line rest) :
    head.rtakeWhile (· ≠ '\n') = [] := by
  rw [List.rtakeWhile_eq_nil_iff]
  intro hne
  have hlast := h.start _ (List.getLast?_eq_some_getLast hne)
  simp [hlast]

/-- The rest is empty, or a line feed and what follows it. -/
theorem LineAt.rest_cases (h : LineAt s l head line rest) : rest = [] ∨ ∃ back, rest = '\n' :: back := by
  cases rest with
  | nil => exact .inl rfl
  | cons c back => exact .inr ⟨back, by rw [h.stop c rfl]⟩

/-- The line feed that ends a line can be counted as the line's. -/
theorem LineAt.text_with_feed (h : LineAt s l head line rest) :
    s = head ++ (line ++ rest.take 1) ++ rest.drop 1 := by
  rw [h.text, List.append_assoc, List.append_assoc, List.append_assoc, List.take_append_drop]

/-- What follows a line feed is the next line's. -/
theorem LineAt.next_start {back : List Char} (h : LineAt s l head line ('\n' :: back)) :
    (head ++ line ++ ['\n']).count '\n' = l + 1 ∧
      (head ++ line ++ ['\n']).rtakeWhile (· ≠ '\n') = [] := by
  constructor
  · rw [List.count_append, List.count_append, h.number, List.count_eq_zero.mpr h.inside,
      List.count_singleton_self, Nat.add_zero]
  · simp

end LineAt

/-! ### The table -/

/-- The lines that start in the rest of a text start behind the line feeds of it. -/
theorem mem_lineStartsFrom_iff {offset start : Nat} {s : List Char} :
    start ∈ lineStartsFrom offset s ↔
      ∃ front back, s = front ++ '\n' :: back ∧ start = offset + byteLength (front ++ ['\n']) := by
  induction s generalizing offset with
  | nil => simp [lineStartsFrom]
  | cons c cs ih =>
      have hlater : start ∈ lineStartsFrom (offset + c.utf8Size) cs ↔
          ∃ front back, cs = front ++ '\n' :: back ∧
            start = offset + byteLength (c :: front ++ ['\n']) := by
        rw [ih]
        simp only [List.cons_append, byteLength, Nat.add_assoc]
      constructor
      · intro h
        unfold lineStartsFrom at h
        split at h
        · rename_i hc
          rcases List.mem_cons.mp h with hstart | hmem
          · exact ⟨[], cs, by rw [hc]; rfl, by rw [hstart, hc]; rfl⟩
          · obtain ⟨front, back, hcs, hstart⟩ := hlater.mp hmem
            exact ⟨c :: front, back, by rw [hcs]; rfl, hstart⟩
        · obtain ⟨front, back, hcs, hstart⟩ := hlater.mp h
          exact ⟨c :: front, back, by rw [hcs]; rfl, hstart⟩
      · rintro ⟨front, back, hs, hstart⟩
        unfold lineStartsFrom
        cases front with
        | nil =>
            obtain ⟨rfl, rfl⟩ : c = '\n' ∧ cs = back := by simpa using hs
            rw [if_pos rfl, hstart]
            exact List.mem_cons_self
        | cons b front =>
            obtain ⟨rfl, hcs⟩ : c = b ∧ cs = front ++ '\n' :: back := by simpa using hs
            have hmem := hlater.mpr ⟨front, back, hcs, hstart⟩
            split
            · exact List.mem_cons_of_mem _ hmem
            · exact hmem

/-- The table has zero and the bytes after each line feed. -/
theorem mem_lineStarts_iff {text : String} {start : Nat} :
    start ∈ lineStarts text ↔ start = 0 ∨ ∃ front back,
      text.toList = front ++ '\n' :: back ∧ start = byteLength (front ++ ['\n']) := by
  rw [lineStarts, List.mem_cons, mem_lineStartsFrom_iff]
  simp only [Nat.zero_add]

theorem pairwise_lineStartsFrom (offset : Nat) (s : List Char) :
    (lineStartsFrom offset s).Pairwise (· < ·) := by
  induction s generalizing offset with
  | nil => exact .nil
  | cons c cs ih =>
      unfold lineStartsFrom
      split
      · exact .cons (fun start h => (bounds_of_mem_lineStartsFrom h).1) (ih _)
      · exact ih _

/-- The lines are in order. -/
theorem pairwise_lineStarts (text : String) : (lineStarts text).Pairwise (· < ·) :=
  .cons (fun _ h => (bounds_of_mem_lineStartsFrom h).1) (pairwise_lineStartsFrom 0 _)

theorem length_lineStarts (text : String) :
    (lineStarts text).length = text.toList.count '\n' + 1 := by
  rw [lineStarts, List.length_cons, length_lineStartsFrom]

/-! ### Cutting a text at a position -/

/-- The text in front of a line, and the text from its start on. -/
def lineFrom? : Nat → List Char → Option (List Char × List Char)
  | 0, s => some ([], s)
  | _ + 1, [] => none
  | l + 1, c :: cs =>
    (lineFrom? (if c = '\n' then l else l + 1) cs).map (Prod.map (c :: ·) id)

/-- The characters of the first line that start before a column, and the rest.  A column past the end
takes the line feed too. -/
def cutColumn : Nat → List Char → List Char × List Char
  | _, [] => ([], [])
  | column, c :: cs =>
    if column = 0 then ([], c :: cs)
    else if c = '\n' then ([c], cs)
    else (cutColumn (column - unitsOf c) cs).map (c :: ·) id

/-- The two parts of a text around a position, if there is such a line. -/
def cutAt? (s : List Char) (p : Position) : Option (List Char × List Char) :=
  (lineFrom? p.line s).map fun parts =>
    ((cutColumn p.character parts.2).map (parts.1 ++ ·) id)

section Cut

variable {s head line rest : List Char} {l column : Nat}

/-- The line after as many line feeds as the text in front has. -/
theorem lineFrom?_append (hstart : ∀ c ∈ head.getLast?, c = '\n') (tail : List Char) :
    lineFrom? (head.count '\n') (head ++ tail) = some (head, tail) := by
  induction head with
  | nil => cases tail <;> rfl
  | cons c cs ih =>
      have hcs : ∀ x ∈ cs.getLast?, x = '\n' := fun x hx =>
        hstart x (by rw [List.getLast?_cons, Option.mem_def.mp hx]; rfl)
      by_cases hc : c = '\n'
      · rw [hc, List.count_cons_self, List.cons_append, lineFrom?, if_pos rfl, ih hcs]
        rfl
      · -- the text in front ends with a line feed, so one is still to come
        have hne : cs ≠ [] := by
          rintro rfl
          exact hc (hstart c rfl)
        have hmem : '\n' ∈ cs := by
          have hlast := hcs _ (List.getLast?_eq_some_getLast hne)
          exact hlast ▸ List.getLast_mem hne
        obtain ⟨n, hn⟩ : ∃ n, cs.count '\n' = n + 1 :=
          ⟨cs.count '\n' - 1, by have := List.count_pos_iff.mpr hmem; omega⟩
        rw [List.count_cons_of_ne hc, hn, List.cons_append, lineFrom?, if_neg hc, ← hn, ih hcs]
        rfl

theorem lineFrom?_of_lt (h : s.count '\n' < l) : lineFrom? l s = none := by
  induction s generalizing l with
  | nil =>
      obtain ⟨n, rfl⟩ := Nat.exists_eq_succ_of_ne_zero (Nat.ne_of_gt h)
      rfl
  | cons c cs ih =>
      obtain ⟨n, rfl⟩ := Nat.exists_eq_succ_of_ne_zero (Nat.ne_of_gt (Nat.zero_lt_of_lt h))
      rw [lineFrom?]
      split
      · rename_i hc
        rw [hc, List.count_cons_self] at h
        rw [ih (Nat.lt_of_succ_lt_succ h)]
        rfl
      · rename_i hc
        rw [List.count_cons_of_ne hc] at h
        rw [ih h]
        rfl

/-- A cut loses nothing. -/
theorem cutColumn_append (column : Nat) (s : List Char) :
    (cutColumn column s).1 ++ (cutColumn column s).2 = s := by
  induction s generalizing column with
  | nil => rfl
  | cons c cs ih =>
      unfold cutColumn
      split
      · rfl
      · split
        · rfl
        · exact congrArg (c :: ·) (ih _)

/-- A column that is not past the end of the line cuts the line. -/
theorem cutColumn_of_le (hline : '\n' ∉ line) (h : column ≤ units16 line) :
    cutColumn column (line ++ rest) =
      ((cutColumn column line).1, (cutColumn column line).2 ++ rest) := by
  induction line generalizing column with
  | nil =>
      obtain rfl : column = 0 := Nat.le_zero.mp h
      cases rest <;> rfl
  | cons c cs ih =>
      rw [List.mem_cons, not_or] at hline
      rw [List.cons_append, cutColumn, cutColumn]
      split
      · rfl
      · rw [units16] at h
        rw [if_neg (Ne.symm hline.1), if_neg (Ne.symm hline.1), ih hline.2 (by omega)]
        rfl

/-- A column past the end of the line takes the line and the line feed. -/
theorem cutColumn_of_lt (hline : '\n' ∉ line) (hrest : ∀ c ∈ rest.head?, c = '\n')
    (h : units16 line < column) :
    cutColumn column (line ++ rest) = (line ++ rest.take 1, rest.drop 1) := by
  induction line generalizing column with
  | nil =>
      cases rest with
      | nil => rfl
      | cons c back =>
          have hcolumn : column ≠ 0 := Nat.ne_of_gt h
          rw [List.nil_append, cutColumn, if_neg hcolumn, if_pos (hrest c rfl)]
          rfl
  | cons c cs ih =>
      rw [List.mem_cons, not_or] at hline
      rw [units16] at h
      rw [List.cons_append, cutColumn, if_neg (by omega), if_neg (Ne.symm hline.1),
        ih hline.2 (by omega)]
      rfl

/-- A walk to a column counts the bytes of the characters that the cut takes. -/
theorem bytesBefore_eq (hline : '\n' ∉ line) (hrest : ∀ c ∈ rest.head?, c = '\n') (column : Nat) :
    Document.bytesBefore column (line ++ rest.take 1) =
      byteLength (cutColumn column (line ++ rest)).1 := by
  induction line generalizing column with
  | nil =>
      cases rest with
      | nil => rfl
      | cons c back =>
          simp only [List.nil_append, List.take_succ_cons, List.take_zero, Document.bytesBefore,
            cutColumn, hrest c rfl, if_true]
          split <;> rfl
  | cons c cs ih =>
      rw [List.mem_cons, not_or] at hline
      rw [List.cons_append, List.cons_append, Document.bytesBefore, cutColumn]
      split
      · rfl
      · rw [if_neg (Ne.symm hline.1), ih hline.2]
        rfl

theorem LineAt.cutAt? (h : LineAt s l head line rest) (column : Nat) :
    cutAt? s ⟨l, column⟩ = some (head ++ (cutColumn column (line ++ rest)).1,
      (cutColumn column (line ++ rest)).2) := by
  have hfrom : lineFrom? l s = some (head, line ++ rest) := by
    rw [h.text, ← h.number, List.append_assoc]
    exact lineFrom?_append h.start _
  rw [ClassLens.cutAt?, hfrom]
  rfl

/-- A cut at a position loses nothing. -/
theorem eq_of_cutAt? {p : Position} {front back : List Char} (h : cutAt? s p = some (front, back)) :
    s = front ++ back := by
  by_cases hl : p.line ≤ s.count '\n'
  · obtain ⟨head, line, rest, hline⟩ := exists_lineAt hl
    rw [hline.cutAt? p.character, Option.some.injEq, Prod.mk.injEq] at h
    rw [← h.1, ← h.2, List.append_assoc, cutColumn_append, ← List.append_assoc, hline.text]
  · rw [cutAt?, lineFrom?_of_lt (Nat.lt_of_not_le hl)] at h
    cases h

end Cut

/-! ### The byte of a position -/

namespace Document

variable {d : Document} {l : Nat} {head line rest : List Char}

/-- The table ends with the line behind the last line feed. -/
theorem lines_of_lt (hlines : d.lines = lineStarts d.text) (h : d.text.toList.count '\n' < l) :
    d.lines[l]? = none := by
  rw [List.getElem?_eq_none_iff, hlines, length_lineStarts]
  exact h

theorem lines_of_lineAt (hlines : d.lines = lineStarts d.text)
    (h : LineAt d.text.toList l head line rest) : d.lines[l]? = some (byteLength head) := by
  rw [hlines, lineStarts, h.text, ← h.number, List.append_assoc]
  exact lineStarts_of_lines h.rtakeWhile_head _

/-- A line reaches up to the next one, or to the end of the text. -/
theorem stop_of_lineAt (hlines : d.lines = lineStarts d.text)
    (h : LineAt d.text.toList l head line rest) :
    (d.lines[l + 1]?).getD d.size = byteLength head + byteLength (line ++ rest.take 1) := by
  rcases h.rest_cases with rfl | ⟨back, rfl⟩
  · have hcount : d.text.toList.count '\n' = l := by
      rw [h.text, List.append_nil, List.count_append, h.number, List.count_eq_zero.mpr h.inside,
        Nat.add_zero]
    rw [lines_of_lt hlines (hcount ▸ Nat.lt_succ_self l), Option.getD_none, size, h.text, List.take_nil, List.append_nil, List.append_nil,
      byteLength_append]
  · have htext : d.text.toList = (head ++ line ++ ['\n']) ++ back := by
      rw [h.text]
      simp
    obtain ⟨hcount, hstart⟩ := h.next_start
    rw [hlines, lineStarts, htext, ← hcount, lineStarts_of_lines hstart, Option.getD_some]
    simp only [List.take_succ_cons, List.take_zero, byteLength_append, Nat.add_assoc]

theorem slice_of_lineAt (h : LineAt d.text.toList l head line rest) :
    d.slice (byteLength head) (byteLength head + byteLength (line ++ rest.take 1)) =
      line ++ rest.take 1 :=
  slice_eq h.text_with_feed

/-- There is a byte for each position on a line. -/
theorem offsetOf?_of_lineAt (hlines : d.lines = lineStarts d.text)
    (h : LineAt d.text.toList l head line rest) (column : Nat) :
    d.offsetOf? ⟨l, column⟩ =
      some (byteLength (head ++ (cutColumn column (line ++ rest)).1)) := by
  simp only [offsetOf?, lines_of_lineAt hlines h, Option.bind_eq_bind, Option.bind_some]
  rw [stop_of_lineAt hlines h, slice_of_lineAt h, bytesBefore_eq h.inside h.stop, byteLength_append]
  rfl

/-- The byte of a position is the one at which the position cuts the text. -/
theorem offsetOf?_eq (hlines : d.lines = lineStarts d.text) (p : Position) :
    d.offsetOf? p = (cutAt? d.text.toList p).map fun parts => byteLength parts.1 := by
  by_cases hl : p.line ≤ d.text.toList.count '\n'
  · obtain ⟨head, line, rest, hline⟩ := exists_lineAt hl
    rw [hline.cutAt? p.character]
    exact offsetOf?_of_lineAt hlines hline p.character
  · have hlt := Nat.lt_of_not_le hl
    rw [cutAt?, lineFrom?_of_lt hlt]
    simp only [offsetOf?, lines_of_lt hlines hlt, Option.bind_eq_bind, Option.bind_none,
      Option.map_none]

end Document

end ClassLens
