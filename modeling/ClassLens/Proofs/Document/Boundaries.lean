import Mathlib
import ClassLens.Proofs.Document.Changes

/-! # Bytes and positions of a document

Every byte has a position: that of the character it belongs to, or of the end of the text.  Between
characters, position and byte lead to each other.  The other way round it is only true for columns that
exist: a column past the end of a line that is not the last one leads to the next line.

* `Document.Reachable`: a document that was opened and changed.
* `Document.Checked.position`: the position of a byte, and the first fault where it goes wrong.
* `Document.Aligned`: the bytes and positions of a document fit together.

**Main statements.** `Document.Checked.position_eq`: nothing goes wrong for any byte.
`Document.aligned_of_reachable`: the bytes and positions of every document fit together.
`Document.stays_on_line_iff`: which columns stay on their line. -/

namespace ClassLens

open Text

/-! ### Characters -/

namespace Text

/-- A byte inside a character counts as the character's start. -/
theorem floorByte_inside {front back : List Char} {c : Char} {byte : Nat}
    (hle : byteLength front ≤ byte) (hlt : byte < byteLength front + c.utf8Size) :
    floorByte (front ++ c :: back) byte = byteLength front := by
  induction front generalizing byte with
  | nil => exact if_neg (Nat.not_le.mpr (by simpa [byteLength] using hlt))
  | cons b bs ih =>
      rw [byteLength] at hle hlt ⊢
      rw [List.cons_append, floorByte, if_pos (by omega), ih (by omega) (by omega)]

/-- A byte past the end counts as the end. -/
theorem floorByte_of_le {s : List Char} {byte : Nat} (h : byteLength s ≤ byte) :
    floorByte s byte = byteLength s := by
  induction s generalizing byte with
  | nil => rfl
  | cons c cs ih =>
      rw [byteLength] at h ⊢
      rw [floorByte, if_pos (by omega), ih (by omega)]

theorem floorByte_min (s : List Char) (byte : Nat) :
    floorByte s (min byte (byteLength s)) = floorByte s byte := by
  rcases Nat.le_total byte (byteLength s) with h | h
  · rw [Nat.min_eq_left h]
  · rw [Nat.min_eq_right h, floorByte_of_le h, floorByte_of_le (Nat.le_refl _)]

/-- Every byte counts as one between two characters, or at an end. -/
theorem exists_floorByte (s : List Char) (byte : Nat) :
    ∃ front back, s = front ++ back ∧ floorByte s byte = byteLength front := by
  induction s generalizing byte with
  | nil => exact ⟨[], [], rfl, rfl⟩
  | cons c cs ih =>
      unfold floorByte
      split
      · obtain ⟨front, back, hcs, hfloor⟩ := ih (byte - c.utf8Size)
        exact ⟨c :: front, back, by rw [hcs]; rfl, by rw [hfloor]; rfl⟩
      · exact ⟨[], c :: cs, rfl, rfl⟩

end Text

/-! ### The order of positions -/

/-- A position stands before another one: on an earlier line, or on the same line in an earlier column. -/
def Position.Before (p q : Position) : Prop :=
  p.line < q.line ∨ p.line = q.line ∧ p.character < q.character

/-- Characters without a line feed lead to a later column of the same line. -/
theorem Position.after_append {front middle : List Char} (h : '\n' ∉ middle) :
    after (front ++ middle) = ⟨(after front).line, (after front).character + units16 middle⟩ := by
  have hline : (front ++ middle).rtakeWhile (· ≠ '\n') = front.rtakeWhile (· ≠ '\n') ++ middle := by
    have hall : ∀ c ∈ middle.reverse, decide (c ≠ '\n') = true := fun c hc =>
      decide_eq_true fun he => h (he ▸ List.mem_reverse.mp hc)
    rw [List.rtakeWhile, List.reverse_append, List.takeWhile_append_of_pos hall,
      List.reverse_append, List.reverse_reverse]
    rfl
  simp only [after, hline, units16_append, List.count_append, List.count_eq_zero.mpr h, Nat.add_zero]

/-- More characters lead to a later position. -/
theorem Position.after_before {front middle : List Char} (h : middle ≠ []) :
    (after front).Before (after (front ++ middle)) := by
  by_cases hfeed : '\n' ∈ middle
  · have hpos := List.count_pos_iff.mpr hfeed
    refine .inl ?_
    simp only [after, List.count_append]
    omega
  · have hunits : 0 < units16 middle := by
      obtain ⟨c, cs, rfl⟩ := List.exists_cons_of_ne_nil h
      exact Nat.add_pos_left (unitsOf_pos c) _
    rw [after_append hfeed]
    exact .inr ⟨rfl, Nat.lt_add_of_pos_right hunits⟩

namespace Document

variable {d : Document}

/-! ### From a byte to its position -/

/-- Bytes of one character have one position. -/
theorem positionOf_of_floor {byte byte' : Nat}
    (h : floorByte d.text.toList byte = floorByte d.text.toList byte') :
    d.positionOf byte = d.positionOf byte' := by
  simp only [positionOf, h]

namespace Checked

/-- The number of units in some characters. -/
def countUnits : Nat → List Char → Except Fault Nat
  | units, [] => .ok units
  | units, c :: cs => do
    let units ← word (units + unitsOf c)
    countUnits units cs

/-- The place of a number in a table that is in order, or the place where it would be put. -/
def search (table : List Nat) (n : Nat) : Nat ⊕ Nat :=
  if n ∈ table then .inl (table.idxOf n) else .inr (table.takeWhile (· < n)).length

/-- The position of a byte. -/
def position (d : Document) (byte : Nat) : Except Fault Position := do
  let byte := floorByte d.text.toList (min byte d.size)
  let line := (search d.lines byte).elim id (· - 1)
  match d.lines[line]? with
  | none => .error .range
  | some start =>
    let chars ← part d.text.toList start byte
    let character ← countUnits 0 chars
    let line ← word line
    return ⟨line, character⟩

theorem countUnits_eq {s : List Char} (units : Nat) (h : units + units16 s < 2 ^ 32) :
    countUnits units s = .ok (units + units16 s) := by
  induction s generalizing units with
  | nil => rfl
  | cons c cs ih =>
      rw [units16] at h ⊢
      have hword : word (units + unitsOf c) = .ok (units + unitsOf c) := word_of_lt (by omega)
      have hrest := ih (units + unitsOf c) (by omega)
      simp only [countUnits, hword, bind, Except.bind, hrest, Nat.add_assoc]

/-- A search ends at the last number of the table that is not greater. -/
theorem search_eq {table : List Nat} (h : table.Pairwise (· < ·)) (n : Nat) :
    (search table n).elim id (· - 1) = (table.takeWhile (· ≤ n)).length - 1 := by
  unfold search
  split
  · rename_i hmem
    obtain ⟨front, back, rfl⟩ := List.mem_iff_append.mp hmem
    obtain ⟨-, hback, hfront⟩ := List.pairwise_append.mp h
    have hbefore : ∀ m ∈ front, m < n := fun m hm => hfront m hm n List.mem_cons_self
    have hafter : ∀ m ∈ back, n < m := (List.pairwise_cons.mp hback).1
    have hnone : back.takeWhile (· ≤ n) = [] := by
      cases back with
      | nil => rfl
      | cons m ms =>
          have hm := hafter m List.mem_cons_self
          exact List.takeWhile_cons_of_neg (by simpa using hm)
    have hnot : n ∉ front := fun hn => Nat.lt_irrefl n (hbefore n hn)
    rw [List.takeWhile_append_of_pos fun m hm => decide_eq_true (Nat.le_of_lt (hbefore m hm)),
      List.takeWhile_cons_of_pos (by simp), hnone, Sum.elim_inl, List.idxOf_append_of_notMem hnot,
      List.idxOf_cons_self, List.length_append, List.length_singleton, Nat.add_sub_cancel]
    rfl
  · rename_i hmem
    -- a number that is not there is never equal
    have hsame : table.takeWhile (· < n) = table.takeWhile (· ≤ n) := by
      clear h
      induction table with
      | nil => rfl
      | cons m ms ih =>
          rw [List.mem_cons, not_or] at hmem
          have hlt : m < n ↔ m ≤ n := by omega
          simp only [List.takeWhile_cons, hlt, ih hmem.2]
    rw [Sum.elim_inr, hsame]

/-- Every byte has its position. -/
theorem position_eq (hlines : d.lines = lineStarts d.text) (hsize : d.size < 2 ^ 32) (byte : Nat) :
    position d byte = .ok (d.positionOf byte) := by
  obtain ⟨front, back, htext, hfloor⟩ := exists_floorByte d.text.toList byte
  set head := front.rdropWhile (· ≠ '\n')
  set tail := front.rtakeWhile (· ≠ '\n')
  have hfront : front = head ++ tail := List.rdropWhile_append_rtakeWhile.symm
  have hstart : d.lines[front.count '\n']? = some (byteLength head) := start_of_line hlines htext
  have hline : (search d.lines (byteLength front)).elim id (· - 1) = front.count '\n' := by
    rw [search_eq (hlines ▸ pairwise_lineStarts d.text)]
    exact lineOf_after hlines htext
  have hpart : part d.text.toList (byteLength head) (byteLength front) = .ok tail := by
    rw [htext, hfront, byteLength_append]
    exact part_append head tail back
  have hbound : byteLength front < 2 ^ 32 := by
    rw [size, htext, byteLength_append] at hsize
    omega
  obtain ⟨hnumber, hunits⟩ := Position.after_lt hbound
  have hword : word (front.count '\n') = .ok (front.count '\n') := word_of_lt hnumber
  have hcount : countUnits 0 tail = .ok (units16 tail) := by
    rw [countUnits_eq 0 (by rw [Nat.zero_add]; exact hunits), Nat.zero_add]
  have hposition : d.positionOf byte = .after front := by
    rw [← positionOf_byteLength hlines htext]
    refine positionOf_of_floor ?_
    rw [hfloor, htext, floorByte_byteLength]
  rw [hposition, position, size, floorByte_min, hfloor]
  simp only [hline, hstart, bind, Except.bind, hpart, hcount, hword, pure, Except.pure]
  rfl

end Checked

/-! ### Documents that are opened and changed -/

/-- A document that was opened, and changed by any batches. -/
inductive Reachable : Document → Prop
  | opened (uri : Uri) (language text : String) (version : Int) :
    Reachable (ofText uri language text version)
  | changed {d : Document} (changes : List Change) (version : Int) :
    Reachable d → Reachable (d.apply changes version)

theorem Reachable.lines (h : d.Reachable) : d.lines = lineStarts d.text := by
  induction h with
  | opened => rfl
  | changed cs version _ ih => exact apply_lineStarts ih cs version

/-- The bytes and positions of a document fit together. -/
structure Aligned (d : Document) : Prop where
  /-- No byte makes the document read out of range, and 32 bits hold its position. -/
  total : ∀ byte, Checked.position d byte = .ok (d.positionOf byte)
  /-- Between characters the position leads back to the byte. -/
  inverse : ∀ front back, d.text.toList = front ++ back →
    d.offsetOf? (d.positionOf (byteLength front)) = some (byteLength front)
  /-- The line counts the line feeds in front, the column the units after the last one. -/
  counts : ∀ front back, d.text.toList = front ++ back →
    d.positionOf (byteLength front) =
      ⟨front.count '\n', units16 (front.rtakeWhile (· ≠ '\n'))⟩
  /-- Inside a character it is the position of the character's start. -/
  inside : ∀ front c back byte, d.text.toList = front ++ c :: back → byteLength front ≤ byte →
    byte < byteLength front + c.utf8Size → d.positionOf byte = d.positionOf (byteLength front)
  /-- Past the end it is the position of the end. -/
  past : ∀ byte, d.size ≤ byte → d.positionOf byte = d.positionOf d.size
  /-- Between characters, more bytes have a later position. -/
  increasing : ∀ front back front' back', d.text.toList = front ++ back →
    d.text.toList = front' ++ back' → byteLength front < byteLength front' →
    (d.positionOf (byteLength front)).Before (d.positionOf (byteLength front'))

theorem increasing_of_lines (hlines : d.lines = lineStarts d.text)
    {front back front' back' : List Char} (h : d.text.toList = front ++ back)
    (h' : d.text.toList = front' ++ back') (hlt : byteLength front < byteLength front') :
    (d.positionOf (byteLength front)).Before (d.positionOf (byteLength front')) := by
  rw [positionOf_byteLength hlines h, positionOf_byteLength hlines h']
  rcases List.append_eq_append_iff.mp (h.symm.trans h') with ⟨middle, hfront, -⟩ | ⟨middle, hfront, -⟩
  · have hne : middle ≠ [] := by
      rintro rfl
      rw [hfront, List.append_nil] at hlt
      exact Nat.lt_irrefl _ hlt
    rw [hfront]
    exact Position.after_before hne
  · -- the longer front cannot be the first one
    rw [hfront, byteLength_append] at hlt
    omega

/-- The bytes and positions of a document fit together after any batches of changes, as long as its text
has fewer than 2³² bytes. -/
theorem aligned_of_reachable (h : d.Reachable) (hsize : d.size < 2 ^ 32) : d.Aligned where
  total := Checked.position_eq h.lines hsize
  inverse front back htext := by
    rw [positionOf_byteLength h.lines htext]
    exact offsetOf?_after h.lines htext
  counts front back htext := positionOf_byteLength h.lines htext
  inside front c back byte htext hle hlt :=
    positionOf_of_floor (by rw [htext, floorByte_inside hle hlt, floorByte_byteLength])
  past byte hle :=
    positionOf_of_floor ((floorByte_of_le hle).trans (floorByte_of_le (Nat.le_refl _)).symm)
  increasing _ _ _ _ htext htext' hlt := increasing_of_lines h.lines htext htext' hlt

/-- The byte inside an emoji, the end of a text after its last line feed, and the bytes past it. -/
theorem aligned_of_emoji :
    let d := (ofText ⟨"file:///App.tsx"⟩ "css" "a\nb" 1).apply [.part ⟨0, 1⟩ ⟨1, 1⟩ "😀\r\n"] 2
    d.Reachable ∧ d.size < 2 ^ 32 ∧ d.positionOf 3 = ⟨0, 1⟩ ∧ d.positionOf 9 = d.positionOf d.size ∧
      d.offsetOf? (d.positionOf 7) = some 7 := by
  intro d
  have hreachable : d.Reachable := .changed _ _ (.opened _ _ _ _)
  have hsize : d.size < 2 ^ 32 := by decide
  have htext : d.text.toList = ['a'] ++ '😀' :: ['\r', '\n'] := by decide
  have haligned := aligned_of_reachable hreachable hsize
  refine ⟨hreachable, hsize, ?_, haligned.past 9 (by decide), ?_⟩
  · rw [haligned.inside _ _ _ 3 htext (by decide) (by decide), haligned.counts _ _ htext]
    decide
  · exact haligned.inverse ['a', '😀', '\r', '\n'] [] (by rw [htext]; rfl)

/-! ### Columns past the end of a line -/

variable {l column : Nat} {head line rest : List Char}

/-- A column on the line leads to a byte of the line, or to its end. -/
theorem on_line_of_le (hlines : d.lines = lineStarts d.text)
    (h : LineAt d.text.toList l head line rest) (hle : column ≤ units16 line) :
    ∃ front back, line = front ++ back ∧
      cutAt? d.text.toList ⟨l, column⟩ = some (head ++ front, back ++ rest) ∧
      d.offsetOf? ⟨l, column⟩ = some (byteLength (head ++ front)) ∧
      (d.positionOf (byteLength (head ++ front))).line = l := by
  have hcut : cutAt? d.text.toList ⟨l, column⟩ =
      some (head ++ (cutColumn column line).1, (cutColumn column line).2 ++ rest) := by
    rw [h.cutAt?, cutColumn_of_le h.inside hle]
  refine ⟨_, _, (cutColumn_append column line).symm, hcut, ?_, ?_⟩
  · rw [offsetOf?_eq hlines, hcut]
    rfl
  · have hinside : '\n' ∉ (cutColumn column line).1 := fun hmem =>
      h.inside (cutColumn_append column line ▸ List.mem_append_left _ hmem)
    rw [positionOf_byteLength hlines (eq_of_cutAt? hcut)]
    simp only [Position.after, List.count_append, h.number, List.count_eq_zero.mpr hinside,
      Nat.add_zero]

/-- A column past the end of the line leads to the end of the text, or behind the line feed. -/
theorem behind_line_of_lt (hlines : d.lines = lineStarts d.text)
    (h : LineAt d.text.toList l head line rest) (hlt : units16 line < column) :
    d.offsetOf? ⟨l, column⟩ = some (byteLength (head ++ (line ++ rest.take 1))) := by
  rw [offsetOf?_eq hlines, h.cutAt?, cutColumn_of_lt h.inside h.stop hlt]
  rfl

/-- The end of the last line is on it. -/
theorem line_of_end (hlines : d.lines = lineStarts d.text)
    (h : LineAt d.text.toList l head line []) :
    (d.positionOf (byteLength (head ++ line))).line = l := by
  rw [positionOf_byteLength hlines h.text]
  simp only [Position.after, List.count_append, h.number, List.count_eq_zero.mpr h.inside,
    Nat.add_zero]

/-- The byte behind a line feed is the first one of the next line. -/
theorem position_of_next (hlines : d.lines = lineStarts d.text) {back : List Char}
    (h : LineAt d.text.toList l head line ('\n' :: back)) :
    d.positionOf (byteLength (head ++ line ++ ['\n'])) = ⟨l + 1, 0⟩ := by
  have htext : d.text.toList = (head ++ line ++ ['\n']) ++ back := by
    rw [h.text, List.append_assoc _ ['\n'], List.singleton_append]
  obtain ⟨hcount, hstart⟩ := h.next_start
  rw [positionOf_byteLength hlines htext, Position.after, hcount, hstart]
  rfl

/-- A change up to a cut keeps what is behind the cut. -/
theorem suffix_of_change (hlines : d.lines = lineStarts d.text) {stop : Position}
    {before back : List Char} (hcut : cutAt? d.text.toList stop = some (before, back))
    (start : Position) (text : String) :
    back <:+ (d.change (.part start stop text)).text.toList := by
  have hkept : back <:+ d.text.toList := ⟨before, (eq_of_cutAt? hcut).symm⟩
  rw [text_change hlines, Change.revise, hcut]
  cases cutAt? d.text.toList start with
  | none => exact hkept
  | some parts =>
      simp only
      split
      · rw [String.toList_ofList]
        exact List.suffix_append _ _
      · exact hkept

/-- A position on a line that exists has a byte.  The byte is on the line, and a change up to there keeps
what follows the line, exactly if the column is not past the end of the line or the line is the last one.
Past the end of the last line it is the end of the text; past the end of any other line it is the first
byte of the next one. -/
theorem stays_on_line_iff (hlines : d.lines = lineStarts d.text) (hl : l < d.lines.length)
    (column : Nat) :
    ∃ head line rest byte, LineAt d.text.toList l head line rest ∧
      d.offsetOf? ⟨l, column⟩ = some byte ∧
      (byte ≤ byteLength (head ++ line) ↔ column ≤ units16 line ∨ rest = []) ∧
      ((d.positionOf byte).line = l ↔ column ≤ units16 line ∨ rest = []) ∧
      (units16 line < column → rest = [] → byte = byteLength (head ++ line)) ∧
      (units16 line < column → rest ≠ [] →
        byte = byteLength (head ++ line ++ ['\n']) ∧ d.positionOf byte = ⟨l + 1, 0⟩) ∧
      (column ≤ units16 line ∨ rest = [] → ∀ start text,
        rest <:+ (d.change (.part start ⟨l, column⟩ text)).text.toList) := by
  rw [hlines, length_lineStarts] at hl
  obtain ⟨head, line, rest, h⟩ := exists_lineAt (Nat.le_of_lt_succ hl)
  rcases Nat.lt_or_ge (units16 line) column with hlt | hle
  · have hbyte := behind_line_of_lt hlines h hlt
    have hnot : ¬ column ≤ units16 line := Nat.not_le.mpr hlt
    rcases h.rest_cases with rfl | ⟨back, rfl⟩
    · -- the last line
      rw [List.take_nil, List.append_nil] at hbyte
      exact ⟨head, line, [], _, h, hbyte, iff_of_true (Nat.le_refl _) (.inr rfl),
        iff_of_true (line_of_end hlines h) (.inr rfl), fun _ _ => rfl,
        fun _ hrest => absurd rfl hrest, fun _ _ _ => List.nil_suffix⟩
    · rw [List.take_succ_cons, List.take_zero, ← List.append_assoc] at hbyte
      have hnext := position_of_next hlines h
      have hmore : ¬ byteLength (head ++ line ++ ['\n']) ≤ byteLength (head ++ line) := by
        have hfeed : byteLength ['\n'] = 1 := by decide
        rw [byteLength_append, hfeed]
        omega
      have hleaves : (d.positionOf (byteLength (head ++ line ++ ['\n']))).line ≠ l := by
        rw [hnext]
        exact Nat.succ_ne_self l
      have hneither : ¬ (column ≤ units16 line ∨ '\n' :: back = []) := by simp [hnot]
      exact ⟨head, line, '\n' :: back, _, h, hbyte, iff_of_false hmore hneither,
        iff_of_false hleaves hneither, fun _ hrest => absurd hrest (by simp),
        fun _ _ => ⟨rfl, hnext⟩, fun hstays => absurd hstays hneither⟩
  · obtain ⟨front, back, hline, hcut, hbyte, hstays⟩ := on_line_of_le hlines h hle
    have hless : byteLength (head ++ front) ≤ byteLength (head ++ line) := by
      rw [hline]
      simp only [byteLength_append]
      omega
    refine ⟨head, line, rest, _, h, hbyte, iff_of_true hless (.inl hle),
      iff_of_true hstays (.inl hle), ?_, ?_, ?_⟩
    · exact fun hlt => absurd hle (Nat.not_le.mpr hlt)
    · exact fun hlt => absurd hle (Nat.not_le.mpr hlt)
    · exact fun _ start text =>
        (List.suffix_append _ _).trans (suffix_of_change hlines hcut start text)

/-- Five columns into a line of one letter: the byte is behind the line feed. -/
theorem stays_on_line_iff_of_short_line :
    let d := ofText ⟨"file:///App.tsx"⟩ "css" "a\nb" 1
    d.lines = lineStarts d.text ∧ 0 < d.lines.length ∧ d.positionOf 2 = ⟨1, 0⟩ ∧
      ∃ head line rest byte, LineAt d.text.toList 0 head line rest ∧
        d.offsetOf? ⟨0, 5⟩ = some byte ∧ byte = 2 ∧
        ((d.positionOf byte).line = 0 ↔ 5 ≤ units16 line ∨ rest = []) := by
  intro d
  have hlines : d.lines = lineStarts d.text := rfl
  have hl : 0 < d.lines.length := by decide
  obtain ⟨head, line, rest, byte, h, hbyte, -, hstays, -⟩ := stays_on_line_iff hlines hl 5
  have htwo : d.offsetOf? ⟨0, 5⟩ = some 2 := by decide
  exact ⟨hlines, hl, by decide, head, line, rest, byte, h, hbyte,
    Option.some.inj (hbyte.symm.trans htwo), hstays⟩

end Document

end ClassLens
