import Mathlib
import ClassLens.Proofs.Document.Lines

/-! # Changes of a document

A change replaces the part of a text between two positions, or all of it.  Its text can be read off the
text before it; the document finds it through its table of lines, slices the text at the bytes it finds,
and counts columns in 32 bits, each of which could go wrong.

* `Change.revise s c`: the text after a change of the text `s`.
* `Document.Fault`: what can go wrong.
* `Document.Checked.offset`, `Document.Checked.change`, `Document.Checked.apply`: what a document does,
  and the first fault where it goes wrong.

**Main statements.** `Document.Checked.offset_eq`, `Document.Checked.change_eq`: where the table is that of
the text, nothing goes wrong, whatever the positions.  `Document.apply_total`: a batch gives the text that
its changes make of the text one after the other, and the table of that text. -/

namespace ClassLens

open Text

/-! ### The text after a change -/

/-- The text after a change.  A part whose ends are not both positions, or stand in the wrong order,
changes nothing. -/
def Change.revise (s : String) : Change → String
  | .whole text => text
  | .part start stop text =>
    match cutAt? s.toList start, cutAt? s.toList stop with
    | some (front, _), some (before, back) =>
      if byteLength front ≤ byteLength before then
        String.ofList (front ++ text.toList ++ back)
      else s
    | _, _ => s

namespace Document

variable {d : Document}

/-- A part is replaced between two cuts of the text. -/
theorem splice_of_cut {front rest before back : List Char} (h : d.text.toList = front ++ rest)
    (h' : d.text.toList = before ++ back) (text : String) :
    d.splice (byteLength front) (byteLength before) text =
      d.withText (String.ofList (front ++ text.toList ++ back)) := by
  have hcut : splitAtByte? d.text.toList (byteLength front) = some (front, rest) :=
    splitAtByte?_eq_some_iff.mpr ⟨h, rfl⟩
  have hcut' : splitAtByte? d.text.toList (byteLength before) = some (before, back) :=
    splitAtByte?_eq_some_iff.mpr ⟨h', rfl⟩
  simp only [splice, hcut, hcut']

theorem text_change (hlines : d.lines = lineStarts d.text) (c : Change) :
    (d.change c).text = c.revise d.text := by
  cases c with
  | whole text => rfl
  | part start stop text =>
      rw [change, Change.revise, offsetOf?_eq hlines, offsetOf?_eq hlines]
      cases hstart : cutAt? d.text.toList start with
      | none => rfl
      | some front =>
          cases hstop : cutAt? d.text.toList stop with
          | none => rfl
          | some before =>
              simp only [Option.map_some]
              split
              · rw [splice_of_cut (eq_of_cutAt? hstart) (eq_of_cutAt? hstop)]
                rfl
              · rfl

theorem text_foldl_change (hlines : d.lines = lineStarts d.text) (cs : List Change) :
    (cs.foldl change d).text = cs.foldl Change.revise d.text := by
  induction cs generalizing d with
  | nil => rfl
  | cons c cs ih =>
      rw [List.foldl_cons, List.foldl_cons, ih (change_lines hlines c), text_change hlines]

theorem change_uri (d : Document) (c : Change) :
    (d.change c).uri = d.uri ∧ (d.change c).language = d.language := by
  unfold change splice
  repeat' split
  all_goals exact ⟨rfl, rfl⟩

theorem foldl_change_uri (d : Document) (cs : List Change) :
    (cs.foldl change d).uri = d.uri ∧ (cs.foldl change d).language = d.language := by
  induction cs generalizing d with
  | nil => exact ⟨rfl, rfl⟩
  | cons c cs ih =>
      obtain ⟨huri, hlanguage⟩ := ih (d.change c)
      exact ⟨huri.trans (change_uri d c).1, hlanguage.trans (change_uri d c).2⟩

/-! ### What can go wrong -/

/-- What can go wrong when a text is read. -/
inductive Fault where
  /-- A byte past the end or inside a character, a part that ends before it starts, or no such line. -/
  | range
  /-- A number that 32 bits do not hold. -/
  | overflow
  deriving DecidableEq

namespace Checked

/-- A number that 32 bits have to hold. -/
def word (n : Nat) : Except Fault Nat :=
  if n < 2 ^ 32 then .ok n else .error .overflow

/-- The part of a text between two bytes. -/
def part (s : List Char) (start stop : Nat) : Except Fault (List Char) :=
  match splitAtByte? s start, splitAtByte? s stop with
  | some (front, _), some (before, _) =>
    if start ≤ stop then .ok (before.drop front.length) else .error .range
  | _, _ => .error .range

/-- The byte at which a walk ends that counts the units up to a column. -/
def walk (column : Nat) : Nat → Nat → List Char → Except Fault Nat
  | _, byte, [] => .ok byte
  | units, byte, c :: cs =>
    if column ≤ units then .ok byte
    else do
      let units ← word (units + unitsOf c)
      walk column units (byte + c.utf8Size) cs

/-- The byte of a position, if there is such a line. -/
def offset (d : Document) (p : Position) : Except Fault (Option Nat) :=
  match d.lines[p.line]? with
  | none => .ok none
  | some start => do
    let line ← part d.text.toList start ((d.lines[p.line + 1]?).getD d.size)
    let byte ← walk p.character 0 start line
    return some byte

/-- The document with the bytes between two offsets replaced. -/
def splice (d : Document) (start stop : Nat) (text : String) : Except Fault Document :=
  match splitAtByte? d.text.toList start, splitAtByte? d.text.toList stop with
  | some (front, _), some (_, back) =>
    if start ≤ stop then .ok (d.withText (String.ofList (front ++ text.toList ++ back)))
    else .error .range
  | _, _ => .error .range

/-- The document after one change. -/
def change (d : Document) : Change → Except Fault Document
  | .whole text => .ok (d.withText text)
  | .part start stop text => do
    let start ← offset d start
    let stop ← offset d stop
    match start, stop with
    | some s, some e => if s ≤ e then splice d s e text else return d
    | _, _ => return d

/-- The document after a batch of changes. -/
def apply (d : Document) (changes : List Change) (version : Int) : Except Fault Document := do
  let d ← changes.foldlM change d
  return { d with version := version }

/-! ### Nothing goes wrong -/

theorem word_of_lt {n : Nat} (h : n < 2 ^ 32) : word n = .ok n := if_pos h

theorem part_append (front middle back : List Char) :
    part (front ++ middle ++ back) (byteLength front) (byteLength front + byteLength middle) =
      .ok middle := by
  have hfront : splitAtByte? (front ++ middle ++ back) (byteLength front) =
      some (front, middle ++ back) :=
    splitAtByte?_eq_some_iff.mpr ⟨List.append_assoc _ _ _, rfl⟩
  have hbefore : splitAtByte? (front ++ middle ++ back) (byteLength front + byteLength middle) =
      some (front ++ middle, back) :=
    splitAtByte?_eq_some_iff.mpr ⟨rfl, byteLength_append _ _⟩
  simp only [part, hfront, hbefore, if_pos (Nat.le_add_right _ _), List.drop_left]

/-- The count of a walk is never more than the units of the text. -/
theorem walk_eq {s : List Char} (column units byte : Nat) (h : units + units16 s < 2 ^ 32) :
    walk column units byte s = .ok (byte + bytesBefore (column - units) s) := by
  induction s generalizing units byte with
  | nil => rfl
  | cons c cs ih =>
      rw [units16] at h
      unfold walk bytesBefore
      by_cases hle : column ≤ units
      · rw [if_pos hle, if_pos (Nat.sub_eq_zero_of_le hle)]
        rfl
      · have hword : word (units + unitsOf c) = .ok (units + unitsOf c) := word_of_lt (by omega)
        have hrest := ih (units + unitsOf c) (byte + c.utf8Size) (by omega)
        rw [if_neg hle, if_neg (by omega), hword]
        simp only [bind, Except.bind, hrest, Nat.sub_sub, Nat.add_assoc]

variable {d : Document}

/-- Every position has its byte, or is on no line. -/
theorem offset_eq (hlines : d.lines = lineStarts d.text) (hsize : d.size < 2 ^ 32) (p : Position) :
    offset d p = .ok (d.offsetOf? p) := by
  by_cases hl : p.line ≤ d.text.toList.count '\n'
  · obtain ⟨head, line, rest, hline⟩ := exists_lineAt hl
    have htext := hline.text_with_feed
    have hunits : 0 + units16 (line ++ rest.take 1) < 2 ^ 32 := by
      have hle := units16_le_byteLength (line ++ rest.take 1)
      rw [size, htext, byteLength_append, byteLength_append] at hsize
      omega
    have hpart := part_append head (line ++ rest.take 1) (rest.drop 1)
    rw [← htext, ← stop_of_lineAt hlines hline] at hpart
    have hoffset := offsetOf?_of_lineAt hlines hline p.character
    rw [byteLength_append, ← bytesBefore_eq hline.inside hline.stop] at hoffset
    simp only [offset, lines_of_lineAt hlines hline, bind, Except.bind, hpart,
      walk_eq p.character 0 _ hunits, Nat.sub_zero, pure, Except.pure]
    exact congrArg _ hoffset.symm
  · have hnone := lines_of_lt hlines (Nat.lt_of_not_le hl)
    simp only [offset, hnone, offsetOf?, Option.bind_eq_bind, Option.bind_none]

theorem change_eq (hlines : d.lines = lineStarts d.text) (hsize : d.size < 2 ^ 32) (c : Change) :
    change d c = .ok (d.change c) := by
  cases c with
  | whole text => rfl
  | part start stop text =>
      simp only [change, offset_eq hlines hsize, bind, Except.bind, Document.change]
      rw [offsetOf?_eq hlines, offsetOf?_eq hlines]
      cases hstart : cutAt? d.text.toList start with
      | none => rfl
      | some front =>
          cases hstop : cutAt? d.text.toList stop with
          | none => rfl
          | some before =>
              simp only [Option.map_some]
              split
              · rename_i hle
                -- both ends are cuts of the text, so the text can be sliced there
                have hcut := splitAtByte?_eq_some_iff.mpr ⟨eq_of_cutAt? hstart, rfl⟩
                have hcut' := splitAtByte?_eq_some_iff.mpr ⟨eq_of_cutAt? hstop, rfl⟩
                rw [splice_of_cut (eq_of_cutAt? hstart) (eq_of_cutAt? hstop)]
                simp only [splice, hcut, hcut', if_pos hle]
              · rfl

theorem foldlM_change_eq (hlines : d.lines = lineStarts d.text) (cs : List Change)
    (hsize : ∀ before, before <+: cs → (before.foldl Document.change d).size < 2 ^ 32) :
    cs.foldlM change d = .ok (cs.foldl Document.change d) := by
  induction cs generalizing d with
  | nil => rfl
  | cons c cs ih =>
      have hfirst : d.size < 2 ^ 32 := hsize [] List.nil_prefix
      have hrest := ih (change_lines hlines c) fun before h =>
        hsize (c :: before) (List.cons_prefix_cons.mpr ⟨rfl, h⟩)
      rw [List.foldlM_cons, change_eq hlines hfirst]
      exact hrest

end Checked

/-! ### Batches -/

/-- Where the table is that of the text, a batch of any changes goes through, as long as the texts on the
way have fewer than 2³² bytes.  Each change is made of the text that the changes before it have left, at
the bytes that the document then tells for the positions; in the end the table has zero and the bytes after
the line feeds of the text, and nothing else has changed but the version. -/
theorem apply_total (hlines : d.lines = lineStarts d.text) (cs : List Change) (version : Int)
    (hsize : ∀ before, before <+: cs →
      byteLength (before.foldl Change.revise d.text).toList < 2 ^ 32) :
    Checked.apply d cs version = .ok (d.apply cs version) ∧
      (d.apply cs version).text = cs.foldl Change.revise d.text ∧
      (∀ before, before <+: cs → ∀ p, (before.foldl change d).offsetOf? p =
        (cutAt? (before.foldl Change.revise d.text).toList p).map fun parts => byteLength parts.1) ∧
      (∀ start, start ∈ (d.apply cs version).lines ↔ start = 0 ∨ ∃ front back,
        (d.apply cs version).text.toList = front ++ '\n' :: back ∧
          start = byteLength (front ++ ['\n'])) ∧
      (d.apply cs version).lines.Pairwise (· < ·) ∧
      (d.apply cs version).version = version ∧
      (d.apply cs version).uri = d.uri ∧ (d.apply cs version).language = d.language := by
  have htable := apply_lineStarts hlines cs version
  refine ⟨?_, text_foldl_change hlines cs, fun before _ p => ?_, fun start => ?_, ?_, rfl,
    (foldl_change_uri d cs).1, (foldl_change_uri d cs).2⟩
  · have hfold := Checked.foldlM_change_eq hlines cs fun before h => by
      rw [size, text_foldl_change hlines]
      exact hsize before h
    simp only [Checked.apply, hfold, bind, Except.bind, pure, Except.pure, apply]
  · rw [offsetOf?_eq (foldl_change_lines hlines before), text_foldl_change hlines]
  · rw [htable]
    exact mem_lineStarts_iff
  · rw [htable]
    exact pairwise_lineStarts _

/-- A part from inside an emoji to far behind the line, a part on lines that do not exist, and a part with
its ends in the wrong order. -/
theorem apply_total_of_odd_positions :
    let d := ofText ⟨"file:///App.tsx"⟩ "css" "a😀\r\nb" 1
    let cs : List Change :=
      [.part ⟨0, 2⟩ ⟨0, 99⟩ "é", .part ⟨7, 0⟩ ⟨8, 0⟩ "x", .part ⟨0, 2⟩ ⟨0, 0⟩ "y"]
    d.lines = lineStarts d.text ∧
      (∀ before, before <+: cs →
        byteLength (before.foldl Change.revise d.text).toList < 2 ^ 32) ∧
      Checked.apply d cs 7 = .ok (d.apply cs 7) ∧ (d.apply cs 7).text = "a😀éb" := by
  intro d cs
  have hsize : ∀ before, before <+: cs →
      byteLength (before.foldl Change.revise d.text).toList < 2 ^ 32 := by
    intro before h
    have hmem : before ∈ cs.inits := (List.mem_inits _ _).mpr h
    have hall : ∀ before ∈ cs.inits,
        byteLength (before.foldl Change.revise d.text).toList < 2 ^ 32 := by decide
    exact hall before hmem
  have htext : cs.foldl Change.revise d.text = "a😀éb" := by cbv
  obtain ⟨happly, hrevised, -⟩ := apply_total rfl cs 7 hsize
  exact ⟨rfl, hsize, happly, hrevised.trans htext⟩

end Document

end ClassLens
