import Mathlib
import ClassLens.Lens
import ClassLens.Proofs.Document.Boundaries
import ClassLens.Proofs.Rule.Index
import ClassLens.Proofs.Usage.Selection

/-! # The lenses of a scanned document

A document is scanned, its usages are looked up in the index of a sheet, and each usage with a title
gets a lens.  Bytes become columns on the way.  A usage is made of ASCII characters, none of which is a
line feed, so it stays on its line and has as many columns as bytes, whatever the characters around it.

* `Text.Plain c`: an ASCII character other than a line feed.
* `Text.Boundary s byte`: a byte between two characters of a text.
* `Site.Within version text u`: the usage covers some plain characters of the text.
* `Sheet.naming sheet x`: the rules that name the class `x`.
* `Lens.Shows d limit sheet u lens`: where the lens of a usage stands, and what its title is.
* `Lens.Precedes a b`: the lens `a` ends where `b` starts or before.

**Main statements.** `lenses_exact`: the lenses of a scanned document are those of its usages with
rules, or of all its usages, one for one and in order, and none overlap. -/

namespace ClassLens

open Text Usage

/-! ### Plain characters -/

namespace Text

/-- An ASCII character other than a line feed. -/
def Plain (c : Char) : Prop :=
  c.toNat < 0x80 ∧ c ≠ '\n'

theorem Plain.utf8Size {c : Char} (h : Plain c) : c.utf8Size = 1 :=
  Char.utf8Size_eq_one_iff.mpr (UInt32.le_iff_toNat_le.mpr (Nat.le_of_lt_succ h.1))

theorem Plain.unitsOf {c : Char} (h : Plain c) : unitsOf c = 1 :=
  if_pos (Nat.lt_trans h.1 (by decide))

/-- Plain characters have as many UTF-16 units as bytes. -/
theorem units16_of_plain {s : List Char} (h : ∀ c ∈ s, Plain c) : units16 s = byteLength s := by
  induction s with
  | nil => rfl
  | cons c cs ih =>
      have hc := h c List.mem_cons_self
      rw [units16, byteLength, hc.utf8Size, hc.unitsOf, ih fun d hd => h d (List.mem_cons_of_mem _ hd)]

end Text

/-! ### Bytes between characters -/

/-- A byte between two characters of a text, or at one of its ends. -/
def Text.Boundary (s : List Char) (byte : Nat) : Prop :=
  ∃ front back, s = front ++ back ∧ byte = byteLength front

namespace Document

variable {d : Document} {byte byte' : Nat}

theorem offsetOf?_positionOf (hlines : d.lines = lineStarts d.text) (h : Boundary d.text.toList byte) :
    d.offsetOf? (d.positionOf byte) = some byte := by
  obtain ⟨front, back, htext, rfl⟩ := h
  rw [positionOf_byteLength hlines htext]
  exact offsetOf?_after hlines htext

theorem positionOf_before (hlines : d.lines = lineStarts d.text) (h : Boundary d.text.toList byte)
    (h' : Boundary d.text.toList byte') (hlt : byte < byte') :
    (d.positionOf byte).Before (d.positionOf byte') := by
  obtain ⟨front, back, htext, rfl⟩ := h
  obtain ⟨front', back', htext', rfl⟩ := h'
  exact increasing_of_lines hlines htext htext' hlt

end Document

/-! ### Where usages stand -/

namespace Usage

theorem plain_of_isIdentifierChar {c : Char} (h : isIdentifierChar c = true) : Plain c := by
  refine ⟨?_, ?_⟩
  · simp only [isIdentifierChar, Bool.or_eq_true, beq_iff_eq] at h
    rcases h with h | rfl
    · exact isAscii_of_isAsciiWord (by simpa [isAsciiWord] using h)
    · decide
  · rintro rfl
    revert h
    decide

theorem plain_of_isTokenChar {c : Char} (h : isTokenChar c = true) : Plain c := by
  refine ⟨?_, ?_⟩
  · simp only [isTokenChar, Bool.or_eq_true, beq_iff_eq] at h
    rcases h with (h | rfl) | h
    · exact isAscii_of_isAsciiWord (by simp [isAsciiWord, h])
    · decide
    · exact isAscii_of_isAsciiWord (by simp [isAsciiWord, h])
  · rintro rfl
    revert h
    decide

/-- A usage covers some characters of a text, all of them plain, and one at least. -/
def Site.Within (version : Int) (text : String) (u : Site) : Prop :=
  ∃ front middle back, text.toList = front ++ middle ++ back ∧ middle ≠ [] ∧ (∀ c ∈ middle, Plain c) ∧
    u.start = byteLength front ∧ u.stop = byteLength (front ++ middle) ∧ u.version = version

variable {names : List String} {version : Int} {text : String} {u : Site}

theorem within_of_mem_scan (h : u ∈ (Scanner.ofList names).scan version text) :
    u.Within version text := by
  obtain ⟨front, binding, token, back, htext, hoccurs, rfl⟩ := occurs_of_mem_sites h
  obtain ⟨name, hname, rfl⟩ := List.mem_map.mp hoccurs.binding
  have hidentifier : isIdentifier name.toList = true := isIdentifier_of_mem_bindingsOf hname
  refine ⟨front, name.toList ++ '.' :: token, back, htext, by simp, ?_, rfl, ?_, rfl⟩
  · intro c hc
    rcases List.mem_append.mp hc with hc | hc
    · exact plain_of_isIdentifierChar (isIdentifierChar_of_mem hidentifier hc)
    · rcases List.mem_cons.mp hc with rfl | hc
      · exact ⟨by decide, by decide⟩
      · exact plain_of_isTokenChar (hoccurs.token c hc)
  · rw [byteLength_append]
    rfl

namespace Site.Within

variable {d : Document}

theorem start_lt_stop (h : u.Within version text) : u.start < u.stop := by
  obtain ⟨front, middle, back, -, hne, -, hstart, hstop, -⟩ := h
  have hpos : byteLength middle ≠ 0 := fun hzero => hne (byteLength_eq_zero hzero)
  rw [byteLength_append] at hstop
  omega

theorem boundary_start (h : u.Within version text) : Boundary text.toList u.start := by
  obtain ⟨front, middle, back, htext, -, -, hstart, -, -⟩ := h
  exact ⟨front, middle ++ back, by rw [htext, List.append_assoc], hstart⟩

theorem boundary_stop (h : u.Within version text) : Boundary text.toList u.stop := by
  obtain ⟨front, middle, back, htext, -, -, -, hstop, -⟩ := h
  exact ⟨front ++ middle, back, htext, hstop⟩

/-- A usage ends on the line that it starts on, as many columns further as it has bytes. -/
theorem positionOf_stop (hlines : d.lines = lineStarts d.text) (h : u.Within version d.text) :
    d.positionOf u.stop =
      ⟨(d.positionOf u.start).line, (d.positionOf u.start).character + (u.stop - u.start)⟩ := by
  obtain ⟨front, middle, back, htext, -, hplain, hstart, hstop, -⟩ := h
  have hfront : d.text.toList = front ++ (middle ++ back) := by rw [htext, List.append_assoc]
  have hfeed : '\n' ∉ middle := fun hmem => (hplain _ hmem).2 rfl
  have hlength : u.stop - u.start = byteLength middle := by
    rw [hstart, hstop, byteLength_append, Nat.add_sub_cancel_left]
  rw [hlength, hstart, hstop, Document.positionOf_byteLength hlines hfront,
    Document.positionOf_byteLength hlines htext, Position.after_append hfeed, units16_of_plain hplain]

end Site.Within

/-- Each usage begins where the one before it has ended, or later. -/
theorem pairwise_scan (s : Scanner) (version : Int) (text : String) :
    (s.scan version text).Pairwise fun u v => u.stop ≤ v.start :=
  ((selects_sites _ version text.toList).pairwise fun _ h => h.stop_le.1).2

end Usage

/-! ### One lens -/

/-- The rules of a sheet that name a class, in the order of the sheet. -/
def Sheet.naming (s : Sheet) (x : String) : List Rule :=
  s.rules.filter fun r => r.names x

namespace Lens

/-- A title that sums up a rule, word by word: its selectors, and in braces its first declarations, with
an ellipsis if some are left out; and then how many more rules there are, if there are more. -/
def words (limit : Nat) (r : Rule) (more : Nat) : List String :=
  [r.selectorText, "\x7b"] ++
    (r.declarations.take (min r.declarations.length limit)).map
      (fun d => d.property ++ ": " ++ d.value ++ ";") ++
    (if limit < r.declarations.length then ["…"] else []) ++ ["\x7d"] ++
    (if 0 < more then ["+" ++ toString more, "more"] else [])

/-- The lens of a usage of a document. -/
structure Shows (d : Document) (limit : Nat) (sheet : Sheet) (u : Site) (lens : Lens) : Prop where
  /-- The positions of the ends are found, and 32 bits hold them. -/
  start : Document.Checked.position d u.start = .ok lens.start
  stop : Document.Checked.position d u.stop = .ok lens.stop
  line : lens.stop.line = lens.start.line
  nonempty : u.start < u.stop
  /-- The lens has as many columns as the usage has bytes. -/
  columns : lens.stop.character = lens.start.character + (u.stop - u.start)
  start_back : d.offsetOf? lens.start = some u.start
  stop_back : d.offsetOf? lens.stop = some u.stop
  /-- The title sums up the first rule that names the class. -/
  matched : ∀ r, (sheet.naming u.className).head? = some r →
    lens.title = " ".intercalate (words limit r ((sheet.naming u.className).length - 1))
  unmatched : sheet.naming u.className = [] → lens.title = "no rule for ." ++ u.className

/-- A lens starts before another one, and has ended when that one starts. -/
structure Precedes (a b : Lens) : Prop where
  start : a.start.Before b.start
  stop : a.stop = b.start ∨ a.stop.Before b.start

end Lens

/-! ### Titles -/

/-- A summary, word by word. -/
theorem ruleSummary_eq (r : Rule) (limit : Nat) :
    ruleSummary r limit =
      " ".intercalate ([r.selectorText, "\x7b"] ++ shownDeclarations r limit ++ ["\x7d"]) := by
  unfold ruleSummary
  split
  · rename_i hnone
    rw [hnone, List.append_nil, List.cons_append, List.cons_append, List.nil_append,
      String.intercalate_cons_cons, String.intercalate_cons_cons, String.intercalate_singleton,
      String.append_assoc, String.append_assoc]
    rfl
  · rename_i hsome
    rw [String.intercalate_append_of_ne_nil (by simp) (by simp),
      String.intercalate_append_of_ne_nil (by simp) hsome, String.intercalate_cons_cons,
      String.intercalate_singleton, String.intercalate_singleton]
    simp only [String.append_assoc]
    rfl

theorem Lens.words_eq (limit : Nat) (r : Rule) (more : Nat) :
    words limit r more = ([r.selectorText, "\x7b"] ++ shownDeclarations r limit ++ ["\x7d"]) ++
      if 0 < more then ["+" ++ toString more, "more"] else [] := by
  have htake : r.declarations.take (min r.declarations.length limit) = r.declarations.take limit := by
    rw [Nat.min_comm, ← List.take_eq_take_min]
  rw [words, shownDeclarations, htake]
  simp only [List.append_assoc]

theorem lensTitle?_nil (settings : LensSettings) (u : Site) :
    lensTitle? settings ⟨u, []⟩ =
      if settings.showUnmatched then some ("no rule for ." ++ u.className) else none := rfl

/-- The title of an annotation with rules. -/
theorem lensTitle?_cons (settings : LensSettings) (u : Site) (r : Rule) (rest : List Rule) :
    lensTitle? settings ⟨u, r :: rest⟩ =
      some (" ".intercalate (Lens.words settings.maxDeclarations r rest.length)) := by
  rw [Lens.words_eq]
  cases rest with
  | nil =>
      rw [List.length_nil, if_neg (Nat.lt_irrefl 0), List.append_nil, ← ruleSummary_eq]
      rfl
  | cons r' rest =>
      have hmore : 0 < (r' :: rest).length := Nat.succ_pos _
      rw [if_pos hmore, String.intercalate_append_of_ne_nil (by simp) (by simp),
        ← ruleSummary_eq, String.intercalate_cons_cons, String.intercalate_singleton]
      simp only [lensTitle?, String.append_assoc]
      rfl

/-! ### The lenses of a document -/

section Document

variable {d : Document} {names : List String} {sheet : Sheet} {settings : LensSettings} {u v : Site}
  {lens : Lens}

/-- The lens of a usage, if it has a title. -/
def lensFor? (d : Document) (settings : LensSettings) (sheet : Sheet) (u : Site) : Option Lens :=
  lens? d settings ⟨u, sheet.naming u.className⟩

/-- Each usage of a scanned document gets the lens that it has, if any. -/
theorem lenses_scan (d : Document) (names : List String) (sheet : Sheet) (settings : LensSettings) :
    lenses d settings ((ClassIndex.ofSheet sheet).annotateAll
        ((Scanner.ofList names).scan d.version d.text)) =
      ((Scanner.ofList names).scan d.version d.text).filterMap (lensFor? d settings sheet) := by
  set usages := (Scanner.ofList names).scan d.version d.text with husages
  have hcurrent : ∀ a ∈ (ClassIndex.ofSheet sheet).annotateAll usages, a.usage.version = d.version := by
    intro a ha
    obtain ⟨u, hu, rfl⟩ := List.mem_map.mp ha
    obtain ⟨-, -, -, -, -, -, -, -, hversion⟩ := within_of_mem_scan (husages ▸ hu)
    exact hversion
  rw [lenses, List.filter_eq_self.mpr fun a ha => decide_eq_true (hcurrent a ha),
    ClassIndex.annotateAll_ofSheet, List.filterMap_map]
  rfl

/-- A usage with rules has a lens, and one without if the settings ask for it. -/
theorem isSome_lensFor?_iff : (lensFor? d settings sheet u).isSome ↔
    sheet.naming u.className ≠ [] ∨ settings.showUnmatched = true := by
  rw [lensFor?, lens?, Option.isSome_map]
  cases sheet.naming u.className with
  | nil => simp [lensTitle?_nil]
  | cons r rest => simp [lensTitle?_cons]

theorem shows_of_lensFor? (hlines : d.lines = lineStarts d.text) (hsize : d.size < 2 ^ 32)
    (hu : u.Within d.version d.text) (h : lensFor? d settings sheet u = some lens) :
    lens.Shows d settings.maxDeclarations sheet u := by
  obtain ⟨title, htitle, rfl⟩ := Option.map_eq_some_iff.mp h
  have hstop := hu.positionOf_stop hlines
  constructor
  · exact Document.Checked.position_eq hlines hsize u.start
  · exact Document.Checked.position_eq hlines hsize u.stop
  · show (d.positionOf u.stop).line = (d.positionOf u.start).line
    rw [hstop]
  · exact hu.start_lt_stop
  · show (d.positionOf u.stop).character = (d.positionOf u.start).character + (u.stop - u.start)
    rw [hstop]
  · exact Document.offsetOf?_positionOf hlines hu.boundary_start
  · exact Document.offsetOf?_positionOf hlines hu.boundary_stop
  · intro r hr
    obtain ⟨rest, hrest⟩ := List.head?_eq_some_iff.mp hr
    rw [hrest, lensTitle?_cons] at htitle
    rw [hrest, List.length_cons, Nat.add_sub_cancel]
    exact (Option.some.inj htitle).symm
  · intro hnone
    rw [hnone, lensTitle?_nil] at htitle
    split at htitle
    · exact (Option.some.inj htitle).symm
    · cases htitle

/-- What stands further on in the text has the later lens. -/
theorem precedes_of_lensFor? {other : Lens} (hlines : d.lines = lineStarts d.text)
    (hu : u.Within d.version d.text) (hv : v.Within d.version d.text) (hle : u.stop ≤ v.start)
    (h : lensFor? d settings sheet u = some lens) (h' : lensFor? d settings sheet v = some other) :
    lens.Precedes other := by
  obtain ⟨title, -, rfl⟩ := Option.map_eq_some_iff.mp h
  obtain ⟨title', -, rfl⟩ := Option.map_eq_some_iff.mp h'
  constructor
  · exact Document.positionOf_before hlines hu.boundary_start hv.boundary_start
      (Nat.lt_of_lt_of_le hu.start_lt_stop hle)
  · rcases Nat.eq_or_lt_of_le hle with heq | hlt
    · exact .inl (congrArg d.positionOf heq)
    · exact .inr (Document.positionOf_before hlines hu.boundary_stop hv.boundary_start hlt)

end Document

/-- What a partial function makes of a list stands one for one beside the items that it is defined on. -/
theorem forall₂_filterMap {α β : Type} {R : α → β → Prop} {f : α → Option β} {p : α → Bool} {l : List α}
    (hp : ∀ a ∈ l, p a = (f a).isSome) (hR : ∀ a ∈ l, ∀ b, f a = some b → R a b) :
    List.Forall₂ R (l.filter p) (l.filterMap f) := by
  induction l with
  | nil => exact .nil
  | cons a l ih =>
      have hrest := ih (fun b hb => hp b (List.mem_cons_of_mem _ hb))
        fun b hb => hR b (List.mem_cons_of_mem _ hb)
      cases ha : f a with
      | none =>
          have hpa : ¬ p a = true := by simp [hp a List.mem_cons_self, ha]
          rwa [List.filter_cons_of_neg hpa, List.filterMap_cons_none ha]
      | some b =>
          have hpa : p a = true := by simp [hp a List.mem_cons_self, ha]
          rw [List.filter_cons_of_pos hpa, List.filterMap_cons_some ha]
          exact .cons (hR a List.mem_cons_self b ha) hrest

/-- **Lenses are complete and exact.** A document of fewer than 2³² bytes is scanned for any names, and
its usages are matched with any sheet.  There is one lens for each usage whose class a rule names, or for
each usage if those without rules are asked for, in order.  It stands on one line, its ends lead back to
the usage's, and its title sums up the first rule that names the class.  A lens has ended where the
next one starts. -/
theorem lenses_exact {d : Document} (hd : d.Reachable) (hsize : d.size < 2 ^ 32)
    (names : List String) (sheet : Sheet) (settings : LensSettings) :
    let usages := (Scanner.ofList names).scan d.version d.text
    let found := lenses d settings ((ClassIndex.ofSheet sheet).annotateAll usages)
    List.Forall₂ (Lens.Shows d settings.maxDeclarations sheet)
        (usages.filter fun u => sheet.naming u.className ≠ [] ∨ settings.showUnmatched = true) found ∧
      found.Pairwise Lens.Precedes := by
  intro usages found
  have hwithin : ∀ u ∈ usages, u.Within d.version d.text := fun u hu => within_of_mem_scan hu
  have hfound : found = usages.filterMap (lensFor? d settings sheet) := lenses_scan d names sheet settings
  rw [hfound]
  constructor
  · refine forall₂_filterMap (fun u _ => ?_) fun u hu lens hlens =>
      shows_of_lensFor? hd.lines hsize (hwithin u hu) hlens
    rw [Bool.eq_iff_iff, decide_eq_true_iff, isSome_lensFor?_iff]
  · refine List.pairwise_filterMap.mpr ?_
    refine (pairwise_scan _ _ _).imp_of_mem fun hu hv hle lens hlens other hother => ?_
    exact precedes_of_lensFor? hd.lines (hwithin _ hu) (hwithin _ hv) hle hlens hother

/-! ### A sample -/

namespace Sample

/-- A document with an emoji on the line of its usages, opened and changed. -/
def emojis : Document :=
  (Document.ofText ⟨"file:///App.tsx"⟩ "typescriptreact" "é\nss.a s.b" 1).apply
    [.part ⟨1, 0⟩ ⟨1, 1⟩ "😀"] 2

/-- Two rules of the class `a`, the first one with more declarations than are shown. -/
def doubled : Sheet where
  rules := [⟨[".a"], [⟨"color", "red"⟩, ⟨"margin", "0"⟩]⟩, ⟨[".c"], []⟩, ⟨["p .a"], []⟩]

end Sample

open Sample in
/-- Behind the emoji `s.a` stands from column 2 to column 5, and `s.b`, without rules, has no lens. -/
theorem lenses_exact_of_emojis :
    let usages := (Scanner.ofList ["s"]).scan emojis.version emojis.text
    let lens : Lens := ⟨⟨1, 2⟩, ⟨1, 5⟩, ".a \x7b color: red; … \x7d +1 more"⟩
    emojis.Reachable ∧ emojis.size < 2 ^ 32 ∧
      lenses emojis { maxDeclarations := 1 } ((ClassIndex.ofSheet doubled).annotateAll usages) = [lens] ∧
      List.Forall₂ (Lens.Shows emojis 1 doubled) [⟨"a", 7, 10, 2⟩] [lens] := by
  intro usages lens
  have hreachable : emojis.Reachable := .changed _ _ (.opened _ _ _ _)
  have hsize : emojis.size < 2 ^ 32 := by decide +kernel
  have hlenses : lenses emojis { maxDeclarations := 1 }
      ((ClassIndex.ofSheet doubled).annotateAll usages) = [lens] := by decide +kernel
  have husages : (usages.filter fun u => doubled.naming u.className ≠ [] ∨ false = true) =
      [⟨"a", 7, 10, 2⟩] := by decide +kernel
  have hshows := (lenses_exact hreachable hsize ["s"] doubled { maxDeclarations := 1 }).1
  rw [hlenses] at hshows
  exact ⟨hreachable, hsize, hlenses, husages ▸ hshows⟩

end ClassLens
