import Mathlib
import ClassLens.Proofs.Usage.Selection
import ClassLens.Usage.Import

/-! # Import statements as they are written

A statement that is well-formed, as a tree.  The types let nothing else be written: names are not empty,
white space stands where it must, and a source has no quotes, braces and line breaks.

* `Gap`, `Space`: white space that may be empty, and white space that may not.
* `BoundName`, `NameList`, `AllAs`: a name, names in braces, and `* as name`.
* `Clause`: what stands between `import` and the source, in its five forms.
* `Statement`: a statement; `Statement.chars` are its characters.

**Main statements.** `readSource?_eq_some_iff`: which quoted sources are read.  `readClause?_chars`: reading
a clause gives the name that it binds and leaves the quoted source.  `importAt?_chars`: reading a statement
whose source names a stylesheet gives the source and the binding, and leaves what stands behind it. -/

namespace ClassLens.Usage

open Text (isBlank isWord)

/-! ### The parts of a statement -/

/-- White space, or nothing. -/
abbrev Gap := { s : List Char // ∀ c ∈ s, isBlank c = true }

/-- White space, one character at least. -/
abbrev Space := { s : List Char // s ≠ [] ∧ ∀ c ∈ s, isBlank c = true }

/-- A name that an import binds. -/
structure BoundName where
  first : Char
  others : List Char
  starts : isNameStart first = true
  goesOn : ∀ c ∈ others, isNamePart c = true

def BoundName.chars (n : BoundName) : List Char := n.first :: n.others

/-- One of the two characters that may stand around a source. -/
def isSourceQuote (c : Char) : Bool := c == '"' || c == '\''

/-- Names in braces, with commas, `as` and white space between them: anything but quotes and braces. -/
abbrev NameList :=
  { s : List Char // ∀ c ∈ s, isSourceQuote c = false ∧ c ≠ '{' ∧ c ≠ '}' }

def NameList.chars (n : NameList) : List Char := '{' :: (n.val ++ ['}'])

/-- A name for all that is imported: `* as name`. -/
structure AllAs where
  gap : Gap
  space : Space
  name : BoundName

def AllAs.chars (a : AllAs) : List Char :=
  '*' :: (a.gap.val ++ ("as".toList ++ (a.space.val ++ a.name.chars)))

/-- What may follow a default name after a comma. -/
inductive Addition where
  | listed (names : NameList)
  | whole (all : AllAs)

def Addition.chars : Addition → List Char
  | listed names => names.chars
  | whole all => all.chars

/-- What stands between `import` and the source. -/
inductive Clause where
  /-- Nothing: the import is for its side effects. -/
  | bare
  | single (before : Space) (name : BoundName) (after : Space)
  | pair (before : Space) (name : BoundName) (gap gap' : Gap) (more : Addition) (after : Space)
  | whole (before : Gap) (all : AllAs) (after : Space)
  | listed (before : Gap) (names : NameList) (after : Gap)

namespace Clause

def chars : Clause → List Char
  | bare => []
  | single before name after => before.val ++ (name.chars ++ (after.val ++ "from".toList))
  | pair before name gap gap' more after =>
    before.val ++ (name.chars ++ (gap.val ++ ',' :: (gap'.val ++ (more.chars ++
      (after.val ++ "from".toList)))))
  | whole before all after => before.val ++ (all.chars ++ (after.val ++ "from".toList))
  | listed before names after => before.val ++ (names.chars ++ (after.val ++ "from".toList))

/-- The name that the stylesheet is bound to: the default name, or else the one for all. -/
def binding : Clause → Option (List Char)
  | bare | listed .. => none
  | single _ name _ | pair _ name .. => some name.chars
  | whole _ all _ => some all.name.chars

end Clause

/-- A statement that imports something. -/
structure Statement where
  clause : Clause
  gap : Gap
  quote : { q : Char // isSourceQuote q = true }
  /-- What stands between the quotes. -/
  source : { s : List Char // ∀ c ∈ s, endsSource c = false ∧ c ≠ '{' ∧ c ≠ '}' }

namespace Statement

/-- The characters in front of the source. -/
def head (st : Statement) : List Char := "import".toList ++ (st.clause.chars ++ st.gap.val)

def chars (st : Statement) : List Char :=
  st.head ++ st.quote.val :: (st.source.val ++ [st.quote.val])

/-- The source names a stylesheet: `.css` with something before it. -/
def NamesStylesheet (st : Statement) : Prop :=
  ∃ stem, stem ≠ [] ∧ st.source.val = stem ++ ".css".toList

end Statement

/-! ### Characters -/

/-- A character at which a test fails is another one than those at which it does not. -/
theorem ne_of_test {p : Char → Bool} {c d : Char} (hc : p c = true) (hd : p d = false) : c ≠ d :=
  fun he => Bool.false_ne_true (hd.symm.trans (he ▸ hc))

/-- The code points of white space. -/
def blankCodes : List Nat :=
  List.range' 9 5 ++ [0x20, 0x85, 0xA0, 0x1680] ++ List.range' 0x2000 11 ++
    [0x2028, 0x2029, 0x202F, 0x205F, 0x3000]

theorem mem_blankCodes {c : Char} (h : isBlank c = true) : c.toNat ∈ blankCodes := by
  simp only [isBlank, Bool.or_eq_true, Bool.and_eq_true, decide_eq_true_eq, beq_iff_eq] at h
  simp only [blankCodes, List.mem_append, List.mem_range'_1, List.mem_cons, List.not_mem_nil, or_false]
  omega

/-- White space is in no word. -/
theorem isWord_of_isBlank {c : Char} (h : isBlank c = true) : isWord c = false := by
  have hmem := mem_blankCodes h
  have hranges : ∀ r ∈ Text.wordRanges, ∀ n ∈ blankCodes, ¬ (r.1 ≤ n ∧ n ≤ r.2) := by
    decide +kernel
  have hascii : ∀ n ∈ blankCodes, n < 0x80 → Text.isAsciiWord (Char.ofNat n) = false := by
    decide +kernel
  unfold isWord
  split
  · rename_i hlt
    rw [← Char.ofNat_toNat c]
    exact hascii _ hmem hlt
  · rw [List.any_eq_false]
    intro r hr
    simpa using hranges r hr _ hmem

theorem isNamePart_of_isBlank {c : Char} (h : isBlank c = true) : isNamePart c = false := by
  have hdollar : c ≠ '$' := ne_of_test h (by decide)
  simp [isNamePart, isWord_of_isBlank h, hdollar]

theorem isSourceQuote_iff {c : Char} : isSourceQuote c = true ↔ c = '"' ∨ c = '\'' := by
  simp [isSourceQuote]

theorem isBlank_of_isSourceQuote {c : Char} (h : isSourceQuote c = true) : isBlank c = false := by
  rcases isSourceQuote_iff.mp h with rfl | rfl <;> rfl

theorem endsSource_of_isSourceQuote {c : Char} (h : isSourceQuote c = true) : endsSource c = true := by
  simp only [isSourceQuote, endsSource, Bool.or_eq_true] at h ⊢
  exact .inl (.inl h)

/-- A character that passes a test is no quote if quotes do not pass it. -/
theorem unquoted_of_test {p : Char → Bool} {c : Char} (hc : p c = true) (hdouble : p '"' = false)
    (hsingle : p '\'' = false) : isSourceQuote c = false := by
  simp [isSourceQuote, ne_of_test hc hdouble, ne_of_test hc hsingle]

/-! ### White space and words -/

section Readers

variable {s rest : List Char}

/-- What is dropped from a text ends where the test fails. -/
theorem dropWhile_of_maximal {p : Char → Bool} {t r : List Char} (ht : ∀ c ∈ t, p c = true)
    (hr : r.head?.any p = false) : (t ++ r).dropWhile p = r := by
  rw [List.dropWhile_append_of_pos ht]
  cases r with
  | nil => rfl
  | cons c cs => exact List.dropWhile_cons_of_neg (by simpa using hr)

theorem skipBlank_append {g : List Char} (hg : ∀ c ∈ g, isBlank c = true)
    (hs : s.head?.any isBlank = false) : skipBlank (g ++ s) = s :=
  dropWhile_of_maximal hg hs

theorem skipSomeBlank?_append (sp : Space) (hs : s.head?.any isBlank = false) :
    skipSomeBlank? (sp.val ++ s) = some s := by
  obtain ⟨g, hne, hg⟩ := sp
  obtain ⟨c, cs, rfl⟩ := List.exists_cons_of_ne_nil hne
  have hcs : ∀ x ∈ cs, isBlank x = true := fun x hx => hg x (List.mem_cons_of_mem _ hx)
  rw [List.cons_append, skipSomeBlank?, if_pos (hg c List.mem_cons_self), skipBlank_append hcs hs]

theorem afterWord?_append (word : String) (rest : List Char) :
    afterWord? word (word.toList ++ rest) = some rest := by
  unfold afterWord?
  induction word.toList with
  | nil => simp [List.isPrefixOf?]
  | cons c cs ih => simp [List.isPrefixOf?, ih]

theorem afterFrom?_append (sp : Space) (rest : List Char) :
    afterFrom? (sp.val ++ ("from".toList ++ rest)) = some rest := by
  have hskip := skipSomeBlank?_append sp (s := "from".toList ++ rest) rfl
  rw [afterFrom?, hskip]
  exact afterWord?_append "from" rest

/-! ### Names and lists of names -/

/-- A name ends where white space, a comma or the text's end is. -/
theorem readBinding?_append (n : BoundName) (h : rest.head?.any isNamePart = false) :
    readBinding? (n.chars ++ rest) = some (n.chars, rest) := by
  rw [BoundName.chars, List.cons_append, readBinding?, if_pos n.starts,
    takeWhile_of_maximal n.goesOn h, dropWhile_of_maximal n.goesOn h]

theorem afterBraces?_append (n : NameList) (rest : List Char) :
    afterBraces? (n.chars ++ rest) = some rest := by
  have hdrop : (n.val ++ '}' :: rest).dropWhile (· != '}') = '}' :: rest :=
    dropWhile_of_maximal (fun c hc => bne_iff_ne.mpr (n.property c hc).2.2) rfl
  rw [NameList.chars, List.cons_append, List.append_assoc, List.singleton_append]
  simp only [afterBraces?, hdrop]

theorem head_space_append {p : Char → Bool} (sp : Space) (hp : ∀ c, isBlank c = true → p c = false)
    (rest : List Char) : (sp.val ++ rest).head?.any p = false := by
  obtain ⟨g, hne, hg⟩ := sp
  obtain ⟨c, cs, rfl⟩ := List.exists_cons_of_ne_nil hne
  exact hp c (hg c List.mem_cons_self)

theorem isBlank_of_isNameStart {c : Char} (h : isNameStart c = true) : isBlank c = false := by
  have hpart : isNamePart c = true := by
    simp only [isNameStart, Bool.or_eq_true, beq_iff_eq] at h
    rcases h with (h | rfl) | rfl
    · have hword : isWord c = true := Text.isWord_of_isAsciiWord (by
        simp [Text.isAsciiWord, Char.isAlphanum, h])
      simp [isNamePart, hword]
    · decide
    · decide
  by_contra hblank
  rw [Bool.not_eq_false] at hblank
  exact Bool.false_ne_true ((isNamePart_of_isBlank hblank).symm.trans hpart)

theorem head_name_append (n : BoundName) (rest : List Char) :
    (n.chars ++ rest).head?.any isBlank = false := isBlank_of_isNameStart n.starts

theorem readNamespace?_append (a : AllAs) (h : rest.head?.any isNamePart = false) :
    readNamespace? (a.chars ++ rest) = some (a.name.chars, rest) := by
  have hgap : skipBlank (a.gap.val ++ ("as".toList ++ (a.space.val ++ (a.name.chars ++ rest)))) =
      "as".toList ++ (a.space.val ++ (a.name.chars ++ rest)) :=
    skipBlank_append a.gap.property rfl
  have hspace := skipSomeBlank?_append a.space (head_name_append a.name rest)
  rw [AllAs.chars, List.cons_append, List.append_assoc, List.append_assoc, List.append_assoc]
  simp only [readNamespace?, hgap, afterWord?_append, hspace, readBinding?_append a.name h,
    Option.bind_eq_bind, Option.bind_some]

/-! ### Clauses -/

theorem readClause?_of_name {c : Char} {cs : List Char} (h : skipBlank s = c :: cs)
    (hc : isNameStart c = true) : readClause? s = (skipSomeBlank? s).bind readDefaultClause? := by
  unfold readClause?
  rw [h]
  split
  · rename_i heq
    exact absurd (List.cons.inj heq).1 (ne_of_test hc (by decide))
  · rename_i heq
    exact absurd (List.cons.inj heq).1 (ne_of_test hc (by decide))
  · rename_i heq
    exact absurd (List.cons.inj heq).1 (ne_of_test hc (by decide))
  · rename_i heq
    exact absurd (List.cons.inj heq).1 (ne_of_test hc (by decide))
  · rfl

/-- A clause that begins with a name is read behind the white space in front of it. -/
theorem readClause?_of_space (sp : Space) (n : BoundName) (rest : List Char) :
    readClause? (sp.val ++ (n.chars ++ rest)) = readDefaultClause? (n.chars ++ rest) := by
  have hhead := head_name_append n rest
  have hskip := skipBlank_append sp.property.2 hhead
  rw [readClause?_of_name hskip n.starts, skipSomeBlank?_append sp hhead, Option.bind_some]

theorem readDefaultClause?_single (n : BoundName) (sp : Space) (rest : List Char) :
    readDefaultClause? (n.chars ++ (sp.val ++ ("from".toList ++ rest))) =
      some (some n.chars, rest) := by
  have hname := readBinding?_append n
    (head_space_append sp (fun _ => isNamePart_of_isBlank) ("from".toList ++ rest))
  have hskip : skipBlank (sp.val ++ ("from".toList ++ rest)) = "from".toList ++ rest :=
    skipBlank_append sp.property.2 rfl
  have hfrom : "from".toList ++ rest = 'f' :: 'r' :: 'o' :: 'm' :: rest := rfl
  rw [readDefaultClause?, hname]
  simp only [Option.bind_eq_bind, Option.bind_some, hskip]
  rw [hfrom]
  simp only [← hfrom, afterFrom?_append, Option.bind_some]
  rfl

/-- After a comma, names in braces or a name for all are passed over. -/
theorem readDefaultClause?_pair (n : BoundName) (gap gap' : Gap) (more : Addition) (sp : Space)
    (rest : List Char) :
    readDefaultClause? (n.chars ++ (gap.val ++ ',' :: (gap'.val ++ (more.chars ++
      (sp.val ++ ("from".toList ++ rest)))))) = some (some n.chars, rest) := by
  set tail := sp.val ++ ("from".toList ++ rest)
  have htail : tail.head?.any isNamePart = false :=
    head_space_append sp (fun _ => isNamePart_of_isBlank) _
  have hhead : (gap.val ++ ',' :: (gap'.val ++ (more.chars ++ tail))).head?.any isNamePart = false := by
    obtain ⟨g, hg⟩ := gap
    cases g with
    | nil => exact (by decide : isNamePart ',' = false)
    | cons c cs => exact isNamePart_of_isBlank (hg c List.mem_cons_self)
  have hskip : skipBlank (gap.val ++ ',' :: (gap'.val ++ (more.chars ++ tail))) =
      ',' :: (gap'.val ++ (more.chars ++ tail)) := skipBlank_append gap.property rfl
  have hskip' : skipBlank (gap'.val ++ (more.chars ++ tail)) = more.chars ++ tail := by
    refine skipBlank_append gap'.property ?_
    cases more <;> rfl
  have hmore : (afterBraces? (more.chars ++ tail)).orElse
      (fun _ => (readNamespace? (more.chars ++ tail)).map Prod.snd) = some tail := by
    cases more with
    | listed names => rw [Addition.chars, afterBraces?_append]; rfl
    | whole all =>
        have hnone : afterBraces? (all.chars ++ tail) = none := rfl
        rw [Addition.chars, hnone, readNamespace?_append all htail]
        rfl
  rw [readDefaultClause?, readBinding?_append n hhead]
  simp only [Option.bind_eq_bind, Option.bind_some, hskip, hskip', hmore]
  rw [afterFrom?_append]
  rfl

/-- Reading a clause in front of a quoted source gives the name that it binds and leaves the source. -/
theorem readClause?_chars (cl : Clause) (gap : Gap) {q : Char} (hq : isSourceQuote q = true)
    (rest : List Char) :
    readClause? (cl.chars ++ (gap.val ++ q :: rest)) = some (cl.binding, gap.val ++ q :: rest) := by
  cases cl with
  | bare =>
      have hskip : skipBlank (gap.val ++ q :: rest) = q :: rest :=
        skipBlank_append gap.property (isBlank_of_isSourceQuote hq)
      rw [Clause.chars, List.nil_append, readClause?, hskip]
      rcases isSourceQuote_iff.mp hq with rfl | rfl <;> rfl
  | single before name after =>
      simp only [Clause.chars, List.append_assoc]
      rw [readClause?_of_space, readDefaultClause?_single]
      rfl
  | pair before name g g' more after =>
      simp only [Clause.chars, List.append_assoc, List.cons_append]
      rw [readClause?_of_space, readDefaultClause?_pair]
      rfl
  | whole before all after =>
      simp only [Clause.chars, List.append_assoc]
      have hskip : skipBlank (before.val ++ (all.chars ++ (after.val ++ ("from".toList ++
          (gap.val ++ q :: rest))))) =
          all.chars ++ (after.val ++ ("from".toList ++ (gap.val ++ q :: rest))) :=
        skipBlank_append before.property rfl
      have hall := readNamespace?_append all (head_space_append after
        (fun _ => isNamePart_of_isBlank) ("from".toList ++ (gap.val ++ q :: rest)))
      rw [readClause?, hskip]
      simp only [AllAs.chars, List.cons_append] at hall ⊢
      simp only [readNamespaceClause?, hall, Option.bind_eq_bind, Option.bind_some, afterFrom?_append]
      rfl
  | listed before names after =>
      simp only [Clause.chars, List.append_assoc]
      have hskip : skipBlank (before.val ++ (names.chars ++ (after.val ++ ("from".toList ++
          (gap.val ++ q :: rest))))) =
          names.chars ++ (after.val ++ ("from".toList ++ (gap.val ++ q :: rest))) :=
        skipBlank_append before.property rfl
      have hbraces := afterBraces?_append names (after.val ++ ("from".toList ++ (gap.val ++ q :: rest)))
      have hafter : skipBlank (after.val ++ ("from".toList ++ (gap.val ++ q :: rest))) =
          "from".toList ++ (gap.val ++ q :: rest) := skipBlank_append after.property rfl
      rw [readClause?, hskip]
      simp only [NameList.chars, List.cons_append] at hbraces ⊢
      simp only [readBracesClause?, hbraces, Option.bind_eq_bind, Option.bind_some, hafter,
        afterWord?_append]
      rfl

/-! ### Sources -/

/-- A source that is read stands between two quotes, without quotes and line breaks in it, and names a
stylesheet. -/
theorem readSource?_eq_some_iff {source : List Char} :
    readSource? s = some (source, rest) ↔ ∃ q c, isSourceQuote q = true ∧ isSourceQuote c = true ∧
      s = q :: (source ++ c :: rest) ∧ (∀ x ∈ source, endsSource x = false) ∧
      isCssSource source = true := by
  constructor
  · intro h
    cases s with
    | nil => cases h
    | cons q cs =>
        simp only [readSource?] at h
        split at h
        · rename_i hq
          split at h
          · rename_i c back hback
            split at h
            · rename_i hc
              obtain ⟨rfl, rfl⟩ := Prod.mk.inj (Option.some.inj h)
              refine ⟨q, c, isSourceQuote_iff.mpr hq, isSourceQuote_iff.mpr hc.1, ?_, ?_, hc.2⟩
              · rw [← hback, List.takeWhile_append_dropWhile]
              · exact fun x hx => by simpa using List.mem_takeWhile_imp hx
            · cases h
          · cases h
        · cases h
  · rintro ⟨q, c, hq, hc, rfl, hsource, hcss⟩
    have hplain : ∀ x ∈ source, (!endsSource x) = true := fun x hx => by simp [hsource x hx]
    have hends : (c :: rest).head?.any (fun c => !endsSource c) = false := by
      simp [endsSource_of_isSourceQuote hc]
    simp only [readSource?, if_pos (isSourceQuote_iff.mp hq), takeWhile_of_maximal hplain hends,
      dropWhile_of_maximal hplain hends]
    rw [if_pos ⟨isSourceQuote_iff.mp hc, hcss⟩]

theorem isCssSource_iff {source : List Char} :
    isCssSource source = true ↔ ∃ stem, stem ≠ [] ∧ source = stem ++ ".css".toList := by
  simp only [isCssSource, Bool.and_eq_true, List.isSuffixOf_iff_suffix, decide_eq_true_eq]
  constructor
  · rintro ⟨⟨stem, rfl⟩, hlength⟩
    refine ⟨stem, ?_, rfl⟩
    rintro rfl
    exact absurd hlength (by decide)
  · rintro ⟨stem, hne, rfl⟩
    refine ⟨List.suffix_append _ _, ?_⟩
    have hpos := List.length_pos_iff.mpr hne
    have hfour : ".css".toList.length = 4 := rfl
    rw [List.length_append, hfour]
    omega

instance (st : Statement) : Decidable st.NamesStylesheet :=
  decidable_of_iff _ isCssSource_iff

/-! ### Statements -/

theorem Statement.chars_append (st : Statement) (tail : List Char) :
    st.chars ++ tail = "import".toList ++ (st.clause.chars ++ (st.gap.val ++
      st.quote.val :: (st.source.val ++ st.quote.val :: tail))) := by
  simp only [chars, head, List.append_assoc, List.cons_append, List.nil_append]

/-- Reading a statement whose source names a stylesheet gives the source and the binding, and leaves what
stands behind it. -/
theorem importAt?_chars {st : Statement} (h : st.NamesStylesheet) {p : Option Char}
    (hp : p.any isWord = false) (tail : List Char) :
    importAt? p (st.chars ++ tail) = some (st.source.val, st.clause.binding, tail) := by
  have hq := st.quote.property
  have hskip : skipBlank (st.gap.val ++ st.quote.val :: (st.source.val ++ st.quote.val :: tail)) =
      st.quote.val :: (st.source.val ++ st.quote.val :: tail) :=
    skipBlank_append st.gap.property (isBlank_of_isSourceQuote hq)
  have hsource : readSource? (st.quote.val :: (st.source.val ++ st.quote.val :: tail)) =
      some (st.source.val, tail) :=
    readSource?_eq_some_iff.mpr ⟨_, _, hq, hq, rfl, fun x hx => (st.source.property x hx).1,
      isCssSource_iff.mpr h⟩
  rw [st.chars_append, importAt?, hp, if_neg Bool.false_ne_true]
  simp only [afterWord?_append, readClause?_chars _ _ hq, hskip, hsource, Option.bind_eq_bind,
    Option.bind_some]
  rfl

end Readers

end ClassLens.Usage
