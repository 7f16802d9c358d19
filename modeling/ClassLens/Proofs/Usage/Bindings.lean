import Mathlib
import ClassLens.Resolve.Run

/-! # The bindings that a document is scanned for

* `Scanner.Normal`: a scanner that may be extended has distinct identifiers as its bindings.
* `Scanner.bindingsWith s follow binding`: the bindings of `s` and, where it is to be followed and
  can be added, the name that an import binds.

**Main statements.** `identifiers_of_nodup`: distinct identifiers are kept as they are.
`Resolver.bindings_scannerFor`: a document is scanned for the bindings of the resolver's scanner and
the name of its first import. -/

namespace ClassLens

namespace Text

/-- Trimming leaves a text without white space as it is. -/
theorem trimChars_eq_self {s : List Char} (h : ∀ c ∈ s, isBlank c = false) : trimChars s = s := by
  have hd : s.dropWhile isBlank = s := by
    cases s with
    | nil => rfl
    | cons c cs => rw [List.dropWhile_cons, h c List.mem_cons_self]; rfl
  obtain ⟨tail, happ, hblank⟩ := trimEnd_append_blank s
  have hnil : tail = [] := by
    cases tail with
    | nil => rfl
    | cons c cs =>
        rw [List.all_cons, Bool.and_eq_true] at hblank
        have hc : c ∈ s := by rw [happ]; simp
        rw [h c hc] at hblank
        exact absurd hblank.1 (by decide)
  rw [hnil, List.append_nil] at happ
  rw [trimChars, hd, ← happ]

end Text

namespace Usage

open Text (isBlank trim)

/-- No character of an identifier is white space. -/
theorem isBlank_of_isIdentifierChar {c : Char} (h : isIdentifierChar c = true) :
    isBlank c = false := by
  simp only [isIdentifierChar, Char.isAlphanum, Char.isAlpha, Char.isUpper, Char.isLower,
    Char.isDigit, Bool.or_eq_true, Bool.and_eq_true, decide_eq_true_eq, beq_iff_eq] at h
  have hn : (48 ≤ c.toNat ∧ c.toNat ≤ 57) ∨ (65 ≤ c.toNat ∧ c.toNat ≤ 90) ∨
      (97 ≤ c.toNat ∧ c.toNat ≤ 122) ∨ c.toNat = 95 ∨ c.toNat = 36 := by
    rcases h with ((((⟨h₁, h₂⟩ | ⟨h₁, h₂⟩) | ⟨h₁, h₂⟩) | rfl) | rfl)
    · exact .inr (.inl ⟨h₁, h₂⟩)
    · exact .inr (.inr (.inl ⟨h₁, h₂⟩))
    · exact .inl ⟨h₁, h₂⟩
    · exact .inr (.inr (.inr (.inl rfl)))
    · exact .inr (.inr (.inr (.inr rfl)))
  simp only [isBlank, Bool.or_eq_false_iff, Bool.and_eq_false_iff, decide_eq_false_iff_not,
    beq_eq_false_iff_ne]
  omega

theorem isIdentifierChar_of_mem {n : List Char} (h : isIdentifier n = true) {c : Char}
    (hc : c ∈ n) : isIdentifierChar c = true := by
  cases n with
  | nil => cases hc
  | cons d ds =>
      rw [isIdentifier, Bool.and_eq_true] at h
      rcases List.mem_cons.mp hc with rfl | hc
      · exact isIdentifierChar_of_start h.1
      · exact List.all_eq_true.mp h.2 c hc

/-- An identifier has no white space to trim. -/
theorem trim_of_isIdentifier {n : String} (h : isIdentifier n.toList = true) : trim n = n := by
  rw [trim, Text.trimChars_eq_self fun c hc => isBlank_of_isIdentifierChar (isIdentifierChar_of_mem h hc),
    String.ofList_toList]

theorem foldl_addNew_of_nodup {names kept : List String} (h : (kept ++ names).Nodup) :
    names.foldl addNew kept = kept ++ names := by
  induction names generalizing kept with
  | nil => simp
  | cons n names ih =>
      have hn : n ∉ kept := fun hn =>
        (List.nodup_append.mp h).2.2 n hn n List.mem_cons_self rfl
      have ha : addNew kept n = kept ++ [n] := by rw [addNew, if_neg hn]
      rw [List.foldl_cons, ha, ih (by rwa [List.append_assoc, List.singleton_append]),
        List.append_assoc, List.singleton_append]

/-- Distinct identifiers are kept as they are. -/
theorem identifiers_of_nodup {names : List String} (hi : ∀ n ∈ names, isIdentifier n.toList = true)
    (hd : names.Nodup) : identifiers names = names := by
  have ht : names.map trim = names := by
    conv_rhs => rw [← List.map_id names]
    exact List.map_congr_left fun n hn => trim_of_isIdentifier (hi n hn)
  have hf : names.filter (fun n => isIdentifier n.toList) = names := List.filter_eq_self.mpr hi
  rw [identifiers, ht, hf, foldl_addNew_of_nodup (by simpa using hd), List.nil_append]

theorem bindingsOf_of_nodup {names : List String} (hi : ∀ n ∈ names, isIdentifier n.toList = true)
    (hd : names.Nodup) (hne : names ≠ []) : bindingsOf names = names := by
  rw [bindingsOf, identifiers_of_nodup hi hd]
  cases names with
  | nil => exact absurd rfl hne
  | cons n names => rfl

namespace Scanner

/-- A scanner that may be extended has distinct identifiers as its bindings. -/
def Normal (s : Scanner) : Prop :=
  s.extensible = true → (∀ n ∈ s.bindings, isIdentifier n.toList = true) ∧ s.bindings.Nodup

theorem normal_ofList (names : List String) : (ofList names).Normal := fun _ =>
  ⟨fun _ hn => isIdentifier_of_mem_bindingsOf hn, bindingsOf_nodup names⟩

/-- The bindings of a scanner with the name that an import binds, if it is followed and can be
added. -/
def bindingsWith (s : Scanner) (follow : Bool) (binding : Option String) : List String :=
  s.bindings ++ binding.toList.filter fun b =>
    follow && s.extensible && isIdentifier b.toList && !s.bindings.contains b

/-- An extension adds the binding at the end. -/
theorem bindings_extend? {s s' : Scanner} (hs : s.Normal) {b : String} (h : s.extend? b = some s') :
    s'.bindings = s.bindings ++ [b] := by
  unfold extend? at h
  split at h
  · rename_i hb
    simp only [Bool.and_eq_true, Bool.not_eq_true'] at hb
    obtain ⟨⟨hx, hid⟩, hnew⟩ := hb
    obtain ⟨hi, hd⟩ := hs hx
    rw [← Option.some.inj h, ofList]
    apply bindingsOf_of_nodup
    · intro n hn
      rcases List.mem_append.mp hn with hn | hn
      · exact hi n hn
      · exact List.mem_singleton.mp hn ▸ hid
    · have hb : b ∉ s.bindings := by
        intro hb
        rw [List.contains_iff_mem.mpr hb] at hnew
        cases hnew
      exact List.nodup_append.mpr ⟨hd, by simp, fun a ha c hc hac =>
        hb (List.mem_singleton.mp hc ▸ hac ▸ ha)⟩
    · simp
  · cases h

end Scanner

end Usage

open Usage

/-- A document is scanned for the bindings of the scanner and the name of its first import. -/
theorem Resolver.bindings_scannerFor {r : Resolver} (hs : r.scanner.Normal)
    (first : Option CssImport) (o : Options) :
    (r.scannerFor first o).bindings =
      r.scanner.bindingsWith o.followImport (first.bind CssImport.binding) := by
  unfold scannerFor Scanner.bindingsWith
  cases first.bind CssImport.binding with
  | none => simp
  | some b =>
      cases hf : o.followImport with
      | false => simp
      | true =>
          simp only [if_true, Option.toList_some, Bool.true_and]
          by_cases hb : (r.scanner.extensible && isIdentifier b.toList &&
              !r.scanner.bindings.contains b) = true
          · have hx : r.scanner.extend? b = some (Scanner.ofList (r.scanner.bindings ++ [b])) := by
              rw [Scanner.extend?, if_pos hb]
            rw [hx, Option.getD_some, Scanner.bindings_extend? hs hx, List.filter_cons, if_pos hb]
            rfl
          · have hx : r.scanner.extend? b = none := by rw [Scanner.extend?, if_neg hb]
            rw [hx, Option.getD_none, List.filter_cons, if_neg hb, List.filter_nil, List.append_nil]

/-- A scanner that may be extended finds usages of identifiers only, also if a document is scanned for
the name of its first import. -/
theorem Resolver.isIdentifier_of_mem_scannerFor {r : Resolver} (hs : r.scanner.Normal)
    (hx : r.scanner.extensible = true) {first : Option CssImport} {o : Options} {name : String}
    (h : name ∈ (r.scannerFor first o).bindings) : isIdentifier name.toList = true := by
  rw [bindings_scannerFor hs] at h
  unfold Scanner.bindingsWith at h
  rcases List.mem_append.mp h with hold | hnew
  · exact (hs hx).1 name hold
  · have hall := (List.mem_filter.mp hnew).2
    simp only [Bool.and_eq_true] at hall
    exact hall.1.2

end ClassLens
