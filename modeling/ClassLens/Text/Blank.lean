/-! # White space

The characters that separate words everywhere in this library: in selectors, in import
statements and at the ends of a setting's text.

* `isBlank c`: `c` has the Unicode property `White_Space`.
* `trim s`: `s` without its leading and trailing white space.

**Main statements.** `trimEnd_append_blank` and `trimChars_of_blank`: what is dropped at
the end is white space only, and a text of nothing but white space is trimmed to nothing. -/

namespace ClassLens.Text

/-- The property `White_Space`: 25 characters, of which six are ASCII. -/
def isBlank (c : Char) : Bool :=
  let n := c.toNat
  (9 ≤ n && n ≤ 13) || n == 0x20 || n == 0x85 || n == 0xA0 || n == 0x1680 ||
    (0x2000 ≤ n && n ≤ 0x200A) || n == 0x2028 || n == 0x2029 || n == 0x202F || n == 0x205F ||
    n == 0x3000

/-- Characters of a text with the white space at the end dropped. -/
def trimEnd : List Char → List Char
  | [] => []
  | c :: cs =>
    match trimEnd cs with
    | [] => if isBlank c then [] else [c]
    | kept => c :: kept

/-- Characters of a text with the white space at both ends dropped. -/
def trimChars (s : List Char) : List Char :=
  trimEnd (s.dropWhile isBlank)

/-- A text without its leading and trailing white space. -/
def trim (s : String) : String :=
  String.ofList (trimChars s.toList)

/-! ### What trimming drops -/

theorem trimEnd_cons_of_ne_nil {c : Char} {cs : List Char} (h : trimEnd cs ≠ []) :
    trimEnd (c :: cs) = c :: trimEnd cs := by
  rw [trimEnd]
  split
  · contradiction
  · rfl

theorem trimEnd_cons_of_eq_nil {c : Char} {cs : List Char} (h : trimEnd cs = []) :
    trimEnd (c :: cs) = if isBlank c then [] else [c] := by
  rw [trimEnd, h]

theorem trimEnd_eq_nil_iff (s : List Char) : trimEnd s = [] ↔ s.all isBlank = true := by
  induction s with
  | nil => simp [trimEnd]
  | cons c cs ih =>
    by_cases h : trimEnd cs = []
    · rw [trimEnd_cons_of_eq_nil h]
      have := ih.mp h
      by_cases hc : isBlank c = true <;> simp_all
    · rw [trimEnd_cons_of_ne_nil h]
      have : cs.all isBlank ≠ true := fun hb => h (ih.mpr hb)
      simp_all

/-- The end that is dropped is white space only. -/
theorem trimEnd_append_blank (s : List Char) :
    ∃ tail, s = trimEnd s ++ tail ∧ tail.all isBlank = true := by
  induction s with
  | nil => exact ⟨[], by simp [trimEnd]⟩
  | cons c cs ih =>
    obtain ⟨tail, happ, hblank⟩ := ih
    by_cases h : trimEnd cs = []
    · rw [trimEnd_cons_of_eq_nil h]
      rw [h, List.nil_append] at happ
      subst happ
      by_cases hc : isBlank c = true
      · exact ⟨c :: cs, by simp [hc], by simp [hc, hblank]⟩
      · exact ⟨cs, by simp [hc], hblank⟩
    · rw [trimEnd_cons_of_ne_nil h]
      exact ⟨tail, by rw [List.cons_append, ← happ], hblank⟩

theorem trimChars_of_blank {s : List Char} (h : s.all isBlank = true) : trimChars s = [] := by
  have hd : s.dropWhile isBlank = [] := by
    induction s with
    | nil => rfl
    | cons c cs ih =>
      simp only [List.all_cons, Bool.and_eq_true] at h
      rw [List.dropWhile_cons, h.1]
      exact ih h.2
  rw [trimChars, hd, trimEnd]

end ClassLens.Text
