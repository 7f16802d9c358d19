import Mathlib.Data.Finset.Card
import Mathlib.Data.List.Basic
import ClassLens.ClassIndex

/-! # The index against the rules themselves

A class index cuts every selector once and keeps, for each class, the positions of the rules that
name it.  Here it is compared with the direct check of a rule, `Rule.names`.

* `Positions.under t x`: the positions that are noted for the class `x`, none if the class is not.

**Main statements.** `Positions.under_noteRules`: what is noted are the positions of the rules that
name the class, ascending.  `ClassIndex.rulesFor_ofSheet`: the index finds the rules that name the
class, in the order of the sheet, and each position once.  `ClassIndex.agrees_ofSheet`: positions,
rules, number of classes and annotations are those that checking the rules one by one gives. -/

namespace ClassLens

open Selector

theorem Rule.names_iff_mem_classNames (r : Rule) (x : String) :
    r.names x = true ↔ x ∈ r.classNames := by
  simp only [names, classNames, hasClass, namedClasses, List.any_eq_true, List.mem_flatMap,
    List.contains_iff_mem]

namespace Positions

/-- The positions that are noted for a class. -/
def under (t : Positions) (x : String) : List Nat := (t.get? x).getD []

theorem under_note (t : Positions) (p : Nat) (c x : String) :
    (t.note p c).under x =
      if c = x ∧ (t.under x).getLast? ≠ some p then t.under x ++ [p] else t.under x := by
  unfold note
  cases hc : t.get? c with
  | none =>
      by_cases h : c = x
      · subst h
        simp [under, hc]
      · simp [under, h]
  | some ps =>
      by_cases h : c = x
      · subst h
        by_cases hl : ps.getLast? = some p
        · simp [under, hc, hl]
        · simp [under, hc, hl]
      · by_cases hl : ps.getLast? = some p
        · simp [under, h, hl]
        · simp [under, h, hl]

/-- A position that was noted last stays the last one. -/
theorem under_foldl_note_of_last {t : Positions} {p : Nat} {x : String}
    (h : (t.under x).getLast? = some p) (cs : List String) :
    (cs.foldl (fun t c => t.note p c) t).under x = t.under x := by
  induction cs generalizing t with
  | nil => rfl
  | cons c cs ih =>
      have hc : (t.note p c).under x = t.under x := by
        rw [under_note, if_neg]
        exact fun hx => hx.2 h
      rw [List.foldl_cons, ih (by rw [hc]; exact h), hc]

theorem under_foldl_note {t : Positions} {p : Nat} {x : String}
    (h : (t.under x).getLast? ≠ some p) (cs : List String) :
    (cs.foldl (fun t c => t.note p c) t).under x =
      if x ∈ cs then t.under x ++ [p] else t.under x := by
  induction cs generalizing t with
  | nil => simp
  | cons c cs ih =>
      rw [List.foldl_cons]
      by_cases hc : c = x
      · have hn : (t.note p c).under x = t.under x ++ [p] := by
          rw [under_note, if_pos ⟨hc, h⟩]
        rw [under_foldl_note_of_last (by rw [hn, List.getLast?_concat]), hn,
          if_pos (hc ▸ List.mem_cons_self)]
      · have hn : (t.note p c).under x = t.under x := by
          rw [under_note, if_neg fun hx => hc hx.1]
        have hx : ¬ x = c := fun hx => hc hx.symm
        rw [ih (by rw [hn]; exact h), hn]
        simp only [List.mem_cons, hx, false_or]

/-- The rule at a position is noted for the classes that it names, once for each. -/
theorem under_noteRule {t : Positions} {p : Nat} {x : String} (h : ∀ q ∈ t.under x, q < p)
    (r : Rule) :
    (t.noteRule p r).under x = if r.names x then t.under x ++ [p] else t.under x := by
  have hl : (t.under x).getLast? ≠ some p := fun hp =>
    Nat.lt_irrefl p (h p (List.mem_of_getLast? hp))
  unfold noteRule
  rw [under_foldl_note hl]
  simp only [Rule.names_iff_mem_classNames]

/-- What is noted for a class are the positions of the rules that name it. -/
theorem under_noteRules {t : Positions} {p : Nat} {x : String} (h : ∀ q ∈ t.under x, q < p)
    (rules : List Rule) :
    (t.noteRules p rules).under x =
      t.under x ++ (rules.zipIdx p).filterMap fun e => if e.1.names x then some e.2 else none := by
  induction rules generalizing t p with
  | nil => simp [noteRules]
  | cons r rules ih =>
      have hn := under_noteRule h r
      have hlt : ∀ q ∈ (t.noteRule p r).under x, q < p + 1 := by
        intro q hq
        rw [hn] at hq
        split at hq
        · rcases List.mem_append.mp hq with hq | hq
          · exact Nat.lt_succ_of_lt (h q hq)
          · exact List.mem_singleton.mp hq ▸ Nat.lt_succ_self p
        · exact Nat.lt_succ_of_lt (h q hq)
      rw [noteRules, ih hlt, hn, List.zipIdx_cons, List.filterMap_cons]
      by_cases hr : r.names x = true
      · simp only [hr, if_true, List.append_assoc, List.singleton_append]
      · simp only [hr, if_false, Bool.false_eq_true]

/-! ### The classes that are noted -/

theorem mem_keys_note {t : Positions} {p : Nat} {c x : String} :
    x ∈ (t.note p c).keys ↔ x ∈ t.keys ∨ x = c := by
  unfold note
  cases hc : t.get? c with
  | none =>
      rw [Table.mem_keys_iff, Table.mem_keys_iff, Table.get?_insert]
      by_cases h : x = c
      · subst h
        simp
      · rw [if_neg (Ne.symm h)]
        simp only [h, or_false]
  | some ps =>
      have hkept : x = c → x ∈ t.keys := by
        rintro rfl
        rw [Table.mem_keys_iff, hc, Option.isSome_some]
      by_cases hl : ps.getLast? = some p
      · simp only [hl, if_true]
        exact ⟨Or.inl, fun h => h.elim id hkept⟩
      · simp only [hl, if_false, Table.keys_insert]
        rw [if_pos (by rw [Table.mem_keys_iff, hc, Option.isSome_some])]
        exact ⟨Or.inl, fun h => h.elim id hkept⟩

theorem mem_keys_foldl_note {t : Positions} {p : Nat} {x : String} {cs : List String} :
    x ∈ (cs.foldl (fun t c => t.note p c) t).keys ↔ x ∈ t.keys ∨ x ∈ cs := by
  induction cs generalizing t with
  | nil => simp
  | cons c cs ih => rw [List.foldl_cons, ih, mem_keys_note, List.mem_cons, or_assoc]

/-- The classes that are noted are those that some rule names. -/
theorem mem_keys_noteRules {t : Positions} {p : Nat} {x : String} {rules : List Rule} :
    x ∈ (t.noteRules p rules).keys ↔ x ∈ t.keys ∨ ∃ r ∈ rules, r.names x = true := by
  induction rules generalizing t p with
  | nil => simp [noteRules]
  | cons r rules ih =>
      rw [noteRules, ih, noteRule, mem_keys_foldl_note, ← Rule.names_iff_mem_classNames]
      simp only [List.mem_cons, exists_eq_or_imp, or_assoc]

end Positions

namespace ClassIndex

/-- The index of a sheet finds the rules that name a class, in the order of the sheet, and each
position once. -/
theorem rulesFor_ofSheet (sheet : Sheet) (x : String) :
    (ofSheet sheet).rulesFor x = sheet.rules.filter fun r => r.names x := by
  have hu : ((ofSheet sheet).positions.get? x).getD [] =
      sheet.rules.zipIdx.filterMap fun e => if e.1.names x then some e.2 else none := by
    have := Positions.under_noteRules (t := .empty) (p := 0) (x := x)
      (by simp [Positions.under]) sheet.rules
    simpa [Positions.under, ofSheet] using this
  have hget : ∀ e ∈ sheet.rules.zipIdx, sheet.rules[e.2]? = some e.1 := fun e he =>
    List.mem_zipIdx_iff_getElem?.mp he
  have hfst : sheet.rules.zipIdx.map Prod.fst = sheet.rules := List.zipIdx_map_fst 0 _
  rw [rulesFor, hu, List.filterMap_filterMap]
  calc sheet.rules.zipIdx.filterMap (fun e =>
          (if e.1.names x then some e.2 else none).bind fun p => sheet.rules[p]?)
      = sheet.rules.zipIdx.filterMap (fun e => if e.1.names x then some e.1 else none) := by
        apply List.filterMap_congr
        intro e he
        split
        · exact hget e he
        · rfl
    _ = (sheet.rules.zipIdx.map Prod.fst).filterMap fun r => if r.names x then some r else none := by
        rw [List.filterMap_map]
        rfl
    _ = sheet.rules.filter fun r => r.names x := by
        rw [hfst, ← List.filterMap_eq_filter]
        apply List.filterMap_congr
        intro r _
        simp [Option.guard]

/-- The positions that are kept for a class are those of the rules that name it, ascending. -/
theorem under_ofSheet (sheet : Sheet) (x : String) :
    (ofSheet sheet).positions.under x =
      (List.range sheet.rules.length).filter fun p => sheet.rules[p]?.any fun r => r.names x := by
  have hu := Positions.under_noteRules (t := .empty) (p := 0) (x := x)
    (by simp [Positions.under]) sheet.rules
  have hget : ∀ e ∈ sheet.rules.zipIdx, sheet.rules[e.2]? = some e.1 := fun e he =>
    List.mem_zipIdx_iff_getElem?.mp he
  have hsnd : sheet.rules.zipIdx.map Prod.snd = List.range sheet.rules.length := by
    rw [List.zipIdx_map_snd, List.range_eq_range']
  calc (ofSheet sheet).positions.under x
      = sheet.rules.zipIdx.filterMap (fun e => if e.1.names x then some e.2 else none) := hu
    _ = sheet.rules.zipIdx.filterMap (fun e =>
          if sheet.rules[e.2]?.any (fun r => r.names x) then some e.2 else none) := by
        apply List.filterMap_congr
        intro e he
        rw [hget e he, Option.any_some]
    _ = (sheet.rules.zipIdx.map Prod.snd).filterMap fun p =>
          if sheet.rules[p]?.any (fun r => r.names x) then some p else none := by
        rw [List.filterMap_map]
        rfl
    _ = (List.range sheet.rules.length).filter fun p =>
          sheet.rules[p]?.any fun r => r.names x := by
        rw [hsnd, ← List.filterMap_eq_filter]
        apply List.filterMap_congr
        intro p _
        simp [Option.guard]

/-- The index counts the classes that some rule names. -/
theorem exists_classCount_ofSheet (sheet : Sheet) :
    ∃ classes : Finset String, (∀ x, x ∈ classes ↔ ∃ r ∈ sheet.rules, r.names x = true) ∧
      (ofSheet sheet).classCount = classes.card := by
  refine ⟨(ofSheet sheet).positions.keys.toFinset, fun x => ?_, ?_⟩
  · rw [List.mem_toFinset, ofSheet, Positions.mem_keys_noteRules]
    simp [Table.mem_keys_iff]
  · rw [List.toFinset_card_of_nodup (Table.keys_nodup _), Table.keys, List.length_map]
    rfl

/-- Every usage comes out once, in order, with the rules that name its class. -/
theorem annotateAll_ofSheet (sheet : Sheet) (usages : List Usage.Site) :
    (ofSheet sheet).annotateAll usages =
      usages.map fun u => ⟨u, sheet.rules.filter fun r => r.names u.className⟩ := by
  unfold annotateAll annotate
  simp only [rulesFor_ofSheet]

/-- The index agrees with checking the rules one by one, whatever their selectors are.  For each
class it keeps the positions of the rules that name it, ascending and each once, and finds these
rules in the order of the sheet; it counts the classes that some rule names; and every usage comes
out once, in order, with the rules that name its class, also where there are none. -/
theorem agrees_ofSheet (sheet : Sheet) (usages : List Usage.Site) :
    (∀ x, (ofSheet sheet).positions.under x =
        (List.range sheet.rules.length).filter fun p => sheet.rules[p]?.any fun r => r.names x) ∧
      (∀ x, (ofSheet sheet).rulesFor x = sheet.rules.filter fun r => r.names x) ∧
      (∃ classes : Finset String, (∀ x, x ∈ classes ↔ ∃ r ∈ sheet.rules, r.names x = true) ∧
        (ofSheet sheet).classCount = classes.card) ∧
      (ofSheet sheet).annotateAll usages =
        usages.map fun u => ⟨u, sheet.rules.filter fun r => r.names u.className⟩ :=
  ⟨under_ofSheet sheet, rulesFor_ofSheet sheet, exists_classCount_ofSheet sheet,
    annotateAll_ofSheet sheet usages⟩

end ClassIndex

end ClassLens
