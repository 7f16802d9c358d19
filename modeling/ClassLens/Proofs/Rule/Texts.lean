import Mathlib
import ClassLens.Proofs.Rule.Schema

/-! # Texts of rule data

The texts that are read as a sheet are the texts that spell a tree of the format.

* `Sheet.Encoded s j`: the tree `j` is one of the encodings of the sheet `s`.  Each record is an object
  with its members in any order, or a list; one selector may be a text; a list that is empty may be
  missing at the end.

**Main statements.** `Sheet.ofJson_exact`: a text is read as a sheet if and only if it spells rule data,
and then as the sheet that it stands for.  So each encoding of a sheet is read back, however it is laid
out, and no text is read that spells nothing or that goes on after its value. -/

namespace ClassLens

open Json Schema

/-! ### Encodings -/

/-- A text as a tree. -/
def textTree (s : String) : Tree :=
  .string (some s)

/-- The encodings of a declaration. -/
inductive Declaration.Encoded : Declaration → Tree → Prop
  | object {p v : String} {ms : List (Option String × Tree)} :
      ms.Perm [(some "property", textTree p), (some "value", textTree v)] →
      Declaration.Encoded ⟨p, v⟩ (.object ms)
  | list {p v : String} : Declaration.Encoded ⟨p, v⟩ (.list [textTree p, textTree v])

/-- The encodings of the selectors of a rule. -/
inductive SelectorsEncoded : List String → Tree → Prop
  | one {s : String} : SelectorsEncoded [s] (textTree s)
  | many {ss : List String} : SelectorsEncoded ss (.list (ss.map textTree))

/-- The encodings of a rule. -/
inductive Rule.Encoded : Rule → Tree → Prop
  | object {ss : List String} {ds : List Declaration} {name : String} {j : Tree} {js : List Tree}
      {ms : List (Option String × Tree)} : name ∈ ["selector", "selectors"] → SelectorsEncoded ss j →
      List.Forall₂ Declaration.Encoded ds js →
      ms.Perm [(some name, j), (some "declarations", .list js)] → Rule.Encoded ⟨ss, ds⟩ (.object ms)
  | bareObject {ss : List String} {name : String} {j : Tree} : name ∈ ["selector", "selectors"] →
      SelectorsEncoded ss j → Rule.Encoded ⟨ss, []⟩ (.object [(some name, j)])
  | list {ss : List String} {ds : List Declaration} {j : Tree} {js : List Tree} : SelectorsEncoded ss j →
      List.Forall₂ Declaration.Encoded ds js → Rule.Encoded ⟨ss, ds⟩ (.list [j, .list js])
  | bareList {ss : List String} {j : Tree} : SelectorsEncoded ss j → Rule.Encoded ⟨ss, []⟩ (.list [j])

/-- The encodings of a sheet. -/
inductive Sheet.Encoded : Sheet → Tree → Prop
  | object {rs : List Rule} {js : List Tree} : List.Forall₂ Rule.Encoded rs js →
      Sheet.Encoded ⟨rs⟩ (.object [(some "rules", .list js)])
  | bareObject : Sheet.Encoded ⟨[]⟩ (.object [])
  | list {rs : List Rule} {js : List Tree} : List.Forall₂ Rule.Encoded rs js →
      Sheet.Encoded ⟨rs⟩ (.list [.list js])
  | bareList : Sheet.Encoded ⟨[]⟩ (.list [])

section members

variable {α : Type} {names : List String} {P : Tree → α → Prop} {ms ns : List (Option String × Tree)}

/-- The order of the members makes no difference. -/
theorem Schema.FieldAt.of_perm {o : Option α} (h : FieldAt names P ns o) (hperm : ms.Perm ns) :
    FieldAt names P ms o := by
  have hvalues : (valuesAt names ms).Perm (valuesAt names ns) := (hperm.filter _).map _
  cases o with
  | none =>
      rw [FieldAt] at h ⊢
      exact (h ▸ hvalues).eq_nil
  | some a =>
      obtain ⟨j, hj, hP⟩ := h
      exact ⟨j, (hj ▸ hvalues).eq_singleton, hP⟩

theorem Schema.Named.of_perm (h : Named ns) (hperm : ms.Perm ns) : Named ms :=
  fun m hm => h m (hperm.mem_iff.mp hm)

/-- Encodings that `P` knows, one by one. -/
theorem isListOf_of_forall₂ {Q : α → Tree → Prop} (h : ∀ a j, Q a j → P j a) {as : List α}
    {js : List Tree} (hall : List.Forall₂ Q as js) : IsListOf P (.list js) as :=
  ⟨js, rfl, hall.flip.imp fun j a => h a j⟩

end members

theorem Declaration.Encoded.isDeclaration {d : Declaration} {j : Tree} (h : d.Encoded j) :
    IsDeclaration j d := by
  cases h with
  | @object p v ms hms =>
      have hnamed : Named [(some "property", textTree p), (some "value", textTree v)] := by simp [Named]
      have hp : FieldAt ["property"] IsText [(some "property", textTree p), (some "value", textTree v)]
          (some p) := ⟨textTree p, by simp [valuesAt], rfl⟩
      have hv : FieldAt ["value"] IsText [(some "property", textTree p), (some "value", textTree v)]
          (some v) := ⟨textTree v, by simp [valuesAt], rfl⟩
      exact .object (hnamed.of_perm hms) (hp.of_perm hms) (hv.of_perm hms)
  | list => exact .list rfl rfl

theorem SelectorsEncoded.isSelectors {ss : List String} {j : Tree} (h : SelectorsEncoded ss j) :
    IsSelectors j ss := by
  cases h with
  | one => exact .one rfl
  | many => exact .many ⟨_, rfl, List.forall₂_map_left_iff.mpr (List.forall₂_same.mpr fun _ _ => rfl)⟩

theorem not_mem_declarations {name : String} (h : name ∈ ["selector", "selectors"]) :
    name ∉ ["declarations"] := by
  intro hname
  obtain rfl := List.mem_singleton.mp hname
  exact absurd h (by decide)

theorem Rule.Encoded.isRule {r : Rule} {j : Tree} (h : r.Encoded j) : IsRule j r := by
  cases h with
  | @object ss ds name j js ms hname hs hall hms =>
      have hds : IsListOf IsDeclaration (.list js) ds :=
        isListOf_of_forall₂ (fun _ _ => Declaration.Encoded.isDeclaration) hall
      have hnamed : Named [(some name, j), (some "declarations", .list js)] := by simp [Named]
      have hselectors : FieldAt ["selector", "selectors"] IsSelectors
          [(some name, j), (some "declarations", .list js)] (some ss) :=
        ⟨j, valuesAt_cons_of_mem hname, hs.isSelectors⟩
      have hdeclarations : FieldAt ["declarations"] (IsListOf IsDeclaration)
          [(some name, j), (some "declarations", .list js)] (some ds) :=
        ⟨.list js, valuesAt_cons_of_not_mem (not_mem_declarations hname), hds⟩
      exact .object (hnamed.of_perm hms) (hselectors.of_perm hms) (hdeclarations.of_perm hms)
  | @bareObject ss name j hname hs =>
      exact @IsRule.object _ ss none (by simp [Named])
        ⟨j, valuesAt_cons_of_mem hname, hs.isSelectors⟩
        (valuesAt_cons_of_not_mem (not_mem_declarations hname))
  | list hs hall =>
      exact .list hs.isSelectors (isListOf_of_forall₂ (fun _ _ => Declaration.Encoded.isDeclaration) hall)
  | bareList hs => exact .bare hs.isSelectors

theorem Sheet.Encoded.isSheet {s : Sheet} {j : Tree} (h : s.Encoded j) : IsSheet j s := by
  cases h with
  | @object rs js hall =>
      have hrs : IsListOf IsRule (.list js) rs :=
        isListOf_of_forall₂ (fun _ _ => Rule.Encoded.isRule) hall
      exact @IsSheet.object _ (some rs) (by simp [Named]) ⟨.list js, by simp [valuesAt], hrs⟩
  | bareObject => exact @IsSheet.object [] none (by simp [Named]) rfl
  | list hall => exact .list (isListOf_of_forall₂ (fun _ _ => Rule.Encoded.isRule) hall)
  | bareList => exact .bare

/-! ### Texts -/

/-- A text that spells a tree is read as a sheet if and only if the tree stands for it. -/
theorem Sheet.ofJson_of_spells {t : String} {j : Tree} (h : Spells j t.toList) (s : Sheet) :
    Sheet.ofJson t = .ok s ↔ IsSheet j s := by
  obtain ⟨d, hsource, htree⟩ := Source.ofString_iff.mpr h
  have hdecode : Sheet.ofJson t = Sheet.decode d := by
    rw [Sheet.ofJson, hsource, Source.decode]
    cases Sheet.decode d <;> rfl
  rw [hdecode, reads_sheet d s]
  constructor
  · rintro ⟨j', hj', hsheet⟩
    rwa [Option.some.inj (hj'.symm.trans htree)] at hsheet
  · intro hsheet
    exact ⟨j, htree, hsheet⟩

/-- A text that is read as a sheet spells a tree that stands for it. -/
theorem Sheet.spells_of_ofJson {t : String} {s : Sheet} (h : Sheet.ofJson t = .ok s) :
    ∃ j, Spells j t.toList ∧ IsSheet j s := by
  cases hsource : Source.ofString t with
  | mk d ends =>
      rw [Sheet.ofJson, hsource, Source.decode] at h
      cases hdecode : Sheet.decode d with
      | error fault => simp [hdecode] at h
      | ok s' =>
          simp only [hdecode] at h
          cases ends with
          | false => cases h
          | true =>
              cases h
              obtain ⟨j, hj, hsheet⟩ := (reads_sheet d s).mp hdecode
              exact ⟨j, Source.ofString_iff.mp ⟨d, hsource, hj⟩, hsheet⟩

/-- A sheet begins with a bracket or a brace. -/
theorem Schema.IsSheet.head {j : Tree} {s : Sheet} (h : IsSheet j s) {t : List Char} (ht : Spells j t) :
    (t.dropWhile isSpace).head? = some '[' ∨ (t.dropWhile isSpace).head? = some '{' := by
  rw [← List.append_nil t]
  cases h with
  | object =>
      obtain ⟨c, x, hc, hx⟩ := Laid.head ht []
      cases hx
      exact .inr hc
  | bare | list =>
      obtain ⟨c, x, hc, hx⟩ := Laid.head ht []
      cases hx
      exact .inl hc

/-- No sheet is read from a text that goes on after a value. -/
theorem Sheet.ofJson_append_ne {t after : String} {j : Tree} (h : Spells j t.toList)
    (hafter : ∃ c ∈ after.toList, isSpace c = false) (s : Sheet) :
    Sheet.ofJson (t ++ after) ≠ .ok s := by
  intro hread
  obtain ⟨j', hj', hsheet⟩ := Sheet.spells_of_ofJson hread
  -- a number could go on, but no sheet begins like a number
  have hnumber : ¬ ∃ n, j = .number n := by
    rintro ⟨n, rfl⟩
    obtain ⟨c, x, hc, m, hm, -⟩ := Laid.head h after.toList
    obtain ⟨_, _, heq, hdigit⟩ := hm.head
    cases heq
    have hhead := hsheet.head hj'
    rw [String.toList_append, hc, Option.some.injEq, Option.some.injEq] at hhead
    rcases hhead with rfl | rfl <;> exact absurd hdigit (by decide)
  obtain ⟨d, hread, -⟩ := Draft.ofTokens_of_spells h after.toList fun hj => absurd hj hnumber
  obtain ⟨d', hsource, -⟩ := Source.ofString_iff.mpr hj'
  rw [Source.ofString, String.toList_append, hread] at hsource
  exact tokens_ne_nil hafter (List.isEmpty_iff.mp (congrArg Source.ends hsource))

theorem exists_error {α : Type} {r : Except Fault α} (h : ∀ a, r ≠ .ok a) :
    ∃ fault, r = .error fault := by
  cases r with
  | error fault => exact ⟨fault, rfl⟩
  | ok a => exact absurd rfl (h a)

/-- A text is read as a sheet if and only if it spells a tree of the format, and then as the sheet that
the tree stands for. Each encoding of a sheet is read back. A text that spells no tree is refused, and so
is a text that goes on after a value. -/
theorem Sheet.ofJson_exact :
    (∀ (t : String) (j : Tree), Spells j t.toList → ∀ s, Sheet.ofJson t = .ok s ↔ IsSheet j s) ∧
    (∀ (s : Sheet) (j : Tree) (t : String), s.Encoded j → Spells j t.toList → Sheet.ofJson t = .ok s) ∧
    (∀ t : String, (∀ j, ¬ Spells j t.toList) → ∃ fault, Sheet.ofJson t = .error fault) ∧
    (∀ (j : Tree) (t after : String), Spells j t.toList → (∃ c ∈ after.toList, isSpace c = false) →
      ∃ fault, Sheet.ofJson (t ++ after) = .error fault) := by
  refine ⟨fun t j h => Sheet.ofJson_of_spells h, fun s j t hs h => ?_, fun t h => ?_,
    fun j t after h hafter => ?_⟩
  · exact (Sheet.ofJson_of_spells h s).mpr hs.isSheet
  · refine exists_error fun s hread => ?_
    obtain ⟨j, hj, -⟩ := Sheet.spells_of_ofJson hread
    exact h j hj
  · exact exists_error (Sheet.ofJson_append_ne h hafter)

namespace Sample

/-- A sheet of one rule. -/
def badge : Sheet :=
  ⟨[⟨[".a"], [⟨"color", "red"⟩]⟩]⟩

/-- The sheet as a list of rules, the rule as an object whose fields are turned round. -/
def badgeText : String :=
  "[[\x7b\"declarations\" : [[\"color\",\"r\\u0065d\"]],\n\"selector\":\".a\"\x7d]] "

def badgeTree : Tree :=
  .list [.list [.object [(some "declarations", .list [.list [textTree "color", textTree "red"]]),
    (some "selector", textTree ".a")]]]

theorem spells_badge : Spells badgeTree badgeText.toList :=
  Source.ofString_iff.mp ⟨.list (.item (.list (.item (.object (.member (.ok "declarations")
    (.list (.item (.list (.item (.string (.ok "color")) (.item (.string (.ok "red")) .close))) .close))
    (.member (.ok "selector") (.string (.ok ".a")) .close))) .close)) .close), by cbv, rfl⟩

theorem badge_encoded : badge.Encoded badgeTree := by
  refine .list (.cons (@Rule.Encoded.object _ _ "selector" _ _ _ ?_ .one (.cons .list .nil) ?_) .nil)
  · decide
  · exact List.Perm.swap ..

/-- No rules, and a member that nobody asks for. -/
def bareText : String :=
  "\x7b\"x\" : [null, \"\\ud800\"]\x7d"

theorem spells_bare :
    Spells (.object [(some "x", .list [.null, .string none])]) bareText.toList :=
  Source.ofString_iff.mp ⟨.object (.member (.ok "x") (.list (.item .null
    (.item (.string (.error .malformed)) .close))) .close), by cbv, rfl⟩

theorem not_spells_open (j : Tree) : ¬ Spells j "[[".toList := by
  intro h
  obtain ⟨d, hsource, htree⟩ := Source.ofString_iff.mpr h
  have heval : Source.ofString "[[" =
      ⟨.list (.item (.list (.cut .truncated)) (.cut .truncated)), true⟩ := by
    cbv
  rw [heval] at hsource
  cases hsource
  cases htree

end Sample

/-- The sheet is read back from one of its encodings, and not from a text that goes on; members under other
names are ignored. -/
theorem Sheet.ofJson_samples :
    Sheet.ofJson Sample.badgeText = .ok Sample.badge ∧
    Sheet.ofJson Sample.bareText = .ok ⟨[]⟩ ∧
    (∃ fault, Sheet.ofJson "[[" = .error fault) ∧
    (∃ fault, Sheet.ofJson (Sample.badgeText ++ "7") = .error fault) := by
  refine ⟨Sheet.ofJson_exact.2.1 _ _ _ Sample.badge_encoded Sample.spells_badge, ?_,
    Sheet.ofJson_exact.2.2.1 "[[" Sample.not_spells_open,
    Sheet.ofJson_exact.2.2.2 _ _ "7" Sample.spells_badge ⟨'7', by decide, rfl⟩⟩
  refine (Sheet.ofJson_exact.1 _ _ Sample.spells_bare _).mpr ?_
  exact @IsSheet.object _ none (by simp [Named]) (by simp [FieldAt, valuesAt])

end ClassLens
