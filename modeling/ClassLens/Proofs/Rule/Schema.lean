import Mathlib.Data.List.Forall2
import ClassLens.Proofs.Json.Trees
import ClassLens.Rule.Decode

/-! # The format of rule data

Which trees are rule data, and which sheets they stand for.

* A declaration, a rule and a sheet are objects, or lists of their fields in order.
* In an object a field stands under one of its names, at most once, and all names are texts.  Members
  under other names may be anything.
* A list ends after the last field.

`IsDeclaration`, `IsRule` and `IsSheet` say so of trees, without the order in which a reader goes.
`Reads read P` says that a reader of drafts accepts exactly the trees of which `P` holds, and answers
as `P` says.

**Main statements.** `reads_sheet`: the reader of sheets accepts exactly the format. -/

namespace ClassLens.Schema

open Json

variable {α β σ : Type}

/-! ### The format -/

/-- The tree is a text. -/
def IsText (j : Tree) (s : String) : Prop :=
  j = .string (some s)

/-- The tree is a list of what `P` says, in order. -/
def IsListOf (P : Tree → α → Prop) (j : Tree) (as : List α) : Prop :=
  ∃ js, j = .list js ∧ List.Forall₂ P js as

/-- The names of all members are texts. -/
def Named (ms : List (Option String × Tree)) : Prop :=
  ∀ m ∈ ms, m.1.isSome = true

/-- The trees that stand under some names, in order. -/
def valuesAt (names : List String) (ms : List (Option String × Tree)) : List Tree :=
  (ms.filter fun m => m.1.any fun name => decide (name ∈ names)).map Prod.snd

/-- A field with some names: it stands nowhere, or once. -/
def FieldAt (names : List String) (P : Tree → α → Prop) (ms : List (Option String × Tree)) :
    Option α → Prop
  | none => valuesAt names ms = []
  | some a => ∃ j, valuesAt names ms = [j] ∧ P j a

/-- The tree is a declaration. -/
inductive IsDeclaration : Tree → Declaration → Prop
  | object {ms : List (Option String × Tree)} {p v : String} : Named ms →
      FieldAt ["property"] IsText ms (some p) → FieldAt ["value"] IsText ms (some v) →
      IsDeclaration (.object ms) ⟨p, v⟩
  | list {j k : Tree} {p v : String} : IsText j p → IsText k v → IsDeclaration (.list [j, k]) ⟨p, v⟩

/-- The tree is the selectors of a rule: a text or a list of texts. -/
inductive IsSelectors : Tree → List String → Prop
  | one {j : Tree} {s : String} : IsText j s → IsSelectors j [s]
  | many {j : Tree} {ss : List String} : IsListOf IsText j ss → IsSelectors j ss

/-- The tree is a rule.  Without declarations there are none. -/
inductive IsRule : Tree → Rule → Prop
  | object {ms : List (Option String × Tree)} {ss : List String} {ds : Option (List Declaration)} :
      Named ms → FieldAt ["selector", "selectors"] IsSelectors ms (some ss) →
      FieldAt ["declarations"] (IsListOf IsDeclaration) ms ds → IsRule (.object ms) ⟨ss, ds.getD []⟩
  | bare {j : Tree} {ss : List String} : IsSelectors j ss → IsRule (.list [j]) ⟨ss, []⟩
  | list {j k : Tree} {ss : List String} {ds : List Declaration} : IsSelectors j ss →
      IsListOf IsDeclaration k ds → IsRule (.list [j, k]) ⟨ss, ds⟩

/-- The tree is a sheet.  Without rules there are none. -/
inductive IsSheet : Tree → Sheet → Prop
  | object {ms : List (Option String × Tree)} {rs : Option (List Rule)} : Named ms →
      FieldAt ["rules"] (IsListOf IsRule) ms rs → IsSheet (.object ms) ⟨rs.getD []⟩
  | bare : IsSheet (.list []) ⟨[]⟩
  | list {j : Tree} {rs : List Rule} : IsListOf IsRule j rs → IsSheet (.list [j]) ⟨rs⟩

/-! ### Readers of single values -/

/-- The reader accepts exactly the trees of which `P` holds. -/
def Reads (read : Draft → Except Fault α) (P : Tree → α → Prop) : Prop :=
  ∀ d a, read d = .ok a ↔ ∃ j, d.tree? = some j ∧ P j a

theorem bind_eq_ok_iff {r : Except Fault α} {f : α → Except Fault β} {b : β} :
    (r >>= f) = .ok b ↔ ∃ a, r = .ok a ∧ f a = .ok b := by
  cases r with
  | error fault => simp [bind, Except.bind]
  | ok a => simp [bind, Except.bind]

theorem map_eq_ok_iff {r : Except Fault α} {f : α → β} {b : β} :
    r.map f = .ok b ↔ ∃ a, r = .ok a ∧ f a = b := by
  cases r with
  | error fault => simp [Except.map]
  | ok a => simp [Except.map]

theorem require_eq_ok_iff {o : Option α} {a : α} : require o = .ok a ↔ o = some a := by
  cases o <;> simp [require]

theorem toOption_eq_some_iff {r : Except Fault α} {a : α} : r.toOption = some a ↔ r = .ok a := by
  cases r <;> simp [Except.toOption]

theorem reads_text : Reads readText IsText := by
  intro d s
  cases d with
  | string chars => simp [readText, Draft.tree?, IsText, toOption_eq_some_iff]
  | null | bool | number | list | object | broken => simp [readText, Draft.tree?, IsText]

section lists

variable {read : Draft → Except Fault α} {P : Tree → α → Prop}

theorem reads_items (h : Reads read P) : ∀ (items : Items) (as : List α),
    readItems read items = .ok as ↔ ∃ js, items.trees? = some js ∧ List.Forall₂ P js as
  | .close, as => by cases as <;> simp [readItems, Items.trees?]
  | .cut _, _ | .dangling, _ => by simp [readItems, Items.trees?]
  | .item value rest, as => by
      have ih := reads_items h rest
      constructor
      · intro hread
        cases hvalue : read value with
        | error fault => simp [readItems, hvalue] at hread
        | ok a =>
            simp only [readItems, hvalue, map_eq_ok_iff] at hread
            obtain ⟨as, hrest, rfl⟩ := hread
            obtain ⟨j, hj, hP⟩ := (h value a).mp hvalue
            obtain ⟨js, hjs, hall⟩ := (ih as).mp hrest
            exact ⟨j :: js, Items.trees?_item.mpr ⟨j, js, hj, hjs, rfl⟩, hall.cons hP⟩
      · rintro ⟨js, hjs, hall⟩
        obtain ⟨j, js, hj, hrest, rfl⟩ := Items.trees?_item.mp hjs
        cases hall with
        | @cons _ a _ as hP hall =>
            simp only [readItems, (h value a).mpr ⟨j, hj, hP⟩, map_eq_ok_iff]
            exact ⟨as, (ih as).mpr ⟨js, hrest, hall⟩, rfl⟩

theorem reads_list (h : Reads read P) : Reads (readList read) (IsListOf P) := by
  intro d as
  cases d with
  | list items =>
      simp only [readList, reads_items h, Draft.tree?_list, IsListOf]
      constructor
      · rintro ⟨js, hjs, hall⟩
        exact ⟨_, ⟨js, hjs, rfl⟩, js, rfl, hall⟩
      · rintro ⟨_, ⟨js, hjs, rfl⟩, js', hlist, hall⟩
        cases hlist
        exact ⟨js, hjs, hall⟩
  | null | bool | number | string | object | broken => simp [readList, Draft.tree?, IsListOf]

/-- A field that a list holds in its place. -/
theorem readNextField_some (h : Reads read P) {items rest : Items} {a : α} :
    readNextField read items = .ok (some a, rest) ↔
      ∃ value j, items = .item value rest ∧ value.tree? = some j ∧ P j a := by
  cases items with
  | item value rest' =>
      simp only [readNextField, map_eq_ok_iff, Prod.mk.injEq, Option.some.injEq, h value,
        Items.item.injEq]
      constructor
      · rintro ⟨a, ⟨j, hj, hP⟩, rfl, rfl⟩
        exact ⟨value, j, ⟨rfl, rfl⟩, hj, hP⟩
      · rintro ⟨_, j, ⟨rfl, rfl⟩, hj, hP⟩
        exact ⟨a, ⟨j, hj, hP⟩, rfl, rfl⟩
  | close | cut | dangling => simp [readNextField]

theorem readNextField_item (h : Reads read P) {value : Draft} {j : Tree} {a : α}
    (hj : value.tree? = some j) (hP : P j a) (rest : Items) :
    readNextField read (.item value rest) = .ok (some a, rest) :=
  (readNextField_some h).mpr ⟨value, j, rfl, hj, hP⟩

/-- A list that ends before a field. -/
theorem readNextField_none {items rest : Items} :
    readNextField read items = .ok (none, rest) ↔ items = .close ∧ rest = .close := by
  cases items with
  | close => simp [readNextField, eq_comm]
  | cut | dangling => simp [readNextField]
  | item => simp [readNextField, map_eq_ok_iff]

theorem readEnd_eq_ok_iff {items : Items} : readEnd items = .ok () ↔ items = .close := by
  cases items <;> simp [readEnd]

end lists

/-! ### Members of objects -/

/-- What a member does to a field: it gives its value, or stands under another name. -/
inductive Slot (names : List String) (P : Tree → α → Prop) :
    Option α → String → Tree → Option α → Prop
  | found {name : String} {j : Tree} {a : α} : name ∈ names → P j a →
      Slot names P none name j (some a)
  | other {name : String} {j : Tree} {o : Option α} : name ∉ names → Slot names P o name j o

theorem slot_of_mem {names : List String} {P : Tree → α → Prop} {o o' : Option α} {name : String}
    {j : Tree} (h : name ∈ names) :
    Slot names P o name j o' ↔ o = none ∧ ∃ a, P j a ∧ some a = o' := by
  constructor
  · rintro (⟨-, hP⟩ | hname)
    · exact ⟨rfl, _, hP, rfl⟩
    · exact absurd h hname
  · rintro ⟨rfl, a, hP, rfl⟩
    exact .found h hP

theorem slot_of_not_mem {names : List String} {P : Tree → α → Prop} {o o' : Option α} {name : String}
    {j : Tree} (h : name ∉ names) : Slot names P o name j o' ↔ o = o' := by
  constructor
  · rintro (⟨hname, -⟩ | -)
    · exact absurd hname h
    · rfl
  · rintro rfl
    exact .other h

/-- What the members of an object do to a field, from the left. -/
inductive Fills (names : List String) (P : Tree → α → Prop) :
    Option α → List (Option String × Tree) → Option α → Prop
  | done {o : Option α} : Fills names P o [] o
  | member {name : String} {j : Tree} {ms : List (Option String × Tree)} {o o' o'' : Option α} :
      Slot names P o name j o' → Fills names P o' ms o'' → Fills names P o ((some name, j) :: ms) o''

theorem named_cons {name : Option String} {j : Tree} {ms : List (Option String × Tree)} :
    Named ((name, j) :: ms) ↔ name.isSome = true ∧ Named ms := by
  simp [Named]

section fields

variable {names : List String} {P : Tree → α → Prop} {ms : List (Option String × Tree)}

theorem valuesAt_cons_of_mem {name : String} {j : Tree} (h : name ∈ names) :
    valuesAt names ((some name, j) :: ms) = j :: valuesAt names ms := by
  simp [valuesAt, h]

theorem valuesAt_cons_of_not_mem {name : String} {j : Tree} (h : name ∉ names) :
    valuesAt names ((some name, j) :: ms) = valuesAt names ms := by
  simp [valuesAt, h]

/-- A field that was found stands nowhere else. -/
theorem fills_some_iff {a : α} {o : Option α} :
    Fills names P (some a) ms o ↔ Named ms ∧ valuesAt names ms = [] ∧ o = some a := by
  induction ms with
  | nil =>
      constructor
      · rintro ⟨⟩
        exact ⟨by simp [Named], rfl, rfl⟩
      · rintro ⟨-, -, rfl⟩
        exact .done
  | cons m ms ih =>
      obtain ⟨name, j⟩ := m
      constructor
      · rintro (_ | ⟨⟨⟩ | hname, hrest⟩)
        obtain ⟨hnamed, hvalues, rfl⟩ := ih.mp hrest
        exact ⟨named_cons.mpr ⟨rfl, hnamed⟩, (valuesAt_cons_of_not_mem hname).trans hvalues, rfl⟩
      · rintro ⟨hall, hvalues, rfl⟩
        obtain ⟨hname, hnamed⟩ := named_cons.mp hall
        obtain ⟨name, rfl⟩ := Option.isSome_iff_exists.mp hname
        by_cases hmem : name ∈ names
        · rw [valuesAt_cons_of_mem hmem] at hvalues
          cases hvalues
        · rw [valuesAt_cons_of_not_mem hmem] at hvalues
          exact .member (.other hmem) (ih.mpr ⟨hnamed, hvalues, rfl⟩)

/-- The members of an object fill a field as the format says. -/
theorem fills_none_iff {o : Option α} :
    Fills names P none ms o ↔ Named ms ∧ FieldAt names P ms o := by
  induction ms with
  | nil =>
      constructor
      · rintro ⟨⟩
        exact ⟨by simp [Named], rfl⟩
      · rintro ⟨-, hfield⟩
        cases o with
        | none => exact .done
        | some a =>
            obtain ⟨j, hvalues, -⟩ := hfield
            cases hvalues
  | cons m ms ih =>
      obtain ⟨name, j⟩ := m
      constructor
      · rintro (_ | ⟨⟨hname, hP⟩ | hname, hrest⟩)
        · obtain ⟨hnamed, hvalues, rfl⟩ := fills_some_iff.mp hrest
          exact ⟨named_cons.mpr ⟨rfl, hnamed⟩, j, by rw [valuesAt_cons_of_mem hname, hvalues], hP⟩
        · obtain ⟨hnamed, hfield⟩ := ih.mp hrest
          refine ⟨named_cons.mpr ⟨rfl, hnamed⟩, ?_⟩
          cases o <;> simpa only [FieldAt, valuesAt_cons_of_not_mem hname] using hfield
      · rintro ⟨hall, hfield⟩
        obtain ⟨hname, hnamed⟩ := named_cons.mp hall
        obtain ⟨name, rfl⟩ := Option.isSome_iff_exists.mp hname
        by_cases hmem : name ∈ names
        · cases o with
          | none =>
              rw [FieldAt, valuesAt_cons_of_mem hmem] at hfield
              cases hfield
          | some a =>
              obtain ⟨j', hvalues, hP⟩ := hfield
              rw [valuesAt_cons_of_mem hmem] at hvalues
              obtain ⟨rfl, hothers⟩ := List.cons.inj hvalues
              exact .member (.found hmem hP) (fills_some_iff.mpr ⟨hnamed, hothers, rfl⟩)
        · refine .member (.other hmem) (ih.mpr ⟨hnamed, ?_⟩)
          cases o <;> simpa only [FieldAt, valuesAt_cons_of_not_mem hmem] using hfield

end fields

theorem readOnce_eq_ok_iff {before : Option α} {read : Draft → Except Fault α} {put : α → σ}
    {value : Draft} {f : σ} :
    readOnce before read put value = .ok f ↔ before = none ∧ ∃ a, read value = .ok a ∧ put a = f := by
  cases before <;> simp [readOnce, map_eq_ok_iff]

section objects

variable {make : Option α → Option β → σ} {take : σ → String → Draft → Except Fault σ}
  {names names' : List String} {read : Draft → Except Fault α} {read' : Draft → Except Fault β}
  {P : Tree → α → Prop} {P' : Tree → β → Prop}

/-- `take` takes a member into one of two fields, or passes over its value. -/
def TakesFields (make : Option α → Option β → σ) (take : σ → String → Draft → Except Fault σ)
    (names names' : List String) (read : Draft → Except Fault α) (read' : Draft → Except Fault β) :
    Prop :=
  ∀ a b name d, take (make a b) name d =
    if name ∈ names then readOnce a read (fun x => make (some x) b) d
    else if name ∈ names' then readOnce b read' (fun y => make a (some y)) d
    else d.skip.map fun _ => make a b

/-- One member. -/
theorem take_eq_ok_iff (htake : TakesFields make take names names' read read') (h : Reads read P)
    (h' : Reads read' P') (hapart : ∀ name ∈ names, name ∉ names') {a : Option α} {b : Option β}
    {name : String} {d : Draft} {f : σ} :
    take (make a b) name d = .ok f ↔ ∃ j a' b', d.tree? = some j ∧ Slot names P a name j a' ∧
      Slot names' P' b name j b' ∧ make a' b' = f := by
  rw [htake]
  by_cases hname : name ∈ names
  · rw [if_pos hname, readOnce_eq_ok_iff]
    simp only [h d _, slot_of_mem hname, slot_of_not_mem (hapart name hname)]
    constructor
    · rintro ⟨rfl, x, ⟨j, hj, hP⟩, rfl⟩
      exact ⟨j, some x, b, hj, ⟨rfl, x, hP, rfl⟩, rfl, rfl⟩
    · rintro ⟨j, _, _, hj, ⟨rfl, x, hP, rfl⟩, rfl, rfl⟩
      exact ⟨rfl, x, ⟨j, hj, hP⟩, rfl⟩
  · rw [if_neg hname]
    by_cases hname' : name ∈ names'
    · rw [if_pos hname', readOnce_eq_ok_iff]
      simp only [h' d _, slot_of_mem hname', slot_of_not_mem hname]
      constructor
      · rintro ⟨rfl, y, ⟨j, hj, hP⟩, rfl⟩
        exact ⟨j, a, some y, hj, rfl, ⟨rfl, y, hP, rfl⟩, rfl⟩
      · rintro ⟨j, _, _, hj, rfl, ⟨rfl, y, hP, rfl⟩, rfl⟩
        exact ⟨rfl, y, ⟨j, hj, hP⟩, rfl⟩
    · rw [if_neg hname', map_eq_ok_iff]
      simp only [slot_of_not_mem hname, slot_of_not_mem hname', d.skip_eq_ok_iff]
      constructor
      · rintro ⟨⟨⟩, ⟨j, hj⟩, rfl⟩
        exact ⟨j, a, b, hj, rfl, rfl, rfl⟩
      · rintro ⟨j, _, _, hj, rfl, rfl, rfl⟩
        exact ⟨(), ⟨j, hj⟩, rfl⟩

/-- All members. -/
theorem readFields_eq_ok_iff (htake : TakesFields make take names names' read read') (h : Reads read P)
    (h' : Reads read' P') (hapart : ∀ name ∈ names, name ∉ names') :
    ∀ (members : Members) (a : Option α) (b : Option β) (f : σ),
      readFields take (make a b) members = .ok f ↔ ∃ ms a' b', members.members? = some ms ∧
        Fills names P a ms a' ∧ Fills names' P' b ms b' ∧ make a' b' = f
  | .close, a, b, f => by
      constructor
      · intro hread
        cases hread
        exact ⟨[], a, b, rfl, .done, .done, rfl⟩
      · rintro ⟨_, a', b', ⟨⟩, ⟨⟩, ⟨⟩, rfl⟩
        rfl
  | .cut _ _, _, _, _ => by simp [readFields, Members.members?]
  | .member (.error fault) value rest, a, b, f => by
      constructor
      · intro hread
        cases hread
      · rintro ⟨ms, a', b', hms, hfills, -, -⟩
        obtain ⟨j, ns, -, -, rfl⟩ := Members.members?_member.mp hms
        cases hfills
  | .member (.ok name) value rest, a, b, f => by
      have ih := readFields_eq_ok_iff htake h h' hapart rest
      constructor
      · intro hread
        cases hmember : take (make a b) name value with
        | error fault => simp [readFields, hmember] at hread
        | ok g =>
            simp only [readFields, hmember] at hread
            obtain ⟨j, a₁, b₁, hj, hslot, hslot', rfl⟩ :=
              (take_eq_ok_iff htake h h' hapart).mp hmember
            obtain ⟨ms, a₂, b₂, hms, hfills, hfills', rfl⟩ := (ih a₁ b₁ f).mp hread
            exact ⟨_, a₂, b₂, Members.members?_member.mpr ⟨j, ms, hj, hms, rfl⟩,
              .member hslot hfills, .member hslot' hfills', rfl⟩
      · rintro ⟨_, a₂, b₂, hms, hfills, hfills', rfl⟩
        obtain ⟨j, ms, hj, hrest, rfl⟩ := Members.members?_member.mp hms
        cases hfills with
        | @member _ _ _ _ a₁ _ hslot hfills =>
            cases hfills' with
            | @member _ _ _ _ b₁ _ hslot' hfills' =>
                have hmember : take (make a b) name value = .ok (make a₁ b₁) :=
                  (take_eq_ok_iff htake h h' hapart).mpr ⟨j, a₁, b₁, hj, hslot, hslot', rfl⟩
                simp only [readFields, hmember]
                exact (ih a₁ b₁ _).mpr ⟨ms, a₂, b₂, hrest, hfills, hfills', rfl⟩

/-- The members of an object are read as the format says. -/
theorem readFields_iff (htake : TakesFields make take names names' read read') (h : Reads read P)
    (h' : Reads read' P') (hapart : ∀ name ∈ names, name ∉ names') (members : Members) (f : σ) :
    readFields take (make none none) members = .ok f ↔ ∃ ms a b, members.members? = some ms ∧
      Named ms ∧ FieldAt names P ms a ∧ FieldAt names' P' ms b ∧ make a b = f := by
  simp only [readFields_eq_ok_iff htake h h' hapart, fills_none_iff]
  constructor
  · rintro ⟨ms, a, b, hms, ⟨hnamed, ha⟩, ⟨-, hb⟩, rfl⟩
    exact ⟨ms, a, b, hms, hnamed, ha, hb, rfl⟩
  · rintro ⟨ms, a, b, hms, hnamed, ha, hb, rfl⟩
    exact ⟨ms, a, b, hms, ⟨hnamed, ha⟩, ⟨hnamed, hb⟩, rfl⟩

end objects

/-! ### Declarations, rules and sheets -/

theorem takesFields_declaration :
    TakesFields DeclarationFields.mk DeclarationFields.take ["property"] ["value"] readText readText := by
  intro a b name d
  simp [DeclarationFields.take]

theorem reads_declaration : Reads Declaration.decode IsDeclaration := by
  intro d x
  cases d with
  | object members =>
      have hfields := readFields_iff takesFields_declaration reads_text reads_text (by decide) members
      simp only [Declaration.decode, bind_eq_ok_iff, require_eq_ok_iff, pure, Except.pure,
        Except.ok.injEq, Draft.tree?_object]
      constructor
      · rintro ⟨f, hread, p, hp, v, hv, rfl⟩
        obtain ⟨ms, a, b, hms, hnamed, ha, hb, rfl⟩ := (hfields _).mp hread
        obtain rfl : a = some p := hp
        obtain rfl : b = some v := hv
        exact ⟨_, ⟨ms, hms, rfl⟩, .object hnamed ha hb⟩
      · rintro ⟨_, ⟨ms, hms, rfl⟩, hdeclaration⟩
        cases hdeclaration with
        | @object _ p v hnamed ha hb =>
            exact ⟨⟨some p, some v⟩, (hfields _).mpr ⟨ms, _, _, hms, hnamed, ha, hb, rfl⟩,
              p, rfl, v, rfl, rfl⟩
  | list items =>
      simp only [Declaration.decode, bind_eq_ok_iff, require_eq_ok_iff, pure, Except.pure,
        Except.ok.injEq, Draft.tree?_list]
      constructor
      · rintro ⟨⟨_, rest⟩, hp, p, rfl, ⟨_, rest'⟩, hv, v, rfl, ⟨⟩, hend, rfl⟩
        obtain ⟨value, j, rfl, hj, hjp⟩ := (readNextField_some reads_text).mp hp
        obtain ⟨value', k, rfl, hk, hkv⟩ := (readNextField_some reads_text).mp hv
        obtain rfl := readEnd_eq_ok_iff.mp hend
        have hjs := Items.trees?_eq_pair.mpr ⟨value, value', rfl, hj, hk⟩
        exact ⟨.list [j, k], ⟨[j, k], hjs, rfl⟩, .list hjp hkv⟩
      · rintro ⟨_, ⟨js, hjs, rfl⟩, hdeclaration⟩
        cases hdeclaration with
        | @list j k p v hp hv =>
            obtain ⟨value, value', rfl, hj, hk⟩ := Items.trees?_eq_pair.mp hjs
            have hfirst := readNextField_item reads_text hj hp (.item value' .close)
            have hsecond := readNextField_item reads_text hk hv .close
            exact ⟨(some p, _), hfirst, p, rfl, (some v, _), hsecond, v, rfl, (), rfl, rfl⟩
  | null | bool | number | string | broken =>
      constructor
      · rintro ⟨⟩
      · rintro ⟨j, ⟨⟩, ⟨⟩⟩

/-- A value that is read whole is a text if and only if its tree is one. -/
theorem whole_eq_string_iff {room : Nat} {d : Draft} {s : String} :
    d.whole room = .ok (.string s) ↔ ∃ j, d.tree? = some j ∧ IsText j s := by
  cases d with
  | string chars => cases chars <;> simp [Draft.whole, Draft.tree?, IsText, Except.toOption]
  | number n => cases n <;> simp [Draft.whole, Draft.tree?, IsText]
  | list | object => cases room <;> simp [Draft.whole, Draft.tree?, IsText, map_eq_ok_iff]
  | null | bool | broken => simp [Draft.whole, Draft.tree?, IsText]

theorem stringsOf?_cons {v : Value} {vs : List Value} {ss : List String} :
    stringsOf? (v :: vs) = some ss ↔
      ∃ s ts, v = .string s ∧ stringsOf? vs = some ts ∧ s :: ts = ss := by
  cases v <;> simp [stringsOf?]

/-- Values that are read whole are texts if and only if their trees are. -/
theorem whole_texts_iff {room : Nat} : ∀ (items : Items) (ss : List String),
    (∃ vs, items.whole room = .ok vs ∧ stringsOf? vs = some ss) ↔
      ∃ js, items.trees? = some js ∧ List.Forall₂ IsText js ss
  | .close, ss => by cases ss <;> simp [Items.whole, Items.trees?, stringsOf?]
  | .cut _, _ | .dangling, _ => by simp [Items.whole, Items.trees?]
  | .item value rest, ss => by
      have ih := @whole_texts_iff room rest
      constructor
      · rintro ⟨vs, hwhole, hstrings⟩
        cases hvalue : value.whole room with
        | error fault => simp [Items.whole, hvalue] at hwhole
        | ok v =>
            simp only [Items.whole, hvalue, map_eq_ok_iff] at hwhole
            obtain ⟨vs, hrest, rfl⟩ := hwhole
            obtain ⟨s, ss, rfl, hss, rfl⟩ := stringsOf?_cons.mp hstrings
            obtain ⟨j, hj, hs⟩ := whole_eq_string_iff.mp hvalue
            obtain ⟨js, hjs, hall⟩ := (ih ss).mp ⟨vs, hrest, hss⟩
            exact ⟨j :: js, Items.trees?_item.mpr ⟨j, js, hj, hjs, rfl⟩, hall.cons hs⟩
      · rintro ⟨js, hjs, hall⟩
        obtain ⟨j, js, hj, hrest, rfl⟩ := Items.trees?_item.mp hjs
        cases hall with
        | @cons _ s _ ss hs hall =>
            obtain ⟨vs, hvs, hss⟩ := (ih ss).mpr ⟨js, hrest, hall⟩
            refine ⟨.string s :: vs, ?_, stringsOf?_cons.mpr ⟨s, ss, rfl, hss, rfl⟩⟩
            simp only [Items.whole, whole_eq_string_iff.mpr ⟨j, hj, hs⟩, hvs, Except.map]

theorem whole_eq_list_iff {room : Nat} {d : Draft} {vs : List Value} :
    d.whole (room + 1) = .ok (.list vs) ↔ ∃ items, d = .list items ∧ items.whole room = .ok vs := by
  cases d with
  | string chars => cases chars <;> simp [Draft.whole]
  | number n => cases n <;> simp [Draft.whole]
  | null | bool | list | object | broken => simp [Draft.whole, map_eq_ok_iff]

/-- How deep a value may nest makes no difference to the selectors that are read. -/
theorem reads_selectors : Reads readSelectors IsSelectors := by
  intro d ss
  constructor
  · intro hread
    unfold readSelectors at hread
    split at hread
    · rename_i s hwhole
      cases hread
      obtain ⟨j, hj, hs⟩ := whole_eq_string_iff.mp hwhole
      exact ⟨j, hj, .one hs⟩
    · rename_i vs hwhole
      obtain ⟨items, rfl, hitems⟩ := whole_eq_list_iff.mp hwhole
      obtain ⟨js, hjs, hall⟩ :=
        (whole_texts_iff items ss).mp ⟨vs, hitems, require_eq_ok_iff.mp hread⟩
      exact ⟨.list js, Draft.tree?_list.mpr ⟨js, hjs, rfl⟩, .many ⟨js, rfl, hall⟩⟩
    · cases hread
    · cases hread
  · rintro ⟨j, hj, hs | ⟨js, rfl, hall⟩⟩
    · rw [readSelectors, whole_eq_string_iff.mpr ⟨j, hj, hs⟩]
    · obtain ⟨items, rfl, hjs⟩ := Draft.eq_list_of_tree? hj
      obtain ⟨vs, hitems, hss⟩ := (whole_texts_iff items ss).mpr ⟨js, hjs, hall⟩
      have hwhole : (Draft.list items).whole selectorDepth = .ok (.list vs) :=
        whole_eq_list_iff.mpr ⟨items, rfl, hitems⟩
      rw [readSelectors, hwhole]
      exact require_eq_ok_iff.mpr hss

theorem takesFields_rule : TakesFields RuleFields.mk RuleFields.take ["selector", "selectors"]
    ["declarations"] readSelectors (readList Declaration.decode) := by
  intro a b name d
  simp [RuleFields.take]

theorem reads_rule : Reads Rule.decode IsRule := by
  have hlist : Reads (readList Declaration.decode) (IsListOf IsDeclaration) :=
    reads_list reads_declaration
  intro d r
  cases d with
  | object members =>
      have hfields := readFields_iff takesFields_rule reads_selectors hlist (by decide) members
      simp only [Rule.decode, bind_eq_ok_iff, require_eq_ok_iff, pure, Except.pure, Except.ok.injEq,
        Draft.tree?_object]
      constructor
      · rintro ⟨f, hread, ss, hss, rfl⟩
        obtain ⟨ms, a, b, hms, hnamed, ha, hb, rfl⟩ := (hfields _).mp hread
        obtain rfl : a = some ss := hss
        exact ⟨_, ⟨ms, hms, rfl⟩, .object hnamed ha hb⟩
      · rintro ⟨_, ⟨ms, hms, rfl⟩, hrule⟩
        cases hrule with
        | @object _ ss ds hnamed ha hb =>
            exact ⟨_, (hfields _).mpr ⟨ms, some ss, ds, hms, hnamed, ha, hb, rfl⟩, ss, rfl, rfl⟩
  | list items =>
      simp only [Rule.decode, bind_eq_ok_iff, require_eq_ok_iff, pure, Except.pure, Except.ok.injEq,
        Draft.tree?_list]
      constructor
      · rintro ⟨⟨_, rest⟩, hs, ss, rfl, ⟨o, rest'⟩, hd, ⟨⟩, hend, rfl⟩
        obtain ⟨value, j, rfl, hj, hss⟩ := (readNextField_some reads_selectors).mp hs
        obtain rfl := readEnd_eq_ok_iff.mp hend
        cases o with
        | none =>
            obtain ⟨rfl, -⟩ := readNextField_none.mp hd
            have hjs := Items.trees?_eq_singleton.mpr ⟨value, rfl, hj⟩
            exact ⟨.list [j], ⟨[j], hjs, rfl⟩, .bare hss⟩
        | some ds =>
            obtain ⟨value', k, rfl, hk, hds⟩ := (readNextField_some hlist).mp hd
            have hjs := Items.trees?_eq_pair.mpr ⟨value, value', rfl, hj, hk⟩
            exact ⟨.list [j, k], ⟨[j, k], hjs, rfl⟩, .list hss hds⟩
      · rintro ⟨_, ⟨js, hjs, rfl⟩, hrule⟩
        cases hrule with
        | @bare j ss hss =>
            obtain ⟨value, rfl, hj⟩ := Items.trees?_eq_singleton.mp hjs
            have hfirst := readNextField_item reads_selectors hj hss .close
            exact ⟨(some ss, _), hfirst, ss, rfl, (none, .close), rfl, (), rfl, rfl⟩
        | @list j k ss ds hss hds =>
            obtain ⟨value, value', rfl, hj, hk⟩ := Items.trees?_eq_pair.mp hjs
            have hfirst := readNextField_item reads_selectors hj hss (.item value' .close)
            have hsecond := readNextField_item hlist hk hds .close
            exact ⟨(some ss, _), hfirst, ss, rfl, (some ds, _), hsecond, (), rfl, rfl⟩
  | null | bool | number | string | broken =>
      constructor
      · rintro ⟨⟩
      · rintro ⟨j, ⟨⟩, ⟨⟩⟩

/-- The one field of a sheet; there is no second one. -/
theorem takesFields_sheet : TakesFields (fun rules (_ : Option String) => SheetFields.mk rules)
    SheetFields.take ["rules"] [] (readList Rule.decode) readText := by
  intro a b name d
  simp [SheetFields.take]

/-- The reader of sheets accepts exactly the format. -/
theorem reads_sheet : Reads Sheet.decode IsSheet := by
  have hlist : Reads (readList Rule.decode) (IsListOf IsRule) := reads_list reads_rule
  intro d s
  cases d with
  | object members =>
      have hfields := readFields_iff takesFields_sheet hlist reads_text (by decide) members
      simp only [Sheet.decode, bind_eq_ok_iff, pure, Except.pure, Except.ok.injEq, Draft.tree?_object]
      constructor
      · rintro ⟨f, hread, rfl⟩
        obtain ⟨ms, rs, -, hms, hnamed, hrs, -, rfl⟩ := (hfields _).mp hread
        exact ⟨_, ⟨ms, hms, rfl⟩, .object hnamed hrs⟩
      · rintro ⟨_, ⟨ms, hms, rfl⟩, hsheet⟩
        cases hsheet with
        | @object _ rs hnamed hrs =>
            have hnone : FieldAt [] IsText ms none := by simp [FieldAt, valuesAt]
            exact ⟨_, (hfields _).mpr ⟨ms, rs, none, hms, hnamed, hrs, hnone, rfl⟩, rfl⟩
  | list items =>
      simp only [Sheet.decode, bind_eq_ok_iff, pure, Except.pure, Except.ok.injEq, Draft.tree?_list]
      constructor
      · rintro ⟨⟨o, rest⟩, hrules, ⟨⟩, hend, rfl⟩
        obtain rfl := readEnd_eq_ok_iff.mp hend
        cases o with
        | none =>
            obtain ⟨rfl, -⟩ := readNextField_none.mp hrules
            exact ⟨.list [], ⟨[], rfl, rfl⟩, .bare⟩
        | some rs =>
            obtain ⟨value, j, rfl, hj, hrs⟩ := (readNextField_some hlist).mp hrules
            have hjs := Items.trees?_eq_singleton.mpr ⟨value, rfl, hj⟩
            exact ⟨.list [j], ⟨[j], hjs, rfl⟩, .list hrs⟩
      · rintro ⟨_, ⟨js, hjs, rfl⟩, hsheet⟩
        cases hsheet with
        | bare =>
            obtain rfl := Items.trees?_eq_nil.mp hjs
            exact ⟨(none, .close), rfl, (), rfl, rfl⟩
        | @list j rs hrs =>
            obtain ⟨value, rfl, hj⟩ := Items.trees?_eq_singleton.mp hjs
            have hfirst := readNextField_item hlist hj hrs .close
            exact ⟨(some rs, _), hfirst, (), rfl, rfl⟩
  | null | bool | number | string | broken =>
      constructor
      · rintro ⟨⟩
      · rintro ⟨j, ⟨⟩, ⟨⟩⟩

end ClassLens.Schema
