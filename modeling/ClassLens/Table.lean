/-! # Tables

A table keeps one value for each of its keys, in the order in which the keys were first put in.

* `get? t k`, `t.contains k`: looking a key up.
* `t.insert k v`: puts a value under a key, in the place of the key's old value if there is one.
* `t.erase k`: takes a key out.

That no key stands twice is part of the type.

**Main statements.** `get?_insert`, `get?_erase`: what the operations do to a look-up;
`keys_insert`, `keys_erase`, `size_insert`: what they do to the keys and their number;
`insert_self`, `erase_of_get?_none`: which ones change nothing; `insert_insert`: the last value stays. -/

namespace ClassLens

/-- Values under distinct keys, in the order in which the keys were first put in. -/
structure Table (κ ν : Type) where
  entries : List (κ × ν) := []
  /-- No key stands twice. -/
  nodup : (entries.map Prod.fst).Nodup := by exact List.nodup_nil
  deriving Repr

namespace Table

variable {κ ν : Type} [DecidableEq κ]

/-- A table without entries. -/
def empty : Table κ ν := {}

instance : Inhabited (Table κ ν) := ⟨empty⟩

/-- Number of entries. -/
def size (t : Table κ ν) : Nat := t.entries.length

/-- The keys, in order. -/
def keys (t : Table κ ν) : List κ := t.entries.map Prod.fst

omit [DecidableEq κ] in
theorem keys_nodup (t : Table κ ν) : t.keys.Nodup := t.nodup

/-- Looks a key up in a list of entries. -/
def lookup (k : κ) : List (κ × ν) → Option ν
  | [] => none
  | (k', v) :: rest => if k' = k then some v else lookup k rest

/-- The value under a key. -/
def get? (t : Table κ ν) (k : κ) : Option ν := lookup k t.entries

/-- Whether there is a value under a key. -/
def contains (t : Table κ ν) (k : κ) : Bool := (t.get? k).isSome

/-! ### Changes -/

/-- Puts a value under a key into a list of entries. -/
def put (k : κ) (v : ν) : List (κ × ν) → List (κ × ν)
  | [] => [(k, v)]
  | (k', v') :: rest => if k' = k then (k', v) :: rest else (k', v') :: put k v rest

theorem map_fst_put (k : κ) (v : ν) (l : List (κ × ν)) :
    (put k v l).map Prod.fst = if k ∈ l.map Prod.fst then l.map Prod.fst else l.map Prod.fst ++ [k] := by
  induction l with
  | nil => simp [put]
  | cons e rest ih =>
    obtain ⟨k₁, v₁⟩ := e
    by_cases h₁ : k₁ = k
    · subst h₁; simp [put]
    · have h₁' : ¬ k = k₁ := fun h => h₁ h.symm
      simp only [put, h₁, if_false, List.map_cons, ih, List.mem_cons, h₁', false_or]
      split <;> simp

theorem nodup_put (k : κ) (v : ν) {l : List (κ × ν)} (h : (l.map Prod.fst).Nodup) :
    ((put k v l).map Prod.fst).Nodup := by
  rw [map_fst_put]
  split
  · exact h
  · rename_i hk
    rw [List.nodup_append]
    refine ⟨h, by simp, ?_⟩
    rintro a ha b hb rfl
    exact hk (List.mem_singleton.mp hb ▸ ha)

/-- Puts a value under a key. -/
def insert (t : Table κ ν) (k : κ) (v : ν) : Table κ ν :=
  ⟨put k v t.entries, nodup_put k v t.nodup⟩

theorem map_fst_filter (k : κ) (l : List (κ × ν)) :
    (l.filter fun e => e.1 ≠ k).map Prod.fst = (l.map Prod.fst).filter (· ≠ k) := by
  rw [List.filter_map]
  rfl

theorem nodup_filter (k : κ) {l : List (κ × ν)} (h : (l.map Prod.fst).Nodup) :
    ((l.filter fun e => e.1 ≠ k).map Prod.fst).Nodup := by
  rw [map_fst_filter]
  exact h.filter _

/-- Takes a key out. -/
def erase (t : Table κ ν) (k : κ) : Table κ ν :=
  ⟨t.entries.filter fun e => e.1 ≠ k, nodup_filter k t.nodup⟩

/-- Replaces the value under a key, where there is one. -/
def modify (t : Table κ ν) (k : κ) (f : ν → ν) : Table κ ν :=
  match t.get? k with
  | some v => t.insert k (f v)
  | none => t

/-! ### Look-ups after the operations -/

@[simp] theorem get?_empty (k : κ) : (empty : Table κ ν).get? k = none := rfl

theorem lookup_put (k k' : κ) (v : ν) (l : List (κ × ν)) :
    lookup k' (put k v l) = if k = k' then some v else lookup k' l := by
  induction l with
  | nil => simp [put, lookup]
  | cons e rest ih =>
    obtain ⟨k₁, v₁⟩ := e
    by_cases h₁ : k₁ = k
    · subst h₁; by_cases h : k₁ = k' <;> simp [put, lookup, h]
    · by_cases h : k = k'
      · subst h; simp [put, lookup, h₁, ih]
      · by_cases h₂ : k₁ = k'
        · subst h₂; simp [put, lookup, h₁, h]
        · simp [put, lookup, h₁, h, h₂, ih]

@[simp] theorem get?_insert (t : Table κ ν) (k k' : κ) (v : ν) :
    (t.insert k v).get? k' = if k = k' then some v else t.get? k' :=
  lookup_put k k' v t.entries

theorem lookup_filter (k k' : κ) (l : List (κ × ν)) :
    lookup k' (l.filter fun e => e.1 ≠ k) = if k = k' then none else lookup k' l := by
  induction l with
  | nil => simp [lookup]
  | cons e rest ih =>
    obtain ⟨k₁, v₁⟩ := e
    by_cases h₁ : k₁ = k
    · subst h₁
      by_cases h : k₁ = k'
      · subst h; simpa using ih
      · simpa [lookup, h] using ih
    · by_cases h : k = k'
      · subst h; simpa [lookup, h₁] using ih
      · by_cases h₂ : k₁ = k'
        · subst h₂; simp [lookup, h₁, h]
        · simpa [lookup, h₁, h, h₂] using ih

@[simp] theorem get?_erase (t : Table κ ν) (k k' : κ) :
    (t.erase k).get? k' = if k = k' then none else t.get? k' :=
  lookup_filter k k' t.entries

/-! ### Keys after the operations -/

theorem keys_insert (t : Table κ ν) (k : κ) (v : ν) :
    (t.insert k v).keys = if k ∈ t.keys then t.keys else t.keys ++ [k] :=
  map_fst_put k v t.entries

theorem length_put (k : κ) (v : ν) (l : List (κ × ν)) :
    (put k v l).length = if (lookup k l).isSome then l.length else l.length + 1 := by
  induction l with
  | nil => rfl
  | cons e rest ih =>
    obtain ⟨k₁, v₁⟩ := e
    by_cases h : k₁ = k
    · simp [put, lookup, h]
    · simp only [put, lookup, h, if_false, List.length_cons, ih]
      split <;> rfl

theorem size_insert (t : Table κ ν) (k : κ) (v : ν) :
    (t.insert k v).size = if t.contains k then t.size else t.size + 1 :=
  length_put k v t.entries

theorem keys_erase (t : Table κ ν) (k : κ) : (t.erase k).keys = t.keys.filter (· ≠ k) :=
  map_fst_filter k t.entries

theorem mem_map_fst_iff (k : κ) (l : List (κ × ν)) :
    k ∈ l.map Prod.fst ↔ (lookup k l).isSome = true := by
  induction l with
  | nil => simp [lookup]
  | cons e rest ih =>
    obtain ⟨k₁, v₁⟩ := e
    by_cases h : k₁ = k
    · subst h; simp [lookup]
    · have h' : ¬ k = k₁ := fun h₁ => h h₁.symm
      simp only [List.map_cons, List.mem_cons, h', false_or, ih, lookup, h, if_false]

theorem mem_keys_iff (t : Table κ ν) (k : κ) : k ∈ t.keys ↔ (t.get? k).isSome = true :=
  mem_map_fst_iff k t.entries

/-! ### Entries -/

omit [DecidableEq κ] in
theorem ext {t t' : Table κ ν} (h : t.entries = t'.entries) : t = t' := by
  cases t
  cases t'
  cases h
  rfl

theorem put_self {k : κ} {v : ν} {l : List (κ × ν)} (h : lookup k l = some v) : put k v l = l := by
  induction l with
  | nil => cases h
  | cons e rest ih =>
      obtain ⟨k₁, v₁⟩ := e
      by_cases hk : k₁ = k
      · simp only [lookup, hk, if_true, Option.some.injEq] at h
        simp [put, hk, h]
      · simp only [lookup, hk, if_false] at h
        simp [put, hk, ih h]

theorem put_put (k : κ) (v w : ν) (l : List (κ × ν)) : put k w (put k v l) = put k w l := by
  induction l with
  | nil => simp [put]
  | cons e rest ih =>
      obtain ⟨k₁, v₁⟩ := e
      by_cases hk : k₁ = k <;> simp [put, hk, ih]

theorem mem_of_lookup {k : κ} {v : ν} {l : List (κ × ν)} (h : lookup k l = some v) : (k, v) ∈ l := by
  induction l with
  | nil => cases h
  | cons e rest ih =>
      obtain ⟨k₁, v₁⟩ := e
      by_cases hk : k₁ = k
      · simp only [lookup, hk, if_true, Option.some.injEq] at h
        rw [hk, h]
        exact List.mem_cons_self
      · simp only [lookup, hk, if_false] at h
        exact List.mem_cons_of_mem _ (ih h)

theorem lookup_of_mem {k : κ} {v : ν} {l : List (κ × ν)} (hnodup : (l.map Prod.fst).Nodup)
    (h : (k, v) ∈ l) : lookup k l = some v := by
  induction l with
  | nil => cases h
  | cons e rest ih =>
      obtain ⟨k₁, v₁⟩ := e
      rw [List.map_cons, List.nodup_cons] at hnodup
      rcases List.mem_cons.mp h with heq | hmem
      · rw [Prod.mk.injEq] at heq
        simp [lookup, heq.1, heq.2]
      · have hk : k₁ ≠ k := by
          rintro rfl
          exact hnodup.1 (List.mem_map.mpr ⟨(k₁, v), hmem, rfl⟩)
        simp only [lookup, hk, if_false]
        exact ih hnodup.2 hmem

/-- What is put under a key stands beside the entries of the other keys. -/
theorem perm_put {k : κ} {v : ν} {l : List (κ × ν)} (hnodup : (l.map Prod.fst).Nodup) :
    (put k v l).Perm ((k, v) :: l.filter fun e => e.1 ≠ k) := by
  induction l with
  | nil => exact .refl _
  | cons e rest ih =>
      obtain ⟨k₁, v₁⟩ := e
      rw [List.map_cons, List.nodup_cons] at hnodup
      by_cases hk : k₁ = k
      · subst hk
        have hrest : (rest.filter fun e => e.1 ≠ k₁) = rest :=
          List.filter_eq_self.mpr fun e he => decide_eq_true fun heq =>
            hnodup.1 (List.mem_map.mpr ⟨e, he, heq⟩)
        rw [put, if_pos rfl, List.filter_cons_of_neg (by simp), hrest]
      · rw [put, if_neg hk, List.filter_cons_of_pos (by simpa using hk)]
        exact ((ih hnodup.2).cons _).trans (.swap _ _ _)

/-- Nothing is found in a table without entries. -/
theorem get?_of_size_zero {t : Table κ ν} (h : t.size = 0) (k : κ) : t.get? k = none := by
  rw [get?, List.eq_nil_of_length_eq_zero h]
  rfl

/-- A value that is there already may be put in again. -/
theorem insert_self {t : Table κ ν} {k : κ} {v : ν} (h : t.get? k = some v) : t.insert k v = t := by
  have hput := put_self h
  unfold insert
  simp only [hput]

/-- Of two values that are put under one key, the later one stays. -/
theorem insert_insert (t : Table κ ν) (k : κ) (v w : ν) :
    (t.insert k v).insert k w = t.insert k w :=
  ext (put_put k v w t.entries)

theorem modify_insert (t : Table κ ν) (k : κ) (v : ν) (f : ν → ν) :
    (t.insert k v).modify k f = t.insert k (f v) := by
  rw [modify, get?_insert, if_pos rfl]
  exact insert_insert t k v (f v)

theorem filter_of_lookup_none {k : κ} {l : List (κ × ν)} (h : lookup k l = none) :
    (l.filter fun e => e.1 ≠ k) = l := by
  induction l with
  | nil => rfl
  | cons e rest ih =>
      obtain ⟨k₁, v₁⟩ := e
      by_cases hk : k₁ = k
      · simp [lookup, hk] at h
      · simp only [lookup, hk, if_false] at h
        simpa [hk] using ih h

/-- A key that is not there may be taken out. -/
theorem erase_of_get?_none {t : Table κ ν} {k : κ} (h : t.get? k = none) : t.erase k = t := by
  have hfilter := filter_of_lookup_none h
  unfold erase
  simp only [hfilter]

end Table

end ClassLens
