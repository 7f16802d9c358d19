import ClassLens.ClassIndex
import ClassLens.Path
import ClassLens.Table

/-! # The cache of extracted rules

A bounded cache with one entry for each stylesheet path, paths being told apart by their
components. An entry answers only for the content that it was made from. When room is needed, the
entry that was used longest ago goes.

* `Cache.get`: the index for a path and a digest; a hit counts as a use.
* `Cache.insert`, `Cache.invalidate`, `Cache.clear`, `Cache.resize`: changes.

**Main statements.** `Cache.size_insert_le` and `Cache.size_resize_le`: the bound is kept. -/

namespace ClassLens

/-- An entry: what its index was made from, and when it was used last. -/
structure CacheEntry where
  digest : UInt64
  index : ClassIndex
  lastUsed : Nat
  deriving Repr

/-- Extracted rules by stylesheet. -/
structure Cache where
  capacity : Nat
  /-- There is room for one entry at least. -/
  one_le_capacity : 1 ≤ capacity
  /-- Number of uses so far. -/
  clock : Nat := 0
  entries : Table (List Component) CacheEntry := .empty
  deriving Repr

namespace Cache

/-- The capacity when none is asked for. -/
def defaultCapacity : Nat := 64

/-- An empty cache; it holds one entry at least. -/
def ofCapacity (capacity : Nat) : Cache :=
  { capacity := max 1 capacity, one_le_capacity := Nat.le_max_left _ _ }

/-- Number of entries. -/
def size (c : Cache) : Nat :=
  c.entries.size

/-- The entry that was used longest ago. -/
def oldest : List (List Component × CacheEntry) → Option (List Component × CacheEntry)
  | [] => none
  | e :: rest =>
    match oldest rest with
    | none => some e
    | some e' => if e.2.lastUsed ≤ e'.2.lastUsed then some e else some e'

/-- Drops the entry that was used longest ago. -/
def dropOldest (c : Cache) : Cache :=
  match oldest c.entries.entries with
  | none => c
  | some (key, _) => { c with entries := c.entries.erase key }

/-- Drops so many entries, always the one that was used longest ago. -/
def drop : Nat → Cache → Cache
  | 0, c => c
  | n + 1, c => drop n c.dropOldest

/-- Drops entries down to a number of them. -/
def shrink (c : Cache) (limit : Nat) : Cache :=
  drop (c.size - limit) c

/-- The index for a path and a digest, and the cache after the look-up. -/
def get (c : Cache) (path : Path) (digest : UInt64) : Option ClassIndex × Cache :=
  match c.entries.get? path.components with
  | none => (none, c)
  | some e =>
    if e.digest = digest then
      let now := c.clock + 1
      (some e.index,
        { c with clock := now, entries := c.entries.insert path.components { e with lastUsed := now } })
    else
      (none, c)

/-- Puts an index under a path. A new path needs room first. -/
def insert (c : Cache) (path : Path) (digest : UInt64) (index : ClassIndex) : Cache :=
  let c := if c.entries.contains path.components then c else c.shrink (c.capacity - 1)
  let now := c.clock + 1
  { c with clock := now, entries := c.entries.insert path.components ⟨digest, index, now⟩ }

/-- Forgets what is known of a path. -/
def invalidate (c : Cache) (path : Path) : Cache :=
  { c with entries := c.entries.erase path.components }

/-- Forgets everything. -/
def clear (c : Cache) : Cache :=
  { c with entries := .empty }

/-- Sets the capacity, at least one. -/
def resize (c : Cache) (capacity : Nat) : Cache :=
  { c with
    capacity := max 1 capacity
    one_le_capacity := Nat.le_max_left _ _ }.shrink (max 1 capacity)

/-! ### The bound -/

theorem oldest_mem {l : List (List Component × CacheEntry)} {e : List Component × CacheEntry}
    (h : oldest l = some e) : e ∈ l := by
  fun_induction oldest l generalizing e with
  | case1 => simp at h
  | case2 e' rest hr _ => simp at h; simp [h]
  | case3 e' rest e'' hr hle _ => simp at h; simp [h]
  | case4 e' rest e'' hr hle ih =>
    simp only [Option.some.injEq] at h
    exact List.mem_cons_of_mem _ (h ▸ ih hr)

theorem oldest_eq_none {l : List (List Component × CacheEntry)} (h : oldest l = none) : l = [] := by
  cases l with
  | nil => rfl
  | cons e rest =>
    unfold oldest at h
    split at h
    · simp at h
    · split at h <;> simp at h

/-- Dropping one entry makes the cache smaller, unless it is empty. -/
theorem size_dropOldest_le (c : Cache) : c.dropOldest.size ≤ c.size - 1 := by
  unfold dropOldest
  split
  · rename_i h
    simp [size, Table.size, oldest_eq_none h]
  · rename_i key e h
    have hm := oldest_mem h
    have : (c.entries.entries.filter fun e => e.1 ≠ key).length < c.entries.entries.length :=
      List.length_filter_lt_length_iff_exists.mpr ⟨_, hm, by simp⟩
    simp only [size, Table.size, Table.erase]
    omega

@[simp] theorem capacity_dropOldest (c : Cache) : c.dropOldest.capacity = c.capacity := by
  unfold dropOldest; split <;> rfl

@[simp] theorem clock_dropOldest (c : Cache) : c.dropOldest.clock = c.clock := by
  unfold dropOldest; split <;> rfl

theorem size_drop_le (n : Nat) (c : Cache) : (drop n c).size ≤ c.size - n := by
  induction n generalizing c with
  | zero => simp [drop]
  | succ n ih =>
    have h₁ := ih c.dropOldest
    have h₂ := size_dropOldest_le c
    rw [drop]
    omega

@[simp] theorem capacity_drop (n : Nat) (c : Cache) : (drop n c).capacity = c.capacity := by
  induction n generalizing c with
  | zero => rfl
  | succ n ih => rw [drop, ih, capacity_dropOldest]

@[simp] theorem clock_drop (n : Nat) (c : Cache) : (drop n c).clock = c.clock := by
  induction n generalizing c with
  | zero => rfl
  | succ n ih => rw [drop, ih, clock_dropOldest]

@[simp] theorem capacity_shrink (c : Cache) (limit : Nat) :
    (c.shrink limit).capacity = c.capacity := capacity_drop _ c

@[simp] theorem clock_shrink (c : Cache) (limit : Nat) : (c.shrink limit).clock = c.clock :=
  clock_drop _ c

theorem size_shrink_le (c : Cache) (limit : Nat) : (c.shrink limit).size ≤ limit := by
  have := size_drop_le (c.size - limit) c
  rw [shrink]
  omega

/-- After an insertion the bound is kept if it was kept before. -/
theorem size_insert_le {c : Cache} (h : c.size ≤ c.capacity) (path : Path) (digest : UInt64)
    (index : ClassIndex) :
    (c.insert path digest index).size ≤ (c.insert path digest index).capacity := by
  by_cases hk : c.entries.contains path.components
  · have hs : (c.insert path digest index).size = c.size := by
      simp only [insert, hk, if_true, size, Table.size_insert]
    have hcap : (c.insert path digest index).capacity = c.capacity := by simp [insert, hk]
    rw [hs, hcap]
    exact h
  · have hs : (c.insert path digest index).size ≤ (c.shrink (c.capacity - 1)).size + 1 := by
      simp only [insert, hk, if_false, size, Table.size_insert, Bool.false_eq_true]
      split <;> omega
    have hcap : (c.insert path digest index).capacity = c.capacity := by simp [insert, hk]
    have := size_shrink_le c (c.capacity - 1)
    have := c.one_le_capacity
    rw [hcap]
    omega

/-- After a change of capacity the bound is kept, whatever it was before. -/
theorem size_resize_le (c : Cache) (capacity : Nat) :
    (c.resize capacity).size ≤ (c.resize capacity).capacity := by
  have h : (c.resize capacity).capacity = max 1 capacity := by simp [resize]
  rw [h]
  exact size_shrink_le _ _

end Cache

end ClassLens
