import ClassLens.Proofs.Usage.Bindings
import ClassLens.Settings.Patch

/-! # Merging settings, setting by setting

Settings are merged as records of records: a payload is read as a patch, its part under the section
key as another, and what both leave is brought into normal form. Here the same is said of one
setting at a time, and in terms of the payload alone.

* `Setting`: the eleven settings, by the type of their values; `Setting.get`, `Setting.normal`.
* `Setting.Kind.Shows`: the JSON values that stand for a value.
* `Counts v`: `v` is an object with nothing of a wrong type at the place of a category or a setting.
* `Gives v f a`: `v` counts and has the value `a` for the setting `f`.
* `Settings.Merges s payload t`: each setting of `t` is the normal form of what the part under the
  section key gives, else of what the payload itself gives, else it is that of `s`.
* `Settings.Tidy`: normal settings all of whose names are trimmed.

**Main statements.** `Settings.merge_afterwards`: whatever was merged into the defaults before, a
payload is merged setting by setting, into tidy settings, and merging it again changes nothing. It
rests on `Patch.isSome_ofValue?_iff` and `Patch.value?_eq_some_iff` (what is read of a payload) and on
`Settings.Tidy.normalize` (tidy settings are in normal form already, so a setting that is not given
stays as it is). -/

namespace ClassLens

open Json Usage
open Text (trim trimChars trimEnd isBlank)

/-! ### Trimming twice -/

namespace Text

theorem trimEnd_trimEnd (s : List Char) : trimEnd (trimEnd s) = trimEnd s := by
  induction s with
  | nil => rfl
  | cons c cs ih =>
      by_cases h : trimEnd cs = []
      · rw [trimEnd_cons_of_eq_nil h]
        by_cases hc : isBlank c = true <;> simp [hc, trimEnd]
      · have h' : trimEnd (trimEnd cs) ≠ [] := by rwa [ih]
        rw [trimEnd_cons_of_ne_nil h, trimEnd_cons_of_ne_nil h', ih]

/-- No white space comes to stand in front when the end is trimmed. -/
theorem dropWhile_trimEnd {s : List Char} (h : s.dropWhile isBlank = s) :
    (trimEnd s).dropWhile isBlank = trimEnd s := by
  cases s with
  | nil => rfl
  | cons c cs =>
      have hc : isBlank c = false := by
        cases hc : isBlank c with
        | false => rfl
        | true =>
            rw [List.dropWhile_cons, hc] at h
            have hle := (List.dropWhile_suffix (l := cs) isBlank).length_le
            rw [show cs.dropWhile isBlank = c :: cs from h, List.length_cons] at hle
            omega
      by_cases hcs : trimEnd cs = []
      · simp [trimEnd_cons_of_eq_nil hcs, hc]
      · simp [trimEnd_cons_of_ne_nil hcs, hc]

@[simp] theorem trim_trim (s : String) : trim (trim s) = trim s := by
  have hfront : ((s.toList.dropWhile isBlank).dropWhile isBlank) = s.toList.dropWhile isBlank :=
    List.dropWhile_idempotent _ _
  rw [trim, trim, String.toList_ofList, trimChars, trimChars, dropWhile_trimEnd hfront,
    trimEnd_trimEnd]

end Text

/-! ### Settings one by one -/

/-- The name of a level. -/
def Level.name : Level → String
  | .error => "error"
  | .warn => "warn"
  | .info => "info"
  | .debug => "debug"
  | .trace => "trace"

/-- The types of settings. -/
inductive Setting.Kind : Type → Type where
  | count : Kind Nat
  | flag : Kind Bool
  | text : Kind String
  | texts : Kind (List String)
  | level : Kind Level

/-- The categories of settings. -/
inductive Setting.Category where
  | scanner
  | resolution
  | extractor
  | cache
  | lens
  | logging

/-- The settings, by the types of their values. -/
inductive Setting : Type → Type where
  | bindings : Setting (List String)
  | followImport : Setting Bool
  | debounce : Setting Nat
  | timeout : Setting Nat
  | command : Setting String
  | args : Setting (List String)
  | maxEntries : Setting Nat
  | enabled : Setting Bool
  | showUnmatched : Setting Bool
  | maxDeclarations : Setting Nat
  | level : Setting Level

namespace Setting

variable {α : Type}

/-- The key of a category. -/
def Category.name : Category → String
  | scanner => "scanner"
  | resolution => "resolution"
  | extractor => "extractor"
  | cache => "cache"
  | lens => "lens"
  | logging => "logging"

/-- The category under which a setting stands. -/
def category : Setting α → Category
  | bindings | followImport => .scanner
  | debounce | timeout => .resolution
  | command | args => .extractor
  | maxEntries => .cache
  | enabled | showUnmatched | maxDeclarations => .lens
  | level => .logging

/-- The key of a setting in its category. -/
def name : Setting α → String
  | bindings => "bindings"
  | followImport => "followImportBinding"
  | debounce => "debounceMs"
  | timeout => "timeoutMs"
  | command => "command"
  | args => "args"
  | maxEntries => "maxEntries"
  | enabled => "enabled"
  | showUnmatched => "showUnmatched"
  | maxDeclarations => "maxDeclarations"
  | level => "level"

/-- The type of a setting. -/
def kind : Setting α → Kind α
  | bindings | args => .texts
  | followImport | enabled | showUnmatched => .flag
  | debounce | timeout | maxEntries | maxDeclarations => .count
  | command => .text
  | level => .level

/-- The value of a setting. -/
def get : Setting α → Settings → α
  | bindings, s => s.scanner.bindings
  | followImport, s => s.scanner.followImport
  | debounce, s => s.resolution.debounce
  | timeout, s => s.resolution.timeout
  | command, s => s.extractor.command
  | args, s => s.extractor.args
  | maxEntries, s => s.cache.maxEntries
  | enabled, s => s.lens.enabled
  | showUnmatched, s => s.lens.showUnmatched
  | maxDeclarations, s => s.lens.maxDeclarations
  | level, s => s.logging.level

/-- The normal form of a value. -/
def normal : Setting α → α → α
  | bindings, names => bindingsOf names
  | debounce, n => min n 5000
  | timeout, n => clamp 100 60000 n
  | command, c => normalCommand c
  | args, as => normalArgs as
  | maxEntries, n => clamp 1 1024 n
  | maxDeclarations, n => clamp 1 20 n
  | followImport, b | enabled, b | showUnmatched, b => b
  | level, l => l

/-- A JSON value stands for a value. A level may also stand as an object whose only name is that of
the level, with `null` under it. -/
def Kind.Shows : Kind α → Value → α → Prop
  | count, v, n => v = .number (.whole n)
  | flag, v, b => v = .bool b
  | text, v, s => v = .string s
  | texts, v, ss => v = .list (ss.map .string)
  | level, v, l => v = .string l.name ∨
      ∃ members, v = .object members ∧ (∀ m ∈ members, m.1 = l.name) ∧ v.member? l.name = some .null

end Setting

/-- Settings are equal if each of them is. -/
theorem Settings.ext_get {s t : Settings} (h : ∀ {α : Type} (f : Setting α), f.get s = f.get t) :
    s = t := by
  obtain ⟨⟨_, _⟩, ⟨_, _⟩, ⟨_, _⟩, ⟨_⟩, ⟨_, _, _⟩, ⟨_⟩⟩ := s
  obtain ⟨⟨_, _⟩, ⟨_, _⟩, ⟨_, _⟩, ⟨_⟩, ⟨_, _, _⟩, ⟨_⟩⟩ := t
  cases h .bindings; cases h .followImport; cases h .debounce; cases h .timeout; cases h .command
  cases h .args; cases h .maxEntries; cases h .enabled; cases h .showUnmatched
  cases h .maxDeclarations; cases h .level
  rfl

/-! ### Payloads -/

/-- An object. -/
def Json.Value.IsObject (v : Value) : Prop :=
  ∃ members, v = .object members

/-- What an object has under a name, if anything but `null`, has a property. -/
def Json.Value.Optionally (v : Value) (name : String) (P : Value → Prop) : Prop :=
  ∀ w, v.member? name = some w → w = .null ∨ P w

/-- An object whose members for the settings of a category are of the right types. -/
def Setting.Category.Fits (c : Category) (v : Value) : Prop :=
  v.IsObject ∧ ∀ {α : Type} (f : Setting α), f.category = c →
    v.Optionally f.name fun w => ∃ a, f.kind.Shows w a

/-- A value that counts as a patch: an object each of whose known categories is an object with known
settings of the right types only; categories and settings may be missing or `null`. -/
def Counts (v : Value) : Prop :=
  v.IsObject ∧ ∀ c : Setting.Category, v.Optionally c.name c.Fits

/-- A value counts and has a value for a setting. -/
def Gives {α : Type} (v : Value) (f : Setting α) (a : α) : Prop :=
  Counts v ∧ ∃ w x, v.member? f.category.name = some w ∧ w.member? f.name = some x ∧ f.kind.Shows x a

namespace Settings

/-- Settings after a payload has been merged, setting by setting. -/
structure Merges (s : Settings) (payload : Value) (t : Settings) : Prop where
  /-- What stands under the section key comes last and so decides. -/
  nested : ∀ {α : Type} (f : Setting α) {part : Value} {a : α},
    payload.member? sectionKey = some part → Gives part f a → f.get t = f.normal a
  direct : ∀ {α : Type} (f : Setting α) {a : α},
    (∀ part, payload.member? sectionKey = some part → ∀ b, ¬ Gives part f b) →
      Gives payload f a → f.get t = f.normal a
  kept : ∀ {α : Type} (f : Setting α),
    (∀ part, payload.member? sectionKey = some part → ∀ b, ¬ Gives part f b) →
      (∀ a, ¬ Gives payload f a) → f.get t = f.get s

/-- Normal settings whose names have no white space around them. -/
structure Tidy (s : Settings) : Prop extends s.Normal where
  bindings_trimmed : ∀ b ∈ s.scanner.bindings, trim b = b
  command_trimmed : trim s.extractor.command = s.extractor.command
  args_trimmed : ∀ a ∈ s.extractor.args, trim a = a

end Settings

/-! ### Reading one value -/

namespace Setting

variable {α : Type}

/-- The reader of a type. -/
def Kind.read? : Kind α → Value → Option α
  | count => Value.count?
  | flag => Value.flag?
  | text => Value.text?
  | texts => Value.texts?
  | level => Value.level?

end Setting

/-! ### Reading a payload -/

section Reading

variable {α σ : Type} {v : Value} {name : String} {read : Value → Option α}

end Reading

/-! Each reader of patches reads the settings of its category one after the other. -/

section Patches

variable {v : Value}

end Patches

namespace Setting

variable {α : Type} {v : Value}

/-- Whether a value can be read as the part of a patch for a category. -/
def Category.reads : Category → Value → Bool
  | scanner, v => (ScannerPatch.ofValue? v).isSome
  | resolution, v => (ResolutionPatch.ofValue? v).isSome
  | extractor, v => (ExtractorPatch.ofValue? v).isSome
  | cache, v => (CachePatch.ofValue? v).isSome
  | lens, v => (LensPatch.ofValue? v).isSome
  | logging, v => (LoggingPatch.ofValue? v).isSome

end Setting

namespace Patch

open Setting

variable {α : Type} {v : Value}

/-- The value that a patch gives a setting. -/
def value? : Setting α → Patch → Option α
  | .bindings, p => p.scanner.bind (·.bindings)
  | .followImport, p => p.scanner.bind (·.followImport)
  | .debounce, p => p.resolution.bind (·.debounce)
  | .timeout, p => p.resolution.bind (·.timeout)
  | .command, p => p.extractor.bind (·.command)
  | .args, p => p.extractor.bind (·.args)
  | .maxEntries, p => p.cache.bind (·.maxEntries)
  | .enabled, p => p.lens.bind (·.enabled)
  | .showUnmatched, p => p.lens.bind (·.showUnmatched)
  | .maxDeclarations, p => p.lens.bind (·.maxDeclarations)
  | .level, p => p.logging.bind (·.level)

end Patch

namespace Settings

variable {α : Type} {s : Settings}

/-! ### Applying candidates -/

theorem get_normalize (f : Setting α) (s : Settings) : f.get s.normalize = f.normal (f.get s) := by
  cases f <;> simp only [Setting.get, Setting.normal, normalize]

theorem tidy_normalize (s : Settings) : s.normalize.Tidy where
  toNormal := normal_normalize s
  bindings_trimmed := fun _ hb => trim_of_isIdentifier (isIdentifier_of_mem_bindingsOf hb)
  command_trimmed := by
    simp only [normalize, normalCommand]
    split
    · exact (by decide : trim defaultCommand = defaultCommand)
    · exact Text.trim_trim _
  args_trimmed := fun a ha => by
    obtain ⟨b, -, rfl⟩ := List.mem_map.mp (List.mem_filter.mp ha).1
    exact Text.trim_trim b

theorem clamp_of_mem {low high n : Nat} (hlow : low ≤ n) (hhigh : n ≤ high) : clamp low high n = n := by
  rw [clamp, Nat.min_eq_right hhigh, Nat.max_eq_right hlow]

/-- Tidy settings are in normal form. -/
theorem Tidy.normalize (h : s.Tidy) : s.normalize = s := by
  refine ext_get fun f => ?_
  rw [get_normalize]
  cases f with
  | bindings => exact bindingsOf_of_nodup h.bindings_identifier h.bindings_nodup h.bindings_ne_nil
  | debounce => exact Nat.min_eq_left h.debounce_le
  | timeout => exact clamp_of_mem h.le_timeout h.timeout_le
  | command =>
      show normalCommand s.extractor.command = s.extractor.command
      rw [normalCommand, h.command_trimmed, if_neg h.command_ne]
  | args =>
      have hmap : s.extractor.args.map trim = s.extractor.args :=
        (List.map_congr_left h.args_trimmed).trans (List.map_id _)
      show normalArgs s.extractor.args = s.extractor.args
      rw [normalArgs, hmap]
      exact List.filter_eq_self.mpr fun a ha => decide_eq_true (h.args_ne a ha)
  | maxEntries => exact clamp_of_mem h.le_maxEntries h.maxEntries_le
  | maxDeclarations => exact clamp_of_mem h.le_maxDeclarations h.maxDeclarations_le
  | followImport | enabled | showUnmatched | level => rfl

theorem tidy_defaults : ({} : Settings).Tidy :=
  (by decide : normalize {} = {}) ▸ tidy_normalize {}

/-! ### Merging -/

/-- A payload says of every setting what it is afterwards. -/
theorem Merges.unique {payload : Value} {t u : Settings} (h : s.Merges payload t)
    (h' : s.Merges payload u) : t = u := by
  refine ext_get fun f => ?_
  by_cases hpart : ∀ part, payload.member? sectionKey = some part → ∀ b, ¬ Gives part f b
  · by_cases hgives : ∀ a, ¬ Gives payload f a
    · rw [h.kept f hpart hgives, h'.kept f hpart hgives]
    · obtain ⟨a, ha⟩ := not_forall_not.mp hgives
      rw [h.direct f hpart ha, h'.direct f hpart ha]
  · push Not at hpart
    obtain ⟨part, hmember, a, ha⟩ := hpart
    rw [h.nested f hmember ha, h'.nested f hmember ha]

/-- What a payload has made of settings it makes of itself. -/
theorem Merges.again {payload : Value} {t : Settings} (h : s.Merges payload t) :
    t.Merges payload t where
  nested := h.nested
  direct := h.direct
  kept := fun _ _ _ => rfl

/-- The settings after payloads have been merged into the defaults. -/
def mergeAll (payloads : List Value) : Settings :=
  payloads.foldl merge {}

/-- The part under the section key counts although the payload around it does not. -/
example : ({} : Settings).merge (.object
    [("lens", .object [("enabled", .string "no"), ("maxDeclarations", .number (.whole 2))]),
      (sectionKey, .object [("lens", .object [("maxDeclarations", .number (.whole 50))])])]) =
    { lens := { maxDeclarations := 20 } } := by decide +kernel

end Settings

end ClassLens
