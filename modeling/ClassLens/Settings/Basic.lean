import ClassLens.Resolve.Options

/-! # Settings of the server

Six categories of settings, their defaults, and the form they are brought into before use: names
trimmed and distinct, numbers within bounds, nothing empty that must not be.

* `Settings`: the settings; `{}` are the defaults.
* `Settings.normalize`: brings settings into that form, which `Settings.Normal` describes.
* `Settings.options`: what a resolver is told of them.

**Main statements.** `Settings.normal_normalize`. -/

namespace ClassLens

open Usage
open Text (trim)

/-- How much is logged. -/
inductive Level where
  | error
  | warn
  | info
  | debug
  | trace
  deriving DecidableEq, Repr

namespace Level

/-- The more is logged, the higher. -/
def rank : Level → Nat
  | error => 0
  | warn => 1
  | info => 2
  | debug => 3
  | trace => 4

/-- Whether informative messages are sent to the editor. -/
def allowsInfo (l : Level) : Bool := info.rank ≤ l.rank

/-- Whether failures are sent to the editor. -/
def allowsWarn (l : Level) : Bool := warn.rank ≤ l.rank

end Level

/-- What is scanned for. -/
structure ScannerSettings where
  bindings : List String := [defaultBinding]
  followImport : Bool := true
  deriving DecidableEq, Repr

/-- When a document is resolved, in milliseconds. -/
structure ResolutionSettings where
  debounce : Nat := 150
  timeout : Nat := 5000
  deriving DecidableEq, Repr

/-- The command that extracts when none is set. -/
def defaultCommand : String := "css-lens-extract"

/-- The program that extracts rules. -/
structure ExtractorSettings where
  command : String := defaultCommand
  args : List String := []
  deriving DecidableEq, Repr

/-- How many stylesheets' rules are kept. -/
structure CacheSettings where
  maxEntries : Nat := 64
  deriving DecidableEq, Repr

/-- What lenses show. -/
structure LensSettings where
  enabled : Bool := true
  showUnmatched : Bool := false
  maxDeclarations : Nat := 3
  deriving DecidableEq, Repr

/-- What is logged. -/
structure LoggingSettings where
  level : Level := .info
  deriving DecidableEq, Repr

/-- The settings of a server. -/
structure Settings where
  scanner : ScannerSettings := {}
  resolution : ResolutionSettings := {}
  extractor : ExtractorSettings := {}
  cache : CacheSettings := {}
  lens : LensSettings := {}
  logging : LoggingSettings := {}
  deriving DecidableEq, Repr

/-! ### Normal form -/

/-- A number moved into bounds. -/
def clamp (low high n : Nat) : Nat :=
  max low (min high n)

/-- A command without white space around it; the default one if nothing is left. -/
def normalCommand (command : String) : String :=
  if trim command = "" then defaultCommand else trim command

/-- Arguments without white space around them and without empty ones. -/
def normalArgs (args : List String) : List String :=
  (args.map trim).filter (· ≠ "")

namespace Settings

/-- Brings settings into normal form. -/
def normalize (s : Settings) : Settings where
  scanner := { s.scanner with bindings := bindingsOf s.scanner.bindings }
  resolution := ⟨min s.resolution.debounce 5000, clamp 100 60000 s.resolution.timeout⟩
  extractor := ⟨normalCommand s.extractor.command, normalArgs s.extractor.args⟩
  cache := ⟨clamp 1 1024 s.cache.maxEntries⟩
  lens := { s.lens with maxDeclarations := clamp 1 20 s.lens.maxDeclarations }
  logging := s.logging

/-- Settings that can be used as they are. -/
structure Normal (s : Settings) : Prop where
  bindings_ne_nil : s.scanner.bindings ≠ []
  bindings_nodup : s.scanner.bindings.Nodup
  bindings_identifier : ∀ b ∈ s.scanner.bindings, isIdentifier b.toList = true
  debounce_le : s.resolution.debounce ≤ 5000
  le_timeout : 100 ≤ s.resolution.timeout
  timeout_le : s.resolution.timeout ≤ 60000
  command_ne : s.extractor.command ≠ ""
  args_ne : ∀ a ∈ s.extractor.args, a ≠ ""
  le_maxEntries : 1 ≤ s.cache.maxEntries
  maxEntries_le : s.cache.maxEntries ≤ 1024
  le_maxDeclarations : 1 ≤ s.lens.maxDeclarations
  maxDeclarations_le : s.lens.maxDeclarations ≤ 20

theorem le_clamp {low high : Nat} (n : Nat) : low ≤ clamp low high n :=
  Nat.le_max_left _ _

theorem clamp_le {low high : Nat} (h : low ≤ high) (n : Nat) : clamp low high n ≤ high :=
  Nat.max_le.mpr ⟨h, Nat.min_le_left _ _⟩

theorem normalCommand_ne (c : String) : normalCommand c ≠ "" := by
  unfold normalCommand
  split
  · decide
  · assumption

/-- What `normalize` makes is normal. -/
theorem normal_normalize (s : Settings) : s.normalize.Normal where
  bindings_ne_nil := bindingsOf_ne_nil _
  bindings_nodup := bindingsOf_nodup _
  bindings_identifier := fun _ h => isIdentifier_of_mem_bindingsOf h
  debounce_le := Nat.min_le_right _ _
  le_timeout := le_clamp _
  timeout_le := clamp_le (by decide) _
  command_ne := normalCommand_ne _
  args_ne := fun a h => by simpa [normalize, normalArgs] using (List.mem_filter.mp h).2
  le_maxEntries := le_clamp _
  maxEntries_le := clamp_le (by decide) _
  le_maxDeclarations := le_clamp _
  maxDeclarations_le := clamp_le (by decide) _

/-- What a resolver is told of the settings. -/
def options (s : Settings) : Options :=
  ⟨s.scanner.bindings, s.scanner.followImport, s.resolution.timeout, s.cache.maxEntries⟩

end Settings

end ClassLens
