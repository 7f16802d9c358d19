import ClassLens.Json.Draft
import ClassLens.Settings.Basic

/-! # Merging settings

A patch is a JSON object that gives some settings new values. It counts only as a whole: with one
known setting of the wrong type it gives none. Names that are no settings are passed over, and
`null` says nothing.

* `Patch.ofValue?`: the patch that a value is, if it counts.
* `Settings.apply`: the settings with the values that a patch gives.
* `Settings.merge`: applies a payload, then its part under `css-lens`, and brings the result into
  normal form.

**Main statements.** `Settings.normal_merge`: merging makes normal settings. -/

namespace ClassLens

open Json

/-! ### Values of settings -/

/-- A string. -/
def Json.Value.text? : Value → Option String
  | .string s => some s
  | _ => none

/-- A truth value. -/
def Json.Value.flag? : Value → Option Bool
  | .bool b => some b
  | _ => none

/-- A whole number that is not negative. -/
def Json.Value.count? : Value → Option Nat
  | .number (.whole n) => if 0 ≤ n then some n.toNat else none
  | _ => none

/-- A list of strings. -/
def Json.Value.texts? : Value → Option (List String)
  | .list vs => vs.mapM Value.text?
  | _ => none

/-- The level of a name. -/
def Level.ofName? : String → Option Level
  | "error" => some .error
  | "warn" => some .warn
  | "info" => some .info
  | "debug" => some .debug
  | "trace" => some .trace
  | _ => none

/-- The distinct names of an object's members. -/
def memberNames (members : List (String × Value)) : List String :=
  (members.map Prod.fst).foldl Usage.addNew []

/-- A level: its name, or an object whose one member is `null` under that name. -/
def Json.Value.level? : Value → Option Level
  | .string s => Level.ofName? s
  | .object members =>
    match memberNames members with
    | [name] =>
      match (Value.object members).member? name with
      | some .null => Level.ofName? name
      | _ => none
    | _ => none
  | _ => none

/-- What an object gives under a name: nothing if the member is missing or `null`; the whole fails
if the member is of another kind. -/
def given {α : Type} (v : Value) (name : String) (read : Value → Option α) : Option (Option α) :=
  match v.member? name with
  | none | some .null => some none
  | some w => (read w).map some

/-- An object as such. -/
def Json.Value.object? : Value → Option Value
  | .object members => some (.object members)
  | _ => none

/-! ### Patches -/

/-- New values for some of the scanner's settings. -/
structure ScannerPatch where
  bindings : Option (List String) := none
  followImport : Option Bool := none
  deriving Repr

/-- New values for some of the times. -/
structure ResolutionPatch where
  debounce : Option Nat := none
  timeout : Option Nat := none
  deriving Repr

/-- New values for some of the extractor's settings. -/
structure ExtractorPatch where
  command : Option String := none
  args : Option (List String) := none
  deriving Repr

/-- A new value for the size of the cache. -/
structure CachePatch where
  maxEntries : Option Nat := none
  deriving Repr

/-- New values for some of the lenses' settings. -/
structure LensPatch where
  enabled : Option Bool := none
  showUnmatched : Option Bool := none
  maxDeclarations : Option Nat := none
  deriving Repr

/-- A new level. -/
structure LoggingPatch where
  level : Option Level := none
  deriving Repr

/-- New values for some of the settings, by category. -/
structure Patch where
  scanner : Option ScannerPatch := none
  resolution : Option ResolutionPatch := none
  extractor : Option ExtractorPatch := none
  cache : Option CachePatch := none
  lens : Option LensPatch := none
  logging : Option LoggingPatch := none
  deriving Repr

def ScannerPatch.ofValue? (v : Value) : Option ScannerPatch := do
  let v ← Value.object? v
  return ⟨← given v "bindings" Value.texts?, ← given v "followImportBinding" Value.flag?⟩

def ResolutionPatch.ofValue? (v : Value) : Option ResolutionPatch := do
  let v ← Value.object? v
  return ⟨← given v "debounceMs" Value.count?, ← given v "timeoutMs" Value.count?⟩

def ExtractorPatch.ofValue? (v : Value) : Option ExtractorPatch := do
  let v ← Value.object? v
  return ⟨← given v "command" Value.text?, ← given v "args" Value.texts?⟩

def CachePatch.ofValue? (v : Value) : Option CachePatch := do
  let v ← Value.object? v
  return ⟨← given v "maxEntries" Value.count?⟩

def LensPatch.ofValue? (v : Value) : Option LensPatch := do
  let v ← Value.object? v
  return ⟨← given v "enabled" Value.flag?, ← given v "showUnmatched" Value.flag?,
    ← given v "maxDeclarations" Value.count?⟩

def LoggingPatch.ofValue? (v : Value) : Option LoggingPatch := do
  let v ← Value.object? v
  return ⟨← given v "level" Value.level?⟩

/-- The patch that a value is; none if it is no object or one known setting is of the wrong
type. -/
def Patch.ofValue? (v : Value) : Option Patch := do
  let v ← Value.object? v
  return ⟨← given v "scanner" ScannerPatch.ofValue?, ← given v "resolution" ResolutionPatch.ofValue?,
    ← given v "extractor" ExtractorPatch.ofValue?, ← given v "cache" CachePatch.ofValue?,
    ← given v "lens" LensPatch.ofValue?, ← given v "logging" LoggingPatch.ofValue?⟩

/-! ### Applying patches -/

def ScannerSettings.apply (s : ScannerSettings) (p : ScannerPatch) : ScannerSettings :=
  ⟨p.bindings.getD s.bindings, p.followImport.getD s.followImport⟩

def ResolutionSettings.apply (s : ResolutionSettings) (p : ResolutionPatch) : ResolutionSettings :=
  ⟨p.debounce.getD s.debounce, p.timeout.getD s.timeout⟩

def ExtractorSettings.apply (s : ExtractorSettings) (p : ExtractorPatch) : ExtractorSettings :=
  ⟨p.command.getD s.command, p.args.getD s.args⟩

def CacheSettings.apply (s : CacheSettings) (p : CachePatch) : CacheSettings :=
  ⟨p.maxEntries.getD s.maxEntries⟩

def LensSettings.apply (s : LensSettings) (p : LensPatch) : LensSettings :=
  ⟨p.enabled.getD s.enabled, p.showUnmatched.getD s.showUnmatched,
    p.maxDeclarations.getD s.maxDeclarations⟩

def LoggingSettings.apply (s : LoggingSettings) (p : LoggingPatch) : LoggingSettings :=
  ⟨p.level.getD s.level⟩

namespace Settings

/-- The settings with the values that a patch gives. -/
def apply (s : Settings) (p : Patch) : Settings :=
  ⟨(p.scanner.map s.scanner.apply).getD s.scanner,
    (p.resolution.map s.resolution.apply).getD s.resolution,
    (p.extractor.map s.extractor.apply).getD s.extractor,
    (p.cache.map s.cache.apply).getD s.cache,
    (p.lens.map s.lens.apply).getD s.lens,
    (p.logging.map s.logging.apply).getD s.logging⟩

/-- The settings with the values of a candidate, if it is a patch. -/
def applyCandidate (s : Settings) (v : Value) : Settings :=
  match Patch.ofValue? v with
  | some p => s.apply p
  | none => s

/-- The key under which a payload may hold the settings. -/
def sectionKey : String := "css-lens"

/-- The values that a payload offers as patches: itself, and its part under the section key. -/
def candidates (payload : Value) : List Value :=
  payload :: (payload.member? sectionKey).toList

/-- Merges a payload into the settings. -/
def merge (s : Settings) (payload : Value) : Settings :=
  ((candidates payload).foldl applyCandidate s).normalize

/-- Merging makes normal settings. -/
theorem normal_merge (s : Settings) (payload : Value) : (s.merge payload).Normal :=
  normal_normalize _

end Settings

end ClassLens
