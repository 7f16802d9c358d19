import ClassLens.FileTree
import ClassLens.Settings.Patch
import ClassLens.Toml.Document

/-! # The configuration file

Settings may stand in a file `css-lens.toml`, in a directory or above it.

* `configFile? files start`: the nearest such file; from a file one starts at its directory.
* `Settings.mergeToml?`: merges a TOML text; none if it is not TOML.
* `Settings.mergeConfigFile`: merges the nearest file; one that cannot be read or is not TOML changes
  nothing. -/

namespace ClassLens

/-- The name of the configuration file. -/
def configName : String := "css-lens.toml"

/-- The nearest configuration file in a directory or above it. -/
def configFile? (files : FileTree) (start : Path) : Option Path :=
  let dirs := if files.isFile start then start.parents else start.ancestors
  (dirs.map fun dir => dir.join (.ofString configName)).find? files.isFile

namespace Settings

/-- Merges a TOML text into the settings. -/
def mergeToml? (s : Settings) (text : String) : Option Settings :=
  (Toml.ofString? text).map s.merge

/-- Merges the nearest configuration file into the settings. -/
def mergeConfigFile (s : Settings) (files : FileTree) (start : Path) : Settings :=
  match configFile? files start with
  | none => s
  | some path =>
    match files.read path with
    | .ok text => (s.mergeToml? text).getD s
    | .error _ => s

end Settings

end ClassLens
