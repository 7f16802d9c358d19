import ClassLens.FileTree

/-! # Where an import leads

The module source of an import, read as a path from the document that imports it.

* `importTarget document specifier roots`: what an import asks for. A source that starts with `./` or
  `../` is read from the document's directory and an absolute one from the root; any other one may be
  in the `node_modules` of the directories above the document and then of the given roots.
* `locateImport files document specifier roots`: the file that an import names. Only in a
  `node_modules` must there be such a file.
* `importPlaces document specifier roots`: all files that it may name. -/

namespace ClassLens

/-- A specifier without its query or fragment. -/
def stripQuery (specifier : String) : List Char :=
  specifier.toList.takeWhile fun c => c != '?' && c != '#'

/-- Whether a source is read from the document's directory. -/
def isRelative (source : List Char) : Bool :=
  "./".toList.isPrefixOf source || "../".toList.isPrefixOf source

/-- Where a package's file would be, in a directory. -/
def packagePath (dir source : Path) : Path :=
  (dir.join (.ofString "node_modules")).join source

/-- What an import asks for. -/
inductive ImportTarget where
  /-- Nothing: the source is empty, or there is no directory that it could be read from. -/
  | nowhere
  /-- One path, whether there is such a file or not. -/
  | path (path : Path)
  /-- The first of some paths that is a file. -/
  | package (candidates : List Path)
  deriving DecidableEq, Repr

/-- What the import of a source in a document asks for. -/
def importTarget (document : Path) (specifier : String) (roots : List Path) : ImportTarget :=
  let source := stripQuery specifier
  let path := Path.ofString (String.ofList source)
  if source = [] then .nowhere
  else if isRelative source then
    match document.parent? with
    | some dir => .path (dir.join path)
    | none => .nowhere
  else if path.isAbsolute then .path path
  else .package ((document.parents ++ roots).map fun dir => packagePath dir path)

/-- The files that an import may name. -/
def importPlaces (document : Path) (specifier : String) (roots : List Path) : List Path :=
  match importTarget document specifier roots with
  | .nowhere => []
  | .path p => [p.normalize]
  | .package candidates => candidates

/-- The file that an import names. -/
def locateImport (files : FileTree) (document : Path) (specifier : String) (roots : List Path) :
    Option Path :=
  match importTarget document specifier roots with
  | .nowhere => none
  | .path p => some p.normalize
  | .package candidates => (candidates.find? files.isFile).map Path.normalize

end ClassLens
