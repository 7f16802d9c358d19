import ClassLens.Path

/-! # URIs

A URI is a text in normal form, so that two URIs are the same if their texts are.

* `Uri.path`: the part between the authority and the query or fragment, percent-encoded.
* `Uri.shortName`: what follows the last slash of the path.
* `Uri.extension?`: what follows the last full stop of that.
* `Uri.filePath?`: the file that a URI names, whatever its scheme. -/

namespace ClassLens

open Text (splitOn)

/-- A URI. -/
structure Uri where
  text : String
  deriving DecidableEq, Repr

namespace Uri

/-- The scheme, and what follows the colon after it. -/
def splitScheme (u : Uri) : List Char × List Char :=
  let chars := u.text.toList
  (chars.takeWhile (· != ':'), (chars.dropWhile (· != ':')).tail)

/-- The part of a text before its query or fragment. -/
def beforeQuery (s : List Char) : List Char :=
  s.takeWhile fun c => c != '?' && c != '#'

/-- The authority, if there is one, and the path. -/
def authorityAndPath (u : Uri) : Option (List Char) × List Char :=
  match beforeQuery u.splitScheme.2 with
  | '/' :: '/' :: rest => (some (rest.takeWhile (· != '/')), rest.dropWhile (· != '/'))
  | rest => (none, rest)

/-- The path, percent-encoded. -/
def path (u : Uri) : List Char :=
  u.authorityAndPath.2

/-- The pieces of the path between its slashes. -/
def segments (u : Uri) : List (List Char) :=
  splitOn '/' u.path

/-- What follows the last slash of the path. -/
def shortName (u : Uri) : String :=
  String.ofList (u.segments.getLast?.getD [])

/-- What follows the last full stop after the last slash of the path. -/
def extension? (u : Uri) : Option String :=
  match splitOn '.' (u.segments.getLast?.getD []) with
  | [_] => none
  | parts => parts.getLast?.map String.ofList

/-! ### File paths -/

/-- The value of a hexadecimal digit. -/
def percentDigit? (b : UInt8) : Option UInt8 :=
  if 0x30 ≤ b ∧ b ≤ 0x39 then some (b - 0x30)
  else if 0x41 ≤ b ∧ b ≤ 0x46 then some (b - 0x41 + 10)
  else if 0x61 ≤ b ∧ b ≤ 0x66 then some (b - 0x61 + 10)
  else none

/-- The bytes of a percent-encoded text; a percent sign without two digits stands for itself. -/
def percentDecode : List UInt8 → List UInt8
  | [] => []
  | b :: bs =>
    if b = 0x25 then
      match bs with
      | h :: l :: rest =>
        match percentDigit? h, percentDigit? l with
        | some h, some l => (h * 16 + l) :: percentDecode rest
        | _, _ => b :: percentDecode (h :: l :: rest)
      | rest => b :: percentDecode rest
    else
      b :: percentDecode bs

/-- Whether a path ends in a drive letter, after which a slash is written. -/
def endsInDrive (bs : List UInt8) : Bool :=
  match bs.reverse with
  | mark :: letter :: _ :: _ =>
    (mark == 0x3A || mark == 0x7C) &&
      ((0x41 ≤ letter && letter ≤ 0x5A) || (0x61 ≤ letter && letter ≤ 0x7A))
  | _ => false

/-- The host of an authority: what stands between the user before it and the port after it. -/
def hostOf (authority : List Char) : List Char :=
  ((splitOn '@' authority).getLast?.getD []).takeWhile (· != ':')

/-- Whether an authority names the machine itself: by no host or by its own name. -/
def isOwnHost (authority : List Char) : Bool :=
  hostOf authority == [] || hostOf authority == "localhost".toList

/-- The file that a URI names: the scheme does not matter, a host of its own does, and the path must
start at the root. -/
def filePath? (u : Uri) : Option Path :=
  match u.authorityAndPath with
  | (authority, '/' :: rest) =>
    if authority.all isOwnHost then
      let bytes := percentDecode (bytesOf (String.ofList ('/' :: rest)))
      some ⟨if endsInDrive bytes then bytes ++ [Path.slash] else bytes⟩
    else none
  | _ => none

end Uri

end ClassLens
