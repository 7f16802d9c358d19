import ClassLens.Tool.Blocks
import ClassLens.Tool.Checksum
import ClassLens.Tool.Columns
import ClassLens.Tool.Comparing
import ClassLens.Tool.Compression
import ClassLens.Tool.Dates
import ClassLens.Tool.Dump
import ClassLens.Tool.Edit
import ClassLens.Tool.Encoding
import ClassLens.Tool.Files
import ClassLens.Tool.Finding
import ClassLens.Tool.Launching
import ClassLens.Tool.Layout
import ClassLens.Tool.Listing
import ClassLens.Tool.Matching
import ClassLens.Tool.Pairing
import ClassLens.Tool.Paths
import ClassLens.Tool.Records
import ClassLens.Tool.Scripting
import ClassLens.Tool.Search
import ClassLens.Tool.Sorting
import ClassLens.Tool.Status
import ClassLens.Tool.Translation
import ClassLens.Tool.Values

/-! # The programs by their names

* `Tool.find?`: the program of a name.
* `Tool.names`: the names of all programs, shells among them. -/

namespace ClassLens.Tool

open Shell

/-- Programs that do what they do alone. -/
def plain : List (String × Tool) :=
  [("cat", cat), ("tac", tac), ("rev", rev), ("head", head), ("tail", tail), ("nl", nl), ("tee", tee),
    ("cut", cut), ("paste", paste), ("fold", fold), ("wc", wc), ("tr", tr), ("sort", sort), ("uniq", uniq),
    ("comm", comm), ("join", join), ("diff", diff), ("cmp", cmp), ("grep", grep none),
    ("egrep", grep (some .extended)), ("fgrep", grep (some .plain)), ("base64", base64), ("od", od), ("seq", seq),
    ("expr", expr), ("basename", basename), ("dirname", dirname), ("echo", echo), ("printf", printf),
    ("test", condition), ("[", condition), ("true", fun _ _ => return 0), ("false", fun _ _ => return 1),
    ("yes", yes), ("sleep", sleep), ("date", date), ("sync", fun _ _ => return 0), ("id", idOf),
    ("whoami", always "root"), ("uname", uname), ("arch", always "x86_64"), ("nproc", always "4"), ("pwd", pwd),
    ("printenv", printenv), ("rm", rm), ("unlink", unlink), ("mkdir", mkdir), ("rmdir", rmdir), ("touch", touch),
    ("mktemp", mktemp), ("truncate", truncate), ("cp", cp), ("mv", mv), ("install", install), ("ln", ln),
    ("link", link), ("chmod", chmod), ("chown", chown false), ("chgrp", chown true), ("ls", ls), ("dir", dir),
    ("vdir", vdir), ("stat", stat), ("du", du), ("readlink", readlink), ("realpath", realpath), ("which", which),
    ("which.debianutils", which), ("dd", dd), ("fmt", fmt), ("expand", expand), ("unexpand", unexpand),
    ("cksum", cksum), ("sum", sum), ("base32", base32), ("basenc", basenc),
    ("gzip", gzip), ("gunzip", gunzip), ("uncompress", gunzip), ("zcat", zcat)] ++ checksumTools

/-- Programs that run other ones. -/
def launching (launch : Launch) : List (String × Tool) :=
  [("sed", sed launch), ("env", env launch), ("xargs", xargs launch), ("timeout", timeout launch),
    ("nice", nice launch), ("find", find launch), ("mawk", awk launch), ("perl", perl launch)] ++ wrappers launch

/-- The names of the shells. -/
def shells : List String := ["sh", "dash", "bash"]

/-- Whether a program is a shell. -/
def isShell (name : String) : Bool := shells.contains name

/-- The names of all programs. -/
def names : List String :=
  shells ++ plain.map Prod.fst ++ (launching fun _ => return 0).map Prod.fst

/-- Runs the program of a name. -/
def run (launch : Launch) (name self : String) (args : List String) : Run Nat :=
  match (plain ++ launching launch).find? fun e => e.1 == name with
  | some (_, tool) => tool self args
  | none => return 127

end ClassLens.Tool
