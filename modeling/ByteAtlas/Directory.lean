import ByteAtlas.Source
import ByteAtlas.Text.Utf8

/-!
# Directories

A directory tells what its paths lead to, as far as opening and reading files goes.
-/

namespace ByteAtlas

/-- What a path leads to. -/
inductive Place
  | directory
  | file (data : Array UInt8)
deriving DecidableEq, Repr

/-- What every path leads to, or why it leads nowhere. -/
abbrev Directory := String → Except ReadError Place

/-- The last segment of a path, unless it leads upwards. Empty segments and single dots do not count. -/
def fileName? (path : String) : Option String :=
  ((path.splitOn "/").filter fun segment => segment != "" && segment != ".").getLast?.filter (· != "..")

namespace Directory

/-- Opens a path for reads. -/
def open? (d : Directory) (path : String) : Except ReadError Source :=
  (d path).map fun
    | .directory => .ofDirectory (fileName? path)
    | .file data => .ofFile (fileName? path) data

/-- The whole text of a file. -/
def readText (d : Directory) (path : String) : Except ReadError String := do
  match ← d path with
  | .directory => .error .isDirectory
  | .file data => (Text.Utf8.decode? data.toList).elim (.error .notText) .ok

end Directory
end ByteAtlas
