import ByteAtlas.Directory

/-!
# File trees

A directory with given files in it, and the rules by which its paths are followed. Of what lies around it
nothing is known but that it is made of directories.
-/

namespace ByteAtlas

/-- The files below a directory, each with the segments that lead to it. -/
structure FileTree where
  files : List (List String × Array UInt8)

namespace FileTree

/-- A place in the tree, or one around it. -/
inductive Location
  | inside (segments : List String)
  | outside
deriving DecidableEq, Repr

/-- The most bytes that a segment may have. -/
def longestSegment : Nat := 255

/-- The most bytes that a path may have. -/
def longestPath : Nat := 4095

/-- What is found at a location. Directories are those that lead to files, and the tree itself. -/
def place? (t : FileTree) : Location → Option Place
  | .outside => some .directory
  | .inside segments =>
    match t.files.lookup segments with
    | some data => some (.file data)
    | none =>
      if segments.isEmpty || t.files.any (segments.isPrefixOf ·.1) then some .directory else none

/-- The directory around a location. -/
def Location.parent : Location → Location
  | inside [] | outside => outside
  | inside segments => inside segments.dropLast

/-- What a name means at a location. -/
def Location.child (name : String) : Location → Option Location
  | inside segments => some (inside (segments ++ [name]))
  | outside => none

/-- Follows segments from a location. All but the last have to lead to directories; an empty one or a
single dot stays where it is, but not at a file. -/
def follow (t : FileTree) (here : Location) : List String → Except ReadError Place
  | [] => (t.place? here).elim (.error .notFound) .ok
  | segment :: more =>
    match t.place? here with
    | none => .error .notFound
    | some (.file _) => .error .notDirectory
    | some .directory =>
      if longestSegment < segment.utf8ByteSize then .error .nameTooLong
      else if segment = "" || segment = "." then t.follow here more
      else if segment = ".." then t.follow here.parent more
      else
        match here.child segment with
        | some there => t.follow there more
        | none => .error .notFound

/-- The tree as a directory: paths begin in it unless they begin with a slash. -/
def toDirectory (t : FileTree) : Directory := fun path =>
  if path = "" then .error .notFound
  else if longestPath < path.utf8ByteSize then .error .nameTooLong
  else t.follow (if path.startsWith "/" then .outside else .inside []) (path.splitOn "/")

end FileTree
end ByteAtlas
