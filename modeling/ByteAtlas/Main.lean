import ByteAtlas.Viewer

/-!
# The command line

Looks up every path that the arguments mention, and prints what the viewer says.
-/

namespace ByteAtlas

/-- The number and the text of a failure of the operating system, where they are known. -/
def osFailure : IO.Error → UInt32 × String
  | .noFileOrDirectory _ code text | .permissionDenied _ code text | .invalidArgument _ code text
  | .inappropriateType _ code text | .resourceExhausted _ code text => (code, text)
  | .noSuchThing _ code text => (code, text)
  | e => (0, toString e)

/-- Why a path cannot be opened or read. -/
def ReadError.ofOs (failure : UInt32 × String) : ReadError :=
  match failure with
  | (2, _) => .notFound
  | (20, _) => .notDirectory
  | (36, _) => .nameTooLong
  | (0, text) => .device text
  | (code, text) => .device (text ++ " (os error " ++ toString code ++ ")")

/-- What a path leads to. -/
def Place.find (path : String) : IO (Except ReadError Place) := do
  try
    let data ← IO.FS.readBinFile path
    return .ok (.file data.data)
  catch e =>
    match osFailure e with
    | (21, _) => return .ok .directory
    | failure => return .error (.ofOs failure)

end ByteAtlas

open ByteAtlas in
/-- Runs the viewer on the files of the file system. -/
def main (args : List String) : IO UInt32 := do
  let found ← args.mapM fun path => do return (path, ← Place.find path)
  let outcome := Viewer.run (fun path => (found.lookup path).getD (.error .notFound)) args
  IO.print outcome.out
  IO.eprint outcome.err
  return outcome.code.toUInt32
