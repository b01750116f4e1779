import ByteAtlas.BuiltIn
import ByteAtlas.Directory
import ByteAtlas.Dump

/-!
# The viewer

The command line prints the spans of a file. Here is all of it but for the access to files: from arguments
and a directory to what is printed.
-/

namespace ByteAtlas

/-- What a run of the command line leaves: its exit code, and the texts it prints. -/
structure Outcome where
  code : Nat
  out : String
  err : String
deriving DecidableEq, Repr

namespace Viewer

/-- How the command line is used. -/
def usage : String := "usage: dump_spans [OPTIONS] FILE [DESC.hfmt ...]"

/-- What the arguments ask for. -/
structure Options where
  preview : Bool
  list : Bool
  format : Option String
  seek : Option Nat
  limit : Nat
  files : List String
deriving DecidableEq, Repr

/-- Whether any of some flags is among the arguments, and the arguments without the first such. -/
def takeFlag (flags args : List String) : Bool × List String :=
  (args.any flags.contains, args.eraseP flags.contains)

/-- The value of an option, if the option is among the arguments, and the arguments without the first
such. -/
def takeValue (option : String) (args : List String) : Option String × List String :=
  ((args.find? (·.startsWith option)).map fun arg => String.ofList (arg.toList.drop option.length),
    args.eraseP (·.startsWith option))

/-- A number within sixty-four bits. -/
def inRange (n : Nat) : Option Nat := if n ≤ maxOffset then some n else none

/-- A number in base ten. -/
def number? (text : String) : Option Nat :=
  (Text.readSigned? 10 Text.decimalValue? text.toList).bind inRange

/-- A number in base ten, or in base sixteen after `0x`. -/
def offset? (text : String) : Option Nat :=
  match text.toList with
  | '0' :: 'x' :: digits | '0' :: 'X' :: digits =>
    (Text.readSigned? 16 Text.hexValue? digits).bind inRange
  | _ => number? text

/-- The value of an option that is read as a number, with a complaint if it is none. -/
def readOption (read? : String → Option Nat) (complaint : String) :
    Option String → Except String (Option Nat)
  | none => .ok none
  | some text =>
    match read? text with
    | some n => .ok (some n)
    | none => .error (complaint ++ text)

/-- What arguments ask for, or a complaint about them. -/
def Options.ofArgs (args : List String) : Except String Options := do
  let (preview, args) := takeFlag ["--hex", "-x"] args
  let (list, args) := takeFlag ["--list"] args
  let (format, args) := takeValue "--format=" args
  let (seekText, args) := takeValue "--seek=" args
  let seek ← readOption offset? "bad --seek offset: " seekText
  let (limitText, args) := takeValue "--limit=" args
  let limit ← readOption number? "bad --limit: " limitText
  .ok ⟨preview, list, format, seek, limit.getD 256, args⟩

/-- Loads description files in order. -/
def loadFiles (d : Directory) : Registry → List String → Except String Registry
  | registry, [] => .ok registry
  | registry, path :: more => do
    let text ← (d.readText path).mapError (·.message)
    let (_, loaded) ← (registry.load text).mapError fun cause => path ++ ": " ++ cause.message
    loadFiles d loaded more

/-- What a listing of spans leaves: the texts of the spans, what is said about its end, and the cache. -/
structure Listing where
  texts : List String
  remark : String
  cache : Cache

/-- The offset after the last span seen so far. -/
def reached (c : Cache) : Nat := c.spans.back?.elim 0 (·.last + 1)

/-- Lists up to `limit` spans from where a cache stands. An error ends the listing with a remark. -/
def listing (source : Source) (preview : Option Source) (c : Cache) : Nat → Listing
  | 0 => ⟨[], "", c⟩
  | limit + 1 =>
    match c.next source with
    | (.ok (some span), moved) =>
      let more := listing source preview moved limit
      { more with texts := span.dump preview :: more.texts }
    | (.ok none, moved) => ⟨[], "", moved⟩
    | (.error cause, moved) =>
      let remark :=
        "stopped at " ++ Text.hexNumber 1 (reached moved) ++ ": " ++ cause.message ++ "\n"
      ⟨[], remark, moved⟩

/-- What is said when the limit was reached before the end. -/
def limitRemark (limit : Nat) : String :=
  "(stopped after " ++ toString limit ++ " spans; use --limit=N for more)\n"

/-- The listing after some spans have been given already. -/
def listFrom (source : Source) (preview : Option Source) (limit : Nat) (given : List String)
    (c : Cache) : List String × String :=
  let rest := listing source preview c (limit - given.length)
  let texts := given ++ rest.texts
  let remark :=
    if texts.length = limit && !rest.cache.isExhausted then limitRemark limit else ""
  (texts, rest.remark ++ remark)

/-- The complaint about an error, with its cause in a paragraph of its own if there is one. -/
def complaint : Error → String
  | .io cause => (Error.io cause).message ++ "\n\nCaused by:\n    " ++ cause.message
  | cause => cause.message

/-- The spans of a source from the start, or from the one that covers an offset. -/
def view (options : Options) (source : Source) (preview : Option Source) (c : Cache) :
    Except String (List String × String) :=
  match options.seek with
  | none => .ok (listFrom source preview options.limit [] c)
  | some offset =>
    match c.seekTo source offset with
    | (.ok (some span), moved) => .ok (listFrom source preview options.limit [span.dump preview] moved)
    | (.ok none, _) => .ok ([], "no span covers offset " ++ Text.hexNumber 1 offset ++ "\n")
    | (.error cause, _) => .error (complaint cause)

/-- A run that fails after it has printed something. -/
def failure (said : String) (text : String) : Outcome := ⟨1, "", said ++ "Error: " ++ text ++ "\n"⟩

/-- Views the file at a path. -/
def viewFile (d : Directory) (options : Options) (registry : Registry) (path : String) : Outcome :=
  match d.open? path with
  | .error cause => failure "" cause.message
  | .ok source =>
    let name := options.format.getD (registry.guess source)
    let said := path ++ ": format " ++ name ++ "\n"
    let preview := if options.preview then some source else none
    match registry.activate name with
    | .error cause => failure said (complaint cause)
    | .ok cache =>
      match view options source preview cache with
      | .error text => failure said text
      | .ok (texts, remark) => ⟨0, String.join texts, said ++ remark⟩

/-- Runs the command line. -/
def run (d : Directory) (args : List String) : Outcome :=
  match Options.ofArgs args with
  | .error text => failure "" text
  | .ok options =>
    match BuiltIn.load with
    | .error text => failure "" text
    | .ok builtIn =>
      match loadFiles d builtIn options.files.tail with
      | .error text => failure "" text
      | .ok registry =>
        if options.list then ⟨0, String.join (registry.names.map (· ++ "\n")), ""⟩
        else
          match options.files with
          | [] => failure "" usage
          | path :: _ => viewFile d options registry path

end Viewer
end ByteAtlas
