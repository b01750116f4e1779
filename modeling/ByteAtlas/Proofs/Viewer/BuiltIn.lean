import ByteAtlas.Proofs.Registry.Loading
import ByteAtlas.Viewer

/-!
# The built-in formats of a run

Every run reads the texts of the built-in formats first. They are the texts of the definitions that are given here as
trees, and none of them is refused (`load_eq`), so that no run fails because of them. The description files of a run
only add to them (`loadFiles_extends`): a list of all names begins with theirs (`run_list`).
-/

namespace ByteAtlas
namespace BuiltIn

open Description

/-- A field of some bytes. -/
def bytes (name : String) (count : Nat) (color : Color) : ReadItem := .bytes name (.number count) color

/-- A field of four bytes, the most significant first. -/
def number (name : String) (color : Color) : ReadItem :=
  .scalar ⟨.unsigned .four, .big⟩ name color none

/-- A definition of items side by side that is known by nothing. -/
def part (name : String) (items : List ReadItem) : Definition := ⟨name, .none, .ofItems items⟩

/-- Formats that are embedded once, named by their numbers. -/
def numbered (name : String) (target : String) (numbers : List Nat) : List ReadItem :=
  numbers.map fun n => .embed (some (name ++ toString n)) .once target

/-- A key slot of a LUKS header. -/
def luksKeySlot : Definition :=
  part "luks_key_slot" [
    number "State" .green,
    number "Iterations" .orange,
    bytes "Salt" 32 .purple,
    number "Key material offset" .blue,
    number "Number of anti-forensic stripes" .gray]

/-- The header of a LUKS partition in version 1. -/
def luks : Definition :=
  ⟨"luks", ⟨none, some [0x4C, 0x55, 0x4B, 0x53, 0xBA, 0xBE]⟩, .ofItems <| [
    bytes "Magic" 6 .red,
    .scalar ⟨.unsigned .two, .big⟩ "Version" .blue none,
    bytes "Cipher name" 32 .green,
    bytes "Cipher mode" 32 .pink,
    bytes "Hash" 32 .orange,
    number "Payload offset" .red,
    number "Key bytes" .blue,
    bytes "Master key checksum" 20 .green,
    bytes "Master key salt" 32 .pink,
    number "Master key checksum iterations" .orange,
    bytes "UUID" 40 .red] ++ numbered "Key slot #" luksKeySlot.name (List.range 8)⟩

/-- A data block of a Mifare card. -/
def mifareDataBlock : Definition := part "mifare_data_block" [bytes "Data" 16 .white]

/-- The block with the keys of a sector. -/
def mifareTrailer : Definition :=
  part "mifare_trailer" [
    bytes "Key A" 6 .green,
    bytes "Access bits" 3 .purple,
    bytes "General purpose" 1 .white,
    bytes "Key B" 6 .orange]

/-- A sector of a Mifare card. -/
def mifareSector : Definition :=
  part "mifare_sector" [
    .embed (some "Block") (.count (.number 3)) mifareDataBlock.name,
    .embed (some "Trailer") .once mifareTrailer.name]

/-- The first sector, with the manufacturer block and the application directory. -/
def mifareFirstSector : Items → Items :=
  .group "Sector #0"
    (.group "Block #0" (.ofItems [bytes "UID" 4 .red, bytes "Manufacturer data" 12 .pink])
      (.ofItems [
        bytes "Application directory" 32 .blue,
        .embed (some "Trailer") .once mifareTrailer.name]))

/-- A dump of a Mifare Classic 1K card: sixteen sectors of four blocks of sixteen bytes. -/
def mifare1k : Definition :=
  ⟨"mifare_1k", ⟨some "mfd", none⟩,
    mifareFirstSector (.ofItems (numbered "Sector #" mifareSector.name (List.range' 1 15)))⟩

/-- A string with its length in front. -/
def stringEntry : Definition :=
  part "string_entry" [
    .scalar ⟨.unsigned .one, .big⟩ "Length" .red (some "strlen"),
    .bytes "String" (.name "strlen") .green]

/-- Strings up to the end of the file. -/
def strings : Definition :=
  ⟨"strings", ⟨some "str", none⟩, .ofItems [.embed (some "Entry") .unbounded stringEntry.name]⟩

/-- A text of some characters is parsed by reading the literals of what they are written as. -/
lemma parse_of_written {chars : List Char} {definitions : List Definition}
    (read : (written? chars).map (fun written => (written.mapM readDefinition).toOption) = some (some definitions)) :
    parse (String.ofList chars) = .ok definitions := by
  -- It is said of characters because those of a literal are known without decoding its bytes.
  obtain ⟨written, found, same⟩ := Option.map_eq_some_iff.1 read
  refine parse_eq_ok_iff_written.2 ⟨written, String.toList_ofList ▸ found, ?_⟩
  cases each : written.mapM readDefinition with
  | error cause =>
    rw [each] at same
    cases same
  | ok given =>
    rw [each] at same
    exact congrArg _ (Option.some.inj same)

lemma parse_luksText : parse luksText = .ok [luksKeySlot, luks] := by
  unfold luksText
  apply parse_of_written
  decide +kernel

lemma parse_mifareText : parse mifareText = .ok [mifareDataBlock, mifareTrailer, mifareSector, mifare1k] := by
  unfold mifareText
  apply parse_of_written
  decide +kernel

lemma parse_stringsText : parse stringsText = .ok [stringEntry, strings] := by
  unfold stringsText
  apply parse_of_written
  decide +kernel

/-- Loading a text is adding the definitions that it is parsed to. -/
lemma loadEach_cons {r : Registry} {name text : String} {more : List (String × String)}
    {definitions : List Definition} (parsed : parse text = .ok definitions)
    (accepted : (r.addDefinitions definitions).1.isOk = true) :
    loadEach r ((name, text) :: more) = loadEach (r.addDefinitions definitions).2 more := by
  rw [loadEach, Registry.load, Registry.loadInPlace, parsed]
  dsimp only
  cases given : (r.addDefinitions definitions).1 with
  | error cause =>
    rw [given] at accepted
    cases accepted
  | ok names => rfl

/-- The registry with the formats of all definitions. -/
def filled : Registry :=
  (((Registry.empty.addDefinitions [luksKeySlot, luks]).2.addDefinitions
    [mifareDataBlock, mifareTrailer, mifareSector, mifare1k]).2.addDefinitions [stringEntry, strings]).2

lemma load_eq_filled : load = .ok filled := by
  rw [load, texts, loadEach_cons parse_luksText (by decide +kernel), loadEach_cons parse_mifareText (by decide +kernel),
    loadEach_cons parse_stringsText (by decide +kernel)]
  rfl

lemma registry_eq_filled : registry = filled := by
  rw [registry, load_eq_filled]
  rfl

/-- None of the texts is refused. -/
lemma load_eq : load = .ok registry := by rw [load_eq_filled, registry_eq_filled]

/-- The names of the built-in formats. -/
def names : List String :=
  [luksKeySlot, luks, mifareDataBlock, mifareTrailer, mifareSector, mifare1k, stringEntry, strings].map (·.name)

lemma names_registry : registry.names = Registry.noneName :: names := by
  rw [registry_eq_filled]
  decide +kernel

end BuiltIn

namespace Registry

variable {r middle left : Registry}

/-- A registry that has the names of another in front, and the same formats for them. -/
structure Extends (left r : Registry) : Prop where
  names : r.names <+: left.names
  formats : ∀ name, r.contains name = true → left.get? name = r.get? name

namespace Extends

lemma refl (r : Registry) : r.Extends r := ⟨List.prefix_rfl, fun _ _ => rfl⟩

lemma trans (after : left.Extends middle) (before : middle.Extends r) : left.Extends r where
  names := before.names.trans after.names
  formats name known := by
    have same := before.formats name known
    rw [← same]
    exact after.formats name (by rwa [contains, same])

end Extends

/-- What is loaded takes nothing away. -/
lemma load_extends {text : String} {names : List String} (loaded : r.load text = .ok (names, left)) : left.Extends r := by
  rcases given : r.loadInPlace text with ⟨cause | these, rest⟩ <;> rw [load, given] at loaded <;> cases loaded
  obtain ⟨definitions, formats, describes, admits, -, rfl⟩ := loadInPlace_eq_ok_iff.1 given
  refine ⟨names_enterEach ▸ List.prefix_append _ _, fun name known => ?_⟩
  have other : NamedFormat.find? formats name = none := by
    refine NamedFormat.find?_eq_none.2 fun entry among same => ?_
    subst same
    cases known.symm.trans (admits.new entry among)
  rw [get?_enterEach admits.distinct, other, Option.none_or]

end Registry

namespace Viewer

variable {d : Directory} {args : List String} {options : Options}

/-- Description files take nothing away. -/
theorem loadFiles_extends {r left : Registry} {files : List String} (loaded : loadFiles d r files = .ok left) :
    left.Extends r := by
  induction files generalizing r with
  | nil =>
    cases loaded
    exact .refl _
  | cons path more ih =>
    rw [loadFiles] at loaded
    obtain ⟨text, -, loaded⟩ := Description.bind_eq_ok_iff.1 loaded
    obtain ⟨⟨names, middle⟩, here, loaded⟩ := Description.bind_eq_ok_iff.1 loaded
    exact (ih loaded).trans (Registry.load_extends (Description.mapError_eq_ok_iff.1 here))

/-- A list of all names begins with those of the built-in formats. -/
theorem run_list (asked : Options.ofArgs args = .ok options) (list : options.list = true) :
    (∃ text, run d args = failure "" text) ∨ ∃ more,
      run d args = ⟨0, String.join ((Registry.noneName :: BuiltIn.names ++ more).map (· ++ "\n")), ""⟩ := by
  rw [run, asked, BuiltIn.load_eq]
  dsimp only
  cases loaded : loadFiles d BuiltIn.registry options.files.tail with
  | error text => exact .inl ⟨text, rfl⟩
  | ok registry =>
    obtain ⟨more, named⟩ := (loadFiles_extends loaded).names
    rw [BuiltIn.names_registry] at named
    refine .inr ⟨more, ?_⟩
    dsimp only
    rw [named, if_pos list]

end Viewer
end ByteAtlas
