import ByteAtlas.Registry

/-!
# Built-in formats

Descriptions that are always loaded: headers of LUKS partitions in version 1, dumps of Mifare Classic 1K
cards, and strings with a length in front.
-/

namespace ByteAtlas.BuiltIn

/-- Headers of LUKS partitions in version 1. -/
def luksText : String :=
  "// LUKS version 1 partition header.

format luks_key_slot \x7b
\tu32be \"State\" green;
\tu32be \"Iterations\" orange;
\tbytes \"Salt\" 32 purple;
\tu32be \"Key material offset\" blue;
\tu32be \"Number of anti-forensic stripes\" gray;
\x7d

format luks magic \"LUKS\\xba\\xbe\" \x7b
\tbytes \"Magic\" 6 red;
\tu16be \"Version\" blue;
\tbytes \"Cipher name\" 32 green;
\tbytes \"Cipher mode\" 32 pink;
\tbytes \"Hash\" 32 orange;
\tu32be \"Payload offset\" red;
\tu32be \"Key bytes\" blue;
\tbytes \"Master key checksum\" 20 green;
\tbytes \"Master key salt\" 32 pink;
\tu32be \"Master key checksum iterations\" orange;
\tbytes \"UUID\" 40 red;
\tchild \"Key slot #0\" luks_key_slot;
\tchild \"Key slot #1\" luks_key_slot;
\tchild \"Key slot #2\" luks_key_slot;
\tchild \"Key slot #3\" luks_key_slot;
\tchild \"Key slot #4\" luks_key_slot;
\tchild \"Key slot #5\" luks_key_slot;
\tchild \"Key slot #6\" luks_key_slot;
\tchild \"Key slot #7\" luks_key_slot;
\x7d\n"

/-- Dumps of Mifare Classic 1K cards. -/
def mifareText : String :=
  "// Mifare Classic 1K dump: 16 sectors of 4 blocks, 16 bytes per block.
// Sector 0 holds the manufacturer block and the application directory.

format mifare_data_block \x7b
\tbytes \"Data\" 16 white;
\x7d

format mifare_trailer \x7b
\tbytes \"Key A\" 6 green;
\tbytes \"Access bits\" 3 purple;
\tbytes \"General purpose\" 1 white;
\tbytes \"Key B\" 6 orange;
\x7d

format mifare_sector \x7b
\tarray \"Block\" 3 mifare_data_block;
\tchild \"Trailer\" mifare_trailer;
\x7d

format mifare_1k extension \"mfd\" \x7b
\tgroup \"Sector #0\" \x7b
\t\tgroup \"Block #0\" \x7b
\t\t\tbytes \"UID\" 4 red;
\t\t\tbytes \"Manufacturer data\" 12 pink;
\t\t\x7d
\t\tbytes \"Application directory\" 32 blue;
\t\tchild \"Trailer\" mifare_trailer;
\t\x7d
\tchild \"Sector #1\" mifare_sector;
\tchild \"Sector #2\" mifare_sector;
\tchild \"Sector #3\" mifare_sector;
\tchild \"Sector #4\" mifare_sector;
\tchild \"Sector #5\" mifare_sector;
\tchild \"Sector #6\" mifare_sector;
\tchild \"Sector #7\" mifare_sector;
\tchild \"Sector #8\" mifare_sector;
\tchild \"Sector #9\" mifare_sector;
\tchild \"Sector #10\" mifare_sector;
\tchild \"Sector #11\" mifare_sector;
\tchild \"Sector #12\" mifare_sector;
\tchild \"Sector #13\" mifare_sector;
\tchild \"Sector #14\" mifare_sector;
\tchild \"Sector #15\" mifare_sector;
\x7d\n"

/-- Strings with a length in front. -/
def stringsText : String :=
  "// Length-prefixed strings until the end of the file.

format string_entry \x7b
\tu8 \"Length\" red as strlen;
\tbytes \"String\" strlen green;
\x7d

format strings extension \"str\" \x7b
\tsequence \"Entry\" string_entry;
\x7d\n"

/-- The built-in descriptions with the names of their files, in the order in which they are loaded. -/
def texts : List (String × String) :=
  [("luks.hfmt", luksText), ("mifare.hfmt", mifareText), ("strings.hfmt", stringsText)]

/-- Loads descriptions with the names of their files, up to the first that fails. -/
def loadEach (registry : Registry) : List (String × String) → Except String Registry
  | [] => .ok registry
  | (name, text) :: more => do
    let (_, loaded) ← (registry.load text).mapError fun cause => "built-in " ++ name ++ ": " ++ cause.message
    loadEach loaded more

/-- Loads the built-in descriptions. -/
def load : Except String Registry := loadEach .empty texts

/-- The registry that holds the built-in formats and nothing else. -/
def registry : Registry := load.toOption.getD .empty

end ByteAtlas.BuiltIn
