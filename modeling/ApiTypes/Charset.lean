/-
  The character sets that are known, by name.

  A name is looked up without regard to case and to marks between its words (`plainName`).
-/
import ApiTypes.Charset.Designated
import ApiTypes.Charset.Escaped
import ApiTypes.Charset.SingleByteTable
import ApiTypes.Charset.Traditional
import ApiTypes.Charset.Unicode

namespace ApiTypes.Charset

/-- Character sets that are known and read nothing: what they stand for is no text, or they
refuse to replace what they cannot read. -/
def refusing : List Charset :=
  [("base64_codec", ["base64", "base_64"]), ("bz2_codec", ["bz2"]), ("hex_codec", ["hex"]),
   ("quopri_codec", ["quopri", "quoted_printable", "quotedprintable"]), ("rot_13", ["rot13"]),
   ("uu_codec", ["uu"]), ("zlib_codec", ["zip", "zlib"]), ("idna", []), ("undefined", [])].map
    fun (name, aliases) => ⟨name, aliases, fun _ => none⟩

/-- The character sets that are known. -/
def all : List Charset :=
  unicode ++ SingleByte.all.map SingleByte.charset ++ japanese ++ simplified ++ traditional ++
    korean ++ designated ++ escaped ++ refusing

/-- The words of a name, in lower case: letters, digits and points. -/
def words (name : List Char) : List (List Char) :=
  ((name.splitOnP fun c => !(c.isAlphanum || c == '.')).filter (· != [])).map
    (·.map Char.toLower)

/-- A name as it is looked up: its words with one underscore between them. -/
def plainName (name : String) : String :=
  String.ofList (['_'].intercalate (words name.toList))

/-- The character set with a name; in its other names a point counts as an underscore. -/
def find? (name : String) : Option Charset :=
  let plain := plainName name
  let pointless := String.ofList (plain.toList.map fun c => if c = '.' then '_' else c)
  match all.find? fun s => plain ∈ s.aliases || pointless ∈ s.aliases with
  | some s => some s
  | none => all.find? (·.name = plain)

end ApiTypes.Charset
