import TargetRegistrar.Json

/-!
# Writing values as text

As JSON, values stand on one line and in ASCII: what is outside ASCII, and every control character,
is written as an escaped code unit of UTF-16. Nothing is left of an illegible value.

As YAML, values are in block style: members of a mapping on lines of their own, two blanks deeper
than their key; items of a sequence after a dash, no deeper than their key. A text is written as it
is unless it would be read as something else.
-/

namespace TargetRegistrar.Json

/-! ## JSON -/

/-- An escaped code unit. -/
def escapedUnit (n : Nat) : String :=
  "\\u" ++ String.ofList (List.leftpad 4 '0' (Nat.toDigits 16 n))

/-- A character between the quotes of a text; one beyond the first plane needs two code units. -/
def writtenChar (c : Char) : String :=
  if c = '"' then "\\\""
  else if c = '\\' then "\\\\"
  else if 0x20 ≤ c.toNat ∧ c.toNat < 0x7F then c.toString
  else if c.toNat < 0x10000 then escapedUnit c.toNat
  else
    escapedUnit (0xD800 + (c.toNat - 0x10000) / 0x400) ++
      escapedUnit (0xDC00 + (c.toNat - 0x10000) % 0x400)

/-- A text with its quotes. -/
def writtenText (s : String) : String :=
  s.toList.foldl (fun out c => out ++ writtenChar c) "\"" ++ "\""

mutual

/-- A value as text. -/
def write : Json → String
  | null => "null"
  | bool true => "true"
  | bool false => "false"
  | int n => toString n
  | decimal m e => toString m ++ "e" ++ toString e
  | str s => writtenText s
  | arr items => "[" ++ writeItems items ++ "]"
  | obj members => "\x7b" ++ writeMembers members ++ "\x7d"
  | illegible => "null"

/-- The items of a sequence with commas between them. -/
def writeItems : List Json → String
  | [] => ""
  | [v] => write v
  | v :: vs => write v ++ "," ++ writeItems vs

/-- The members of an object with commas between them. -/
def writeMembers : List (String × Json) → String
  | [] => ""
  | [(k, v)] => writtenText k ++ ":" ++ write v
  | (k, v) :: ms => writtenText k ++ ":" ++ write v ++ "," ++ writeMembers ms

end

end TargetRegistrar.Json

namespace TargetRegistrar.Yaml

/-! ## YAML -/

/-- Words that are not read as texts. -/
def reservedWords : List String :=
  ["", "~", "null", "Null", "NULL", "true", "True", "TRUE", "false", "False", "FALSE",
   "yes", "Yes", "YES", "no", "No", "NO", "on", "On", "ON", "off", "Off", "OFF", "y", "Y", "n", "N"]

/-- Characters that mean something at the start of a text. -/
def indicators : List Char :=
  ['-', '?', ':', ',', '[', ']', '\x7b', '\x7d', '#', '&', '*', '!', '|', '>', '%', '@', '\'', '"',
   ' ', Char.ofNat 0x60]

/-- Whether a text may be read as a number: it has a digit, and nothing else than what numbers are
written with. -/
def isNumberLike (cs : List Char) : Bool :=
  cs.any Char.isDigit && cs.all fun c => c.isDigit || "+-._eExo:".contains c

/-- Whether a text holds what ends a key or starts a comment. -/
def hasBreak : List Char → Bool
  | [':'] => true
  | ':' :: ' ' :: _ => true
  | ' ' :: '#' :: _ => true
  | [' '] => true
  | c :: cs => c < ' ' || hasBreak cs
  | [] => false

/-- Whether a text is read as itself without quotes. -/
def isPlain (s : String) : Bool :=
  !(reservedWords.contains s || isNumberLike s.toList || s.toList.head?.any indicators.contains ||
    hasBreak s.toList)

/-- A text, in single quotes if it has to be; a quote inside is doubled. -/
def scalar (s : String) : String :=
  if isPlain s then s
  else
    "'" ++ String.join (s.toList.map fun c => if c = '\'' then "''" else c.toString) ++ "'"

/-- The lines of a member, given those of its value. -/
def memberLines (key : String) (value : Json) (lines : List String) : List String :=
  match value with
  | .arr (_ :: _) => (scalar key ++ ":") :: lines
  | .obj (_ :: _) => (scalar key ++ ":") :: lines.map ("  " ++ ·)
  | _ => [scalar key ++ ": " ++ String.intercalate " " lines]

/-- The lines of an item, given those of its value. -/
def itemLines : List String → List String
  | [] => []
  | first :: rest => ("- " ++ first) :: rest.map ("  " ++ ·)

mutual

/-- The lines of a value. -/
def lines : Json → List String
  | .null => ["null"]
  | .illegible => ["null"]
  | .bool true => ["true"]
  | .bool false => ["false"]
  | .int n => [toString n]
  | .decimal m e => [toString m ++ "e" ++ toString e]
  | .str s => [scalar s]
  | .arr [] => ["[]"]
  | .arr (v :: vs) => itemLines (lines v) ++ itemsLines vs
  | .obj [] => ["\x7b\x7d"]
  | .obj ((k, v) :: ms) => memberLines k v (lines v) ++ membersLines ms

/-- The lines of the items of a sequence. -/
def itemsLines : List Json → List String
  | [] => []
  | v :: vs => itemLines (lines v) ++ itemsLines vs

/-- The lines of the members of a mapping. -/
def membersLines : List (String × Json) → List String
  | [] => []
  | (k, v) :: ms => memberLines k v (lines v) ++ membersLines ms

end

/-- A value as a document. -/
def write (value : Json) : String :=
  String.join ((lines value).map (· ++ "\n"))

end TargetRegistrar.Yaml
