import TargetRegistrar.Json
import TargetRegistrar.Json.Double

/-!
# Reading JSON text

The first step resolves objects, sequences and words, while texts and numbers stay as they are
written. Readers differ in what they demand of those, in particular of the ones they pass over, and
in what a member that is written twice means to them; they share this step. It is two folds, each
with a total step: one over the characters, which cuts the text into tokens, and one over the
tokens, which keeps the values that are still open on a stack.

From the structure of a text to its value is the second step. Texts and numbers have to be
well-formed everywhere, also where nobody will look at them. One that is well-formed may still have
no meaning: half of a surrogate pair, a number beyond double precision, a nesting deeper than the
limit. Such a value is illegible, and spoils the whole text only if it is needed.
-/

namespace TargetRegistrar.Json

open TargetRegistrar.Text

/-! ## Documents -/

/-- A JSON value of which texts and numbers are as written. -/
inductive Document where
  | null
  | bool (b : Bool)
  | number (numeral : Numeral)
  | text (raw : List Char)
  | arr (items : List Document)
  /-- Named values in the order in which they are written; a name may occur more than once. -/
  | obj (members : List (List Char × Document))
  deriving Inhabited, Repr

namespace Document

/-! ### Tokens -/

/-- A piece of JSON text. -/
inductive Token where
  | openObject
  | closeObject
  | openArray
  | closeArray
  | colon
  | comma
  /-- A value without parts. -/
  | scalar (value : Document)

/-- The token that has been begun. -/
inductive Begun where
  | nothing
  /-- A word, its last letter first. -/
  | word (letters : List Char)
  /-- A number, its last character first. -/
  | number (chars : List Char)
  /-- A text, its last character first, and whether that is a backslash that escapes the next. -/
  | text (raw : List Char) (escaped : Bool)

/-- The token that a character is by itself. -/
def punctuation? : Char → Option Token
  | '\x7b' => some .openObject
  | '\x7d' => some .closeObject
  | '[' => some .openArray
  | ']' => some .closeArray
  | ':' => some .colon
  | ',' => some .comma
  | _ => none

/-- A word, as far as it has a meaning. -/
def word? : List Char → Option Document
  | ['n', 'u', 'l', 'l'] => some null
  | ['t', 'r', 'u', 'e'] => some (bool true)
  | ['f', 'a', 'l', 's', 'e'] => some (bool false)
  | _ => none

/-- Whether a character may stand between two tokens. -/
def isGap (c : Char) : Bool :=
  c = ' ' || c = '\n' || c = '\t' || c = '\r'

/-- Whether a number starts with a character. -/
def startsNumber (c : Char) : Bool :=
  isDigit c || c = '-'

/-- Whether a character may stand in a number. -/
def inNumber (c : Char) : Bool :=
  startsNumber c || c = '+' || c = '.' || c = 'e' || c = 'E'

/-- Whether a character between quotes has to be written in another way. -/
def isControl (c : Char) : Bool :=
  c.toNat < 0x20

/-- A character between two tokens. -/
def beginToken (tokens : List Token) (c : Char) : Option (List Token × Begun) :=
  if isGap c then some (tokens, .nothing)
  else if c = '"' then some (tokens, .text [] false)
  else if startsNumber c then some (tokens, .number [c])
  else if c.isAlpha then some (tokens, .word [c])
  else (punctuation? c).map fun t => (t :: tokens, .nothing)

/-- The tokens with the begun one, if it is complete. -/
def endToken (tokens : List Token) : Begun → Option (List Token)
  | .nothing => some tokens
  | .word letters => (word? letters.reverse).map fun w => .scalar w :: tokens
  | .number chars => (Numeral.read? chars.reverse).map fun n => .scalar (.number n) :: tokens
  | .text .. => none

/-- One character of the text; the tokens read so far come last first. -/
def tokenStep (state : List Token × Begun) (c : Char) : Option (List Token × Begun) :=
  match state with
  | (tokens, .nothing) => beginToken tokens c
  | (tokens, .word letters) =>
    if c.isAlpha then some (tokens, .word (c :: letters))
    else (endToken tokens (.word letters)).bind (beginToken · c)
  | (tokens, .number chars) =>
    if inNumber c then some (tokens, .number (c :: chars))
    else (endToken tokens (.number chars)).bind (beginToken · c)
  | (tokens, .text raw true) => some (tokens, .text (c :: raw) false)
  | (tokens, .text raw false) =>
    if c = '\\' then some (tokens, .text (c :: raw) true)
    else if c = '"' then some (.scalar (.text raw.reverse) :: tokens, .nothing)
    else if isControl c then none
    else some (tokens, .text (c :: raw) false)

/-- The tokens of a text. -/
def tokens? (s : String) : Option (List Token) :=
  match s.toList.foldlM tokenStep ([], .nothing) with
  | none => none
  | some (tokens, begun) => (endToken tokens begun).map List.reverse

/-! ### Values -/

/-- A value of which the end has not been read. -/
inductive Open where
  /-- A sequence, its last item first. -/
  | items (done : List Document)
  /-- An object, its last member first, and the name of the member that is being read. -/
  | members (done : List (List Char × Document)) (name : List Char)

/-- What has to come next. -/
inductive Expecting where
  | value (outer : List Open)
  /-- The first item of a sequence, or its end. -/
  | itemOrEnd (outer : List Open)
  /-- The first name in an object, or its end. -/
  | nameOrEnd (outer : List Open)
  | name (done : List (List Char × Document)) (outer : List Open)
  /-- The colon after a name. -/
  | colon (done : List (List Char × Document)) (name : List Char) (outer : List Open)
  | afterItem (done : List Document) (outer : List Open)
  | afterMember (done : List (List Char × Document)) (outer : List Open)
  | finished (value : Document)

/-- What comes after a complete value. -/
def close (value : Document) : List Open → Expecting
  | [] => .finished value
  | .items done :: outer => .afterItem (value :: done) outer
  | .members done name :: outer => .afterMember ((name, value) :: done) outer

/-- The start of a value inside the open ones. -/
def beginValue (outer : List Open) : Token → Option Expecting
  | .scalar v => some (close v outer)
  | .openArray => some (.itemOrEnd outer)
  | .openObject => some (.nameOrEnd outer)
  | _ => none

/-- One token. -/
def valueStep : Expecting → Token → Option Expecting
  | .value outer, t => beginValue outer t
  | .itemOrEnd outer, .closeArray => some (close (arr []) outer)
  | .itemOrEnd outer, t => beginValue (.items [] :: outer) t
  | .nameOrEnd outer, .closeObject => some (close (obj []) outer)
  | .nameOrEnd outer, .scalar (.text name) => some (.colon [] name outer)
  | .name done outer, .scalar (.text name) => some (.colon done name outer)
  | .colon done name outer, .colon => some (.value (.members done name :: outer))
  | .afterItem done outer, .comma => some (.value (.items done :: outer))
  | .afterItem done outer, .closeArray => some (close (arr done.reverse) outer)
  | .afterMember done outer, .comma => some (.name done outer)
  | .afterMember done outer, .closeObject => some (close (obj done.reverse) outer)
  | _, _ => none

/-- The value that a text is written for, if it has the structure of JSON. -/
def read? (s : String) : Option Document :=
  match (tokens? s).bind fun tokens => tokens.foldlM valueStep (.value []) with
  | some (.finished value) => some value
  | _ => none

/-! ### The first token alone -/

/-- Whether a text that has been begun is ended. -/
def hasClosingQuote : List Char → Bool
  | [] => false
  | ['\\'] => false
  | '\\' :: _ :: cs => hasClosingQuote cs
  | c :: cs => c = '"' || (!isControl c && hasClosingQuote cs)

/-- Whether the first token of a text is well-formed, whatever comes after it. A text without a
token passes. -/
def beginsWell (cs : List Char) : Bool :=
  match cs.dropWhile isGap with
  | [] => true
  | c :: cs =>
    if c = '"' then hasClosingQuote cs
    else if startsNumber c then (Numeral.scan (c :: cs)).1.isLiberal
    else if c.isAlpha then (word? ((c :: cs).takeWhile Char.isAlpha)).isSome
    else c = '\x7b' || c = '['

/-! ### Nesting -/

mutual

/-- How deep sequences and objects are nested. -/
def height : Document → Nat
  | arr items => heightOfItems items + 1
  | obj members => heightOfMembers members + 1
  | _ => 0

/-- The greatest height of some items. -/
def heightOfItems : List Document → Nat
  | [] => 0
  | d :: ds => max d.height (heightOfItems ds)

/-- The greatest height of some members. -/
def heightOfMembers : List (List Char × Document) → Nat
  | [] => 0
  | (_, d) :: ms => max d.height (heightOfMembers ms)

end

end Document

/-! ## Values -/

/-! ### Texts -/

/-- The value of a hexadecimal digit. -/
def hexDigit? (c : Char) : Option Nat :=
  if '0' ≤ c ∧ c ≤ '9' then some (c.toNat - '0'.toNat)
  else if 'a' ≤ c ∧ c ≤ 'f' then some (c.toNat - 'a'.toNat + 10)
  else if 'A' ≤ c ∧ c ≤ 'F' then some (c.toNat - 'A'.toNat + 10)
  else none

/-- What an escape of one letter stands for. -/
def letterEscape? : Char → Option Char
  | '"' => some '"'
  | '\\' => some '\\'
  | '/' => some '/'
  | 'b' => some '\x08'
  | 'f' => some '\x0c'
  | 'n' => some '\n'
  | 'r' => some '\r'
  | 't' => some '\t'
  | _ => none

/-- Whether every backslash between the quotes starts an escape. -/
def isWellEscaped : List Char → Bool
  | [] => true
  | '\\' :: 'u' :: a :: b :: c :: d :: cs =>
    [a, b, c, d].all (fun h => (hexDigit? h).isSome) && isWellEscaped cs
  | '\\' :: c :: cs => (letterEscape? c).isSome && isWellEscaped cs
  | c :: cs => c ≠ '\\' && isWellEscaped cs

/-- What stands between the quotes of a text, one character at a time. -/
inductive Unescaping where
  | plain
  | escape
  /-- In the code unit of an escape, with the digits still to come, and the first half of a pair if
  this is the second one. -/
  | unit (left value : Nat) (high : Option Nat)
  | half (high : Nat)
  | halfEscape (high : Nat)

/-- The state after a complete code unit, and the character that it completes. A code unit of a
pair never stands alone. -/
def closeUnit (value : Nat) : Option Nat → Option (Unescaping × Option Char)
  | none =>
    if 0xD800 ≤ value ∧ value < 0xDC00 then some (.half value, none)
    else if 0xDC00 ≤ value ∧ value < 0xE000 then none
    else some (.plain, some (Char.ofNat value))
  | some high =>
    if 0xDC00 ≤ value ∧ value < 0xE000 then
      some (.plain, some (Char.ofNat (0x10000 + (high - 0xD800) * 0x400 + (value - 0xDC00))))
    else none

/-- One character between the quotes. -/
def unescapeStep (c : Char) : Unescaping → Option (Unescaping × Option Char)
  | .plain => if c = '\\' then some (.escape, none) else some (.plain, some c)
  | .escape =>
    if c = 'u' then some (.unit 4 0 none, none)
    else (letterEscape? c).map fun d => (.plain, some d)
  | .unit left value high =>
    match hexDigit? c with
    | none => none
    | some d =>
      if left ≤ 1 then closeUnit (16 * value + d) high
      else some (.unit (left - 1) (16 * value + d) high, none)
  | .half high => if c = '\\' then some (.halfEscape high, none) else none
  | .halfEscape high => if c = 'u' then some (.unit 4 0 (some high), none) else none

/-- The characters that the ones between the quotes stand for. -/
def unescapeFrom : Unescaping → List Char → Option (List Char)
  | .plain, [] => some []
  | _, [] => none
  | state, c :: cs =>
    match unescapeStep c state with
    | none => none
    | some (state, none) => unescapeFrom state cs
    | some (state, some d) => (unescapeFrom state cs).map (d :: ·)

/-- The text that the characters between the quotes stand for. -/
def unescape? (raw : List Char) : Option String :=
  (unescapeFrom .plain raw).map String.ofList

/-- The text of well-formed characters between quotes, if it is legible. -/
def wellFormedText? (raw : List Char) : Option (Option String) :=
  if isWellEscaped raw then some (unescape? raw) else none

/-! ### Numbers -/

/-- The value of a numeral; the negative zero is no integer. -/
def ofNumeral? (n : Numeral) : Option Json :=
  let signed : Int := if n.negative then -(n.mantissa : Int) else n.mantissa
  if !n.isStrict then none
  else if !n.fitsDouble then some illegible
  else if n.isWhole && !(n.negative && n.mantissa = 0) then some (int signed)
  else some (decimal signed n.scale)

/-! ### Values -/

/-- The members of an object, if all their names are legible. -/
def ofNamed (members : List (Option String × Json)) : Json :=
  match members.mapM fun m => m.1.map fun name => (name, m.2) with
  | some named => obj named
  | none => illegible

mutual

/-- The value of a document that may be nested `room` deep. -/
def ofDocument? (room : Nat) : Document → Option Json
  | .null => some null
  | .bool b => some (bool b)
  | .number n => ofNumeral? n
  | .text raw => (wellFormedText? raw).map fun s => s.elim illegible str
  | .arr items =>
    (ofItemDocuments? (room - 1) items).map fun vs => if room = 0 then illegible else arr vs
  | .obj members =>
    (ofMemberDocuments? (room - 1) members).map fun ms =>
      if room = 0 then illegible else ofNamed ms

/-- The values of items. -/
def ofItemDocuments? (room : Nat) : List Document → Option (List Json)
  | [] => some []
  | d :: ds => do return (← ofDocument? room d) :: (← ofItemDocuments? room ds)

/-- The values of members, with their names as far as they are legible. -/
def ofMemberDocuments? (room : Nat) :
    List (List Char × Document) → Option (List (Option String × Json))
  | [] => some []
  | (raw, d) :: ms => do
    return (← wellFormedText? raw, ← ofDocument? room d) :: (← ofMemberDocuments? room ms)

end

/-- How deep a legible value is nested at most. -/
def nestingLimit : Nat := 127

/-- The value that a text is written for, if it is JSON. -/
def read? (s : String) : Option Json :=
  (Document.read? s).bind (ofDocument? nestingLimit)

end TargetRegistrar.Json
