/-!
# JSON values

The data that resources and messages are exchanged as. A number is kept as it was written: an
integer literal is an `int`, any other literal is a `decimal`, since a generation may be written
`1` but not `1.0`. An object may name a member twice; what that means is up to its reader.

A record may be written as an object with its fields by name, where unknown members are ignored, or
as a sequence of its fields in order. A field with a default may be left out of the object, and the
sequence may end before such fields; no field may be there twice. Both forms are read into one view,
the list of the fields' values, so that a record has a single reader.
-/

namespace TargetRegistrar

/-- A JSON value. -/
inductive Json where
  | null
  | bool (b : Bool)
  /-- A number written without fraction and exponent. -/
  | int (n : Int)
  /-- A number written with a fraction or an exponent: `mantissa * 10 ^ exponent`. -/
  | decimal (mantissa exponent : Int)
  | str (s : String)
  | arr (items : List Json)
  /-- A set of named values, in the order in which they were written. -/
  | obj (members : List (String × Json))
  /-- A value that is well-formed and has no meaning here, such as a number of excessive size. Who
  has no use for it can pass over it. -/
  | illegible
  deriving Inhabited, Repr

namespace Json

/-- The value of the first member with a name. -/
def findMember (name : String) : List (String × Json) → Option Json
  | [] => none
  | m :: ms => if m.1 = name then some m.2 else findMember name ms

/-- How many members have a name. -/
def occurrences (name : String) (members : List (String × Json)) : Nat :=
  members.countP fun m => m.1 = name

/-- The member of an object with a name. -/
def member? (name : String) : Json → Option Json
  | obj members => findMember name members
  | _ => none

/-- An object of the members that are present, in the given order. -/
def ofMembers (members : List (String × Option Json)) : Json :=
  obj (members.filterMap fun m => m.2.map fun v => (m.1, v))

/-- A list of texts. -/
def ofTexts (texts : List String) : Json :=
  arr (texts.map str)

/-- The text, if the value is one. -/
def text? : Json → Option String
  | str s => some s
  | _ => none

/-- The truth value, if the value is one. -/
def bool? : Json → Option Bool
  | bool b => some b
  | _ => none

/-- The items, if the value is a sequence. -/
def items? : Json → Option (List Json)
  | arr items => some items
  | _ => none

/-- The integer, if the value is an integer literal. -/
def int? : Json → Option Int
  | int n => some n
  | _ => none

/-- The integer, if the value is an integer literal that fits in 64 bits with a sign. -/
def int64? : Json → Option Int
  | int n => if -9223372036854775808 ≤ n ∧ n < 9223372036854775808 then some n else none
  | _ => none

/-- The list that a reader of items makes of a sequence, if it reads all of them. -/
def list? {α : Type} (item? : Json → Option α) : Json → Option (List α)
  | arr items => items.mapM item?
  | _ => none

mutual

/-- Whether no part is illegible. -/
def isLegible : Json → Bool
  | illegible => false
  | arr items => itemsAreLegible items
  | obj members => membersAreLegible members
  | _ => true

/-- Whether no part of some items is illegible. -/
def itemsAreLegible : List Json → Bool
  | [] => true
  | j :: js => j.isLegible && itemsAreLegible js

/-- Whether no part of some members is illegible. -/
def membersAreLegible : List (String × Json) → Bool
  | [] => true
  | (_, j) :: ms => j.isLegible && membersAreLegible ms

end

/-- Where absence is written `null`: nothing, or what the reader makes of the value. -/
def nullable? {α : Type} (value? : Json → Option α) : Json → Option (Option α)
  | null => some none
  | j => (value? j).map some

end Json

end TargetRegistrar

namespace TargetRegistrar.Json

/-! ## Records -/

/-- A field of a record: its name, and whether it has a default. -/
structure Field where
  name : String
  /-- Whether a sequence may end before it. -/
  hasDefault : Bool

/-- The values of the fields when they are written in order. -/
def positional : List Field → List Json → Option (List (Option Json))
  | [], [] => some []
  | [], _ :: _ => none
  | f :: fs, [] => if f.hasDefault then (positional fs []).map (none :: ·) else none
  | _ :: fs, v :: vs => (positional fs vs).map (some v :: ·)

/-- The values of the fields of a record in either form, in the order of the fields. -/
def fields? (fields : List Field) : Json → Option (List (Option Json))
  | obj members =>
    if fields.all fun f => occurrences f.name members ≤ 1 then
      some (fields.map fun f => findMember f.name members)
    else none
  | arr items => positional fields items
  | _ => none

/-- A field that has to be there. -/
def required? {α : Type} (value? : Json → Option α) (field : Option Json) : Option α :=
  field.bind value?

/-- A field that may be left out or `null`. -/
def optional? {α : Type} (value? : Json → Option α) : Option Json → Option (Option α)
  | none => some none
  | some j => nullable? value? j

/-- A field that has a default when it is left out. -/
def defaulted? {α : Type} (fallback : α) (value? : Json → Option α) : Option Json → Option α
  | none => some fallback
  | some j => value? j

end TargetRegistrar.Json
