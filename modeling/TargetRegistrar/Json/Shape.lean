import TargetRegistrar.Json.Reader
import TargetRegistrar.Timestamp

/-!
# Shapes

What a service declares about the messages it sends. A message that departs from its declaration
anywhere cannot be used, also where the departing part is of no interest. What the declaration does
not mention is passed over.

`conforms` follows the document, so that a shape may contain itself: the description of a schema is
made of descriptions of schemas.
-/

namespace TargetRegistrar.Json

/-- What a value is declared to be. -/
inductive Shape where
  | text
  | instant
  | int32
  /-- Items of one shape, none of them `null`. -/
  | list (item : Shape)
  /-- Values of one shape, none of them `null`, under names of any kind. -/
  | table (value : Shape)
  | record (fields : List (String × Shape))
  /-- Exactly one of the named variants, or one that is not known yet. -/
  | choice (variants : List (String × Shape))
  | schema

namespace Document

/-- How deep a value can be nested that is passed over. -/
def passableHeight : Nat := 512

/-- Whether a value can be passed over; how large its numbers are does not matter. -/
def isPassable (d : Document) : Bool :=
  d.height ≤ passableHeight

/-- Whether there is no value. -/
def isNull : Document → Bool
  | null => true
  | _ => false

/-- The text, if the value is one that can be read. -/
def text? : Document → Option String
  | text raw => unescape? raw
  | _ => none

/-- What the last member with a name holds, unless that is `null`. -/
def member? (name : String) (members : List (List Char × Document)) : Option Document :=
  ((members.filter fun m => unescape? m.1 = some name).getLast?.map (·.2)).filter (!·.isNull)

end Document

namespace Shape

/-- The fields that describe a schema. -/
def schemaFields : List (String × Shape) :=
  [("type", text), ("description", text), ("required", list text), ("items", schema),
   ("properties", table schema)]

/-- The shape of a field or a variant. -/
def field? (name : String) : List (String × Shape) → Option Shape
  | [] => none
  | f :: fs => if f.1 = name then some f.2 else field? name fs

/-- The name by which services tell records apart that are alike. -/
def tagName : String := "__type"

mutual

/-- Whether a value is absent or has a shape. -/
def conforms (s : Shape) : Document → Bool
  | .null => true
  | .bool _ => false
  | .number n => match s with
    | int32 => n.fitsInt32
    | _ => false
  | .text raw => match s with
    | text => (unescape? raw).isSome
    | instant => Timestamp.isStrictText raw
    | _ => false
  | .arr items => match s with
    | list item => itemsConform item items
    | _ => false
  | .obj members => match s with
    | record fields => fieldsConform fields members
    | schema => fieldsConform schemaFields members
    | table value => entriesConform value members
    | choice variants => variantsConform variants false members
    | _ => false

/-- Whether all items are present and have a shape. -/
def itemsConform (item : Shape) : List Document → Bool
  | [] => true
  | d :: ds => !d.isNull && conforms item d && itemsConform item ds

/-- Whether all members with the name of a field have its shape. -/
def fieldsConform (fields : List (String × Shape)) : List (List Char × Document) → Bool
  | [] => true
  | (raw, d) :: ms =>
    (match unescape? raw with
      | none => false
      | some name => match field? name fields with
        | some s => conforms s d
        | none => d.isPassable) && fieldsConform fields ms

/-- Whether all values of a table are present and have a shape. -/
def entriesConform (value : Shape) : List (List Char × Document) → Bool
  | [] => true
  | (raw, d) :: ms =>
    (unescape? raw).isSome && !d.isNull && conforms value d && entriesConform value ms

/-- Whether one variant is present, counting one that has been found before. What is absent is not
looked at. -/
def variantsConform (variants : List (String × Shape)) (found : Bool) :
    List (List Char × Document) → Bool
  | [] => found
  | (raw, d) :: ms =>
    if d.isNull then variantsConform variants found ms
    else match unescape? raw with
      | none => false
      | some name =>
        if name = tagName then d.isPassable && variantsConform variants found ms
        else
          !found && (match field? name variants with
            | some s => conforms s d
            | none => d.isPassable) && variantsConform variants true ms

end

example :
    conforms (choice [("a", text)]) (.obj [(['b'], .null), (['a'], .text ['x'])]) = true ∧
      conforms (choice [("a", text)]) (.obj [(['b'], .obj []), (['a'], .text ['x'])]) = false ∧
      conforms (record [("a", list text)]) (.obj [(['a'], .arr [.null])]) = false := by
  decide +kernel

end Shape

end TargetRegistrar.Json
