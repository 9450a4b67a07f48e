import TargetRegistrar.Json

/-!
# HTTP messages

Requests and responses, as far as the controller sends and reads them. A server that could not be
reached is represented by the absence of a response.

A request is addressed to a path and maybe a query. In a text the query follows the first `?`, and a
fragment, which is not part of the target, the first `#`; an empty query is as good as none. A
segment of a path may hold any text once it has been escaped.
-/

namespace TargetRegistrar.Http

/-! ## Targets -/

/-- What a request is addressed to. -/
structure Target where
  /-- The path, with its escapes. -/
  path : String
  query : Option String
  deriving DecidableEq, Repr

namespace Target

/-- Whether a path cannot hold a character as it is. -/
def refusedInPath (c : Char) : Bool :=
  c ≤ ' ' || c = '<' || c = '>' || c.toNat = 0x60 || c.toNat = 0x7F

/-- Whether a query cannot hold a character as it is. -/
def refusedInQuery (c : Char) : Bool :=
  c ≤ ' ' || c = '<' || c = '>' || c = '"' || c.toNat = 0x7F

/-- The greatest length of an address in bytes. -/
def maxLength : Nat := 65534

/-- The part before the first occurrence of a mark, and the part after it if there is one. -/
def cut (mark : Char) : List Char → List Char × Option (List Char)
  | [] => ([], none)
  | c :: cs => if c = mark then ([], some cs) else ((cut mark cs).1.cons c, (cut mark cs).2)

/-- The rest of an address after its scheme and its host. -/
def afterHost : List Char → List Char
  | ':' :: '/' :: '/' :: cs => cs.dropWhile fun c => c ≠ '/' && c ≠ '?'
  | _ :: cs => afterHost cs
  | [] => []

/-- The target of a text that starts with a slash, or of a whole address. -/
def read? (s : String) : Option Target :=
  let shown := (cut '#' s.toList).1
  let (path, query) := cut '?' (if shown.head? = some '/' then shown else afterHost shown)
  if maxLength < s.utf8ByteSize || path.any refusedInPath || query.any (·.any refusedInQuery) then
    none
  else
    some ⟨if path.isEmpty then "/" else String.ofList path,
      (query.filter (!·.isEmpty)).map String.ofList⟩

end Target

/-- Whether a byte stands for itself in an escaped text: the letters, the digits, and four marks. -/
def isUnreserved (b : UInt8) : Bool :=
  (0x41 ≤ b && b ≤ 0x5A) || (0x61 ≤ b && b ≤ 0x7A) || (0x30 ≤ b && b ≤ 0x39) ||
    b = 0x2D || b = 0x2E || b = 0x5F || b = 0x7E

/-- A digit of base sixteen, in upper case. -/
def upperHexDigit (n : Nat) : Char :=
  if n < 10 then Char.ofNat (0x30 + n) else Char.ofNat (0x41 + (n - 10))

/-- A byte in an escaped text. -/
def escapedByte (b : UInt8) : List Char :=
  if isUnreserved b then [Char.ofNat b.toNat]
  else ['%', upperHexDigit (b.toNat / 16), upperHexDigit (b.toNat % 16)]

/-- A text as one segment of a path. -/
def escapedSegment (s : String) : String :=
  String.ofList (s.toUTF8.toList.flatMap escapedByte)

/-! ## Messages -/

/-- A request. -/
structure Request where
  method : String
  /-- The path, escaped. -/
  path : String
  query : Option String := none
  contentType : Option String := none
  body : Option Json := none

/-- A response. -/
structure Response where
  status : Nat
  headers : List (String × String) := []
  /-- The body as text. -/
  body : String
  deriving DecidableEq, Repr

namespace Response

/-- The value of the first header with a name, which is given in lower case; case does not
count. -/
def header? (r : Response) (name : String) : Option String :=
  (r.headers.find? fun h => h.1.toLower = name).map (·.2)

/-- Whether the request has been granted. -/
def isSuccess (r : Response) : Bool :=
  200 ≤ r.status && r.status < 300

/-- Whether the request has been refused. -/
def isRefusal (r : Response) : Bool :=
  400 ≤ r.status && r.status < 600

end Response

end TargetRegistrar.Http
