import TargetRegistrar.Json
import TargetRegistrar.Text

/-!
# Numbers in JSON

A numeral is a number as it is written: an optional minus, digits, and maybe a fraction and an
exponent. Two rules say which numerals stand for numbers. By the strict one no part may be empty and
the whole part has no superfluous zero; by the liberal one a digit on either side of the point is
enough.

A number is brought to double precision in two roundings: one of its first digits, as many of them
as make a number of 64 bits, and one of that multiplied or divided by a power of ten. The result may
differ from the nearest double-precision number in its last place.
-/

namespace TargetRegistrar.Json

open TargetRegistrar.Text

/-! ## Numerals -/

/-- A number as it is written. -/
structure Numeral where
  negative : Bool
  /-- The digits before the point. -/
  whole : List Char
  /-- The digits after the point, if there is a point. -/
  places : Option (List Char)
  /-- Whether the exponent has a minus, and its digits, if there is an exponent. -/
  exponent : Option (Bool × List Char)
  deriving DecidableEq, Repr

namespace Numeral

/-! ### Reading -/

/-- The fraction at the start of a text, and the rest. -/
def scanPlaces : List Char → Option (List Char) × List Char
  | '.' :: cs => (some (cs.takeWhile isDigit), cs.dropWhile isDigit)
  | cs => (none, cs)

/-- The sign and the digits of an exponent at the start of a text, and the rest. -/
def scanPower : List Char → (Bool × List Char) × List Char
  | '+' :: cs => ((false, cs.takeWhile isDigit), cs.dropWhile isDigit)
  | '-' :: cs => ((true, cs.takeWhile isDigit), cs.dropWhile isDigit)
  | cs => ((false, cs.takeWhile isDigit), cs.dropWhile isDigit)

/-- The exponent at the start of a text, and the rest. -/
def scanExponent : List Char → Option (Bool × List Char) × List Char
  | [] => (none, [])
  | c :: cs =>
    if c = 'e' ∨ c = 'E' then (some (scanPower cs).1, (scanPower cs).2) else (none, c :: cs)

/-- The numeral without a sign at the start of a text, and the rest. -/
def scanUnsigned (negative : Bool) (cs : List Char) : Numeral × List Char :=
  let (places, rest) := scanPlaces (cs.dropWhile isDigit)
  let (exponent, rest) := scanExponent rest
  (⟨negative, cs.takeWhile isDigit, places, exponent⟩, rest)

/-- The numeral at the start of a text, and the rest. -/
def scan : List Char → Numeral × List Char
  | '-' :: cs => scanUnsigned true cs
  | cs => scanUnsigned false cs

/-! ### Rules -/

/-- All digits before the exponent. -/
def digits (n : Numeral) : List Char :=
  n.whole ++ n.places.getD []

/-- The liberal rule: there is a digit, and one in the exponent if there is an exponent. -/
def isLiberal (n : Numeral) : Bool :=
  !n.digits.isEmpty && n.exponent.all fun e => !e.2.isEmpty

/-- The strict rule: no part is empty, and a zero starts the whole part only if it is all of it. -/
def isStrict (n : Numeral) : Bool :=
  !n.whole.isEmpty && (n.whole.head? ≠ some '0' || n.whole.length = 1) &&
    n.places.all (fun ds => !ds.isEmpty) && n.exponent.all fun e => !e.2.isEmpty

/-- The numeral that a text is by the liberal rule. -/
def read? (cs : List Char) : Option Numeral :=
  if (scan cs).1.isLiberal ∧ (scan cs).2 = [] then some (scan cs).1 else none

/-! ### Values

The value is `mantissa * 10 ^ scale`, up to its sign. -/

/-- The number that all digits before the exponent make. -/
def mantissa (n : Numeral) : Nat :=
  digitsValue n.digits

/-- The power of ten in which the mantissa counts. -/
def scale (n : Numeral) : Int :=
  (match n.exponent with
    | none => 0
    | some (true, ds) => -(digitsValue ds : Int)
    | some (false, ds) => (digitsValue ds : Int)) - (n.places.getD []).length

/-- Whether there is neither a fraction nor an exponent. -/
def isWhole (n : Numeral) : Bool :=
  n.places.isNone && n.exponent.isNone

/-- The least size that rounds to no double-precision number. -/
def doubleBound : Nat := Nat.pow 2 1024 - Nat.pow 2 970

/-- Whether the value rounds to a double-precision number. Only sizes with 309 places have to be
compared with the bound. -/
def fitsDouble (n : Numeral) : Bool :=
  let places := ((Nat.toDigits 10 n.mantissa).length : Int) + n.scale
  n.mantissa = 0 || places ≤ 308 ||
    (places = 309 &&
      n.mantissa * Nat.pow 10 n.scale.toNat < doubleBound * Nat.pow 10 (-n.scale).toNat)

/-- Whether the nearest double-precision number is whole and lies within 32 bits with a sign. Sizes
with too many or too few places are settled without computing it. -/
def fitsInt32 (n : Numeral) : Bool :=
  let places := ((Nat.toDigits 10 n.mantissa).length : Int) + n.scale
  if n.mantissa = 0 ∨ places ≤ -324 then true
  else if 11 ≤ places then false
  else
    let size := Float.ofScientific n.mantissa (decide (n.scale < 0)) n.scale.natAbs
    size == size.floor && size ≤ if n.negative then 2147483648 else 2147483647

example : ((read? "-01.50e+05".toList).map fun n => (n.mantissa, n.scale, n.isStrict)) =
    some (150, 3, false) := by decide +kernel

end Numeral

/-! ## Double precision -/

/-- The number that the first digits make, as far as it has 64 bits, and how many digits are
left. -/
def leadingDigits (n : Nat) : Nat × Nat :=
  (Nat.toDigits 10 n).foldl
    (fun (value, left) c =>
      let next := 10 * value + (c.toNat - '0'.toNat)
      if left = 0 ∧ next < 18446744073709551616 then (next, 0) else (value, left + 1))
    (0, 0)

/-- A power of ten up to the greatest one in double precision. -/
def powerOfTen (n : Nat) : Float :=
  Float.ofScientific 1 false (min n 308)

/-- A number divided by a power of ten, the part of it beyond the greatest one first. Three such
divisions leave nothing of a number of 64 bits. -/
def dividedByPower (size : Float) (n : Nat) : Float :=
  let steps := min ((n - 1) / 308) 3
  (List.replicate steps (powerOfTen 308)).foldl (· / ·) size / powerOfTen (n - 308 * steps)

/-- The size of `mantissa * 10 ^ exponent`. -/
def doubleSize (mantissa : Nat) (exponent : Int) : Float :=
  let (value, left) := leadingDigits mantissa
  let size := Float.ofNat value
  match exponent + left with
  | .ofNat n => size * powerOfTen n
  | .negSucc n => dividedByPower size (n + 1)

/-- The number in double precision, if the value is one. -/
def double? : Json → Option Float
  | int n => some (if n < 0 then -doubleSize n.natAbs 0 else doubleSize n.natAbs 0)
  | decimal m e => some (if m < 0 then -doubleSize m.natAbs e else doubleSize m.natAbs e)
  | _ => none

end TargetRegistrar.Json
