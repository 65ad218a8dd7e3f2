import Chip8.Text.Numeral

namespace Chip8.Decimal

open Chip8.Text

/-!
# Doubles as exact numbers

A finite double is a sign, a whole mantissa and a power of two; everything said about it here is
exact arithmetic on those.

* `Double.ofFloat` — what the bits of a float stand for;
* `Binary.whole` — its whole part;
* `roundsToDouble` — which integers have a nearest double;
* `roundHalfEven` — a quotient rounded to the nearest whole number, a half to the even neighbour;
* `fixed` — a float with a given number of decimal places.
-/

/-- The number `mantissa * 2 ^ exponent`, negated when `negative` is set. -/
structure Binary where
  negative : Bool
  mantissa : Nat
  exponent : Int

/-- What a float stands for. -/
inductive Double
  | finite (value : Binary)
  | infinite (negative : Bool)
  | notANumber

/-- The value of a float, read off its sign, exponent and fraction bits. -/
def Double.ofFloat (x : Float) : Double :=
  let bits := x.toBits.toNat
  let negative := bits / 0x8000000000000000 % 2 == 1
  let exponent : Nat := bits / 0x10000000000000 % 2048
  let fraction := bits % 0x10000000000000
  if exponent = 2047 then
    if fraction = 0 then .infinite negative else .notANumber
  else if exponent = 0 then .finite ⟨negative, fraction, -1074⟩
  else .finite ⟨negative, 0x10000000000000 + fraction, (exponent : Int) - 1075⟩

/-- The whole part of a binary number, which drops what stands behind the point. -/
def Binary.whole (value : Binary) : Int :=
  let magnitude : Nat :=
    match value.exponent with
    | .ofNat e => value.mantissa * Nat.pow 2 e
    | .negSucc e => value.mantissa / Nat.pow 2 (e + 1)
  if value.negative then -magnitude else magnitude

/-- Half a step above the largest double. -/
def doubleLimit : Int := Int.pow 2 1024 - Int.pow 2 970

/-- Whether an integer rounds to a double.  From half a step above the largest one on it does not, a
    half going to the even neighbour, which would be the next power of two. -/
def roundsToDouble (z : Int) : Bool := decide (-doubleLimit < z) && decide (z < doubleLimit)

/-- The whole number nearest to `num / den`; of two equally near ones the even one. -/
def roundHalfEven (num den : Nat) : Nat :=
  let floor := num / den
  let rest := 2 * (num % den)
  if rest < den then floor
  else if den < rest then floor + 1
  else if floor % 2 = 0 then floor else floor + 1

/-- A whole number of units of `10 ^ -places`, written with that many places. -/
def placed (places units : Nat) : List Char :=
  let ds := (digits 10 units).leftpad (places + 1) '0'
  let whole := ds.take (ds.length - places)
  let fraction := ds.drop (ds.length - places)
  if places = 0 then whole else whole ++ '.' :: fraction

/-- How infinities and the undefined value are written. -/
def Double.special : Double → String
  | .finite _ => ""
  | .infinite true => "-inf"
  | .infinite false => "inf"
  | .notANumber => "nan"

/-- A binary number rounded to a whole number of units of `10 ^ -places`. -/
def Binary.units (value : Binary) (places : Nat) : Nat :=
  let scaled := value.mantissa * Nat.pow 10 places
  match value.exponent with
  | .ofNat e => scaled * Nat.pow 2 e
  | .negSucc e => roundHalfEven scaled (Nat.pow 2 (e + 1))

/-- A float with `places` decimal places: the exact value rounded, a half to the even neighbour. -/
def fixed (places : Nat) (x : Float) : String :=
  match Double.ofFloat x with
  | .finite value =>
    let body := placed places (value.units places)
    String.ofList (if value.negative then '-' :: body else body)
  | other => other.special

end Chip8.Decimal
