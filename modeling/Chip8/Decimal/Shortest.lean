import Chip8.Decimal.Double

namespace Chip8.Decimal

open Chip8.Text

/-!
# The shortest decimal that reads back

A double is written with the fewest significant digits that read back as the same double, and with
the nearest of those decimals when several have that many digits.

* `Span` — the numbers that read back as one double, as fractions over one denominator;
* `Scientific` — a decimal number: digits and a power of ten;
* `Binary.scientific` — the decimal chosen for a double;
* `shortest` — the text: positional from `0.0001` up to below `10 ^ 16`, with an exponent of at
  least two digits outside of that.
-/

/-- The numbers that read back as one double: those between `low / den` and `high / den`, the ends
    belonging to them when `closed` is set.  The double itself is `value / den`. -/
structure Span where
  low : Nat
  value : Nat
  high : Nat
  den : Nat
  closed : Bool

/-- The span of a positive double.  Below a power of two the neighbours are half as far away. -/
def Binary.span (b : Binary) : Span :=
  let value := 4 * b.mantissa
  let low := if b.mantissa = 0x10000000000000 ∧ -1074 < b.exponent then value - 1 else value - 2
  let high := value + 2
  let closed := b.mantissa % 2 == 0
  match b.exponent - 2 with
  | .ofNat e => ⟨low * Nat.pow 2 e, value * Nat.pow 2 e, high * Nat.pow 2 e, 1, closed⟩
  | .negSucc e => ⟨low, value, high, Nat.pow 2 (e + 1), closed⟩

/-- The span measured in units of `10 ^ exponent`. -/
def Span.scale (s : Span) : Int → Span
  | .ofNat e => { s with den := s.den * Nat.pow 10 e }
  | .negSucc e =>
    let f := Nat.pow 10 (e + 1)
    { s with low := s.low * f, value := s.value * f, high := s.high * f }

/-- Whether a whole number of units lies in the span. -/
def Span.contains (s : Span) (units : Nat) : Bool :=
  let n := units * s.den
  if s.closed then decide (s.low ≤ n) && decide (n ≤ s.high)
  else decide (s.low < n) && decide (n < s.high)

/-- The whole number of units chosen for the span, if one of the two neighbours of the value lies in
    it: the nearer one, and of two equally near ones the even one. -/
def Span.nearest? (s : Span) : Option Nat :=
  let below := s.value / s.den
  let above := below + 1
  let toBelow := s.value - below * s.den
  let toAbove := above * s.den - s.value
  match s.contains below, s.contains above with
  | true, true =>
    if toBelow < toAbove then some below
    else if toAbove < toBelow then some above
    else if below % 2 = 0 then some below else some above
  | true, false => some below
  | false, true => some above
  | false, false => none

/-- The power of ten of the first digit of the value: `10 ^ order ≤ value / den < 10 ^ (order +
    1)`. -/
def Span.order (s : Span) : Int :=
  if s.den ≤ s.value then ((digits 10 (s.value / s.den)).length : Int) - 1
  else
    match (List.range 400).find? (fun k => decide (s.den ≤ s.value * Nat.pow 10 (k + 1))) with
    | some k => -((k : Int) + 1)
    | none => 0

/-- The decimal number `units * 10 ^ exponent`. -/
structure Scientific where
  units : Nat
  exponent : Int

/-- The decimal chosen among those with `count` significant digits or fewer missing ones: the search
    adds a digit until a decimal falls into the span. -/
def Span.search (s : Span) (order : Int) : Nat → Nat → Scientific
  | 0, count => ⟨(s.scale (order - count)).value / (s.scale (order - count)).den, order - count⟩
  | tries + 1, count =>
    match (s.scale (order - count)).nearest? with
    | some units => ⟨units, order - count⟩
    | none => s.search order tries (count + 1)

/-- The decimal chosen for a positive double; seventeen digits are always enough. -/
def Binary.scientific (b : Binary) : Scientific :=
  let s := b.span
  s.search s.order 17 0

/-- The digits of a decimal without the zeros at its end. -/
def significant (units : Nat) : List Char :=
  ((digits 10 units).reverse.dropWhile (· == '0')).reverse

/-- An exponent with its sign and at least two digits. -/
def exponentChars (e : Int) : List Char :=
  let sign := if e < 0 then '-' else '+'
  'e' :: sign :: (digits 10 e.natAbs).leftpad 2 '0'

/-- A positive decimal as text. -/
def Scientific.chars (d : Scientific) : List Char :=
  let ds := significant d.units
  let point : Int := (digits 10 d.units).length + d.exponent
  if -4 < point ∧ point ≤ 16 then
    if point ≤ 0 then '0' :: '.' :: (List.replicate (-point).toNat '0' ++ ds)
    else
      let whole := (ds.take point.toNat).rightpad point.toNat '0'
      let fraction := ds.drop point.toNat
      whole ++ '.' :: (if fraction.isEmpty then ['0'] else fraction)
  else
    match ds with
    | [] => []
    | [d] => d :: exponentChars (point - 1)
    | d :: rest => d :: '.' :: (rest ++ exponentChars (point - 1))

/-- A float as the shortest decimal that reads back as it. -/
def shortest (x : Float) : String :=
  match Double.ofFloat x with
  | .finite value =>
    let body := if value.mantissa = 0 then ['0', '.', '0'] else value.scientific.chars
    String.ofList (if value.negative then '-' :: body else body)
  | other => other.special

end Chip8.Decimal
