import Chip8.Text.Integer

namespace Chip8.Text

/-!
# Numbers with a point in text

Reading a number that may have a point and an exponent: blanks around it, one sign, then decimal
digits of any script, of which two may be parted by one underscore.  Infinities and the undefined
value are written as words in letters of either case.

* `ungrouped?` — a numeral without its underscores;
* `readScientific?` — digits, the place of the point and the exponent;
* `nearestFloat` — the float nearest to a numeral;
* `readReal?` — the whole text.
-/

/-- A numeral without the underscores that part two of its digits; there may be no others. -/
def ungrouped? : List Char → Option (List Char)
  | [] => some []
  | '_' :: _ => none
  | c :: '_' :: d :: rest =>
    if (decimalDigit? c).isSome && (decimalDigit? d).isSome then
      (ungrouped? (d :: rest)).map (c :: ·)
    else none
  | c :: rest => (ungrouped? rest).map (c :: ·)

/-- The decimal digits that a text begins with, and the rest. -/
def leadingDigits : List Char → List Nat × List Char
  | [] => ([], [])
  | c :: rest =>
    match decimalDigit? c with
    | some d => (d :: (leadingDigits rest).1, (leadingDigits rest).2)
    | none => ([], c :: rest)

/-- An exponent with its sign, which is all that is left of a numeral. -/
def readExponent? : List Char → Option Int
  | [] => some 0
  | mark :: rest =>
    if mark = 'e' ∨ mark = 'E' then
      let (negative, body) :=
        match rest with
        | '-' :: body => (true, body)
        | '+' :: body => (false, body)
        | body => (false, body)
      match leadingDigits body with
      | ([], _) => none
      | (ds, []) => some (if negative then -(digitsValue ds : Int) else digitsValue ds)
      | _ => none
    else none

/-- The digits of a numeral without sign, and the power of ten that the last of them stands for. -/
def readScientific? (cs : List Char) : Option (List Nat × Int) := do
  let (whole, rest) := leadingDigits cs
  let (fraction, rest) :=
    match rest with
    | '.' :: rest => leadingDigits rest
    | rest => ([], rest)
  if whole.isEmpty && fraction.isEmpty then none
  let exponent ← readExponent? rest
  pure (whole ++ fraction, exponent - fraction.length)

/-- Numbers of more than so many digits before the point are infinite, and those with as many zeros
    behind it are zero. -/
def farExponent : Int := 400

/-- The float nearest to some digits, of which the last one stands for a power of ten. -/
def nearestFloat (ds : List Nat) (power : Int) : Float :=
  let ds := ds.dropWhile (· = 0)
  let size := power + ds.length
  if ds.isEmpty || decide (size < -farExponent) then 0
  else if farExponent < size then 1 / 0
  else Float.ofScientific (digitsValue ds) (decide (power < 0)) power.natAbs

/-- The number without a sign that a text stands for. -/
def readMagnitudeReal? (cs : List Char) : Option Float :=
  match (String.ofList cs).toLower with
  | "inf" => some (1 / 0)
  | "infinity" => some (1 / 0)
  | "nan" => some (0 / 0)
  | _ => do
    let (ds, power) ← readScientific? (← ungrouped? cs)
    pure (nearestFloat ds power)

/-- The number a text stands for. -/
def readReal? (s : String) : Option Float :=
  match trimBlanks s.toList with
  | '-' :: cs => (readMagnitudeReal? cs).map (fun x => -x)
  | '+' :: cs => readMagnitudeReal? cs
  | cs => readMagnitudeReal? cs

end Chip8.Text
