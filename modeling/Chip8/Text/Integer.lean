import Chip8.Text.DecimalDigit

namespace Chip8.Text

/-!
# Integers in text

Reading an integer: blanks around it, one sign, then decimal digits of any script, of which two may
be parted by one underscore.

* `isBlank` — the characters that may surround a number;
* `digitsValue` — the value of some digits;
* `digitGroups?` — the digits of a numeral, with a digit on either side of every underscore;
* `readInteger?` — the whole text;
* `tooManyDigits?` — the length of a numeral that is too long to be read;
* `readInteger?_digits` — decimal digits are read as their value.
-/

/-- The characters that may surround a number. -/
def isBlank (c : Char) : Bool :=
  let n := c.toNat
  (decide (9 ≤ n) && decide (n ≤ 13)) || n == 32 || n == 0x85 || n == 0xA0 || n == 0x1680
    || (decide (0x2000 ≤ n) && decide (n ≤ 0x200A)) || n == 0x2028 || n == 0x2029 || n == 0x202F
    || n == 0x205F || n == 0x3000

/-- A text without the blanks at its two ends. -/
def trimBlanks (cs : List Char) : List Char :=
  ((cs.dropWhile isBlank).reverse.dropWhile isBlank).reverse

/-- The digits of a numeral without sign; an underscore may stand between two of them. -/
def digitGroups? : List Char → Option (List Nat)
  | [] => none
  | [c] => (decimalDigit? c).map ([·])
  | c :: '_' :: rest => do
    let d ← decimalDigit? c
    let ds ← digitGroups? rest
    pure (d :: ds)
  | c :: rest => do
    let d ← decimalDigit? c
    let ds ← digitGroups? rest
    pure (d :: ds)

/-- The value of some decimal digits. -/
def digitsValue (ds : List Nat) : Nat := ds.foldl (fun value d => 10 * value + d) 0

/-- The greatest number of digits a numeral may have. -/
def maxDigits : Nat := 4300

/-- The value of a numeral without sign. -/
def readMagnitude? (cs : List Char) : Option Nat := do
  let ds ← digitGroups? cs
  if ds.length ≤ maxDigits then pure (digitsValue ds) else none

/-- The integer a text stands for. -/
def readInteger? (s : String) : Option Int :=
  match trimBlanks s.toList with
  | '-' :: cs => (readMagnitude? cs).map (fun n => -(n : Int))
  | '+' :: cs => (readMagnitude? cs).map (fun n => (n : Int))
  | cs => (readMagnitude? cs).map (fun n => (n : Int))

/-- The number of digits of the numeral that a text without sign begins with, if it may not have
    that many.  What follows the numeral does not matter. -/
def excessDigits? (cs : List Char) : Option Nat :=
  match digitGroups? (cs.takeWhile fun c => (decimalDigit? c).isSome || c == '_') with
  | some ds => if maxDigits < ds.length then some ds.length else none
  | none => none

/-- The number of digits of the numeral that a text begins with, if it may not have that many. -/
def tooManyDigits? (s : String) : Option Nat :=
  match trimBlanks s.toList with
  | '-' :: cs => excessDigits? cs
  | '+' :: cs => excessDigits? cs
  | cs => excessDigits? cs

/-! ### Numerals of digits alone -/

/-- A digit is read as itself; it is neither a blank nor a sign nor an underscore. -/
theorem digitChar_reads {d : Nat} (h : d < 10) :
    decimalDigit? d.digitChar = some d ∧ isBlank d.digitChar = false ∧ d.digitChar ≠ '_' ∧
      d.digitChar ≠ '-' ∧ d.digitChar ≠ '+' := by
  revert d
  decide

/-- Digits without underscores are those of the numeral. -/
theorem digitGroups?_digits {d : Nat} {ds : List Nat} (h : ∀ e ∈ d :: ds, e < 10) :
    digitGroups? ((d :: ds).map Nat.digitChar) = some (d :: ds) := by
  induction ds generalizing d with
  | nil =>
    have hd := (digitChar_reads (h d List.mem_cons_self)).1
    simp [digitGroups?, hd]
  | cons e rest ih =>
    obtain ⟨hfirst, hrest⟩ := List.forall_mem_cons.mp h
    have hd := (digitChar_reads hfirst).1
    have hplain := (digitChar_reads (hrest e List.mem_cons_self)).2.2.1
    have hothers := ih hrest
    rw [List.map_cons] at hothers ⊢
    rw [List.map_cons, digitGroups?, hd, hothers]
    · rfl
    · simp
    · simp [hplain]

/-- There are no blanks around digits. -/
theorem trimBlanks_digits {ds : List Nat} (h : ∀ e ∈ ds, e < 10) :
    trimBlanks (ds.map Nat.digitChar) = ds.map Nat.digitChar := by
  have hkeeps {es : List Nat} (hes : ∀ e ∈ es, e < 10) :
      (es.map Nat.digitChar).dropWhile isBlank = es.map Nat.digitChar := by
    cases es with
    | nil => rfl
    | cons e rest =>
      have := (digitChar_reads (hes e List.mem_cons_self)).2.1
      simp [this]
  have hreverse : ∀ e ∈ ds.reverse, e < 10 := fun e he => h e (List.mem_reverse.mp he)
  rw [trimBlanks, hkeeps h, ← List.map_reverse, hkeeps hreverse, List.map_reverse, List.reverse_reverse]

/-- **Decimal digits are read as their value**, if they are not too many. -/
theorem readInteger?_digits {d : Nat} {ds : List Nat} (h : ∀ e ∈ d :: ds, e < 10)
    (hlength : (d :: ds).length ≤ maxDigits) :
    readInteger? (String.ofList ((d :: ds).map Nat.digitChar)) = some (digitsValue (d :: ds) : Int) := by
  obtain ⟨-, -, -, hminus, hplus⟩ := digitChar_reads (h d List.mem_cons_self)
  have hmagnitude : readMagnitude? ((d :: ds).map Nat.digitChar) = some (digitsValue (d :: ds)) := by
    rw [readMagnitude?, digitGroups?_digits h]
    exact if_pos hlength
  unfold readInteger?
  rw [String.toList_ofList, trimBlanks_digits h]
  rw [List.map_cons] at hmagnitude ⊢
  split
  · next heq => exact absurd (List.cons.inj heq).1 hminus
  · next heq => exact absurd (List.cons.inj heq).1 hplus
  · rw [hmagnitude]
    rfl

end Chip8.Text
