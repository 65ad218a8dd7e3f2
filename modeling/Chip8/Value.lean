import Chip8.Decimal.Shortest
import Chip8.Text.Quoted

namespace Chip8

open Chip8.Text Chip8.Decimal

/-!
# Host values

A host may hand over a value of any kind where the machine expects a number or a switch.  Such a
value is judged (`Value.natBelow?`, `Value.integer?`, `Value.isTrue`, `Value.truth?`) and, when it
is refused, shown in the message (`Value.shown`).
-/

/-- A value a host hands over. -/
inductive Value
  | null
  | bool (b : Bool)
  | int (n : Int)
  | float (x : Float)
  | text (s : String)
  | list (items : List Value)
  | record (entries : List (String × Value))
deriving Inhabited

namespace Value

mutual

/-- A value as messages show it. -/
def shown : Value → String
  | .null => "None"
  | .bool true => "True"
  | .bool false => "False"
  | .int n => decimal n
  | .float x => shortest x
  | .text s => quoted s
  | .list items => "[" ++ ", ".intercalate (shownItems items) ++ "]"
  | .record entries => "\x7b" ++ ", ".intercalate (shownEntries entries) ++ "\x7d"

/-- The items of a list, each as messages show it. -/
def shownItems : List Value → List String
  | [] => []
  | item :: rest => item.shown :: shownItems rest

/-- The entries of a record, each as messages show it. -/
def shownEntries : List (String × Value) → List String
  | [] => []
  | (key, item) :: rest => (quoted key ++ ": " ++ item.shown) :: shownEntries rest

end

/-- A value as a plain text: a text is shown without quotes, anything else as in a message. -/
def plain : Value → String
  | .text s => s
  | other => other.shown

/-- Whether a value counts as true: zero, nothing and empty do not. -/
def isTrue : Value → Bool
  | .null => false
  | .bool b => b
  | .int n => n != 0
  | .float x => x != 0
  | .text s => !s.isEmpty
  | .list items => !items.isEmpty
  | .record entries => !entries.isEmpty

/-- The truth value that a value is or, being zero or one, equals. -/
def truth? : Value → Option Bool
  | .bool b => some b
  | .int n => if n = 0 then some false else if n = 1 then some true else none
  | .float x => if x == 0 then some false else if x == 1 then some true else none
  | _ => none

/-- The number a value counts as where truth values count as zero and one. -/
def integer? : Value → Option Int
  | .int n => some n
  | .bool b => some (if b then 1 else 0)
  | _ => none

/-- A number that may not be known, as a value. -/
def optional : Option Int → Value
  | none => .null
  | some n => .int n

/-- The number a value stands for, if it is an integer from zero up to below `limit`.  Truth values
    and floats are no integers. -/
def natBelow? (limit : Nat) : Value → Option (Fin limit)
  | .int n => if h : 0 ≤ n ∧ n < limit then some ⟨n.toNat, by omega⟩ else none
  | _ => none

/-- Exactly the integers in the range pass. -/
theorem natBelow?_eq_some_iff {limit : Nat} {v : Value} {k : Fin limit} :
    v.natBelow? limit = some k ↔ ∃ n : Int, v = .int n ∧ n = k.val := by
  cases v with
  | int n =>
    simp only [natBelow?, Value.int.injEq]
    constructor
    · intro h
      split at h
      · next hn => cases h; exact ⟨n, rfl, by simp; omega⟩
      · cases h
    · rintro ⟨m, rfl, rfl⟩
      have := k.isLt
      rw [dif_pos (by omega)]
      simp
  | _ => simp [natBelow?]

end Value

end Chip8
