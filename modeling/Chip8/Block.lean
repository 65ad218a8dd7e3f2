import Chip8.Error

namespace Chip8

/-!
# Blocks

A host may give many numbers at once, in lists nested to any depth.  Lists that agree in their
lengths form a block.

* `Value.lengths`, `Value.misfit?`, `Value.leaves` — the lengths of lists, where they do not agree,
  and what they hold in the end;
* `Block`, `Block.ofValue` — what the lists of a value hold, with their lengths;
* `Value.holdsNull` — whether something is missing in a value;
* `Block.ofValue_int`, `Block.ofValue_ints` — the blocks of an integer and of a list of integers.
-/

namespace Value

mutual

/-- The lengths of a list, of its first item, and so on as far as there are lists. -/
def lengths : Value → List Nat
  | .list items => items.length :: lengthsOfFirst items
  | _ => []

/-- The lengths of the first of some items. -/
def lengthsOfFirst : List Value → List Nat
  | [] => []
  | first :: _ => first.lengths

end

mutual

/-- The least depth at which a value is not made of lists of the given lengths, if there is one. -/
def misfit? : List Nat → Value → Option Nat
  | [], .list _ => some 0
  | [], _ => none
  | n :: lengths, .list items =>
    if items.length = n then (misfitOfItems? lengths items).map (· + 1) else some 0
  | _ :: _, _ => some 0

/-- The least depth at which one of some items is not made of lists of the given lengths. -/
def misfitOfItems? : List Nat → List Value → Option Nat
  | _, [] => none
  | lengths, item :: rest =>
    match misfit? lengths item, misfitOfItems? lengths rest with
    | some a, some b => some (min a b)
    | some a, none => some a
    | none, other => other

end

mutual

/-- What the lists of a value hold in the end, in reading order. -/
def leaves : Value → List Value
  | .list items => leavesOfItems items
  | other => [other]

/-- What the lists of some items hold in the end. -/
def leavesOfItems : List Value → List Value
  | [] => []
  | item :: rest => item.leaves ++ leavesOfItems rest

end

mutual

/-- Whether a value is nothing, or holds nothing somewhere. -/
def holdsNull : Value → Bool
  | .null => true
  | .list items => itemsHoldNull items
  | .record entries => entriesHoldNull entries
  | _ => false

/-- Whether one of some items is or holds nothing. -/
def itemsHoldNull : List Value → Bool
  | [] => false
  | item :: rest => item.holdsNull || itemsHoldNull rest

/-- Whether one of some entries is or holds nothing. -/
def entriesHoldNull : List (String × Value) → Bool
  | [] => false
  | (_, item) :: rest => item.holdsNull || entriesHoldNull rest

end

/-- A list holds nothing if one of its items does. -/
@[simp] theorem itemsHoldNull_eq_any (items : List Value) :
    itemsHoldNull items = items.any holdsNull := by
  induction items with
  | nil => rfl
  | cons item rest ih => simp [itemsHoldNull, ih]

/-- Integers are no lists. -/
@[simp] theorem lengths_ints (components : List Int) :
    (Value.list (components.map Value.int)).lengths = [components.length] := by
  cases components <;> simp [lengths, lengthsOfFirst]

/-- Integers fit where no list is expected. -/
theorem misfitOfItems?_ints (components : List Int) :
    misfitOfItems? [] (components.map Value.int) = none := by
  induction components with
  | nil => simp [misfitOfItems?]
  | cons c rest ih => simp [misfitOfItems?, misfit?, ih]

/-- A plain list of integers fits its own length. -/
@[simp] theorem misfit?_ints (components : List Int) :
    misfit? [components.length] (.list (components.map Value.int)) = none := by
  simp [misfit?, misfitOfItems?_ints]

/-- A plain list of integers holds these integers. -/
@[simp] theorem leaves_ints (components : List Int) :
    (Value.list (components.map Value.int)).leaves = components.map Value.int := by
  simp only [leaves]
  induction components with
  | nil => simp [leavesOfItems]
  | cons c rest ih => simp [leavesOfItems, leaves, ih]

end Value

/-- What nested lists hold in the end, in reading order.  Their lengths, from the outermost list on,
    are those of `shape`, which is empty for a single item. -/
structure Block (α : Type) where
  shape : List Nat
  items : List α
deriving Repr, Inhabited

namespace Block

variable {α : Type}

/-- The lists of a value may be nested no deeper than this. -/
def maxDepth : Nat := 64

/-- The block of a value.  The lists have to agree in their lengths before anything is asked of what
    they hold. -/
def ofValue (read : Value → Except Error α) (v : Value) : Except Error (Block α) :=
  let shape := v.lengths.take maxDepth
  match v.misfit? shape with
  | some depth =>
    if depth = maxDepth then .error (.deepBlock maxDepth) else .error (.raggedBlock (shape.take depth))
  | none => do
    let items ← v.leaves.mapM read
    pure ⟨shape, items⟩

/-- The only item of a block without lists. -/
def single? (b : Block α) : Option α :=
  if b.shape.isEmpty then b.items.head? else none

/-- An integer is a block without lists. -/
theorem ofValue_int (read : Value → Except Error α) (n : Int) :
    ofValue read (.int n) = (read (.int n)).map fun item => ⟨[], [item]⟩ := by
  have hdepth : ([] : List Nat).take maxDepth = [] := rfl
  cases h : read (.int n) <;>
    simp [ofValue, Value.lengths, Value.misfit?, Value.leaves, hdepth, h, bind, Except.bind,
      Except.map, pure, Except.pure]

/-- A plain list of integers is a block of its own length. -/
theorem ofValue_ints (read : Value → Except Error α) (components : List Int) :
    ofValue read (.list (components.map Value.int))
      = ((components.map Value.int).mapM read).map fun items => ⟨[components.length], items⟩ := by
  have htake : [components.length].take maxDepth = [components.length] := rfl
  cases h : (components.map Value.int).mapM read <;>
    simp [ofValue, htake, h, bind, Except.bind, Except.map, pure, Except.pure]

end Block

end Chip8
