import Chip8.State

namespace Chip8

/-!
# Reports

What changed between two states.

* `Memory.changes` — the maximal stretches of changed bytes;
* `Screen.changes` — the changed rows.
-/

/-- A stretch of changed bytes under construction: where it starts, where it goes on, and its bytes
    from the last to the first. -/
structure Stretch where
  start : Nat
  next : Nat
  bytes : List UInt8

/-- One more changed byte after stretches that are listed last to first. -/
def addChange (stretches : List Stretch) (i : Nat) (byte : UInt8) : List Stretch :=
  match stretches with
  | s :: rest =>
    if s.next = i then ⟨s.start, i + 1, byte :: s.bytes⟩ :: rest
    else ⟨i, i + 1, [byte]⟩ :: stretches
  | [] => [⟨i, i + 1, [byte]⟩]

/-- The maximal stretches of bytes that differ, each with its address and its new bytes. -/
def Memory.changes (old new : Memory) : List (Nat × List UInt8) :=
  let stretches := (List.finRange 4096).foldl
    (fun found (i : Fin 4096) =>
      if old.cells[i] = new.cells[i] then found else addChange found i.val new.cells[i]) []
  stretches.reverse.map (fun s => (s.start, s.bytes.reverse))

/-- The rows that differ, each with its number and its new pixels. -/
def Screen.changes (old new : Screen) : List (Nat × BitVec 64) :=
  (List.finRange 32).filterMap fun y =>
    if old.row y = new.row y then none else some (y.val, new.row y)

end Chip8
