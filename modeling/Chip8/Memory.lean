import Chip8.Fault
import Chip8.Number32

namespace Chip8

/-!
# Memory

The 4096 bytes of memory.  Reading and writing never fail: a read past the end gives the last byte,
and a write past the end is dropped.  Whether an access is in bounds is a question of its own.

* `Memory.byteAt`, `Memory.readBytes` — reading;
* `Memory.writeByte`, `Memory.writeBytes` — writing;
* `outOfBounds`, `checkRange` — the two range tests, in 32-bit and in unbounded numbers;
* `byteAt_writeByte`, `byteAt_writeBytes` — a write changes its own bytes and no others.
-/

/-- The number of bytes in memory. -/
def memorySize : Nat := 4096

/-- The contents of memory. -/
structure Memory where
  cells : Vector UInt8 4096
deriving DecidableEq, Repr

namespace Memory

/-- Memory full of zeros. -/
def zero : Memory := ⟨Vector.replicate 4096 0⟩

instance : Inhabited Memory := ⟨zero⟩

/-- The cell an index reads from.  Past the end it is the last cell; a negative index counts back
    from the end and stops at the first cell. -/
def cell (i : Int) : Fin 4096 :=
  if h : i < 0 then ⟨(i + 4096).toNat, by omega⟩ else ⟨min i.toNat 4095, by omega⟩

/-- A natural index reads from itself up to the last cell. -/
theorem cell_natCast (i : Nat) : (cell (i : Int)).val = min i 4095 := by
  simp only [cell]
  split
  · omega
  · simp

/-- The byte an index reads. -/
def byteAt (m : Memory) (i : Int) : UInt8 := m.cells[cell i]

/-- A natural index reads its own byte, or the last one when it is past the end. -/
theorem byteAt_natCast (m : Memory) (i : Nat) : m.byteAt (i : Int) = m.cells[min i 0xFFF] := by
  rw [byteAt, Fin.getElem_fin]
  simp only [cell_natCast]

/-- The bytes that `size` indices from `address` on read, each index being a 32-bit sum. -/
def readBytes (m : Memory) (address : Int) (size : Nat) : List UInt8 :=
  (List.range size).map (fun (k : Nat) => m.byteAt (wrap32 (address + k)))

/-- The number of bytes read. -/
@[simp] theorem length_readBytes (m : Memory) (address : Int) (size : Nat) :
    (m.readBytes address size).length = size := by
  simp [readBytes]

/-- The `k`-th byte read, as long as its index is a 32-bit number. -/
theorem getElem?_readBytes (m : Memory) {address : Int} {size k : Nat} (h : k < size)
    (h₀ : -0x80000000 ≤ address) (h₁ : address + k < 0x80000000) :
    (m.readBytes address size)[k]? = some (m.byteAt (address + k)) := by
  simp [readBytes, h, wrap32_of_fits (show -0x80000000 ≤ address + (k : Int) by omega) h₁]

/-- The word at an address, its high byte first. -/
def wordAt (m : Memory) (address : Int) : UInt16 :=
  (m.byteAt address).toUInt16 <<< 8 ||| (m.byteAt (address + 1)).toUInt16

/-- Memory with one byte replaced.  A negative index counts back from the end; an index outside of
    memory changes nothing. -/
def writeByte (m : Memory) (i : Int) (value : UInt8) : Memory :=
  let k := if i < 0 then i + 4096 else i
  if k < 0 then m else ⟨m.cells.setIfInBounds k.toNat value⟩

/-- Memory with the first `count` of `values` written from `address` on. -/
def writeBytes (m : Memory) (address : Int) : List UInt8 → Int → Memory
  | [], _ => m
  | value :: rest, count =>
    if count ≤ 0 then m else (m.writeByte address value).writeBytes (address + 1) rest (count - 1)

/-- A write to an index inside memory changes that byte and no other. -/
theorem byteAt_writeByte (m : Memory) (value : UInt8) (i : Nat) {j : Nat} (hj : j < 4096) :
    (m.writeByte i value).byteAt j = if i = j then value else m.byteAt j := by
  have hcell : cell (j : Int) = ⟨j, hj⟩ := Fin.ext (by rw [cell_natCast]; simp only; omega)
  have hi : ¬ (i : Int) < 0 := by omega
  simp [byteAt, hcell, writeByte, hi, Vector.getElem_setIfInBounds]

/-- A write of several bytes changes those that they land on and no others. -/
theorem byteAt_writeBytes (m : Memory) (values : List UInt8) (address count : Nat) {j : Nat}
    (hj : j < 4096) :
    (m.writeBytes address values count).byteAt j =
      if address ≤ j ∧ j < address + count then (values[j - address]?).getD (m.byteAt j)
      else m.byteAt j := by
  -- The address moves on and the count goes down with every byte that is written.
  induction values generalizing m address count with
  | nil => simp [writeBytes]
  | cons value rest ih =>
    cases count with
    | zero =>
      have hnone : ¬ (address ≤ j ∧ j < address + 0) := by omega
      rw [if_neg hnone]
      rfl
    | succ count =>
      have hwrite : m.writeBytes address (value :: rest) (count + 1 : Nat) =
          (m.writeByte address value).writeBytes (address + 1 : Nat) rest count := by
        have hpositive : ¬ ((count + 1 : Nat) : Int) ≤ 0 := by omega
        have hcount : ((count + 1 : Nat) : Int) - 1 = count := by omega
        rw [writeBytes, if_neg hpositive, hcount]
        rfl
      rw [hwrite, ih, byteAt_writeByte m value address hj]
      rcases Nat.lt_trichotomy j address with hlt | rfl | hgt
      · rw [if_neg (by omega), if_neg (by omega), if_neg (by omega)]
      · rw [if_neg (by omega), if_pos rfl, if_pos (by omega), Nat.sub_self]
        rfl
      · -- Behind its own address the first byte is one place nearer.
        have hplace : j - address = j - (address + 1) + 1 := by omega
        have hsame : (address + 1 ≤ j ∧ j < address + 1 + count) ↔
            (address ≤ j ∧ j < address + (count + 1)) := by omega
        rw [if_neg (by omega : ¬ address = j), hplace, List.getElem?_cons_succ]
        simp only [hsame]

/-- Memories with the same bytes are the same. -/
theorem ext_byteAt {m m' : Memory} (h : ∀ j < 4096, m.byteAt (j : Nat) = m'.byteAt (j : Nat)) :
    m = m' := by
  have hcells : m.cells = m'.cells := by
    apply Vector.ext
    intro j hj
    have hbyte := h j hj
    rw [byteAt_natCast, byteAt_natCast] at hbyte
    simpa only [Nat.min_eq_left (Nat.le_of_lt_succ hj)] using hbyte
  cases m
  cases m'
  exact congrArg mk hcells

end Memory

/-! ### Range tests -/

/-- Whether an access of `length` bytes at `address` runs past the end of memory, the end of the
    access being a 32-bit sum. -/
def outOfBounds (address length : Int) : Bool := decide (wrap32 (address + length) > 4096)

/-- The 32-bit sum is the sum for all addresses and lengths of the machine. -/
theorem outOfBounds_iff {address length : Int} (h₀ : -0x80000000 ≤ address + length)
    (h₁ : address + length < 0x80000000) :
    outOfBounds address length = true ↔ 4096 < address + length := by
  simp [outOfBounds, wrap32_of_fits h₀ h₁]

/-- The fault of an access of `length` bytes at `address` that does not lie inside memory. -/
def checkRange (address length : Int) (pc : Option Int) : Except Fault Unit :=
  if address < 0 ∨ 4096 < address + length then .error (.memoryOutOfBounds address length pc)
  else .ok ()

end Chip8
