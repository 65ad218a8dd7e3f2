namespace Chip8

/-!
# Random bytes

The machine draws its random bytes either from a key that it carries along, or from a feed of
numbers that its host supplies.

* `RandomKey` — two 32-bit words, `RandomKey.mix` — the Threefry block function of twenty rounds;
* `RandomKey.next`, `RandomKey.byte` — the key after a draw and the byte that is drawn;
* `ByteSource` — where bytes come from, `ByteSource.draw` — one draw.
-/

/-- A key of two 32-bit words. -/
structure RandomKey where
  first : UInt32
  second : UInt32
deriving DecidableEq, Repr, Inhabited

/-- The word rotated to the left. -/
def rotateLeft32 (w : UInt32) (amount : UInt32) : UInt32 := w <<< amount ||| w >>> (32 - amount)

namespace RandomKey

/-- The rotations of one group of four rounds; even and odd groups take turns. -/
def rotations (group : Nat) : List UInt32 :=
  if group % 2 = 0 then [13, 15, 26, 6] else [17, 29, 16, 24]

/-- One round on a block. -/
def round (block : RandomKey) (rotation : UInt32) : RandomKey :=
  let first := block.first + block.second
  ⟨first, rotateLeft32 block.second rotation ^^^ first⟩

/-- The words that are added to the block in turns: the two of the key, and both combined with the
    Threefry constant. -/
def schedule (key : RandomKey) (i : Nat) : UInt32 :=
  if i % 3 = 0 then key.first
  else if i % 3 = 1 then key.second
  else key.first ^^^ key.second ^^^ 0x1BD11BDA

/-- One group of four rounds followed by the addition of key words. -/
def group (key block : RandomKey) (i : Nat) : RandomKey :=
  let mixed := (rotations i).foldl round block
  ⟨mixed.first + key.schedule (i + 1),
   mixed.second + key.schedule (i + 2) + UInt32.ofNat (i + 1)⟩

/-- A block mixed under a key. -/
def mix (key block : RandomKey) : RandomKey :=
  (List.range 5).foldl key.group
    ⟨block.first + key.schedule 0, block.second + key.schedule 1⟩

/-- The key of a seed: a zero word and the seed modulo `2 ^ 32`. -/
def ofSeed (seed : Int) : RandomKey := ⟨0, UInt32.ofNat (seed % 0x100000000).toNat⟩

/-- The key after a draw. -/
def next (key : RandomKey) : RandomKey := key.mix ⟨0, 0⟩

/-- The byte drawn from a key. -/
def byte (key : RandomKey) : UInt8 :=
  let word := ((key.mix ⟨0, 1⟩).mix ⟨0, 1⟩).mix ⟨0, 0⟩
  (word.first ^^^ word.second).toUInt8

end RandomKey

/-- Where random bytes come from: from the key of the state, or from a host whose answers are
    numbered in the order in which they are asked for. -/
inductive ByteSource
  /-- Bytes come from the key of the state. -/
  | key
  /-- The host gives `value k` when asked for the `k`-th time; it has been asked `calls` times. -/
  | feed (value : Nat → Int) (calls : Nat)

namespace ByteSource

instance : Inhabited ByteSource := ⟨key⟩

/-- A feed that repeats a list of numbers; an empty list gives zeros. -/
def cycle (values : List Int) : ByteSource :=
  .feed (fun k => values.getD (k % values.length) 0) 0

/-- How often the host has been asked. -/
def calls : ByteSource → Nat
  | .key => 0
  | .feed _ calls => calls

/-- One draw: the byte, the key afterwards and the source afterwards.  A feed gives its next number
    modulo 256 and leaves the key alone. -/
def draw (source : ByteSource) (key : RandomKey) : UInt8 × RandomKey × ByteSource :=
  match source with
  | .key => (key.byte, key.next, .key)
  | .feed value calls =>
    (UInt8.ofNat (value calls % 256).toNat, key, .feed value (calls + 1))

end ByteSource

end Chip8
