import Chip8.Capacity
import Chip8.Error
import Chip8.Text.HexBytes

namespace Chip8

open Chip8.Text

/-!
# Program images

A program image as a host gives it: bytes, a value that bytes are made of, or its bytes in
hexadecimal with what fills them up.

* `Image.ofValue` — the bytes of a text;
* `Image.filling` — zeros, as many as asked for, or the given bytes;
* `Image.filled` — both;
* `Image.ofValue_bytesText` — bytes that were written are read back;
* `Rom` — an image of any kind, `Rom.ofBytes` — bytes, `Rom.ofValue` — any other value.
-/

namespace Image

/-- The bytes of a text in hexadecimal. -/
def ofValue : Value → Except Error (List UInt8)
  | .text s => (readBytes s).mapError Error.noHexDigit
  | _ => .error .wrongKind

/-- That many zeros, if there is room for them. -/
def zeros (room : Nat) (n : Int) : Except Error (List UInt8) :=
  if !isSystemNumber n then .error .outOfRange
  else if n < 0 then .error .negativeCount
  else if room ≤ n.toNat then .error .outOfMemory
  else .ok (List.replicate n.toNat 0)

/-- A byte that is listed. -/
def listedByte (v : Value) : Except Error UInt8 := do
  let n ← v.integer
  if 0 ≤ n ∧ n < 256 then pure (UInt8.ofNat n.toNat) else throw .noByte

/-- What fills an image up: that many zeros, or the bytes of a list.  A record that is empty gives
    none, as a list does. -/
def filling (room : Nat) : Value → Except Error (List UInt8)
  | .list items => items.mapM listedByte
  | .record [] => .ok []
  | v => do
    let n ← v.integer
    zeros room n

/-- The bytes of an image followed by what fills it up. -/
def filled (digits padding : Value) : Except Error (List UInt8) := do
  let bytes ← ofValue digits
  let rest ← filling memoryLimit padding
  pure (bytes ++ rest)

/-- Bytes that were written are read back. -/
theorem ofValue_bytesText (bytes : List UInt8) : ofValue (.text (bytesText bytes)) = .ok bytes := by
  rw [ofValue, readBytes_bytesText]
  rfl

end Image

/-! ### Images of any kind -/

/-- A program image as a host hands it over: the bytes that are made of it, and its length.  There
    may be neither, and one without the other. -/
structure Rom where
  bytes : Except Error (List UInt8)
  size : Except Error Nat

namespace Rom

/-- Bytes are an image as they are. -/
def ofBytes (bytes : List UInt8) : Rom := ⟨.ok bytes, .ok bytes.length⟩

instance : Coe (List UInt8) Rom := ⟨ofBytes⟩

instance : Inhabited Rom := ⟨ofBytes []⟩

/-- How long a value is.  Only texts, lists and records have a length. -/
def sizeOf : Value → Except Error Nat
  | .text s => .ok s.length
  | .list items => .ok items.length
  | .record entries => .ok entries.length
  | _ => .error .wrongKind

/-- Any value as an image, with room for so many bytes.  A number gives zeros but has no length, and
    a text gives no bytes. -/
def ofValue (room : Nat) (v : Value) : Rom := ⟨Image.filling room v, sizeOf v⟩

end Rom

end Chip8
