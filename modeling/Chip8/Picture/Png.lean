import Chip8.Picture

namespace Chip8.Picture

/-!
# Picture files

A picture as the bytes of a PNG file.

* `crc`, `adler` — the two check sums;
* `chunk` — a part of the file: its length, its name, its data and their check sum;
* `stored`, `zlib` — data in the compressed format, but without compression;
* `png` — the whole file.
-/

/-- The four bytes of a word, the highest first. -/
def wordBytes (w : UInt32) : List UInt8 :=
  [(w >>> 24).toUInt8, (w >>> 16).toUInt8, (w >>> 8).toUInt8, w.toUInt8]

/-- The four bytes of a number below `2 ^ 32`, the highest first. -/
def numberBytes (n : Nat) : List UInt8 := wordBytes (UInt32.ofNat n)

/-! ### Check sums -/

/-- The remainder after one more bit. -/
def crcBit (c : UInt32) : UInt32 := if c &&& 1 = 1 then c >>> 1 ^^^ 0xEDB88320 else c >>> 1

/-- The remainder after one more byte. -/
def crcByte (c : UInt32) (b : UInt8) : UInt32 := Nat.repeat crcBit 8 (c ^^^ b.toUInt32)

/-- The cyclic redundancy check of some bytes. -/
def crc (bytes : List UInt8) : UInt32 := bytes.foldl crcByte 0xFFFFFFFF ^^^ 0xFFFFFFFF

/-- The largest prime below `2 ^ 16`. -/
def adlerModulus : Nat := 65521

/-- The sum of some bytes and one, and the sum of these sums, each modulo a prime. -/
def adlerSums (bytes : List UInt8) : Nat × Nat :=
  bytes.foldl
    (fun sums b =>
      let first := (sums.1 + b.toNat) % adlerModulus
      (first, (sums.2 + first) % adlerModulus))
    (1, 0)

/-- The two sums of some bytes in one word. -/
def adler (bytes : List UInt8) : UInt32 :=
  let sums := adlerSums bytes
  UInt32.ofNat (65536 * sums.2 + sums.1)

/-! ### Parts of the file -/

/-- A part of the file under a name of four letters. -/
def chunk (name : String) (data : List UInt8) : List UInt8 :=
  let named := name.toUTF8.toList ++ data
  numberBytes data.length ++ named ++ wordBytes (crc named)

/-- The length of the longest block of stored data. -/
def blockLimit : Nat := 65535

/-- A block of stored data behind a byte that tells whether it is the last one, its length and the
    complement of its length, the low bytes first. -/
def block (last : UInt8) (data : List UInt8) : List UInt8 :=
  let n := UInt16.ofNat data.length
  [last, n.toUInt8, (n >>> 8).toUInt8, (~~~n).toUInt8, (~~~n >>> 8).toUInt8] ++ data

/-- Data as stored blocks. -/
def stored (data : List UInt8) : List UInt8 :=
  if data.length ≤ blockLimit then block 1 data
  else block 0 (data.take blockLimit) ++ stored (data.drop blockLimit)
termination_by data.length
decreasing_by simp only [blockLimit, List.length_drop] at *; omega

/-- Data in the compressed format: a header, the blocks and the check sum. -/
def zlib (data : List UInt8) : List UInt8 := [0x78, 0x01] ++ stored data ++ wordBytes (adler data)

/-! ### The file -/

/-- The eight bytes that every file begins with. -/
def signature : List UInt8 := [0x89, 0x50, 0x4E, 0x47, 0x0D, 0x0A, 0x1A, 0x0A]

/-- The size of a picture and its kind: eight bits for each of three colours. -/
def header (p : Picture) : List UInt8 :=
  numberBytes p.width ++ numberBytes p.height ++ [8, 2, 0, 0, 0]

/-- The rows of a picture, a zero byte in front of each. -/
def scanLines (p : Picture) : List UInt8 :=
  p.rows.flatMap fun row => 0 :: row.flatMap fun c => [c.red, c.green, c.blue]

/-- A picture as the bytes of a file. -/
def png (p : Picture) : List UInt8 :=
  signature ++ chunk "IHDR" p.header ++ chunk "IDAT" (zlib p.scanLines) ++ chunk "IEND" []

end Chip8.Picture
