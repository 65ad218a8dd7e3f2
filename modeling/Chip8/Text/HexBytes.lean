import Chip8.Text.DecimalDigit
import Chip8.Text.Numeral

namespace Chip8.Text

/-!
# Bytes in hexadecimal

Bytes as text: two hexadecimal digits for each, in lower case when they are written.  Blanks may
stand between the bytes that are read, and the position of the first character that does not fit is
reported.

* `bytesText` — bytes written;
* `readBytes` — bytes read;
* `readBytes_bytesText` — what is written is read back.
-/

/-- The lower-case character of a digit below 16. -/
def lowDigitChar (d : Nat) : Char := (digitChar d).toLower

/-- The two digits of a byte. -/
def byteChars (b : UInt8) : List Char := [lowDigitChar (b.toNat / 16), lowDigitChar (b.toNat % 16)]

/-- Bytes as text. -/
def bytesText (bytes : List UInt8) : String := String.ofList (bytes.flatMap byteChars)

/-- The characters of ASCII that may stand between bytes. -/
def partsBytes (c : Char) : Bool := c == ' ' || (decide (9 ≤ c.toNat) && decide (c.toNat ≤ 13))

/-- The bytes of some characters of ASCII that begin at a position, or the position of the first one
    that does not fit. -/
def bytesFrom (position : Nat) : List Char → Except Nat (List UInt8)
  | [] => .ok []
  | a :: rest =>
    if partsBytes a then bytesFrom (position + 1) rest
    else
      match hexDigit? a, rest with
      | none, _ => .error position
      | some _, [] => .error (position + 1)
      | some high, b :: rest =>
        match hexDigit? b with
        | none => .error (position + 1)
        | some low => (bytesFrom (position + 2) rest).map (UInt8.ofNat (16 * high + low) :: ·)

/-- Whether a character belongs to ASCII. -/
def isAscii (c : Char) : Bool := decide (c.toNat < 128)

/-- The bytes of a text, or the position of the first character that does not fit.  Characters
    outside of ASCII are looked for first. -/
def readBytes (s : String) : Except Nat (List UInt8) :=
  match s.toList.findIdx? (fun c => !isAscii c) with
  | some position => .error position
  | none => bytesFrom 0 s.toList

/-- The digits are read as what they stand for. -/
theorem hexDigit?_lowDigitChar : ∀ d < 16, hexDigit? (lowDigitChar d) = some d := by
  decide

/-- The digits are characters of ASCII, and not blank. -/
theorem lowDigitChar_plain : ∀ d < 16,
    isAscii (lowDigitChar d) = true ∧ partsBytes (lowDigitChar d) = false := by
  decide

/-- A byte is read back. -/
theorem bytesFrom_byteChars (position : Nat) (b : UInt8) (rest : List Char) :
    bytesFrom position (byteChars b ++ rest)
      = (bytesFrom (position + 2) rest).map (b :: ·) := by
  have hb := b.toNat_lt
  have hhigh : b.toNat / 16 < 16 := by omega
  have hlow : b.toNat % 16 < 16 := by omega
  have hbyte : UInt8.ofNat (16 * (b.toNat / 16) + b.toNat % 16) = b := by
    rw [show 16 * (b.toNat / 16) + b.toNat % 16 = b.toNat by omega]
    simp
  simp [byteChars, bytesFrom, (lowDigitChar_plain _ hhigh).2, hexDigit?_lowDigitChar _ hhigh,
    hexDigit?_lowDigitChar _ hlow, hbyte]

/-- What is written belongs to ASCII. -/
theorem isAscii_of_mem_byteChars {b : UInt8} {c : Char} (h : c ∈ byteChars b) :
    isAscii c = true := by
  have hb := b.toNat_lt
  simp only [byteChars, List.mem_cons, List.not_mem_nil, or_false] at h
  rcases h with rfl | rfl
  · exact (lowDigitChar_plain _ (by omega)).1
  · exact (lowDigitChar_plain _ (by omega)).1

/-- Bytes that were written are read back. -/
theorem readBytes_bytesText (bytes : List UInt8) : readBytes (bytesText bytes) = .ok bytes := by
  have hascii : (bytes.flatMap byteChars).findIdx? (fun c => !isAscii c) = none := by
    rw [List.findIdx?_eq_none_iff]
    intro c hc
    obtain ⟨b, _, hb⟩ := List.mem_flatMap.1 hc
    simp [isAscii_of_mem_byteChars hb]
  have hread : ∀ position, bytesFrom position (bytes.flatMap byteChars) = .ok bytes := by
    clear hascii
    induction bytes with
    | nil => intro position; rfl
    | cons b rest ih =>
      intro position
      rw [List.flatMap_cons, bytesFrom_byteChars, ih]
      rfl
  simp [readBytes, bytesText, hascii, hread]

end Chip8.Text
