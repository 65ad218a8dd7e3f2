import Chip8.Instruction.Listing
import Chip8.Proofs.Numerals
import Chip8.Proofs.Pattern
import Mathlib.Algebra.GroupWithZero.Nat
import Mathlib.Data.List.TakeWhile

namespace Chip8

open Chip8.Text

/-!
# Assembly

Listings can be assembled again.  A line of a listing is a mnemonic with operands; the text of the
line is read back operand by operand, and the mnemonic together with the kinds of its operands tells
the operation.

* `Keyword`, `Operand`, `Mnemonic`, `Statement` — what a line consists of, and its text;
* `Operand.read?_text`, `Statement.read?_text` — every line is read back from its text;
* `Word.statement`, `listing_eq_text` — the line that a word is listed as;
* `Statement.word?`, `word?_statement` — the word of a line;
* `assemble`, `listing_determines_word` — so a listing determines its word.
-/

/-! ### Operands -/

/-- A part of the machine that is an operand by its name. -/
inductive Keyword
  /-- The index register. -/
  | index
  /-- Memory from the index register on. -/
  | indexed
  | delayTimer
  | soundTimer
  /-- A key that is waited for. -/
  | key
  /-- The glyph of a digit. -/
  | glyph
  /-- The three decimal digits of a byte. -/
  | decimal
deriving DecidableEq, Repr

namespace Keyword

/-- All keywords. -/
def all : List Keyword := [index, indexed, delayTimer, soundTimer, key, glyph, decimal]

/-- The name of a keyword. -/
def name : Keyword → String
  | index => "I"
  | indexed => "[I]"
  | delayTimer => "DT"
  | soundTimer => "ST"
  | key => "K"
  | glyph => "F"
  | decimal => "B"

/-- The keyword of a name. -/
def named? (s : String) : Option Keyword := all.find? fun keyword => keyword.name == s

/-- Every keyword has its name. -/
@[simp] theorem named?_name (keyword : Keyword) : named? keyword.name = some keyword := by
  cases keyword <;> decide

/-- There are no commas and no blanks in a name. -/
theorem plain_of_mem_name (keyword : Keyword) : ∀ c ∈ keyword.name.toList, c ≠ ',' ∧ c ≠ ' ' := by
  cases keyword <;> simp [name]

end Keyword

/-- An operand of a line. -/
inductive Operand
  | register (r : Fin 16)
  | byte (b : UInt8)
  | address (a : Fin 4096)
  | word (w : Word)
  | height (n : Fin 16)
  | keyword (k : Keyword)
deriving DecidableEq, Repr

namespace Operand

/-- The text of an operand. -/
def text : Operand → String
  | register r => registerText r
  | byte b => byteText b
  | address a => addressText a
  | word w => "0x" ++ hex 4 w.toNat
  | height n => Text.decimal n.val
  | keyword k => k.name

/-- A number below sixteen. -/
def nibble? (n : Nat) : Option (Fin 16) := if h : n < 16 then some ⟨n, h⟩ else none

/-- The operand of a text.  Numbers in base sixteen are told apart by their lengths. -/
def read? : List Char → Option Operand
  | ['V', c] => ((numeral? 16 [c]).bind nibble?).map register
  | '0' :: 'x' :: digits =>
    match digits.length, numeral? 16 digits with
    | 2, some n => some (byte (UInt8.ofNat n))
    | 3, some n => some (address (Fin.ofNat 4096 n))
    | 4, some n => some (word (UInt16.ofNat n))
    | _, _ => none
  | cs =>
    match numeral? 10 cs with
    | some n => (nibble? n).map height
    | none => (Keyword.named? (String.ofList cs)).map keyword

/-- A number in base sixteen with the length that its width asks for. -/
theorem read?_hex {width n : Nat} (hwidth : 0 < width) (h : n < 16 ^ width) :
    read? ("0x" ++ hex width n).toList =
      match width with
      | 2 => some (byte (UInt8.ofNat n))
      | 3 => some (address (Fin.ofNat 4096 n))
      | 4 => some (word (UInt16.ofNat n))
      | _ => none := by
  have htext : ("0x" ++ hex width n).toList = '0' :: 'x' :: hexChars width n := by simp
  rw [htext, read?, length_hexChars hwidth h, numeral?_hexChars]
  split <;> simp_all

/-- A register is written with one digit. -/
theorem toList_registerText (r : Fin 16) : (registerText r).toList = ['V', digitChar r.val] := by
  have hdigits : hexChars 1 (r.val : Int) = [digitChar r.val] := by
    show (digits 16 r.val).leftpad 1 '0' = _
    rw [digits_of_lt r.isLt]
    rfl
  simp [registerText, hdigits]

/-- A number in base ten that is below sixteen has one or two digits. -/
theorem decimalChars_of_lt (n : Fin 16) :
    decimalChars n.val = if n.val < 10 then [digitChar n.val] else ['1', digitChar (n.val - 10)] := by
  have hn := n.isLt
  show digits 10 n.val = _
  by_cases hsmall : n.val < 10
  · rw [if_pos hsmall, digits_of_lt hsmall]
  · have hquotient : n.val / 10 = 1 := by omega
    have hremainder : n.val % 10 = n.val - 10 := by omega
    rw [if_neg hsmall, digits_of_le (by decide) (by omega), hquotient, hremainder,
      digits_of_lt (by decide)]
    rfl

/-- **Every operand is read back from its text.** -/
theorem read?_text (operand : Operand) : read? operand.text.toList = some operand := by
  cases operand with
  | register r =>
    have hread : ∀ r : Fin 16, read? ['V', digitChar r.val] = some (register r) := by decide
    rw [text, toList_registerText, hread]
  | byte b =>
    have hb : b.toNat < 16 ^ 2 := b.toNat_lt
    rw [text, byteText, read?_hex (by decide) hb]
    simp
  | address a =>
    have ha : a.val < 16 ^ 3 := a.isLt
    rw [text, addressText, read?_hex (by decide) ha]
    simp
  | word w =>
    have hw : w.toNat < 16 ^ 4 := w.toNat_lt
    rw [text, read?_hex (by decide) hw]
    simp
  | height n =>
    have hread : ∀ n : Fin 16,
        read? (if n.val < 10 then [digitChar n.val] else ['1', digitChar (n.val - 10)]) =
          some (height n) := by
      decide
    rw [text, toList_decimal, decimalChars_of_lt, hread]
  | keyword k => cases k <;> decide

/-- Digits do not part operands. -/
theorem plain_of_digit {base : Nat} {c : Char} (h : (digitOf? base c).isSome = true) :
    c ≠ ',' ∧ c ≠ ' ' := by
  have hcomma : hexDigit? ',' = none := by decide
  have hblank : hexDigit? ' ' = none := by decide
  constructor
  · rintro rfl
    simp [digitOf?, hcomma] at h
  · rintro rfl
    simp [digitOf?, hblank] at h

/-- There are no commas and no blanks in an operand. -/
theorem plain_of_mem_text {operand : Operand} {c : Char} (h : c ∈ operand.text.toList) :
    c ≠ ',' ∧ c ≠ ' ' := by
  have hhex {width n : Nat} (hc : c ∈ hexChars width n) : c ≠ ',' ∧ c ≠ ' ' :=
    plain_of_digit (isSome_of_mem_numeral (numeral?_hexChars width n) hc)
  -- The marks of registers and numbers are no separators either.
  have hmarked {width n : Nat} (hc : c = '0' ∨ c = 'x' ∨ c ∈ hexChars width n) :
      c ≠ ',' ∧ c ≠ ' ' := by
    rcases hc with rfl | rfl | hc
    · decide
    · decide
    · exact hhex hc
  cases operand with
  | register r =>
    have hc : c = 'V' ∨ c ∈ hexChars 1 (r.val : Int) := by simpa [text, registerText] using h
    rcases hc with rfl | hc
    · decide
    · exact hhex hc
  | byte b => exact hmarked (by simpa [text, byteText] using h)
  | address a => exact hmarked (by simpa [text, addressText] using h)
  | word w => exact hmarked (by simpa [text] using h)
  | height n =>
    have hc : c ∈ decimalChars n.val := by simpa [text] using h
    exact plain_of_digit (isSome_of_mem_numeral (numeral?_decimalChars n.val) hc)
  | keyword k => exact k.plain_of_mem_name c h

end Operand

/-! ### Lines -/

/-- The first word of a line. -/
inductive Mnemonic
  | cls | ret | jp | call | se | sne | ld | add | or | and | xor | sub | shr | subn | shl | rnd | drw
  | skp | sknp
  /-- A word that is no instruction. -/
  | data
deriving DecidableEq, Repr

namespace Mnemonic

/-- All mnemonics. -/
def all : List Mnemonic :=
  [cls, ret, jp, call, se, sne, ld, add, or, and, xor, sub, shr, subn, shl, rnd, drw, skp, sknp, data]

/-- The name of a mnemonic. -/
def name : Mnemonic → String
  | cls => "CLS"
  | ret => "RET"
  | jp => "JP"
  | call => "CALL"
  | se => "SE"
  | sne => "SNE"
  | ld => "LD"
  | add => "ADD"
  | or => "OR"
  | and => "AND"
  | xor => "XOR"
  | sub => "SUB"
  | shr => "SHR"
  | subn => "SUBN"
  | shl => "SHL"
  | rnd => "RND"
  | drw => "DRW"
  | skp => "SKP"
  | sknp => "SKNP"
  | data => "DW"

/-- The mnemonic of a name. -/
def named? (s : String) : Option Mnemonic := all.find? fun mnemonic => mnemonic.name == s

/-- Every mnemonic has its name. -/
@[simp] theorem named?_name (mnemonic : Mnemonic) : named? mnemonic.name = some mnemonic := by
  cases mnemonic <;> decide

/-- There are no blanks in a name. -/
theorem blank_not_mem_name (mnemonic : Mnemonic) : ' ' ∉ mnemonic.name.toList := by
  cases mnemonic <;> decide

end Mnemonic

/-- A line of a listing. -/
structure Statement where
  mnemonic : Mnemonic
  operands : List Operand
deriving DecidableEq, Repr

namespace Statement

/-- The text of a line; a mnemonic without operands stands alone. -/
def text (s : Statement) : String :=
  match s.operands with
  | [] => s.mnemonic.name
  | operands => operandsText s.mnemonic.name (operands.map Operand.text)

/-- The texts of the operands that follow a mnemonic, with commas between them.  Blanks in front do
    not matter. -/
def operandTexts : List Char → List (List Char)
  | [] => []
  | rest => (rest.splitOn ',').map (·.dropWhile (· == ' '))

/-- The line of a text. -/
def read? (s : String) : Option Statement := do
  let mnemonic ← Mnemonic.named? (String.ofList (s.toList.takeWhile (· != ' ')))
  let operands ← (operandTexts (s.toList.dropWhile (· != ' '))).mapM Operand.read?
  pure ⟨mnemonic, operands⟩

/-- A blank goes before every operand. -/
theorem blank_intercalate (x : List Char) (xs : List (List Char)) :
    ' ' :: [',', ' '].intercalate (x :: xs) = [','].intercalate ((x :: xs).map (' ' :: ·)) := by
  induction xs generalizing x with
  | nil => rfl
  | cons y rest ih =>
    have hrest := ih y
    simp only [List.map_cons, List.intercalate_cons_cons] at hrest ⊢
    rw [← hrest]
    simp

/-- The operands of a line are taken apart again. -/
theorem operandTexts_operands (first : Operand) (rest : List Operand) :
    operandTexts (' ' :: (", ".intercalate ((first :: rest).map Operand.text)).toList) =
      (first :: rest).map fun operand => operand.text.toList := by
  have hjoined : ' ' :: (", ".intercalate ((first :: rest).map Operand.text)).toList =
      [','].intercalate ((first :: rest).map fun operand => ' ' :: operand.text.toList) := by
    have := blank_intercalate first.text.toList (rest.map fun operand => operand.text.toList)
    simpa [Function.comp_def] using this
  have hsplit :
      ([','].intercalate ((first :: rest).map fun operand => ' ' :: operand.text.toList)).splitOn ',' =
        (first :: rest).map fun operand => ' ' :: operand.text.toList := by
    refine List.splitOn_intercalate ',' (fun cs hcs hcomma => ?_) (by simp)
    obtain ⟨operand, -, rfl⟩ := List.mem_map.mp hcs
    rcases List.mem_cons.mp hcomma with hblank | hmem
    · exact absurd hblank (by decide)
    · exact (Operand.plain_of_mem_text hmem).1 rfl
  have hdrop (operand : Operand) :
      (' ' :: operand.text.toList).dropWhile (· == ' ') = operand.text.toList := by
    rw [List.dropWhile_cons_of_pos (by decide)]
    cases htext : operand.text.toList with
    | nil => rfl
    | cons c cs =>
      have hc : c ≠ ' ' := (Operand.plain_of_mem_text (htext ▸ List.mem_cons_self)).2
      exact List.dropWhile_cons_of_neg (by simpa using hc)
  show ((' ' :: (", ".intercalate ((first :: rest).map Operand.text)).toList).splitOn ',').map _ = _
  rw [hjoined, hsplit, List.map_map]
  exact List.map_congr_left fun operand _ => hdrop operand

/-- The operands are read one by one. -/
theorem mapM_read?_text (operands : List Operand) :
    (operands.map fun operand => operand.text.toList).mapM Operand.read? = some operands := by
  induction operands with
  | nil => rfl
  | cons operand rest ih => simp [Operand.read?_text, ih]

/-- **Every line is read back from its text.** -/
theorem read?_text (s : Statement) : read? s.text = some s := by
  obtain ⟨mnemonic, operands⟩ := s
  have hname : ∀ c ∈ mnemonic.name.toList, (c != ' ') = true := by
    intro c hc
    have hne : c ≠ ' ' := fun heq => mnemonic.blank_not_mem_name (heq ▸ hc)
    simpa using hne
  cases operands with
  | nil =>
    have htake := List.takeWhile_eq_self_iff.mpr hname
    have hdrop := List.dropWhile_eq_nil_iff.mpr hname
    simp [read?, text, htake, hdrop, operandTexts]
  | cons first rest =>
    -- The name ends at the blank before the first operand.
    have htext : (text ⟨mnemonic, first :: rest⟩).toList =
        mnemonic.name.toList ++ ' ' :: (", ".intercalate ((first :: rest).map Operand.text)).toList := by
      simp [text, operandsText]
    rw [read?, htext, List.takeWhile_append_of_pos hname, List.takeWhile_cons_of_neg (by decide),
      List.append_nil, List.dropWhile_append_of_pos hname, List.dropWhile_cons_of_neg (by decide),
      operandTexts_operands, mapM_read?_text, String.ofList_toList, Mnemonic.named?_name]
    rfl

end Statement

/-! ### Words as lines -/

/-- There is a first register. -/
theorem offsetRegister_lt : 0 < 16 := by decide

/-- The register that a jump adds to its address. -/
def offsetRegister : Fin 16 := ⟨0, offsetRegister_lt⟩

/-- The line of a word that has the operation. -/
def Operation.statement (op : Operation) (w : Word) : Statement :=
  let vx := Operand.register (Word.x w)
  let vy := Operand.register (Word.y w)
  let byte := Operand.byte (Word.nn w)
  let address := Operand.address (Word.nnn w)
  match op with
  | .clear => ⟨.cls, []⟩
  | .ret => ⟨.ret, []⟩
  | .jump => ⟨.jp, [address]⟩
  | .call => ⟨.call, [address]⟩
  | .skipEqualByte => ⟨.se, [vx, byte]⟩
  | .skipUnequalByte => ⟨.sne, [vx, byte]⟩
  | .skipEqual => ⟨.se, [vx, vy]⟩
  | .setByte => ⟨.ld, [vx, byte]⟩
  | .addByte => ⟨.add, [vx, byte]⟩
  | .copy => ⟨.ld, [vx, vy]⟩
  | .or => ⟨.or, [vx, vy]⟩
  | .and => ⟨.and, [vx, vy]⟩
  | .xor => ⟨.xor, [vx, vy]⟩
  | .add => ⟨.add, [vx, vy]⟩
  | .sub => ⟨.sub, [vx, vy]⟩
  | .shiftRight => ⟨.shr, [vx, vy]⟩
  | .subFrom => ⟨.subn, [vx, vy]⟩
  | .shiftLeft => ⟨.shl, [vx, vy]⟩
  | .skipUnequal => ⟨.sne, [vx, vy]⟩
  | .setIndex => ⟨.ld, [.keyword .index, address]⟩
  | .jumpOffset => ⟨.jp, [.register offsetRegister, address]⟩
  | .random => ⟨.rnd, [vx, byte]⟩
  | .draw => ⟨.drw, [vx, vy, .height (Word.n w)]⟩
  | .skipPressed => ⟨.skp, [vx]⟩
  | .skipReleased => ⟨.sknp, [vx]⟩
  | .readDelay => ⟨.ld, [vx, .keyword .delayTimer]⟩
  | .waitKey => ⟨.ld, [vx, .keyword .key]⟩
  | .setDelay => ⟨.ld, [.keyword .delayTimer, vx]⟩
  | .setSound => ⟨.ld, [.keyword .soundTimer, vx]⟩
  | .addIndex => ⟨.add, [.keyword .index, vx]⟩
  | .indexFont => ⟨.ld, [.keyword .glyph, vx]⟩
  | .storeDecimal => ⟨.ld, [.keyword .decimal, vx]⟩
  | .storeRegisters => ⟨.ld, [.keyword .indexed, vx]⟩
  | .loadRegisters => ⟨.ld, [vx, .keyword .indexed]⟩

/-- The line of a word. -/
def Word.statement (w : Word) : Statement :=
  match Operation.ofWord? w with
  | some op => op.statement w
  | none => ⟨.data, [.word w]⟩

/-- The listing of a word that has the operation is the text of its line. -/
theorem Operation.listing_eq_text (op : Operation) (w : Word) : op.listing w = (op.statement w).text := by
  cases op with
  | jumpOffset =>
    have hzero : registerText 0 = "V0" := by
      rw [← String.toList_inj, Operand.toList_registerText]
      decide
    show operandsText "JP" ["V0", addressText (Word.nnn w)] =
      operandsText "JP" [registerText 0, addressText (Word.nnn w)]
    rw [hzero]
  | _ => rfl

/-- A listing is the text of a line. -/
theorem listing_eq_text (z : Int) : listing z = (Word.statement (Word.ofInt z)).text := by
  simp only [listing, Word.statement]
  cases Operation.ofWord? (Word.ofInt z) with
  | some op => exact op.listing_eq_text _
  | none => rfl

/-! ### Lines as words -/

namespace Statement

/-- The word with a first digit and an address. -/
def ofAddress (lead : Nat) (a : Fin 4096) : Word := UInt16.ofNat (4096 * lead + a.val)

/-- The word with a first digit, a register and a byte. -/
def ofByte (lead : Nat) (x : Fin 16) (b : UInt8) : Word :=
  UInt16.ofNat (4096 * lead + 256 * x.val + b.toNat)

/-- The word with a first digit, two registers and a last digit. -/
def ofRegisters (lead : Nat) (x y : Fin 16) (n : Nat) : Word :=
  UInt16.ofNat (4096 * lead + 256 * x.val + 16 * y.val + n)

/-- The word of a line.  The mnemonic and the kinds of the operands tell the operation. -/
def word? (s : Statement) : Option Word :=
  match s.mnemonic, s.operands with
  | .cls, [] => some 0x00E0
  | .ret, [] => some 0x00EE
  | .jp, [.address a] => some (ofAddress 0x1 a)
  | .jp, [.register ⟨0, _⟩, .address a] => some (ofAddress 0xB a)
  | .call, [.address a] => some (ofAddress 0x2 a)
  | .se, [.register x, .byte b] => some (ofByte 0x3 x b)
  | .se, [.register x, .register y] => some (ofRegisters 0x5 x y 0x0)
  | .sne, [.register x, .byte b] => some (ofByte 0x4 x b)
  | .sne, [.register x, .register y] => some (ofRegisters 0x9 x y 0x0)
  | .ld, [.register x, .byte b] => some (ofByte 0x6 x b)
  | .ld, [.register x, .register y] => some (ofRegisters 0x8 x y 0x0)
  | .ld, [.keyword .index, .address a] => some (ofAddress 0xA a)
  | .ld, [.register x, .keyword .delayTimer] => some (ofByte 0xF x 0x07)
  | .ld, [.register x, .keyword .key] => some (ofByte 0xF x 0x0A)
  | .ld, [.keyword .delayTimer, .register x] => some (ofByte 0xF x 0x15)
  | .ld, [.keyword .soundTimer, .register x] => some (ofByte 0xF x 0x18)
  | .ld, [.keyword .glyph, .register x] => some (ofByte 0xF x 0x29)
  | .ld, [.keyword .decimal, .register x] => some (ofByte 0xF x 0x33)
  | .ld, [.keyword .indexed, .register x] => some (ofByte 0xF x 0x55)
  | .ld, [.register x, .keyword .indexed] => some (ofByte 0xF x 0x65)
  | .add, [.register x, .byte b] => some (ofByte 0x7 x b)
  | .add, [.register x, .register y] => some (ofRegisters 0x8 x y 0x4)
  | .add, [.keyword .index, .register x] => some (ofByte 0xF x 0x1E)
  | .or, [.register x, .register y] => some (ofRegisters 0x8 x y 0x1)
  | .and, [.register x, .register y] => some (ofRegisters 0x8 x y 0x2)
  | .xor, [.register x, .register y] => some (ofRegisters 0x8 x y 0x3)
  | .sub, [.register x, .register y] => some (ofRegisters 0x8 x y 0x5)
  | .shr, [.register x, .register y] => some (ofRegisters 0x8 x y 0x6)
  | .subn, [.register x, .register y] => some (ofRegisters 0x8 x y 0x7)
  | .shl, [.register x, .register y] => some (ofRegisters 0x8 x y 0xE)
  | .rnd, [.register x, .byte b] => some (ofByte 0xC x b)
  | .drw, [.register x, .register y, .height n] => some (ofRegisters 0xD x y n.val)
  | .skp, [.register x] => some (ofByte 0xE x 0x9E)
  | .sknp, [.register x] => some (ofByte 0xE x 0xA1)
  | .data, [.word w] => some w
  | _, _ => none

end Statement

section

variable {w : Word}

/-- A word is put together from its first digit and its address part. -/
theorem ofAddress_nnn {lead : Nat} (h : (Word.lead w).val = lead) :
    Statement.ofAddress lead (Word.nnn w) = w := by
  rw [Statement.ofAddress, ← h, ← Word.toNat_eq_lead_nnn]
  simp

/-- A word is put together from its first digit, its register and its low byte. -/
theorem ofByte_nn {lead : Nat} (h : (Word.lead w).val = lead) {b : UInt8}
    (hb : (Word.nn w).toNat = b.toNat) : Statement.ofByte lead (Word.x w) b = w := by
  rw [Statement.ofByte, ← h, ← hb, Nat.add_assoc, ← Word.nnn_eq_x_nn, ← Word.toNat_eq_lead_nnn]
  simp

/-- A word is put together from its four digits. -/
theorem ofRegisters_n {lead n : Nat} (h : (Word.lead w).val = lead) (hn : (Word.n w).val = n) :
    Statement.ofRegisters lead (Word.x w) (Word.y w) n = w := by
  rw [Statement.ofRegisters, ← h, ← hn, Nat.add_assoc, ← Word.nn_eq_y_n, Nat.add_assoc,
    ← Word.nnn_eq_x_nn, ← Word.toNat_eq_lead_nnn]
  simp

/-- The line of a word that has the operation is assembled to the word. -/
theorem word?_operation_statement {op : Operation} (h : Operation.ofWord? w = some op) :
    (op.statement w).word? = some w := by
  have hnn := Word.nn_eq_y_n w
  have hnnn := Word.nnn_eq_x_nn w
  have hword := Word.toNat_eq_lead_nnn w
  have hfits := fits_of_ofWord? h
  -- The pattern gives the digits that are not operands.
  cases op <;>
    simp only [Word.fits, Operation.pattern, String.reduceToList, fitsDigit_literals, Bool.and_true,
      Bool.and_eq_true, decide_eq_true_eq] at hfits
  case clear =>
    have hw : w = 0x00E0 := UInt16.toNat_inj.mp (show w.toNat = 0x00E0 by omega)
    rw [hw]
    rfl
  case ret =>
    have hw : w = 0x00EE := UInt16.toNat_inj.mp (show w.toNat = 0x00EE by omega)
    rw [hw]
    rfl
  case jump | call | setIndex | jumpOffset => exact congrArg some (ofAddress_nnn hfits)
  case skipEqualByte | skipUnequalByte | setByte | addByte | random =>
    exact congrArg some (ofByte_nn hfits rfl)
  case draw => exact congrArg some (ofRegisters_n hfits rfl)
  case skipEqual | copy | or | and | xor | add | sub | shiftRight | subFrom | shiftLeft | skipUnequal =>
    exact congrArg some (ofRegisters_n hfits.1 hfits.2)
  all_goals
    refine congrArg some (ofByte_nn hfits.1.1 ?_)
    rw [hnn, hfits.1.2, hfits.2]
    rfl

/-- **The line of a word is assembled to the word.** -/
theorem word?_statement (w : Word) : (Word.statement w).word? = some w := by
  simp only [Word.statement]
  cases hop : Operation.ofWord? w with
  | some op => exact word?_operation_statement hop
  | none => rfl

end

/-! ### Texts as words -/

/-- The word of a text. -/
def assemble (text : String) : Option Word := (Statement.read? text).bind Statement.word?

/-- A listing is assembled to the word that it lists. -/
theorem assemble_listing (z : Int) : assemble (listing z) = some (Word.ofInt z) := by
  rw [assemble, listing_eq_text, Statement.read?_text, Option.bind_some, word?_statement]

example : assemble "LD V3, [I]" = some 0xF365 := by decide

/-- Integers that differ by a multiple of `2 ^ 16` are the same word, and no others are. -/
theorem ofInt_eq_ofInt_iff (y z : Int) : Word.ofInt y = Word.ofInt z ↔ y % 65536 = z % 65536 := by
  rw [← UInt16.toNat_inj, ← Word.toNat_ofInt y, ← Word.toNat_ofInt z, Int.ofNat_inj]

/-- **A listing determines its word.**  Two integers have the same listing if and only if they are
    the same modulo `2 ^ 16`, whether they are instructions or not: the assembler gets the word back
    from the text. -/
theorem listing_determines_word :
    (∀ y z : Int, listing y = listing z ↔ y % 65536 = z % 65536) ∧
    ∀ z : Int, ∃ w, assemble (listing z) = some w ∧ (w.toNat : Int) = z % 65536 := by
  constructor
  · intro y z
    rw [← ofInt_eq_ofInt_iff]
    constructor
    · intro h
      have hword := congrArg assemble h
      rw [assemble_listing, assemble_listing] at hword
      exact Option.some.inj hword
    · intro h
      rw [listing_eq_text, listing_eq_text, h]
  · intro z
    exact ⟨Word.ofInt z, assemble_listing z, Word.toNat_ofInt z⟩

end Chip8
