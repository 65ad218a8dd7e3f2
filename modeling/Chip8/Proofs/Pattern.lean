import Chip8.Instruction.Decode

namespace Chip8

/-!
# Patterns

The decoder goes by the digits of a word, while the patterns of the operations are texts.  This file
shows that the two agree:

* `fitsDigit_literals` — which digits fit the characters that patterns are made of;
* `fits_pattern_iff`, `fits_pattern_eq` — a word fits the pattern of an operation exactly when it
  decodes to it;
* `ofWord?_eq_random_iff` — one operation is told by its first digit alone;
* `ofWord?_eq_none_iff` — a word has no operation exactly when it fits no pattern.
-/

/-- The characters that patterns are made of: three fit every digit, the others only their own. -/
theorem fitsDigit_literals (d : Fin 16) :
    (fitsDigit 'X' d = true ∧ fitsDigit 'Y' d = true ∧ fitsDigit 'N' d = true) ∧
    (fitsDigit '0' d = decide (d.val = 0) ∧ fitsDigit '1' d = decide (d.val = 1) ∧
      fitsDigit '2' d = decide (d.val = 2) ∧ fitsDigit '3' d = decide (d.val = 3) ∧
      fitsDigit '4' d = decide (d.val = 4) ∧ fitsDigit '5' d = decide (d.val = 5) ∧
      fitsDigit '6' d = decide (d.val = 6) ∧ fitsDigit '7' d = decide (d.val = 7) ∧
      fitsDigit '8' d = decide (d.val = 8) ∧ fitsDigit '9' d = decide (d.val = 9) ∧
      fitsDigit 'A' d = decide (d.val = 10) ∧ fitsDigit 'B' d = decide (d.val = 11) ∧
      fitsDigit 'C' d = decide (d.val = 12) ∧ fitsDigit 'D' d = decide (d.val = 13) ∧
      fitsDigit 'E' d = decide (d.val = 14) ∧ fitsDigit 'F' d = decide (d.val = 15)) := by
  revert d
  decide

/-- A word decodes to every operation whose pattern it fits. -/
theorem ofWord?_of_fits {w : Word} {op : Operation} (h : Word.fits op.pattern w = true) :
    Operation.ofWord? w = some op := by
  have hnn := Word.nn_eq_y_n w
  have hnnn := Word.nnn_eq_x_nn w
  cases op
  all_goals
    simp only [Word.fits, Operation.pattern, String.reduceToList, fitsDigit_literals, Bool.and_true,
      Bool.and_eq_true, decide_eq_true_eq] at h
    simp [Operation.ofWord?, Operation.ofSystem?, Operation.ofArithmetic?, Operation.ofKeypad?,
      Operation.ofDevice?, hnnn, hnn, h]

/-- A word fits the pattern of the operation it decodes to. -/
theorem fits_of_ofWord? {w : Word} {op : Operation} (h : Operation.ofWord? w = some op) :
    Word.fits op.pattern w = true := by
  have hnn := Word.nn_eq_y_n w
  have hnnn := Word.nnn_eq_x_nn w
  have hlead := (Word.lead w).isLt
  have hn := (Word.n w).isLt
  unfold Operation.ofWord? Operation.ofSystem? Operation.ofArithmetic? Operation.ofKeypad?
    Operation.ofDevice? at h
  -- The first digit decides, and in five families the rest of the word has to be looked at as well.
  split at h
  all_goals try split at h
  all_goals cases h
  all_goals
    simp only [Word.fits, Operation.pattern, String.reduceToList, fitsDigit_literals, Bool.and_true,
      Bool.and_eq_true, decide_eq_true_eq]
    try simp only [imp_false] at *
    omega

/-- A word fits the pattern of an operation exactly when it decodes to that operation. -/
theorem fits_pattern_iff (op : Operation) (w : Word) :
    Word.fits op.pattern w = true ↔ Operation.ofWord? w = some op :=
  ⟨ofWord?_of_fits, fits_of_ofWord?⟩

/-- A word that has an operation fits its pattern and no other. -/
theorem fits_pattern_eq {w : Word} {op : Operation} (hop : Operation.ofWord? w = some op) (other : Operation) :
    Word.fits other.pattern w = decide (op = other) := by
  rw [Bool.eq_iff_iff, decide_eq_true_iff, fits_pattern_iff, hop, Option.some.injEq]

/-- The first digit alone tells whether a word needs a random byte. -/
theorem ofWord?_eq_random_iff (w : Word) :
    Operation.ofWord? w = some .random ↔ (Word.lead w).val = 0xC := by
  rw [← fits_pattern_iff]
  simp only [Word.fits, Operation.pattern, String.reduceToList, fitsDigit_literals, Bool.and_true,
    decide_eq_true_eq]

/-- A word has no operation exactly when it fits no pattern. -/
theorem ofWord?_eq_none_iff (w : Word) :
    Operation.ofWord? w = none ↔ ∀ op : Operation, Word.fits op.pattern w = false := by
  constructor
  · intro h op
    rw [Bool.eq_false_iff, ne_eq, fits_pattern_iff, h]
    exact nofun
  · intro h
    cases hop : Operation.ofWord? w with
    | none => rfl
    | some op => exact absurd (fits_of_ofWord? hop) (by rw [h op]; decide)

end Chip8
