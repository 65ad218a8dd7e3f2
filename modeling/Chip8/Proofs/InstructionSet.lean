import Chip8.Proofs.Pattern
import Mathlib.Data.List.Basic

namespace Chip8

/-!
# The instruction set

The patterns of the operations, the decoder, and the table of all words say the same.

* `covers_iff` — a pass over the table covers the words that fit the pattern of its operation;
* `afterPasses_of_forall`, `afterPasses_of_mem` — so passes do not overwrite each other;
* `index_eq` — the table holds the place of the operation that a word decodes to;
* `decode_iff_fits` — the decoder accepts exactly the words that fit a pattern, and the table lists
  them.
-/

namespace Operation

/-! ### The table of all words -/

/-- A pass covers the words that fit the pattern of its operation. -/
theorem covers_iff {pass : Pass} (h : pass ∈ passes) (w : Word) :
    pass.covers w = true ↔ Word.fits pass.op.pattern w = true := by
  have hnn := Word.nn_eq_y_n w
  have hnnn := Word.nnn_eq_x_nn w
  have hword := Word.toNat_eq_lead_nnn w
  have hn := (Word.n w).isLt
  revert pass
  -- Passes look at digits, at the low byte or at the whole word, patterns at the four digits.
  simp only [passes, List.forall_mem_cons, List.not_mem_nil, false_implies, implies_true, leadPass,
    wordPass, lowDigitPass, lowBytePass, Word.fits, pattern, String.reduceToList, fitsDigit_literals,
    Bool.and_true, Bool.and_eq_true, beq_iff_eq, decide_eq_true_eq, true_and, and_true]
  and_intros
  all_goals omega

/-- Every operation has a pass. -/
theorem mem_map_passes (op : Operation) : op ∈ passes.map Pass.op := by
  cases op <;> decide

section

variable {w : Word} {rest : List Pass}

/-- A word that no pass covers keeps its entry. -/
theorem afterPasses_of_forall (h : ∀ pass ∈ rest, pass.covers w = false) (entry : Int) :
    afterPasses w entry rest = entry := by
  induction rest with
  | nil => rfl
  | cons pass rest ih =>
    have hpass : pass.covers w = false := h pass List.mem_cons_self
    have hentry : afterPasses w entry (pass :: rest) = afterPasses w entry rest := by
      simp [afterPasses, hpass]
    rw [hentry]
    exact ih fun other hother => h other (List.mem_cons_of_mem pass hother)

/-- If all the passes that cover a word are for one operation, no other one overwrites it. -/
theorem afterPasses_of_mem {op : Operation} (h : ∀ pass ∈ rest, pass.covers w = true → pass.op = op)
    (hsome : ∃ pass ∈ rest, pass.covers w = true) (entry : Int) :
    afterPasses w entry rest = op.position := by
  induction rest generalizing entry with
  | nil => simp at hsome
  | cons pass rest ih =>
    have hrest := fun other hother => h other (List.mem_cons_of_mem pass hother)
    show afterPasses w (if pass.covers w then pass.op.position else entry) rest = _
    by_cases hlater : ∃ other ∈ rest, other.covers w = true
    · exact ih hrest hlater _
    · -- The first pass is the only one that covers the word.
      have hnone : ∀ other ∈ rest, other.covers w = false := fun other hother =>
        Bool.eq_false_iff.mpr fun hcovers => hlater ⟨other, hother, hcovers⟩
      have hfirst : pass.covers w = true := by
        obtain ⟨other, hother, hcovers⟩ := hsome
        rcases List.mem_cons.mp hother with rfl | hother
        · exact hcovers
        · exact absurd ⟨other, hother, hcovers⟩ hlater
      rw [afterPasses_of_forall hnone, if_pos hfirst, h pass List.mem_cons_self hfirst]

end

/-- The table holds the place of the operation that a word decodes to, and -1 if there is none. -/
theorem index_eq (w : Word) :
    index w = match ofWord? w with
      | some op => (op.position : Int)
      | none => -1 := by
  cases hop : ofWord? w with
  | none =>
    have hfits := (ofWord?_eq_none_iff w).mp hop
    refine afterPasses_of_forall (fun pass hpass => ?_) (-1)
    rw [Bool.eq_false_iff, ne_eq, covers_iff hpass, hfits]
    decide
  | some op =>
    refine afterPasses_of_mem (fun pass hpass hcovers => ?_) ?_ (-1)
    · rw [covers_iff hpass, fits_pattern_iff, hop] at hcovers
      exact (Option.some.inj hcovers).symm
    · obtain ⟨pass, hpass, rfl⟩ := List.mem_map.mp (mem_map_passes op)
      exact ⟨pass, hpass, (covers_iff hpass w).mpr (fits_of_ofWord? hop)⟩

end Operation

/-! ### The decoder -/

/-- **The decoder accepts exactly its instruction set.**  An integer is taken as a word of four
    digits.  It decodes if and only if the digits fit the pattern of an operation; then they fit no
    other pattern, the instruction has this operation, the word and the given address, and the table
    of all words holds the place of the operation.  Any other word is refused by its number and the
    address, and these are the words for which the table holds -1. -/
theorem decode_iff_fits (z : Int) (address : Option Int) :
    let w := Word.ofInt z
    ((w.toNat : Int) = z % 65536 ∧
      w.toNat = 4096 * (Word.lead w).val + (Word.nnn w).val ∧
      (Word.nnn w).val = 256 * (Word.x w).val + (Word.nn w).toNat ∧
      (Word.nn w).toNat = 16 * (Word.y w).val + (Word.n w).val) ∧
    ((∃ i, Instruction.decode z address = .ok i) ↔ ∃ op : Operation, Word.fits op.pattern w = true) ∧
    (∀ i, Instruction.decode z address = .ok i →
      i.word = w ∧ i.address = address ∧
      (∀ op : Operation, Word.fits op.pattern w = true ↔ op = i.op) ∧
      ∃ place : Nat, Operation.index w = place ∧ Operation.all[place]? = some i.op) ∧
    ((¬ ∃ op : Operation, Word.fits op.pattern w = true) →
      Instruction.decode z address = .error (.unknownOpcode w.toNat address)) ∧
    (Operation.index w = -1 ↔ ¬ ∃ op : Operation, Word.fits op.pattern w = true) := by
  intro w
  have hnumber : (w.toNat : Int) = z % 65536 := Word.toNat_ofInt z
  refine ⟨⟨hnumber, Word.toNat_eq_lead_nnn w, Word.nnn_eq_x_nn w, Word.nn_eq_y_n w⟩, ?_⟩
  have hindex := Operation.index_eq w
  cases hop : Operation.ofWord? w with
  | none =>
    have hfits : ¬ ∃ op : Operation, Word.fits op.pattern w = true := by
      rintro ⟨op, hop'⟩
      rw [fits_pattern_iff, hop] at hop'
      cases hop'
    have hdecode : Instruction.decode z address = .error (.unknownOpcode w.toNat address) := by
      simp only [Instruction.decode, show Word.ofInt z = w from rfl, hop]
    rw [hop] at hindex
    refine ⟨⟨?_, fun h => absurd h hfits⟩, ?_, fun _ => hdecode, fun _ => hfits, fun _ => hindex⟩
    · rintro ⟨i, hi⟩
      cases hdecode.symm.trans hi
    · intro i hi
      cases hdecode.symm.trans hi
  | some op =>
    have hfits : Word.fits op.pattern w = true := fits_of_ofWord? hop
    have hdecode : Instruction.decode z address = .ok ⟨op, w, address⟩ :=
      Instruction.decode_eq_ok_iff.mpr ⟨hop, rfl, rfl⟩
    rw [hop] at hindex
    refine ⟨⟨fun _ => ⟨op, hfits⟩, fun _ => ⟨_, hdecode⟩⟩, ?_, fun h => absurd ⟨op, hfits⟩ h, ?_,
      fun h => absurd ⟨op, hfits⟩ h⟩
    · intro i hi
      obtain rfl : i = ⟨op, w, address⟩ := Except.ok.inj (hi.symm.trans hdecode)
      refine ⟨rfl, rfl, fun other => ?_, op.position, hindex, List.getElem?_idxOf (Operation.mem_all op)⟩
      rw [fits_pattern_iff, hop, Option.some.injEq, eq_comm]
    · intro h
      have hplace : (op.position : Int) = -1 := hindex.symm.trans h
      omega

end Chip8
