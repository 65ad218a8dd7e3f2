import Chip8.Proofs.Batch
import Chip8.Proofs.Pattern

namespace Chip8

/-!
# The first fault

Which instructions fault, said without the machinery that runs them: in terms of the program
counter, the word found there, the depth of the call stack and I.  When several reasons apply, the
first one gives the record.

* `State.clampedWord` — the word at the program counter, calculated from its two bytes;
* `State.firstFault?` — the record of the first reason that applies;
* `firstFault?_eq` — it is the record of the trap;
* `runBatch_one` — a batch of one instruction faults exactly when there is such a record, and then
  changes nothing else.
-/

/-! ### The word at the program counter -/

/-- The number of two bytes, the high one first. -/
theorem toNat_ofBytes (high low : UInt8) :
    (Word.ofBytes high low).toNat = 256 * high.toNat + low.toNat := by
  have hhigh := high.toNat_lt
  have hshift : high.toNat <<< 8 < 2 ^ 16 := by
    rw [Nat.shiftLeft_eq]
    omega
  -- The low byte goes where the shift has left zeros.
  have hor := Nat.shiftLeft_add_eq_or_of_lt low.toNat_lt high.toNat
  rw [Word.ofBytes, UInt16.toNat_or, UInt16.toNat_shiftLeft, UInt8.toNat_toUInt16,
    UInt8.toNat_toUInt16]
  show high.toNat <<< 8 % 2 ^ 16 ||| low.toNat = 256 * high.toNat + low.toNat
  rw [Nat.mod_eq_of_lt hshift, ← hor, Nat.shiftLeft_eq]
  omega

namespace State

/-- The word whose high byte is at the program counter and whose low byte is behind it.  The last
    byte of memory stands for all that would be behind it. -/
def clampedWord (s : State) : Word :=
  UInt16.ofNat (256 * (s.memory.cells[min s.pc.toNat 0xFFF]).toNat
    + (s.memory.cells[min (s.pc.toNat + 1) 0xFFF]).toNat)

/-- A batch reads that word. -/
theorem word_eq_clampedWord (s : State) : s.word = s.clampedWord := by
  have hword : s.word = Word.ofBytes (s.memory.byteAt (s.pc.toNat : Nat))
      (s.memory.byteAt (s.pc.toNat + 1 : Nat)) := rfl
  rw [hword, Memory.byteAt_natCast, Memory.byteAt_natCast, clampedWord, ← toNat_ofBytes,
    UInt16.ofNat_toNat]

/-! ### The record -/

/-- The record of the first reason for which the instruction at the program counter cannot
    complete. -/
def firstFault? (s : State) : Option FaultRecord :=
  let w := s.clampedWord
  let i := s.index.toNat
  let record (code : UInt8) (address length : Nat) : FaultRecord := ⟨code, s.pc, w, address, length⟩
  if 0xFFE < s.pc.toNat then some (record 1 s.pc.toNat 2)
  else if ∀ op ∈ Operation.all, Word.fits op.pattern w = false then some (record 4 0 0)
  else if Word.fits "2NNN" w ∧ s.stack.depth = 16 then some (record 2 0 0)
  else if Word.fits "00EE" w ∧ s.stack.depth = 0 then some (record 3 0 0)
  else if Word.fits "DXYN" w ∧ 4096 < i + (Word.n w).val then some (record 1 i (Word.n w).val)
  else if Word.fits "FX33" w ∧ 4096 < i + 3 then some (record 1 i 3)
  else if (Word.fits "FX55" w ∨ Word.fits "FX65" w) ∧ 4096 < i + (Word.x w).val + 1 then
    some (record 1 i ((Word.x w).val + 1))
  else none

section

variable {s : State}

/-- A word fetched from outside of memory comes before every other reason. -/
theorem firstFault?_of_lt (h : 0xFFE < s.pc.toNat) :
    s.firstFault? = some ⟨1, s.pc, s.clampedWord, s.pc.toNat, 2⟩ := if_pos h

/-- Inside memory, a word without an operation comes before the reasons that operations have. -/
theorem firstFault?_of_ofWord?_none (h : s.pc.toNat ≤ 0xFFE)
    (hop : Operation.ofWord? s.clampedWord = none) :
    s.firstFault? = some ⟨4, s.pc, s.clampedWord, 0, 0⟩ := by
  have hfits : ∀ op ∈ Operation.all, Word.fits op.pattern s.clampedWord = false :=
    fun op _ => (ofWord?_eq_none_iff s.clampedWord).mp hop op
  simp only [firstFault?]
  rw [if_neg (by omega), if_pos hfits]
  rfl

/-- Inside memory, a word that has an operation faults with the trap of the operation, as long as
    the depth of the call stack is one that calls and returns can reach. -/
theorem firstFault?_of_ofWord?_some (h : s.pc.toNat ≤ 0xFFE) {op : Operation}
    (hop : Operation.ofWord? s.clampedWord = some op) (h₀ : 0 ≤ s.stack.depth)
    (h₁ : s.stack.depth ≤ 16) :
    s.firstFault? = (op.trap? s.clampedWord s).map (·.record s.pc s.clampedWord) := by
  have hpattern (other : Operation) : Word.fits other.pattern s.clampedWord = true ↔ op = other := by
    rw [fits_pattern_iff, hop, Option.some.injEq]
  have hcall : Word.fits "2NNN" s.clampedWord = true ↔ op = .call := hpattern .call
  have hret : Word.fits "00EE" s.clampedWord = true ↔ op = .ret := hpattern .ret
  have hdraw : Word.fits "DXYN" s.clampedWord = true ↔ op = .draw := hpattern .draw
  have hdecimal : Word.fits "FX33" s.clampedWord = true ↔ op = .storeDecimal :=
    hpattern .storeDecimal
  have hstore : Word.fits "FX55" s.clampedWord = true ↔ op = .storeRegisters :=
    hpattern .storeRegisters
  have hload : Word.fits "FX65" s.clampedWord = true ↔ op = .loadRegisters :=
    hpattern .loadRegisters
  have hfits : ¬ ∀ other ∈ Operation.all, Word.fits other.pattern s.clampedWord = false := by
    intro hall
    have hnone := hall op (Operation.mem_all op)
    rw [(hpattern op).mpr rfl] at hnone
    exact nomatch hnone
  have haccess (length : Nat) : (s.accessTrap? length).map (·.record s.pc s.clampedWord) =
      if 4096 < s.index.toNat + length then
        some ⟨1, s.pc, s.clampedWord, s.index.toNat, length⟩ else none := by
    unfold accessTrap?
    split <;> rfl
  have hfull : 16 ≤ s.stack.depth ↔ s.stack.depth = 16 := by omega
  have hempty : s.stack.depth ≤ 0 ↔ s.stack.depth = 0 := by omega
  simp only [firstFault?]
  rw [if_neg (by omega), if_neg hfits]
  simp only [hcall, hret, hdraw, hdecimal, hstore, hload]
  -- Six operations have a reason of their own, and each of them meets only its own branch.
  cases op
  all_goals simp only [Operation.trap?, haccess, hfull, hempty, reduceCtorEq, false_and, true_and,
    or_false, false_or, if_false, Option.map_none, Nat.add_assoc]
  case ret => split <;> rfl
  case call => split <;> rfl

/-- The first fault is the trap of the instruction, as a record. -/
theorem firstFault?_eq (h₀ : 0 ≤ s.stack.depth) (h₁ : s.stack.depth ≤ 16) :
    s.firstFault? = s.trap?.map (·.record s.pc s.clampedWord) := by
  have hword := s.word_eq_clampedWord
  rcases trap?_cases s with ⟨hpc, htrap⟩ | ⟨hpc, hop, htrap⟩ | ⟨op, hpc, hop, htrap⟩
  · rw [htrap, firstFault?_of_lt hpc]
    rfl
  · rw [hword] at hop
    rw [htrap, firstFault?_of_ofWord?_none hpc hop]
    rfl
  · rw [hword] at hop htrap
    rw [htrap, firstFault?_of_ofWord?_some hpc hop h₀ h₁]

end

/-! ### Batches of one instruction -/

/-- **Faults come exactly when they should.**  At every depth that calls and returns can reach, a
    batch of one instruction faults exactly when the instruction has a first fault.  The record then
    names the instruction, and nothing else has changed.  Otherwise the instruction completes and
    leaves a clear record. -/
theorem runBatch_one {s : State} (h₀ : 0 ≤ s.stack.depth) (h₁ : s.stack.depth ≤ 16)
    (source : ByteSource) :
    ((s.runBatch 1 source).state.fault.isSet = true ↔ s.firstFault?.isSome = true) ∧
      (∀ record, s.firstFault? = some record →
        record.pc = s.pc ∧ record.opcode = s.clampedWord ∧
          (s.runBatch 1 source).executed = 0 ∧
          (s.runBatch 1 source).state = { s with fault := record }) ∧
      (s.firstFault? = none →
        (s.runBatch 1 source).executed = 1 ∧ (s.runBatch 1 source).state.fault = .clear) := by
  rw [firstFault?_eq h₀ h₁]
  cases htrap : s.trap? with
  | some trap =>
    rw [runBatch_of_trap htrap, s.word_eq_clampedWord]
    refine ⟨⟨fun _ => rfl, fun _ => trap.isSet_record ..⟩, fun record hrecord => ?_, nofun⟩
    cases hrecord
    exact ⟨rfl, rfl, rfl, rfl⟩
  | none =>
    obtain ⟨i, t, source', hstep⟩ := step_of_trap_none htrap source
    -- The budget is used up by the first instruction, whether or not it ends batches.
    have hone : (s.runBatch 1 source).executed = 1 ∧ (s.runBatch 1 source).state.fault = .clear := by
      rw [runBatch_of_step hstep]
      split
      · exact ⟨rfl, fault_step hstep⟩
      · rw [runBatch_zero]
        exact ⟨rfl, rfl⟩
    rw [hone.2]
    exact ⟨⟨nofun, nofun⟩, nofun, fun _ => ⟨hone.1, rfl⟩⟩

/-- A call at the last byte of memory, with a full stack: that the word is not inside memory comes
    first. -/
theorem runBatch_one_last_byte :
    let s : State :=
      { initial {} default with
        memory := ⟨Vector.replicate 4096 0x22⟩
        pc := 0xFFF
        stack := ⟨Vector.replicate 16 0x200, 16⟩ }
    (s.runBatch 1 .key).executed = 0 ∧
      (s.runBatch 1 .key).state = { s with fault := ⟨1, 0xFFF, 0x2222, 0xFFF, 2⟩ } := by
  intro s
  have hword : s.clampedWord = 0x2222 := by
    simp only [clampedWord, s, Vector.getElem_replicate]
    rfl
  have hfirst : s.firstFault? = some ⟨1, 0xFFF, 0x2222, 0xFFF, 2⟩ := by
    rw [firstFault?_of_lt (by decide), hword]
    rfl
  exact ((runBatch_one (s := s) (by decide) (by decide) .key).2.1 _ hfirst).2.2

end State

end Chip8
