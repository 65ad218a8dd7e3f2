import Chip8.Proofs.FirstFault
import Chip8.Proofs.Invariant

namespace Chip8

/-!
# The next address

Where a single step goes on, said in terms of the word at the program counter, without the machinery
that runs it.  Addresses are numbers here: nothing wraps around, and nothing is cut off.

* `State.skips`, `State.successor` — whether the word skips the next one, and the address where a
  step goes on;
* `Word.Opposite` — words that skip under opposite conditions, `State.withWord` — another word at
  the program counter;
* `successor_eq` — the address that a completed operation leaves;
* `step_of_skip` — skips always complete;
* `step_successor` — the law, for every word and for opposite words.
-/

namespace Word

/-- Two words that skip under opposite conditions, with the same operands. -/
def Opposite (w w' : Word) : Prop :=
  x w = x w' ∧
    (fits "3XNN" w = true ∧ fits "4XNN" w' = true ∧ nn w = nn w' ∨
      fits "5XY0" w = true ∧ fits "9XY0" w' = true ∧ y w = y w' ∨
      fits "EX9E" w = true ∧ fits "EXA1" w' = true)

end Word

namespace State

/-- Whether a word skips the next one: whether it is a skip whose condition holds. -/
def skips (s : State) (w : Word) : Bool :=
  let vx := s.reg (Word.x w)
  let vy := s.reg (Word.y w)
  Word.fits "3XNN" w && vx == Word.nn w
    || Word.fits "4XNN" w && vx != Word.nn w
    || Word.fits "5XY0" w && vx == vy
    || Word.fits "9XY0" w && vx != vy
    || Word.fits "EX9E" w && s.pressed vx
    || Word.fits "EXA1" w && !s.pressed vx

/-- The address where a step goes on. -/
def successor (s : State) : Nat :=
  let w := s.clampedWord
  let p := s.pc.toNat
  if Word.fits "1NNN" w || Word.fits "2NNN" w then (Word.nnn w).val
  else if Word.fits "00EE" w then (s.stack.toList.getLast?.getD 0).toNat
  else if Word.fits "BNNN" w then (Word.nnn w).val + (s.jumpByte w).toNat
  else if Word.fits "FX0A" w && s.pressedKeys.isEmpty then p
  else if s.skips w then p + 4
  else p + 2

/-- A step completes and goes on at the address. -/
def GoesTo (s : State) (source : ByteSource) (address : Nat) : Prop :=
  ∃ i t source', s.step source = (.ok (i, t), source') ∧ t.pc.toNat = address

/-- Steps from both states complete, and exactly one of them goes on behind the next word instead of
    its own. -/
def OneSkips (s s' : State) (source : ByteSource) : Prop :=
  s.GoesTo source (s.pc.toNat + 4) ∧ s'.GoesTo source (s'.pc.toNat + 2) ∨
    s.GoesTo source (s.pc.toNat + 2) ∧ s'.GoesTo source (s'.pc.toNat + 4)

/-- The state with another word at the program counter. -/
def withWord (s : State) (w : Word) : State :=
  { s with
    memory := s.memory.writeBytes s.pc.toNat [UInt8.ofNat (w.toNat / 256), Word.nn w] (2 : Nat) }

end State

/-! ### The address after an operation -/

namespace State

variable {s : State} {op : Operation}

/-- A key is found when some are pressed. -/
theorem isSome_lowestKey? (s : State) : s.lowestKey?.isSome = !s.pressedKeys.isEmpty := by
  rw [lowestKey?, ← List.head?_filter]
  show s.pressedKeys.head?.isSome = _
  cases s.pressedKeys <;> rfl

/-- The address where a step goes on is the one that the operation of the word leaves. -/
theorem successor_eq (hop : Operation.ofWord? s.clampedWord = some op)
    (hret : op = .ret → 0 < s.stack.depth ∧ fits32 s.stack.depth = true) :
    (s.successor : Int) = op.pcIn natural s.clampedWord s (natural s.pc + 2) := by
  have hfits : ∀ other ∈ Operation.all,
      Word.fits other.pattern s.clampedWord = decide (op = other) :=
    fun other _ => fits_pattern_eq hop other
  simp only [Operation.all, List.forall_mem_cons, Operation.pattern] at hfits
  have htarget : natural (UInt16.ofNat (Word.nnn s.clampedWord).val) = (Word.nnn s.clampedWord).val := by
    have hnnn := (Word.nnn s.clampedWord).isLt
    rw [natural, UInt16.toNat_ofNat', Nat.mod_eq_of_lt (by omega)]
  have hskip (condition : Bool) :
      ((if condition then s.pc.toNat + 4 else s.pc.toNat + 2 : Nat) : Int) =
        if condition then natural s.pc + 2 + 2 else natural s.pc + 2 := by
    unfold natural
    split <;> omega
  simp only [successor, skips, hfits]
  -- Each operation fits its own pattern only, which leaves one branch of the definition.
  cases op
  all_goals simp only [reduceCtorEq, decide_false, decide_true, Bool.or_false, Bool.false_or,
    Bool.or_true, if_true, if_false, Bool.false_and, Bool.true_and, Bool.false_eq_true]
  case jump => exact htarget.symm
  case call => exact htarget.symm
  case ret =>
    obtain ⟨hdepth, hfits32⟩ := hret rfl
    rw [CallStack.getLast?_toList hdepth hfits32]
    rfl
  case jumpOffset =>
    show _ = natural (UInt16.ofNat _) + natural (s.jumpByte s.clampedWord).toUInt16
    rw [htarget, natural, UInt8.toNat_toUInt16, Int.natCast_add]
  case waitKey =>
    show _ = if s.lowestKey?.isSome then natural s.pc + 2 else natural s.pc + 2 - 2
    unfold natural
    rw [isSome_lowestKey?]
    cases s.pressedKeys.isEmpty
    · rfl
    · simp only [if_true, Bool.not_true, Bool.false_eq_true, if_false]
      omega
  case skipEqualByte => exact hskip _
  case skipUnequalByte => exact hskip _
  case skipEqual => exact hskip _
  case skipUnequal => exact hskip _
  case skipPressed => exact hskip _
  case skipReleased => exact hskip _
  all_goals rfl

/-! ### Skips -/

section

variable {source : ByteSource}

/-- The other word is at the program counter. -/
theorem word_withWord (h : s.pc.toNat ≤ 0xFFE) (w : Word) : (s.withWord w).word = w := by
  have hhigh : (s.withWord w).memory.byteAt (s.pc.toNat : Nat) = UInt8.ofNat (w.toNat / 256) := by
    rw [withWord, Memory.byteAt_writeBytes _ _ _ _ (by omega), if_pos (by omega), Nat.sub_self]
    rfl
  have hlow : (s.withWord w).memory.byteAt (s.pc.toNat + 1 : Nat) = Word.nn w := by
    rw [withWord, Memory.byteAt_writeBytes _ _ _ _ (by omega), if_pos (by omega),
      Nat.add_sub_cancel_left]
    rfl
  have hlt := w.toNat_lt
  apply UInt16.toNat_inj.mp
  rw [word_of_byteAt rfl hhigh hlow, toNat_ofBytes, Word.toNat_nn, UInt8.toNat_ofNat']
  omega

/-- A skip completes, and goes on behind its own word or the one after it. -/
theorem step_of_skip {condition : Bool} (hpc : s.pc.toNat ≤ 0xFFE)
    (hop : Operation.ofWord? s.word = some op) (htrap : op.trap? s.word s = none)
    (hskip : ∀ next : Int, op.pcIn natural s.word s next = if condition then next + 2 else next)
    (source : ByteSource) :
    s.GoesTo source (if condition then s.pc.toNat + 4 else s.pc.toNat + 2) := by
  have hnone : s.trap? = none := by
    rw [trap?, if_neg (by omega), hop]
    exact htrap
  obtain ⟨i, t, source', hstep⟩ := step_of_trap_none hnone source
  have hi : i.op = op := Option.some.inj ((step_eq_ok hstep).2.2.1.symm.trans hop)
  have hnext := (countsExactly_of_le hpc).step hstep
  rw [hi, hskip] at hnext
  refine ⟨i, t, source', hstep, ?_⟩
  unfold natural at hnext
  cases condition
  · simp only [Bool.false_eq_true, if_false] at hnext ⊢
    omega
  · simp only [if_true] at hnext ⊢
    omega

/-- It makes no difference which of the states comes first. -/
theorem OneSkips.symm {s' : State} (h : s.OneSkips s' source) : s'.OneSkips s source := by
  rcases h with ⟨hs, hs'⟩ | ⟨hs, hs'⟩
  · exact .inr ⟨hs', hs⟩
  · exact .inl ⟨hs', hs⟩

/-- Two states in which opposite conditions decide. -/
theorem oneSkips_of_condition {s' : State} {condition : Bool}
    (hs : s.GoesTo source (if condition then s.pc.toNat + 4 else s.pc.toNat + 2))
    (hs' : s'.GoesTo source (if !condition then s'.pc.toNat + 4 else s'.pc.toNat + 2)) :
    s.OneSkips s' source := by
  cases condition
  · exact .inr ⟨hs, hs'⟩
  · exact .inl ⟨hs, hs'⟩

/-- Of two states with the same registers and keys, but opposite words at the program counter,
    exactly one skips. -/
theorem oneSkips_of_opposite {s' : State} (hpc : s.pc.toNat ≤ 0xFFE) (hpc' : s'.pc.toNat ≤ 0xFFE)
    (hregisters : s'.registers = s.registers) (hkeypad : s'.keypad = s.keypad)
    (h : Word.Opposite s.word s'.word) (source : ByteSource) : s.OneSkips s' source := by
  have hreg (r : Fin 16) : s'.reg r = s.reg r := by rw [reg, reg, hregisters]
  have hpressed (value : UInt8) : s'.pressed value = s.pressed value := by
    rw [pressed, pressed, hkeypad]
  obtain ⟨hx, ⟨hw, hw', hnn⟩ | ⟨hw, hw', hy⟩ | ⟨hw, hw'⟩⟩ := h
  -- In each pair, the second word asks for the opposite of what the first one asks for.
  · have hop : Operation.ofWord? s.word = some .skipEqualByte := ofWord?_of_fits hw
    have hop' : Operation.ofWord? s'.word = some .skipUnequalByte := ofWord?_of_fits hw'
    apply oneSkips_of_condition (step_of_skip hpc hop rfl (fun _ => rfl) source)
    apply step_of_skip hpc' hop' rfl
    intro next
    rw [hx, hnn, ← hreg]
    rfl
  · have hop : Operation.ofWord? s.word = some .skipEqual := ofWord?_of_fits hw
    have hop' : Operation.ofWord? s'.word = some .skipUnequal := ofWord?_of_fits hw'
    apply oneSkips_of_condition (step_of_skip hpc hop rfl (fun _ => rfl) source)
    apply step_of_skip hpc' hop' rfl
    intro next
    rw [hx, hy, ← hreg, ← hreg]
    rfl
  · have hop : Operation.ofWord? s.word = some .skipPressed := ofWord?_of_fits hw
    have hop' : Operation.ofWord? s'.word = some .skipReleased := ofWord?_of_fits hw'
    apply oneSkips_of_condition (step_of_skip hpc hop rfl (fun _ => rfl) source)
    apply step_of_skip hpc' hop' rfl
    intro next
    rw [hx, ← hreg, ← hpressed]
    rfl

/-! ### The law -/

/-- A completed step goes on at the successor. -/
theorem pc_step_eq_successor {i : Instruction} {t : State} {source source' : ByteSource}
    (h : s.step source = (.ok (i, t), source'))
    (hret : Word.fits "00EE" s.clampedWord = true → fits32 s.stack.depth = true) :
    t.pc.toNat = s.successor := by
  obtain ⟨hpc, -, hop, -⟩ := step_eq_ok h
  have hnext := (countsExactly_of_le hpc).step h
  rw [word_eq_clampedWord] at hop hnext
  have hdepth : i.op = .ret → 0 < s.stack.depth ∧ fits32 s.stack.depth = true := by
    intro hop'
    have hfits : Word.fits Operation.ret.pattern s.clampedWord = true := by
      rw [fits_pattern_iff, hop, hop']
    exact ⟨depth_pos_of_ret h hop', hret hfits⟩
  rw [← successor_eq hop hdepth] at hnext
  exact Int.ofNat.inj hnext

/-- A completed call saves the address behind its word. -/
theorem stack_step_of_call {i : Instruction} {t : State} {source source' : ByteSource}
    (h : s.step source = (.ok (i, t), source')) (hcall : Word.fits "2NNN" s.clampedWord = true) :
    t.stack = (s.stack.push (UInt16.ofNat (s.pc.toNat + 2))).1 ∧
      (0 ≤ s.stack.depth →
        t.stack.toList = s.stack.toList ++ [UInt16.ofNat (s.pc.toNat + 2)]) := by
  have hop : Operation.ofWord? s.clampedWord = some .call := ofWord?_of_fits hcall
  have hi : i.op = .call := by
    obtain ⟨-, -, hop', -⟩ := step_eq_ok h
    rw [word_eq_clampedWord, hop] at hop'
    exact (Option.some.inj hop').symm
  have haddress : UInt16.ofNat (s.pc.toNat + 2) = s.pc + 2 := by
    rw [UInt16.ofNat_add, UInt16.ofNat_toNat]
    rfl
  have hstack : t.stack = (s.stack.push (s.pc + 2)).1 := by
    rw [stack_step h, hi]
    rfl
  rw [haddress, hstack]
  refine ⟨rfl, fun h₀ => ?_⟩
  obtain ⟨byte, key, heffect⟩ := effect_of_step h
  rw [hi] at heffect
  exact CallStack.toList_push h₀ (call_eq_ok heffect).1 _

/-- **Where a step goes on.**  A completed step inside memory goes on at the successor.  For a
    return, the depth of the call stack has to be a 32-bit number, as every depth is that a host can
    set.  A call has saved the address behind its word.  If the word at the program counter is
    replaced by one that skips under the opposite condition, both steps complete, and exactly one of
    them skips. -/
theorem step_successor (hpc : s.pc.toNat ≤ 0xFFE) (source : ByteSource) :
    (∀ i t source', s.step source = (.ok (i, t), source') →
      ((Word.fits "00EE" s.clampedWord = true → fits32 s.stack.depth = true) →
        t.pc.toNat = s.successor) ∧
      (Word.fits "2NNN" s.clampedWord = true →
        t.stack = (s.stack.push (UInt16.ofNat (s.pc.toNat + 2))).1 ∧
          (0 ≤ s.stack.depth →
            t.stack.toList = s.stack.toList ++ [UInt16.ofNat (s.pc.toNat + 2)]))) ∧
    ∀ w, Word.Opposite s.clampedWord w ∨ Word.Opposite w s.clampedWord →
      s.OneSkips (s.withWord w) source := by
  refine ⟨fun i t source' hstep => ⟨pc_step_eq_successor hstep, stack_step_of_call hstep⟩, ?_⟩
  intro w hopposite
  rw [← word_eq_clampedWord] at hopposite
  have hword := word_withWord hpc w
  have hpc' : (s.withWord w).pc.toNat ≤ 0xFFE := hpc
  rcases hopposite with h | h
  · rw [← hword] at h
    exact oneSkips_of_opposite hpc hpc' rfl rfl h source
  · rw [← hword] at h
    exact (oneSkips_of_opposite hpc' hpc rfl rfl h source).symm

/-- A skip at the last word of memory.  V3 is not the byte 33, so the word 3333 does not skip and
    goes on behind memory, while 4333 would go on two bytes further. -/
theorem step_successor_last_word :
    let s : State := { initial {} default with memory := ⟨Vector.replicate 4096 0x33⟩, pc := 0xFFE }
    s.pc.toNat ≤ 0xFFE ∧ Word.Opposite s.clampedWord 0x4333 ∧
      ∃ i t, s.step .key = (.ok (i, t), .key) ∧ t.pc.toNat = 0x1000 ∧
        (s.withWord 0x4333).GoesTo .key 0x1002 := by
  intro s
  have hword : s.clampedWord = 0x3333 := by
    simp only [clampedWord, s, Vector.getElem_replicate]
    rfl
  have hopposite : Word.Opposite s.clampedWord 0x4333 := by
    rw [hword]
    exact ⟨rfl, .inl ⟨by decide, by decide, rfl⟩⟩
  have hsuccessor : s.successor = 0x1000 := by
    simp only [successor, hword]
    decide
  obtain ⟨hsteps, hskips⟩ := step_successor (s := s) (by decide) .key
  have hnext {i : Instruction} {t : State} {source : ByteSource}
      (hstep : s.step .key = (.ok (i, t), source)) : t.pc.toNat = 0x1000 := by
    rw [(hsteps i t source hstep).1 fun _ => by decide, hsuccessor]
  rcases hskips 0x4333 (.inl hopposite) with ⟨⟨i, t, source, hstep, hpc⟩, -⟩ |
    ⟨⟨i, t, source, hstep, -⟩, hother⟩
  · exact absurd (hpc.symm.trans (hnext hstep)) (by decide)
  · have hsource := source_step_key s
    rw [hstep] at hsource
    subst hsource
    exact ⟨by decide, hopposite, i, t, hstep, hnext hstep, hother⟩

end

end State

end Chip8
