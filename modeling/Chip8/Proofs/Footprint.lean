import Chip8.Proofs.Indifference
import Chip8.Proofs.RandomDraws

namespace Chip8

/-!
# Footprints

Which places of the state an instruction may change.

* `Place`, `State.AgreeAt` — the places of a state, and two states that hold the same at a place;
* `State.eq_of_agreeAt` — the places make up the state;
* `Operation.SetsRegister`, `Operation.MayChange` — the footprint of an operation;
* `reg_effect`, `memory_effect`, `screen_effect`, `index_effect` — registers, memory, screen and I
  after an operation, and `slots_push`, `slots_pop` — the slots of the call stack;
* `step_footprint` — a completed step changes nothing outside of the footprint of its operation.
-/

/-! ### Places -/

/-- A place of the state. -/
inductive Place
  | byte (address : Fin 4096)
  | register (r : Fin 16)
  | index
  | pc
  | slot (k : Fin 16)
  | depth
  | delay
  | sound
  | screen
  | keypad
  | key
  | fault
  | dialect

namespace State

variable {s t : State}

/-- The two states hold the same at a place. -/
def AgreeAt (s t : State) : Place → Prop
  | .byte address => t.memory.byteAt address.val = s.memory.byteAt address.val
  | .register r => t.reg r = s.reg r
  | .index => t.index = s.index
  | .pc => t.pc = s.pc
  | .slot k => t.stack.slots.get k = s.stack.slots.get k
  | .depth => t.stack.depth = s.stack.depth
  | .delay => t.delay = s.delay
  | .sound => t.sound = s.sound
  | .screen => t.screen = s.screen
  | .keypad => t.keypad = s.keypad
  | .key => t.key = s.key
  | .fault => t.fault = s.fault
  | .dialect => t.dialect = s.dialect

/-- States that agree at every place are the same. -/
theorem eq_of_agreeAt (h : ∀ place, s.AgreeAt t place) : t = s := by
  have hmemory : t.memory = s.memory := Memory.ext_byteAt fun j hj => h (.byte ⟨j, hj⟩)
  have hregisters : t.registers = s.registers := Vector.ext fun r hr => h (.register ⟨r, hr⟩)
  have hslots : t.stack.slots = s.stack.slots := Vector.ext fun k hk => h (.slot ⟨k, hk⟩)
  have hstack : t.stack = s.stack := by
    rw [← show CallStack.mk t.stack.slots t.stack.depth = t.stack from rfl, hslots, h .depth]
  cases s
  cases t
  simp only [State.mk.injEq]
  exact ⟨hmemory, hregisters, h .index, h .pc, hstack, h .delay, h .sound, h .screen, h .keypad, h .key,
    h .fault, h .dialect⟩

end State

/-! ### Footprints of operations -/

namespace Operation

/-- The registers that an operation may change. -/
def SetsRegister (op : Operation) (w : Word) (dialect : Dialect) (r : Fin 16) : Prop :=
  match op with
  | .setByte | .addByte | .copy | .random | .readDelay | .waitKey => r = Word.x w
  | .or | .and | .xor => r = Word.x w ∨ r.val = 15 ∧ dialect.logicResetsVf = true
  | .add | .sub | .subFrom | .shiftRight | .shiftLeft => r = Word.x w ∨ r.val = 15
  | .draw => r.val = 15
  | .loadRegisters => r ≤ Word.x w
  | _ => False

/-- The bytes that an operation may change. -/
def SetsByte (op : Operation) (w : Word) (s : State) (address : Fin 4096) : Prop :=
  op = .storeDecimal ∧ s.index.toNat ≤ address.val ∧ address.val < s.index.toNat + 3 ∨
  op = .storeRegisters ∧ s.index.toNat ≤ address.val ∧
    address.val < s.index.toNat + ((Word.x w).val + 1)

/-- The operations that may change I. -/
def SetsIndex (op : Operation) (dialect : Dialect) : Prop :=
  op = .setIndex ∨ op = .addIndex ∨ op = .indexFont ∨
  (op = .storeRegisters ∨ op = .loadRegisters) ∧ dialect.indexAdvances = true

/-- The slots that an operation may change.  The depth of the call stack names the slot for the next
    address, and a negative one, as a host may set it, counts back from the end.  The slot of the
    last address is the one below, if the depth is a 32-bit number. -/
def SetsSlot (op : Operation) (stack : CallStack) (k : Fin 16) : Prop :=
  op = .call ∧ ((k.val : Int) = stack.depth ∨ (k.val : Int) = stack.depth + stackSize) ∨
  op = .ret ∧ (fits32 stack.depth = true → (k.val : Int) = stack.depth - 1)

/-- The places that an operation may change in a state, random bytes coming from a source. -/
def MayChange (op : Operation) (w : Word) (s : State) (source : ByteSource) : Place → Prop
  | .byte address => op.SetsByte w s address
  | .register r => op.SetsRegister w s.dialect r
  | .index => op.SetsIndex s.dialect
  | .pc => True
  | .slot k => op.SetsSlot s.stack k
  | .depth => op = .call ∨ op = .ret
  | .delay => op = .setDelay
  | .sound => op = .setSound
  | .screen => op = .clear ∨ op = .draw
  | .keypad => False
  | .key => op = .random ∧ source = .key
  | .fault => True
  | .dialect => False

end Operation

/-! ### Registers -/

namespace State

variable {s : State} {r q : Fin 16}

/-- The registers that the other steps do not write keep their values. -/
theorem reg_awaitKey_of_ne (h : q ≠ r) : (s.awaitKey r).reg q = s.reg q := by
  rw [awaitKey]
  split
  · exact reg_setReg_of_ne h _
  · rfl

theorem reg_drawSprite_of_ne (h : q ≠ 15) (x y : UInt8) (height : Nat) :
    (s.drawSprite x y height).reg q = s.reg q := by
  rw [drawSprite, reg_setReg_of_ne h]
  -- Only the registers are compared; the sprite need not be evaluated.
  show s.registers[q] = _
  rfl

theorem reg_loadedRegisters_of_lt {x : Fin 16} (h : x < q) : (s.loadedRegisters x)[q] = s.reg q := by
  have hle : ¬ q ≤ x := by omega
  simp [loadedRegisters, hle]

end State

section

variable {op : Operation} {w : Word} {byte : UInt8} {s t : State}

/-- A completed operation changes no registers but its own. -/
theorem reg_effect (h : op.effect w byte s = .ok t) {r : Fin 16}
    (hr : ¬ op.SetsRegister w s.dialect r) : t.reg r = s.reg r := by
  cases op
  case ret => rw [(ret_eq_ok h).2]; rfl
  case call => rw [(call_eq_ok h).2]; rfl
  case draw =>
    rw [State.accessing_eq_ok h]
    exact State.reg_drawSprite_of_ne (fun hvf => hr (congrArg Fin.val hvf)) _ _ _
  case storeDecimal => rw [State.accessing_eq_ok h]; rfl
  case storeRegisters => rw [State.accessing_eq_ok h]; rfl
  case loadRegisters =>
    rw [State.accessing_eq_ok h]
    exact State.reg_loadedRegisters_of_lt (Nat.lt_of_not_le hr)
  case setByte | addByte | copy | random | readDelay =>
    cases h
    exact State.reg_setReg_of_ne hr _
  case waitKey =>
    cases h
    exact State.reg_awaitKey_of_ne hr
  case or | and | xor =>
    cases h
    obtain ⟨hx, hflag⟩ := not_or.mp hr
    exact State.reg_setLogic_of_ne hx (fun hreset hvf => hflag ⟨congrArg Fin.val hvf, hreset⟩) _
  case add | sub | subFrom | shiftRight | shiftLeft =>
    cases h
    obtain ⟨hx, hflag⟩ := not_or.mp hr
    exact State.reg_setFlagged_of_ne hx (fun hvf => hflag (congrArg Fin.val hvf)) _
  -- The others leave all registers alone, some of them by a skip.
  all_goals
    cases h
    first
    | rfl
    | rw [State.skipIf_eq]; rfl

/-! ### Memory, screen and I -/

/-- Memory after a completed operation. -/
def Operation.nextMemory (op : Operation) (w : Word) (s : State) : Memory :=
  match op with
  | .storeDecimal =>
    s.memory.writeBytes s.index.toNat (State.decimalDigits (s.reg (Word.x w))) 3
  | .storeRegisters =>
    s.memory.writeBytes s.index.toNat s.registers.toList ((Word.x w).val + 1 : Nat)
  | _ => s.memory

/-- I after a completed operation. -/
def Operation.nextIndex (op : Operation) (w : Word) (s : State) : UInt16 :=
  let vx := s.reg (Word.x w)
  match op with
  | .setIndex => UInt16.ofNat (Word.nnn w).val
  | .addIndex => s.index + vx.toUInt16
  | .indexFont => UInt16.ofNat (fontStart + glyphSize * (vx.toNat % 16))
  | .storeRegisters | .loadRegisters => s.indexAfter ((Word.x w).val + 1)
  | _ => s.index

/-- A completed operation writes memory and I as stated above, and only two operations touch the
    screen. -/
theorem storage_effect (h : op.effect w byte s = .ok t) :
    t = { t with
      memory := op.nextMemory w s
      index := op.nextIndex w s
      screen := if op = .clear ∨ op = .draw then t.screen else s.screen } := by
  cases op
  case ret => rw [(ret_eq_ok h).2]; rfl
  case call => rw [(call_eq_ok h).2]; rfl
  case draw => rw [State.accessing_eq_ok h]; rfl
  case storeDecimal => rw [State.accessing_eq_ok h]; rfl
  case storeRegisters => rw [State.accessing_eq_ok h]; rfl
  case loadRegisters => rw [State.accessing_eq_ok h]; rfl
  -- The others cannot trap.  They go through one of the shared steps, or write single parts.
  all_goals
    cases h
    first
    | rfl
    | rw [State.skipIf_eq]; rfl
    | rw [State.setLogic_eq]; rfl
    | rw [State.awaitKey_eq]; rfl

/-- Memory outside of the bytes that a completed operation may change. -/
theorem byteAt_nextMemory {address : Fin 4096} (h : ¬ op.SetsByte w s address) :
    (op.nextMemory w s).byteAt address.val = s.memory.byteAt address.val := by
  obtain ⟨hdecimal, hregisters⟩ := not_or.mp h
  unfold Operation.nextMemory
  split
  · have hwrite := s.memory.byteAt_writeBytes (State.decimalDigits (s.reg (Word.x w))) s.index.toNat 3
      address.isLt
    exact hwrite.trans (if_neg fun hrange => hdecimal ⟨rfl, hrange⟩)
  · have hwrite := s.memory.byteAt_writeBytes s.registers.toList s.index.toNat ((Word.x w).val + 1)
      address.isLt
    exact hwrite.trans (if_neg fun hrange => hregisters ⟨rfl, hrange⟩)
  · rfl

/-- I, unless a completed operation may change it. -/
theorem nextIndex_of_not (h : ¬ op.SetsIndex s.dialect) : op.nextIndex w s = s.index := by
  simp only [Operation.SetsIndex, not_or, not_and] at h
  obtain ⟨hset, hadd, hfont, hadvance⟩ := h
  cases op
  case setIndex => exact absurd rfl hset
  case addIndex => exact absurd rfl hadd
  case indexFont => exact absurd rfl hfont
  case storeRegisters | loadRegisters => exact if_neg (hadvance (by decide))
  all_goals rfl

end

/-! ### Slots of the call stack -/

namespace CallStack

variable {s : CallStack} {k : Fin 16}

/-- A slot that is not replaced stays.  A negative number counts from the end. -/
theorem get_setSlot_of_ne (slots : Vector UInt16 16) {i : Int} (address : UInt16)
    (h : ¬ ((k.val : Int) = i ∨ (k.val : Int) = i + stackSize)) :
    (setSlot slots i address).get k = slots.get k := by
  show (setSlot slots i address)[k] = slots[k]
  by_cases hneg : i < 0
  · simp only [setSlot, hneg, if_true]
    split
    · rfl
    · have hne : ¬ (i + (stackSize : Int)).toNat = k.val := by omega
      simp [hne]
  · have hne : ¬ i.toNat = k.val := by omega
    rw [setSlot_of_nonneg slots (by omega)]
    simp [hne]

/-- A push changes no slot but the one that the depth names. -/
theorem slots_push (h : ¬ ((k.val : Int) = s.depth ∨ (k.val : Int) = s.depth + stackSize))
    (address : UInt16) : (s.push address).1.slots.get k = s.slots.get k := by
  rw [push]
  split
  · rfl
  · exact get_setSlot_of_ne s.slots address h

/-- A pop changes no slot but the one below the depth. -/
theorem slots_pop (h₀ : 0 < s.depth) (hfits : fits32 s.depth = true)
    (h : (k.val : Int) ≠ s.depth - 1) : s.pop.1.slots.get k = s.slots.get k := by
  show s.pop.1.slots[k] = s.slots[k]
  have htop := top_of_fits h₀ hfits
  have hne : s.top ≠ k.val := by omega
  rw [pop, if_neg (by omega)]
  simp [hne]

end CallStack

/-- The slots of the call stack outside of those that an operation may change. -/
theorem slots_nextStack {op : Operation} {w : Word} {byte : UInt8} {s t : State} {k : Fin 16}
    (h : op.effect w byte s = .ok t) (hslot : ¬ op.SetsSlot s.stack k) :
    (op.nextStack s).slots.get k = s.stack.slots.get k := by
  obtain ⟨hcall, hret⟩ := not_or.mp hslot
  unfold Operation.nextStack
  split
  · have hdepth := (ret_eq_ok h).1
    obtain ⟨hfits, hne⟩ := Classical.not_imp.mp fun hslot => hret ⟨rfl, hslot⟩
    exact CallStack.slots_pop hdepth hfits hne
  · exact CallStack.slots_push (fun hslot => hcall ⟨rfl, hslot⟩) s.pc
  · rfl

/-- The depth of the call stack after a completed operation. -/
theorem depth_nextStack {op : Operation} {w : Word} {byte : UInt8} {s t : State}
    (h : op.effect w byte s = .ok t) :
    (op.nextStack s).depth =
      if op = .call then s.stack.depth + 1 else if op = .ret then s.stack.depth - 1
      else s.stack.depth := by
  unfold Operation.nextStack
  split
  · have hdepth := (ret_eq_ok h).1
    rw [CallStack.pop, if_neg (by omega)]
    rfl
  · have hdepth := (call_eq_ok h).1
    rw [CallStack.push, if_neg (by simp only [stackSize]; omega)]
    rfl
  · next hret hcall => rw [if_neg hcall, if_neg hret]

/-! ### Completed steps -/

namespace State

variable {s t : State} {i : Instruction} {source source' : ByteSource}

/-- A completed step keeps the key of the random bytes, unless its operation draws from it. -/
theorem key_step (h : s.step source = (.ok (i, t), source'))
    (hkey : ¬ (i.op = .random ∧ source = .key)) : t.key = s.key := by
  have hdraw := draw_step h
  split at hdraw
  · next hop =>
    cases source with
    | key => exact absurd ⟨hop, rfl⟩ hkey
    | feed value calls => exact congrArg Supply.key hdraw.1
  · exact hdraw.1

/-- **Every instruction stays inside its footprint.**  A completed step agrees with the state before
    it at every place that its operation may not change.  A call moves the depth of the call stack
    up by one and a return moves it down by one, and the fault record is clear afterwards. -/
theorem step_footprint (h : s.step source = (.ok (i, t), source')) :
    (∀ place, ¬ i.op.MayChange i.word s source place → s.AgreeAt t place) ∧
      (i.op = .call → t.stack.depth = s.stack.depth + 1) ∧
      (i.op = .ret → t.stack.depth = s.stack.depth - 1) ∧
      t.fault = .clear := by
  obtain ⟨-, hi, -, -⟩ := step_eq_ok h
  have hword : i.word = s.word := congrArg Instruction.word hi
  obtain ⟨byte, key, heffect⟩ := effect_of_step h
  have hstorage := storage_effect heffect
  have hcontrol := effect_eq heffect
  have hstack := congrArg State.stack hcontrol
  have hdepth := depth_nextStack heffect
  have hmargin := margin_step h
  rw [hword]
  refine ⟨fun place hplace => ?_, fun hop => ?_, fun hop => ?_, fault_step h⟩
  · cases place with
    | byte address =>
      show t.memory.byteAt address.val = _
      rw [congrArg State.memory hstorage]
      exact byteAt_nextMemory hplace
    | register r => exact reg_effect heffect hplace
    | index => exact (congrArg State.index hstorage).trans (nextIndex_of_not hplace)
    | pc => exact absurd trivial hplace
    | slot k =>
      show t.stack.slots.get k = _
      rw [hstack]
      exact slots_nextStack heffect hplace
    | depth =>
      obtain ⟨hcall, hret⟩ := not_or.mp hplace
      rw [if_neg hcall, if_neg hret] at hdepth
      exact (congrArg CallStack.depth hstack).trans hdepth
    | delay => exact (congrArg Margin.delay hmargin).trans (if_neg hplace)
    | sound => exact (congrArg Margin.sound hmargin).trans (if_neg hplace)
    | screen => exact (congrArg State.screen hstorage).trans (if_neg hplace)
    | keypad => exact (congrArg State.keypad hcontrol :)
    | key => exact key_step h hplace
    | fault => exact absurd trivial hplace
    | dialect => exact dialect_step h
  · rw [if_pos hop] at hdepth
    exact (congrArg CallStack.depth hstack).trans hdepth
  · rw [if_neg (by rw [hop]; decide), if_pos hop] at hdepth
    exact (congrArg CallStack.depth hstack).trans hdepth

/-- Two registers stored in the last two bytes of memory, in a dialect where that moves I on. -/
theorem step_footprint_last_bytes :
    let s : State :=
      { initial .cosmacVip default with
        memory := ⟨Vector.ofFn fun a => if a.val = 0x201 then 0x55 else 0xF1⟩
        index := 0xFFE }
    ∃ t, s.step .key = (.ok (⟨.storeRegisters, 0xF155, some 0x200⟩, t), .key) ∧
      (∀ address : Fin 4096, address.val < 0xFFE →
        t.memory.byteAt address.val = s.memory.byteAt address.val) ∧
      (∀ r, t.reg r = s.reg r) ∧ t.screen = s.screen ∧ t.stack.depth = s.stack.depth ∧
      t.fault = .clear := by
  intro s
  have hword : s.word = 0xF155 := by
    rw [word_eq_clampedWord]
    simp only [clampedWord, s, Vector.getElem_ofFn]
    rfl
  have hop : Operation.ofWord? s.word = some .storeRegisters := by
    rw [hword]
    decide
  have htrap : Operation.storeRegisters.trap? s.word s.fetched = none := by
    rw [hword]
    rfl
  obtain ⟨t, ht⟩ := run_eq_ok_of_trap_none htrap .key
  have hsource : (Operation.storeRegisters.run s.word s.fetched .key).2 = .key := by rw [source_run]; rfl
  have hstep := step_of_run (by decide) hop (Prod.ext ht hsource)
  rw [State.instruction, hword] at hstep
  obtain ⟨hsame, -, -, hfault⟩ := step_footprint hstep
  refine ⟨t, hstep, fun address haddress => ?_, fun r => ?_, ?_, ?_, hfault⟩
  · have hbyte : ¬ Operation.storeRegisters.SetsByte 0xF155 s address := by
      rintro (⟨hdecimal, -⟩ | ⟨-, hle, -⟩)
      · cases hdecimal
      · exact absurd haddress (Nat.not_lt.mpr hle)
    exact hsame (.byte address) hbyte
  · exact hsame (.register r) id
  · exact hsame .screen (by rintro (h | h) <;> cases h)
  · exact hsame .depth (by rintro (h | h) <;> cases h)

end State

end Chip8
