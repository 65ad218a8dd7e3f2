import Chip8.Proofs.Steps

namespace Chip8

/-!
# Registers stored and loaded

Two instructions move the registers from V0 up to VX between the machine and memory at I.  As long
as the bytes lie in memory, each of them takes back what the other one has done.

* `State.storedMemory` — memory with the registers in it, and what its bytes are;
* `toNat_indexAfter` — where I is afterwards, which may be just behind memory;
* `execute_of_store`, `execute_of_load` — what the two instructions leave;
* `loadedRegisters_storedMemory`, `storedMemory_loadedRegisters` — the two ways round, without I;
* `store_load_inverse` — the instructions undo each other.
-/

namespace State

variable {s : State} {x : Fin 16} {i : Instruction}

/-! ### What is moved -/

/-- Memory with the registers V0 to VX from I on. -/
def storedMemory (s : State) (x : Fin 16) : Memory :=
  s.memory.writeBytes s.index.toNat s.registers.toList (x.val + 1 : Nat)

/-- A byte from I on that lies in memory is that of its register. -/
theorem byteAt_storedMemory_add (hinside : s.index.toNat + x.val + 1 ≤ 4096) {r : Fin 16} (hr : r ≤ x) :
    (s.storedMemory x).byteAt (s.index.toNat + r.val : Nat) = s.reg r := by
  have hle : r.val ≤ x.val := hr
  have hregister : s.registers.toList[r.val]? = some (s.reg r) := by
    rw [Vector.getElem?_toList, Vector.getElem?_eq_getElem r.isLt]
    rfl
  rw [storedMemory, Memory.byteAt_writeBytes _ _ _ _ (by omega), if_pos (by omega),
    Nat.add_sub_cancel_left, hregister]
  rfl

/-- The other bytes are left alone. -/
theorem byteAt_storedMemory_of_not {a : Nat} (ha : a < 4096)
    (hout : ¬ (s.index.toNat ≤ a ∧ a < s.index.toNat + x.val + 1)) :
    (s.storedMemory x).byteAt a = s.memory.byteAt a := by
  rw [storedMemory, Memory.byteAt_writeBytes _ _ _ _ ha]
  exact if_neg hout

/-- A register up to VX is read from memory, and the others are kept. -/
theorem reg_of_loadedRegisters {t : State} (h : t.registers = s.loadedRegisters x) (r : Fin 16) :
    t.reg r = if r ≤ x then s.memory.byteAt (s.index.toNat + r.val : Nat) else s.reg r := by
  rw [reg, h]
  simp only [loadedRegisters, Fin.getElem_fin, Vector.getElem_ofFn, Fin.eta]
  rfl

/-- I moves behind the bytes in some dialects, and does not wrap around then. -/
theorem toNat_indexAfter {count : Nat} (h : s.index.toNat + count ≤ 4096) :
    (s.indexAfter count).toNat =
      if s.dialect.indexAdvances then s.index.toNat + count else s.index.toNat := by
  unfold indexAfter
  split
  · rw [UInt16.toNat_add, UInt16.toNat_ofNat']
    omega
  · rfl

/-! ### The two ways round -/

/-- Registers that were stored are loaded again, whatever they hold meanwhile. -/
theorem loadedRegisters_storedMemory (hinside : s.index.toNat + x.val + 1 ≤ 4096) {t u : State}
    (hindex : t.index = s.index) (hmemory : t.memory = s.storedMemory x)
    (hregisters : u.registers = t.loadedRegisters x) (r : Fin 16) :
    u.reg r = if r ≤ x then s.reg r else t.reg r := by
  rw [reg_of_loadedRegisters hregisters, hindex, hmemory]
  by_cases hr : r ≤ x
  · rw [if_pos hr, if_pos hr, byteAt_storedMemory_add hinside hr]
  · rw [if_neg hr, if_neg hr]

/-- Registers that were loaded are stored without a change to memory. -/
theorem storedMemory_loadedRegisters (hinside : s.index.toNat + x.val + 1 ≤ 4096) {t : State}
    (hindex : t.index = s.index) (hmemory : t.memory = s.memory)
    (hregisters : t.registers = s.loadedRegisters x) : t.storedMemory x = s.memory := by
  apply Memory.ext_byteAt
  intro a ha
  rw [← hmemory]
  by_cases hin : s.index.toNat ≤ a ∧ a < s.index.toNat + x.val + 1
  · -- The byte is that of a register, which was loaded from this very byte.
    obtain ⟨r, rfl⟩ := Nat.exists_eq_add_of_le hin.1
    have hr : (⟨r, by omega⟩ : Fin 16) ≤ x := by
      show r ≤ x.val
      omega
    have hstored := byteAt_storedMemory_add (s := t) (by rw [hindex]; exact hinside) hr
    rw [hindex] at hstored
    rw [hstored, reg_of_loadedRegisters hregisters, if_pos hr, hmemory]
  · exact byteAt_storedMemory_of_not ha (by rw [hindex]; exact hin)

/-! ### The instructions -/

/-- Storing registers inside memory. -/
theorem execute_of_store (hop : i.op = .storeRegisters)
    (hinside : s.index.toNat + (Word.x i.word).val + 1 ≤ 4096) (source : ByteSource) :
    s.execute i source =
      (.ok { s with
        memory := s.storedMemory (Word.x i.word)
        index := s.indexAfter ((Word.x i.word).val + 1)
        fault := .clear }, source) := by
  apply execute_of_effect
  · rw [hop]
    decide
  · rw [hop]
    exact accessing_of_le (s := { s with fault := .clear }) hinside

/-- Loading registers from inside memory. -/
theorem execute_of_load (hop : i.op = .loadRegisters)
    (hinside : s.index.toNat + (Word.x i.word).val + 1 ≤ 4096) (source : ByteSource) :
    s.execute i source =
      (.ok { s with
        registers := s.loadedRegisters (Word.x i.word)
        index := s.indexAfter ((Word.x i.word).val + 1)
        fault := .clear }, source) := by
  apply execute_of_effect
  · rw [hop]
    decide
  · rw [hop]
    exact accessing_of_le (s := { s with fault := .clear }) hinside

/-- **Storing and loading registers undo each other.**  Take two instructions that move the
    registers up to the same VX, and bytes at I that lie in memory.

    Storing changes no byte but these.  If the registers then get any values and I is set back,
    loading gives the registers up to VX what they held at first, keeps the values of those above,
    and leaves memory alone.  The other way round, loading fills the registers up to VX with the
    bytes and changes no others, and if I is set back, storing leaves all of memory as it was.  In a
    dialect that says so, each of the four executions leaves I behind the bytes, even if that is
    behind memory, and in the others it leaves I where it was. -/
theorem store_load_inverse {store load : Instruction} (hstore : store.op = .storeRegisters)
    (hload : load.op = .loadRegisters) (hx : Word.x store.word = x ∧ Word.x load.word = x)
    (hinside : s.index.toNat + x.val + 1 ≤ 4096) (source : ByteSource) :
    let behind := s.index.toNat + x.val + 1
    let moved := if s.dialect.indexAdvances then behind else s.index.toNat
    (∃ stored, s.execute store source = (.ok stored, source) ∧
      stored = { s with memory := stored.memory, index := stored.index, fault := .clear } ∧
      (∀ a < 4096, ¬ (s.index.toNat ≤ a ∧ a < behind) →
        stored.memory.byteAt (a : Nat) = s.memory.byteAt (a : Nat)) ∧
      stored.index.toNat = moved ∧
      ∀ values, ∃ t,
        ({ stored with registers := values, index := s.index } : State).execute load source =
          (.ok t, source) ∧
        (∀ r, t.reg r = if r ≤ x then s.reg r else values[r]) ∧
        t.memory = stored.memory ∧ t.index.toNat = moved) ∧
    ∃ loaded, s.execute load source = (.ok loaded, source) ∧
      loaded = { s with registers := loaded.registers, index := loaded.index, fault := .clear } ∧
      (∀ r, loaded.reg r =
        if r ≤ x then s.memory.byteAt (s.index.toNat + r.val : Nat) else s.reg r) ∧
      loaded.index.toNat = moved ∧
      ∃ t, ({ loaded with index := s.index } : State).execute store source = (.ok t, source) ∧
        t.memory = s.memory ∧ t.index.toNat = moved := by
  intro behind moved
  obtain ⟨hxs, rfl⟩ := hx
  -- Each of the four executions starts from the same I, so that none of them traps.
  have hmoved (t : State) (hindex : t.index = s.index) (hdialect : t.dialect = s.dialect) :
      (t.indexAfter ((Word.x load.word).val + 1)).toNat = moved := by
    rw [toNat_indexAfter (by rw [hindex]; exact hinside), hindex, hdialect]
    rfl
  have hstored (t : State) (hindex : t.index = s.index) :=
    execute_of_store (s := t) hstore (by rw [hindex, hxs]; exact hinside) source
  have hloaded (t : State) (hindex : t.index = s.index) :=
    execute_of_load (s := t) hload (by rw [hindex]; exact hinside) source
  simp only [hxs] at hstored
  let stored : State :=
    { s with
      memory := s.storedMemory (Word.x load.word)
      index := s.indexAfter ((Word.x load.word).val + 1)
      fault := .clear }
  let loaded : State :=
    { s with
      registers := s.loadedRegisters (Word.x load.word)
      index := s.indexAfter ((Word.x load.word).val + 1)
      fault := .clear }
  constructor
  · refine ⟨stored, hstored s rfl, rfl, fun a ha hout => byteAt_storedMemory_of_not ha hout,
      hmoved s rfl rfl, ?_⟩
    intro values
    let changed : State := { stored with registers := values, index := s.index }
    exact ⟨_, hloaded changed rfl,
      loadedRegisters_storedMemory (t := changed) hinside rfl rfl rfl, rfl, hmoved changed rfl rfl⟩
  · refine ⟨loaded, hloaded s rfl, rfl, reg_of_loadedRegisters rfl, hmoved s rfl rfl, ?_⟩
    let back : State := { loaded with index := s.index }
    have hmemory : back.storedMemory (Word.x load.word) = s.memory :=
      storedMemory_loadedRegisters hinside rfl rfl rfl
    refine ⟨_, hstored back rfl, ?_, hmoved back rfl rfl⟩
    rw [← hmemory]

/-- All registers in the last sixteen bytes of memory, in a dialect where that moves I behind
    memory. -/
theorem store_load_inverse_last_bytes :
    let s : State :=
      { initial { indexAdvances := true } default with
        memory := ⟨Vector.replicate 4096 0x55⟩
        registers := Vector.ofFn fun r => UInt8.ofNat (16 * r.val + 1)
        index := 0xFF0 }
    let store : Instruction := ⟨.storeRegisters, 0xFF55, none⟩
    let load : Instruction := ⟨.loadRegisters, 0xFF65, none⟩
    store.op = .storeRegisters ∧ load.op = .loadRegisters ∧
      (Word.x store.word = 15 ∧ Word.x load.word = 15) ∧ s.index.toNat + (15 : Fin 16).val + 1 ≤ 4096 ∧
      ∃ stored t, s.execute store .key = (.ok stored, .key) ∧ stored.index.toNat = 4096 ∧
        stored.memory.byteAt (0xFEF : Nat) = 0x55 ∧
        ({ stored with registers := Vector.replicate 16 0, index := s.index } : State).execute load .key =
          (.ok t, .key) ∧
        t.reg 0 = 1 ∧ t.reg 15 = 241 ∧ t.index.toNat = 4096 := by
  intro s store load
  have hx : Word.x store.word = 15 ∧ Word.x load.word = 15 := by decide
  have hinside : s.index.toNat + (15 : Fin 16).val + 1 ≤ 4096 := by decide
  obtain ⟨⟨stored, hstore, -, hother, hindex, hback⟩, -⟩ :=
    @store_load_inverse s 15 store load rfl rfl hx hinside .key
  obtain ⟨t, hload, hregisters, -, hindex'⟩ := hback (Vector.replicate 16 0)
  refine ⟨rfl, rfl, hx, hinside, stored, t, hstore, hindex, ?_, hload, ?_, ?_, hindex'⟩
  · -- The byte before the first register.
    rw [hother 0xFEF (by decide) (by decide), Memory.byteAt_natCast, Vector.getElem_replicate]
  · rw [hregisters 0, if_pos (by decide)]
    rfl
  · rw [hregisters 15, if_pos (by decide)]
    rfl

end State

end Chip8
