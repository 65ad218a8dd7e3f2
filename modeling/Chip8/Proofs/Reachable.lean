import Chip8.Proofs.FreshStart
import Chip8.Proofs.Invariant

namespace Chip8

/-!
# Reachable machines

Whatever a host does with a machine, succeeding or not, the machine's state satisfies the invariant.

* `Sound.of_write` — a write that leaves program counter, call stack and fault record alone keeps
  the invariant, and so do all the writes of the debugger that a machine offers;
* `sound_perform`, `sound_frameFor` — every operation keeps the invariant;
* `Machine.Reachable` — the machines that operations lead to from a new one;
* `Reachable.invariant` — the invariant holds of them, and no calculation with the program counter
  wraps around in a cycle that fetches inside memory.
-/

namespace State

variable {s t : State}

/-! ### Images and writes -/

/-- The state that a machine starts from satisfies the invariant. -/
theorem sound_initial (dialect : Dialect) (key : RandomKey) : (initial dialect key).Sound where
  pc_le := by
    show (UInt16.ofNat programStart).toNat ≤ 0x10FE
    decide
  stack := CallStack.tidy_empty
  fault := FaultRecord.consistent_clear

/-- A write that leaves program counter, call stack and fault record alone keeps the invariant. -/
theorem Sound.of_write (h : s.Sound) (hpc : t.pc = s.pc) (hstack : t.stack = s.stack)
    (hfault : t.fault = s.fault) : t.Sound := by
  refine ⟨?_, ?_, ?_⟩
  · rw [hpc]
    exact h.pc_le
  · rw [hstack]
    exact h.stack
  · rw [hfault]
    exact h.fault

/-- An image goes to memory only. -/
theorem Sound.loadRom (h : s.Sound) {rom : List UInt8} (hload : s.loadRom rom = .ok t) :
    t.Sound := by
  unfold State.loadRom at hload
  split at hload
  · cases hload
    exact h.of_write rfl rfl rfl
  · exact nomatch hload

/-- A byte written to memory. -/
theorem Sound.pokeMemory (h : s.Sound) {address value : Value}
    (hpoke : s.pokeMemory address value = .ok t) : t.Sound := by
  obtain ⟨a, b, rfl⟩ := pokeMemory_eq_ok hpoke
  exact h.of_write rfl rfl rfl

/-- A register written. -/
theorem Sound.pokeRegister (h : s.Sound) {register value : Value}
    (hpoke : s.pokeRegister register value = .ok t) : t.Sound := by
  obtain ⟨r, b, rfl⟩ := pokeRegister_eq_ok hpoke
  exact h.of_write rfl rfl rfl

/-- The index register written. -/
theorem Sound.pokeIndex (h : s.Sound) {value : Value} (hpoke : s.pokeIndex value = .ok t) :
    t.Sound := by
  obtain ⟨a, rfl⟩ := pokeIndex_eq_ok hpoke
  exact h.of_write rfl rfl rfl

/-- The program counter written: it takes addresses inside memory only. -/
theorem Sound.pokePc (h : s.Sound) {value : Value} (hpoke : s.pokePc value = .ok t) : t.Sound := by
  obtain ⟨a, rfl⟩ := pokePc_eq_ok hpoke
  have hlt : a.val < 4096 := a.isLt
  refine ⟨?_, h.stack, h.fault⟩
  rw [UInt16.toNat_ofNat', Nat.mod_eq_of_lt (by omega)]
  omega

/-- Both timers written. -/
theorem Sound.pokeTimers (h : s.Sound) {delay sound : Value}
    (hpoke : s.pokeTimers delay sound = .ok t) : t.Sound := by
  obtain ⟨a, b, rfl⟩ := pokeTimers_eq_ok hpoke
  exact h.of_write rfl rfl rfl

end State

/-! ### Operations -/

namespace Machine

variable {m : Machine}

/-- A program loaded starts from a new state. -/
theorem sound_loadFor (h : m.state.Sound) (rom : Rom) : (m.loadFor rom).machine.state.Sound := by
  rcases rom.fits_or_refused with ⟨bytes, hfits⟩ | ⟨error, hrefused⟩
  · have hload := loadRom_initial m.state.dialect m.key hfits.2
    rw [m.loadFor_of_fits hfits]
    exact (State.sound_initial m.state.dialect m.key).loadRom hload
  · rw [m.loadFor_of_refused hrefused]
    exact h

/-- A key pressed or released. -/
theorem sound_setKey (h : m.state.Sound) (index down : Value) :
    (m.setKey index down).machine.state.Sound := by
  unfold setKey
  split
  · exact h.of_write rfl rfl rfl
  · exact h

/-- A step that fails leaves the state as it was. -/
theorem sound_step (h : m.state.Sound) : m.step.machine.state.Sound := by
  unfold step
  split
  · split
    · next i state source hstep => exact h.step hstep
    · exact h
  · exact h

/-- A frame that fails has still run until it faulted. -/
theorem sound_frame (h : m.state.Sound) (count : Int) : (m.frame count).machine.state.Sound := by
  rcases machine_frame_cases m count with hframe | hframe
  · rw [hframe]
    exact h
  · rw [hframe]
    exact h.runFrame count.toNat m.source

/-- A frame under a host's description of the dialect is a frame, or nothing happens. -/
theorem sound_frameFor (h : m.state.Sound) (description count : Value) :
    (m.frameFor description count).machine.state.Sound := by
  rcases frameFor_cases m description count with ⟨refusal, -, hframe⟩ | ⟨n, hframe⟩
  · rw [hframe]
    exact h
  · rw [hframe]
    exact sound_frame h n

/-- A write that is refused changes nothing. -/
theorem sound_poke (h : m.state.Sound) {write : State → Except Fault State}
    (hwrite : ∀ {t}, write m.state = .ok t → t.Sound) : (m.poke write).machine.state.Sound := by
  unfold poke
  split
  · next state hstate => exact hwrite hstate
  · exact h

/-- Every operation keeps the invariant. -/
theorem sound_perform (h : m.state.Sound) (command : Command) :
    (m.perform command).machine.state.Sound := by
  cases command with
  | load rom => exact sound_loadFor h rom
  | setKey index down => exact sound_setKey h index down
  | step => exact sound_step h
  | frame count => exact sound_frame h count
  | pokeMemory address value => exact sound_poke h h.pokeMemory
  | pokeRegister register value => exact sound_poke h h.pokeRegister
  | pokeIndex value => exact sound_poke h h.pokeIndex
  | pokePc value => exact sound_poke h h.pokePc
  | pokeTimers delay sound => exact sound_poke h h.pokeTimers

/-! ### Reachable machines -/

/-- The machines that a host can bring about: a new one, and whatever an operation leaves, whether
    it succeeds or fails.  A frame may also be asked for by a value of any kind. -/
inductive Reachable : Machine → Prop
  | create {m : Machine} {dialect : Dialect} {seed : Int} {source : ByteSource}
      (h : create dialect seed source = .ok m) : Reachable m
  | perform {m : Machine} (h : Reachable m) (command : Command) :
      Reachable (m.perform command).machine
  | frameFor {m : Machine} (h : Reachable m) (description count : Value) :
      Reachable (m.frameFor description count).machine

/-- A new machine satisfies the invariant. -/
theorem sound_create {dialect : Dialect} {seed : Int} {source : ByteSource}
    (h : create dialect seed source = .ok m) : m.state.Sound := by
  unfold create at h
  cases hkey : seedKey seed with
  | error error =>
    rw [hkey] at h
    exact nomatch h
  | ok key =>
    rw [hkey] at h
    rw [← Except.ok.inj h]
    exact State.sound_initial dialect key

/-- The invariant holds in every reachable machine. -/
theorem Reachable.state_sound (h : m.Reachable) : m.state.Sound := by
  induction h with
  | create h => exact sound_create h
  | perform _ command ih => exact sound_perform ih command
  | frameFor _ description count ih => exact sound_frameFor ih description count

/-- Several operations lead from a reachable machine to another. -/
theorem Reachable.after (h : m.Reachable) (commands : List Command) :
    (m.after commands).Reachable := by
  induction commands generalizing m with
  | nil => exact h
  | cons command rest ih => exact ih (h.perform command)

/-- **The invariant of a machine.**  Every reachable machine has a bounded program counter, a tidy
    call stack and a consistent fault record, and so has every state that its instructions lead to
    one after the other, those in the middle of a frame among them.  In none of these states does
    anything wrap around that is added to the program counter or taken away from it, as long as the
    word that is fetched lies inside memory. -/
theorem Reachable.invariant (h : m.Reachable) :
    m.state.Sound ∧
      ∀ {source : ByteSource} {instructions : List Instruction} {t : State} {source' : ByteSource},
        m.state.Steps source instructions t source' →
          t.Sound ∧ (t.pc.toNat ≤ 0xFFE → t.CountsExactly) := by
  have hsound := h.state_sound
  exact ⟨hsound, fun hsteps => ⟨hsound.steps hsteps, State.countsExactly_of_le⟩⟩

/-- A machine whose program counter was moved to the last word of memory. -/
theorem Reachable.invariant_last_word :
    let m : Machine := ⟨.initial {} (.ofSeed 0), .key, .ofSeed 0, false⟩
    let moved := m.after [.pokePc (.int 0xFFE), .step]
    moved.state.pc = 0xFFE ∧ moved.state.Sound ∧ moved.state.CountsExactly := by
  intro m moved
  have hnew : Machine.create {} 0 .key = .ok m := rfl
  have hmoved : moved.Reachable := (Reachable.create hnew).after [.pokePc (.int 0xFFE), .step]
  have hpc : moved.state.pc = 0xFFE := rfl
  obtain ⟨hsound, hrun⟩ := Reachable.invariant hmoved
  refine ⟨hpc, hsound, (hrun (.nil moved.state .key)).2 ?_⟩
  rw [hpc]
  decide

end Machine

end Chip8
