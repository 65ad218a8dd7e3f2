import Mathlib.Algebra.GroupWithZero.Nat
import Mathlib.Data.List.Sort
import Chip8.Proofs.FirstFault
import Chip8.Proofs.Frame
import Chip8.Proofs.Indifference
import Chip8.Proofs.Invariant
import Chip8.Proofs.Pattern

namespace Chip8

/-!
# Waiting for a key

A machine in front of a word that waits for a key stays there as long as no key is pressed.  Single
steps and frames complete as many instructions as they are asked for, and nothing but the timers
goes on.

* `pairwise_pressedKeys`, `lowestKey?_eq_none`, `exists_lowestKey?` — which key is found;
* `State.step_of_waitKey` — what the waiting instruction does;
* `State.rested` — the state after some frames of nothing else, and how these frames add up;
* `Machine.Waits` — a machine that waits;
* `Waits.step`, `Waits.frame`, `Waits.perform` — one operation leaves it rested and waiting;
* `Waits.performAll` — so does any number of operations;
* `exists_keypad_after` — keys that are pressed and released change the keypad only;
* `Machine.idle`, `Machine.woken` — what is left after idle operations, and after the waiting is
  over;
* `WakesWith`, `wakesWith` — the next instruction completes with a key;
* `wait_until_pressed` — the machine waits until a key is pressed, and goes on with the lowest one.
-/

namespace State

variable {s : State}

/-! ### The lowest key -/

/-- The key that is found is the first of those that are pressed. -/
theorem lowestKey?_eq_head? (s : State) : s.lowestKey? = s.pressedKeys.head? := by
  rw [lowestKey?, ← List.head?_filter]
  rfl

/-- The pressed keys ascend. -/
theorem pairwise_pressedKeys (s : State) : s.pressedKeys.Pairwise (· ≤ ·) := by
  have hkeys : (List.finRange 16).Pairwise (· ≤ ·) := (List.sortedLT_finRange 16).sortedLE.pairwise
  exact hkeys.filter _

/-- No key is found when none is pressed. -/
theorem lowestKey?_eq_none (h : s.pressedKeys = []) : s.lowestKey? = none := by
  rw [lowestKey?_eq_head?, h]
  rfl

/-- When keys are pressed, the lowest of them is found. -/
theorem exists_lowestKey? (h : s.pressedKeys ≠ []) :
    ∃ k ∈ s.pressedKeys, s.lowestKey? = some k ∧ ∀ other ∈ s.pressedKeys, k ≤ other := by
  have hsorted := s.pairwise_pressedKeys
  rw [lowestKey?_eq_head?]
  cases hkeys : s.pressedKeys with
  | nil => exact (h hkeys).elim
  | cons k rest =>
    rw [hkeys] at hsorted
    refine ⟨k, List.mem_cons_self, rfl, List.forall_mem_cons.mpr ⟨Fin.le_refl k, ?_⟩⟩
    exact fun other hother => List.rel_of_pairwise_cons hsorted hother

/-! ### The waiting instruction -/

section

variable (hpc : s.pc.toNat ≤ 0xFFE) (hword : Word.fits "FX0A" s.word = true)
include hpc hword

/-- The instruction never traps. -/
theorem step_of_waitKey (source : ByteSource) :
    s.step source =
      (.ok (s.instruction .waitKey, s.fetched.awaitKey (Word.x s.word)), source) := by
  have hop : Operation.ofWord? s.word = some .waitKey := ofWord?_of_fits hword
  apply step_of_run hpc hop
  rw [Operation.run, if_neg (by decide)]
  rfl

/-- Without a key it goes back to where it was fetched from, and that is all. -/
theorem step_of_released (h : s.pressedKeys = []) (source : ByteSource) :
    s.step source = (.ok (s.instruction .waitKey, { s with fault := .clear }), source) := by
  have hnone : s.fetched.lowestKey? = none := lowestKey?_eq_none h
  have hback : s.pc + 2 - 2 = s.pc := UInt16.add_sub_cancel s.pc 2
  rw [step_of_waitKey hpc hword, awaitKey, hnone]
  simp only [fetched, hback]

/-- With the key it stores its number, and goes on behind its own word. -/
theorem step_of_lowestKey {k : Fin 16} (h : s.lowestKey? = some k) (source : ByteSource) :
    s.step source =
      (.ok (s.instruction .waitKey,
        { s with
          registers := s.registers.set (Word.x s.word) (UInt8.ofNat k.val)
          pc := s.pc + 2
          fault := .clear }), source) := by
  have hsome : s.fetched.lowestKey? = some k := h
  rw [step_of_waitKey hpc hword, awaitKey, hsome]
  rfl

/-- A batch without a key completes as many instructions as its budget allows. -/
theorem runBatch_of_released (h : s.pressedKeys = []) (n : Nat)
    (source : ByteSource) :
    s.runBatch n source = ⟨{ s with fault := .clear }, n, source⟩ := by
  -- Every cycle leaves the state that the next one starts from.
  induction n with
  | zero => rfl
  | succ n ih =>
    have hgoes : ¬ ((s.instruction .waitKey).op = .draw ∧ s.dialect.drawEndsBatch = true) :=
      fun ⟨hop, _⟩ => nomatch hop
    rw [runBatch_of_step (step_of_released hpc hword h source), if_neg hgoes, runBatch_setFault, ih]
    simp only [Batch.mk.injEq, true_and, and_true]
    omega

end

/-! ### Frames that only tick -/

/-- The state after so many ticks of the timers, with a clear fault record.  Each tick takes one
    away from a timer that is not zero. -/
def rested (s : State) (frames : Nat) : State :=
  { s with
    delay := UInt8.ofNat (s.delay.toNat - frames)
    sound := UInt8.ofNat (s.sound.toNat - frames)
    fault := .clear }

/-- What is left of a timer. -/
theorem toNat_left (timer : UInt8) (frames : Nat) :
    (UInt8.ofNat (timer.toNat - frames)).toNat = timer.toNat - frames := by
  have hlt := timer.toNat_lt
  rw [UInt8.toNat_ofNat', Nat.mod_eq_of_lt (by omega)]

/-- Without a frame the record alone is cleared. -/
theorem rested_zero (s : State) : s.rested 0 = { s with fault := .clear } := by
  simp [rested]

/-- One tick with a clear record. -/
theorem tick_clear (s : State) : ({ s with fault := .clear } : State).tick = s.rested 1 := by
  have hleft (timer : Timer) : (s.tick.timer timer).toNat = (s.timer timer).toNat - 1 :=
    toNat_timer_tick s timer
  have hdelay : s.tick.delay = UInt8.ofNat (s.delay.toNat - 1) :=
    UInt8.toNat_inj.mp ((hleft .delay).trans (toNat_left s.delay 1).symm)
  have hsound : s.tick.sound = UInt8.ofNat (s.sound.toNat - 1) :=
    UInt8.toNat_inj.mp ((hleft .sound).trans (toNat_left s.sound 1).symm)
  rw [rested, ← hdelay, ← hsound]
  rfl

/-- Frames add up. -/
theorem rested_rested (s : State) (first rest : Nat) :
    (s.rested first).rested rest = s.rested (first + rest) := by
  simp only [rested, toNat_left, Nat.sub_sub]

end State

/-! ### Machines that wait -/

/-- Whether an operation is a single step or a frame whose count is in range. -/
def Command.Runs : Command → Prop
  | .step => True
  | .frame count => 0 ≤ count ∧ count < budgetLimit
  | _ => False

/-- How often an operation ticks the timers. -/
def Command.ticks : Command → Nat
  | .frame _ => 1
  | _ => 0

/-- What a machine that waits answers: as many instructions as it was asked for. -/
def Command.waitAnswer : Command → Answer
  | .frame count => .executed count.toNat
  | _ => .completed .waitKey

/-- Whether an operation presses or releases a key. -/
def Command.Presses : Command → Prop
  | .setKey _ _ => True
  | _ => False

namespace Machine

variable {m : Machine} {commands presses : List Command} {command : Command} {count : Int}

/-- A program is loaded, the program counter points at a word that waits for a key, and no key is
    pressed. -/
structure Waits (m : Machine) : Prop where
  loaded : m.loaded = true
  inside : m.state.pc.toNat ≤ 0xFFE
  word : Word.fits "FX0A" m.state.word = true
  released : m.state.pressedKeys = []

namespace Waits

/-- A machine still waits after frames that only tick. -/
theorem rested (h : m.Waits) (frames : Nat) :
    Waits { m with state := m.state.rested frames } :=
  ⟨h.loaded, h.inside, h.word, h.released⟩

/-- A step completes the waiting instruction. -/
theorem step (h : m.Waits) :
    m.step = ⟨.ok (.completed .waitKey), { m with state := m.state.rested 0 }, []⟩ := by
  rw [Machine.step, if_pos h.loaded, State.step_of_released h.inside h.word h.released,
    State.rested_zero]
  rfl

/-- A frame completes it as often as its budget allows, and ticks. -/
theorem frame (h : m.Waits) (h₀ : 0 ≤ count) (h₁ : count < budgetLimit) :
    m.frame count =
      ⟨.ok (.executed count.toNat), { m with state := m.state.rested 1 }, []⟩ := by
  have hbatch := State.runBatch_of_released h.inside h.word h.released count.toNat m.source
  have hstate : (m.state.runBatch count.toNat m.source).state = { m.state with fault := .clear } := by
    rw [hbatch]
  rw [frame_of_clear h₀ h.loaded h₁ hstate, hbatch, State.tick_clear]

/-- Every step and every frame leaves the machine rested. -/
theorem perform (h : m.Waits) (hruns : command.Runs) :
    m.perform command =
      ⟨.ok command.waitAnswer, { m with state := m.state.rested command.ticks }, []⟩ := by
  cases command with
  | step => exact h.step
  | frame count => exact h.frame hruns.1 hruns.2
  | _ => exact hruns.elim

/-- What any number of steps and frames answer, and what they leave. -/
theorem performAll (h : m.Waits) (hruns : ∀ command ∈ commands, command.Runs) :
    (m.performAll commands).map (fun reply => (reply.result, reply.events)) =
        commands.map (fun command => (.ok command.waitAnswer, [])) ∧
      m.after commands =
        if commands = [] then m
        else { m with state := m.state.rested (commands.map (·.ticks)).sum } := by
  induction commands generalizing m with
  | nil => exact ⟨rfl, rfl⟩
  | cons command rest ih =>
    have hfirst := h.perform (hruns command List.mem_cons_self)
    obtain ⟨hanswers, hafter⟩ :=
      ih (h.rested command.ticks) fun other hother => hruns other (List.mem_cons_of_mem command hother)
    constructor
    · simp only [Machine.performAll, hfirst, List.map_cons, hanswers]
    · show (m.perform command).machine.after rest = _
      rw [hfirst, hafter, if_neg (List.cons_ne_nil command rest)]
      -- The rest may be empty, and its ticks are added to those of the first operation.
      split
      · next hrest =>
        rw [hrest]
        rfl
      · simp only [State.rested_rested, List.map_cons, List.sum_cons]

end Waits

/-- Keys that are pressed and released change the keypad only. -/
theorem exists_keypad_after (hpresses : ∀ press ∈ presses, press.Presses) :
    ∃ keypad, m.after presses = { m with state := { m.state with keypad } } := by
  induction presses generalizing m with
  | nil => exact ⟨m.state.keypad, rfl⟩
  | cons press rest ih =>
    have hfirst : ∃ keypad, (m.perform press).machine = { m with state := { m.state with keypad } } := by
      cases press with
      | setKey index down =>
        show ∃ keypad, (m.setKey index down).machine = _
        unfold setKey
        split
        · exact ⟨_, rfl⟩
        · exact ⟨m.state.keypad, rfl⟩
      | _ => exact (hpresses _ List.mem_cons_self).elim
    obtain ⟨keypad, hfirst⟩ := hfirst
    obtain ⟨keypad', hrest⟩ :=
      ih (m := (m.perform press).machine) fun other hother =>
        hpresses other (List.mem_cons_of_mem press hother)
    refine ⟨keypad', ?_⟩
    show (m.perform press).machine.after rest = _
    rw [hrest, hfirst]

/-- A frame whose first instruction completes goes on from there with the rest of its budget. -/
theorem machine_frame_of_step {i : Instruction} {t : State} {source : ByteSource}
    (hstep : m.state.step m.source = (.ok (i, t), source)) (hop : i.op ≠ .draw)
    (hloaded : m.loaded = true) (h₀ : 0 ≤ count) (h₁ : count + 1 < budgetLimit) :
    (m.frame (count + 1)).machine = (({ m with state := t, source } : Machine).frame count).machine := by
  have hbudget : (count + 1).toNat = count.toNat + 1 := by omega
  have hgoes : ¬ (i.op = .draw ∧ m.state.dialect.drawEndsBatch = true) := fun ⟨hdraw, _⟩ => hop hdraw
  have hbatch := State.runBatch_of_step hstep count.toNat
  rw [if_neg hgoes] at hbatch
  rw [frame_of_accepted (by omega) hloaded h₁,
    frame_of_accepted (m := { m with state := t, source }) h₀ hloaded (by omega)]
  simp only [State.runFrame, hbudget, hbatch]
  -- Whatever the record says, both frames leave what the batch leaves.
  split <;> rfl

/-- The machine after these operations have done nothing but tick.  The fault record is clear if
    there was any of them. -/
def idle (m : Machine) (commands : List Command) : Machine :=
  { m with
    state :=
      { m.state.rested (commands.map (·.ticks)).sum with
        fault := if commands = [] then m.state.fault else .clear } }

/-- The machine after the waiting instruction has stored the number of a key. -/
def woken (m : Machine) (k : Fin 16) : Machine :=
  { m with
    state :=
      { m.state with
        registers := m.state.registers.set (Word.x m.state.word) (UInt8.ofNat k.val)
        pc := m.state.pc + 2
        fault := .clear } }

/-- The next instruction completes with this key, in a step as well as in a frame. -/
structure WakesWith (m : Machine) (k : Fin 16) : Prop where
  step : m.step = ⟨.ok (.completed .waitKey), m.woken k, []⟩
  frame : ∀ count : Int, 0 ≤ count → count + 1 < budgetLimit →
    (m.frame (count + 1)).machine = ((m.woken k).frame count).machine

/-- With the lowest key that is pressed, a machine goes on behind the waiting word. -/
theorem wakesWith (hloaded : m.loaded = true) (hpc : m.state.pc.toNat ≤ 0xFFE)
    (hword : Word.fits "FX0A" m.state.word = true) {k : Fin 16}
    (hlowest : m.state.lowestKey? = some k) : m.WakesWith k := by
  have hstep := State.step_of_lowestKey hpc hword hlowest m.source
  constructor
  · rw [Machine.step, if_pos hloaded, hstep]
    rfl
  · intro count h₀ h₁
    have hop : (m.state.instruction .waitKey).op ≠ .draw := by
      show Operation.waitKey ≠ .draw
      decide
    exact machine_frame_of_step hstep hop hloaded h₀ h₁

/-- **Waiting for a key.**  A machine that waits answers every step and every frame as if there were
    nothing to wait for, and it stays as it was, except that each frame takes one away from each
    timer that is not zero, and that the fault record is clear once there was any operation.

    If keys are then pressed or released in any way that leaves some of them pressed, the next
    instruction completes, in a step as well as in a frame.  It stores the number of the lowest
    pressed key in VX and goes on behind the word.  All else stays: the other registers, the timers,
    the keys. -/
theorem wait_until_pressed (h : m.Waits) (hruns : ∀ command ∈ commands, command.Runs) :
    let waiting := m.idle commands
    (m.performAll commands).map (fun reply => (reply.result, reply.events)) =
        commands.map (fun command => (.ok command.waitAnswer, [])) ∧
      m.after commands = waiting ∧
      ∀ presses : List Command, (∀ press ∈ presses, press.Presses) →
        let held := waiting.after presses
        (∃ keypad, held = { waiting with state := { waiting.state with keypad } }) ∧
          (held.state.pressedKeys ≠ [] →
            ∃ k ∈ held.state.pressedKeys, (∀ other ∈ held.state.pressedKeys, k ≤ other) ∧
              held.WakesWith k ∧ (held.woken k).state.pc.toNat = m.state.pc.toNat + 2) := by
  intro waiting
  obtain ⟨hanswers, hafter⟩ := h.performAll hruns
  have hwaiting : m.after commands = waiting := by
    rw [hafter]
    -- Without an operation there was no frame either.
    split
    · next hnone => simp [waiting, idle, State.rested, hnone]
    · next hsome => simp only [waiting, idle, if_neg hsome, State.rested]
  refine ⟨hanswers, hwaiting, ?_⟩
  intro presses hpresses held
  obtain ⟨keypad, hkeypad⟩ := exists_keypad_after (m := waiting) hpresses
  have hheld : held = { waiting with state := { waiting.state with keypad } } := hkeypad
  refine ⟨⟨keypad, hheld⟩, fun hpressed => ?_⟩
  obtain ⟨k, hdown, hlowest, hleast⟩ := State.exists_lowestKey? hpressed
  refine ⟨k, hdown, hleast, ?_⟩
  -- The machine whose keys are pressed is still in front of the waiting word.
  rw [hheld] at hlowest ⊢
  have hwakes : WakesWith { waiting with state := { waiting.state with keypad } } k :=
    wakesWith (m := { waiting with state := { waiting.state with keypad } }) h.loaded h.inside h.word hlowest
  have hle := h.inside
  exact ⟨hwakes, toNat_add_two (a := m.state.pc) (by omega)⟩

/-- The word F30A in the last two bytes of memory.  One of the timers has run out when the keys 9
    and 5 are pressed, and V3 is 5 then. -/
theorem wait_until_pressed_last_word :
    let code (a : Nat) : UInt8 := if a = 0xFFE then 0xF3 else 0x0A
    let s : State :=
      { State.initial {} default with
        memory := ⟨Vector.ofFn fun a => code a.val⟩, pc := 0xFFE, delay := 1, sound := 60 }
    let m : Machine := ⟨s, .key, default, true⟩
    let commands : List Command := [.frame 5, .step, .frame 0]
    let presses : List Command := [.setKey (.int 9) (.bool true), .setKey (.int 5) (.bool true)]
    let held := (m.idle commands).after presses
    m.Waits ∧ (∀ command ∈ commands, command.Runs) ∧ (∀ press ∈ presses, press.Presses) ∧
      (m.performAll commands).map (·.result) =
        [.ok (.executed 5), .ok (.completed .waitKey), .ok (.executed 0)] ∧
      m.after commands = { m with state := { s with delay := 0, sound := 58 } } ∧
      held.WakesWith 5 ∧ (held.woken 5).state.reg 3 = 5 ∧ (held.woken 5).state.pc.toNat = 0x1000 := by
  intro code s m commands presses held
  have hword : s.word = 0xF30A := by
    rw [State.word_eq_clampedWord]
    simp only [State.clampedWord, s, Vector.getElem_ofFn]
    rfl
  have hwaits : m.Waits := by
    refine ⟨rfl, by decide, ?_, by decide⟩
    show Word.fits "FX0A" s.word = true
    rw [hword]
    decide
  have hruns : ∀ command ∈ commands, command.Runs := by simp [commands, Command.Runs, budgetLimit]
  have hpresses : ∀ press ∈ presses, press.Presses := by simp [presses, Command.Presses]
  obtain ⟨hanswers, hafter, hkeys⟩ := wait_until_pressed hwaits hruns
  obtain ⟨⟨keypad, hheld⟩, hpressed⟩ := hkeys presses hpresses
  have hdown : held.state.pressedKeys = [5, 9] := by decide +kernel
  obtain ⟨k, hk, hleast, hwakes, hpc⟩ := hpressed (by rw [hdown]; decide)
  have hfive : k = 5 := by
    rw [hdown] at hk hleast
    have hle : k ≤ 5 := hleast 5 (by decide)
    rcases (by simpa using hk : k = 5 ∨ k = 9) with rfl | rfl
    · rfl
    · exact absurd hle (by decide)
  rw [hfive] at hwakes hpc
  have hword' : held.state.word = 0xF30A := (congrArg (·.state.word) hheld).trans hword
  have hregisters : held.state.registers = Vector.replicate 16 0 := congrArg (·.state.registers) hheld
  refine ⟨hwaits, hruns, hpresses, ?_, hafter, hwakes, ?_, hpc⟩
  · have hresults := congrArg (List.map Prod.fst) hanswers
    rw [List.map_map, List.map_map] at hresults
    exact hresults
  · simp only [State.reg, woken, hword', hregisters]
    rfl

end Machine

end Chip8
