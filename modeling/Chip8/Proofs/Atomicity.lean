import Chip8.Proofs.FirstFault
import Chip8.Proofs.FreshStart

namespace Chip8

/-!
# Failing operations

An operation of a machine that fails leaves no trace, with two exceptions: a frame that a fault
breaks off has run the instructions before the fault, and an image whose bytes fit but whose length
cannot be told is loaded.

* `machine_setKey`, `machine_step`, `machine_poke` — the operations without exception, whatever they
  had done before they failed;
* `Machine.Unsized`, `load_of_error` — what a load that fails leaves;
* `Machine.BrokenOff`, `frame_of_error` — what a frame that fails leaves;
* `perform_of_error` — all operations;
* `failure_atomic` — the same with frames that are asked for in odd ways;
* `failing_load_replaces_state` — the second exception, and a count that is not refused.
-/

namespace Machine

variable {m : Machine} {error : Error}

/-! ### Operations that leave no trace when they fail -/

/-- A value that is no key leaves the machine as it was. -/
theorem machine_setKey {index down : Value} (h : (m.setKey index down).result = .error error) :
    (m.setKey index down).machine = m := by
  unfold setKey at h ⊢
  split
  · next hkey =>
    rw [hkey] at h
    exact nomatch h
  · rfl

/-- A step that fails leaves the machine as it was.  Not even a random byte is drawn: the
    instruction that draws one cannot fail. -/
theorem machine_step (h : m.step.result = .error error) : m.step.machine = m := by
  unfold step at h ⊢
  split
  · next hloaded =>
    rw [if_pos hloaded] at h
    cases htrap : m.state.trap? with
    | none =>
      obtain ⟨i, t, source, hstep⟩ := State.step_of_trap_none htrap m.source
      rw [hstep] at h
      exact nomatch h
    | some trap =>
      rw [State.step_of_trap htrap]
      rfl
  · rfl

/-- A write that is refused leaves the machine as it was, even if a part of it was done already. -/
theorem machine_poke {write : State → Except Fault State} (h : (m.poke write).result = .error error) :
    (m.poke write).machine = m := by
  unfold poke at h ⊢
  split
  · next hwrite =>
    rw [hwrite] at h
    exact nomatch h
  · rfl

/-- A sound that is refused is the error of the whole write to the timers, if the delay is not
    refused before. -/
theorem pokeTimers_of_sound (s : State) {delay sound : Value}
    (hdelay : delay = .null ∨ ∃ k, delay.natBelow? 256 = some k) (hsound : sound ≠ .null)
    (hrefused : sound.natBelow? 256 = none) :
    s.pokeTimers delay sound = .error (.rejectedWrite "sound timer" sound) := by
  have hlast (t : State) : t.pokeSound sound = .error (.rejectedWrite "sound timer" sound) := by
    have hchecked : checked "sound timer" 256 sound = .error (.rejectedWrite "sound timer" sound) := by
      rw [checked, hrefused]
    unfold State.pokeSound
    split
    · exact absurd rfl hsound
    · rw [hchecked]
      rfl
  have hfirst : ∃ t, s.pokeDelay delay = .ok t := by
    rcases hdelay with rfl | ⟨k, hk⟩
    · exact ⟨s, rfl⟩
    · unfold State.pokeDelay
      split
      · exact ⟨s, rfl⟩
      · rw [checked_eq_ok_iff.mpr hk]
        exact ⟨_, rfl⟩
  obtain ⟨t, ht⟩ := hfirst
  rw [State.pokeTimers, ht]
  exact hlast t

/-! ### Loads -/

/-- An image is loaded although its load fails with `error`: its bytes fit, but it has no length
    that could be told afterwards. -/
def Unsized (rom : Rom) (bytes : List UInt8) (error : Error) : Prop :=
  rom.Fits bytes ∧ rom.size = .error error

/-- A load that fails has loaded an image without a length, or it has refused the image and left the
    machine as it was. -/
theorem load_of_error {rom : Rom} (h : (m.loadFor rom).result = .error error) :
    (∃ bytes, Unsized rom bytes error ∧ (m.loadFor rom).machine = (m.load bytes).machine) ∨
      ((∀ bytes, ¬ rom.Fits bytes) ∧ rom.Refused error ∧ (m.loadFor rom).machine = m) := by
  rcases rom.fits_or_refused with ⟨bytes, hfits⟩ | ⟨refusal, hrefused⟩
  · left
    have hload := m.loadFor_of_fits hfits
    have hsize : rom.size = .error error := by
      rw [hload] at h
      cases hsize : rom.size with
      | ok size =>
        rw [hsize] at h
        exact nomatch h
      | error other =>
        rw [hsize] at h
        exact congrArg Except.error (Except.error.inj h)
    refine ⟨bytes, ⟨hfits, hsize⟩, ?_⟩
    rw [hload, (m.load_of_le hfits.2).2]
  · right
    have hload := m.loadFor_of_refused hrefused
    rw [hload] at h ⊢
    cases h
    exact ⟨fun bytes hfits => hrefused.not_fits hfits, hrefused, rfl⟩

/-- Bytes that are not loaded are too many, and the machine is as it was. -/
theorem load_bytes_of_error {bytes : List UInt8} (h : (m.load bytes).result = .error error) :
    romLimit < bytes.length ∧ error = .fault (.romTooLarge bytes.length romLimit) ∧
      (m.load bytes).machine = m := by
  rcases Nat.lt_or_ge romLimit bytes.length with hlarge | hle
  · obtain ⟨hresult, hmachine⟩ := m.load_of_lt hlarge
    rw [hresult] at h
    exact ⟨hlarge, (Except.error.inj h).symm, hmachine⟩
  · rw [(m.load_of_le hle).1] at h
    exact nomatch h

/-! ### Frames -/

/-- `after` is what a frame of `count` instructions leaves when it is broken off by `fault`.  Fewer
    instructions completed, one after the other, and the next one fails with the fault.  The state
    is that after the completed ones, with the fault on record and both timers ticked once. -/
def BrokenOff (m : Machine) (count : Int) (fault : Fault) (after : Machine) : Prop :=
  ∃ (instructions : List Instruction) (u : State) (source : ByteSource) (trap : Trap),
    m.state.Steps m.source instructions u source ∧ instructions.length < count ∧
      (∀ other, u.step other = (.error fault, other)) ∧
      fault = trap.fault u.pc.toNat u.word u.stack.depth ∧
      after.state = ({ u with fault := trap.record u.pc u.word } : State).tick ∧
      after.key = m.key ∧ after.loaded = m.loaded

/-- A frame that fails was broken off by a fault, or it was refused and left the machine as it
    was. -/
theorem frame_of_error {count : Int} (h : (m.frame count).result = .error error) :
    (∃ fault, error = .fault fault ∧ m.BrokenOff count fault (m.frame count).machine) ∨
      ((∀ fault, error ≠ .fault fault) ∧ (m.frame count).machine = m) := by
  by_cases hfault : ∃ fault, error = .fault fault
  · obtain ⟨fault, rfl⟩ := hfault
    obtain ⟨-, instructions, u, source, trap, source', hrun, hlt, htrap, heq, hmachine⟩ :=
      frame_eq_fault h
    have hfails := State.step_of_trap htrap
    rw [← heq] at hfails
    rw [hmachine]
    exact .inl ⟨fault, rfl, instructions, u, source, trap, hrun, by omega, hfails, heq, rfl, rfl, rfl⟩
  · have hne : ∀ fault, error ≠ .fault fault := not_exists.mp hfault
    exact .inr ⟨hne, machine_frame h hne⟩

/-- A frame that a machine with a program may run answers, or it fails with a fault. -/
theorem frame_ne_outOfRange {count : Int} (h₀ : 0 ≤ count) (hloaded : m.loaded = true)
    (h₁ : count < budgetLimit) : (m.frame count).result ≠ .error .outOfRange := by
  obtain ⟨-, u, -, -, -, ⟨-, hstate, -⟩ | ⟨trap, -, -, hstate⟩⟩ :=
    m.state.runBatch_cases count.toNat m.source
  · rw [frame_of_clear h₀ hloaded h₁ hstate]
    exact nofun
  · rw [frame_of_record h₀ hloaded h₁ hstate]
    exact nofun

/-- A frame is refused as out of range exactly when there is a program and the count is too
    large. -/
theorem frame_eq_outOfRange_iff {count : Int} :
    (m.frame count).result = .error .outOfRange ↔ m.loaded = true ∧ 0x80000000 ≤ count := by
  constructor
  · intro h
    by_cases haccepted : 0 ≤ count ∧ m.loaded = true ∧ count < budgetLimit
    · obtain ⟨h₀, hloaded, h₁⟩ := haccepted
      exact absurd h (frame_ne_outOfRange h₀ hloaded h₁)
    · -- The three reasons to refuse a frame are looked at one after the other.
      unfold frame at h
      split at h
      · cases h
      split at h
      · cases h
      · next hnonneg hready =>
        have hloaded : m.loaded = true := by simpa using hready
        have hlimit : ¬ count < 0x80000000 :=
          fun hlt => haccepted ⟨Int.not_lt.mp hnonneg, hloaded, hlt⟩
        exact ⟨hloaded, Int.not_lt.mp hlimit⟩
  · rintro ⟨hloaded, hlimit⟩
    have hrefused : ¬ (0 ≤ count ∧ count < budgetLimit) := by simp only [budgetLimit]; omega
    rw [frame_of_loaded hloaded hrefused, if_neg (by omega)]
    rfl

/-! ### All operations -/

/-- Every operation but a load and a frame leaves the machine as it was when it fails. -/
theorem machine_perform {command : Command} (h : (m.perform command).result = .error error)
    (hload : ∀ rom, command ≠ .load rom) (hframe : ∀ count, command ≠ .frame count) :
    (m.perform command).machine = m := by
  cases command with
  | load rom => exact absurd rfl (hload rom)
  | setKey index down => exact machine_setKey h
  | step => exact machine_step h
  | frame count => exact absurd rfl (hframe count)
  | pokeMemory address value => exact machine_poke h
  | pokeRegister register value => exact machine_poke h
  | pokeIndex value => exact machine_poke h
  | pokePc value => exact machine_poke h
  | pokeTimers delay sound => exact machine_poke h

/-- An operation that fails is a frame that a fault has broken off, or a load of an image without a
    length, or it leaves the machine as it was. -/
theorem perform_of_error {command : Command} (h : (m.perform command).result = .error error) :
    (∃ count fault, command = .frame count ∧ error = .fault fault ∧
        m.BrokenOff count fault (m.perform command).machine) ∨
      (∃ rom bytes, command = .load rom ∧ Unsized rom bytes error ∧
        (m.perform command).machine = (m.load bytes).machine) ∨
      ((∀ count fault, command = .frame count → error ≠ .fault fault) ∧
        (∀ rom bytes, command = .load rom → ¬ rom.Fits bytes) ∧
        (m.perform command).machine = m) := by
  by_cases hload : ∃ rom, command = .load rom
  · obtain ⟨rom, rfl⟩ := hload
    rcases load_of_error h with ⟨bytes, hunsized, hloaded⟩ | ⟨hrefused, -, hsame⟩
    · exact .inr (.inl ⟨rom, bytes, rfl, hunsized, hloaded⟩)
    · have hnoFrame (count : Int) : Command.load rom ≠ .frame count := by intro heq; cases heq
      have hnoFit (other : Rom) (bytes : List UInt8) (heq : Command.load rom = .load other) :
          ¬ other.Fits bytes := by
        cases heq
        exact hrefused bytes
      exact .inr (.inr ⟨fun count _ heq => absurd heq (hnoFrame count), hnoFit, hsame⟩)
  by_cases hframe : ∃ count, command = .frame count
  · obtain ⟨count, rfl⟩ := hframe
    rcases frame_of_error h with ⟨fault, herror, hbroken⟩ | ⟨hrefused, hsame⟩
    · exact .inl ⟨count, fault, rfl, herror, hbroken⟩
    · have hnoLoad (rom : Rom) : Command.frame count ≠ .load rom := by intro heq; cases heq
      exact .inr (.inr ⟨fun _ fault _ => hrefused fault, fun rom _ heq => absurd heq (hnoLoad rom),
        hsame⟩)
  · have hnoLoad : ∀ rom, command ≠ .load rom := not_exists.mp hload
    have hnoFrame : ∀ count, command ≠ .frame count := not_exists.mp hframe
    exact .inr (.inr ⟨fun count _ heq => absurd heq (hnoFrame count),
      fun rom _ heq => absurd heq (hnoLoad rom), machine_perform h hnoLoad hnoFrame⟩)

/-- **Failing operations are atomic.**  An operation that fails leaves the whole machine as it was:
    its state with the earlier fault record, what is loaded, and the random bytes to come.  There
    are two exceptions.  A frame that fails with a fault keeps exactly what completed before, also
    one that a host asks for by values of any kind.  An image that gives bytes and has no length is
    loaded when its load fails; bytes themselves always have one.  A frame is refused for a large
    count exactly beyond 32 bits, and a write to the timers whose sound is refused leaves the delay
    alone as well. -/
theorem failure_atomic (m : Machine) :
    (∀ command error, (m.perform command).result = .error error →
      (∃ count fault, command = .frame count ∧ error = .fault fault ∧
          m.BrokenOff count fault (m.perform command).machine) ∨
        (∃ rom bytes, command = .load rom ∧ Unsized rom bytes error ∧
          (m.perform command).machine = (m.load bytes).machine) ∨
        ((∀ count fault, command = .frame count → error ≠ .fault fault) ∧
          (∀ rom bytes, command = .load rom → ¬ rom.Fits bytes) ∧
          (m.perform command).machine = m)) ∧
    (∀ (bytes : List UInt8) error, (m.perform (.load bytes)).result = .error error →
      error = .fault (.romTooLarge bytes.length romLimit) ∧
        (m.perform (.load bytes)).machine = m) ∧
    (∀ description count error, (m.frameFor description count).result = .error error →
      (∃ n fault, error = .fault fault ∧
          m.BrokenOff n fault (m.frameFor description count).machine) ∨
        ((∀ fault, error ≠ .fault fault) ∧ (m.frameFor description count).machine = m)) ∧
    (∀ count, (m.perform (.frame count)).result = .error .outOfRange ↔
      m.loaded = true ∧ 0x80000000 ≤ count) ∧
    (∀ delay sound : Value, (delay = .null ∨ ∃ k, delay.natBelow? 256 = some k) → sound ≠ .null →
      sound.natBelow? 256 = none →
        (m.perform (.pokeTimers delay sound)).result
            = .error (.fault (.rejectedWrite "sound timer" sound)) ∧
          (m.perform (.pokeTimers delay sound)).machine = m) := by
  refine ⟨fun command error h => perform_of_error h, fun bytes error h => (load_bytes_of_error h).2,
    fun description count error h => ?frames, fun count => frame_eq_outOfRange_iff, ?timers⟩
  case frames =>
    rcases frameFor_cases m description count with ⟨refusal, hrefusal, hframe⟩ | ⟨n, hframe⟩
    · rw [hframe] at h ⊢
      rw [← Except.error.inj h]
      exact .inr ⟨hrefusal, rfl⟩
    · rw [hframe] at h ⊢
      rcases frame_of_error h with ⟨fault, herror, hbroken⟩ | hrefused
      · exact .inl ⟨n, fault, herror, hbroken⟩
      · exact .inr hrefused
  case timers =>
    intro delay sound hdelay hsound hrefused
    have hpoke := pokeTimers_of_sound m.state hdelay hsound hrefused
    simp only [perform, poke, hpoke]
    exact ⟨rfl, rfl⟩

/-- A frame that completes the addition in the last word of memory and then fetches from outside,
    and a write to the timers of a sound that is no byte. -/
theorem failure_atomic_last_word :
    let s : State :=
      { State.initial {} default with
        memory := ⟨Vector.replicate 4096 0x70⟩
        pc := 0xFFE
        delay := 3 }
    let m : Machine := ⟨s, .key, default, true⟩
    let fault : Fault := .memoryOutOfBounds 0x1000 2 (some 0x1000)
    (m.perform (.frame 2)).result = .error (.fault fault) ∧
      m.BrokenOff 2 fault (m.perform (.frame 2)).machine ∧
      (m.perform (.frame 2)).machine.state.delay = 2 ∧
      (m.perform (.pokeTimers (.int 7) (.int 256))).machine = m := by
  intro s m fault
  let t : State := { s.setReg 0 0x70 with pc := 0x1000 }
  have hword : s.word = 0x7070 := by
    rw [State.word_eq_clampedWord]
    simp only [State.clampedWord, s, Vector.getElem_replicate]
    rfl
  have hstep : s.step .key = (.ok (s.instruction .addByte, t), .key) :=
    State.step_of_run (by decide) (by rw [hword]; decide) (by rw [hword]; rfl)
  have htrap : t.trap? = some (.outOfBounds 0x1000 2) := if_pos (by decide)
  have hbatch : (s.runBatch 2 .key).state =
      { t with fault := (Trap.outOfBounds 0x1000 2).record t.pc t.word } := by
    rw [State.runBatch_of_step hstep, if_neg (by decide), State.runBatch_of_trap htrap]
  have hframe : m.frame 2 = _ := frame_of_record (by decide) rfl (by decide) hbatch
  have hresult : (m.perform (.frame 2)).result = .error (.fault fault) := by
    rw [perform, hframe]
    rfl
  have hdelay : (m.perform (.frame 2)).machine.state.delay = 2 := by
    rw [perform, hframe]
    show t.tick.delay = 2
    decide
  obtain ⟨hperform, -, -, -, hpoke⟩ := failure_atomic m
  refine ⟨hresult, ?_, hdelay, ?_⟩
  · rcases hperform _ _ hresult with
      ⟨count, fault', hcount, hfault, hbroken⟩ | ⟨rom, bytes, hload, -⟩ | ⟨hne, -⟩
    · cases hcount
      cases hfault
      exact hbroken
    · cases hload
    · exact absurd rfl (hne 2 fault rfl)
  · have hsound : Value.int 256 ≠ .null := by simp
    exact (hpoke (.int 7) (.int 256) (.inr ⟨7, rfl⟩) hsound rfl).2

/-- A float is made a number of 32 bits that is not too large for a frame. -/
theorem saturated32_lt (x : Float) : saturated32 x < 0x80000000 := by
  unfold saturated32 saturated
  split <;> omega

/-- A count that is a float is not refused as out of range, and no more instructions are run than 32
    bits can count. -/
theorem frameFor_float_ne_outOfRange (m : Machine) (x : Float) :
    (m.frameFor (.record []) (.float x)).result ≠ .error .outOfRange := by
  have hready : runnable (.record []) = .ok () := rfl
  unfold frameFor
  split
  · next hnegative => exact nomatch hnegative
  · exact nofun
  · split
    · exact nofun
    · simp only [Value.budget, hready, bind, Except.bind, pure, Except.pure]
      intro hrefused
      have hlimit := (frame_eq_outOfRange_iff.mp hrefused).2
      have hbound := saturated32_lt (single x).ceil
      omega

/-- **Two failures that are not as one might expect.**  The number five, taken for an image by a
    machine that runs a program, gives five zeros but has no length: the load fails, and the program
    is gone.  A frame whose count is a float is never refused as too large. -/
theorem failing_load_replaces_state :
    let started : Machine := ⟨.initial {} (.ofSeed 0), .key, .ofSeed 0, false⟩
    let m := started.after [.load ([0x12, 0x00] : List UInt8), .pokeTimers (.int 3) .null]
    let reply := m.perform (.load (.ofValue 4096 (.int 5)))
    create {} 0 .key = .ok started ∧ m.loaded = true ∧ m.state.delay = 3 ∧
      reply.result = .error .wrongKind ∧ reply.machine.state.delay = 0 ∧ reply.machine ≠ m ∧
      ∀ x : Float, (m.frameFor (.record []) (.float x)).result ≠ .error .outOfRange := by
  intro started m reply
  have hrunning : m.loaded = true ∧ m.state.delay = 3 := by decide +kernel
  have hfits : (Rom.ofValue 4096 (.int 5)).Fits (List.replicate 5 0) := ⟨rfl, by decide⟩
  have hreply : reply = _ := m.loadFor_of_fits hfits
  have hdelay : reply.machine.state.delay = 0 := by rw [hreply]; rfl
  refine ⟨rfl, hrunning.1, hrunning.2, by rw [hreply]; rfl, hdelay, ?_, m.frameFor_float_ne_outOfRange⟩
  intro hsame
  rw [hsame, hrunning.2] at hdelay
  exact absurd hdelay (by decide)

end Machine

end Chip8
