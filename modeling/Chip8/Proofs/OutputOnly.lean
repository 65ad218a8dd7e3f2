import Chip8.Proofs.FrameCuts
import Chip8.Proofs.Writes

namespace Chip8

/-!
# What is output only

The sound timer and the fault record are there for the host to look at.  Machines that differ in
nothing else answer every call in the same way, until a program is loaded.

* `Output`, `Machine.withOutput` — the parts that no call reads, and a machine with others;
* `step_withOutput`, `runBatch_withOutput` — steps and batches do not look at the sound timer, and
  set it only by an instruction that says so;
* `HostCall`, `Machine.answer`, `Machine.answers`, `Machine.afterCalls` — what a host calls, one
  call and several;
* `Machine.SetsSound`, `Machine.RenewsFault` — the calls after which the sound timer or the fault
  record does not depend on what it was;
* `answer_withOutput` — one call;
* `Machine.Twins`, `Twins.same_answers` — all calls.
-/

/-! ### States with another sound timer and another fault record -/

namespace State

variable {s t : State} {i : Instruction} {source source' : ByteSource}

/-- The state with another sound timer and another fault record. -/
def withOutput (s : State) (sound : UInt8) (fault : FaultRecord) : State := { s with sound, fault }

/-- A step completes as well with another sound timer and another fault record.  The record is clear
    afterwards, and the sound timer is the same if it was, or if the instruction sets it. -/
theorem step_withOutput (h : s.step source = (.ok (i, t), source')) (sound : UInt8)
    (fault : FaultRecord) :
    ∃ sound', (s.withOutput sound fault).step source =
        (.ok (i, t.withOutput sound' .clear), source') ∧
      (sound = s.sound ∨ i.op = .setSound → sound' = t.sound) := by
  let x : Margin := { s.margin with sound, fault }
  let y : Margin := Margin.after { x with fault := .clear } i.op s.word s
  have hstep : (s.withOutput sound fault).step source = (.ok (i, t.withMargin y), source') :=
    step_withMargin (x := x) h fun _ => rfl
  have hmargin := margin_step h
  have hdelay : y.delay = t.delay := (congrArg Margin.delay hmargin).symm
  have hswitch : y.drawEndsBatch = t.dialect.drawEndsBatch :=
    (congrArg Margin.drawEndsBatch hmargin).symm
  have hstate : t.withMargin y = t.withOutput y.sound .clear := by
    simp only [withMargin, withOutput, hdelay, hswitch]
    rfl
  rw [hstate] at hstep
  refine ⟨y.sound, hstep, fun hsame => ?_⟩
  have hsound : t.sound = if i.op = .setSound then s.reg (Word.x s.word) else s.sound :=
    congrArg Margin.sound hmargin
  show (if i.op = .setSound then s.reg (Word.x s.word) else sound) = t.sound
  rw [hsound]
  split
  · rfl
  · next hop => exact hsame.resolve_right hop

/-- Whether an instruction traps depends on neither. -/
theorem trap?_withOutput (s : State) (sound : UInt8) (fault : FaultRecord) :
    (s.withOutput sound fault).trap? = s.trap? := rfl

/-- Where nothing completes, nothing sets the sound timer. -/
theorem nothing_sets_sound : ¬ ∃ c ∈ ([] : List Completion), c.op = .setSound := by
  rintro ⟨c, hc, -⟩
  cases hc

/-- A batch does the same with another sound timer and another fault record.  The sound timer is the
    same afterwards if it was, or if an instruction that completed has set it. -/
theorem runBatch_withOutput (n : Nat) (s : State) (source : ByteSource) (sound : UInt8)
    (fault : FaultRecord) :
    ∃ sound', (s.withOutput sound fault).runBatch n source =
        { s.runBatch n source with
          state := { (s.runBatch n source).state with sound := sound' } } ∧
      (sound = s.sound ∨ (∃ c ∈ s.completions n source, c.op = .setSound) →
        sound' = (s.runBatch n source).state.sound) := by
  -- The budget goes down with every instruction, which may set the timer for those that follow.
  induction n generalizing s source sound fault with
  | zero => exact ⟨sound, rfl, fun hsets => hsets.resolve_right nothing_sets_sound⟩
  | succ n ih =>
    cases htrap : s.trap? with
    | some trap =>
      have hother := runBatch_of_trap ((trap?_withOutput s sound fault).trans htrap) n source
      have hsource : (cycle { s.withOutput sound fault with fault := .clear } source).2 =
          (cycle { s with fault := .clear } source).2 := by
        rw [source_cycle, source_cycle]
        rfl
      rw [hsource] at hother
      rw [runBatch_of_trap htrap, completions_of_trap htrap]
      exact ⟨sound, hother, fun hsets => hsets.resolve_right nothing_sets_sound⟩
    | none =>
      obtain ⟨i, t, source', hstep⟩ := step_of_trap_none htrap source
      obtain ⟨sound₁, hother, hsound₁⟩ := step_withOutput hstep sound fault
      have hdialect : (s.withOutput sound fault).dialect = s.dialect := rfl
      rw [runBatch_of_step hstep, runBatch_of_step hother, completions_of_step hstep, hdialect]
      split
      · refine ⟨sound₁, ?_, ?_⟩
        · rw [withOutput, ← fault_step hstep]
        · rintro (hsame | ⟨c, hc, hop⟩)
          · exact hsound₁ (.inl hsame)
          · rw [List.mem_singleton] at hc
            subst hc
            exact hsound₁ (.inr hop)
      · obtain ⟨sound', hbatch, hsound'⟩ := ih t source' sound₁ .clear
        rw [hbatch]
        refine ⟨sound', rfl, ?_⟩
        rintro (hsame | ⟨c, hc, hop⟩)
        · exact hsound' (.inl (hsound₁ (.inl hsame)))
        · rcases List.mem_cons.mp hc with rfl | hlater
          · exact hsound' (.inl (hsound₁ (.inr hop)))
          · exact hsound' (.inr ⟨c, hlater, hop⟩)

/-! ### Writes -/

/-- What is done with a checked value carries over to what becomes of it. -/
theorem checked_bind_map {field : String} {limit : Nat} {value : Value} {f : State → State}
    {next other : Fin limit → Except Fault State} (h : ∀ k, other k = (next k).map f) :
    (checked field limit value >>= other) = (checked field limit value >>= next).map f := by
  cases checked field limit value with
  | error fault => rfl
  | ok k => exact h k

section

variable (s : State) (sound : UInt8) (fault : FaultRecord)

theorem pokeMemory_withOutput (address value : Value) :
    (s.withOutput sound fault).pokeMemory address value =
      (s.pokeMemory address value).map (·.withOutput sound fault) :=
  checked_bind_map fun _ => checked_bind_map fun _ => rfl

theorem pokeRegister_withOutput (register value : Value) :
    (s.withOutput sound fault).pokeRegister register value =
      (s.pokeRegister register value).map (·.withOutput sound fault) :=
  checked_bind_map fun _ => checked_bind_map fun _ => rfl

theorem pokeIndex_withOutput (value : Value) :
    (s.withOutput sound fault).pokeIndex value =
      (s.pokeIndex value).map (·.withOutput sound fault) :=
  checked_bind_map fun _ => rfl

theorem pokePc_withOutput (value : Value) :
    (s.withOutput sound fault).pokePc value = (s.pokePc value).map (·.withOutput sound fault) :=
  checked_bind_map fun _ => rfl

theorem pokeDelay_withOutput (value : Value) :
    (s.withOutput sound fault).pokeDelay value =
      (s.pokeDelay value).map (·.withOutput sound fault) := by
  cases value
  case null => rfl
  all_goals exact checked_bind_map fun _ => rfl

/-- A write to the sound timer leaves it alone, or does not look at what it was. -/
theorem pokeSound_withOutput (value : Value) :
    value = .null ∧ s.pokeSound value = .ok s ∧
        (s.withOutput sound fault).pokeSound value = .ok (s.withOutput sound fault) ∨
      (s.withOutput sound fault).pokeSound value =
        (s.pokeSound value).map fun t => t.withOutput t.sound fault := by
  cases value
  case null => exact .inl ⟨rfl, rfl, rfl⟩
  all_goals exact .inr (checked_bind_map fun _ => rfl)

/-- A write to the timers does the same to the rest of the state.  The sound timer is the same
    afterwards if it was, or if the write does not leave it alone. -/
theorem pokeTimers_withOutput (delay value : Value) :
    ∃ sound', (s.withOutput sound fault).pokeTimers delay value =
        (s.pokeTimers delay value).map (·.withOutput sound' fault) ∧
      ∀ t, s.pokeTimers delay value = .ok t → sound = s.sound ∨ value ≠ .null → sound' = t.sound := by
  unfold pokeTimers
  rw [pokeDelay_withOutput]
  cases hdelay : s.pokeDelay delay with
  | error refusal => exact ⟨sound, rfl, nofun⟩
  | ok u =>
    obtain ⟨d, rfl⟩ := pokeDelay_eq_ok hdelay
    show ∃ sound', (withOutput { s with delay := d } sound fault).pokeSound value =
        (pokeSound { s with delay := d } value).map (·.withOutput sound' fault) ∧
      ∀ t, pokeSound { s with delay := d } value = .ok t → _
    rcases pokeSound_withOutput { s with delay := d } sound fault value with
      ⟨hnull, hsame, hother⟩ | hother
    · refine ⟨sound, ?_, fun t ht h => ?_⟩
      · rw [hother, hsame]
        rfl
      · rw [hsame] at ht
        cases ht
        exact h.resolve_right fun hne => hne hnull
    · rw [hother]
      cases hlast : pokeSound { s with delay := d } value with
      | error refusal => exact ⟨sound, rfl, nofun⟩
      | ok t =>
        refine ⟨t.sound, rfl, fun t' ht _ => ?_⟩
        cases ht
        rfl

end

end State

/-! ### Calls of a host -/

/-- What a host calls on a machine: an operation, or a frame that it asks for by values of any kind,
    the first of which describes the dialect. -/
inductive HostCall
  | operate (command : Command)
  | frameFor (description count : Value)

/-- Whether the call loads a program. -/
def HostCall.loads : HostCall → Bool
  | .operate (.load _) => true
  | _ => false

namespace Machine

/-- A call answered. -/
def answer (m : Machine) : HostCall → Reply
  | .operate command => m.perform command
  | .frameFor description count => m.frameFor description count

/-- Several calls answered, each by the machine that the one before left. -/
def answers (m : Machine) : List HostCall → List Reply
  | [] => []
  | call :: rest =>
    let reply := m.answer call
    reply :: reply.machine.answers rest

/-- The machine after several calls. -/
def afterCalls (m : Machine) (calls : List HostCall) : Machine :=
  calls.foldl (fun machine call => (machine.answer call).machine) m

/-- What a call completes. -/
def completedBy (m : Machine) : HostCall → List Completion
  | .operate command => m.completed command
  | .frameFor description count =>
    match frameBudget description count with
    | .ok n => m.completed (.frame n)
    | .error _ => []

/-- The call sets the sound timer: it is a write to the timers that does not leave this one alone,
    or an instruction that it completes does. -/
def SetsSound (m : Machine) : HostCall → Prop
  | .operate (.pokeTimers delay sound) =>
    sound ≠ .null ∧ (m.perform (.pokeTimers delay sound)).result = .ok .done
  | call => ∃ c ∈ m.completedBy call, c.op = .setSound

/-- The call leaves a fault record of its own: it is a step that completes, or a frame that is not
    refused.  A whole number is refused as a count if it is negative or too large, a value of
    another kind also for its kind, but never by a fault of the interpreter. -/
def RenewsFault (m : Machine) : HostCall → Prop
  | .operate .step => ∃ op, m.step.result = .ok (.completed op)
  | .operate (.frame n) =>
    (m.frame n).result ≠ .error (.negativeBudget (.int n)) ∧ (m.frame n).result ≠ .error .outOfRange
  | .frameFor description count =>
    ∀ error, (m.frameFor description count).result = .error error → ∃ fault, error = .fault fault
  | _ => False

end Machine

/-! ### Machines with another output -/

/-- The parts of a machine that no call reads: the sound timer and the fault record, and the key for
    the programs that are loaded later. -/
structure Output where
  sound : UInt8
  fault : FaultRecord
  key : RandomKey

namespace Machine

/-- The machine with these parts. -/
def withOutput (m : Machine) (o : Output) : Machine :=
  { m with state := m.state.withOutput o.sound o.fault, key := o.key }

/-- The second reply is the first one, given by a machine with another output.  The sound timer is
    the same under one condition and the fault record under another. -/
def Echoes (r r' : Reply) (sound fault : Prop) : Prop :=
  ∃ o : Output, r' = { r with machine := r.machine.withOutput o } ∧ r.machine.loaded = true ∧
    (sound → o.sound = r.machine.state.sound) ∧ (fault → o.fault = r.machine.state.fault)

/-- Conditions that are weaker at most by something impossible. -/
theorem Echoes.or {r r' : Reply} {sound fault sound' fault' : Prop} (h : Echoes r r' sound fault)
    (hsound : ¬ sound') (hfault : ¬ fault') : Echoes r r' (sound ∨ sound') (fault ∨ fault') := by
  obtain ⟨o, hreply, hloaded, hsame, hsame'⟩ := h
  exact ⟨o, hreply, hloaded, fun h => hsame (h.resolve_right hsound),
    fun h => hsame' (h.resolve_right hfault)⟩

variable {m : Machine} (hloaded : m.loaded = true) (o : Output)
include hloaded

/-- A refusal is the same, and nothing happens. -/
theorem refuse_echoes (error : Error) :
    Echoes (m.refuse error) ((m.withOutput o).refuse error) (o.sound = m.state.sound)
      (o.fault = m.state.fault) :=
  ⟨o, rfl, hloaded, id, id⟩

theorem setKey_echoes (index down : Value) :
    Echoes (m.setKey index down) ((m.withOutput o).setKey index down) (o.sound = m.state.sound)
      (o.fault = m.state.fault) := by
  unfold setKey
  cases index.natBelow? 16 with
  | none => exact refuse_echoes hloaded o _
  | some k => exact ⟨o, rfl, hloaded, id, id⟩

/-- A write that does the same to the rest of the state. -/
theorem poke_echoes (write : State → Except Fault State) {sound : UInt8} {writes : Prop}
    (hwrite : write (m.state.withOutput o.sound o.fault) =
      (write m.state).map (·.withOutput sound o.fault))
    (hok : ∀ t, write m.state = .ok t →
      t.fault = m.state.fault ∧ (o.sound = m.state.sound ∨ writes → sound = t.sound)) :
    Echoes (m.poke write) ((m.withOutput o).poke write)
      (o.sound = m.state.sound ∨ writes ∧ (m.poke write).result = .ok .done)
      (o.fault = m.state.fault) := by
  have hother : write (m.withOutput o).state = (write m.state).map (·.withOutput sound o.fault) := hwrite
  rw [poke, poke, hother]
  cases hm : write m.state with
  | error fault =>
    refine ⟨o, rfl, hloaded, ?_, id⟩
    rintro (hsame | ⟨-, hdone⟩)
    · exact hsame
    · cases hdone
  | ok t =>
    obtain ⟨hfault, hsound⟩ := hok t hm
    refine ⟨{ o with sound }, rfl, hloaded, ?_, fun hsame => hsame.trans hfault.symm⟩
    rintro (hsame | ⟨hwrites, -⟩)
    · exact hsound (.inl hsame)
    · exact hsound (.inr hwrites)

/-- A write that touches neither the sound timer nor the fault record. -/
theorem poke_echoes_of_keeps (write : State → Except Fault State)
    (hwrite : write (m.state.withOutput o.sound o.fault) =
      (write m.state).map (·.withOutput o.sound o.fault))
    (hkeeps : ∀ t, write m.state = .ok t → t.fault = m.state.fault ∧ t.sound = m.state.sound) :
    Echoes (m.poke write) ((m.withOutput o).poke write) (o.sound = m.state.sound)
      (o.fault = m.state.fault) := by
  have hok (t : State) (ht : write m.state = .ok t) :
      t.fault = m.state.fault ∧ (o.sound = m.state.sound ∨ False → o.sound = t.sound) :=
    ⟨(hkeeps t ht).1, fun hsame => (hsame.resolve_right id).trans (hkeeps t ht).2.symm⟩
  obtain ⟨o', hreply, hafter, hsound, hfault⟩ := poke_echoes hloaded o write hwrite hok
  exact ⟨o', hreply, hafter, fun hsame => hsound (.inl hsame), hfault⟩

theorem step_echoes :
    Echoes m.step (m.withOutput o).step
      (o.sound = m.state.sound ∨ ∃ c ∈ m.completed .step, c.op = .setSound)
      (o.fault = m.state.fault ∨ ∃ op, m.step.result = .ok (.completed op)) := by
  have hloaded' : (m.withOutput o).loaded = true := hloaded
  rw [step, step, if_pos hloaded, if_pos hloaded', completed, if_pos hloaded]
  have hstate : (m.withOutput o).state = m.state.withOutput o.sound o.fault := rfl
  have hsource : (m.withOutput o).source = m.source := rfl
  rw [hstate, hsource]
  cases htrap : m.state.trap? with
  | some trap =>
    rw [State.step_of_trap htrap, State.step_of_trap
      ((State.trap?_withOutput m.state o.sound o.fault).trans htrap), State.trace_of_trap htrap]
    refine ⟨o, rfl, hloaded, fun hsets => hsets.resolve_right State.nothing_sets_sound, ?_⟩
    rintro (hsame | ⟨op, hop⟩)
    · exact hsame
    · cases hop
  | none =>
    obtain ⟨i, t, source, hstep⟩ := State.step_of_trap_none htrap m.source
    obtain ⟨sound, hother, hsound⟩ := State.step_withOutput hstep o.sound o.fault
    rw [hstep, hother, State.trace_of_step hstep, State.trace_zero]
    refine ⟨⟨sound, .clear, o.key⟩, rfl, hloaded, ?_, fun _ => (State.fault_step hstep).symm⟩
    rintro (hsame | ⟨c, hc, hop⟩)
    · exact hsound (.inl hsame)
    · rw [List.mem_singleton] at hc
      subst hc
      exact hsound (.inr hop)

theorem frame_echoes (count : Int) :
    Echoes (m.frame count) ((m.withOutput o).frame count)
      (o.sound = m.state.sound ∨ ∃ c ∈ m.completed (.frame count), c.op = .setSound)
      (o.fault = m.state.fault ∨ 0 ≤ count ∧ count < budgetLimit) := by
  have hloaded' : (m.withOutput o).loaded = true := hloaded
  rw [completed]
  by_cases hcount : 0 ≤ count ∧ count < budgetLimit
  · obtain ⟨h₀, h₁⟩ := hcount
    rw [frame_of_accepted h₀ hloaded h₁, frame_of_accepted h₀ hloaded' h₁, if_pos ⟨h₀, hloaded, h₁⟩]
    obtain ⟨sound, hbatch, hsound⟩ :=
      State.runBatch_withOutput count.toNat m.state m.source o.sound o.fault
    have hother : (m.withOutput o).state.runBatch count.toNat (m.withOutput o).source = _ := hbatch
    simp only [State.runFrame, hother, State.tick]
    -- Whether the frame has faulted is read from parts in which the two batches agree.
    generalize m.state.runBatch count.toNat m.source = batch at hsound ⊢
    let o' : Output := ⟨({ batch.state with sound := sound } : State).tick.sound, batch.state.fault, o.key⟩
    have hticked := fun hsame =>
      congrArg (fun sound => ({ batch.state with sound := sound } : State).tick.sound) (hsound hsame)
    rcases batch.state.fault.fault? batch.state.stack.depth with error | none | fault
    all_goals exact ⟨o', rfl, hloaded, hticked, fun _ => rfl⟩
  · have hcompleted : ¬ (0 ≤ count ∧ m.loaded = true ∧ count < budgetLimit) :=
      fun haccepted => hcount ⟨haccepted.1, haccepted.2.2⟩
    rw [frame_of_loaded hloaded hcount, frame_of_loaded hloaded' hcount, if_neg hcompleted]
    exact ⟨o, rfl, hloaded, fun hsets => hsets.resolve_right State.nothing_sets_sound,
      fun hrenews => hrenews.resolve_right hcount⟩

theorem frameFor_echoes (description count : Value) :
    Echoes (m.frameFor description count) ((m.withOutput o).frameFor description count)
      (o.sound = m.state.sound ∨ ∃ c ∈ m.completedBy (.frameFor description count), c.op = .setSound)
      (o.fault = m.state.fault ∨ m.RenewsFault (.frameFor description count)) := by
  have hloaded' : (m.withOutput o).loaded = true := hloaded
  have hframe := frameFor_of_loaded hloaded description count
  simp only [RenewsFault, completedBy, hframe, frameFor_of_loaded hloaded' description count]
  cases hbudget : frameBudget description count with
  | error error =>
    refine ⟨o, rfl, hloaded, fun hsets => hsets.resolve_right State.nothing_sets_sound, ?_⟩
    rintro (hsame | hfaults)
    · exact hsame
    · obtain ⟨fault, rfl⟩ := hfaults error rfl
      exact absurd rfl (frameBudget_ne_fault hbudget fault)
  | ok n =>
    obtain ⟨o', hreply, hafter, hsound, hfault⟩ := frame_echoes hloaded o n
    refine ⟨o', hreply, hafter, hsound, ?_⟩
    rintro (hsame | hfaults)
    · exact hfault (.inl hsame)
    · refine hfault (.inr (Classical.byContradiction fun hcount => ?_))
      simp only [frame_of_loaded hloaded hcount] at hfaults
      obtain ⟨fault, hrefusal⟩ := hfaults _ rfl
      split at hrefusal <;> exact nomatch hrefusal

/-- Every call but one that loads a program is answered in the same way by a machine with another
    output.  The sound timer is the same afterwards if it was, or if the call sets it, and the fault
    record if it was, or if the call leaves one of its own. -/
theorem answer_echoes {call : HostCall} (hcall : call.loads = false) :
    Echoes (m.answer call) ((m.withOutput o).answer call)
      (o.sound = m.state.sound ∨ m.SetsSound call)
      (o.fault = m.state.fault ∨ m.RenewsFault call) := by
  -- Calls other than steps, frames and writes to the timers complete nothing and leave both parts alone.
  have hnone := State.nothing_sets_sound
  cases call with
  | frameFor description count => exact frameFor_echoes hloaded o description count
  | operate command =>
    cases command with
    | load rom => exact nomatch hcall
    | setKey index down => exact (setKey_echoes hloaded o index down).or hnone id
    | step => exact step_echoes hloaded o
    | frame count =>
      obtain ⟨o', hreply, hafter, hsound, hfault⟩ := frame_echoes hloaded o count
      refine ⟨o', hreply, hafter, hsound, ?_⟩
      rintro (hsame | ⟨hnonneg, hlimit⟩)
      · exact hfault (.inl hsame)
      · refine hfault (.inr (Classical.byContradiction fun hcount => ?_))
        rw [frame_of_loaded hloaded hcount] at hnonneg hlimit
        split at hnonneg
        · exact hnonneg rfl
        · next hle => exact hlimit (congrArg Except.error (if_neg hle))
    | pokeMemory address value =>
      refine (poke_echoes_of_keeps hloaded o (·.pokeMemory address value)
        (State.pokeMemory_withOutput ..) fun t ht => ?_).or hnone id
      obtain ⟨a, b, rfl⟩ := State.pokeMemory_eq_ok ht
      exact ⟨rfl, rfl⟩
    | pokeRegister register value =>
      refine (poke_echoes_of_keeps hloaded o (·.pokeRegister register value)
        (State.pokeRegister_withOutput ..) fun t ht => ?_).or hnone id
      obtain ⟨r, b, rfl⟩ := State.pokeRegister_eq_ok ht
      exact ⟨rfl, rfl⟩
    | pokeIndex value =>
      refine (poke_echoes_of_keeps hloaded o (·.pokeIndex value)
        (State.pokeIndex_withOutput ..) fun t ht => ?_).or hnone id
      obtain ⟨a, rfl⟩ := State.pokeIndex_eq_ok ht
      exact ⟨rfl, rfl⟩
    | pokePc value =>
      refine (poke_echoes_of_keeps hloaded o (·.pokePc value)
        (State.pokePc_withOutput ..) fun t ht => ?_).or hnone id
      obtain ⟨a, rfl⟩ := State.pokePc_eq_ok ht
      exact ⟨rfl, rfl⟩
    | pokeTimers delay sound =>
      obtain ⟨new, hwrite, hnew⟩ :=
        State.pokeTimers_withOutput m.state o.sound o.fault delay sound
      have hok (t : State) (ht : m.state.pokeTimers delay sound = .ok t) :
          t.fault = m.state.fault ∧ (o.sound = m.state.sound ∨ sound ≠ .null → new = t.sound) := by
        refine ⟨?_, hnew t ht⟩
        obtain ⟨a, b, rfl⟩ := State.pokeTimers_eq_ok ht
        rfl
      obtain ⟨o', hreply, hafter, hsound, hfault⟩ :=
        poke_echoes hloaded o (·.pokeTimers delay sound) hwrite hok
      exact ⟨o', hreply, hafter, hsound, fun hsame => hfault (hsame.resolve_right id)⟩

omit hloaded

/-! ### Two machines -/

/-- Two machines with a program that differ in nothing but the sound timer and the fault record, and
    the key for the programs that are loaded later. -/
structure Twins (m m' : Machine) : Prop where
  loaded : m.loaded = true
  loaded' : m'.loaded = true
  source : m'.source = m.source
  state : m'.state = { m.state with sound := m'.state.sound, fault := m'.state.fault }

variable {m' : Machine}

/-- A twin is the machine with the output of the twin. -/
theorem Twins.eq_withOutput (h : m.Twins m') :
    m' = m.withOutput ⟨m'.state.sound, m'.state.fault, m'.key⟩ := by
  obtain ⟨state, source, key, loaded⟩ := m'
  obtain ⟨hloaded, rfl, rfl, hstate⟩ := h
  simp only [withOutput, State.withOutput, ← hloaded, ← hstate]

/-- A call has the same result and logs the same for twins, and leaves twins. -/
theorem Twins.answer (h : m.Twins m') {call : HostCall} (hcall : call.loads = false) :
    (m'.answer call).result = (m.answer call).result ∧
      (m'.answer call).events = (m.answer call).events ∧
      (m.answer call).machine.Twins (m'.answer call).machine ∧
      (m'.state.sound = m.state.sound ∨ m.SetsSound call →
        (m'.answer call).machine.state.sound = (m.answer call).machine.state.sound) ∧
      (m'.state.fault = m.state.fault ∨ m.RenewsFault call →
        (m'.answer call).machine.state.fault = (m.answer call).machine.state.fault) := by
  obtain ⟨o, hreply, hafter, hsound, hfault⟩ :=
    answer_echoes h.loaded ⟨m'.state.sound, m'.state.fault, m'.key⟩ hcall
  rw [← h.eq_withOutput] at hreply
  rw [hreply]
  exact ⟨rfl, rfl, ⟨hafter, hafter, rfl, rfl⟩, hsound, hfault⟩

/-- Several calls have the same results for twins and leave twins, and what they agree in stays. -/
theorem Twins.answers (h : m.Twins m') {calls : List HostCall}
    (hcalls : ∀ call ∈ calls, call.loads = false) :
    (m'.answers calls).map (fun reply => (reply.result, reply.events)) =
        (m.answers calls).map (fun reply => (reply.result, reply.events)) ∧
      (m.afterCalls calls).Twins (m'.afterCalls calls) ∧
      (m'.state.sound = m.state.sound →
        (m'.afterCalls calls).state.sound = (m.afterCalls calls).state.sound) ∧
      (m'.state.fault = m.state.fault →
        (m'.afterCalls calls).state.fault = (m.afterCalls calls).state.fault) := by
  induction calls generalizing m m' with
  | nil => exact ⟨rfl, h, id, id⟩
  | cons call rest ih =>
    obtain ⟨hresult, hevents, htwins, hsound, hfault⟩ := h.answer (hcalls call List.mem_cons_self)
    obtain ⟨hresults, hafter, hsounds, hfaults⟩ :=
      ih htwins fun other hother => hcalls other (List.mem_cons_of_mem call hother)
    refine ⟨?_, hafter, fun hsame => hsounds (hsound (.inl hsame)),
      fun hsame => hfaults (hfault (.inl hsame))⟩
    simp only [Machine.answers, List.map_cons, hresult, hevents, hresults]

end Machine

end Chip8
