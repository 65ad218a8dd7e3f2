import Chip8.Proofs.FirstFault
import Chip8.Proofs.Trace
import Chip8.Proofs.Writes

namespace Chip8

/-!
# Random draws

One operation needs a random byte.  Bytes come from a supply: the key that the state carries along,
together with the source that may give numbers in its place.

* `Supply`, `Supply.byte`, `Supply.next` — a supply, the byte that it gives, and what is left of it;
* `randomDraws` — the completed instructions that needed a byte, `Completion.Stores` — what they do
  with it;
* `Supplies` — completed instructions take their bytes from a supply one after the other, and
  `Supplies.eq_repeat`, `Supplies.stores` — which byte each of them gets;
* `supplies_of_step`, `supplies_runBatch`, `supplies_act`, `supplies_acts` — so do the instructions
  of a step, of a batch and of everything that a host does;
* `State.WastesDraw` — the one case in which a byte is drawn for nothing;
* `acts_feed` — how often a host is asked for a number, and what becomes of it;
* `acts_key` — what the key is after any number of draws, and what bytes they get.
-/

/-! ### Supplies -/

/-- Where random bytes come from: the key of a state, and a source that may stand in for it. -/
structure Supply where
  key : RandomKey
  source : ByteSource

namespace Supply

/-- The byte that the supply gives. -/
def byte (p : Supply) : UInt8 := (p.source.draw p.key).1

/-- What is left after this byte. -/
def next (p : Supply) : Supply := ⟨(p.source.draw p.key).2.1, (p.source.draw p.key).2.2⟩

/-- What is left after one byte and some more. -/
theorem repeat_next (p : Supply) (n : Nat) :
    Nat.repeat next (n + 1) p = Nat.repeat next n p.next := by
  induction n with
  | zero => rfl
  | succ n ih => exact congrArg next ih

/-- Without numbers from a host, bytes come from one key after the other. -/
theorem repeat_next_key (key : RandomKey) (n : Nat) :
    Nat.repeat next n ⟨key, .key⟩ = ⟨Nat.repeat RandomKey.next n key, .key⟩ := by
  induction n with
  | zero => rfl
  | succ n ih => exact congrArg next ih

/-- The numbers of a host are used one after the other, and the key is left alone. -/
theorem repeat_next_feed (key : RandomKey) (value : Nat → Int) (calls n : Nat) :
    Nat.repeat next n ⟨key, .feed value calls⟩ = ⟨key, .feed value (calls + n)⟩ := by
  induction n with
  | zero => rfl
  | succ n ih => exact congrArg next ih

end Supply

/-! ### Completed draws -/

/-- The instructions that needed a random byte. -/
def randomDraws (completions : List Completion) : List Completion :=
  completions.filter (·.op = .random)

/-- An instruction that needs a byte is one of them. -/
theorem randomDraws_cons_of_eq {c : Completion} (h : c.op = .random) (completions : List Completion) :
    randomDraws (c :: completions) = c :: randomDraws completions :=
  List.filter_cons_of_pos (by simpa using h)

/-- The others are left out. -/
theorem randomDraws_cons_of_ne {c : Completion} (h : c.op ≠ .random) (completions : List Completion) :
    randomDraws (c :: completions) = randomDraws completions :=
  List.filter_cons_of_neg (by simpa using h)

/-- The instruction stores the byte, masked, in its register, and leaves the others alone. -/
def Completion.Stores (c : Completion) (byte : UInt8) : Prop :=
  let w := c.instruction.word
  c.after.registers = (c.before.setReg (Word.x w) (byte &&& Word.nn w)).registers

/-- The instructions that needed a random byte store these, one after the other. -/
def StoreBytes (completions : List Completion) (bytes : Nat → UInt8) : Prop :=
  ∀ (i : Nat) (c : Completion), (randomDraws completions)[i]? = some c → c.Stores (bytes i)

/-- `Supplies p completions q` says that completed instructions take the random bytes that they need
    from `p`, and that `q` is left.  The states around them carry the keys along. -/
inductive Supplies : Supply → List Completion → Supply → Prop
  | nil (p : Supply) : Supplies p [] p
  /-- No byte is needed. -/
  | other {p q : Supply} {c : Completion} {completions : List Completion} (hop : c.op ≠ .random)
      (hbefore : c.before.key = p.key) (hafter : c.after.key = p.key)
      (rest : Supplies p completions q) : Supplies p (c :: completions) q
  /-- A byte is needed and stored. -/
  | random {p q : Supply} {c : Completion} {completions : List Completion} (hop : c.op = .random)
      (hbefore : c.before.key = p.key) (hafter : c.after.key = p.next.key) (hstores : c.Stores p.byte)
      (rest : Supplies p.next completions q) : Supplies p (c :: completions) q

namespace Supplies

variable {p q r : Supply} {completions others : List Completion}

/-- Others go on with what is left. -/
theorem append (h : Supplies p completions q) (h' : Supplies q others r) :
    Supplies p (completions ++ others) r := by
  induction h with
  | nil => exact h'
  | other hop hbefore hafter _ ih => exact .other hop hbefore hafter (ih h')
  | random hop hbefore hafter hstores _ ih => exact .random hop hbefore hafter hstores (ih h')

/-- As many bytes are taken as there are draws. -/
theorem eq_repeat (h : Supplies p completions q) :
    q = Nat.repeat Supply.next (randomDraws completions).length p := by
  induction h with
  | nil => rfl
  | other hop _ _ _ ih =>
    rw [randomDraws_cons_of_ne hop]
    exact ih
  | random hop _ _ _ _ ih =>
    rw [randomDraws_cons_of_eq hop, List.length_cons, Supply.repeat_next]
    exact ih

/-- Every draw stores its own byte. -/
theorem stores (h : Supplies p completions q) :
    StoreBytes completions fun i => (Nat.repeat Supply.next i p).byte := by
  intro i c hc
  induction h generalizing i with
  | nil => exact nomatch hc
  | other hop _ _ _ ih =>
    rw [randomDraws_cons_of_ne hop] at hc
    exact ih i hc
  | @random p _ _ _ hop _ _ hstores _ ih =>
    rw [randomDraws_cons_of_eq hop] at hc
    cases i with
    | zero =>
      cases hc
      exact hstores
    | succ i =>
      show c.Stores (Nat.repeat Supply.next (i + 1) p).byte
      rw [Supply.repeat_next]
      exact ih i hc

/-- As long as a host gives the numbers, the key stays. -/
theorem keys_feed {key : RandomKey} {value : Nat → Int} {calls : Nat}
    (h : Supplies ⟨key, .feed value calls⟩ completions q) :
    ∀ c ∈ completions, c.before.key = key ∧ c.after.key = key := by
  generalize hp : Supply.mk key (.feed value calls) = p at h
  induction h generalizing calls with
  | nil => exact List.forall_mem_nil _
  | other _ hbefore hafter _ ih =>
    subst hp
    exact List.forall_mem_cons.mpr ⟨⟨hbefore, hafter⟩, ih rfl⟩
  | random _ hbefore hafter _ _ ih =>
    subst hp
    exact List.forall_mem_cons.mpr ⟨⟨hbefore, hafter⟩, ih rfl⟩

end Supplies

namespace State

variable {s t : State} {i : Instruction} {source source' : ByteSource}

/-! ### Single steps -/

/-- What a completed step has to do with random bytes. -/
theorem draw_step (h : s.step source = (.ok (i, t), source')) :
    if i.op = .random then
      (⟨t.key, source'⟩ : Supply) = Supply.next ⟨s.key, source⟩ ∧
        Completion.Stores ⟨s, i, t⟩ (Supply.byte ⟨s.key, source⟩)
    else t.key = s.key ∧ source' = source := by
  obtain ⟨-, hi, -, hrun⟩ := step_eq_ok h
  obtain ⟨op, hi⟩ : ∃ op, i = s.instruction op := ⟨i.op, hi⟩
  subst hi
  split
  · next hop =>
    rw [hop] at hrun
    cases hrun
    exact ⟨rfl, rfl⟩
  · next hop =>
    rw [Operation.run, if_neg hop] at hrun
    obtain ⟨heffect, hsource⟩ := Prod.mk.inj hrun
    exact ⟨(congrArg State.key (effect_eq heffect) :), hsource.symm⟩

/-- A completed step takes its byte before everything that follows. -/
theorem supplies_of_step (h : s.step source = (.ok (i, t), source')) {completions : List Completion}
    {q : Supply} (rest : Supplies ⟨t.key, source'⟩ completions q) :
    Supplies ⟨s.key, source⟩ (⟨s, i, t⟩ :: completions) q := by
  have hdraw := draw_step h
  split at hdraw
  · next hop =>
    rw [hdraw.1] at rest
    exact .random hop rfl (congrArg Supply.key hdraw.1) hdraw.2 rest
  · next hop =>
    rw [hdraw.1, hdraw.2] at rest
    exact .other hop rfl hdraw.1 rest

/-! ### Batches -/

/-- The batch that left this state has drawn a byte for nothing: the word that it could not fetch,
    made of the last bytes of memory, starts with the digit of the operation that needs one. -/
def WastesDraw (s : State) : Prop :=
  s.fault.isSet = true ∧ 0xFFE < s.pc.toNat ∧ (Word.lead s.clampedWord).val = 0xC

instance (s : State) : Decidable s.WastesDraw := inferInstanceAs (Decidable (_ ∧ _ ∧ _))

/-- A state with a clear record does not waste a draw. -/
theorem not_wastesDraw_of_clear (h : s.fault = .clear) : ¬ s.WastesDraw := by
  rintro ⟨hset, -⟩
  rw [h] at hset
  exact nomatch hset

/-- A trap wastes a draw if its word needs a byte at all: inside memory, such words do not trap. -/
theorem wastesDraw_of_trap {trap : Trap} (h : s.trap? = some trap) (pc : UInt16) (word : Word) :
    ({ s with fault := trap.record pc word } : State).WastesDraw ↔
      Operation.ofWord? s.word = some .random := by
  rw [ofWord?_eq_random_iff, word_eq_clampedWord]
  constructor
  · exact fun ⟨_, _, hlead⟩ => hlead
  · intro hlead
    refine ⟨trap.isSet_record .., ?_, hlead⟩
    rw [← word_eq_clampedWord, ← ofWord?_eq_random_iff] at hlead
    rcases trap?_cases s with ⟨hpc, -⟩ | ⟨-, hop, -⟩ | ⟨op, -, hop, htrap⟩
    · exact hpc
    · rw [hop] at hlead
      exact nomatch hlead
    · rw [hlead] at hop
      cases hop
      rw [htrap] at h
      exact nomatch h

/-- The instructions of a batch take their bytes one after the other.  What is left is what the
    state and the source hold, unless one more byte was drawn for nothing. -/
theorem supplies_runBatch (s : State) (n : Nat) (source : ByteSource) :
    let batch := s.runBatch n source
    ∃ q, Supplies ⟨s.key, source⟩ (s.completions n source) q ∧ batch.state.key = q.key ∧
      batch.source = if batch.state.WastesDraw then q.next.source else q.source := by
  -- By induction on the budget: what the first instruction leaves supplies the others.
  induction n generalizing s source with
  | zero =>
    refine ⟨⟨s.key, source⟩, .nil _, rfl, ?_⟩
    rw [if_neg (not_wastesDraw_of_clear rfl), runBatch_zero]
  | succ n ih =>
    cases htrap : s.trap? with
    | some trap =>
      rw [completions_of_trap htrap, runBatch_of_trap htrap, source_cycle]
      refine ⟨⟨s.key, source⟩, .nil _, rfl, ?_⟩
      -- The cycle has drawn for its word whether or not the word lies inside memory.
      simp only [wastesDraw_of_trap htrap]
      rfl
    | none =>
      obtain ⟨i, t, source₁, hstep⟩ := step_of_trap_none htrap source
      rw [completions_of_step hstep, runBatch_of_step hstep]
      split
      · -- The instruction ends the batch, and nothing follows.
        refine ⟨⟨t.key, source₁⟩, supplies_of_step hstep (.nil _), rfl, ?_⟩
        rw [if_neg (not_wastesDraw_of_clear (fault_step hstep))]
      · obtain ⟨q, hrest, hkey, hsource⟩ := ih t source₁
        exact ⟨q, supplies_of_step hstep hrest, hkey, hsource⟩

/-! ### What a host does -/

/-- What the instructions of an action have to do with random bytes.  One more byte is drawn only if
    the action has left a fault record. -/
theorem supplies_act (s : State) (source : ByteSource) (action : Action) :
    let outcome := s.act source action
    ∃ q, Supplies ⟨s.key, source⟩ outcome.completions q ∧ outcome.state.key = q.key ∧
      (outcome.source = q.source ∨
        outcome.source = q.next.source ∧ action.RunsBatch ∧ outcome.state.fault.isSet = true) := by
  cases action with
  | step =>
    cases htrap : s.trap? with
    | some trap =>
      rw [act_step_of_trap htrap]
      exact ⟨⟨s.key, source⟩, .nil _, rfl, .inl rfl⟩
    | none =>
      obtain ⟨i, t, source₁, hstep⟩ := step_of_trap_none htrap source
      rw [act_step hstep]
      exact ⟨⟨t.key, source₁⟩, supplies_of_step hstep (.nil _), rfl, .inl rfl⟩
  | batch n | frame n =>
    -- A tick of the timers touches neither the key nor the fault record.
    obtain ⟨q, hsupplies, hkey, hsource⟩ := supplies_runBatch s n source
    refine ⟨q, hsupplies, hkey, ?_⟩
    split at hsource
    · next hwastes => exact .inr ⟨hsource, trivial, hwastes.1⟩
    · exact .inl hsource
  | setKey key down => exact ⟨⟨s.key, source⟩, .nil _, rfl, .inl rfl⟩
  | pokeTimers delay sound =>
    simp only [act]
    cases hpoke : s.pokeTimers delay sound with
    | error fault => exact ⟨⟨s.key, source⟩, .nil _, rfl, .inl rfl⟩
    | ok t =>
      obtain ⟨a, b, rfl⟩ := pokeTimers_eq_ok hpoke
      exact ⟨⟨s.key, source⟩, .nil _, rfl, .inl rfl⟩

/-- As long as nothing is drawn for nothing, the instructions of a whole run take their bytes one
    after the other.  That is so without fault records, and where the key gives the bytes. -/
theorem supplies_acts (actions : List Action) (s : State) (source : ByteSource)
    (h : source = .key ∨ s.Faultless source actions) :
    let run := s.acts source actions
    Supplies ⟨s.key, source⟩ run.completions ⟨run.state.key, run.source⟩ := by
  -- By induction on the actions: what the first one leaves has to be where the others start.
  induction actions generalizing s source with
  | nil => exact .nil _
  | cons action rest ih =>
    obtain ⟨q, hfirst, hkey, hsource⟩ := supplies_act s source action
    have hleft : (s.act source action).source = q.source ∧
        ((s.act source action).source = .key ∨
          (s.act source action).state.Faultless (s.act source action).source rest) := by
      rcases h with rfl | ⟨hfaultless, hrest⟩
      · -- The key is all that there is to draw from.
        rw [hfirst.eq_repeat, Supply.repeat_next_key] at hsource
        have hown : (s.act .key action).source = .key := by
          rcases hsource with h | ⟨h, -⟩
          · exact h
          · exact h
        rw [hfirst.eq_repeat, Supply.repeat_next_key]
        exact ⟨hown, .inl hown⟩
      · rcases hsource with hsource | ⟨-, hbatch, hset⟩
        · exact ⟨hsource, .inr hrest⟩
        · rw [hfaultless hbatch] at hset
          exact nomatch hset
    have hothers := ih (s.act source action).state (s.act source action).source hleft.2
    have hq : (⟨(s.act source action).state.key, (s.act source action).source⟩ : Supply) = q := by
      rw [hkey, hleft.1]
    rw [hq] at hothers
    exact hfirst.append hothers

/-- As long as a host gives the numbers, no run changes the key, with or without faults. -/
theorem key_acts_feed (actions : List Action) (s : State) (value : Nat → Int) (calls : Nat) :
    let run := s.acts (.feed value calls) actions
    run.state.key = s.key ∧ ∀ c ∈ run.completions, c.before.key = s.key ∧ c.after.key = s.key := by
  induction actions generalizing s calls with
  | nil => exact ⟨rfl, List.forall_mem_nil _⟩
  | cons action rest ih =>
    obtain ⟨q, hfirst, hkey, hsource⟩ := supplies_act s (.feed value calls) action
    have hkeys := hfirst.keys_feed
    rw [hfirst.eq_repeat, Supply.repeat_next_feed] at hkey hsource
    -- The host goes on giving numbers, whether or not one was wasted.
    obtain ⟨calls', hcalls⟩ :
        ∃ calls', (s.act (.feed value calls) action).source = .feed value calls' := by
      rcases hsource with h | ⟨h, -⟩
      · exact ⟨_, h⟩
      · exact ⟨_, h⟩
    obtain ⟨hlast, hothers⟩ := ih (s.act (.feed value calls) action).state calls'
    rw [← hcalls, hkey] at hlast hothers
    exact ⟨hlast, List.forall_mem_append.mpr ⟨hkeys, hothers⟩⟩

/-! ### Numbers of a host -/

/-- **A host is asked for a number once for every draw that completes**, in the order of the draws.
    A batch asks once more exactly when it stops at a word outside of memory that, read from the
    last bytes, starts with the digit of the operation that needs one; a single step does not.  In a
    run of which no batch leaves a fault record, the draws store the low bytes of the numbers one
    after the other, masked.  The key of the state never changes.  What is stored is what the batch
    and the run leave: the completed instructions hand on the state, and the registers, up to the
    last one. -/
theorem acts_feed (s : State) (value : Nat → Int) (calls : Nat) :
    let source := ByteSource.feed value calls
    (∀ n,
      let batch := s.runBatch n source
      batch.source = .feed value
        (calls + (randomDraws (s.completions n source)).length +
          if batch.state.WastesDraw then 1 else 0) ∧
      (s.completions n source).length = batch.executed ∧
      HandsOn cleared s (s.completions n source) batch.state) ∧
      (∀ i t, (s.step source).1 = .ok (i, t) →
        (s.step source).2 = .feed value (calls + if i.op = .random then 1 else 0)) ∧
      (∀ fault, (s.step source).1 = .error fault → (s.step source).2 = .feed value calls) ∧
      ∀ actions,
        let run := s.acts source actions
        (s.Faultless source actions →
          StoreBytes run.completions fun i => UInt8.ofNat (value (calls + i) % 256).toNat) ∧
        HandsOn registers s run.completions run.state ∧
        run.state.key = s.key ∧
        ∀ c ∈ run.completions, c.before.key = s.key ∧ c.after.key = s.key := by
  intro source
  refine ⟨fun n => ⟨?_, s.length_completions n source, s.handsOn_completions n source⟩, fun i t hok => ?_,
    fun fault herror => ?_, fun actions => ⟨?_, s.handsOn_acts actions source, ?_⟩⟩
  · obtain ⟨q, hsupplies, -, hsource⟩ := supplies_runBatch s n source
    rw [hsupplies.eq_repeat, Supply.repeat_next_feed] at hsource
    show (s.runBatch n source).source = _
    rw [hsource]
    split <;> rfl
  · have hdraw := draw_step (Prod.ext hok rfl)
    split at hdraw
    · next hop =>
      rw [if_pos hop]
      exact congrArg Supply.source hdraw.1
    · next hop =>
      rw [if_neg hop]
      exact hdraw.2
  · cases htrap : s.trap? with
    | some trap => rw [step_of_trap htrap]
    | none =>
      obtain ⟨i, t, source₁, hstep⟩ := step_of_trap_none htrap source
      rw [hstep] at herror
      exact nomatch herror
  · intro hfaultless
    have hstores := (supplies_acts actions s source (.inr hfaultless)).stores
    simp only [source, Supply.repeat_next_feed] at hstores
    exact hstores
  · exact key_acts_feed actions s value calls

/-- A memory of nothing but instructions that need a random byte.  The last word of it and the fetch
    after it ask for two numbers, and a step and a batch at its start store what a host gives
    them. -/
theorem acts_feed_last_word :
    let s (pc : UInt16) : State :=
      { initial {} default with
        memory := ⟨Vector.replicate 4096 0xC1⟩
        pc }
    let value : Nat → Int := fun k => 300 * k - 1
    let source := ByteSource.feed value 0
    let batch := (s 0xFFE).runBatch 2 source
    let run := (s 0).acts source [.step, .batch 1]
    batch.executed = 1 ∧ batch.source = .feed value 2 ∧ (randomDraws run.completions).length = 2 ∧
      StoreBytes run.completions (fun i => UInt8.ofNat (value (0 + i) % 256).toNat) ∧
      run.state.reg 1 = 0x01 ∧ run.state.key = (s 0).key := by
  intro s value source batch run
  let stepped := (s 0).act source .step
  have hwasted : batch.executed = 1 ∧ (randomDraws ((s 0xFFE).completions 2 source)).length = 1 ∧
      batch.state.WastesDraw := by decide +kernel
  have hrun : (randomDraws run.completions).length = 2 ∧ run.state.reg 1 = 0x01 ∧
      (stepped.state.act stepped.source (.batch 1)).state.fault.isSet = false := by decide +kernel
  obtain ⟨hexecuted, hdraws, hwastes⟩ := hwasted
  obtain ⟨hdraws', hregister, hclear⟩ := hrun
  obtain ⟨hbatch, -⟩ := acts_feed (s 0xFFE) value 0
  obtain ⟨hsource, -⟩ := hbatch 2
  rw [hdraws, if_pos hwastes] at hsource
  obtain ⟨-, -, -, hactions⟩ := acts_feed (s 0) value 0
  obtain ⟨hstores, -, hkey, -⟩ := hactions [.step, .batch 1]
  have hfaultless : (s 0).Faultless source [.step, .batch 1] := ⟨nofun, fun _ => hclear, trivial⟩
  exact ⟨hexecuted, hsource, hdraws', hstores hfaultless, hregister, hkey⟩

/-! ### Bytes of a key -/

/-- **The bytes of a key depend on nothing but the key and their order.**  After any run the key is
    the one after as many draws as have completed, and each draw stores the byte of its own key,
    masked, and the registers are handed on up to the state that the run leaves.  So two runs from
    the same key see the same bytes, whatever else happens in them, and end with the same key if
    they complete equally many draws. -/
theorem acts_key (s : State) (actions : List Action) :
    let run := s.acts .key actions
    run.state.key = Nat.repeat RandomKey.next (randomDraws run.completions).length s.key ∧
      StoreBytes run.completions (fun i => (Nat.repeat RandomKey.next i s.key).byte) ∧
      HandsOn registers s run.completions run.state ∧
      ∀ t : State, t.key = s.key → ∀ others,
        let run' := t.acts .key others
        (∃ bytes, StoreBytes run.completions bytes ∧ StoreBytes run'.completions bytes) ∧
        ((randomDraws run.completions).length = (randomDraws run'.completions).length →
          run.state.key = run'.state.key) := by
  have hrun (t : State) (others : List Action) :
      let run := t.acts .key others
      run.state.key = Nat.repeat RandomKey.next (randomDraws run.completions).length t.key ∧
        StoreBytes run.completions fun i => (Nat.repeat RandomKey.next i t.key).byte := by
    have hsupplies := supplies_acts others t .key (.inl rfl)
    have hleft := hsupplies.eq_repeat
    have hstores := hsupplies.stores
    simp only [Supply.repeat_next_key] at hleft hstores
    exact ⟨congrArg Supply.key hleft, hstores⟩
  intro run
  obtain ⟨hkey, hstores⟩ := hrun s actions
  refine ⟨hkey, hstores, s.handsOn_acts actions .key, fun t ht others => ?_⟩
  obtain ⟨hkey', hstores'⟩ := hrun t others
  rw [ht] at hkey' hstores'
  refine ⟨⟨_, hstores, hstores'⟩, fun hlength => ?_⟩
  rw [hkey, hkey', hlength]

/-- The last word of memory and the fetch after it, which draws a byte and gives it back, leave the
    key that a single step at the start of memory leaves. -/
theorem acts_key_last_word :
    let s (pc : UInt16) : State :=
      { initial {} default with
        memory := ⟨Vector.replicate 4096 0xC1⟩
        pc }
    let run := (s 0xFFE).acts .key [.frame 1, .setKey 3 true, .batch 5]
    let run' := (s 0).acts .key [.step]
    run.state.fault.code = 1 ∧ run.state.key = (s 0xFFE).key.next ∧
      StoreBytes run.completions (fun i => (Nat.repeat RandomKey.next i (s 0xFFE).key).byte) ∧
      run.state.key = run'.state.key := by
  intro s run run'
  have hrun : (randomDraws run.completions).length = 1 ∧ run.state.fault.code = 1 := by decide +kernel
  have hdraws' : (randomDraws run'.completions).length = 1 := by decide +kernel
  obtain ⟨hdraws, hcode⟩ := hrun
  obtain ⟨hkey, hstores, -, hothers⟩ := acts_key (s 0xFFE) [.frame 1, .setKey 3 true, .batch 5]
  obtain ⟨-, hsame⟩ := hothers (s 0) rfl [.step]
  rw [hdraws] at hkey
  exact ⟨hcode, hkey, hstores, hsame (hdraws.trans hdraws'.symm)⟩

end State

end Chip8
