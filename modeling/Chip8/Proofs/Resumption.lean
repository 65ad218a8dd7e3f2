import Chip8.Proofs.Indifference
import Chip8.Proofs.Trace
import Mathlib.Algebra.GroupWithZero.Nat

namespace Chip8

/-!
# Batches that draws cut

In a dialect where draws end batches, a host that wants to spend its whole budget calls again after
every draw with what is left of it.

* `Call` — a call of a batch, `Call.next` — the call that spends what it leaves, `Call.uncut` — the
  same batch in a dialect where draws do not end it;
* `Call.Over` — nothing is left to spend, or a fault is recorded, `Call.EndsWithDraw` — the call
  ends at the first draw;
* `over_or_endsWithDraw` — every call is of one of the two kinds, and compares with the uncut batch;
* `Call.Resumed` — calls are repeated until one is over, and `Resumed.unique` — in one way only;
* `exists_resumed`, `runBatch_resumed` — the repetition comes to an end, and leaves what the uncut
  batch leaves.
-/

/-- A call of a batch. -/
structure Call where
  state : State
  budget : Nat
  source : ByteSource

namespace Call

/-- What the call leaves. -/
def batch (c : Call) : State.Batch := c.state.runBatch c.budget c.source

/-- What the call leaves in a dialect where draws do not end batches. -/
def uncut (c : Call) : State.Batch := (c.state.setDrawEndsBatch false).runBatch c.budget c.source

/-- What the call completes. -/
def completions (c : Call) : List Completion := c.state.completions c.budget c.source

/-- There is nothing to go on with: the budget is used up, or a fault is recorded. -/
def Over (c : Call) : Prop := c.budget ≤ c.batch.executed ∨ c.batch.state.fault.isSet = true

/-- The call that goes on with what is left of the budget. -/
def next (c : Call) : Call := ⟨c.batch.state, c.budget - c.batch.executed, c.batch.source⟩

/-- The call ends right after a draw, the only one that it completes. -/
def EndsWithDraw (c : Call) : Prop :=
  ∃ before draw, c.completions = before ++ [draw] ∧ draw.op = .draw ∧
    (∀ completion ∈ before, completion.op ≠ .draw) ∧ c.batch.state = draw.after

/-- `c.Resumed earlier last` says that the call `c` is followed by calls that spend what is left of
    its budget, up to the first that is over: `last`, with `earlier` before it. -/
inductive Resumed : Call → List Call → Call → Prop
  | last {c : Call} (h : c.Over) : Resumed c [] c
  | again {c last : Call} {earlier : List Call} (h : ¬ c.Over) (rest : Resumed c.next earlier last) :
      Resumed c (c :: earlier) last

/-- Calls are repeated in one way only. -/
theorem Resumed.unique {c last last' : Call} {earlier earlier' : List Call}
    (h : c.Resumed earlier last) (h' : c.Resumed earlier' last') :
    earlier' = earlier ∧ last' = last := by
  induction h generalizing earlier' last' with
  | last hover =>
    cases h' with
    | last => exact ⟨rfl, rfl⟩
    | again hnot => exact absurd hover hnot
  | again hnot _ ih =>
    cases h' with
    | last hover => exact absurd hover hnot
    | again _ rest =>
      obtain ⟨hearlier, hlast⟩ := ih rest
      exact ⟨congrArg _ hearlier, hlast⟩

/-- A call that ends with a draw has completed something. -/
theorem EndsWithDraw.executed_pos {c : Call} (h : c.EndsWithDraw) : 0 < c.batch.executed := by
  obtain ⟨before, draw, hcompletions, -⟩ := h
  have hlength : c.completions.length = c.batch.executed := State.length_completions ..
  rw [← hlength, hcompletions, List.length_append]
  exact Nat.succ_pos _

/-! ### One call -/

section

variable {s t : State} {n : Nat} {i : Instruction} {source source' : ByteSource}

/-- A call whose first instruction is not a draw is the call after this instruction, but for what it
    completes and counts. -/
theorem of_step (h : s.step source = (.ok (i, t), source')) (hi : i.op ≠ .draw) (n : Nat) :
    let c : Call := ⟨s, n + 1, source⟩
    let c' : Call := ⟨t, n, source'⟩
    c.batch = { c'.batch with executed := 1 + c'.batch.executed } ∧
      c.completions = ⟨s, i, t⟩ :: c'.completions ∧ (c.Over ↔ c'.Over) ∧ c.next = c'.next := by
  intro c c'
  have hfirst : ¬ (i.op = .draw ∧ s.dialect.drawEndsBatch = true) := fun ⟨hop, _⟩ => hi hop
  have hbatch : c.batch = { c'.batch with executed := 1 + c'.batch.executed } := by
    rw [batch, State.runBatch_of_step h, if_neg hfirst]
    rfl
  have hcompletions := State.completions_of_step h n
  rw [if_neg hfirst] at hcompletions
  have hleft : n + 1 - (1 + c'.batch.executed) = n - c'.batch.executed := by omega
  have hover : n + 1 ≤ 1 + c'.batch.executed ↔ n ≤ c'.batch.executed := by omega
  refine ⟨hbatch, hcompletions, ?_, ?_⟩
  · rw [Over, Over, hbatch, hover]
  · rw [next, next, hbatch, hleft]

/-- A call that ends with a draw does so after an instruction that is not one. -/
theorem EndsWithDraw.of_step (h : s.step source = (.ok (i, t), source')) (hi : i.op ≠ .draw)
    (hends : (Call.mk t n source').EndsWithDraw) : (Call.mk s (n + 1) source).EndsWithDraw := by
  obtain ⟨hbatch, hcompletions, -, -⟩ := Call.of_step h hi n
  obtain ⟨before, draw, hbefore, hdraw, hearlier, hafter⟩ := hends
  refine ⟨⟨s, i, t⟩ :: before, draw, ?_, hdraw, ?_, ?_⟩
  · rw [hcompletions, hbefore, List.cons_append]
  · exact List.forall_mem_cons.mpr ⟨hi, hearlier⟩
  · rw [hbatch]
    exact hafter

/-- A call whose first instruction is a draw ends with it. -/
theorem of_draw (hon : s.dialect.drawEndsBatch = true) (h : s.step source = (.ok (i, t), source'))
    (hi : i.op = .draw) (n : Nat) :
    let c : Call := ⟨s, n + 1, source⟩
    c.batch = ⟨t, 1, source'⟩ ∧ c.EndsWithDraw ∧ (c.Over ↔ n = 0) ∧ c.next = ⟨t, n, source'⟩ := by
  intro c
  have hbatch : c.batch = ⟨t, 1, source'⟩ := by
    rw [batch, State.runBatch_of_step h, if_pos ⟨hi, hon⟩]
  have hcompletions : c.completions = [⟨s, i, t⟩] := by
    rw [completions, State.completions_of_step h, if_pos ⟨hi, hon⟩]
  refine ⟨hbatch, ⟨[], ⟨s, i, t⟩, hcompletions, hi, List.forall_mem_nil _, ?_⟩, ?_, ?_⟩
  · rw [hbatch]
  · have hclear : t.fault.isSet = false := by rw [State.fault_step h]; rfl
    have hone : n + 1 ≤ 1 ↔ n = 0 := by omega
    rw [Over, hbatch, hclear, hone]
    exact or_iff_left Bool.false_ne_true
  · rw [next, hbatch]
    rfl

/-- A call that does not start with a trap starts with a step, and so does the batch in a dialect
    where draws do not end batches. -/
theorem uncut_of_step (h : s.step source = (.ok (i, t), source')) (n : Nat) :
    let c' : Call := ⟨t, n, source'⟩
    (Call.mk s (n + 1) source).uncut = { c'.uncut with executed := 1 + c'.uncut.executed } := by
  intro c'
  have hoff : ¬ (i.op = .draw ∧ (s.setDrawEndsBatch false).dialect.drawEndsBatch = true) :=
    fun ⟨_, hends⟩ => Bool.false_ne_true hends
  rw [uncut, State.runBatch_of_step (State.step_setDrawEndsBatch h false), if_neg hoff]
  rfl

/-- A call in a dialect where draws end batches either is over, and leaves what the batch leaves in
    the other dialect, or ends with a draw, and the batch in the other dialect goes on from
    there. -/
theorem over_or_endsWithDraw (hon : s.dialect.drawEndsBatch = true) (n : Nat) (source : ByteSource) :
    let c : Call := ⟨s, n, source⟩
    (c.Over ∧ c.batch = { c.uncut with state := c.uncut.state.setDrawEndsBatch true }) ∨
      (¬ c.Over ∧ c.EndsWithDraw ∧
        c.uncut = { c.next.uncut with executed := c.batch.executed + c.next.uncut.executed }) := by
  -- By induction on the budget: instructions other than draws come before both batches alike.
  induction n generalizing s source with
  | zero =>
    refine .inl ⟨.inl (Nat.zero_le _), ?_⟩
    have hself : ({ s with fault := .clear } : State).setDrawEndsBatch true =
        { s with fault := .clear } := State.setDrawEndsBatch_eq_self hon
    exact congrArg (State.Batch.mk · 0 source) hself.symm
  | succ n ih =>
    intro c
    cases htrap : s.trap? with
    | some trap =>
      -- The word is the same in both dialects, and so is the random byte that it may need.
      have hbatch : c.batch = _ := State.runBatch_of_trap htrap n source
      have huncut : c.uncut = _ :=
        State.runBatch_of_trap (s := s.setDrawEndsBatch false) htrap n source
      have hself : ({ s with fault := trap.record s.pc s.word } : State).setDrawEndsBatch true =
          { s with fault := trap.record s.pc s.word } := State.setDrawEndsBatch_eq_self hon
      rw [State.source_cycle] at hbatch huncut
      refine .inl ⟨.inr ?_, ?_⟩
      · rw [hbatch]
        exact trap.isSet_record ..
      · rw [hbatch, huncut]
        exact congrArg (State.Batch.mk · 0 _) hself.symm
    | none =>
      obtain ⟨i, t, source₁, hstep⟩ := State.step_of_trap_none htrap source
      have honward : t.dialect.drawEndsBatch = true := by rw [State.dialect_step hstep, hon]
      have huncut : c.uncut = _ := uncut_of_step hstep n
      by_cases hi : i.op = .draw
      · obtain ⟨hbatch, hends, hover, hnext⟩ := of_draw hon hstep hi n
        cases n with
        | zero =>
          have hself : ({ t with fault := .clear } : State).setDrawEndsBatch true = t := by
            rw [← State.fault_step hstep]
            exact State.setDrawEndsBatch_eq_self honward
          refine .inl ⟨hover.mpr rfl, ?_⟩
          rw [hbatch, huncut]
          exact congrArg (State.Batch.mk · 1 source₁) hself.symm
        | succ n =>
          refine .inr ⟨fun h => Nat.succ_ne_zero n (hover.mp h), hends, ?_⟩
          rw [hnext, hbatch, huncut]
      · obtain ⟨hbatch, -, hover, hnext⟩ := Call.of_step hstep hi n
        rw [hover, hnext, hbatch, huncut]
        rcases ih honward source₁ with ⟨hlast, hsame⟩ | ⟨hgoes, hends, hrest⟩
        · refine .inl ⟨hlast, ?_⟩
          rw [hsame]
        · refine .inr ⟨hgoes, hends.of_step hstep hi, ?_⟩
          rw [hrest, Nat.add_assoc]

end

/-! ### All calls -/

/-- Calls in a dialect where draws end batches are repeated until one is over.  The last one leaves
    what one batch leaves in the other dialect, their counts add up to its count, and all but the
    last end with a draw. -/
theorem exists_resumed {s : State} (hon : s.dialect.drawEndsBatch = true) (n : Nat)
    (source : ByteSource) :
    let c : Call := ⟨s, n, source⟩
    ∃ earlier last, c.Resumed earlier last ∧
      last.batch.state = c.uncut.state.setDrawEndsBatch true ∧
      last.batch.source = c.uncut.source ∧
      (earlier.map (·.batch.executed)).sum + last.batch.executed = c.uncut.executed ∧
      ∀ call ∈ earlier, call.EndsWithDraw := by
  -- By induction on the budget, of which every draw uses up a part.
  induction n using Nat.strongRecOn generalizing s source with
  | ind n ih =>
    intro c
    rcases over_or_endsWithDraw hon n source with ⟨hover, hbatch⟩ | ⟨hgoes, hends, huncut⟩
    · refine ⟨[], c, .last hover, ?_, ?_, ?_, nofun⟩
      · rw [hbatch]
      · rw [hbatch]
      · rw [hbatch]
        exact Nat.zero_add _
    · have hpos : 0 < c.batch.executed := hends.executed_pos
      have hlt : c.batch.executed < n := Nat.lt_of_not_le fun h => hgoes (.inl h)
      have honward : c.batch.state.dialect.drawEndsBatch = true := by
        rw [batch, State.dialect_runBatch, hon]
      obtain ⟨earlier, last, hrest, hstate, hsource, hsum, hdraws⟩ :=
        ih (n - c.batch.executed) (by omega) honward c.batch.source
      refine ⟨c :: earlier, last, .again hgoes hrest, ?_, ?_, ?_, ?_⟩
      · rw [hstate, huncut]
        rfl
      · rw [hsource, huncut]
        rfl
      · rw [List.map_cons, List.sum_cons, Nat.add_assoc, hsum, huncut]
        rfl
      · exact List.forall_mem_cons.mpr ⟨hends, hdraws⟩

end Call

/-- **Draws only cut batches.**  Call a batch in a dialect where draws end batches, again with what
    is left of the budget, and so on.  After a number of calls that is fixed, the budget is used up
    or a fault is recorded.  The last call then leaves what one batch leaves in the dialect where
    draws do not end batches, the fault record included, and the calls have completed as many
    instructions.  All calls but the last end right after a draw, the only one that they
    complete. -/
theorem State.runBatch_resumed (s : State) (n : Nat) (source : ByteSource) :
    let whole := (s.setDrawEndsBatch false).runBatch n source
    ∃ earlier last, (Call.mk (s.setDrawEndsBatch true) n source).Resumed earlier last ∧
      (∀ earlier' last', (Call.mk (s.setDrawEndsBatch true) n source).Resumed earlier' last' →
        earlier' = earlier ∧ last' = last) ∧
      last.batch.state = whole.state.setDrawEndsBatch true ∧
      last.batch.source = whole.source ∧
      (earlier.map (·.batch.executed)).sum + last.batch.executed = whole.executed ∧
      ∀ call ∈ earlier, call.EndsWithDraw := by
  obtain ⟨earlier, last, hresumed, hstate, hsource, hsum, hdraws⟩ :=
    Call.exists_resumed (s := s.setDrawEndsBatch true) rfl n source
  exact ⟨earlier, last, hresumed, fun _ _ hother => hresumed.unique hother, hstate, hsource, hsum,
    hdraws⟩

/-- Two draws and a word that is no instruction: both draws end a call, and the third call leaves
    the fault that the one batch leaves. -/
theorem State.runBatch_resumed_two_draws :
    let s : State :=
      { State.initial {} default with
        memory := ⟨((Vector.replicate 4096 0xD1).setIfInBounds 4 0xFF).setIfInBounds 5 0xFF⟩
        pc := 0 }
    let whole := (s.setDrawEndsBatch false).runBatch 5 .key
    let first : Call := ⟨s.setDrawEndsBatch true, 5, .key⟩
    let last := first.next.next
    first.Resumed [first, first.next] last ∧ first.EndsWithDraw ∧ first.next.EndsWithDraw ∧
      last.batch.state = whole.state.setDrawEndsBatch true ∧ whole.executed = 2 ∧
      whole.state.fault = Trap.unknownOpcode.record 4 0xFFFF := by
  intro s whole first last
  have hcalls : (first.batch.executed = 1 ∧ first.batch.state.fault.isSet = false) ∧
      (first.next.batch.executed = 1 ∧ first.next.batch.state.fault.isSet = false) ∧
      last.batch.state.fault.isSet = true := by decide +kernel
  have hwhole : whole.executed = 2 ∧ whole.state.fault = Trap.unknownOpcode.record 4 0xFFFF := by
    decide +kernel
  obtain ⟨⟨hfirst, hclear⟩, ⟨hsecond, hclear'⟩, hset⟩ := hcalls
  have hgoes : ¬ first.Over := by
    rw [Call.Over, hfirst, hclear]
    decide
  have hgoes' : ¬ first.next.Over := by
    rw [Call.Over, hsecond, hclear', Call.next, hfirst]
    decide
  have hresumed : first.Resumed [first, first.next] last :=
    .again hgoes (.again hgoes' (.last (.inr hset)))
  obtain ⟨earlier, last', -, hunique, hstate, -, -, hdraws⟩ := runBatch_resumed s 5 .key
  obtain ⟨rfl, rfl⟩ := hunique _ _ hresumed
  obtain ⟨hends, hothers⟩ := List.forall_mem_cons.mp hdraws
  obtain ⟨hends', -⟩ := List.forall_mem_cons.mp hothers
  exact ⟨hresumed, hends, hends', hstate, hwhole⟩

end Chip8
