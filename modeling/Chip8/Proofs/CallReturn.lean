import Chip8.Proofs.FirstFault
import Chip8.Proofs.Invariant
import Chip8.Proofs.SavedAddresses

namespace Chip8

/-!
# Calls and returns

A return goes back to where the call that it belongs to was made, whatever the subroutine has done
in between.  The subroutine can only add to the addresses that are saved below its own.

* `stack_cases` — what a completed step does to the list of saved addresses;
* `canonical_step`, `canonical_steps` — steps keep the free slots of the call stack zero;
* `prefix_of_steps` — a run that does not come back to a depth keeps the addresses saved up to it;
* `Steps.matching_return` — the first step that comes back to the depth before a call is its return.
-/

namespace State

variable {s t u v : State} {i j : Instruction} {instructions body : List Instruction}
  {source source' : ByteSource}

/-! ### One step -/

/-- A call saves the address behind it, a return goes back to the address that was saved last, and
    no other instruction touches the call stack. -/
theorem stack_cases (h : s.step source = (.ok (i, t), source')) (hstack : s.stack.Canonical) :
    (i.op = .call ∧ t.stack.toList = s.stack.toList ++ [s.pc + 2]) ∨
      (i.op = .ret ∧ t.stack.toList ++ [t.pc] = s.stack.toList) ∨
      (i.op ≠ .call ∧ i.op ≠ .ret ∧ t.stack = s.stack) := by
  have hpc := pc_step h
  have hnext := stack_step h
  by_cases hcall : i.op = .call
  · refine .inl ⟨hcall, ?_⟩
    obtain ⟨byte, key, heffect⟩ := effect_of_step h
    rw [hcall] at heffect hnext
    rw [hnext]
    exact CallStack.toList_push hstack.depth_nonneg (call_eq_ok heffect).1 (s.pc + 2)
  by_cases hret : i.op = .ret
  · refine .inr (.inl ⟨hret, ?_⟩)
    have hdepth := depth_pos_of_ret h hret
    rw [hret] at hpc hnext
    rw [hnext, hpc]
    exact CallStack.toList_pop hdepth hstack.depth_le
  · refine .inr (.inr ⟨hcall, hret, ?_⟩)
    rw [hnext]
    generalize i.op = op at hcall hret
    cases op
    case call => exact absurd rfl hcall
    case ret => exact absurd rfl hret
    all_goals rfl

/-- A completed step keeps the free slots of the call stack zero. -/
theorem canonical_step (hstack : s.stack.Canonical) (h : s.step source = (.ok (i, t), source')) :
    t.stack.Canonical := by
  rw [stack_step h]
  generalize i.op = op
  cases op
  case call => exact hstack.push _
  case ret => exact hstack.pop
  all_goals exact hstack

/-- A run of completed steps keeps the free slots of the call stack zero. -/
theorem canonical_steps (hstack : s.stack.Canonical)
    (hrun : s.Steps source instructions t source') : t.stack.Canonical := by
  induction hrun with
  | nil => exact hstack
  | cons first _ ih => exact ih (canonical_step hstack first)

/-! ### Inside a subroutine -/

/-- A run of these instructions passes through the state `x`.  Its first and its last state
    count. -/
def Passes (s : State) (source : ByteSource) (instructions : List Instruction) (x : State) : Prop :=
  ∃ completed left source', instructions = completed ++ left ∧ s.Steps source completed x source'

/-- A run passes through its first state. -/
theorem passes_first (s : State) (source : ByteSource) (instructions : List Instruction) :
    s.Passes source instructions s :=
  ⟨[], instructions, source, rfl, .nil s source⟩

/-- A run of no instructions passes through one state only. -/
theorem passes_nil {x : State} : s.Passes source [] x ↔ x = s := by
  constructor
  · rintro ⟨completed, left, source', hlist, hrun⟩
    obtain ⟨rfl, rfl⟩ := List.append_eq_nil_iff.mp hlist.symm
    cases hrun
    rfl
  · rintro rfl
    exact passes_first x source []

/-- A longer run passes through its first state and through those after its first step. -/
theorem passes_cons {x : State} (first : s.step source = (.ok (i, t), source')) :
    s.Passes source (i :: instructions) x ↔ x = s ∨ t.Passes source' instructions x := by
  constructor
  · rintro ⟨completed, left, source'', hlist, hrun⟩
    cases hrun with
    | nil => exact .inl rfl
    | cons second rest =>
      obtain ⟨rfl, rfl⟩ := List.cons_eq_cons.mp hlist
      rw [first] at second
      cases second
      exact .inr ⟨_, left, source'', rfl, rest⟩
  · rintro (rfl | ⟨completed, left, source'', rfl, hrun⟩)
    · exact passes_first x source (i :: instructions)
    · exact ⟨i :: completed, left, source'', rfl, .cons first hrun⟩

/-- Addresses that are saved stay saved, in a run that never comes back to a depth at which the last
    of them is not. -/
theorem prefix_of_steps {saved : List UInt16} {address : UInt16} (hstack : s.stack.Canonical)
    (hrun : s.Steps source body u source')
    (hpasses : ∀ x, s.Passes source body x → x.stack.depth ≠ saved.length)
    (hsaved : saved ++ [address] <+: s.stack.toList) : saved ++ [address] <+: u.stack.toList := by
  induction hrun with
  | nil => exact hsaved
  | @cons s t u source source' source'' i rest first hrest ih =>
    have hnext := canonical_step hstack first
    refine ih hnext (fun x hx => hpasses x ((passes_cons first).mpr (.inr hx))) ?_
    rcases stack_cases first hstack with ⟨-, hcall⟩ | ⟨-, hret⟩ | ⟨-, -, hsame⟩
    · rw [hcall]
      exact hsaved.trans (List.prefix_append _ _)
    · rw [← hret] at hsaved
      rcases List.prefix_concat_iff.mp hsaved with hall | hfewer
      · -- The return would take back the last of the saved addresses.
        have hlist : saved = t.stack.toList := (List.append_inj' hall rfl).1
        have hdepth : t.stack.depth = saved.length := by rw [hlist, hnext.length_toList]
        have hpassed := (passes_cons first).mpr (.inr (passes_first t source' rest))
        exact absurd hdepth (hpasses t hpassed)
      · exact hfewer
    · rw [hsame]
      exact hsaved

/-! ### From a call to its return -/

/-- **Calls and returns match.**  A run of single steps comes to a call, and goes on until the depth
    of the call stack is for the first time what it was before the call.  The step that brings this
    about is a return, it goes to the address behind the call, and it leaves the call stack as it
    was before the call, slot for slot. -/
theorem Steps.matching_return {s₀ : State} {before : List Instruction}
    {source₀ source₁ source₂ source₃ : ByteSource}
    (hstart : s₀.stack.Canonical) (hbefore : s₀.Steps source₀ before s source)
    (hcall : s.step source = (.ok (i, t), source₁)) (hop : i.op = .call)
    (hbody : t.Steps source₁ body u source₂)
    (hinside : ∀ x, t.Passes source₁ body x → x.stack.depth ≠ s.stack.depth)
    (hlast : u.step source₂ = (.ok (j, v), source₃)) (hdepth : v.stack.depth = s.stack.depth) :
    j.op = .ret ∧ v.pc.toNat = s.pc.toNat + 2 ∧ v.stack = s.stack := by
  have hs : s.stack.Canonical := canonical_steps hstart hbefore
  have ht := canonical_step hs hcall
  have hu := canonical_steps ht hbody
  have hv := canonical_step hu hlast
  have hlengths := hs.length_toList
  have hlengthu := hu.length_toList
  have hlengthv := hv.length_toList
  have hsaved : t.stack.toList = s.stack.toList ++ [s.pc + 2] := by
    rcases stack_cases hcall hs with ⟨-, hlist⟩ | ⟨hret, -⟩ | ⟨hne, -⟩
    · exact hlist
    · exact nomatch hop.symm.trans hret
    · exact absurd hop hne
  -- The subroutine keeps the addresses saved before the call and the one saved by it.
  have hkept : s.stack.toList ++ [s.pc + 2] <+: u.stack.toList := by
    refine prefix_of_steps ht hbody (fun x hx => ?_) (hsaved ▸ List.prefix_refl _)
    rw [hlengths]
    exact hinside x hx
  have hlonger : s.stack.toList.length + 1 ≤ u.stack.toList.length := by
    have hle := hkept.length_le
    rwa [List.length_append, List.length_singleton] at hle
  rcases stack_cases hlast hu with ⟨-, hlist⟩ | ⟨hret, hlist⟩ | ⟨-, -, hsame⟩
  · -- A call would lead even further down.
    have hlength := congrArg List.length hlist
    rw [List.length_append, List.length_singleton] at hlength
    omega
  · have hlength : s.stack.toList.length = v.stack.toList.length := by omega
    rw [← hlist] at hkept
    have hall : s.stack.toList ++ [s.pc + 2] = v.stack.toList ++ [v.pc] :=
      hkept.eq_of_length (by simp only [List.length_append, List.length_singleton, hlength])
    obtain ⟨hstack, hpc⟩ := List.append_inj hall hlength
    have hle : s.pc.toNat ≤ 0xFFE := (step_eq_ok hcall).1
    refine ⟨hret, ?_, (hs.ext hv hstack).symm⟩
    rw [← List.singleton_inj.mp hpc]
    exact toNat_add_two (by omega)
  · -- Without touching the stack the depth stays that of the subroutine.
    rw [hsame] at hdepth
    omega

/-- A subroutine at 206 that calls another one.  The return of the inner one leads to itself, and
    the second time it is the return of the outer one. -/
theorem Steps.matching_return_nested :
    let code (k : Nat) : UInt8 :=
      if k = 0x200 then 0x22 else if k = 0x201 then 0x06 else if k = 0x206 then 0x22
      else if k = 0x207 then 0x08 else if k = 0x209 then 0xEE else 0
    let s : State := { initial {} default with memory := ⟨Vector.ofFn fun k => code k.val⟩ }
    let t : State := { s with pc := 0x206, stack := (s.stack.push 0x202).1 }
    let inner : State := { t with pc := 0x208, stack := (t.stack.push 0x208).1 }
    let u : State := { inner with stack := inner.stack.pop.1 }
    let v : State := { u with pc := 0x202, stack := u.stack.pop.1 }
    let body := [t.instruction .call, inner.instruction .ret]
    s.step .key = (.ok (s.instruction .call, t), .key) ∧
      t.Steps .key body u .key ∧
      (∀ x, t.Passes .key body x → x.stack.depth ≠ s.stack.depth) ∧
      u.step .key = (.ok (u.instruction .ret, v), .key) ∧ v.stack.depth = s.stack.depth ∧
      v.pc.toNat = s.pc.toNat + 2 ∧ v.stack = s.stack := by
  intro code s t inner u v body
  have hword (x : State) (hx : x.memory = s.memory) :
      x.word = UInt16.ofNat (256 * (code (min x.pc.toNat 0xFFF)).toNat
        + (code (min (x.pc.toNat + 1) 0xFFF)).toNat) := by
    rw [word_eq_clampedWord, clampedWord, hx]
    simp only [s, Vector.getElem_ofFn]
  have hs : s.step .key = (.ok (s.instruction .call, t), .key) := by
    have hw : s.word = 0x2206 := hword s rfl
    exact step_of_run (by decide) (by rw [hw]; decide) (by rw [hw]; rfl)
  have ht : t.step .key = (.ok (t.instruction .call, inner), .key) := by
    have hw : t.word = 0x2208 := hword t rfl
    exact step_of_run (by decide) (by rw [hw]; decide) (by rw [hw]; rfl)
  have hinner : inner.step .key = (.ok (inner.instruction .ret, u), .key) := by
    have hw : inner.word = 0x00EE := hword inner rfl
    exact step_of_run (by decide) (by rw [hw]; decide) (by rw [hw]; rfl)
  have hu : u.step .key = (.ok (u.instruction .ret, v), .key) := by
    have hw : u.word = 0x00EE := hword u rfl
    exact step_of_run (by decide) (by rw [hw]; decide) (by rw [hw]; rfl)
  have hbody : t.Steps .key body u .key := .cons ht (.cons hinner (.nil u .key))
  -- Three states are passed through, with one, two and again one address saved.
  have hinside : ∀ x, t.Passes .key body x → x.stack.depth ≠ s.stack.depth := by
    intro x hx
    rw [passes_cons ht, passes_cons hinner, passes_nil] at hx
    rcases hx with rfl | rfl | rfl <;> decide
  have hdepth : v.stack.depth = s.stack.depth := rfl
  have hmatch := Steps.matching_return CallStack.canonical_empty (.nil s .key) hs rfl hbody hinside hu
    hdepth
  exact ⟨hs, hbody, hinside, hu, hdepth, hmatch.2.1, hmatch.2.2⟩

end State

end Chip8
