import Chip8.Proofs.SavedAddresses

namespace Chip8

/-!
# Call stacks as bounded lists

Whatever a call stack is put to, it answers as a list of at most sixteen addresses would, and this
list says all about its slots.

* `CallStack.Use`, `CallStack.useAll` — what is done to a call stack, and what comes of it;
* `listUse`, `listUseAll` — the same done to a list that takes no more than sixteen addresses;
* `use_eq_listUse`, `useAll_eq_listUseAll` — one use and any number of them, on a canonical stack
  and on its list;
* `Canonical.pop_push`, `Canonical.push_pop` — a pop undoes a push, and a push undoes a pop, slot
  for slot;
* `useAll_bounded_list` — the law of a stack that was empty at first.
-/

namespace CallStack

/-! ### Uses -/

/-- What is done to a call stack. -/
inductive Use
  | push (address : UInt16)
  | pop

/-- What a call stack answers. -/
inductive Report
  /-- Whether there was no room for the address. -/
  | pushed (overflow : Bool)
  /-- The address taken back, and whether there was none. -/
  | popped (address : UInt16) (underflow : Bool)
deriving DecidableEq

/-- One use of a call stack. -/
def use (s : CallStack) : Use → CallStack × Report
  | .push address => ((s.push address).1, .pushed (s.push address).2)
  | .pop => (s.pop.1, .popped s.pop.2.1 s.pop.2.2)

/-- Uses one after the other, and what the stack answers to each of them. -/
def useAll (s : CallStack) : List Use → CallStack × List Report
  | [] => (s, [])
  | first :: rest =>
    let others := (s.use first).1.useAll rest
    (others.1, (s.use first).2 :: others.2)

/-- A list of addresses put to the same use.  It grows and shrinks at its end and takes no more than
    sixteen addresses.  When there is none to take back, it answers zero. -/
def listUse (saved : List UInt16) : Use → List UInt16 × Report
  | .push address =>
    if saved.length < stackSize then (saved ++ [address], .pushed false) else (saved, .pushed true)
  | .pop =>
    match saved.getLast? with
    | some address => (saved.dropLast, .popped address false)
    | none => (saved, .popped 0 true)

/-- A list of addresses put to several uses. -/
def listUseAll (saved : List UInt16) : List Use → List UInt16 × List Report
  | [] => (saved, [])
  | first :: rest =>
    let others := listUseAll (listUse saved first).1 rest
    (others.1, (listUse saved first).2 :: others.2)

variable {s : CallStack}

/-! ### One use -/

/-- A stack with a free slot reports no overflow. -/
theorem push_report_of_lt (h : s.depth < 16) (address : UInt16) : (s.push address).2 = false := by
  rw [Bool.eq_false_iff, ne_eq, push_overflow_iff]
  omega

/-- A stack in use reports no underflow. -/
theorem pop_report_of_pos (h : 0 < s.depth) : s.pop.2.2 = false := by
  rw [Bool.eq_false_iff, ne_eq, pop_underflow_iff]
  omega

/-- A canonical stack without addresses stays as it is and answers zero. -/
theorem Canonical.pop_of_nil (h : s.Canonical) (hempty : s.depth = 0) : s.pop = (s, 0, true) := by
  have htop : s.top = 0 := by
    rw [top, hempty]
    rfl
  have hslot : s.slots[0] = 0 := h.free 0 (by simp [hempty])
  rw [CallStack.pop, if_pos (by omega)]
  simp only [htop, Nat.zero_min, hslot]

/-- A canonical stack has a free slot exactly when its list has room. -/
theorem Canonical.depth_lt_iff (h : s.Canonical) : s.depth < 16 ↔ s.toList.length < stackSize := by
  have hlength := h.length_toList
  unfold stackSize
  omega

/-- A stack and its list answer alike, and they still belong together afterwards. -/
theorem use_eq_listUse (h : s.Canonical) (u : Use) :
    (s.use u).1.Canonical ∧ (s.use u).1.toList = (listUse s.toList u).1 ∧
      (s.use u).2 = (listUse s.toList u).2 := by
  cases u with
  | push address =>
    refine ⟨h.push address, ?_⟩
    by_cases hfree : s.depth < 16
    · have hroom := h.depth_lt_iff.mp hfree
      simp only [use, listUse, if_pos hroom, push_report_of_lt hfree, toList_push h.depth_nonneg hfree,
        and_self]
    · -- A full stack is left alone, and so is its list.
      have hroom : ¬ s.toList.length < stackSize := fun hroom => hfree (h.depth_lt_iff.mpr hroom)
      simp only [use, listUse, if_neg hroom, push_of_full (Int.not_lt.mp hfree), and_self]
  | pop =>
    refine ⟨h.pop, ?_⟩
    rcases Int.lt_or_eq_of_le h.depth_nonneg with hpos | hempty
    · -- The list ends with the address that is taken back.
      simp only [use, listUse, ← toList_pop hpos h.depth_le, pop_report_of_pos hpos,
        List.getLast?_concat, List.dropLast_concat, and_self]
    · have hlength := h.length_toList
      have hnil : s.toList = [] := List.length_eq_zero_iff.mp (by omega)
      simp only [use, listUse, h.pop_of_nil hempty.symm, hnil, List.getLast?_nil, and_self]

/-- A list keeps within its bound. -/
theorem length_listUse_le {saved : List UInt16} (h : saved.length ≤ stackSize) (u : Use) :
    (listUse saved u).1.length ≤ stackSize := by
  cases u with
  | push address =>
    simp only [listUse]
    split
    · rw [List.length_append, List.length_singleton]
      omega
    · exact h
  | pop =>
    simp only [listUse]
    split
    · rw [List.length_dropLast]
      omega
    · exact h

/-! ### Undoing -/

/-- Taking an address back undoes saving it. -/
theorem Canonical.pop_push (h : s.Canonical) (hfree : s.depth < 16) (address : UInt16) :
    (s.push address).1.pop = (s, address, false) := by
  have hnext := h.push address
  have hlist := toList_push h.depth_nonneg hfree address
  have hlength := hnext.length_toList
  rw [hlist, List.length_append, List.length_singleton] at hlength
  have hpos : 0 < (s.push address).1.depth := by omega
  obtain ⟨hsame, haddress⟩ := List.append_inj' ((toList_pop hpos hnext.depth_le).trans hlist) rfl
  -- The lists are the same, and so are the stacks, because their free slots are zero.
  have hstack : (s.push address).1.pop.1 = s := hnext.pop.ext h hsame
  exact Prod.ext hstack (Prod.ext (List.singleton_inj.mp haddress) (pop_report_of_pos hpos))

/-- Saving an address that was taken back undoes taking it back. -/
theorem Canonical.push_pop (h : s.Canonical) (hpos : 0 < s.depth) :
    s.pop.1.push s.pop.2.1 = (s, false) := by
  have hlist := toList_pop hpos h.depth_le
  have hlength := h.length_toList
  rw [← hlist, List.length_append, List.length_singleton, Int.natCast_add, h.pop.length_toList] at hlength
  have hfree : s.pop.1.depth < 16 := by
    have hle := h.depth_le
    omega
  have hsame := (toList_push h.pop.depth_nonneg hfree s.pop.2.1).trans hlist
  exact Prod.ext ((h.pop.push _).ext h hsame) (push_report_of_lt hfree _)

/-! ### Several uses -/

/-- A stack and its list answer alike to any number of uses. -/
theorem useAll_eq_listUseAll (h : s.Canonical) (uses : List Use) :
    (s.useAll uses).1.Canonical ∧ (s.useAll uses).1.toList = (listUseAll s.toList uses).1 ∧
      (s.useAll uses).2 = (listUseAll s.toList uses).2 := by
  induction uses generalizing s with
  | nil => exact ⟨h, rfl, rfl⟩
  | cons first rest ih =>
    obtain ⟨hnext, hlist, hreport⟩ := use_eq_listUse h first
    obtain ⟨hlast, hlists, hreports⟩ := ih hnext
    rw [hlist] at hlists hreports
    refine ⟨hlast, hlists, ?_⟩
    show (s.use first).2 :: _ = (listUse s.toList first).2 :: _
    rw [hreport, hreports]

/-- A list stays within its bound over any number of uses. -/
theorem length_listUseAll_le {saved : List UInt16} (h : saved.length ≤ stackSize) (uses : List Use) :
    (listUseAll saved uses).1.length ≤ stackSize := by
  induction uses generalizing saved with
  | nil => exact h
  | cons first rest ih => exact ih (length_listUse_le h first)

/-- **A call stack is a bounded list.**  Put an empty stack to any uses.  It answers to each of them
    as a list of at most sixteen addresses does, and it holds this list: whatever other uses lead to
    the same list lead to the same slots and the same depth.  As long as the list has room, a
    further address is appended to it, and a pop then gives back the address and the stack as it
    was; a full stack reports an overflow and stays as it is, slot for slot.  If the list has a last
    address, a pop removes and returns it, and pushing it back restores the stack; an empty stack
    reports an underflow and stays as it is. -/
theorem useAll_bounded_list (uses : List Use) :
    let s := (empty.useAll uses).1
    let saved := (listUseAll [] uses).1
    (empty.useAll uses).2 = (listUseAll [] uses).2 ∧
      s.toList = saved ∧ saved.length ≤ 16 ∧ s.depth = saved.length ∧
      (∀ others, (listUseAll [] others).1 = saved → (empty.useAll others).1 = s) ∧
      (∀ address,
        (saved.length < 16 →
          (s.push address).1.toList = saved ++ [address] ∧ (s.push address).2 = false ∧
            (s.push address).1.pop = (s, address, false)) ∧
        (saved.length = 16 → s.push address = (s, true))) ∧
      (∀ rest address, saved = rest ++ [address] →
        s.pop.1.toList = rest ∧ s.pop.2 = (address, false) ∧ s.pop.1.push address = (s, false)) ∧
      (saved = [] → s.pop = (s, 0, true)) := by
  intro s saved
  have hempty : empty.toList = [] := rfl
  obtain ⟨hcanonical, hlist, hreports⟩ := useAll_eq_listUseAll canonical_empty uses
  rw [hempty] at hlist hreports
  have hnone : ([] : List UInt16).length ≤ stackSize := Nat.zero_le stackSize
  have hle : saved.length ≤ 16 := length_listUseAll_le hnone uses
  have hdepth : s.depth = saved.length := by
    show (empty.useAll uses).1.depth = ((listUseAll [] uses).1.length : Int)
    rw [← hlist, hcanonical.length_toList]
  refine ⟨hreports, hlist, hle, hdepth, fun others hsame => ?_, fun address => ⟨fun hroom => ?_, ?_⟩, ?_,
    fun hnil => ?_⟩
  · -- Both stacks are canonical, so that the list decides about the slots.
    obtain ⟨hother, hlist', -⟩ := useAll_eq_listUseAll canonical_empty others
    rw [hempty, hsame] at hlist'
    exact hother.ext hcanonical (hlist'.trans hlist.symm)
  · have hfree : s.depth < 16 := by omega
    have hpush := toList_push hcanonical.depth_nonneg hfree address
    rw [hlist] at hpush
    exact ⟨hpush, push_report_of_lt hfree address, hcanonical.pop_push hfree address⟩
  · intro hfull
    exact push_of_full (by omega) address
  · intro rest address hsaved
    have hpos : 0 < s.depth := by
      rw [hdepth, hsaved, List.length_append, List.length_singleton]
      omega
    have hback := (toList_pop hpos hcanonical.depth_le).trans (hlist.trans hsaved)
    obtain ⟨hrest, haddress⟩ := List.append_inj' hback rfl
    have haddress := List.singleton_inj.mp haddress
    have hpush := hcanonical.push_pop hpos
    rw [haddress] at hpush
    exact ⟨hrest, Prod.ext haddress (pop_report_of_pos hpos), hpush⟩
  · apply hcanonical.pop_of_nil
    rw [hdepth, hnil]
    rfl

end CallStack

end Chip8
