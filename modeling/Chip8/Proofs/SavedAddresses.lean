import Chip8.CallStack

namespace Chip8

/-!
# Saved addresses

A call stack stands for the list of the addresses that are saved on it.  As long as its free slots
are zero, the list says everything about the stack.

* `CallStack.Canonical` — the depth is in range and the free slots are zero;
* `CallStack.Tidy` — besides, the addresses in use are ones that a call can save;
* `toList_push`, `toList_pop` — saving appends an address to the list, and taking back removes the
  last one;
* `getLast?_toList` — which is the one that is taken back, at every depth that a host can set;
* `Canonical.push`, `Canonical.pop` — both keep the free slots zero;
* `Canonical.ext` — two stacks with the same saved addresses are the same, slot for slot.
-/

namespace CallStack

/-- The depth is in range and the slots that are not in use are zero. -/
structure Canonical (s : CallStack) : Prop where
  depth_nonneg : 0 ≤ s.depth
  depth_le : s.depth ≤ 16
  free : ∀ k : Fin 16, s.depth ≤ k.val → s.slots[k] = 0

/-- Addresses that a call can save: those behind a word inside memory. -/
def Saveable (address : UInt16) : Prop := 2 ≤ address.toNat ∧ address.toNat ≤ 0x1000

/-- The depth is in range, the slots in use hold addresses that a call can save, and the others are
    zero. -/
structure Tidy (s : CallStack) : Prop where
  depth_nonneg : 0 ≤ s.depth
  depth_le : s.depth ≤ 16
  saved : ∀ k : Fin 16, k.val < s.depth → Saveable s.slots[k]
  free : ∀ k : Fin 16, s.depth ≤ k.val → s.slots[k] = 0

variable {s t : CallStack}

/-- The empty stack is canonical. -/
theorem canonical_empty : empty.Canonical where
  depth_nonneg := Int.le_refl 0
  depth_le := by decide
  free k _ := by simp [empty]

/-! ### The list of a stack -/

/-- The depth is the number of saved addresses. -/
theorem Canonical.length_toList (h : s.Canonical) : (s.toList.length : Int) = s.depth := by
  have h₀ := h.depth_nonneg
  have h₁ := h.depth_le
  rw [toList, List.length_take, Vector.length_toList]
  omega

/-- The addresses saved on a stack are in its first slots. -/
theorem getElem?_toList (s : CallStack) (k : Fin 16) :
    s.toList[k.val]? = if (k.val : Int) < s.depth then some (s.slots.get k) else none := by
  have hslot : s.slots.toList[k.val]? = some (s.slots.get k) := by
    rw [Vector.getElem?_toList, Vector.getElem?_eq_getElem k.isLt]
    rfl
  have hlt : k.val < s.depth.toNat ↔ (k.val : Int) < s.depth := by omega
  rw [toList, List.getElem?_take, hslot]
  simp only [hlt]

/-- A full stack takes no address. -/
theorem push_of_full (h : 16 ≤ s.depth) (address : UInt16) : s.push address = (s, true) := if_pos h

/-- An empty stack stays as it is. -/
theorem pop_of_empty (h : s.depth ≤ 0) : s.pop.1 = s := by
  rw [pop, if_pos h]

/-- Saving an address on a stack that is not full appends it to the list. -/
theorem toList_push (h₀ : 0 ≤ s.depth) (h₁ : s.depth < 16) (address : UInt16) :
    (s.push address).1.toList = s.toList ++ [address] := by
  have hnew : (s.push address).1 = ⟨s.slots.setIfInBounds s.depth.toNat address, s.depth + 1⟩ := by
    have hfree : ¬ (stackSize : Int) ≤ s.depth := Int.not_le.mpr h₁
    rw [push, if_neg hfree, setSlot_of_nonneg s.slots h₀]
  have hdepth : (s.depth + 1).toNat = s.depth.toNat + 1 := by omega
  have hlength : s.depth.toNat < (s.slots.toList.set s.depth.toNat address).length := by
    rw [List.length_set, Vector.length_toList]
    omega
  rw [hnew, toList, Vector.toList_setIfInBounds, hdepth, ← List.take_append_getElem hlength,
    List.take_set_of_le (Nat.le_refl _), List.getElem_set_self]
  rfl

/-- Taking an address back from a stack that is not empty removes it from the end of the list. -/
theorem toList_pop (h₀ : 0 < s.depth) (h₁ : s.depth ≤ 16) :
    s.pop.1.toList ++ [s.pop.2.1] = s.toList := by
  have htop := top_of_pos h₀ h₁
  have hnew : s.pop = (⟨s.slots.setIfInBounds s.top 0, s.depth - 1⟩, s.slots[min s.top 15], false) := by
    rw [pop, if_neg (Int.not_le.mpr h₀)]
  have hdepth : (s.depth - 1).toNat = s.top := by omega
  have hlength : s.top < s.slots.toList.length := by
    rw [Vector.length_toList]
    omega
  have haddress : s.slots[min s.top 15] = s.slots.toList[s.top] := by
    have hmin : min s.top 15 = s.top := by omega
    simp only [hmin, Vector.getElem_toList]
  have hlist : s.toList = s.slots.toList.take (s.top + 1) := by
    rw [toList]
    congr 1
    omega
  rw [hnew, toList, Vector.toList_setIfInBounds, hdepth, List.take_set_of_le (Nat.le_refl _), haddress,
    List.take_append_getElem hlength, hlist]

/-- The address that is taken back from a stack that is not empty is the last of the list. -/
theorem getLast?_toList (h₀ : 0 < s.depth) (h : fits32 s.depth = true) :
    s.toList.getLast? = some s.pop.2.1 := by
  have htop := top_of_fits h₀ h
  have hpop : s.pop.2.1 = s.slots[min s.top 15] := by
    rw [pop, if_neg (Int.not_le.mpr h₀)]
  have hlength : s.toList.length - 1 = min s.top 15 := by
    rw [toList, List.length_take, Vector.length_toList]
    omega
  rw [List.getLast?_eq_getElem?, hlength, hpop, toList, List.getElem?_take_of_lt (by omega),
    Vector.getElem?_toList, Vector.getElem?_eq_getElem (by omega)]

/-! ### Canonical stacks -/

/-- Saving an address keeps a stack canonical. -/
theorem Canonical.push (h : s.Canonical) (address : UInt16) : (s.push address).1.Canonical := by
  have h₀ := h.depth_nonneg
  by_cases hfull : (stackSize : Int) ≤ s.depth
  · rw [push_of_full hfull]
    exact h
  · rw [CallStack.push, if_neg hfull, setSlot_of_nonneg s.slots h₀]
    have hdepth : s.depth < 16 := Int.lt_of_not_ge hfull
    refine ⟨Int.le_add_one h₀, hdepth, fun k hk => ?_⟩
    -- The slot that is written is in use from now on.
    simp only at hk
    rw [Fin.getElem_fin, Vector.getElem_setIfInBounds k.isLt, if_neg (by omega)]
    exact h.free k (by omega)

/-- Taking an address back keeps a stack canonical. -/
theorem Canonical.pop (h : s.Canonical) : s.pop.1.Canonical := by
  by_cases hempty : s.depth ≤ 0
  · rw [pop_of_empty hempty]
    exact h
  · rw [CallStack.pop, if_neg hempty]
    have h₁ := h.depth_le
    have htop := top_of_pos (Int.lt_of_not_ge hempty) h₁
    refine ⟨by simp only; omega, by simp only; omega, fun k hk => ?_⟩
    -- The slot that is no longer in use is the one that is cleared.
    simp only at hk
    rw [Fin.getElem_fin, Vector.getElem_setIfInBounds k.isLt]
    split
    · rfl
    · exact h.free k (by omega)

/-- Two canonical stacks with the same saved addresses are the same. -/
theorem Canonical.ext (hs : s.Canonical) (ht : t.Canonical) (h : s.toList = t.toList) : s = t := by
  have hdepth : s.depth = t.depth := by
    rw [← hs.length_toList, ← ht.length_toList, h]
  have hslots : s.slots = t.slots := by
    apply Vector.ext
    intro k hk
    have hget : s.toList[k]? = t.toList[k]? := by rw [h]
    have hsaved := (getElem?_toList s ⟨k, hk⟩).symm.trans (hget.trans (getElem?_toList t ⟨k, hk⟩))
    by_cases hlt : (k : Int) < s.depth
    · rw [if_pos hlt, if_pos (hdepth ▸ hlt)] at hsaved
      exact Option.some.inj hsaved
    · have hs₀ := hs.free ⟨k, hk⟩ (Int.not_lt.mp hlt)
      have ht₀ := ht.free ⟨k, hk⟩ (hdepth ▸ Int.not_lt.mp hlt)
      exact hs₀.trans ht₀.symm
  cases s
  cases t
  cases hslots
  cases hdepth
  rfl

end CallStack

end Chip8
