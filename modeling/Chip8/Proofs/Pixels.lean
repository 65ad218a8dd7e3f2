import Chip8.Screen
import Mathlib.Algebra.BigOperators.Fin
import Mathlib.Data.Fintype.BigOperators

namespace Chip8

/-!
# Pixels

Screens laid over each other, taken apart into single pixels.

* `xor_right_comm`, `xor_xor_self`, `foldl_xor_twice` — laying screens over each other does not
  depend on the order, and doing it twice undoes it;
* `Screen.toggleAll` — pixels toggled one after the other;
* `toggleAll_eq` — toggling the pixels of a screen, each of them once and in any order, lays that
  screen over the one they are toggled on;
* `lit_toggle`, `lit_toggleAll` — how the number of lit pixels changes.
-/

/-- A pixel by its column and its row. -/
abbrev Pixel : Type := Fin 64 × Fin 32

namespace Screen

/-! ### Screens laid over each other -/

/-- The order of two screens that are laid over a third makes no difference. -/
theorem xor_right_comm (s t u : Screen) : (s.xor t).xor u = (s.xor u).xor t := by
  apply ext_pixel
  intro x y
  simp only [pixel_xor, Bool.xor_assoc, Bool.xor_comm (t.pixel x y)]

instance : RightCommutative Screen.xor := ⟨xor_right_comm⟩

/-- What is laid over a screen twice is gone. -/
theorem xor_xor_self (s t : Screen) : (s.xor t).xor t = s := by
  apply ext_pixel
  intro x y
  simp

/-- It does not matter whether a screen is laid over the others first or last. -/
theorem foldl_xor_xor (s t : Screen) (screens : List Screen) :
    screens.foldl Screen.xor (s.xor t) = (screens.foldl Screen.xor s).xor t := by
  induction screens generalizing s with
  | nil => rfl
  | cons u rest ih =>
    simp only [List.foldl_cons]
    rw [xor_right_comm, ih]

/-- Screens that are laid over another one, and then all of them once more, are gone. -/
theorem foldl_xor_twice (s : Screen) (screens : List Screen) :
    screens.foldl Screen.xor (screens.foldl Screen.xor s) = s := by
  induction screens generalizing s with
  | nil => rfl
  | cons t rest ih =>
    simp only [List.foldl_cons]
    rw [← foldl_xor_xor, xor_xor_self, ih]

/-! ### Toggling one pixel after the other -/

/-- The screen after some pixels are toggled one after the other, and whether one of them was lit
    when its turn came. -/
def toggleAll (s : Screen) : List Pixel → Screen × Bool
  | [] => (s, false)
  | p :: rest =>
    let (t, dark) := (s.toggle p.1 p.2).toggleAll rest
    (t, s.pixel p.1 p.2 || dark)

section

variable {s t : Screen} {p q : Pixel} {pixels : List Pixel}

/-- A pixel that is not toggled stays. -/
theorem pixel_toggle_of_ne (h : q ≠ p) : (s.toggle p.1 p.2).pixel q.1 q.2 = s.pixel q.1 q.2 := by
  have hne : ¬ (q.1 = p.1 ∧ q.2 = p.2) := fun heq => h (Prod.ext heq.1 heq.2)
  simp [pixel_toggle, hne]

/-- Pixels that are toggled once become their opposites, the others stay. -/
theorem pixel_toggleAll (h : pixels.Nodup) (q : Pixel) :
    (s.toggleAll pixels).1.pixel q.1 q.2 = (s.pixel q.1 q.2 ^^ decide (q ∈ pixels)) := by
  induction pixels generalizing s with
  | nil => simp [toggleAll]
  | cons p rest ih =>
    obtain ⟨hp, hrest⟩ := List.nodup_cons.mp h
    show ((s.toggle p.1 p.2).toggleAll rest).1.pixel q.1 q.2 = _
    rw [ih hrest]
    by_cases hq : q = p
    · subst hq
      simp [pixel_toggle, hp]
    · simp [pixel_toggle_of_ne hq, hq]

/-- The pixels whose turns are still to come do not change before. -/
theorem pixel_toggle_of_mem {rest : List Pixel} (hp : p ∉ rest) (hq : q ∈ rest) :
    (s.toggle p.1 p.2).pixel q.1 q.2 = s.pixel q.1 q.2 := by
  apply pixel_toggle_of_ne
  rintro rfl
  exact hp hq

/-- One of some different pixels is lit when its turn comes exactly when it is lit from the
    start. -/
theorem dark_toggleAll_iff (h : pixels.Nodup) :
    (s.toggleAll pixels).2 = true ↔ ∃ p ∈ pixels, s.pixel p.1 p.2 = true := by
  induction pixels generalizing s with
  | nil => simp [toggleAll]
  | cons p rest ih =>
    obtain ⟨hp, hrest⟩ := List.nodup_cons.mp h
    show (s.pixel p.1 p.2 || ((s.toggle p.1 p.2).toggleAll rest).2) = true ↔ _
    rw [Bool.or_eq_true, ih hrest, List.exists_mem_cons_iff]
    apply or_congr_right
    constructor
    · rintro ⟨q, hq, hlit⟩
      exact ⟨q, hq, (pixel_toggle_of_mem hp hq).symm.trans hlit⟩
    · rintro ⟨q, hq, hlit⟩
      exact ⟨q, hq, (pixel_toggle_of_mem hp hq).trans hlit⟩

/-- Toggling all pixels of a screen, each of them once and in any order, lays this screen over the
    one they are toggled on.  One of them was lit exactly when the two screens meet. -/
theorem toggleAll_eq (h : pixels.Nodup) (hmem : ∀ p, p ∈ pixels ↔ t.pixel p.1 p.2 = true) :
    s.toggleAll pixels = (s.xor t, s.meets t) := by
  apply Prod.ext
  · apply ext_pixel
    intro x y
    have hpixel := pixel_toggleAll (s := s) h (x, y)
    simp only [hmem] at hpixel
    rw [hpixel]
    simp
  · show (s.toggleAll pixels).2 = s.meets t
    rw [Bool.eq_iff_iff, dark_toggleAll_iff h, meets_iff]
    constructor
    · rintro ⟨p, hp, hlit⟩
      exact ⟨p.1, p.2, hlit, (hmem p).mp hp⟩
    · rintro ⟨x, y, hs, ht⟩
      exact ⟨(x, y), (hmem (x, y)).mpr ht, hs⟩

/-! ### Counting lit pixels -/

/-- The number of lit pixels as a sum over all pixels. -/
theorem lit_eq_sum (s : Screen) : s.lit = ∑ p : Pixel, (s.pixel p.1 p.2).toNat := by
  have hrow (y : Fin 32) : s.litInRow y = ∑ x : Fin 64, (s.pixel x y).toNat := by
    rw [litInRow, Fin.sum_univ_def]
    generalize List.finRange 64 = columns
    induction columns with
    | nil => rfl
    | cons x rest ih => cases hx : s.pixel x y <;> simp [hx, ih, Nat.add_comm]
  have hlit : s.lit = ∑ y : Fin 32, s.litInRow y := by
    rw [Fin.sum_univ_def]
    rfl
  rw [hlit, Fintype.sum_prod_type_right]
  exact Fintype.sum_congr _ _ hrow

/-- Two sums whose terms differ in one place differ by what they have there. -/
theorem sum_add_of_ne {ι : Type} [Fintype ι] [DecidableEq ι] {f g : ι → Nat} {p : ι}
    (h : ∀ q, q ≠ p → f q = g q) : ∑ q, f q + g p = ∑ q, g q + f p := by
  have hothers : ∑ q ∈ Finset.univ.erase p, f q = ∑ q ∈ Finset.univ.erase p, g q := by
    apply Finset.sum_congr rfl
    intro q hq
    exact h q (Finset.ne_of_mem_erase hq)
  rw [← Finset.add_sum_erase Finset.univ f (Finset.mem_univ p),
    ← Finset.add_sum_erase Finset.univ g (Finset.mem_univ p), hothers]
  omega

/-- A pixel that is toggled is lit afterwards or was lit before, and all others count as before. -/
theorem lit_toggle (s : Screen) (p : Pixel) :
    (s.toggle p.1 p.2).lit + 2 * (s.pixel p.1 p.2).toNat = s.lit + 1 := by
  have hothers (q : Pixel) (hq : q ≠ p) :
      ((s.toggle p.1 p.2).pixel q.1 q.2).toNat = (s.pixel q.1 q.2).toNat := by
    rw [pixel_toggle_of_ne hq]
  have hsum := sum_add_of_ne hothers
  rw [← lit_eq_sum, ← lit_eq_sum] at hsum
  cases hp : s.pixel p.1 p.2 <;> simp [pixel_toggle, hp] at hsum ⊢ <;> omega

/-- Pixels that are toggled once are lit afterwards or were lit before, and all others count as
    before. -/
theorem lit_toggleAll (h : pixels.Nodup) :
    (s.toggleAll pixels).1.lit + 2 * pixels.countP (fun p => s.pixel p.1 p.2) =
      s.lit + pixels.length := by
  induction pixels generalizing s with
  | nil => rfl
  | cons p rest ih =>
    obtain ⟨hp, hrest⟩ := List.nodup_cons.mp h
    have hcount : rest.countP (fun q => (s.toggle p.1 p.2).pixel q.1 q.2) =
        rest.countP (fun q => s.pixel q.1 q.2) := by
      apply List.countP_congr
      intro q hq
      rw [pixel_toggle_of_mem hp hq]
    have hfirst := lit_toggle s p
    have hlater := ih (s := s.toggle p.1 p.2) hrest
    rw [hcount] at hlater
    show ((s.toggle p.1 p.2).toggleAll rest).1.lit + _ = _
    rw [List.countP_cons, List.length_cons]
    cases hlit : s.pixel p.1 p.2 <;> simp [hlit] at hfirst ⊢ <;> omega

end

end Screen

end Chip8
