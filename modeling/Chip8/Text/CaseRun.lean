namespace Chip8.Text

/-!
# Runs of letters

Letters and their forms in the other case mostly lie in step: from one letter to the next the forms
go on by the same distance.

* `CaseRun`, `CaseRun.covers_iff` — such letters and their forms;
* `CaseRun.image?` — the form of a letter in a table of runs.
-/

/-- The letters `first`, `first + step`, … up to `last`, whose forms in the other case are `target`,
    `target + step`, …. -/
structure CaseRun where
  first : Nat
  last : Nat
  step : Nat
  target : Nat

namespace CaseRun

/-- Whether a code point is one of the letters of the run. -/
def covers (run : CaseRun) (c : Nat) : Bool :=
  decide (run.first ≤ c) && decide (c ≤ run.last) && (c - run.first) % run.step == 0

/-- The letters of a run are reached from the first one in whole steps. -/
theorem covers_iff {run : CaseRun} {c : Nat} :
    run.covers c = true ↔ ∃ k, c = run.first + k * run.step ∧ c ≤ run.last := by
  simp only [covers, Bool.and_eq_true, decide_eq_true_eq, beq_iff_eq]
  constructor
  · rintro ⟨⟨h₀, h₁⟩, hmod⟩
    refine ⟨(c - run.first) / run.step, ?_, h₁⟩
    rw [Nat.div_mul_cancel (Nat.dvd_of_mod_eq_zero hmod)]
    omega
  · rintro ⟨k, rfl, h₁⟩
    exact ⟨⟨by omega, h₁⟩, by simp⟩

/-- The form of a letter of the run. -/
def image (run : CaseRun) (c : Nat) : Nat := run.target + (c - run.first)

/-- The first letter of a run has the first form. -/
@[simp] theorem image_first (run : CaseRun) : run.image run.first = run.target := by
  simp [image]

/-- The form of a letter in the first run of a table that covers it. -/
def image? (runs : List CaseRun) (c : Nat) : Option Nat :=
  (runs.find? (fun run => run.covers c)).map (·.image c)

end CaseRun

end Chip8.Text
