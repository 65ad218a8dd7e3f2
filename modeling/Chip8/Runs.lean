namespace Chip8

/-!
# Runs

A list written as its maximal runs of equal elements.

* `runs` — the runs, each as a count and an element;
* `expand` — the list of some runs;
* `expand_runs` — the runs of a list make up that list.
-/

variable {α : Type} [DecidableEq α]

/-- The list that some runs make up. -/
def expand (rs : List (Nat × α)) : List α := rs.flatMap (fun r => List.replicate r.1 r.2)

/-- One more element after runs that are listed last to first. -/
def addToRuns (rs : List (Nat × α)) (a : α) : List (Nat × α) :=
  match rs with
  | (n, b) :: rest => if a = b then (n + 1, b) :: rest else (1, a) :: rs
  | [] => [(1, a)]

/-- The maximal runs of equal elements of a list. -/
def runs (xs : List α) : List (Nat × α) := (xs.foldl addToRuns []).reverse

/-- One more element comes last in the list that the runs make up. -/
theorem expand_reverse_addToRuns (rs : List (Nat × α)) (a : α) :
    expand (addToRuns rs a).reverse = expand rs.reverse ++ [a] := by
  cases rs with
  | nil => simp [addToRuns, expand]
  | cons r rest =>
    obtain ⟨n, b⟩ := r
    by_cases h : a = b
    · simp [addToRuns, expand, h, List.replicate_succ']
    · simp [addToRuns, expand, h]

/-- The runs of a list make up that list. -/
theorem expand_runs (xs : List α) : expand (runs xs) = xs := by
  have key : ∀ (xs : List α) (rs : List (Nat × α)),
      expand (xs.foldl addToRuns rs).reverse = expand rs.reverse ++ xs := by
    intro xs
    induction xs with
    | nil => simp
    | cons x xs ih => intro rs; simp [ih, expand_reverse_addToRuns]
  simpa [expand, runs] using key xs []

end Chip8
