import Chip8.Log
import Mathlib.Data.List.Forall2

namespace Chip8

/-!
# What a logger prints

* `Level.read_name` — levels have names by which they are read;
* `Clock.Readable` — all readings of a clock are numbers;
* `Logger.Prints`, `emitAll_of_readable` — with such a clock, a logger prints one line for each
  event that it admits, in their order.
-/

/-- A level is read by its name. -/
theorem Level.read_name (level : Level) : Level.read level.name = .ok level := by
  have hupper : Text.upper level.name = level.name := by cases level <;> decide +kernel
  rw [read, hupper, ofName?_name]

/-- All readings of the clock are numbers. -/
def Clock.Readable (c : Clock) : Prop := ∀ reading ∈ c.next :: c.later, ∃ t, reading.seconds = .ok t

/-- A clock that stands still at a time. -/
theorem Clock.readable_of_float (t : Float) : Clock.Readable ⟨.float t, []⟩ := by
  intro reading hreading
  rw [List.mem_singleton.mp hreading]
  exact ⟨t, rfl⟩

/-- Such a clock can be read, and again afterwards. -/
theorem Clock.Readable.read {c : Clock} (h : c.Readable) :
    ∃ t rest, c.read = (.ok t, rest) ∧ rest.Readable := by
  obtain ⟨next, later⟩ := c
  obtain ⟨t, ht⟩ := h next List.mem_cons_self
  cases later with
  | nil => exact ⟨t, ⟨next, []⟩, by rw [Clock.read, ht], h⟩
  | cons other rest =>
    refine ⟨t, ⟨other, rest⟩, by rw [Clock.read, ht], ?_⟩
    intro reading hreading
    exact h reading (.tail next hreading)

namespace Logger

/-- The lines are those of the events that the logger admits, in their order, each with some
    time. -/
def Prints (l : Logger) (events : List Event) (lines : List String) : Prop :=
  List.Forall₂ (fun event line => ∃ now, line = l.line now event.level.name event.text)
    (events.filter fun event => l.admits event.level.name) lines

/-- A logger prints what it admits. -/
theorem emitAll_of_readable (l : Logger) {clock : Clock} (h : clock.Readable) (events : List Event) :
    ∃ lines, l.emitAll clock events = .ok lines ∧ l.Prints events lines := by
  -- A printed line may take a reading, after which the clock is as good as before.
  induction events generalizing clock with
  | nil => exact ⟨[], rfl, .nil⟩
  | cons event rest ih =>
    by_cases hadmits : l.admits event.level.name = true
    · have hfirst : ∃ now clock', l.emit clock event.level.name event.text =
          (.ok (some (l.line now event.level.name event.text)), clock') ∧ clock'.Readable := by
        rw [emit, if_pos hadmits]
        split
        · obtain ⟨t, clock', hread, hclock'⟩ := h.read
          rw [hread]
          exact ⟨t, clock', rfl, hclock'⟩
        · exact ⟨l.start, clock, rfl, h⟩
      obtain ⟨now, clock', hemit, hclock'⟩ := hfirst
      obtain ⟨lines, hlines, hprints⟩ := ih hclock'
      refine ⟨l.line now event.level.name event.text :: lines, ?_, ?_⟩
      · rw [emitAll, hemit]
        simp only [hlines]
        rfl
      · have hfilter := List.filter_cons_of_pos (l := rest)
          (p := fun event : Event => l.admits event.level.name) hadmits
        rw [Prints, hfilter]
        exact .cons ⟨now, rfl⟩ hprints
    · obtain ⟨lines, hlines, hprints⟩ := ih h
      refine ⟨lines, ?_, ?_⟩
      · rw [emitAll, emit, if_neg hadmits]
        simp only [hlines]
        rfl
      · have hfilter := List.filter_cons_of_neg (l := rest)
          (p := fun event : Event => l.admits event.level.name) hadmits
        rw [Prints, hfilter]
        exact hprints

end Logger

end Chip8
