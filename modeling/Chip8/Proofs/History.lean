import Chip8.Proofs.Frame

namespace Chip8

/-!
# Histories

What a host does to a machine over time, one operation after the other, each on the machine that the
one before left.

* `Machine.Leads` — the machines to which operations of some kind lead;
* `Leads.keeps` — what each of these operations keeps holds at the end;
* `Leads.after` — several operations in a row go on with a history.
-/

namespace Machine

variable {allowed : Command → Prop} {m t : Machine}

/-- The machines that a host can bring about from `m` by allowed operations, whether they succeed or
    fail.  If all frames are allowed, one may also be asked for by a value of any kind. -/
inductive Leads (allowed : Command → Prop) (m : Machine) : Machine → Prop
  | refl : Leads allowed m m
  | perform {t : Machine} (h : Leads allowed m t) (command : Command) (hallowed : allowed command) :
      Leads allowed m (t.perform command).machine
  | frameFor {t : Machine} (h : Leads allowed m t) (description count : Value)
      (hframes : ∀ n, allowed (.frame n)) : Leads allowed m (t.frameFor description count).machine

/-- What every allowed operation keeps holds after a history if it holds before. -/
theorem Leads.keeps {P : Machine → Prop} (h : m.Leads allowed t) (hm : P m)
    (hkeeps : ∀ u command, P u → allowed command → P (u.perform command).machine) : P t := by
  induction h with
  | refl => exact hm
  | perform _ command hallowed ih => exact hkeeps _ command ih hallowed
  | @frameFor u _ description count hframes ih =>
    -- Whatever the host has asked for, it was refused or it was a frame.
    rcases frameFor_cases u description count with ⟨refusal, -, hframe⟩ | ⟨n, hframe⟩
    · rw [hframe]
      exact ih
    · rw [hframe]
      exact hkeeps u (.frame n) ih (hframes n)

/-- A history goes on with several allowed operations in a row. -/
theorem Leads.after (h : m.Leads allowed t) {commands : List Command}
    (hallowed : ∀ command ∈ commands, allowed command) : m.Leads allowed (t.after commands) := by
  induction commands generalizing t with
  | nil => exact h
  | cons command rest ih =>
    have hfirst : allowed command := hallowed command List.mem_cons_self
    apply ih (h.perform command hfirst)
    intro other hother
    exact hallowed other (List.mem_cons_of_mem command hother)

end Machine

end Chip8
