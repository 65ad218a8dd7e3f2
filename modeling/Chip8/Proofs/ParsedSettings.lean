import Chip8.CommandLine.Arguments

namespace Chip8.CommandLine

open Chip8.Text

/-!
# Settings of a command line

What a command line that is accepted sets: counts that are not negative, keys that are digits, and
names that are among those on offer.

* `Settings.Offered` — the names are on offer, which every word of a command line keeps;
* `Settings.Sensible`, `sensible_of_parse` — the settings of an accepted command line;
* `parse_frames` — a count of frames in decimal digits is accepted.
-/

/-! ### Names on offer -/

/-- The names of the dialect and of the lowest log level are among those on offer. -/
structure Settings.Offered (s : Settings) : Prop where
  dialect : s.dialect ∈ Dialect.names
  level : s.level ∈ Level.names

/-- A choice that is accepted is on offer. -/
theorem mem_of_choiceValue {flag : Flag} {value choice : String} {choices : List String}
    (h : choiceValue flag value choices = .ok choice) : choice ∈ choices := by
  unfold choiceValue at h
  split at h
  · next hmem =>
    cases h
    exact List.contains_iff_mem.mp hmem
  · exact nomatch h

/-- An option that is accepted keeps the names on offer. -/
theorem Settings.Offered.set {s t : Settings} (h : s.Offered) {flag : Flag} {value : String}
    (hset : s.set flag value = .ok t) : t.Offered := by
  cases flag with
  | help | screenshot | keys | noProgress =>
    cases hset
    exact ⟨h.dialect, h.level⟩
  | frames | ipf | seed =>
    obtain ⟨z, -, hz⟩ := bind_eq_ok hset
    cases hz
    exact ⟨h.dialect, h.level⟩
  | dialect =>
    obtain ⟨name, hname, hz⟩ := bind_eq_ok hset
    cases hz
    exact ⟨List.mem_mergeSort.mp (mem_of_choiceValue hname), h.level⟩
  | level =>
    obtain ⟨name, hname, hz⟩ := bind_eq_ok hset
    cases hz
    exact ⟨h.dialect, mem_of_choiceValue hname⟩

section

variable {p q : Progress}

theorem Settings.Offered.leave (h : p.settings.Offered) (word : String) :
    (p.leave word).settings.Offered := h

theorem Settings.Offered.plain (h : p.settings.Offered) (word : String) :
    (p.plain word).settings.Offered := by
  unfold Progress.plain
  split
  · exact h
  · exact ⟨h.dialect, h.level⟩

/-- An option with its value, if that is accepted. -/
theorem Settings.Offered.progress (h : p.settings.Offered) {flag : Flag} {value : String}
    (hset : p.set flag value = .ok q) : q.settings.Offered := by
  unfold Progress.set at hset
  split at hset
  · -- The option is there without a value.
    split at hset
    all_goals
      cases hset
      exact ⟨h.dialect, h.level⟩
  · obtain ⟨t, ht, hq⟩ := bind_eq_ok hset
    cases hq
    exact h.set ht

/-- The words of a command line keep the names on offer. -/
theorem offered_of_gather {items : List Item} (h : p.settings.Offered)
    (hgather : gather items p = .ok (some q)) : q.settings.Offered := by
  -- One case for each way in which words are taken.
  fun_induction gather items p with
  | case1 p =>
    cases hgather
    exact h
  | case2 word _ rest p _ ih => exact ih ((h.leave word).leave "--") hgather
  | case3 word _ rest p _ ih => exact ih (h.plain word) hgather
  | case4 word rest p _ ih => exact ih (h.plain word) hgather
  | case5 word p =>
    cases hgather
    exact h.leave word
  | case6 word rest p _ _ ih => exact ih (h.leave word) hgather
  | case7 word rest p _ _ ih => exact ih h hgather
  | case8 word rest p ih => exact ih (h.leave word) hgather
  | case9 word chars rest p =>
    obtain ⟨_, -, hnone⟩ := bind_eq_ok hgather
    exact nomatch hnone
  | case10 word flag value rest p _ ih =>
    obtain ⟨r, hr, hrest⟩ := bind_eq_ok hgather
    exact ih r (h.progress hr) hrest
  | case11 => exact nomatch hgather
  | case12 word flag p _ value rest ih =>
    obtain ⟨r, hr, hrest⟩ := bind_eq_ok hgather
    exact ih r (h.progress hr) hrest
  | case13 => exact nomatch hgather
  | case14 => exact nomatch hgather
  | case15 word flag rest p _ _ ih =>
    obtain ⟨settings, hsettings, hrest⟩ := bind_eq_ok hgather
    exact ih settings (h.set hsettings) hrest

end

/-! ### Accepted command lines -/

/-- Settings that a session can go by: no count is negative, the keys are digits, and the names are
    on offer. -/
structure Settings.Sensible (s : Settings) : Prop extends s.Offered where
  frames : 0 ≤ s.frames
  ipf : 0 ≤ s.ipf
  keys : s.keysFit = true

/-- What is found out at the end of a command line. -/
theorem sensible_of_finish {p : Progress} {s : Settings} (h : p.settings.Offered)
    (hfinish : p.finish = .ok (.settings s)) : s.Sensible := by
  simp only [Progress.finish] at hfinish
  split at hfinish
  · exact nomatch hfinish
  split at hfinish
  · exact nomatch hfinish
  next hframes =>
  split at hfinish
  · exact nomatch hfinish
  split at hfinish
  · exact nomatch hfinish
  next hipf =>
  split at hfinish
  · exact nomatch hfinish
  next hkeys =>
  split at hfinish
  · exact nomatch hfinish
  · cases hfinish
    rw [Bool.not_eq_true, Bool.not_eq_false'] at hkeys
    exact ⟨h, Int.not_lt.mp hframes, Int.not_lt.mp hipf, hkeys⟩

/-- A command line that is accepted makes sense. -/
theorem sensible_of_parse {words : List String} {s : Settings} (h : parse words = .ok (.settings s)) :
    s.Sensible := by
  obtain ⟨items, -, h⟩ := bind_eq_ok h
  obtain ⟨progress, hgather, h⟩ := bind_eq_ok h
  have hstart : ({ rom := "" } : Settings).Offered := ⟨by decide, by decide⟩
  cases progress with
  | none => exact nomatch h
  | some p =>
    have hoffered := offered_of_gather hstart hgather
    simp only at h
    split at h
    · exact nomatch h
    split at h
    · exact nomatch h
    exact sensible_of_finish hoffered h

/-! ### A count of frames -/

/-- Digits are no option. -/
theorem classify_digits {d : Nat} {ds : List Nat} (h : d < 10) :
    classify (String.ofList ((d :: ds).map Nat.digitChar)) = .ok .plain := by
  obtain ⟨-, -, -, hminus, -⟩ := digitChar_reads h
  unfold classify
  rw [String.toList_ofList, List.map_cons]
  simp only
  split
  · next heq => exact absurd (List.cons.inj heq).1 hminus
  · rfl

/-- Two dashes are no plain word. -/
theorem ne_dashes_of_plain {word : String} (h : classify word = .ok .plain) : word ≠ "--" := by
  rintro rfl
  exact nomatch h

/-- A program image and a count of frames in decimal digits are accepted. -/
theorem parse_frames {rom : String} (hrom : classify rom = .ok .plain) {d : Nat} {ds : List Nat}
    (h : ∀ e ∈ d :: ds, e < 10) (hlength : (d :: ds).length ≤ maxDigits) :
    parse [rom, "--frames", String.ofList ((d :: ds).map Nat.digitChar)] =
      .ok (.settings { rom, frames := (digitsValue (d :: ds) : Int) }) := by
  have hplain : classify (String.ofList ((d :: ds).map Nat.digitChar)) = .ok .plain :=
    classify_digits (h d List.mem_cons_self)
  have hread := readInteger?_digits h hlength
  generalize String.ofList ((d :: ds).map Nat.digitChar) = text at hplain hread ⊢
  have hflag : classify "--frames" = .ok (.flag .frames none) := by rfl
  have hitems : classifyAll [rom, "--frames", text] =
      .ok [⟨rom, .plain⟩, ⟨"--frames", .flag .frames none⟩, ⟨text, .plain⟩] := by
    simp only [classifyAll, hrom, hflag, hplain, if_neg (ne_dashes_of_plain hrom),
      if_neg (ne_dashes_of_plain hplain)]
    rfl
  have hset (p : Progress) : p.set .frames text =
      .ok { p with
        settings := { p.settings with frames := (digitsValue (d :: ds) : Int) }
        blank := p.blank.filter (· != .frames) } := by
    simp only [Progress.set, if_neg (ne_dashes_of_plain hplain), Settings.set, integerValue, hread]
    rfl
  simp only [parse, hitems, gather, Progress.plain, Flag.takesValue, hset, bind, Except.bind]
  simp [Progress.finish, Settings.keysFit]

end Chip8.CommandLine
