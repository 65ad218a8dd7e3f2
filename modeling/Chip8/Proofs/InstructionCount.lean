import Chip8.Proofs.FrameCuts
import Chip8.Proofs.Sessions

namespace Chip8

open Chip8.Text

/-!
# The count of instructions in a summary

A session sums up the counts that its frames answer.  A frame that raises a fault answers none,
although the instructions in front of the fault have completed, so that they are missing from the
sum.

* `performAll_append`, `completedAll_append` — operations one after the other;
* `MakesCalls.exists_last` — only the last frame of a session can raise a fault;
* `length_completed_frame`, `count_frame` — what a frame completes, and what it answers;
* `sum_count_of_executed` — frames that raise nothing answer all that they complete;
* `Machine.uncounted`, `MakesCalls.count_add_uncounted` — what is missing after a fault;
* `Logger.Prints.exists_line` — a logged event has a line;
* `play_events` — what a session logs, whether or not it can write a picture;
* `summary_counts` — the number in the summary, and when it is the number of completed instructions.
-/

namespace Machine

variable {m : Machine} {ipf : Int}

/-! ### Operations one after the other -/

theorem performAll_append (m : Machine) (first rest : List Command) :
    m.performAll (first ++ rest) = m.performAll first ++ (m.after first).performAll rest := by
  induction first generalizing m with
  | nil => rfl
  | cons command others ih =>
    have hothers := ih (m.perform command).machine
    show m.perform command :: (m.perform command).machine.performAll (others ++ rest) = _
    rw [hothers]
    rfl

theorem completedAll_append (m : Machine) (first rest : List Command) :
    m.completedAll (first ++ rest) = m.completedAll first ++ (m.after first).completedAll rest := by
  induction first generalizing m with
  | nil => rfl
  | cons command others ih =>
    have hothers := ih (m.perform command).machine
    show m.completed command ++ (m.perform command).machine.completedAll (others ++ rest) = _
    rw [hothers, ← List.append_assoc]
    rfl

/-- Every operation is replied to. -/
theorem length_performAll (m : Machine) (commands : List Command) :
    (m.performAll commands).length = commands.length := by
  induction commands generalizing m with
  | nil => rfl
  | cons command rest ih => exact congrArg (· + 1) (ih (m.perform command).machine)

/-- The last of some frames comes after the others. -/
theorem framesOf_succ (ipf : Int) (calls : Nat) :
    framesOf ipf (calls + 1) = framesOf ipf calls ++ [.frame ipf] := List.replicate_succ'

/-- A frame leaves the program in the machine. -/
theorem loaded_frame (m : Machine) (ipf : Int) : (m.frame ipf).machine.loaded = m.loaded := by
  rcases m.machine_frame_cases ipf with h | h
  · rw [h]
  · rw [h]

/-- If one of the frames has raised a fault, it is the last one, and the others have answered. -/
theorem MakesCalls.exists_last {frames calls : Nat} (h : m.MakesCalls ipf frames calls true) :
    ∃ earlier, calls = earlier + 1 ∧ calls ≤ frames ∧
      (∀ reply ∈ m.performAll (framesOf ipf earlier), ∃ n, reply.result = .ok (.executed n)) ∧
      ∃ fault, ((m.after (framesOf ipf earlier)).frame ipf).result = .error (.fault fault) := by
  obtain ⟨hle, earlier, reply, fault, hreplies, hok, hraises⟩ := h
  have hcalls : calls = earlier.length + 1 := by
    have hlength := m.length_performAll (framesOf ipf calls)
    rw [hreplies, framesOf, List.length_replicate, List.length_append, List.length_singleton] at hlength
    exact hlength.symm
  rw [hcalls, framesOf_succ, performAll_append] at hreplies
  obtain ⟨hearlier, hlast⟩ := List.append_inj' hreplies rfl
  have hreply : (m.after (framesOf ipf earlier.length)).frame ipf = reply :=
    List.singleton_injective hlast
  refine ⟨earlier.length, hcalls, hle, ?_, fault, ?_⟩
  · rw [hearlier]
    exact hok
  · rw [hreply]
    exact hraises

/-! ### Counts of frames -/

/-- What the last of these frames has completed without a count: nothing, unless it has raised a
    fault. -/
def uncounted (m : Machine) (ipf : Int) (calls : Nat) (faulted : Bool) : List Completion :=
  if faulted then (m.after (framesOf ipf (calls - 1))).completed (.frame ipf) else []

section

variable (h₀ : 0 ≤ ipf) (h₁ : ipf < budgetLimit)
include h₀ h₁

/-- A frame completes what its batch counts, whether or not it raises a fault. -/
theorem length_completed_frame (hloaded : m.loaded = true) :
    (m.completed (.frame ipf)).length = (m.state.runBatch ipf.toNat m.source).executed := by
  rw [completed, if_pos ⟨h₀, hloaded, h₁⟩, State.length_completions]

/-- A frame that answers a count has completed as many instructions. -/
theorem count_frame (hloaded : m.loaded = true) {n : Nat}
    (h : (m.frame ipf).result = .ok (.executed n)) : (m.completed (.frame ipf)).length = n := by
  rw [length_completed_frame h₀ h₁ hloaded]
  obtain ⟨-, u, -, -, -, ⟨-, hstate, -⟩ | ⟨trap, -, -, hstate⟩⟩ :=
    m.state.runBatch_cases ipf.toNat m.source
  · rw [frame_of_clear h₀ hloaded h₁ hstate] at h
    exact Answer.executed.inj (Except.ok.inj h)
  · rw [frame_of_record h₀ hloaded h₁ hstate] at h
    exact nomatch h

/-- Frames that raise nothing answer all that they complete. -/
theorem sum_count_of_executed (hloaded : m.loaded = true) {calls : Nat}
    (h : ∀ reply ∈ m.performAll (framesOf ipf calls), ∃ n, reply.result = .ok (.executed n)) :
    ((m.performAll (framesOf ipf calls)).map Reply.count).sum =
      (m.completedAll (framesOf ipf calls)).length := by
  induction calls generalizing m with
  | zero => rfl
  | succ calls ih =>
    rw [performAll_framesOf_succ, List.forall_mem_cons] at h
    obtain ⟨⟨n, hfirst⟩, hrest⟩ := h
    have hothers := ih ((m.loaded_frame ipf).trans hloaded) hrest
    have hcount : (m.frame ipf).count = n := by
      rw [Reply.count, hfirst]
      rfl
    show _ = (m.completed (.frame ipf) ++
      (m.frame ipf).machine.completedAll (framesOf ipf calls)).length
    rw [performAll_framesOf_succ, List.map_cons, List.sum_cons, hothers, hcount, List.length_append,
      count_frame h₀ h₁ hloaded hfirst]

/-- The counts of the frames that are made, and what is missing, make up all that they complete. -/
theorem MakesCalls.count_add_uncounted {frames calls : Nat} {faulted : Bool}
    (h : m.MakesCalls ipf frames calls faulted) (hloaded : m.loaded = true) :
    ((m.performAll (framesOf ipf calls)).map Reply.count).sum +
        (m.uncounted ipf calls faulted).length =
      (m.completedAll (framesOf ipf calls)).length := by
  cases faulted with
  | false => exact sum_count_of_executed h₀ h₁ hloaded h.2
  | true =>
    obtain ⟨earlier, rfl, -, hok, fault, hraises⟩ := h.exists_last
    have hcount : ((m.after (framesOf ipf earlier)).frame ipf).count = 0 := by
      rw [Reply.count, hraises]
    have hothers := sum_count_of_executed h₀ h₁ hloaded hok
    rw [framesOf_succ, performAll_append, completedAll_append, List.map_append, List.sum_append,
      List.length_append, hothers]
    simp [uncounted, completedAll, performAll, perform, hcount]

end

end Machine

/-! ### Lines of a log -/

/-- An event that the logger admits has a line, and no more lines than events come behind it. -/
theorem Logger.Prints.exists_line {l : Logger} {before behind : List Event} {event : Event}
    {lines : List String} (h : l.Prints (before ++ event :: behind) lines)
    (hadmits : l.admits event.level.name = true) :
    ∃ now earlier later, lines = earlier ++ l.line now event.level.name event.text :: later ∧
      later.length ≤ behind.length := by
  have hfilter := List.filter_cons_of_pos (l := behind)
    (p := fun event : Event => l.admits event.level.name) hadmits
  rw [Prints, List.filter_append, hfilter] at h
  have hdrop := List.forall₂_drop_append _ _ _ h.flip
  obtain ⟨line, later, ⟨now, hline⟩, hlater, hlines⟩ := List.forall₂_cons_right_iff.mp hdrop
  let printed := before.filter fun event : Event => l.admits event.level.name
  refine ⟨now, lines.take printed.length, later, ?_, ?_⟩
  · rw [← hline, ← hlines, List.take_append_drop]
  · rw [hlater.length_eq]
    exact List.length_filter_le ..

namespace CommandLine

/-! ### Summaries -/

/-- What a session logs that runs its frames: the events of the frames, that a fault has ended them,
    the summary, and perhaps that a picture was saved. -/
theorem play_events {s : Settings} {progress : Int → ProgressBar}
    (obstacle : String → Option FileProblem) {m : Machine} {d : Drive}
    (hbar : (barOf s progress).Works s.frames.toNat)
    (hdrive : drive (barOf s progress) (m.after (Machine.keyPresses s.heldKeys)) s.ipf
      s.frames.toNat 0 0 = .ok d) :
    ∃ before behind, (play s progress obstacle m).events = before ++ summary d :: behind ∧
      behind.length ≤ 1 := by
  rw [play_of_drive hbar hdrive]
  simp only
  split
  · exact ⟨_, [], rfl, Nat.zero_le 1⟩
  · split
    · exact ⟨_, [], rfl, Nat.zero_le 1⟩
    · exact ⟨_, [⟨.info, "Screenshot saved: " ++ s.screenshot.getD ""⟩], List.append_assoc ..,
        Nat.le_refl 1⟩

/-- **The number in the summary.**  Take a command line that is accepted, with a seed and a frame
    size that fit, a name of the program image that the system can be told, a clock that gives
    numbers, an image that fits into memory, and a bar that shows progress through the frames and
    raises nothing.  The session runs its frames on a new machine of the dialect and the seed with
    the image loaded and the keys pressed, up to the first that raises a fault.

    If the logger admits messages of its level, the summary is the last line, or the last but one
    when a picture was saved.  It tells the program counter and the timers of the machine after the
    frames.  Its number is that of all instructions that the frames have completed, but for those of
    a frame that raised a fault: the ones that this frame has completed in front of the fault are
    missing, although the machine keeps what they have done.  So the number is right exactly if no
    frame has raised a fault or the first instruction of that frame was the one that could not
    complete. -/
theorem summary_counts {words : List String} {s : Settings} {files : Files} {clock : Clock}
    {coloured : Bool} {rom : List UInt8} (hparse : parse words = .ok (.settings s))
    (hseed : seedFits s.seed = true) (hipf : s.ipf < 0x80000000) (hname : fileName s.rom = .ok s.rom)
    (hclock : clock.Readable) (hrom : files.read s.rom = .ok rom) (hfits : rom.length ≤ 3584)
    (hbar : (barOf s files.progress).Works s.frames.toNat) :
    ∃ start logger lines dialect m calls faulted, ∃ number : Nat,
      clock.read.1 = .ok start ∧ sessionLogger s coloured start = .ok logger ∧
        run words files clock coloured =
          (runSettings s files).ending.map (fun last => ⟨last.1, lines, [], last.2⟩) ∧
        Dialect.named s.dialect = .ok dialect ∧ Machine.create dialect s.seed .key = .ok m ∧
        let held := (m.load rom).machine.after (Machine.keyPresses s.heldKeys)
        let last := held.after (Machine.framesOf s.ipf calls)
        let completed := held.completedAll (Machine.framesOf s.ipf calls)
        let missing := held.uncounted s.ipf calls faulted
        held.MakesCalls s.ipf s.frames.toNat calls faulted ∧
          (logger.admits "INFO" = true →
            ∃ now earlier later, lines = earlier ++ logger.line now "INFO"
                ("Executed " ++ decimal number ++ " instructions, pc=0x" ++ hex 4 last.state.pc.toNat ++
                  ", delay=" ++ decimal last.state.delay.toNat ++
                  ", sound=" ++ decimal last.state.sound.toNat) :: later ∧
              later.length ≤ 1) ∧
          number + missing.length = completed.length ∧
          (number = completed.length ↔ missing = []) := by
  have hsensible := sensible_of_parse hparse
  obtain ⟨start, logger, lines, hstart, hlogger, hrun, hprints⟩ :=
    run_of_course hparse hclock files coloured
  obtain ⟨dialect, m, hdialect, hcreate, hmachine⟩ := exists_sessionMachine hsensible hseed
  obtain ⟨-, hload⟩ := m.load_of_le hfits
  have hloaded : (m.load rom).machine.loaded = true := congrArg Machine.loaded hload
  have hheld := (Machine.keyPresses_done (heldKeys_lt s) hloaded).2
  obtain ⟨calls, faulted, hcalls, hdrive⟩ :=
    Machine.exists_makesCalls hheld hsensible.ipf hipf s.frames.toNat 0 0 fun shown hle =>
      hbar.2 shown (by omega)
  rw [Nat.zero_add] at hdrive
  obtain ⟨before, behind, hplay, hbehind⟩ := play_events files.obstacle hbar hdrive
  have hcount := hcalls.count_add_uncounted hsensible.ipf hipf hheld
  refine ⟨start, logger, lines, dialect, m, calls, faulted, _, hstart, hlogger, hrun, hdialect, hcreate,
    hcalls, fun hadmits => ?_, hcount, ?_⟩
  · rw [runSettings_accepted hmachine hname hrom hfits, Course.after, hplay, ← List.append_assoc] at hprints
    obtain ⟨now, earlier, later, hlines, hlater⟩ := hprints.exists_line hadmits
    exact ⟨now, earlier, later, hlines, Nat.le_trans hlater hbehind⟩
  · rw [← hcount, ← List.length_eq_zero_iff]
    omega

/-- The logger of a session that prints messages of all kinds but the most verbose one. -/
theorem sessionLogger_info {s : Settings} (h : s.level = "INFO") (coloured : Bool) (start : Float) :
    sessionLogger s coloured start = .ok ⟨programName, .info, coloured, true, start⟩ := by
  have hlevel : Level.read s.level = .ok .info := by
    rw [h]
    exact Level.info.read_name
  rw [sessionLogger, Logger.create, hlevel]
  rfl

/-- A fault at the start of the second frame.  Nothing is missing, and the summary counts both
    instructions of the first frame. -/
theorem summary_counts_second_frame :
    let words := ["rom.ch8", "--frames", "2", "--ipf", "2", "--no-progress"]
    let s : Settings := { rom := "rom.ch8", frames := 2, ipf := 2, noProgress := true }
    let rom : List UInt8 := [0x60, 0x0A, 0xF0, 0x15, 0xFF, 0xFF]
    let files : Files := { read := fun _ => .ok rom, obstacle := fun _ => none }
    let held := ((⟨.initial {} (.ofSeed 0), .key, .ofSeed 0, false⟩ : Machine).load rom).machine
    let logger : Logger := ⟨programName, .info, false, true, 0⟩
    parse words = .ok (.settings s) ∧ held.MakesCalls 2 2 2 true ∧
      (held.completedAll (Machine.framesOf 2 2)).length = 2 ∧
      ∃ lines now earlier later,
        run words files ⟨.float 0, []⟩ false =
          (runSettings s files).ending.map (fun last => ⟨last.1, lines, [], last.2⟩) ∧
        lines = earlier ++
          logger.line now "INFO" "Executed 2 instructions, pc=0x0204, delay=8, sound=0" :: later := by
  intro words s rom files held logger
  have hparse : parse words = .ok (.settings s) := rfl
  have hname : fileName "rom.ch8" = .ok "rom.ch8" := by rfl
  have hbar : (barOf s files.progress).Works s.frames.toNat := ProgressBar.works_hidden 2
  obtain ⟨start, logger', lines, dialect, m, calls, faulted, number, hstart, hlogger, hrun, hdialect,
    hcreate, hcalls, hline, hsum, -⟩ :=
    @summary_counts words s files _ false rom hparse (by decide) (by decide) hname
      (Clock.readable_of_float 0) rfl (by decide) hbar
  obtain rfl : (0 : Float) = start := Except.ok.inj hstart
  have hsession : sessionLogger s false 0 = .ok logger := sessionLogger_info rfl false 0
  obtain rfl : logger = logger' := Except.ok.inj (hsession.symm.trans hlogger)
  have hdefault : Dialect.named "default" = .ok {} := rfl
  have hnew : Machine.create {} 0 .key = .ok ⟨.initial {} (.ofSeed 0), .key, .ofSeed 0, false⟩ := rfl
  obtain rfl : ({} : Dialect) = dialect := Except.ok.inj (hdefault.symm.trans hdialect)
  obtain rfl := Except.ok.inj (hnew.symm.trans hcreate)
  have hkeys : s.heldKeys = [] := by rfl
  have hpressed : held.after (Machine.keyPresses []) = held := rfl
  rw [hkeys, hpressed] at hcalls hline hsum
  have hcalls' : held.MakesCalls 2 2 calls faulted := hcalls
  -- The first frame answers, and the second one raises.
  obtain ⟨hfirst, hsecond, htotal, hmissing, htext⟩ :
      (held.frame 2).result.isOk = true ∧ ((held.frame 2).machine.frame 2).result.isOk = false ∧
        (held.completedAll (Machine.framesOf 2 2)).length = 2 ∧ (held.uncounted 2 2 true).length = 0 ∧
        (let last := (held.after (Machine.framesOf 2 2)).state
        "Executed " ++ decimal (2 : Nat) ++ " instructions, pc=0x" ++ hex 4 last.pc.toNat ++
            ", delay=" ++ decimal last.delay.toNat ++ ", sound=" ++ decimal last.sound.toNat =
          "Executed 2 instructions, pc=0x0204, delay=8, sound=0") := by decide +kernel
  have hboth : calls = 2 ∧ faulted = true := by
    cases faulted with
    | false =>
      obtain ⟨rfl, hok⟩ := hcalls'
      obtain ⟨n, hn⟩ := hok _ (List.mem_cons_of_mem _ List.mem_cons_self)
      exact nomatch hsecond.symm.trans (congrArg Except.isOk hn)
    | true =>
      obtain ⟨earlier, rfl, hle, -, fault, hraises⟩ := hcalls'.exists_last
      have hearlier : earlier ≠ 0 := by
        rintro rfl
        exact nomatch hfirst.symm.trans (congrArg Except.isOk hraises)
      exact ⟨by omega, rfl⟩
  obtain ⟨rfl, rfl⟩ := hboth
  have hnumber : number = 2 := by
    have hall : number + (held.uncounted 2 2 true).length =
      (held.completedAll (Machine.framesOf 2 2)).length := hsum
    rw [hmissing, htotal] at hall
    exact hall
  obtain ⟨now, earlier, later, hlines, -⟩ := hline (by decide +kernel)
  refine ⟨hparse, hcalls', htotal, lines, now, earlier, later, hrun, ?_⟩
  rw [hlines, hnumber]
  exact congrArg (fun text => earlier ++ logger.line now "INFO" text :: later) htext

/-- A fault behind the first instruction of the only frame.  The instruction has completed, and V0
    holds what it has loaded, but the summary, which is the last line, counts nothing. -/
theorem summary_counts_too_few :
    let words := ["rom.ch8", "--frames", "1", "--no-progress"]
    let s : Settings := { rom := "rom.ch8", frames := 1, noProgress := true }
    let rom : List UInt8 := [0x60, 0x05, 0xFF, 0xFF]
    let files : Files := { read := fun _ => .ok rom, obstacle := fun _ => none }
    let held := ((⟨.initial {} (.ofSeed 0), .key, .ofSeed 0, false⟩ : Machine).load rom).machine
    let logger : Logger := ⟨programName, .info, false, true, 0⟩
    parse words = .ok (.settings s) ∧
      (∃ earlier now picture, run words files ⟨.float 0, []⟩ false =
        .ok ⟨1, earlier ++
          [logger.line now "INFO" "Executed 0 instructions, pc=0x0202, delay=0, sound=0"], [], picture⟩) ∧
      (held.completedAll (Machine.framesOf s.ipf 1)).length = 1 ∧
      (held.after (Machine.framesOf s.ipf 1)).state.reg 0 = 5 := by
  intro words s rom files held logger
  have hparse : parse words = .ok (.settings s) := rfl
  obtain ⟨hlast, hexit, htotal, hregister⟩ :
      (runSettings s files).events.getLast? =
          some ⟨.info, "Executed 0 instructions, pc=0x0202, delay=0, sound=0"⟩ ∧
        (runSettings s files).ending.toOption.map Prod.fst = some 1 ∧
        (held.completedAll (Machine.framesOf s.ipf 1)).length = 1 ∧
        (held.after (Machine.framesOf s.ipf 1)).state.reg 0 = 5 := by decide +kernel
  obtain ⟨before, hevents⟩ := List.getLast?_eq_some_iff.mp hlast
  obtain ⟨start, logger', lines, hstart, hlogger, hrun, hprints⟩ :=
    run_of_course hparse (Clock.readable_of_float 0) files false
  obtain rfl : (0 : Float) = start := Except.ok.inj hstart
  have hsession : sessionLogger s false 0 = .ok logger := sessionLogger_info rfl false 0
  obtain rfl : logger = logger' := Except.ok.inj (hsession.symm.trans hlogger)
  rw [hevents] at hprints
  obtain ⟨now, earlier, later, hlines, hlater⟩ := hprints.exists_line (by decide +kernel)
  obtain rfl : later = [] := List.length_eq_zero_iff.mp (Nat.le_zero.mp hlater)
  refine ⟨hparse, ⟨earlier, now, ?_⟩, htotal, hregister⟩
  cases hending : (runSettings s files).ending with
  | error breakdown =>
    rw [hending] at hexit
    exact nomatch hexit
  | ok last =>
    obtain ⟨exit, picture⟩ := last
    rw [hending] at hexit hrun
    obtain rfl : exit = 1 := Option.some.inj hexit
    refine ⟨picture, ?_⟩
    rw [hrun, hlines]
    rfl

end CommandLine

end Chip8
