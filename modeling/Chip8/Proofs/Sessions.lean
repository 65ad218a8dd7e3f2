import Chip8.CommandLine.Session
import Chip8.Proofs.Frame
import Chip8.Proofs.FreshStart
import Chip8.Proofs.ParsedSettings
import Chip8.Proofs.Printing
import Chip8.Proofs.Upscaling
import Mathlib.Algebra.GroupWithZero.Nat

namespace Chip8

open Chip8.Text

/-!
# Sessions of the command line

A session reports what a machine does: the exit code, the printed summary and the picture are those
of the machine that the same operations lead to.

* `Machine.framesOf`, `Machine.MakesCalls` — frames that are run one after the other, up to the
  first that raises a fault, and `Machine.exists_makesCalls` — those are what a session runs;
* `Picture.Shows`, `machinePicture_shows` — the picture of a machine shows its screen;
* `play_reports` — what a session does with a machine that has a program;
* `runSettings_refused`, `runSettings_accepted` — a session without a program image and with one,
  and `runSettings_unnameable`, `runSettings_unshowable` — when it breaks off;
* `run_reports` — whole sessions, from the words of the command line on.
-/

/-! ### Frames until one raises -/

/-- How many instructions the reply counts; an error counts none. -/
def Reply.count (r : Reply) : Nat :=
  match r.result with
  | .ok answer => answer.count
  | .error _ => 0

namespace Machine

variable {m : Machine} {ipf : Int}

/-- Frames of the same size, one after the other. -/
def framesOf (ipf : Int) (calls : Nat) : List Command := List.replicate calls (.frame ipf)

/-- Out of `frames` frames the machine makes `calls`: all of them if none raises, and otherwise up
    to the first that raises a fault, that one included. -/
def MakesCalls (m : Machine) (ipf : Int) (frames calls : Nat) (faulted : Bool) : Prop :=
  let replies := m.performAll (framesOf ipf calls)
  match faulted with
  | false => calls = frames ∧ ∀ reply ∈ replies, ∃ n, reply.result = .ok (.executed n)
  | true =>
    calls ≤ frames ∧ ∃ earlier reply fault, replies = earlier ++ [reply] ∧
      (∀ reply ∈ earlier, ∃ n, reply.result = .ok (.executed n)) ∧
      reply.result = .error (.fault fault)

/-- The first of several frames, and the others on the machine that it leaves. -/
theorem performAll_framesOf_succ (m : Machine) (ipf : Int) (calls : Nat) :
    m.performAll (framesOf ipf (calls + 1)) =
      m.frame ipf :: (m.frame ipf).machine.performAll (framesOf ipf calls) := rfl

theorem after_framesOf_succ (m : Machine) (ipf : Int) (calls : Nat) :
    m.after (framesOf ipf (calls + 1)) = (m.frame ipf).machine.after (framesOf ipf calls) := rfl

/-- A frame that counts its instructions comes before the calls that follow it. -/
theorem MakesCalls.cons {n frames calls : Nat} {faulted : Bool}
    (hfirst : (m.frame ipf).result = .ok (.executed n))
    (h : (m.frame ipf).machine.MakesCalls ipf frames calls faulted) :
    m.MakesCalls ipf (frames + 1) (calls + 1) faulted := by
  unfold MakesCalls at h ⊢
  rw [performAll_framesOf_succ]
  cases faulted with
  | false =>
    obtain ⟨rfl, hok⟩ := h
    exact ⟨rfl, List.forall_mem_cons.mpr ⟨⟨n, hfirst⟩, hok⟩⟩
  | true =>
    obtain ⟨hle, earlier, reply, fault, hreplies, hok, hraises⟩ := h
    refine ⟨Nat.succ_le_succ hle, m.frame ipf :: earlier, reply, fault, ?_, ?_, hraises⟩
    · rw [hreplies]
      rfl
    · exact List.forall_mem_cons.mpr ⟨⟨n, hfirst⟩, hok⟩

/-- A frame of a machine with a program and of a size that fits counts its instructions, or it
    raises a fault. -/
theorem frame_executes (hloaded : m.loaded = true) (h₀ : 0 ≤ ipf) (h₁ : ipf < budgetLimit) :
    (∃ n next, m.frame ipf = ⟨.ok (.executed n), next, []⟩ ∧ next.loaded = true) ∨
      ∃ (fault : Fault) (next : Machine), m.frame ipf = next.faulted fault := by
  obtain ⟨-, u, -, -, -, ⟨-, hstate, -⟩ | ⟨trap, -, -, hstate⟩⟩ :=
    m.state.runBatch_cases ipf.toNat m.source
  · exact .inl ⟨_, _, frame_of_clear h₀ hloaded h₁ hstate, hloaded⟩
  · exact .inr ⟨_, _, frame_of_record h₀ hloaded h₁ hstate⟩

/-- The frames of a session whose bar raises nothing are calls that are made until one raises.  What
    it counts are the answers of the frames. -/
theorem exists_makesCalls (hloaded : m.loaded = true) (h₀ : 0 ≤ ipf) (h₁ : ipf < budgetLimit)
    {bar : CommandLine.ProgressBar} (frames done executed : Nat)
    (hshows : ∀ shown ≤ done + frames, bar.shows shown = none) :
    ∃ calls faulted, m.MakesCalls ipf frames calls faulted ∧
      CommandLine.drive bar m ipf frames done executed =
        .ok ⟨m.after (framesOf ipf calls),
          executed + ((m.performAll (framesOf ipf calls)).map Reply.count).sum, faulted,
          (m.performAll (framesOf ipf calls)).flatMap (·.events)⟩ := by
  -- The first frame counts its instructions, and the others go on from its machine, or it is the last.
  induction frames generalizing m done executed with
  | zero => exact ⟨0, false, ⟨rfl, List.forall_mem_nil _⟩, rfl⟩
  | succ frames ih =>
    rcases frame_executes hloaded h₀ h₁ with ⟨n, next, hframe, hnext⟩ | ⟨fault, next, hframe⟩
    · have hshown : bar.shows (done + 1) = none := hshows (done + 1) (by omega)
      have hothers : ∀ shown ≤ done + 1 + frames, bar.shows shown = none :=
        fun shown hle => hshows shown (by omega)
      obtain ⟨calls, faulted, hmakes, hdrive⟩ := ih hnext (done + 1) (executed + n) hothers
      have hfirst : (m.frame ipf).result = .ok (.executed n) := congrArg Reply.result hframe
      have hmachine : (m.frame ipf).machine = next := congrArg Reply.machine hframe
      refine ⟨calls + 1, faulted, MakesCalls.cons hfirst (hmachine ▸ hmakes), ?_⟩
      rw [CommandLine.drive, performAll_framesOf_succ, after_framesOf_succ, hframe]
      simp only [hshown, hdrive, List.map_cons, List.sum_cons, List.flatMap_cons, List.nil_append,
        Reply.count, Answer.count, Nat.add_assoc]
    · refine ⟨1, true, ⟨Nat.succ_pos frames, [], m.frame ipf, fault, rfl, List.forall_mem_nil _, ?_⟩, ?_⟩
      · rw [hframe]
        rfl
      · rw [CommandLine.drive, performAll_framesOf_succ, after_framesOf_succ, hframe]
        rfl

/-! ### Keys -/

/-- The keys pressed, one after the other. -/
def keyPresses (keys : List Nat) : List Command :=
  keys.map fun (k : Nat) => .setKey (.int k) (.bool true)

/-- The keys of a session are held down by pressing them. -/
theorem holdKeys_eq (m : Machine) (keys : List Nat) :
    CommandLine.holdKeys m keys = m.after (keyPresses keys) := by
  rw [after, keyPresses, List.foldl_map]
  rfl

/-- A press of a key is not refused, and leaves the program in the machine. -/
theorem keyPresses_done {keys : List Nat} (hkeys : ∀ k ∈ keys, k < 16) (hloaded : m.loaded = true) :
    (∀ reply ∈ m.performAll (keyPresses keys), reply.result = .ok .done) ∧
      (m.after (keyPresses keys)).loaded = true := by
  induction keys generalizing m with
  | nil => exact ⟨List.forall_mem_nil _, hloaded⟩
  | cons k rest ih =>
    obtain ⟨hk, hrest⟩ := List.forall_mem_cons.mp hkeys
    have hvalue : (Value.int k).natBelow? 16 = some ⟨k, hk⟩ :=
      Value.natBelow?_eq_some_iff.mpr ⟨k, rfl, rfl⟩
    have hpress : m.setKey (.int k) (.bool true) =
        ⟨.ok .done, { m with state := { m.state with keypad := m.state.keypad.setIfInBounds k true } },
          []⟩ := by
      rw [setKey, hvalue]
      rfl
    have hnext : (m.setKey (.int k) (.bool true)).machine.loaded = true := by
      rw [hpress]
      exact hloaded
    obtain ⟨hothers, hafter⟩ := ih hrest hnext
    refine ⟨List.forall_mem_cons.mpr ⟨?_, hothers⟩, hafter⟩
    show (m.setKey (.int k) (.bool true)).result = _
    rw [hpress]

end Machine

/-! ### Pictures -/

/-- A picture of 512 by 256 pixels shows the screen: eight by eight of them are green for every lit
    pixel of the screen and black for every dark one. -/
def Picture.Shows (p : Picture) (screen : Screen) : Prop :=
  p.width = 512 ∧ p.height = 256 ∧
    ∀ (i : Fin 256) (j : Fin 512), p.pixel? i j =
      some (if screen.pixel ⟨j / 8, by omega⟩ ⟨i / 8, by omega⟩ then ⟨0, 255, 0⟩ else ⟨0, 0, 0⟩)

namespace CommandLine

/-- The picture of a session shows the screen of the machine. -/
theorem machinePicture_shows (m : Machine) :
    ∃ picture, machinePicture m = .ok picture ∧ picture.Shows m.state.screen := by
  have hrender : machinePicture m = .ok (.ofCells 8 (m.state.screen.grid.colours .classic)) :=
    Grid.screenshot_of_shape (g := m.state.screen.grid) rfl (by decide) rfl
  refine ⟨_, hrender, rfl, rfl, fun i j => ?_⟩
  have hi : i.val < screenHeight * 8 := i.isLt
  have hj : j.val < screenWidth * 8 := j.isLt
  have hcell : j.val / 8 < 64 ∧ i.val / 8 < 32 := by omega
  rw [Grid.pixel?_render .classic (by decide) hi hj]
  simp only [Screen.grid, dif_pos hcell]
  rfl

/-- A picture under a name that ends as pictures of this kind do is saved, if nothing stands in the
    way. -/
theorem savePicture_png {obstacle : String → Option FileProblem} {m : Machine} {name : String}
    (hending : fileEnding name = ".png") (hname : fileName name = .ok name) (hfree : obstacle name = none) :
    ∃ picture, savePicture obstacle m name = .ok (name, picture) ∧ picture.Shows m.state.screen := by
  obtain ⟨picture, hpicture, hshows⟩ := machinePicture_shows m
  have hkind : FileKind.ofName name = .ok .coloured := by
    have hcoloured : FileKind.ofEnding? ".png" = some .coloured :=
      FileKind.ofEnding?_eq_some_iff.mpr (by decide)
    rw [FileKind.ofName, hending, hcoloured]
  refine ⟨picture, ?_, hshows⟩
  simp only [savePicture, hpicture, hkind, hname, hfree, Except.mapError, bind, Except.bind]
  rfl

/-! ### The machine and the logger -/

/-- A name on offer is that of a dialect. -/
theorem named_of_mem {name : String} (h : name ∈ Dialect.names) :
    ∃ dialect, Dialect.named name = .ok dialect := by
  simp only [Dialect.names, Dialect.presets, List.map_cons, List.map_nil, List.mem_cons,
    List.not_mem_nil, or_false] at h
  rcases h with rfl | rfl
  · exact ⟨{}, rfl⟩
  · exact ⟨.cosmacVip, rfl⟩

/-- A name on offer is that of a level. -/
theorem read_of_mem {name : String} (h : name ∈ Level.names) : ∃ level, Level.read name = .ok level := by
  obtain ⟨level, -, rfl⟩ := List.mem_map.mp h
  exact ⟨level, level.read_name⟩

/-- The keys that are held down are keys. -/
theorem heldKeys_lt (s : Settings) : ∀ k ∈ s.heldKeys, k < 16 := by
  intro k hk
  obtain ⟨c, -, hc⟩ := List.mem_filterMap.mp hk
  exact lt_sixteen_of_hexDigit? hc

/-- If all characters are digits, every one of them stands for a key that is held down. -/
theorem map_hexDigit?_keys {s : Settings} (h : s.keysFit = true) :
    s.keys.toList.map hexDigit? = s.heldKeys.map some := by
  unfold Settings.keysFit at h
  unfold Settings.heldKeys
  generalize s.keys.toList = digits at h ⊢
  induction digits with
  | nil => rfl
  | cons c rest ih =>
    rw [List.all_cons, Bool.and_eq_true] at h
    obtain ⟨d, hd⟩ := Option.isSome_iff_exists.mp h.1
    rw [List.map_cons, List.filterMap_cons_some hd, List.map_cons, ih h.2, hd]

/-! ### Playing -/

/-- The name of the picture of a session; an empty one means that none is wanted. -/
def Settings.pictureName (s : Settings) : String := s.screenshot.getD ""

/-- What a session logs after its frames: that a fault has ended them, where the machine has
    stopped, and that a picture was saved. -/
def closing (faulted : Bool) (executed : Nat) (m : Machine) (name : String) : List Event :=
  (if faulted then [⟨.critical, "Emulation halted"⟩] else []) ++
  [⟨.info, "Executed " ++ decimal executed ++ " instructions, pc=0x" ++ hex 4 m.state.pc.toNat ++
    ", delay=" ++ decimal m.state.delay.toNat ++ ", sound=" ++ decimal m.state.sound.toNat⟩] ++
  if name = "" then [] else [⟨.info, "Screenshot saved: " ++ name⟩]

/-- A bar that is not shown raises nothing. -/
theorem ProgressBar.works_hidden (frames : Nat) : hidden.Works frames := ⟨rfl, fun _ _ => rfl⟩

/-- A bar that calculates with doubles raises nothing for a number of frames that rounds to one. -/
theorem ProgressBar.works_ofDoubles {number : Int} (h : Decimal.roundsToDouble number = true)
    (frames : Nat) : (ofDoubles number).Works frames := ⟨rfl, fun _ _ => if_pos h⟩

/-- Such a bar raises an error for a number of frames beyond all doubles. -/
theorem ProgressBar.shows_ofDoubles {number : Int} (h : Decimal.roundsToDouble number = false)
    (done : Nat) : (ofDoubles number).shows done = some .outOfRange := if_neg (by simp [h])

/-- What is left to do after the frames, if the bar raises nothing. -/
theorem play_of_drive {s : Settings} {progress : Int → ProgressBar} {m : Machine} {d : Drive}
    (hbar : (barOf s progress).Works s.frames.toNat)
    (hdrive : drive (barOf s progress) (m.after (Machine.keyPresses s.heldKeys)) s.ipf
      s.frames.toNat 0 0 = .ok d)
    (obstacle : String → Option FileProblem) :
    play s progress obstacle m =
      let exit := if d.halted then 1 else 0
      let events :=
        d.events ++ (if d.halted then [⟨.critical, "Emulation halted"⟩] else []) ++ [summary d]
      let name := s.screenshot.getD ""
      if name.isEmpty then ⟨events, .ok (exit, none)⟩
      else
        match savePicture obstacle d.machine name with
        | .error breakdown => ⟨events, .error breakdown⟩
        | .ok saved =>
          ⟨events ++ [⟨.info, "Screenshot saved: " ++ name⟩], .ok (exit, some saved)⟩ := by
  have hfirst : (barOf s progress).shows 0 = none := hbar.2 0 (Nat.zero_le _)
  rw [play]
  cases hsaved : savePicture obstacle d.machine (s.screenshot.getD "") <;>
    simp only [hfirst, Machine.holdKeys_eq, hdrive, hbar.1, hsaved]

/-- What a session does with a machine that has a program. -/
theorem play_reports {s : Settings} {progress : Int → ProgressBar}
    {obstacle : String → Option FileProblem} {m : Machine} (hloaded : m.loaded = true)
    (hbar : (barOf s progress).Works s.frames.toNat) (h₀ : 0 ≤ s.ipf) (h₁ : s.ipf < budgetLimit)
    (hpicture : s.pictureName ≠ "" → fileEnding s.pictureName = ".png" ∧
      fileName s.pictureName = .ok s.pictureName ∧ obstacle s.pictureName = none) :
    let held := m.after (Machine.keyPresses s.heldKeys)
    ∃ calls faulted picture,
      let replies := held.performAll (Machine.framesOf s.ipf calls)
      let last := held.after (Machine.framesOf s.ipf calls)
      held.MakesCalls s.ipf s.frames.toNat calls faulted ∧
        play s progress obstacle m =
          ⟨replies.flatMap (·.events) ++
              closing faulted (replies.map Reply.count).sum last s.pictureName,
            .ok (if faulted then 1 else 0, picture)⟩ ∧
        (s.pictureName = "" → picture = none) ∧
        (s.pictureName ≠ "" → ∃ shown, picture = some (s.pictureName, shown) ∧
          shown.Shows last.state.screen) := by
  intro held
  have hheld : held.loaded = true := (Machine.keyPresses_done (heldKeys_lt s) hloaded).2
  obtain ⟨calls, faulted, hcalls, hdrive⟩ :=
    Machine.exists_makesCalls hheld h₀ h₁ s.frames.toNat 0 0 fun shown hle => hbar.2 shown (by omega)
  rw [Nat.zero_add] at hdrive
  rw [play_of_drive hbar hdrive]
  by_cases hname : s.pictureName = ""
  · have hempty : (s.screenshot.getD "").isEmpty = true := String.isEmpty_iff.mpr hname
    refine ⟨calls, faulted, none, hcalls, ?_, fun _ => rfl, fun h => (h hname).elim⟩
    simp only [hempty, if_true, closing, hname, List.append_nil, List.append_assoc]
    rfl
  · have hempty : ¬ (s.screenshot.getD "").isEmpty = true := fun h => hname (String.isEmpty_iff.mp h)
    obtain ⟨hending, hfile, hfree⟩ := hpicture hname
    obtain ⟨shown, hsaved, hshows⟩ :=
      savePicture_png (m := held.after (Machine.framesOf s.ipf calls)) hending hfile hfree
    refine ⟨calls, faulted, some (s.pictureName, shown), hcalls, ?_, fun h => (hname h).elim,
      fun _ => ⟨shown, rfl, hshows⟩⟩
    unfold Settings.pictureName at hsaved
    simp only [hempty, closing, if_neg hname, hsaved, List.append_assoc]
    rfl

/-! ### Settings and files -/

section

variable {s : Settings} {files : Files} {m : Machine}

/-- The machine of a session has the dialect and the seed of the settings. -/
theorem exists_sessionMachine (h : s.Sensible) (hseed : seedFits s.seed = true) :
    ∃ dialect m, Dialect.named s.dialect = .ok dialect ∧
      Machine.create dialect s.seed .key = .ok m ∧ sessionMachine s = .ok m := by
  obtain ⟨dialect, hdialect⟩ := named_of_mem h.dialect
  have hcreate : Machine.create dialect s.seed .key =
      .ok ⟨.initial dialect (.ofSeed s.seed), .key, .ofSeed s.seed, false⟩ := by
    rw [Machine.create, seedKey, if_pos hseed]
    rfl
  refine ⟨dialect, _, hdialect, hcreate, ?_⟩
  rw [sessionMachine, hdialect]
  exact hcreate

/-- A program image that is missing or too large is not loaded, and the last event tells so. -/
theorem load_refused (s : Settings) (m : Machine) {file : Except FileProblem (List UInt8)}
    (h : ∀ rom, file = .ok rom → romLimit < rom.length) :
    ∃ earlier reason, load s m file = (none, earlier ++ [cannotLoad s.rom reason]) := by
  cases file with
  | error problem => exact ⟨[], problem.text s.rom, rfl⟩
  | ok rom =>
    refine ⟨(m.load rom).events,
      ((Error.fault (.romTooLarge rom.length romLimit)).message.getD ""), ?_⟩
    simp only [load, (m.load_of_lt (h rom rfl)).1]

/-- A program image that fits is loaded. -/
theorem load_accepted (s : Settings) (m : Machine) {rom : List UInt8} (h : rom.length ≤ romLimit) :
    load s m (.ok rom) = (some (m.load rom).machine, (m.load rom).events) := by
  simp only [load, (m.load_of_le h).1]

/-- Without a program image the session is over. -/
theorem runSettings_refused (hmachine : sessionMachine s = .ok m) (hname : fileName s.rom = .ok s.rom)
    (h : ∀ rom, files.read s.rom = .ok rom → romLimit < rom.length) :
    runSettings s files = ⟨(load s m (files.read s.rom)).2, .ok (2, none)⟩ := by
  obtain ⟨earlier, reason, hload⟩ := load_refused s m h
  simp only [runSettings, hmachine, hname, hload]

/-- With a program image the machine that has it loaded is played. -/
theorem runSettings_accepted (hmachine : sessionMachine s = .ok m)
    (hname : fileName s.rom = .ok s.rom) {rom : List UInt8} (hrom : files.read s.rom = .ok rom)
    (h : rom.length ≤ romLimit) :
    runSettings s files =
      (play s files.progress files.obstacle (m.load rom).machine).after (m.load rom).events := by
  simp only [runSettings, hmachine, hname, hrom, load_accepted s m h]

/-- A session breaks off if the system cannot be told the name of the program image. -/
theorem runSettings_unnameable (hmachine : sessionMachine s = .ok m) {error : Error}
    (hname : fileName s.rom = .error error) : runSettings s files = .brokenBy error := by
  simp only [runSettings, hmachine, hname]

/-- A session breaks off after loading if its bar raises an error before the first frame. -/
theorem runSettings_unshowable (hmachine : sessionMachine s = .ok m)
    (hname : fileName s.rom = .ok s.rom) {rom : List UInt8} (hrom : files.read s.rom = .ok rom)
    (h : rom.length ≤ romLimit) {error : Error}
    (hshows : (barOf s files.progress).shows 0 = some error) :
    runSettings s files = ⟨(m.load rom).events, .error (.error error)⟩ := by
  have hplay : play s files.progress files.obstacle (m.load rom).machine = .brokenBy error := by
    simp only [play, hshows]
  rw [runSettings_accepted hmachine hname hrom h, hplay]
  simp [Course.after, Course.brokenBy]

/-- A run with accepted words prints what is logged, and ends as its course does. -/
theorem run_of_course {words : List String} {clock : Clock} (hparse : parse words = .ok (.settings s))
    (hclock : clock.Readable) (files : Files) (coloured : Bool) :
    ∃ start logger lines, clock.read.1 = .ok start ∧ sessionLogger s coloured start = .ok logger ∧
      run words files clock coloured =
        (runSettings s files).ending.map (fun last => ⟨last.1, lines, [], last.2⟩) ∧
      logger.Prints (runSettings s files).events lines := by
  obtain ⟨start, rest, hread, hrest⟩ := hclock.read
  obtain ⟨level, hlevel⟩ := read_of_mem (sensible_of_parse hparse).level
  have hlogger : sessionLogger s coloured start = .ok ⟨programName, level, coloured, true, start⟩ := by
    rw [sessionLogger, Logger.create, hlevel]
    rfl
  obtain ⟨lines, hlines, hprints⟩ := Logger.emitAll_of_readable
    ⟨programName, level, coloured, true, start⟩ hrest (runSettings s files).events
  refine ⟨start, _, lines, congrArg Prod.fst hread, hlogger, ?_, hprints⟩
  rw [run, hparse]
  simp only [hread, Except.mapError, bind, Except.bind, hlogger, hlines]
  cases (runSettings s files).ending <;> rfl

/-- **A session reports what its machine did.**  Take a command line that is accepted, with a seed
    and a frame size that fit, a name of the program image that the system can be told, and a clock
    that gives numbers.

    If the program image is missing or longer than 3584 bytes, the exit code is 2, no picture is
    written, the last event tells why the image was not loaded, and how many frames of which size
    were wanted makes no difference.  If the image fits and the bar that shows progress raises
    nothing, take a new machine of the dialect and the seed, load the image and press the keys, none
    of which is refused.  Of the frames it makes as many as are wanted, or up to the first that
    raises a fault, that one included.  The exit code is 1 if one raised and 0 if not; the summary
    is that of the machine after these frames, and so is the picture, which is written exactly if a
    name was given. -/
theorem run_reports {words : List String} {s : Settings} {files : Files} {clock : Clock} {coloured : Bool}
    (hparse : parse words = .ok (.settings s)) (hseed : seedFits s.seed = true)
    (hipf : s.ipf < 0x80000000) (hname : fileName s.rom = .ok s.rom) (hclock : clock.Readable) :
    ∃ start logger dialect m, clock.read.1 = .ok start ∧ sessionLogger s coloured start = .ok logger ∧
      Dialect.named s.dialect = .ok dialect ∧ Machine.create dialect s.seed .key = .ok m ∧
      ((∀ rom, files.read s.rom = .ok rom → 3584 < rom.length) →
        (∃ earlier reason lines, run words files clock coloured = .ok ⟨2, lines, [], none⟩ ∧
          logger.Prints (earlier ++ [cannotLoad s.rom reason]) lines) ∧
        ∀ frames ipf, runSettings { s with frames, ipf } files = runSettings s files) ∧
      ∀ rom, files.read s.rom = .ok rom → rom.length ≤ 3584 →
        (barOf s files.progress).Works s.frames.toNat →
        (s.pictureName ≠ "" → fileEnding s.pictureName = ".png" ∧
          fileName s.pictureName = .ok s.pictureName ∧ files.obstacle s.pictureName = none) →
        let loaded := m.load rom
        let presses := loaded.machine.performAll (Machine.keyPresses s.heldKeys)
        let held := loaded.machine.after (Machine.keyPresses s.heldKeys)
        loaded.result = .ok .done ∧ s.keys.toList.map hexDigit? = s.heldKeys.map some ∧
          (∀ reply ∈ presses, reply.result = .ok .done) ∧
          ∃ calls faulted lines picture,
            let replies := held.performAll (Machine.framesOf s.ipf calls)
            let last := held.after (Machine.framesOf s.ipf calls)
            held.MakesCalls s.ipf s.frames.toNat calls faulted ∧
              run words files clock coloured = .ok ⟨if faulted then 1 else 0, lines, [], picture⟩ ∧
              logger.Prints (loaded.events ++ (replies.flatMap (·.events) ++
                closing faulted (replies.map Reply.count).sum last s.pictureName)) lines ∧
              (s.pictureName = "" → picture = none) ∧
              (s.pictureName ≠ "" → ∃ shown, picture = some (s.pictureName, shown) ∧
                shown.Shows last.state.screen) := by
  have hsensible := sensible_of_parse hparse
  obtain ⟨start, logger, lines, hstart, hlogger, hrun, hprints⟩ :=
    run_of_course hparse hclock files coloured
  obtain ⟨dialect, m, hdialect, hcreate, hmachine⟩ := exists_sessionMachine hsensible hseed
  refine ⟨start, logger, dialect, m, hstart, hlogger, hdialect, hcreate, fun hrefused => ?_, ?_⟩
  · have hcourse := runSettings_refused hmachine hname hrefused
    obtain ⟨earlier, reason, hload⟩ := load_refused s m hrefused
    rw [hcourse, hload] at hrun hprints
    refine ⟨⟨earlier, reason, lines, hrun, hprints⟩, fun frames ipf => ?_⟩
    -- Neither the machine nor the loading looks at the frames.
    have hother : runSettings { s with frames, ipf } files =
        ⟨(load s m (files.read s.rom)).2, .ok (2, none)⟩ :=
      runSettings_refused (s := { s with frames, ipf }) hmachine hname hrefused
    rw [hother, hcourse]
  · intro rom hrom hfits hbar hpicture loaded presses held
    obtain ⟨hresult, hmachine'⟩ := m.load_of_le hfits
    have hloaded : loaded.machine.loaded = true := congrArg Machine.loaded hmachine'
    obtain ⟨calls, faulted, picture, hcalls, hplay, hnone, hsome⟩ :=
      play_reports hloaded hbar hsensible.ipf hipf hpicture
    have hcourse := runSettings_accepted hmachine hname hrom hfits
    rw [hcourse, hplay] at hrun hprints
    exact ⟨hresult, map_hexDigit?_keys hsensible.keys,
      (Machine.keyPresses_done (heldKeys_lt s) hloaded).1, calls, faulted, lines, picture, hcalls, hrun,
      hprints, hnone, hsome⟩

/-- A program that stops with a fault in its first frame, with two keys held down and a picture
    wanted. -/
theorem run_reports_halted :
    let words := ["rom.ch8", "--frames", "3", "--keys", "5a", "--screenshot", "out.png"]
    let files : Files := { read := fun _ => .ok [0x60, 0x05, 0xFF, 0xFF], obstacle := fun _ => none }
    ∃ lines shown, run words files ⟨.float 0, []⟩ false = .ok ⟨1, lines, [], some ("out.png", shown)⟩ ∧
      shown.width = 512 := by
  intro words files
  have hparse : parse words = .ok (.settings
      { rom := "rom.ch8", frames := 3, keys := "5a", screenshot := some "out.png" }) := rfl
  have hname : fileName "rom.ch8" = .ok "rom.ch8" := by rfl
  have hbar (s : Settings) (hframes : s.frames = 3) (hshown : s.noProgress = false) :
      (barOf s files.progress).Works s.frames.toNat := by
    have hrounds : Decimal.roundsToDouble 3 = true := by decide +kernel
    rw [barOf, hshown, hframes]
    exact ProgressBar.works_ofDoubles hrounds 3
  have hpicture : fileEnding "out.png" = ".png" ∧ fileName "out.png" = .ok "out.png" ∧
      files.obstacle "out.png" = none := ⟨by rfl, by rfl, rfl⟩
  obtain ⟨start, logger, dialect, m, -, -, hdialect, hcreate, -, hfits⟩ :=
    @run_reports words _ files _ false hparse (by decide) (by decide) hname (Clock.readable_of_float 0)
  have hdefault : Dialect.named "default" = .ok {} := rfl
  have hnew : Machine.create {} 0 .key = .ok ⟨.initial {} (.ofSeed 0), .key, .ofSeed 0, false⟩ := rfl
  obtain rfl : ({} : Dialect) = dialect := Except.ok.inj (hdefault.symm.trans hdialect)
  obtain rfl := Except.ok.inj (hnew.symm.trans hcreate)
  obtain ⟨-, -, -, calls, faulted, lines, picture, hcalls, hrun, -, -, hsaved⟩ :=
    hfits [0x60, 0x05, 0xFF, 0xFF] rfl (by decide) (hbar _ rfl rfl) fun _ => hpicture
  obtain ⟨shown, rfl, hshows⟩ := hsaved (by decide)
  cases faulted with
  | true => exact ⟨lines, shown, hrun, hshows.1⟩
  | false =>
    -- The first frame raises a fault after its first instruction.
    obtain ⟨rfl, hok⟩ := hcalls
    obtain ⟨n, hn⟩ := hok _ List.mem_cons_self
    have hkeys : Settings.heldKeys
        { rom := "rom.ch8", frames := 3, keys := "5a", screenshot := some "out.png" } = [5, 10] := by rfl
    rw [hkeys] at hn
    have hraises : ((((⟨.initial {} (.ofSeed 0), .key, .ofSeed 0, false⟩ : Machine).load
        [0x60, 0x05, 0xFF, 0xFF]).machine.after (Machine.keyPresses [5, 10])).frame 10).result.isOk
          = false := by decide +kernel
    exact nomatch hraises.symm.trans (congrArg Except.isOk hn)

/-- What stands in the way of a session: more frames than progress can be shown of, and a name that
    the system cannot be told. -/
theorem run_breaks_off :
    let files : Files := { read := fun _ => .ok [0xFF, 0xFF], obstacle := fun _ => none }
    let missing : Files := { read := fun _ => .error .missing, obstacle := fun _ => none }
    let words := ["rom.ch8", "--frames", String.ofList ('1' :: List.replicate 309 '0')]
    (parse words = .ok (.settings { rom := "rom.ch8", frames := Int.pow 10 309 }) ∧
      run words files ⟨.float 0, []⟩ false = .error (.error .outOfRange)) ∧
    parse ["\x00"] = .ok (.settings { rom := "\x00" }) ∧
      run ["\x00"] missing ⟨.float 0, []⟩ false = .error (.error .impossibleName) := by
  intro files missing words
  have hmachine (rom : String) (frames : Int) : sessionMachine { rom, frames } =
      .ok ⟨.initial {} (.ofSeed 0), .key, .ofSeed 0, false⟩ := rfl
  constructor
  · have hparse : parse words = .ok (.settings { rom := "rom.ch8", frames := Int.pow 10 309 }) := by
      have hplain : classify "rom.ch8" = .ok .plain := by rfl
      have hdigits : ∀ e ∈ 1 :: List.replicate 309 0, e < 10 := by
        refine List.forall_mem_cons.mpr ⟨by decide, fun e he => ?_⟩
        rw [List.eq_of_mem_replicate he]
        decide
      have hlength : (1 :: List.replicate 309 0).length ≤ maxDigits := by
        rw [List.length_cons, List.length_replicate]
        decide
      have hvalue : (digitsValue (1 :: List.replicate 309 0) : Int) = Int.pow 10 309 := by decide +kernel
      have h := parse_frames hplain hdigits hlength
      rw [hvalue, List.map_cons, List.map_replicate] at h
      exact h
    have hname : fileName "rom.ch8" = .ok "rom.ch8" := by rfl
    have hread : files.read "rom.ch8" = .ok [0xFF, 0xFF] := rfl
    have hshows : (barOf { rom := "rom.ch8", frames := Int.pow 10 309 } files.progress).shows 0 =
        some .outOfRange := by
      have hrounds : Decimal.roundsToDouble (Int.pow 10 309) = false := by decide +kernel
      exact ProgressBar.shows_ofDoubles hrounds 0
    obtain ⟨_, _, lines, -, -, hrun, -⟩ :=
      run_of_course hparse (Clock.readable_of_float 0) files false
    have hcourse := runSettings_unshowable (hmachine "rom.ch8" (Int.pow 10 309)) hname hread (by decide)
      hshows
    rw [hcourse] at hrun
    exact ⟨hparse, hrun⟩
  · have hparse : parse ["\x00"] = .ok (.settings { rom := "\x00" }) := rfl
    have hname : fileName "\x00" = .error .impossibleName := by rfl
    obtain ⟨_, _, lines, -, -, hrun, -⟩ := run_of_course hparse (Clock.readable_of_float 0) missing false
    rw [runSettings_unnameable (hmachine "\x00" 60) hname] at hrun
    exact ⟨hparse, hrun⟩

end

end CommandLine

end Chip8
