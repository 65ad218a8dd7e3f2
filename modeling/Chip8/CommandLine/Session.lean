import Chip8.CommandLine.Arguments
import Chip8.Machine
import Chip8.Picture
import Chip8.Picture.FileKind

namespace Chip8.CommandLine

open Chip8.Text

/-!
# Sessions

A run of the command line from its words to its exit code.

* `FileProblem`, `ProgressBar`, `Files` — what can be wrong with a file, a bar that shows progress,
  and the surroundings of a run;
* `load` — the machine with the program image loaded, or the events that tell why not;
* `drive` — the frames, up to the first fault, with the bar that shows them;
* `Course` — what a session logs and how it ends;
* `play` — keys, frames, the summary and the picture;
* `run` — all of it, with what is printed.
-/

/-- What can be wrong with a file. -/
inductive FileProblem
  | missing
  | isDirectory
  | notDirectory
  | notPermitted
  | nameTooLong
  /-- A problem with a number and a wording of its own. -/
  | other (number : Nat) (wording : String)
deriving DecidableEq, Repr, Inhabited

namespace FileProblem

/-- The number and the wording that systems give to a problem. -/
def reason : FileProblem → Nat × String
  | missing => (2, "No such file or directory")
  | isDirectory => (21, "Is a directory")
  | notDirectory => (20, "Not a directory")
  | notPermitted => (13, "Permission denied")
  | nameTooLong => (36, "File name too long")
  | other number wording => (number, wording)

/-- The problem that a system gives a number and a wording to. -/
def ofReason (number : Nat) (wording : String) : FileProblem :=
  match number with
  | 2 => missing
  | 13 => notPermitted
  | 20 => notDirectory
  | 21 => isDirectory
  | 36 => nameTooLong
  | number => other number wording

/-- The message about a problem with a file. -/
def text (p : FileProblem) (name : String) : String :=
  let (number, wording) := p.reason
  "[Errno " ++ decimal number ++ "] " ++ wording ++ ": " ++ quoted name

end FileProblem

/-- A bar that shows progress through some frames.  It is not part of the program: what it raises
    when so many of the frames are done, if it raises anything, and what it raises when it is
    closed. -/
structure ProgressBar where
  shows : Nat → Option Error
  closes : Option Error

namespace ProgressBar

/-- A bar that is not shown. -/
def hidden : ProgressBar := ⟨fun _ => none, none⟩

/-- A bar that calculates with doubles, so that the number of frames has to round to one. -/
def ofDoubles (frames : Int) : ProgressBar where
  shows _ := if Decimal.roundsToDouble frames then none else some .outOfRange
  closes := none

/-- The bar raises nothing while so many frames are run. -/
def Works (bar : ProgressBar) (frames : Nat) : Prop :=
  bar.closes = none ∧ ∀ done ≤ frames, bar.shows done = none

end ProgressBar

/-- The surroundings of a run: what reading a file gives, what stands in the way of writing one, and
    the bar that shows progress through a number of frames. -/
structure Files where
  read : String → Except FileProblem (List UInt8)
  obstacle : String → Option FileProblem
  progress : Int → ProgressBar := .ofDoubles

/-- Why a session ends without an exit code. -/
inductive Breakdown
  /-- An operation of the library failed. -/
  | error (error : Error)
  /-- The picture could not be written. -/
  | file (problem : FileProblem)
  /-- An option that needs a value is there without one. -/
  | valueless (flag : Flag)
deriving Inhabited

/-- How a session goes: the events it logs, and how it ends, with its exit code and the picture
    under its name, or breaking down. -/
structure Course where
  events : List Event
  ending : Except Breakdown (Nat × Option (String × Picture))

/-- A session that goes on after some events. -/
def Course.after (events : List Event) (c : Course) : Course := { c with events := events ++ c.events }

/-- A session that breaks down without another event. -/
def Course.brokenBy (error : Error) : Course := ⟨[], .error (.error error)⟩

/-- What a session leaves. -/
structure Outcome where
  exit : Nat
  /-- The lines on standard output. -/
  lines : List String
  /-- The lines on standard error. -/
  complaint : List String
  /-- The picture that was written, under its name. -/
  picture : Option (String × Picture)
deriving Repr, Inhabited

/-! ### Loading -/

/-- The event of a program image that could not be loaded. -/
def cannotLoad (rom reason : String) : Event :=
  ⟨.error, "Cannot load " ++ rom ++ ": " ++ reason⟩

/-- A machine with the program image loaded, or none, and the events on the way. -/
def load (s : Settings) (m : Machine) (file : Except FileProblem (List UInt8)) :
    Option Machine × List Event :=
  match file with
  | .error problem => (none, [cannotLoad s.rom (problem.text s.rom)])
  | .ok rom =>
    let reply := m.load rom
    match reply.result with
    | .ok _ => (some reply.machine, reply.events)
    | .error error =>
      (none, reply.events ++ [cannotLoad s.rom (error.message.getD "")])

/-! ### Running -/

/-- The machine with the given keys held down. -/
def holdKeys (m : Machine) (keys : List Nat) : Machine :=
  keys.foldl (fun machine (k : Nat) => (machine.setKey (.int k) (.bool true)).machine) m

/-- What some frames leave: the machine, the sum of the counts that the frames answered, whether a
    fault ended them, and the events. -/
structure Drive where
  machine : Machine
  executed : Nat
  halted : Bool
  events : List Event

/-- Up to `frames` further frames after `done` frames and `executed` counted instructions, ending at
    the first fault.  A frame that faults answers no count, and the bar moves on after the
    others. -/
def drive (bar : ProgressBar) (m : Machine) (ipf : Int) : Nat → Nat → Nat → Except Error Drive
  | 0, _, executed => .ok ⟨m, executed, false, []⟩
  | frames + 1, done, executed =>
    let reply := m.frame ipf
    match reply.result with
    | .ok answer =>
      match bar.shows (done + 1) with
      | some error => .error error
      | none => drive bar reply.machine ipf frames (done + 1) (executed + answer.count)
    | .error (.fault _) => .ok ⟨reply.machine, executed, true, reply.events⟩
    | .error error => .error error

/-- The event that sums up a run. -/
def summary (d : Drive) : Event :=
  let s := d.machine.state
  ⟨.info, "Executed " ++ decimal d.executed ++ " instructions, pc=0x" ++ hex 4 s.pc.toNat
    ++ ", delay=" ++ decimal s.delay.toNat ++ ", sound=" ++ decimal s.sound.toNat⟩

/-- The picture of a machine in the colours and the size that a session uses. -/
def machinePicture (m : Machine) : Except Error Picture :=
  m.state.screen.grid.screenshot Grid.defaultScale "classic"

/-- A name of a file, if it can be one: it must be possible to tell it to the system, and it must
    not hold the character that ends names there. -/
def fileName (name : String) : Except Error String :=
  if !isSpellable name then .error .unspellableName
  else if name.toList.contains '\x00' then .error .impossibleName
  else .ok name

/-- The picture of a machine under a name, if it can be written.  The kind of the file is looked up
    first, then the file is opened, and last the kind has to take the picture. -/
def savePicture (obstacle : String → Option FileProblem) (m : Machine) (name : String) :
    Except Breakdown (String × Picture) := do
  let picture ← (machinePicture m).mapError Breakdown.error
  let kind ← (FileKind.ofName name).mapError Breakdown.error
  let name ← (fileName name).mapError Breakdown.error
  match obstacle name with
  | some problem => throw (.file problem)
  | none => do
    kind.takesColours.mapError Breakdown.error
    pure (name, picture)

/-- The bar of a session; none is shown if it is not to be. -/
def barOf (s : Settings) (progress : Int → ProgressBar) : ProgressBar :=
  if s.noProgress then .hidden else progress s.frames

/-- What is left to do with a loaded machine: hold the keys down, run the frames, sum up and write
    the picture if one is wanted and nothing stands in its way.  The bar is closed however the
    frames end. -/
def play (s : Settings) (progress : Int → ProgressBar) (obstacle : String → Option FileProblem)
    (m : Machine) : Course :=
  let bar := barOf s progress
  match bar.shows 0 with
  | some error => .brokenBy error
  | none =>
    match drive bar (holdKeys m s.heldKeys) s.ipf s.frames.toNat 0 0 with
    | .error error => .brokenBy (bar.closes.getD error)
    | .ok d =>
      let halt : List Event := if d.halted then [⟨.critical, "Emulation halted"⟩] else []
      match bar.closes with
      | some error => ⟨d.events ++ halt, .error (.error error)⟩
      | none =>
        let exit := if d.halted then 1 else 0
        let events := d.events ++ halt ++ [summary d]
        let name := s.screenshot.getD ""
        if name.isEmpty then ⟨events, .ok (exit, none)⟩
        else
          match savePicture obstacle d.machine name with
          | .error breakdown => ⟨events, .error breakdown⟩
          | .ok saved =>
            ⟨events ++ [⟨.info, "Screenshot saved: " ++ name⟩], .ok (exit, some saved)⟩

/-! ### Whole sessions -/

/-- The logger of a session. -/
def sessionLogger (s : Settings) (coloured : Bool) (start : Float) : Except Error Logger :=
  Logger.create programName s.level coloured true start

/-- The machine of a session, with nothing loaded. -/
def sessionMachine (s : Settings) : Except Error Machine := do
  let dialect ← Dialect.named s.dialect
  Machine.create dialect s.seed .key

/-- A run with given settings, and everything it logs. -/
def runSettings (s : Settings) (files : Files) : Course :=
  match sessionMachine s with
  | .error error => .brokenBy error
  | .ok machine =>
    match fileName s.rom with
    | .error error => .brokenBy error
    | .ok name =>
      match load s machine (files.read name) with
      | (none, events) => ⟨events, .ok (2, none)⟩
      | (some machine, events) => (play s files.progress files.obstacle machine).after events

/-- The lines on standard error after a complaint. -/
def complaintLines (c : Complaint) : List String :=
  usageLines ++ [programName ++ ": error: " ++ c.message]

/-- Whether the clock is read before an option without its value shows. -/
def readsClockFirst (flag : Flag) : Bool := flag = .dialect || flag = .seed

/-- A whole session.  The clock is read once at its start and once for each printed line; what is
    logged before the session breaks down is printed first. -/
def run (words : List String) (files : Files) (clock : Clock) (coloured : Bool) :
    Except Breakdown Outcome :=
  match parse words with
  | .error complaint => .ok ⟨2, [], complaintLines complaint, none⟩
  | .ok .help => .ok ⟨0, helpLines, [], none⟩
  | .ok (.valueless flag) => do
    if readsClockFirst flag then
      let _ ← clock.read.1.mapError Breakdown.error
    throw (.valueless flag)
  | .ok (.settings s) => do
    let (reading, clock) := clock.read
    let start ← reading.mapError Breakdown.error
    let logger ← (sessionLogger s coloured start).mapError Breakdown.error
    let course := runSettings s files
    let lines ← (logger.emitAll clock course.events).mapError Breakdown.error
    let (exit, picture) ← course.ending
    pure ⟨exit, lines, [], picture⟩

end Chip8.CommandLine
