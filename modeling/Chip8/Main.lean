import Chip8.CommandLine.Session
import Chip8.Picture.Png

namespace Chip8.CommandLine

/-!
# The program

A session with the files, the clock and the output of the system.  What is said and done is decided
by the session; here it is only read, printed and written.  The picture file is a PNG file whatever
its name.
-/

/-- The reading of the clock in seconds. -/
def secondsNow : IO Float := do
  pure ((← IO.monoMsNow).toFloat / 1000)

/-- The problem behind an error of the system, whose number some calls give with a minus sign. -/
def problemOf (e : IO.Error) : FileProblem :=
  let number (code : UInt32) : Nat :=
    if code.toNat < 0x80000000 then code.toNat else 0x100000000 - code.toNat
  match e with
  | .alreadyExists _ code wording => .ofReason (number code) wording
  | .interrupted _ code wording => .ofReason (number code) wording
  | .noFileOrDirectory _ code wording => .ofReason (number code) wording
  | .invalidArgument _ code wording => .ofReason (number code) wording
  | .permissionDenied _ code wording => .ofReason (number code) wording
  | .resourceExhausted _ code wording => .ofReason (number code) wording
  | .inappropriateType _ code wording => .ofReason (number code) wording
  | .noSuchThing _ code wording => .ofReason (number code) wording
  | .otherError code wording => .ofReason (number code) wording
  | .resourceBusy code wording => .ofReason (number code) wording
  | .hardwareFault code wording => .ofReason (number code) wording
  | .illegalOperation code wording => .ofReason (number code) wording
  | other => .other 5 (toString other)

/-- The bytes of a file. -/
def readFile (name : String) : IO (Except FileProblem (List UInt8)) := do
  try pure (.ok (← IO.FS.readBinFile name).toList)
  catch e => pure (.error (problemOf e))

/-- A picture written to a file; the answer is the problem, if there was one. -/
def writePicture (name : String) (p : Picture) : IO (Option FileProblem) := do
  try
    IO.FS.writeBinFile name ⟨p.png.toArray⟩
    pure none
  catch e => pure (some (problemOf e))

/-- Some events logged now. -/
def say (logger : Logger) (events : List Event) : IO Unit := do
  let output ← IO.getStdout
  for event in events do
    if logger.admits event.level.name then
      output.putStrLn (logger.line (← secondsNow) event.level.name event.text)
  output.flush

/-- A session that ends without an exit code of its own. -/
def breakDown (text : String) : IO UInt32 := do
  IO.eprintln text
  pure 1

/-- What is said about an error without a wording of its own. -/
def plainErrorText : Error → String
  | .unwritablePictureKind => "picture files of this kind cannot be written"
  | .unsuitablePictureKind => "picture files of this kind do not take this picture"
  | .unspellableName => "file name that cannot be written"
  | _ => "number out of range"

/-- What is said about an error. -/
def errorText (e : Error) : String := e.message.getD (plainErrorText e)

/-- What is said about an option without the value it needs. -/
def valuelessText (flag : Flag) : String := "argument " ++ flag.shown ++ ": no value"

/-- What is said about a session that broke down. -/
def breakdownText (s : Settings) : Breakdown → String
  | .error e => errorText e
  | .file problem => problem.text (s.screenshot.getD "")
  | .valueless flag => valuelessText flag

/-- A session with a loaded machine.  Whether the picture can be written shows only when it is. -/
def playSession (s : Settings) (logger : Logger) (m : Machine) : IO UInt32 := do
  let course := play s .ofDoubles (fun _ => none) m
  match course.ending with
  | .error breakdown =>
    say logger course.events
    breakDown (breakdownText s breakdown)
  | .ok (exit, none) =>
    say logger course.events
    pure (UInt32.ofNat exit)
  | .ok (exit, some (name, picture)) =>
    say logger course.events.dropLast
    match ← writePicture name picture with
    | some problem => breakDown (problem.text name)
    | none =>
      say logger (course.events.drop (course.events.length - 1))
      pure (UInt32.ofNat exit)

/-- A session with its settings.  The name of the program image is looked at before the file is. -/
def session (s : Settings) : IO UInt32 := do
  let coloured ← (← IO.getStdout).isTty
  let start ← secondsNow
  let created : Except Error (Logger × Machine × String) := do
    let logger ← sessionLogger s coloured start
    let machine ← sessionMachine s
    let name ← fileName s.rom
    pure (logger, machine, name)
  match created with
  | .error e => breakDown (errorText e)
  | .ok (logger, machine, name) =>
    let (loaded, events) := load s machine (← readFile name)
    say logger events
    match loaded with
    | none => pure 2
    | some m => playSession s logger m

/-- A session on the words of a command line. -/
def respond (words : List String) : IO UInt32 := do
  match parse words with
  | .error complaint =>
    for line in complaintLines complaint do
      IO.eprintln line
    pure 2
  | .ok .help =>
    for line in helpLines do
      IO.println line
    pure 0
  | .ok (.valueless flag) => breakDown (valuelessText flag)
  | .ok (.settings s) => session s

end Chip8.CommandLine

/-- The program: its exit code on the words of its command line. -/
def main (words : List String) : IO UInt32 := Chip8.CommandLine.respond words
