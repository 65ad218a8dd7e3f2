import Chip8.HostNumber
import Chip8.Text.UpperCase

namespace Chip8

open Chip8.Text Chip8.Decimal

/-!
# Log

* `Level` — the five levels from the lowest to the highest, `Level.read` — a level by its name in
  any case;
* `Event` — something to log;
* `Clock` — the readings of a clock, `Logger` — who prints what and how;
* `Logger.admits`, `Logger.line`, `Logger.emit` — which events are printed, their text, and printing
  one of them with the reading of the clock it takes;
* `Logger.emitAll_of_unstamped` — a logger that does not tell the time needs no clock, and prints
  the lines of the events it admits in their order.
-/

/-- How important an event is. -/
inductive Level
  | debug
  | info
  | warning
  | error
  | critical
deriving DecidableEq, Repr, Inhabited

namespace Level

/-- All levels from the lowest to the highest. -/
def all : List Level := [debug, info, warning, error, critical]

/-- The name of a level. -/
def name : Level → String
  | debug => "DEBUG"
  | info => "INFO"
  | warning => "WARNING"
  | error => "ERROR"
  | critical => "CRITICAL"

/-- The names of all levels. -/
def names : List String := all.map name

/-- The rank of a level. -/
def rank : Level → Nat
  | debug => 0
  | info => 1
  | warning => 2
  | error => 3
  | critical => 4

/-- The level of a name in upper case. -/
def ofName? (s : String) : Option Level := all.find? (fun level => level.name == s)

/-- The level of a name in any case. -/
def read (s : String) : Except Error Level :=
  match ofName? (upper s) with
  | some level => .ok level
  | none => .error (.unknownLevel s names)

/-- Every level has its name. -/
@[simp] theorem ofName?_name (level : Level) : ofName? level.name = some level := by
  cases level <;> decide

end Level

/-- Something to log. -/
structure Event where
  level : Level
  text : String
deriving DecidableEq, Repr, Inhabited

/-- The readings of a clock as a host gives them: the next one, and those after it.  The last one
    repeats. -/
structure Clock where
  next : Value
  later : List Value

/-- One reading in seconds, and the clock afterwards.  Only a reading that is taken has to be a
    number. -/
def Clock.read (c : Clock) : Except Error Float × Clock :=
  match c.later with
  | [] => (c.next.seconds, c)
  | t :: rest => (c.next.seconds, ⟨t, rest⟩)

/-- A logger: its name, the lowest level it prints, whether it colours the level and whether it puts
    the time since its start in front. -/
structure Logger where
  name : String
  threshold : Level
  coloured : Bool
  stamped : Bool
  start : Float

namespace Logger

/-- A logger that starts at a time, printing from the named level up. -/
def create (name level : String) (coloured stamped : Bool) (start : Float) :
    Except Error Logger := do
  let threshold ← Level.read level
  pure { name, threshold, coloured, stamped, start }

/-- A logger that prints warnings and worse, without the time. -/
def quiet (name : String) (coloured : Bool) (start : Float) : Logger where
  name := name
  threshold := .warning
  coloured := coloured
  stamped := false
  start := start

/-- The logger with another lowest level. -/
def setLevel (l : Logger) (level : String) : Except Error Logger := do
  let threshold ← Level.read level
  pure { l with threshold }

/-- The rank of a level given by any text; what is no level ranks with information. -/
def rankOf (level : String) : Nat :=
  match Level.ofName? (upper level) with
  | some l => l.rank
  | none => Level.info.rank

/-- Whether a level is printed. -/
def admits (l : Logger) (level : String) : Bool := decide (l.threshold.rank ≤ rankOf level)

/-- A text with blanks in front up to a width. -/
def alignRight (width : Nat) (s : String) : String :=
  String.ofList (s.toList.leftpad width ' ')

/-- The terminal code that ends a colour. -/
def colourEnd : String := "\x1b[0m"

/-- The terminal code that starts the colour of a level; what is no level has no colour. -/
def colourStart (level : String) : String :=
  match upper level with
  | "DEBUG" => "\x1b[36m"
  | "INFO" => "\x1b[32m"
  | "WARNING" => "\x1b[33m"
  | "ERROR" => "\x1b[31m"
  | "CRITICAL" => "\x1b[35m"
  | "RESET" => colourEnd
  | _ => ""

/-- The time since the start, in seconds with two places. -/
def stamp (l : Logger) (now : Float) : String :=
  if l.stamped then "[" ++ alignRight 8 (fixed 2 (now - l.start)) ++ "s]" else ""

/-- The level in brackets, coloured if the logger does that. -/
def tag (l : Logger) (level : String) : String :=
  let plain := "[" ++ alignRight 8 level ++ "]"
  if l.coloured then colourStart level ++ plain ++ colourEnd else plain

/-- The line printed for a text. -/
def line (l : Logger) (now : Float) (level text : String) : String :=
  l.stamp now ++ l.tag level ++ "[" ++ l.name ++ "] " ++ text

/-- What is printed for a text, and the clock afterwards: a printed line with a time takes one
    reading. -/
def emit (l : Logger) (clock : Clock) (level text : String) :
    Except Error (Option String) × Clock :=
  if l.admits level then
    if l.stamped then
      let (now, clock) := clock.read
      (now.map fun t => some (l.line t level text), clock)
    else (.ok (some (l.line l.start level text)), clock)
  else (.ok none, clock)

/-- What is printed for several events. -/
def emitAll (l : Logger) (clock : Clock) : List Event → Except Error (List String)
  | [] => .ok []
  | event :: rest => do
    let (printed, clock) := l.emit clock event.level.name event.text
    let line ← printed
    let lines ← l.emitAll clock rest
    pure (line.toList ++ lines)

/-- The lines of the events that are printed, all at the time of the start. -/
def linesAtStart (l : Logger) (events : List Event) : List String :=
  (events.filter fun event => l.admits event.level.name).map fun event =>
    l.line l.start event.level.name event.text

/-- A logger that does not tell the time needs no clock. -/
theorem emit_of_unstamped {l : Logger} (h : l.stamped = false) (clock : Clock)
    (level text : String) :
    l.emit clock level text
      = (.ok (if l.admits level then some (l.line l.start level text) else none), clock) := by
  by_cases ha : l.admits level = true <;> simp [emit, h, ha]

/-- A logger that does not tell the time prints the lines of the events it admits in their order. -/
theorem emitAll_of_unstamped {l : Logger} (h : l.stamped = false) (clock : Clock)
    (events : List Event) : l.emitAll clock events = .ok (l.linesAtStart events) := by
  induction events with
  | nil => rfl
  | cons event rest ih =>
    rw [emitAll, emit_of_unstamped h]
    by_cases ha : l.admits event.level.name = true <;>
      simp [ih, ha, linesAtStart, bind, Except.bind, pure, Except.pure]

end Logger

end Chip8
