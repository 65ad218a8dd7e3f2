import Chip8.CommandLine.Help
import Chip8.Dialect
import Chip8.Log
import Chip8.Text.Integer

namespace Chip8.CommandLine

open Chip8.Text

/-!
# Arguments

From the words of a command line to the settings of a run.

* `Flag` — the options, `Settings` — what they set, `Complaint` — what can be wrong with them;
* `classify` — whether a word is an option, from its spelling alone: an option may be cut short as
  long as it stays unique, and its value may follow an equals sign;
* `gather` — the words taken in order: options take their values, the first plain word is the
  program image, any other word is left over;
* `parse` — the settings, or the request for help, or the complaint.

A word that begins with a dash is plain if it is a dash alone, looks like a negative number or holds
a blank.  After the word of two dashes every word is plain.  Two dashes behind the equals sign of an
option are no value: the option is then there without one.
-/

/-- An option. -/
inductive Flag
  | help
  | frames
  | ipf
  | seed
  | dialect
  | screenshot
  | keys
  | level
  | noProgress
deriving DecidableEq, Repr, Inhabited

namespace Flag

/-- All spellings of the options, in their fixed order. -/
def spellings : List (String × Flag) :=
  [("-h", help), ("--help", help), ("--frames", frames), ("--ipf", ipf), ("--seed", seed),
   ("--quirks", dialect), ("--screenshot", screenshot), ("--keys", keys), ("--log-level", level),
   ("--no-progress", noProgress)]

/-- How messages name an option: all its spellings. -/
def shown (f : Flag) : String :=
  "/".intercalate ((spellings.filter (fun entry => entry.2 == f)).map (·.1))

/-- Whether the option takes a value. -/
def takesValue : Flag → Bool
  | help => false
  | noProgress => false
  | _ => true

end Flag

/-- What a run is to do. -/
structure Settings where
  /-- The file of the program image. -/
  rom : String
  /-- The number of frames. -/
  frames : Int := 60
  /-- The number of instructions in a frame. -/
  ipf : Int := 10
  /-- The seed of the random bytes. -/
  seed : Int := 0
  /-- The name of the dialect. -/
  dialect : String := "default"
  /-- The file of the final picture, if one is wanted. -/
  screenshot : Option String := none
  /-- The digits of the keys that are held down. -/
  keys : String := ""
  /-- The name of the lowest log level that is printed. -/
  level : String := "INFO"
  /-- Whether no progress is shown. -/
  noProgress : Bool := false
deriving Repr, Inhabited

/-- What can be wrong with a command line. -/
inductive Complaint
  /-- A shortened option fits several. -/
  | ambiguous (word : String) (candidates : List String)
  /-- An option lacks its value. -/
  | valueMissing (flag : Flag)
  /-- An option that takes no value was given one. -/
  | valueIgnored (flag : Flag) (value : String)
  /-- A value should have been an integer. -/
  | notAnInteger (flag : Flag) (value : String)
  /-- A value should have been one of several. -/
  | notAChoice (flag : Flag) (value : String) (choices : List String)
  /-- No program image was named. -/
  | romMissing
  /-- Some words mean nothing. -/
  | unrecognized (words : List String)
  /-- A count is negative. -/
  | negativeCount
  /-- A key is not a hexadecimal digit. -/
  | badKeys (keys : String)
deriving Repr, Inhabited

/-- The wording of a complaint. -/
def Complaint.message : Complaint → String
  | ambiguous word candidates =>
    "ambiguous option: " ++ word ++ " could match " ++ ", ".intercalate candidates
  | valueMissing flag => "argument " ++ flag.shown ++ ": expected one argument"
  | valueIgnored flag value =>
    "argument " ++ flag.shown ++ ": ignored explicit argument " ++ quoted value
  | notAnInteger flag value =>
    "argument " ++ flag.shown ++ ": invalid int value: " ++ quoted value
  | notAChoice flag value choices =>
    "argument " ++ flag.shown ++ ": invalid choice: " ++ quoted value ++ " (choose from "
      ++ ", ".intercalate (choices.map quoted) ++ ")"
  | romMissing => "the following arguments are required: rom"
  | unrecognized words => "unrecognized arguments: " ++ " ".intercalate words
  | negativeCount => "--frames and --ipf must be non-negative"
  | badKeys keys => "--keys must be hex digits, got '" ++ keys ++ "'"

/-! ### Words -/

/-- What a word is, from its spelling. -/
inductive Kind
  /-- A plain word. -/
  | plain
  /-- The two dashes after which all words are plain. -/
  | separator
  /-- An option, with the value that its word holds. -/
  | flag (flag : Flag) (value : Option String)
  /-- The short option for help with more characters at its end, an equals sign in front of them
      left out. -/
  | help (rest : List Char)
  /-- A word that looks like an option but is none. -/
  | unknown
deriving Repr, Inhabited

/-- A word and what it is. -/
structure Item where
  word : String
  kind : Kind
deriving Repr, Inhabited

/-- A word parted at its first equals sign. -/
def splitValue (word : String) : String × Option String :=
  match word.toList.span (· != '=') with
  | (name, _ :: value) => (String.ofList name, some (String.ofList value))
  | (name, []) => (String.ofList name, none)

/-- Whether all characters are decimal digits. -/
def allDigits (cs : List Char) : Bool := cs.all (fun c => (decimalDigit? c).isSome)

/-- Whether the characters after a dash make up a number, with or without a point.  A line feed at
    the end does no harm. -/
def isNumber (cs : List Char) : Bool :=
  let body := if cs.getLast? = some '\n' then cs.dropLast else cs
  match body.span (· != '.') with
  | (whole, []) => !whole.isEmpty && allDigits whole
  | (whole, _ :: fraction) => allDigits whole && !fraction.isEmpty && allDigits fraction

/-- The options that a word of two dashes and a beginning of a name may mean. -/
def candidates (start : String) : List (String × Flag) :=
  Flag.spellings.filter (fun entry => start.toList.isPrefixOf entry.1.toList)

/-- What a word is that begins with a dash and is no option, from what follows the dash. -/
def classifyOther (afterDash : List Char) : Kind :=
  if isNumber afterDash || afterDash.contains ' ' then .plain else .unknown

/-- What a word is. -/
def classify (word : String) : Except Complaint Kind :=
  let (name, value) := splitValue word
  match word.toList with
  | '-' :: second :: rest =>
    match Flag.spellings.lookup word, Flag.spellings.lookup name with
    | some flag, _ => .ok (.flag flag none)
    | none, some flag =>
      .ok (if name = "-h" ∧ value ≠ some "" then .help (value.getD "").toList else .flag flag value)
    | none, none =>
      if second = '-' then
        match candidates name with
        | [] => .ok (classifyOther (second :: rest))
        | [(_, flag)] => .ok (.flag flag value)
        | several => .error (.ambiguous word (several.map (·.1)))
      else if second = 'h' then .ok (.help rest)
      else .ok (classifyOther (second :: rest))
  | _ => .ok .plain

/-- All words with what they are. -/
def classifyAll : List String → Except Complaint (List Item)
  | [] => .ok []
  | word :: rest =>
    if word = "--" then .ok (⟨word, .separator⟩ :: rest.map (⟨·, .plain⟩))
    else do
      let kind ← classify word
      let items ← classifyAll rest
      pure (⟨word, kind⟩ :: items)

/-! ### Values -/

/-- An integer value. -/
def integerValue (flag : Flag) (value : String) : Except Complaint Int :=
  match readInteger? value with
  | some z => .ok z
  | none => .error (.notAnInteger flag value)

/-- A value that must be one of several. -/
def choiceValue (flag : Flag) (value : String) (choices : List String) : Except Complaint String :=
  if choices.contains value then .ok value else .error (.notAChoice flag value choices)

/-- The names of the dialects in alphabetical order. -/
def dialectChoices : List String := Dialect.names.mergeSort (fun a b => decide (a ≤ b))

/-- The settings with the value of one option set. -/
def Settings.set (s : Settings) (flag : Flag) (value : String) : Except Complaint Settings :=
  match flag with
  | .frames => do pure { s with frames := ← integerValue flag value }
  | .ipf => do pure { s with ipf := ← integerValue flag value }
  | .seed => do pure { s with seed := ← integerValue flag value }
  | .dialect => do pure { s with dialect := ← choiceValue flag value dialectChoices }
  | .screenshot => .ok { s with screenshot := some value }
  | .keys => .ok { s with keys := value }
  | .level => do pure { s with level := ← choiceValue flag (upper value) Level.names }
  | .help => .ok s
  | .noProgress => .ok { s with noProgress := true }

/-! ### Whole command lines -/

/-- What was understood so far: the settings, the options that are there without a value, whether
    the program image was named, and the words that are left over, last first. -/
structure Progress where
  settings : Settings
  blank : List Flag := []
  romNamed : Bool := false
  extra : List String := []

/-- The outcome of reading a command line. -/
inductive Parsed
  | help
  /-- An option that needs a value is there without one. -/
  | valueless (flag : Flag)
  | settings (settings : Settings)
deriving Repr, Inhabited

/-- One more word that is left over. -/
def Progress.leave (p : Progress) (word : String) : Progress :=
  { p with extra := word :: p.extra }

/-- A plain word: the program image if that has not been named yet. -/
def Progress.plain (p : Progress) (word : String) : Progress :=
  if p.romNamed then p.leave word
  else { p with settings := { p.settings with rom := word }, romNamed := true }

/-- An option with its value, the last value being the one that counts.  Without a value, no keys
    are held down and no picture is wanted; what else that means shows at the end. -/
def Progress.set (p : Progress) (flag : Flag) (value : String) : Except Complaint Progress :=
  if value = "--" then
    match flag with
    | .keys => .ok { p with settings := { p.settings with keys := "" } }
    | .screenshot => .ok { p with settings := { p.settings with screenshot := none } }
    | other => .ok { p with blank := other :: p.blank }
  else do
    let settings ← p.settings.set flag value
    pure { p with settings, blank := p.blank.filter (· != flag) }

/-- What follows the short option for help in its word: it may be repeated, but it takes no
    value. -/
def checkHelp (rest : List Char) : Except Complaint Unit :=
  match rest.dropWhile (· == 'h') with
  | [] => .ok ()
  | value => .error (.valueIgnored .help (String.ofList value))

/-- The words taken in order; `none` if help was asked for. -/
def gather : List Item → Progress → Except Complaint (Option Progress)
  | [], p => .ok (some p)
  | ⟨word, .plain⟩ :: ⟨_, .separator⟩ :: rest, p =>
    if p.romNamed then gather rest ((p.leave word).leave "--") else gather rest (p.plain word)
  | ⟨word, .plain⟩ :: rest, p => gather rest (p.plain word)
  | ⟨word, .separator⟩ :: [], p => .ok (some (p.leave word))
  | ⟨word, .separator⟩ :: rest, p =>
    if p.romNamed then gather rest (p.leave word) else gather rest p
  | ⟨word, .unknown⟩ :: rest, p => gather rest (p.leave word)
  | ⟨_, .help chars⟩ :: _, _ => do
    checkHelp chars
    pure none
  | ⟨_, .flag flag (some value)⟩ :: rest, p =>
    if flag.takesValue then do
      let p ← p.set flag value
      gather rest p
    else .error (.valueIgnored flag value)
  | ⟨_, .flag flag none⟩ :: rest, p =>
    if flag.takesValue then
      match rest with
      | ⟨value, .plain⟩ :: rest => do
        let p ← p.set flag value
        gather rest p
      | _ => .error (.valueMissing flag)
    else if flag = .help then .ok none
    else do
      let settings ← p.settings.set flag ""
      gather rest { p with settings }

/-- Whether the keys of some settings are hexadecimal digits. -/
def Settings.keysFit (s : Settings) : Bool := s.keys.toList.all (fun c => (hexDigit? c).isSome)

/-- The settings of a command line whose counts and keys make sense, and whose options have the
    values they need.  The counts are looked at first, one after the other, then the keys, then the
    rest in the order of their use. -/
def Progress.finish (p : Progress) : Except Complaint Parsed :=
  let s := p.settings
  if .frames ∈ p.blank then .ok (.valueless .frames)
  else if s.frames < 0 then .error .negativeCount
  else if .ipf ∈ p.blank then .ok (.valueless .ipf)
  else if s.ipf < 0 then .error .negativeCount
  else if !s.keysFit then .error (.badKeys s.keys)
  else
    match [Flag.level, .dialect, .seed].find? (p.blank.contains ·) with
    | some flag => .ok (.valueless flag)
    | none => .ok (.settings s)

/-- What a command line asks for. -/
def parse (words : List String) : Except Complaint Parsed := do
  let items ← classifyAll words
  match ← gather items { settings := { rom := "" } } with
  | none => pure .help
  | some p =>
    if !p.romNamed then throw .romMissing
    if !p.extra.isEmpty then throw (.unrecognized p.extra.reverse)
    p.finish

/-- The keys that are held down. -/
def Settings.heldKeys (s : Settings) : List Nat := s.keys.toList.filterMap hexDigit?

end Chip8.CommandLine
