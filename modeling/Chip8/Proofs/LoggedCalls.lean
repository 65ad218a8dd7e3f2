import Chip8.Proofs.Atomicity
import Chip8.Proofs.OutputOnly
import Chip8.Proofs.Printing

namespace Chip8

open Chip8.Text

/-!
# What is logged

The events that a machine logs are told by its answers: loading logs what it does, and a fault of
the interpreter is logged where it is answered.  Everything else is silent.

* `Fault.line`, `Fault.describe_eq_line` — the text that is logged of a fault, kind by kind;
* `Rom.logged`, `HostCall.logged` — the events of a load, and of a call by what is answered;
* `Machine.events_answer`, `Machine.events_answers` — a machine logs these events, for one call and
  for several;
* `Machine.StandsAt`, `Machine.standsAt_answer` — a fault is that of the instruction at which the
  machine is left;
* `Logger.plain`, `Logger.emitAll_plain` — what a logger prints that neither tells the time nor
  colours;
* `log_exact` — the lines that are printed, `load_logs_reset_only` — a load that prints one of its
  two.
-/

/-! ### The text of a fault -/

namespace Fault

/-- Where a fault has happened, as it stands behind its kind. -/
def placeMark : Option Int → String
  | none => ""
  | some pc => " pc=0x" ++ hex 4 pc

/-- Where a fault has happened, as it stands in its message. -/
def placeText : Option Int → String
  | none => "?"
  | some pc => "0x" ++ hex 4 pc

/-- The text that is logged of a fault: its kind, the instruction word where the fault is about one,
    the program counter where it is known, and the message. -/
def line : Fault → String
  | general details => "Chip8Error: " ++ detailsText details
  | romTooLarge size limit =>
    "RomTooLarge: ROM too large: " ++ decimal size ++ "/" ++ decimal limit ++ " bytes"
  | invalidKey index => "InvalidKeyIndex: No such key: " ++ index.shown ++ " (expected 0-15)"
  | memoryOutOfBounds start length pc =>
    "MemoryOutOfBounds" ++ placeMark pc ++ ": Memory access out of bounds: " ++ decimal length ++
      " byte(s) at 0x" ++ hex 4 start ++ " (pc=" ++ placeText pc ++ ")"
  | stackFault pc depth =>
    "StackFault" ++ placeMark pc ++ ": Stack fault (pc=" ++ placeText pc ++ ", depth=" ++
      depth? depth ++ ")"
  | stackOverflow pc depth =>
    "StackOverflow" ++ placeMark pc ++ ": Stack overflow (pc=" ++ placeText pc ++ ", depth=" ++
      depth? depth ++ ")"
  | stackUnderflow pc depth =>
    "StackUnderflow" ++ placeMark pc ++ ": Stack underflow (pc=" ++ placeText pc ++ ", depth=" ++
      depth? depth ++ ")"
  | unknownOpcode opcode pc =>
    "UnknownOpcode opcode=0x" ++ hex 4 opcode ++ placeMark pc ++ ": Unknown opcode 0x" ++ hex 4 opcode ++
      " at pc=" ++ placeText pc
  | rejectedWrite field value => "DebugWriteError: Invalid value for " ++ field ++ ": " ++ value.shown

/-- A place in a message is a word with its mark. -/
theorem address?_eq_placeText (pc : Option Int) : address? pc = placeText pc := by
  cases pc <;> rfl

/-- A place behind a kind is a named address. -/
theorem mark_eq_placeMark (pc : Option Int) : mark "pc" pc = placeMark pc := by
  have hmark : " pc=0x" = " " ++ "pc" ++ "=" ++ "0x" := rfl
  cases pc with
  | none => rfl
  | some pc =>
    unfold mark placeMark address
    rw [hmark]
    simp only [String.append_assoc]

/-- The line of a fault that is not about an instruction word. -/
theorem headline_none (kind : FaultKind) (pc : Option Int) (text : String) :
    headline kind none pc text = kind.name ++ (placeMark pc ++ (": " ++ text)) := by
  unfold headline
  rw [mark_eq_placeMark, mark, String.append_empty, String.append_assoc, String.append_assoc]

/-- The line of a fault that is about an instruction word. -/
theorem headline_some (kind : FaultKind) (opcode : Int) (pc : Option Int) (text : String) :
    headline kind (some opcode) pc text =
      kind.name ++ (" opcode=0x" ++ (hex 4 opcode ++ (placeMark pc ++ (": " ++ text)))) := by
  have hmark : " opcode=0x" = " " ++ "opcode" ++ "=" ++ "0x" := rfl
  unfold headline
  rw [mark_eq_placeMark, hmark, mark, address]
  simp only [String.append_assoc]

/-- The line of a fault of the call stack. -/
theorem headline_stackText (kind : FaultKind) (text : String) (pc : Option Int) (depth : String)
    {reason : String} (h : reason = ": " ++ text ++ " (pc=") :
    headline kind none pc (stackText text pc depth) =
      kind.name ++ placeMark pc ++ reason ++ placeText pc ++ ", depth=" ++ depth ++ ")" := by
  unfold stackText
  rw [headline_none, h, address?_eq_placeText]
  simp only [String.append_assoc]

/-- Faults are described by their lines. -/
theorem describe_eq_line (fault : Fault) : fault.describe = fault.line := by
  cases fault with
  | general details =>
    show headline .general none none _ = "Chip8Error" ++ ": " ++ _
    rw [headline_none, String.append_assoc]
    rfl
  | romTooLarge size limit =>
    have hstart : "RomTooLarge: ROM too large: " = "RomTooLarge" ++ ": " ++ "ROM too large: " := rfl
    show headline .romTooLarge none none (romText (decimal size) (decimal limit)) = _
    unfold line romText
    rw [headline_none, hstart]
    simp only [placeMark, FaultKind.name, String.append_assoc, String.empty_append]
  | invalidKey index =>
    have hstart : "InvalidKeyIndex: No such key: " = "InvalidKeyIndex" ++ ": " ++ "No such key: " := rfl
    show headline .invalidKey none none (keyText _) = _
    unfold line keyText
    rw [headline_none, hstart]
    simp only [placeMark, FaultKind.name, String.append_assoc, String.empty_append]
  | memoryOutOfBounds start length pc =>
    have hreason : ": Memory access out of bounds: " = ": " ++ "Memory access out of bounds: " := rfl
    have hstart : " byte(s) at 0x" = " byte(s) at " ++ "0x" := rfl
    show headline .memoryOutOfBounds none pc (accessText (some start) _ pc) = _
    unfold line accessText
    rw [headline_none, hreason, hstart, address?_eq_placeText pc]
    simp only [address?, address, FaultKind.name, String.append_assoc]
  | stackFault pc depth => exact headline_stackText .stackFault "Stack fault" pc (depth? depth) rfl
  | stackOverflow pc depth =>
    exact headline_stackText .stackOverflow "Stack overflow" pc (depth? depth) rfl
  | stackUnderflow pc depth =>
    exact headline_stackText .stackUnderflow "Stack underflow" pc (depth? depth) rfl
  | unknownOpcode opcode pc =>
    have hkind : "UnknownOpcode opcode=0x" = "UnknownOpcode" ++ " opcode=0x" := rfl
    have hreason : ": Unknown opcode 0x" = ": " ++ "Unknown opcode " ++ "0x" := rfl
    show headline .unknownOpcode (some opcode) pc (opcodeText (some opcode) pc) = _
    unfold line opcodeText
    rw [headline_some, hkind, hreason, address?_eq_placeText pc]
    simp only [address?, address, FaultKind.name, String.append_assoc]
  | rejectedWrite field value =>
    have hstart : "DebugWriteError: Invalid value for " =
      "DebugWriteError" ++ ": " ++ "Invalid value for " := rfl
    show headline .rejectedWrite none none (writeText field value.shown) = _
    unfold line writeText
    rw [headline_none, hstart]
    simp only [placeMark, FaultKind.name, String.append_assoc, String.empty_append]

end Fault

/-! ### The events of a call -/

/-- The event of a fault. -/
def Fault.logged (fault : Fault) : Event := ⟨.error, fault.line⟩

/-- The events of a load.  An image that is too large is a fault, and so may be the error of an
    image that gives no bytes; an image without a length is loaded and not mentioned. -/
def Rom.logged (rom : Rom) : List Event :=
  ⟨.debug, "Resetting machine state"⟩ ::
    match rom.bytes, rom.size with
    | .error (.fault fault), _ => [fault.logged]
    | .error _, _ => []
    | .ok bytes, size =>
      if romLimit < bytes.length then [(Fault.romTooLarge bytes.length romLimit).logged]
      else
        match size with
        | .ok size => [⟨.info, "Loaded ROM (" ++ decimal size ++ " bytes)"⟩]
        | .error _ => []

/-- Whether a call runs instructions. -/
def HostCall.runs : HostCall → Bool
  | .operate .step => true
  | .operate (.frame _) => true
  | .frameFor _ _ => true
  | .operate _ => false

/-- The event of an answer that is a fault. -/
def loggedFault : Except Error Answer → List Event
  | .error (.fault fault) => [fault.logged]
  | _ => []

/-- The events of a call that has been answered: a load tells what becomes of the image, and a step
    or a frame tells of its fault. -/
def HostCall.logged (call : HostCall) (result : Except Error Answer) : List Event :=
  match call with
  | .operate (.load rom) => rom.logged
  | .operate .step => loggedFault result
  | .operate (.frame _) => loggedFault result
  | .frameFor _ _ => loggedFault result
  | .operate _ => []

/-- A refusal that is no fault of the interpreter is silent. -/
theorem loggedFault_refusal {error : Error} (h : ∀ fault, error ≠ .fault fault) :
    loggedFault (.error error) = [] := by
  unfold loggedFault
  split
  · next heq => exact absurd (Except.error.inj heq) (h _)
  · rfl

/-- A fault is logged as its text says. -/
theorem faultEvent_eq_logged (fault : Fault) : Machine.faultEvent fault = fault.logged := by
  rw [Machine.faultEvent, Fault.logged, fault.describe_eq_line]

namespace Machine

variable {m : Machine} {fault : Fault}

/-! ### The events of an operation -/

/-- Loading logs the reset, and then the size of the image or why it is refused. -/
theorem events_loadFor (m : Machine) (rom : Rom) : (m.loadFor rom).events = rom.logged := by
  rcases rom.fits_or_refused with ⟨bytes, hfits⟩ | ⟨error, hrefused⟩
  · have hsmall : ¬ romLimit < bytes.length := Nat.not_lt.mpr hfits.2
    rw [m.loadFor_of_fits hfits, Rom.logged, hfits.1]
    simp only [if_neg hsmall]
    cases rom.size <;> rfl
  · rw [m.loadFor_of_refused hrefused]
    cases hrefused with
    | noBytes hbytes =>
      rw [Rom.logged, hbytes]
      cases error <;> simp only [errorEvents, faultEvent_eq_logged] <;> rfl
    | tooLarge hbytes hlarge =>
      rw [Rom.logged, hbytes]
      simp only [if_pos hlarge, errorEvents, faultEvent_eq_logged]
      rfl

/-- A step logs its fault. -/
theorem events_step (m : Machine) : m.step.events = loggedFault m.step.result := by
  unfold step
  split
  · split
    · rfl
    · simp only [faulted, faultEvent_eq_logged, loggedFault]
  · rfl

/-- A frame logs its fault. -/
theorem events_frame (m : Machine) (count : Int) :
    (m.frame count).events = loggedFault (m.frame count).result := by
  by_cases haccepted : 0 ≤ count ∧ m.loaded = true ∧ count < budgetLimit
  · -- An accepted frame ends with a clear record, or with the record of one fault, which it answers.
    obtain ⟨h₀, hloaded, h₁⟩ := haccepted
    obtain ⟨-, u, -, -, -, ⟨-, hstate, -⟩ | ⟨trap, -, -, hstate⟩⟩ :=
      m.state.runBatch_cases count.toNat m.source
    · rw [frame_of_clear h₀ hloaded h₁ hstate]
      rfl
    · rw [frame_of_record h₀ hloaded h₁ hstate]
      simp only [faulted, faultEvent_eq_logged, loggedFault]
  · obtain ⟨refusal, hrefusal, hframe⟩ := frame_of_refused haccepted
    rw [hframe]
    exact (loggedFault_refusal hrefusal).symm

/-- A write of the debugger is silent. -/
theorem events_poke (m : Machine) (write : State → Except Fault State) : (m.poke write).events = [] := by
  unfold poke
  split <;> rfl

/-- A key is silent. -/
theorem events_setKey (m : Machine) (index down : Value) : (m.setKey index down).events = [] := by
  unfold setKey
  split <;> rfl

/-! ### The fault that is logged -/

/-- `fault` is that of the instruction at which the state stands: of its address and its word, at
    the depth of the call stack. -/
def StandsAt (state : State) (fault : Fault) : Prop :=
  ∃ trap : Trap, fault = trap.fault state.pc.toNat state.word state.stack.depth

/-- A step that faults has left the state at its instruction. -/
theorem standsAt_step (h : m.step.result = .error (.fault fault)) :
    StandsAt m.step.machine.state fault := by
  rw [machine_step h]
  unfold step at h
  split at h
  · rcases hstep : m.state.step m.source with ⟨error | ⟨i, t⟩, source⟩
    · rw [hstep] at h
      cases h
      obtain ⟨trap, -, heq⟩ := State.trap?_of_step_error hstep
      exact ⟨trap, heq⟩
    · rw [hstep] at h
      exact nomatch h
  · exact nomatch h

/-- A frame that faults has left the state at the instruction that did not complete. -/
theorem standsAt_frame {count : Int} (h : (m.frame count).result = .error (.fault fault)) :
    StandsAt (m.frame count).machine.state fault := by
  obtain ⟨-, _, u, _, trap, _, -, -, -, heq, hmachine⟩ := frame_eq_fault h
  rw [hmachine]
  exact ⟨trap, heq⟩

/-- A step or a frame that faults has left the state at the instruction that did not complete. -/
theorem standsAt_answer {call : HostCall} (hcall : call.runs = true)
    (h : (m.answer call).result = .error (.fault fault)) :
    StandsAt (m.answer call).machine.state fault := by
  cases call with
  | operate command =>
    cases command with
    | step => exact standsAt_step h
    | frame count => exact standsAt_frame h
    | _ => exact nomatch hcall
  | frameFor description count =>
    have hanswer : m.answer (.frameFor description count) = m.frameFor description count := rfl
    rw [hanswer] at h ⊢
    rcases frameFor_cases m description count with ⟨refusal, hrefusal, hframe⟩ | ⟨n, hframe⟩
    · rw [hframe] at h
      exact absurd (Except.error.inj h) (hrefusal fault)
    · rw [hframe] at h ⊢
      exact standsAt_frame h

/-- What a load answers, by the bytes and the length of the image. -/
theorem result_loadFor (m : Machine) (rom : Rom) :
    (m.loadFor rom).result = (do
      let bytes ← rom.bytes
      if romLimit < bytes.length then throw (.fault (.romTooLarge bytes.length romLimit))
      let _ ← rom.size
      pure .done) := by
  rcases rom.fits_or_refused with ⟨bytes, hfits⟩ | ⟨error, hrefused⟩
  · have hsmall : ¬ romLimit < bytes.length := Nat.not_lt.mpr hfits.2
    rw [m.loadFor_of_fits hfits, hfits.1]
    simp only [bind, Except.bind, if_neg hsmall]
    cases rom.size <;> rfl
  · rw [m.loadFor_of_refused hrefused]
    cases hrefused with
    | noBytes hbytes =>
      rw [hbytes]
      rfl
    | tooLarge hbytes hlarge =>
      rw [hbytes]
      simp only [bind, Except.bind, if_pos hlarge]
      rfl

/-! ### The events of all calls -/

/-- **Every call logs what its answer tells.** -/
theorem events_answer (m : Machine) (call : HostCall) :
    (m.answer call).events = call.logged (m.answer call).result := by
  cases call with
  | operate command =>
    cases command with
    | load rom => exact m.events_loadFor rom
    | setKey index down => exact m.events_setKey index down
    | step => exact m.events_step
    | frame count => exact m.events_frame count
    | pokeMemory address value => exact m.events_poke _
    | pokeRegister register value => exact m.events_poke _
    | pokeIndex value => exact m.events_poke _
    | pokePc value => exact m.events_poke _
    | pokeTimers delay sound => exact m.events_poke _
  | frameFor description count =>
    -- Such a frame is refused, or it is a frame of some number of instructions.
    show (m.frameFor description count).events = loggedFault (m.frameFor description count).result
    rcases frameFor_cases m description count with ⟨refusal, hrefusal, hframe⟩ | ⟨n, hframe⟩
    · rw [hframe]
      exact (loggedFault_refusal hrefusal).symm
    · rw [hframe, events_frame]

/-- Several calls log what their answers tell, one after the other. -/
theorem events_answers (m : Machine) (calls : List HostCall) :
    (m.answers calls).flatMap Reply.events =
      (List.zipWith HostCall.logged calls ((m.answers calls).map Reply.result)).flatten := by
  induction calls generalizing m with
  | nil => rfl
  | cons call rest ih =>
    simp only [answers, List.flatMap_cons, List.map_cons, List.zipWith_cons_cons, List.flatten_cons]
    rw [ih, events_answer]

end Machine

/-! ### What is printed -/

/-- Levels are ranked by their names. -/
theorem Level.rankOf_name (level : Level) : Logger.rankOf level.name = level.rank := by
  have hread := Level.read_name level
  unfold Level.read at hread
  unfold Logger.rankOf
  split at hread
  · rw [Except.ok.inj hread]
  · exact nomatch hread

namespace Logger

/-- A logger that neither tells the time nor colours the level. -/
def plain (name : String) (level : Level) (start : Float) : Logger where
  name := name
  threshold := level
  coloured := false
  stamped := false
  start := start

/-- The line of an event without time and colours. -/
def plainLine (name : String) (event : Event) : String :=
  "[" ++ alignRight 8 event.level.name ++ "][" ++ name ++ "] " ++ event.text

/-- Such a logger prints the events of its level and above, in their order. -/
theorem emitAll_plain (name : String) (level : Level) (start : Float) (clock : Clock)
    (events : List Event) :
    (plain name level start).emitAll clock events =
      .ok ((events.filter fun event => level.rank ≤ event.level.rank).map (plainLine name)) := by
  have hadmits (event : Event) : (plain name level start).admits event.level.name =
      decide (level.rank ≤ event.level.rank) := by
    rw [admits, Level.rankOf_name]
    rfl
  have hline (event : Event) : (plain name level start).line start event.level.name event.text =
      plainLine name event := by
    simp [line, stamp, tag, plain, plainLine, String.append_assoc]
  rw [emitAll_of_unstamped rfl, linesAtStart]
  simp only [hadmits, Except.ok.injEq]
  exact List.map_congr_left fun event _ => hline event

/-- A logger is created with the level that its text names. -/
theorem create_plain (name text : String) (start : Float) :
    create name text false false start = (Level.read text).map fun level => plain name level start := by
  cases h : Level.read text <;> simp [create, h, plain, bind, Except.bind, Except.map, pure, Except.pure]

end Logger

/-! ### The lines of all calls -/

/-- **The log is exact.**  A logger without time and colours, of the level that its text names,
    prints of any calls exactly the lines of what they log, in order and from its level up.  A load
    logs its reset and then the size of the image or that it is too large, which it is exactly
    beyond the limit; an image that gives no bytes or has no length leaves it at the reset.  A step
    or a frame logs the fault that it answers, which tells of the instruction at which the machine
    is left.  Everything else logs nothing. -/
theorem log_exact (name : String) (level : Level) (start : Float) (clock : Clock) (m : Machine)
    (calls : List HostCall) :
    (∀ text, Logger.create name text false false start =
      (Level.read text).map fun level => Logger.plain name level start) ∧
    (Logger.plain name level start).emitAll clock ((m.answers calls).flatMap Reply.events) =
      .ok (((List.zipWith HostCall.logged calls ((m.answers calls).map Reply.result)).flatten.filter
        fun event => level.rank ≤ event.level.rank).map (Logger.plainLine name)) ∧
    (∀ (m : Machine) (rom : Rom), (m.answer (.operate (.load rom))).result = do
      let bytes ← rom.bytes
      if romLimit < bytes.length then throw (.fault (.romTooLarge bytes.length romLimit))
      let _ ← rom.size
      pure .done) ∧
    (∀ (m : Machine) (rom : List UInt8), (m.load rom).result =
      if rom.length ≤ romLimit then .ok .done else .error (.fault (.romTooLarge rom.length romLimit))) ∧
    (∀ (m : Machine) (call : HostCall) (fault : Fault), call.runs = true →
      (m.answer call).result = .error (.fault fault) →
        ∃ trap : Trap, let state := (m.answer call).machine.state
          fault = trap.fault state.pc.toNat state.word state.stack.depth) ∧
    (∀ fault : Fault, fault.describe = fault.line) := by
  refine ⟨fun text => Logger.create_plain name text start, ?lines, fun m rom => m.result_loadFor rom,
    fun m rom => ?image, fun m call fault hcall h => Machine.standsAt_answer hcall h,
    Fault.describe_eq_line⟩
  case lines =>
    rw [Logger.emitAll_plain, Machine.events_answers]
  case image =>
    split
    · next h => exact (m.load_of_le h).1
    · next h => exact (m.load_of_lt (Nat.not_le.mp h)).1

/-- A return with an empty stack behind the first instruction, a word that is no instruction, a
    program counter at the last byte of memory, and a key that does not exist. -/
theorem log_exact_three_faults :
    let m : Machine := ⟨.initial {} (.ofSeed 0), .key, .ofSeed 0, false⟩
    let rom : List UInt8 := [0x60, 0x05, 0x00, 0xEE, 0xFF, 0xFF]
    let calls : List HostCall :=
      [.operate (.load rom), .operate (.frame 2), .operate (.setKey (.int 16) (.bool true)),
        .operate (.pokePc (.int 0x204)), .operate .step, .operate (.pokePc (.int 0xFFF)),
        .operate (.frame 1)]
    (Logger.plain "chip8vm" .debug 0).emitAll ⟨.float 0, []⟩ ((m.answers calls).flatMap Reply.events) =
      .ok ["[   DEBUG][chip8vm] Resetting machine state",
        "[    INFO][chip8vm] Loaded ROM (6 bytes)",
        "[   ERROR][chip8vm] StackUnderflow pc=0x0202: Stack underflow (pc=0x0202, depth=0)",
        "[   ERROR][chip8vm] UnknownOpcode opcode=0xFFFF pc=0x0204: Unknown opcode 0xFFFF at pc=0x0204",
        "[   ERROR][chip8vm] MemoryOutOfBounds pc=0x0FFF: Memory access out of bounds: 2 byte(s) at 0x0FFF" ++
          " (pc=0x0FFF)"] := by
  intro m rom calls
  obtain ⟨-, hlines, -⟩ := log_exact "chip8vm" .debug 0 ⟨.float 0, []⟩ m calls
  rw [hlines, Except.ok.injEq]
  decide +kernel

/-- **A load may stop at its reset.**  The number five, taken for an image, is not refused as too
    large and has no size that could be told: nothing is printed but the line of the reset. -/
theorem load_logs_reset_only :
    let m : Machine := ⟨.initial {} (.ofSeed 0), .key, .ofSeed 0, false⟩
    let calls : List HostCall := [.operate (.load (.ofValue 4096 (.int 5)))]
    (m.answers calls).map Reply.result = [.error .wrongKind] ∧
      (Logger.plain "chip8vm" .debug 0).emitAll ⟨.float 0, []⟩ ((m.answers calls).flatMap Reply.events) =
        .ok ["[   DEBUG][chip8vm] Resetting machine state"] := by
  intro m calls
  have hfits : (Rom.ofValue 4096 (.int 5)).Fits (List.replicate 5 0) := ⟨rfl, by decide⟩
  have hload := m.loadFor_of_fits hfits
  have hresults : (m.answers calls).map Reply.result = [.error .wrongKind] := by
    show [(m.loadFor (.ofValue 4096 (.int 5))).result] = _
    rw [hload]
    rfl
  have hevents : (m.answers calls).flatMap Reply.events = [Machine.resetEvent] := by
    show (m.loadFor (.ofValue 4096 (.int 5))).events ++ [] = _
    rw [hload]
    rfl
  have hline : Logger.plainLine "chip8vm" Machine.resetEvent =
      "[   DEBUG][chip8vm] Resetting machine state" := by decide +kernel
  refine ⟨hresults, ?_⟩
  rw [hevents, Logger.emitAll_plain]
  exact congrArg (fun line => Except.ok [line]) hline

end Chip8
