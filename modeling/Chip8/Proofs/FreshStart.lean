import Chip8.Proofs.History
import Chip8.Proofs.Writes

namespace Chip8

open Chip8.Text

/-!
# Fresh starts

A program that is loaded starts from a state in which nothing is left of what the machine did
before.

* `startByte`, `startMemory`, `State.started` — the state that a program starts from, byte by byte;
* `loadRom_initial` — it is the state that is loaded;
* `Rom.Fits`, `Rom.Refused`, `fits_or_refused` — images that fit, and why others are refused;
* `loadFor_of_fits`, `loadFor_of_refused` — what loading does with them, `load_of_le`, `load_of_lt`
  — the same for bytes;
* `Machine.BuiltWith` — what stays of a machine from the day it was built;
* `load_forgets` — two machines that were built alike are the same from the next program on.
-/

/-! ### The state that a program starts from -/

/-- The byte at an address when a program starts: the font, the program, and zeros. -/
def startByte (rom : List UInt8) (address : Nat) : UInt8 :=
  if 0x050 ≤ address ∧ address < 0x0A0 then fontBytes.getD (address - 0x050) 0
  else if 0x200 ≤ address then rom.getD (address - 0x200) 0
  else 0

/-- The memory that a program starts from. -/
def startMemory (rom : List UInt8) : Memory :=
  ⟨Vector.ofFn fun address => startByte rom address.val⟩

/-- The state that a program starts from. -/
def State.started (dialect : Dialect) (key : RandomKey) (rom : List UInt8) : State where
  memory := startMemory rom
  registers := Vector.replicate 16 0
  index := 0
  pc := 0x200
  stack := ⟨Vector.replicate 16 0, 0⟩
  delay := 0
  sound := 0
  screen := .blank
  keypad := Vector.replicate 16 false
  key := key
  fault := ⟨0, 0, 0, 0, 0⟩
  dialect := dialect

theorem State.dialect_started (dialect : Dialect) (key : RandomKey) (rom : List UInt8) :
    (started dialect key rom).dialect = dialect := rfl

/-- The memory that a program starts from, byte by byte. -/
theorem byteAt_startMemory (rom : List UInt8) {j : Nat} (hj : j < 4096) :
    (startMemory rom).byteAt j = startByte rom j := by
  have hlast : min j 0xFFF = j := by omega
  rw [startMemory, Memory.byteAt_natCast, Vector.getElem_ofFn]
  simp only [hlast]

/-- Memory with nothing but the font. -/
theorem byteAt_initial {j : Nat} (hj : j < 4096) :
    Memory.initial.byteAt j =
      if 0x050 ≤ j ∧ j < 0x0A0 then fontBytes.getD (j - 0x050) 0 else 0 := by
  have hzero : Memory.zero.byteAt j = 0 := by
    rw [Memory.byteAt_natCast, Memory.zero, Vector.getElem_replicate]
  rw [Memory.initial, Memory.byteAt_writeBytes _ _ _ _ hj, hzero, List.getD_eq_getElem?_getD]
  rfl

/-- An image lies where programs start, as far as there is memory, and the font stays where it
    was. -/
theorem writeBytes_initial (rom : List UInt8) :
    Memory.initial.writeBytes programStart rom rom.length = startMemory rom := by
  apply Memory.ext_byteAt
  intro j hj
  rw [Memory.byteAt_writeBytes _ _ _ _ hj, byteAt_initial hj, byteAt_startMemory rom hj]
  simp only [startByte, programStart, List.getD_eq_getElem?_getD]
  by_cases hrom : 0x200 ≤ j
  · -- The font ends long before the program.
    have hfont : ¬ (0x050 ≤ j ∧ j < 0x0A0) := by omega
    rw [if_neg hfont, if_neg hfont, if_pos hrom]
    by_cases hend : j < 0x200 + rom.length
    · rw [if_pos ⟨hrom, hend⟩]
    · -- Behind the last byte of the image nothing is written.
      have hnone : rom[j - 0x200]? = none := List.getElem?_eq_none (by omega)
      rw [if_neg (fun hin => hend hin.2), hnone]
      rfl
  · rw [if_neg (fun hin => hrom hin.1), if_neg hrom]

/-- An image that fits is loaded into the state that its program starts from. -/
theorem loadRom_initial (dialect : Dialect) (key : RandomKey) {rom : List UInt8}
    (h : rom.length ≤ romLimit) :
    (State.initial dialect key).loadRom rom = .ok (.started dialect key rom) := by
  rw [State.loadRom, if_pos h, State.initial, writeBytes_initial]
  rfl

/-! ### Images -/

/-- An image fits if it gives bytes and there is memory for all of them. -/
def Rom.Fits (rom : Rom) (bytes : List UInt8) : Prop :=
  rom.bytes = .ok bytes ∧ bytes.length ≤ romLimit

/-- Why an image is refused before anything is loaded: it gives no bytes, or too many. -/
inductive Rom.Refused (rom : Rom) : Error → Prop
  | noBytes {error : Error} (h : rom.bytes = .error error) : Refused rom error
  | tooLarge {bytes : List UInt8} (h : rom.bytes = .ok bytes) (hlarge : romLimit < bytes.length) :
      Refused rom (.fault (.romTooLarge bytes.length romLimit))

/-- An image fits, or it is refused. -/
theorem Rom.fits_or_refused (rom : Rom) :
    (∃ bytes, rom.Fits bytes) ∨ ∃ error, rom.Refused error := by
  cases hbytes : rom.bytes with
  | error error => exact .inr ⟨error, .noBytes hbytes⟩
  | ok bytes =>
    rcases Nat.lt_or_ge romLimit bytes.length with hlarge | hle
    · exact .inr ⟨_, .tooLarge hbytes hlarge⟩
    · exact .inl ⟨bytes, hbytes, hle⟩

/-- An image that is refused does not fit. -/
theorem Rom.Refused.not_fits {rom : Rom} {error : Error} (h : rom.Refused error) {bytes : List UInt8} :
    ¬ rom.Fits bytes := by
  rintro ⟨hbytes, hle⟩
  cases h with
  | noBytes hnone => cases hnone.symm.trans hbytes
  | tooLarge hmany hlarge =>
    cases hmany.symm.trans hbytes
    omega

namespace Machine

variable {m m₁ m₂ t : Machine} {dialect : Dialect} {seed : Int} {rom : List UInt8}

/-! ### Loading -/

/-- What loading logs first. -/
def resetEvent : Event := ⟨.debug, "Resetting machine state"⟩

/-- What loading logs last, if the image has a length. -/
def loadedEvents : Except Error Nat → List Event
  | .ok size => [⟨.info, "Loaded ROM (" ++ decimal size ++ " bytes)"⟩]
  | .error _ => []

/-- What is logged about an error: a fault is, and nothing else. -/
def errorEvents : Error → List Event
  | .fault fault => [faultEvent fault]
  | _ => []

/-- An image that is refused changes nothing. -/
theorem loadFor_of_refused (m : Machine) {rom : Rom} {error : Error} (h : rom.Refused error) :
    m.loadFor rom = ⟨.error error, m, resetEvent :: errorEvents error⟩ := by
  cases h with
  | noBytes hbytes =>
    unfold loadFor
    rw [hbytes]
    cases error <;> rfl
  | tooLarge hbytes hlarge =>
    have hload (s : State) (bytes : List UInt8) (h : romLimit < bytes.length) :
        s.loadRom bytes = .error (.romTooLarge bytes.length romLimit) := if_neg (Nat.not_le.mpr h)
    unfold loadFor
    simp only [hbytes, hload _ _ hlarge, bind, Except.bind]
    rfl

/-- An image that fits leaves the state that its program starts from, also if it turns out to have
    no length in the end. -/
theorem loadFor_of_fits (m : Machine) {rom : Rom} {bytes : List UInt8} (h : rom.Fits bytes) :
    m.loadFor rom =
      ⟨rom.size.map fun _ => .done,
        { m with state := .started m.state.dialect m.key bytes, loaded := true },
        resetEvent :: loadedEvents rom.size⟩ := by
  have hload := loadRom_initial m.state.dialect m.key h.2
  unfold loadFor
  simp only [h.1, hload, bind, Except.bind]
  cases rom.size <;> rfl

/-- An image that fits leaves the state that its program starts from. -/
theorem load_of_le (m : Machine) (h : rom.length ≤ romLimit) :
    (m.load rom).result = .ok .done ∧
      (m.load rom).machine =
        { m with state := .started m.state.dialect m.key rom, loaded := true } := by
  rw [load, m.loadFor_of_fits ⟨rfl, h⟩]
  exact ⟨rfl, rfl⟩

/-- An image that is too large is refused and changes nothing. -/
theorem load_of_lt (m : Machine) (h : romLimit < rom.length) :
    (m.load rom).result = .error (.fault (.romTooLarge rom.length romLimit)) ∧
      (m.load rom).machine = m := by
  rw [load, m.loadFor_of_refused (.tooLarge rfl h)]
  exact ⟨rfl, rfl⟩

/-! ### What stays -/

/-- What stays of a machine from the day it was built: the dialect, the key that programs start
    with, and that random bytes are drawn from the key. -/
structure BuiltWith (dialect : Dialect) (seed : Int) (m : Machine) : Prop where
  dialect_eq : m.state.dialect = dialect
  key_eq : m.key = .ofSeed seed
  source_eq : m.source = .key

theorem builtWith_create (h : create dialect seed .key = .ok m) : BuiltWith dialect seed m := by
  unfold create seedKey at h
  split at h
  · rw [← Except.ok.inj h]
    exact ⟨rfl, rfl, rfl⟩
  · exact nomatch h

/-- Another state of the same dialect makes no difference. -/
theorem BuiltWith.of_state (h : BuiltWith dialect seed m) {state : State}
    (hdialect : state.dialect = m.state.dialect) (loaded : Bool) :
    BuiltWith dialect seed ⟨state, m.source, m.key, loaded⟩ :=
  ⟨hdialect.trans h.dialect_eq, h.key_eq, h.source_eq⟩

theorem BuiltWith.loadFor (h : BuiltWith dialect seed m) (rom : Rom) :
    BuiltWith dialect seed (m.loadFor rom).machine := by
  rcases rom.fits_or_refused with ⟨bytes, hfits⟩ | ⟨error, hrefused⟩
  · rw [m.loadFor_of_fits hfits]
    exact h.of_state (State.dialect_started ..) true
  · rw [m.loadFor_of_refused hrefused]
    exact h

theorem BuiltWith.setKey (h : BuiltWith dialect seed m) (index down : Value) :
    BuiltWith dialect seed (m.setKey index down).machine := by
  unfold Machine.setKey
  split
  · exact ⟨h.dialect_eq, h.key_eq, h.source_eq⟩
  · exact h

theorem BuiltWith.step (h : BuiltWith dialect seed m) : BuiltWith dialect seed m.step.machine := by
  have hsource := m.state.source_step_key
  unfold Machine.step
  rw [h.source_eq]
  split
  · -- A step that fails leaves the state, and one that completes keeps its dialect.
    rcases hstep : m.state.step .key with ⟨fault | ⟨i, state⟩, source⟩
    · rw [hstep] at hsource
      exact ⟨h.dialect_eq, h.key_eq, hsource⟩
    · rw [hstep] at hsource
      exact ⟨(State.dialect_step hstep).trans h.dialect_eq, h.key_eq, hsource⟩
  · exact h

theorem BuiltWith.frame (h : BuiltWith dialect seed m) (count : Int) :
    BuiltWith dialect seed (m.frame count).machine := by
  rcases machine_frame_cases m count with hframe | hframe
  · rw [hframe]
    exact h
  · -- The tick of the timers is no part of what was built.
    rw [hframe, h.source_eq]
    have hdialect := m.state.dialect_runBatch count.toNat .key
    exact ⟨hdialect.trans h.dialect_eq, h.key_eq, m.state.source_runBatch_key count.toNat⟩

/-- A write that keeps the dialect, or is refused. -/
theorem BuiltWith.poke (h : BuiltWith dialect seed m) {write : State → Except Fault State}
    (hwrite : ∀ u, write m.state = .ok u → u.dialect = m.state.dialect) :
    BuiltWith dialect seed (m.poke write).machine := by
  unfold Machine.poke
  split
  · next u hu => exact h.of_state (hwrite u hu) m.loaded
  · exact h

/-- No operation changes what a machine was built with. -/
theorem BuiltWith.perform (h : BuiltWith dialect seed m) (command : Command) :
    BuiltWith dialect seed (m.perform command).machine := by
  cases command with
  | load rom => exact h.loadFor rom
  | setKey index down => exact h.setKey index down
  | step => exact h.step
  | frame count => exact h.frame count
  | pokeMemory address value =>
    apply h.poke
    intro u hu
    obtain ⟨a, b, rfl⟩ := State.pokeMemory_eq_ok hu
    rfl
  | pokeRegister register value =>
    apply h.poke
    intro u hu
    obtain ⟨r, b, rfl⟩ := State.pokeRegister_eq_ok hu
    rfl
  | pokeIndex value =>
    apply h.poke
    intro u hu
    obtain ⟨a, rfl⟩ := State.pokeIndex_eq_ok hu
    rfl
  | pokePc value =>
    apply h.poke
    intro u hu
    obtain ⟨a, rfl⟩ := State.pokePc_eq_ok hu
    rfl
  | pokeTimers delay sound =>
    apply h.poke
    intro u hu
    obtain ⟨a, b, rfl⟩ := State.pokeTimers_eq_ok hu
    rfl

/-- Whatever a host does with a new machine, it stays the machine that was built. -/
theorem Leads.builtWith (h : m.Leads (fun _ => True) t) (hnew : create dialect seed .key = .ok m) :
    BuiltWith dialect seed t :=
  h.keeps (builtWith_create hnew) fun _ command hu _ => hu.perform command

/-- A machine that has just loaded a program is known from what it was built with. -/
theorem BuiltWith.machine_load (h : BuiltWith dialect seed m) (hrom : rom.length ≤ romLimit) :
    (m.load rom).machine = ⟨.started dialect (.ofSeed seed) rom, .key, .ofSeed seed, true⟩ := by
  rw [(m.load_of_le hrom).2, h.dialect_eq, h.key_eq, h.source_eq]

/-! ### Two machines -/

/-- **Loading erases history.**  Take two machines that were built alike and whose random bytes come
    from their key, with any past each.  An image that fits leaves both with the state that its
    program starts from, and from there on all their answers are the same.  An image that is too
    large is refused, and the machine goes on as if it had not been offered. -/
theorem load_forgets (hnew : create dialect seed .key = .ok m) (h₁ : m.Leads (fun _ => True) m₁)
    (h₂ : m.Leads (fun _ => True) m₂) (rom : List UInt8) :
    (rom.length ≤ 3584 →
      (m₁.load rom).result = .ok .done ∧ (m₂.load rom).result = .ok .done ∧
        (m₁.load rom).machine.state = .started dialect (.ofSeed seed) rom ∧
        (m₂.load rom).machine = (m₁.load rom).machine ∧
        ∀ commands, (m₂.load rom).machine.performAll commands =
          (m₁.load rom).machine.performAll commands) ∧
    (3584 < rom.length →
      (m₁.load rom).result = .error (.fault (.romTooLarge rom.length 3584)) ∧
        (m₁.load rom).machine = m₁ ∧
        ∀ commands, (m₁.load rom).machine.performAll commands = m₁.performAll commands) := by
  have hbuilt₁ : BuiltWith dialect seed m₁ := h₁.builtWith hnew
  have hbuilt₂ : BuiltWith dialect seed m₂ := h₂.builtWith hnew
  constructor
  · -- What was built decides what is loaded.
    intro hfits
    have hsame : (m₂.load rom).machine = (m₁.load rom).machine :=
      (hbuilt₂.machine_load hfits).trans (hbuilt₁.machine_load hfits).symm
    refine ⟨(m₁.load_of_le hfits).1, (m₂.load_of_le hfits).1, ?_, hsame, fun commands => ?_⟩
    · rw [hbuilt₁.machine_load hfits]
    · rw [hsame]
  · intro hlarge
    obtain ⟨hresult, hmachine⟩ := m₁.load_of_lt hlarge
    exact ⟨hresult, hmachine, fun commands => by rw [hmachine]⟩

/-- A machine that has run a program, with a key pressed and its timers set, next to one that is
    new. -/
theorem load_forgets_first_program :
    let m : Machine := ⟨.initial {} (.ofSeed 7), .key, .ofSeed 7, false⟩
    let used := m.after
      [.load ([0xC0, 0xFF, 0x22, 0x00] : List UInt8), .setKey (.int 5) (.bool true), .frame 9,
        .pokeTimers (.int 8) (.int 8)]
    used.state.delay = 8 ∧ (used.load [0x60, 0x01]).machine = (m.load [0x60, 0x01]).machine ∧
      (used.load (List.replicate 3585 0)).machine = used := by
  intro m used
  have hnew : create {} 7 .key = .ok m := rfl
  have hused : m.Leads (fun _ => True) used := Leads.refl.after fun _ _ => trivial
  have hdelay : used.state.delay = 8 := rfl
  have hshort : [0x60, 0x01].length ≤ 3584 := by decide
  have hlarge : 3584 < (List.replicate 3585 (0 : UInt8)).length := by
    rw [List.length_replicate]
    decide
  obtain ⟨-, -, -, hsame, -⟩ := (load_forgets hnew hused .refl [0x60, 0x01]).1 hshort
  exact ⟨hdelay, hsame.symm, ((load_forgets hnew hused .refl _).2 hlarge).2.1⟩

end Machine

end Chip8
