import Chip8.HostFault
import Chip8.Proofs.Numerals

namespace Chip8

open Chip8.Text

/-!
# Diagnostics

The line that a log shows for a fault tells which fault it is, as long as the fault knows nothing
but numbers.  A number can be read back however large it is, and behind it stands a character that
occurs in no number; so the message falls apart into its fields, and the line into its kind and its
message.

* `eq_of_append_stop` — a field ends at the character behind it;
* `Fault.address?_injective`, `Fault.depth?_injective` — a field is the text of one number only, or
  of none;
* `Fault.romText_inj`, `Fault.accessText_inj`, `Fault.stackText_inj`, `Fault.opcodeText_inj` — so a
  message has only one reading;
* `Fault.headline_inj` — a line has one kind and one message;
* `FaultKind.isNumbered`, `Fault.eq_of_text_eq` — the faults that know nothing but numbers;
* `HostFault.Numbered`, `HostFault.numbered_iff` — the same for faults that a host makes;
* `describe_identifies` — the line of such a fault is the line of no other fault.
-/

/-! ### Fields -/

/-- A field ends at the first `stop`, if it does not contain one itself. -/
theorem eq_of_append_stop {stop : Char} (mark : String) (hmark : mark.toList.head? = some stop)
    {front front' back back' : String} (h : stop ∉ front.toList) (h' : stop ∉ front'.toList)
    (heq : front ++ (mark ++ back) = front' ++ (mark ++ back')) : front = front' ∧ back = back' := by
  have hfield {s : String} (hs : stop ∉ s.toList) (rest : String) :
      (s ++ (mark ++ rest)).toList.takeWhile (· != stop) = s.toList := by
    have hpass : ∀ c ∈ s.toList, (c != stop) = true := fun c hc => by
      simpa using fun heq : c = stop => hs (heq ▸ hc)
    obtain ⟨tail, htail⟩ := List.head?_eq_some_iff.mp hmark
    rw [String.toList_append, String.toList_append, htail, List.takeWhile_append_of_pos hpass,
      List.cons_append, List.takeWhile_cons_of_neg (by simp), List.append_nil]
  have hfront : front = front' := by
    rw [← String.toList_inj, ← hfield h back, heq, hfield h' back']
  subst hfront
  exact ⟨rfl, (String.append_right_inj _).mp ((String.append_right_inj _).mp heq)⟩

namespace Fault

/-- The characters that stand behind the numbers of a line. -/
def stops : List Char := [' ', ',', '/', ':']

/-- Digits and signs end no field. -/
theorem notMem_stops_of_digit {base : Nat} {c : Char}
    (h : c = '-' ∨ (digitOf? base c).isSome = true) : c ∉ stops := by
  have hstops : ∀ c ∈ stops, c ≠ '-' ∧ hexDigit? c = none := by
    simp only [stops, List.forall_mem_cons, List.not_mem_nil, false_implies, implies_true]
    decide
  intro hc
  obtain ⟨hsign, hdigit⟩ := hstops c hc
  rcases h with rfl | h
  · exact hsign rfl
  · simp [digitOf?, hdigit] at h

/-- No field ends within an address. -/
theorem notMem_address? {stop : Char} (hstop : stop ∈ stops) (z : Option Int) :
    stop ∉ (address? z).toList := by
  have hmarks : ∀ c ∈ stops, c ≠ '?' ∧ c ≠ '0' ∧ c ≠ 'x' := by simp [stops]
  obtain ⟨hunknown, hzero, hx⟩ := hmarks stop hstop
  cases z with
  | none => simpa [address?] using hunknown
  | some z =>
    have hdigits : stop ∉ hexChars 4 z := fun hmem =>
      notMem_stops_of_digit (digit_of_mem_signed (signed?_hexChars 4 z) hmem) hstop
    simp [address?, address, hzero, hx, hdigits]

/-- No field ends within a depth or another number in base ten. -/
theorem notMem_depth? {stop : Char} (hstop : stop ∈ stops) (z : Option Int) :
    stop ∉ (depth? z).toList := by
  cases z with
  | none =>
    have hunknown : ∀ c ∈ stops, c ∉ (depth? none).toList := by simp [stops, depth?]
    exact hunknown stop hstop
  | some z =>
    show stop ∉ (decimal z).toList
    rw [toList_decimal]
    exact fun hmem => notMem_stops_of_digit (digit_of_mem_signed (signed?_decimalChars z) hmem) hstop

/-- An address is the text of one number only, or of none. -/
theorem address?_injective : Function.Injective address? := by
  intro y z h
  -- Behind the two characters of the mark, what is not known leaves nothing to be read.
  have hread (z : Option Int) : signed? 16 ((address? z).toList.drop 2) = z := by
    cases z with
    | none => decide
    | some z => simpa [address?, address] using signed?_hexChars 4 z
  rw [← hread y, h, hread z]

/-- A depth is the text of one number only, or of none. -/
theorem depth?_injective : Function.Injective depth? := by
  intro y z h
  -- What is not known is no numeral, and so it is read as no number.
  have hread (z : Option Int) : signed? 10 (depth? z).toList = z := by
    cases z with
    | none => decide
    | some z => exact (congrArg (signed? 10) (toList_decimal z)).trans (signed?_decimalChars z)
  rw [← hread y, h, hread z]

/-! ### Messages -/

variable {size size' limit limit' start start' length length' pc pc' depth depth' opcode opcode' : Option Int}

/-- The message about an image has one reading. -/
theorem romText_inj
    (h : romText (depth? size) (depth? limit) = romText (depth? size') (depth? limit')) :
    size = size' ∧ limit = limit' := by
  unfold romText at h
  simp only [String.append_assoc] at h
  rw [String.append_right_inj] at h
  obtain ⟨hsize, hrest⟩ :=
    eq_of_append_stop "/" rfl (notMem_depth? (by decide) _) (notMem_depth? (by decide) _) h
  exact ⟨depth?_injective hsize, depth?_injective ((String.append_left_inj _).mp hrest)⟩

/-- The message about an access has one reading. -/
theorem accessText_inj
    (h : accessText start (depth? length) pc = accessText start' (depth? length') pc') :
    start = start' ∧ length = length' ∧ pc = pc' := by
  unfold accessText at h
  simp only [String.append_assoc] at h
  rw [String.append_right_inj] at h
  obtain ⟨hlength, hrest⟩ :=
    eq_of_append_stop " byte(s) at " rfl (notMem_depth? (by decide) _) (notMem_depth? (by decide) _) h
  obtain ⟨hstart, hrest⟩ :=
    eq_of_append_stop " (pc=" rfl (notMem_address? (by decide) _) (notMem_address? (by decide) _) hrest
  exact ⟨address?_injective hstart, depth?_injective hlength,
    address?_injective ((String.append_left_inj _).mp hrest)⟩

/-- The message about a call depth has one reading. -/
theorem stackText_inj {reason : String}
    (h : stackText reason pc (depth? depth) = stackText reason pc' (depth? depth')) :
    pc = pc' ∧ depth = depth' := by
  unfold stackText at h
  simp only [String.append_assoc] at h
  rw [String.append_right_inj, String.append_right_inj] at h
  obtain ⟨hpc, hrest⟩ :=
    eq_of_append_stop ", depth=" rfl (notMem_address? (by decide) _) (notMem_address? (by decide) _) h
  exact ⟨address?_injective hpc, depth?_injective ((String.append_left_inj _).mp hrest)⟩

/-- The message about a word that is no instruction has one reading. -/
theorem opcodeText_inj (h : opcodeText opcode pc = opcodeText opcode' pc') :
    opcode = opcode' ∧ pc = pc' := by
  unfold opcodeText at h
  simp only [String.append_assoc] at h
  rw [String.append_right_inj] at h
  obtain ⟨hopcode, hrest⟩ :=
    eq_of_append_stop " at pc=" rfl (notMem_address? (by decide) _) (notMem_address? (by decide) _) h
  exact ⟨address?_injective hopcode, address?_injective hrest⟩

/-! ### Lines -/

/-- There are no colons in the marks of a line. -/
theorem colon_notMem_mark {name : String} (hname : ':' ∉ name.toList) (z : Option Int) :
    ':' ∉ (mark name z).toList := by
  cases z with
  | none => simp [mark]
  | some z =>
    have haddress : ':' ∉ (address z).toList := notMem_address? (by decide) (some z)
    simp [mark, hname, haddress]

/-- A line begins with its kind, which is a word of its own. -/
theorem takeWhile_headline (kind : FaultKind) (opcode pc : Option Int) (text : String) :
    (headline kind opcode pc text).toList.takeWhile Char.isAlphanum = kind.name.toList := by
  have hname : ∀ c ∈ kind.name.toList, c.isAlphanum = true := by
    cases kind <;> simp [FaultKind.name]
  -- A blank stands behind it, or a colon if neither the word nor the program counter is known.
  have hstop : ∃ c, (mark "opcode" opcode ++ (mark "pc" pc ++ (": " ++ text))).toList.head? = some c ∧
      ¬ c.isAlphanum = true := by
    cases opcode with
    | some opcode => exact ⟨' ', by simp [mark], by decide⟩
    | none =>
      cases pc with
      | some pc => exact ⟨' ', by simp [mark], by decide⟩
      | none => exact ⟨':', by simp [mark], by decide⟩
  obtain ⟨c, hhead, hc⟩ := hstop
  obtain ⟨rest, hrest⟩ := List.head?_eq_some_iff.mp hhead
  rw [headline, String.append_assoc, String.append_assoc, String.append_assoc, String.toList_append, hrest,
    List.takeWhile_append_of_pos hname, List.takeWhile_cons_of_neg hc, List.append_nil]

/-- A line has one kind and one message. -/
theorem headline_inj {kind kind' : FaultKind} {opcode opcode' pc pc' : Option Int} {text text' : String}
    (h : headline kind opcode pc text = headline kind' opcode' pc' text') :
    kind = kind' ∧ text = text' := by
  constructor
  · have hname : kind.name = kind'.name := by
      rw [← String.toList_inj, ← takeWhile_headline kind opcode pc text, h, takeWhile_headline]
    have hnamed := FaultKind.named?_name kind
    rw [hname, FaultKind.named?_name] at hnamed
    exact (Option.some.inj hnamed).symm
  · have hsplit (kind : FaultKind) (opcode pc : Option Int) (text : String) :
        headline kind opcode pc text =
          (kind.name ++ mark "opcode" opcode ++ mark "pc" pc) ++ (": " ++ text) :=
      String.append_assoc
    have hfront (kind : FaultKind) (opcode pc : Option Int) :
        ':' ∉ (kind.name ++ mark "opcode" opcode ++ mark "pc" pc).toList := by
      have hname : ':' ∉ kind.name.toList := by cases kind <;> decide
      simp [hname, colon_notMem_mark]
    rw [hsplit, hsplit] at h
    exact (eq_of_append_stop ": " rfl (hfront kind opcode pc) (hfront kind' opcode' pc') h).2

end Fault

/-! ### Faults that know nothing but numbers -/

/-- The kinds of fault whose particulars are numbers. -/
def FaultKind.isNumbered : FaultKind → Bool
  | romTooLarge | memoryOutOfBounds | stackFault | stackOverflow | stackUnderflow | unknownOpcode => true
  | general | invalidKey | rejectedWrite => false

namespace Fault

/-- Among the faults of such a kind, the message tells which one it is. -/
theorem eq_of_text_eq {f g : Fault} (hnumbered : f.kind.isNumbered = true) (hkind : f.kind = g.kind)
    (htext : f.text = g.text) : f = g := by
  -- Faults of two different kinds are out of the question.
  cases f <;> cases g <;> cases hkind
  case romTooLarge.romTooLarge size limit size' limit' =>
    have h : romText (depth? (some size)) (depth? (some limit)) =
        romText (depth? (some size')) (depth? (some limit')) := htext
    obtain ⟨hsize, hlimit⟩ := romText_inj h
    rw [Option.some.inj hsize, Option.some.inj hlimit]
  case memoryOutOfBounds.memoryOutOfBounds start length pc start' length' pc' =>
    have h : accessText (some start) (depth? (some length)) pc =
        accessText (some start') (depth? (some length')) pc' := htext
    obtain ⟨hstart, hlength, hpc⟩ := accessText_inj h
    rw [Option.some.inj hstart, Option.some.inj hlength, hpc]
  case stackFault.stackFault | stackOverflow.stackOverflow | stackUnderflow.stackUnderflow =>
    obtain ⟨hpc, hdepth⟩ := stackText_inj htext
    rw [hpc, hdepth]
  case unknownOpcode.unknownOpcode opcode pc opcode' pc' =>
    obtain ⟨hopcode, hpc⟩ := opcodeText_inj htext
    rw [Option.some.inj hopcode, hpc]
  all_goals exact nomatch hnumbered

/-- The line of such a fault tells which one it is, whatever kind of fault the other one may be. -/
theorem eq_of_describe_eq {f g : Fault} (hnumbered : f.kind.isNumbered = true)
    (h : f.describe = g.describe) : f = g := by
  obtain ⟨hkind, htext⟩ := headline_inj h
  exact eq_of_text_eq hnumbered hkind htext

end Fault

/-- A number that may be unknown is an integer, or nothing. -/
theorem Value.exists_optional_iff {v : Value} :
    (∃ z, v = .optional z) ↔ (∃ n, v = .int n) ∨ v = .null := by
  constructor
  · rintro ⟨_ | n, rfl⟩
    · exact .inr rfl
    · exact .inl ⟨n, rfl⟩
  · rintro (⟨n, rfl⟩ | rfl)
    · exact ⟨some n, rfl⟩
    · exact ⟨none, rfl⟩

namespace HostFault

/-- A fault that a host has made from numbers: its kind takes nothing else, and only a program
    counter or a depth may be left unknown. -/
structure Numbered (f : HostFault) : Prop where
  made : ∃ kind particulars, make kind particulars = .ok f
  numbered : f.kind.isNumbered = true
  numbers : ∀ entry ∈ f.attributes, (∃ n, entry.2 = .int n) ∨
    ((entry.1 = "pc" ∨ entry.1 = "depth") ∧ entry.2 = .null)

variable {f : HostFault}

/-- How a fault of a kind that takes numbers is made: what is left out has been filled in. -/
theorem make_cases {kind : FaultKind} {particulars : List Value} (h : make kind particulars = .ok f)
    (hnumbered : f.kind.isNumbered = true) :
    (∃ size limit, make .romTooLarge [size, limit] = .ok f) ∨
    (∃ start length pc, access start length pc = .ok f) ∨
    (∃ stackKind pc depth, stackKind ∈ [.stackFault, .stackOverflow, .stackUnderflow] ∧
      stack stackKind pc depth = .ok f) ∨
    ∃ opcode pc, opcodeFault opcode pc = .ok f := by
  have hstack {stackKind : FaultKind} {particulars : List Value}
      (h : stackOf stackKind particulars = .ok f) : ∃ pc depth, stack stackKind pc depth = .ok f := by
    unfold stackOf at h
    split at h
    · exact ⟨_, _, h⟩
    · exact ⟨_, _, h⟩
    · exact ⟨_, _, h⟩
    · exact nomatch h
  unfold make at h
  split at h
  case h_2 size limit => exact .inl ⟨size, limit, h⟩
  case h_4 | h_5 | h_6 => exact .inr (.inl ⟨_, _, _, h⟩)
  case h_7 | h_8 | h_9 =>
    obtain ⟨pc, depth, h⟩ := hstack h
    exact .inr (.inr (.inl ⟨_, pc, depth, by decide, h⟩))
  case h_10 | h_11 => exact .inr (.inr (.inr ⟨_, _, h⟩))
  case h_13 => exact nomatch h
  -- The other kinds take values of any kind.
  all_goals
    obtain rfl := Except.ok.inj h
    exact nomatch hnumbered

/-- What a host makes from numbers is a fault of the interpreter. -/
theorem Numbered.exists_fault (h : f.Numbered) :
    ∃ fault : Fault, fault.kind.isNumbered = true ∧ f = ofFault fault := by
  obtain ⟨⟨kind, particulars, hmake⟩, hnumbered, hnumbers⟩ := h
  rcases make_cases hmake hnumbered with ⟨size, limit, hrom⟩ | ⟨start, length, pc, haccess⟩ |
    ⟨stackKind, pc, depth, hkind, hstack⟩ | ⟨opcode, pc, hopcode⟩
  · obtain rfl := Except.ok.inj hrom
    obtain ⟨⟨m, rfl⟩, ⟨n, rfl⟩⟩ : (∃ m, size = .int m) ∧ ∃ n, limit = .int n := by
      simpa using hnumbers
    exact ⟨.romTooLarge m n, rfl, rfl⟩
  · obtain ⟨a, ha, hrest⟩ := bind_eq_ok haccess
    obtain ⟨p, hp, hf⟩ := bind_eq_ok hrest
    obtain rfl := Except.ok.inj hf
    obtain ⟨⟨m, rfl⟩, ⟨n, rfl⟩, ⟨z, rfl⟩⟩ :
        (∃ m, start = .int m) ∧ (∃ n, length = .int n) ∧ ∃ z, pc = .optional z := by
      simpa [Value.exists_optional_iff] using hnumbers
    rw [Value.asWord_optional] at hp
    obtain rfl := Except.ok.inj ha
    obtain rfl := Except.ok.inj hp
    exact ⟨.memoryOutOfBounds m n z, rfl, rfl⟩
  · obtain ⟨p, hp, hf⟩ := bind_eq_ok hstack
    obtain rfl := Except.ok.inj hf
    obtain ⟨⟨y, rfl⟩, ⟨z, rfl⟩⟩ : (∃ y, pc = .optional y) ∧ ∃ z, depth = .optional z := by
      simpa [Value.exists_optional_iff] using hnumbers
    rw [Value.asWord_optional] at hp
    obtain rfl := Except.ok.inj hp
    rw [plain_optional]
    simp only [List.mem_cons, List.not_mem_nil, or_false] at hkind
    rcases hkind with rfl | rfl | rfl
    · exact ⟨.stackFault y z, rfl, rfl⟩
    · exact ⟨.stackOverflow y z, rfl, rfl⟩
    · exact ⟨.stackUnderflow y z, rfl, rfl⟩
  · obtain ⟨w, hw, hrest⟩ := bind_eq_ok hopcode
    obtain ⟨p, hp, hf⟩ := bind_eq_ok hrest
    obtain rfl := Except.ok.inj hf
    obtain ⟨⟨n, rfl⟩, ⟨z, rfl⟩⟩ : (∃ n, opcode = .int n) ∧ ∃ z, pc = .optional z := by
      simpa [Value.exists_optional_iff] using hnumbers
    rw [Value.asWord_optional] at hp
    obtain rfl := Except.ok.inj hw
    obtain rfl := Except.ok.inj hp
    exact ⟨.unknownOpcode n z, rfl, rfl⟩

/-- A fault of the interpreter can be made from its numbers by a host. -/
theorem numbered_ofFault {fault : Fault} (h : fault.kind.isNumbered = true) : (ofFault fault).Numbered where
  made := ⟨fault.kind, particulars fault, make_particulars fault⟩
  numbered := h
  numbers := by
    have hoptional (z : Option Int) :
        (∃ n, Value.optional z = .int n) ∨ Value.optional z = .null :=
      Value.exists_optional_iff.mp ⟨z, rfl⟩
    cases fault
    case general | invalidKey | rejectedWrite => exact nomatch h
    all_goals simp [ofFault, attributesOf, hoptional]

/-- The faults that hosts make from numbers are those of the interpreter. -/
theorem numbered_iff : f.Numbered ↔ ∃ fault : Fault, fault.kind.isNumbered = true ∧ f = ofFault fault := by
  constructor
  · exact Numbered.exists_fault
  · rintro ⟨fault, hnumbered, rfl⟩
    exact numbered_ofFault hnumbered

end HostFault

/-- **The line of a fault tells which fault it is.**  No other fault, of whatever kind, has the same
    line as a fault of the interpreter that knows nothing but numbers, which may be of any size and
    sign.  Nor do two faults that a host makes from numbers, where a program counter or a depth may
    be unknown, unless they are of one kind and agree in all their particulars. -/
theorem describe_identifies :
    (∀ f g : Fault, f.kind.isNumbered = true → f.describe = g.describe → f = g) ∧
    ∀ f g : HostFault, f.Numbered → g.Numbered → f.describe = g.describe →
      f.kind = g.kind ∧ f.attributes = g.attributes := by
  constructor
  · intro f g hnumbered h
    exact Fault.eq_of_describe_eq hnumbered h
  · intro f g hf hg h
    obtain ⟨fault, hnumbered, rfl⟩ := HostFault.numbered_iff.mp hf
    obtain ⟨fault', -, rfl⟩ := HostFault.numbered_iff.mp hg
    rw [HostFault.describe_ofFault, HostFault.describe_ofFault] at h
    rw [Fault.eq_of_describe_eq hnumbered h]
    exact ⟨rfl, rfl⟩

/-- A word below zero is told by its line, in which its sign takes up one of the four digits; and an
    access has the same line whether or not its length of one byte is given, and so the same
    particulars. -/
theorem describe_identifies_below_zero :
    (∃ f g : Fault, f.kind.isNumbered = true ∧
      f.describe = "UnknownOpcode opcode=0x-001: Unknown opcode 0x-001 at pc=?" ∧
      g.describe = "UnknownOpcode opcode=0x-001: Unknown opcode 0x-001 at pc=?" ∧ f = g) ∧
    ∃ f g : HostFault,
      HostFault.make .memoryOutOfBounds [.int (-1)] = .ok f ∧
      HostFault.make .memoryOutOfBounds [.int (-1), .int 1, .null] = .ok g ∧
      f.Numbered ∧ g.Numbered ∧ f.describe = g.describe ∧
      f.kind = g.kind ∧ f.attributes = g.attributes := by
  have hline : (Fault.unknownOpcode (-1) none).describe =
      "UnknownOpcode opcode=0x-001: Unknown opcode 0x-001 at pc=?" := by decide +kernel
  have hnumbered : (HostFault.ofFault (.memoryOutOfBounds (-1) 1 none)).Numbered :=
    HostFault.numbered_ofFault rfl
  exact ⟨⟨_, _, rfl, hline, hline, describe_identifies.1 _ _ rfl (hline.trans hline.symm)⟩,
    _, _, rfl, rfl, hnumbered, hnumbered, rfl, describe_identifies.2 _ _ hnumbered hnumbered rfl⟩

end Chip8
