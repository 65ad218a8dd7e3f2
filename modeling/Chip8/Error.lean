import Chip8.Fault

namespace Chip8

open Chip8.Text

/-!
# Errors

Every reason for which an operation of the library gives no result: a fault of the interpreter, or a
request that makes no sense.  The wording of each stands in `Error.message`, and `bind_eq_ok` takes
apart what gives a result in two parts.
-/

/-- Why an operation gives no result. -/
inductive Error
  /-- The interpreter faulted. -/
  | fault (fault : Fault)
  /-- A frame with fewer than no instructions. -/
  | negativeBudget (count : Value)
  /-- The machine was to run before a program was loaded. -/
  | nothingLoaded
  /-- A number is too large or too small for the place it goes to. -/
  | outOfRange
  /-- No dialect has this name. -/
  | unknownDialect (name : String) (available : List String)
  /-- No log level has this name. -/
  | unknownLevel (name : String) (available : List String)
  /-- No palette has this name. -/
  | unknownPalette (name : String) (available : List String)
  /-- No fault code has this number. -/
  | unknownCode (number : Value)
  /-- A dialect has no switches of these names. -/
  | unknownSwitches (names : List String)
  /-- There is no kind of fault of this name. -/
  | unknownFaultKind
  /-- A value of a kind that does not fit, or too few or too many values. -/
  | wrongKind
  /-- A value that is no text where a text has to be put into upper case. -/
  | notAText
  /-- A value of the named kind that cannot be shown in base sixteen. -/
  | notHexadecimal (kind : String)
  /-- A grid that does not have the shape of the screen. -/
  | wrongShape (expected actual : List Nat)
  /-- A grid with a length below zero. -/
  | negativeLength
  /-- A grid with a length that is no number of the system. -/
  | hugeLength
  /-- A grid with more axes than the limit. -/
  | manyAxes (limit count : Nat)
  /-- A grid with so many cells that their count is no number of the system. -/
  | manyCells
  /-- Something that does not fit into memory. -/
  | outOfMemory
  /-- A picture scale below one. -/
  | scaleTooSmall (scale : Value)
  /-- Colours whose lists have these lengths cannot be given to that many pixels. -/
  | wrongColour (shape : List Nat) (pixels : Nat)
  /-- Nested lists that agree in the first of these lengths only. -/
  | raggedBlock (shape : List Nat)
  /-- Lists nested more deeply than that. -/
  | deepBlock (limit : Nat)
  /-- Lists of these lengths where the machine keeps a single number. -/
  | manyNumbers (shape : List Nat)
  /-- Nothing at all where the machine keeps a number. -/
  | missingNumber
  /-- A text that is no whole number. -/
  | noInteger (text : String)
  /-- A text that is no number. -/
  | noReal (text : String)
  /-- A numeral that has that many digits and may not have more than the limit. -/
  | tooManyDigits (limit count : Nat)
  /-- A text of hexadecimal digits with a character that does not fit, at this position. -/
  | noHexDigit (position : Nat)
  /-- A count below zero. -/
  | negativeCount
  /-- An integer that is no byte in a list of bytes. -/
  | noByte
  /-- A float that is no number at all where a whole number has to be. -/
  | notANumber
  /-- No arithmetic operation has this name. -/
  | unknownArithmetic
  /-- A file name that cannot be one. -/
  | impossibleName
  /-- A file name that cannot be told to the system. -/
  | unspellableName
  /-- A picture file whose kind is not known by its name. -/
  | unknownPictureKind (ending : String)
  /-- A picture file of a kind that is only read. -/
  | unwritablePictureKind
  /-- A picture file of a kind that does not hold pictures of this form. -/
  | unsuitablePictureKind
  /-- A picture file of a kind that holds only pictures with a palette. -/
  | palettedPictureKind
deriving Inhabited

namespace Error

/-- The lengths of a grid along its axes: in round brackets, one length followed by a comma, several
    parted by the given one. -/
def shapeText (comma : String) : List Nat → String
  | [n] => "(" ++ decimal n ++ ",)"
  | ns => "(" ++ comma.intercalate (ns.map (fun (n : Nat) => decimal n)) ++ ")"

/-- The names to choose from. -/
def namesText (names : List String) : String := (Value.list (names.map Value.text)).shown

/-- How the messages about lists that do not form a block begin. -/
def nestedText : String := "setting an array element with a sequence. The requested array"

/-- The number of characters to which a refused text is cut, its quotes among them. -/
def quotedLimit : Nat := 200

/-- The wording of an error; those that are told by their kind alone have none. -/
def message : Error → Option String
  | fault f => some f.text
  | negativeBudget count =>
    some ("Instruction count must be non-negative, got " ++ count.plain)
  | nothingLoaded => some "No ROM loaded; call load() before running the machine"
  | outOfRange => none
  | unknownDialect name available =>
    some ("Unknown quirks preset '" ++ name ++ "'. Available: " ++ namesText available)
  | unknownLevel name available =>
    some ("Unknown log level '" ++ name ++ "'. Available: " ++ namesText available)
  | unknownPalette name available =>
    some ("Unknown color scheme '" ++ name ++ "'. Available: " ++ namesText available)
  | unknownCode number => some (number.shown ++ " is not a valid FaultCode")
  | unknownSwitches names =>
    some ("__init__() got unexpected kwargs: \x7b" ++ ", ".intercalate (names.map quoted)
      ++ "\x7d.")
  | unknownFaultKind => none
  | wrongKind => none
  | notAText => none
  | notHexadecimal kind => some ("Unknown format code 'X' for object of type '" ++ kind ++ "'")
  | wrongShape expected actual =>
    some ("Expected display shape " ++ shapeText ", " expected ++ ", got "
      ++ shapeText ", " actual)
  | negativeLength => some "negative dimensions are not allowed"
  | hugeLength => some "Maximum allowed dimension exceeded"
  | manyAxes limit count =>
    some ("maximum supported dimension for an ndarray is currently " ++ decimal limit ++ ", found "
      ++ decimal count)
  | manyCells =>
    some ("array is too big; `arr.size * arr.dtype.itemsize` is larger than the maximum possible "
      ++ "size.")
  | outOfMemory => none
  | scaleTooSmall scale => some ("Scale must be at least 1, got " ++ scale.plain)
  | wrongColour shape pixels =>
    some ("shape mismatch: value array of shape " ++ shapeText "," shape
      ++ " could not be broadcast to indexing result of shape " ++ shapeText "," [pixels, 3])
  | raggedBlock shape =>
    some (nestedText ++ " has an inhomogeneous shape after " ++ decimal shape.length
      ++ " dimensions. The detected shape was " ++ shapeText ", " shape
      ++ " + inhomogeneous part.")
  | deepBlock limit =>
    some (nestedText ++ " would exceed the maximum number of dimension of " ++ decimal limit
      ++ ".")
  | manyNumbers shape =>
    some ("Cannot broadcast to shape with fewer dimensions: arr_shape=" ++ shapeText ", " shape
      ++ " shape=" ++ shapeText ", " [])
  | missingNumber => some "None is not a valid value for jnp.array"
  | noInteger text =>
    some ("invalid literal for int() with base 10: "
      ++ String.ofList ((quoted text).toList.take quotedLimit))
  | noReal text => some ("could not convert string to float: " ++ quoted text)
  | tooManyDigits limit count =>
    some ("Exceeds the limit (" ++ decimal limit
      ++ " digits) for integer string conversion: value has " ++ decimal count
      ++ " digits; use sys.set_int_max_str_digits() to increase the limit")
  | noHexDigit position =>
    some ("non-hexadecimal number found in fromhex() arg at position " ++ decimal position)
  | negativeCount => some "negative count"
  | noByte => some "bytes must be in range(0, 256)"
  | notANumber => some "cannot convert float NaN to integer"
  | unknownArithmetic => none
  | impossibleName => some "embedded null byte"
  | unspellableName => none
  | unknownPictureKind ending => some ("unknown file extension: " ++ ending)
  | unwritablePictureKind => none
  | unsuitablePictureKind => none
  | palettedPictureKind => some "Unsupported BLP image mode"

end Error

/-! ### Values that have to be of a kind -/

namespace Value

/-- An integer, where truth values count as zero and one. -/
def integer (v : Value) : Except Error Int :=
  match v.integer? with
  | some n => .ok n
  | none => .error .wrongKind

/-- A text that is to be put into upper case. -/
def letters : Value → Except Error String
  | .text s => .ok s
  | _ => .error .notAText

/-- A name to be looked up: any value but a list or a record, as a plain text. -/
def lookupName : Value → Except Error String
  | .list _ => .error .wrongKind
  | .record _ => .error .wrongKind
  | other => .ok other.plain

/-- What a value holds, in order: the items of a list, the characters of a text or the names in a
    record. -/
def parts : Value → Except Error (List Value)
  | .list items => .ok items
  | .text s => .ok (s.toList.map fun c => .text c.toString)
  | .record entries => .ok (entries.map fun entry => .text entry.1)
  | _ => .error .wrongKind

/-- Integers are taken as they are. -/
@[simp] theorem integer_int (n : Int) : (Value.int n).integer = .ok n := rfl

/-- Texts are taken as they are. -/
@[simp] theorem letters_text (s : String) : (Value.text s).letters = .ok s := rfl

/-- A list holds its items. -/
@[simp] theorem parts_list (items : List Value) : (Value.list items).parts = .ok items := rfl

/-- A text is looked up as it is. -/
@[simp] theorem lookupName_text (s : String) : (Value.text s).lookupName = .ok s := rfl

end Value

/-- A computation that succeeds in two parts succeeds in each of them. -/
theorem bind_eq_ok {ε α β : Type} {first : Except ε α} {rest : α → Except ε β} {b : β}
    (h : (first >>= rest) = .ok b) : ∃ a, first = .ok a ∧ rest a = .ok b := by
  cases first with
  | error e => exact nomatch h
  | ok a => exact ⟨a, rfl, h⟩

end Chip8
