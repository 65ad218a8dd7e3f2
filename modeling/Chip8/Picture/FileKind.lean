import Chip8.Error
import Chip8.Text.LowerCase

namespace Chip8

open Chip8.Text

/-!
# Kinds of picture files

The ending of a file name decides what kind of picture file it is, and the kind decides whether a
coloured picture can be written to it.

* `fileEnding` — the ending of a file name;
* `FileKind`, `FileKind.endings` — the kinds and their endings, which
  `FileKind.ofEnding?_eq_some_iff` takes back;
* `FileKind.ofName` — the kind of a file that is to be written;
* `FileKind.takesColours` — whether a file of the kind takes coloured pictures.
-/

/-- The ending of a file name from its last point on, in lower case.  Points at the start of the
    last part of the name begin no ending. -/
def fileEnding (name : String) : String :=
  let last := (name.toList.reverse.takeWhile (· != '/')).reverse
  let body := last.dropWhile (· == '.')
  match body.reverse.span (· != '.') with
  | (_, []) => ""
  | (ending, _ :: _) => lower (String.ofList ('.' :: ending.reverse))

/-- A kind of picture file, by the pictures that can be written to it. -/
inductive FileKind
  /-- Coloured pictures can be written. -/
  | coloured
  /-- Nothing can be written. -/
  | readOnly
  /-- Pictures of some other form can be written. -/
  | otherForm
  /-- Pictures with a palette can be written. -/
  | paletted
deriving DecidableEq, Repr, Inhabited

namespace FileKind

/-- All kinds. -/
def all : List FileKind := [coloured, readOnly, otherForm, paletted]

/-- The endings of the files of a kind. -/
def endings : FileKind → List String
  | coloured =>
    [".apng", ".avif", ".avifs", ".bmp", ".bw", ".dds", ".dib", ".eps", ".gif", ".icb", ".icns",
     ".ico", ".im", ".j2c", ".j2k", ".jfif", ".jp2", ".jpc", ".jpe", ".jpeg", ".jpf", ".jpg",
     ".jpx", ".mpo", ".pbm", ".pcx", ".pdf", ".pfm", ".pgm", ".png", ".pnm", ".ppm", ".ps", ".qoi",
     ".rgb", ".rgba", ".sgi", ".tga", ".tif", ".tiff", ".vda", ".vst", ".webp"]
  | readOnly =>
    [".cur", ".dcx", ".fit", ".fits", ".flc", ".fli", ".ftc", ".ftu", ".gbr", ".iim", ".mpeg",
     ".mpg", ".pcd", ".psd", ".pxr", ".ras", ".xpm"]
  | otherForm => [".bufr", ".emf", ".grib", ".h5", ".hdf", ".msp", ".palm", ".wmf", ".xbm"]
  | paletted => [".blp"]

/-- The kind of the files with an ending. -/
def ofEnding? (ending : String) : Option FileKind :=
  all.find? (fun kind => kind.endings.contains ending)

/-- No ending belongs to two kinds, so that the kind of an ending is the one that lists it. -/
theorem ofEnding?_eq_some_iff {kind : FileKind} {ending : String} :
    ofEnding? ending = some kind ↔ ending ∈ kind.endings := by
  constructor
  · intro h
    simpa using List.find?_some h
  · revert ending
    cases kind <;> decide

/-- The kind of a file that is to be written. -/
def ofName (name : String) : Except Error FileKind :=
  match ofEnding? (fileEnding name) with
  | none => .error (.unknownPictureKind (fileEnding name))
  | some readOnly => .error .unwritablePictureKind
  | some kind => .ok kind

/-- Whether a file of the kind takes coloured pictures. -/
def takesColours : FileKind → Except Error Unit
  | coloured => .ok ()
  | readOnly => .error .unwritablePictureKind
  | otherForm => .error .unsuitablePictureKind
  | paletted => .error .palettedPictureKind

end FileKind

end Chip8
