import Chip8.Error

namespace Chip8

/-!
# Dialects

Historical interpreters disagree about a few instructions.  A dialect settles each disagreement.

* `Dialect` — the five switches; the one with all of them off suits most programs in circulation;
* `Dialect.cosmacVip` — the interpreter of the COSMAC VIP;
* `Dialect.named` — a dialect by its name;
* `Dialect.ofRecord`, `Dialect.ofValue` — a dialect as a host describes it;
* `Dialect.drawSwitch` — the value from which such a description takes its last switch.
-/

/-- How the disputed instructions behave. -/
structure Dialect where
  /-- The shifts `8XY6` and `8XYE` shift VY into VX instead of shifting VX in place. -/
  shiftUsesVy : Bool := false
  /-- `FX55` and `FX65` leave I just past the last byte they touched. -/
  indexAdvances : Bool := false
  /-- `BXNN` jumps to XNN + VX instead of NNN + V0. -/
  jumpUsesVx : Bool := false
  /-- `8XY1`, `8XY2` and `8XY3` clear VF. -/
  logicResetsVf : Bool := false
  /-- A completed draw ends the batch it is in. -/
  drawEndsBatch : Bool := false
deriving DecidableEq, Repr, Inhabited

namespace Dialect

/-- The interpreter of the COSMAC VIP. -/
def cosmacVip : Dialect where
  shiftUsesVy := true
  indexAdvances := true
  jumpUsesVx := false
  logicResetsVf := true
  drawEndsBatch := true

/-- The dialects that have a name. -/
def presets : List (String × Dialect) := [("default", {}), ("cosmac-vip", cosmacVip)]

/-- The names of the dialects. -/
def names : List String := presets.map (·.1)

/-- The dialect of a name. -/
def named (name : String) : Except Error Dialect :=
  match presets.lookup name with
  | some dialect => .ok dialect
  | none => .error (.unknownDialect name names)

/-- The switches in their fixed order, each under its name. -/
def switches (d : Dialect) : List (String × Bool) :=
  [("shift_uses_vy", d.shiftUsesVy), ("load_store_increments_index", d.indexAdvances),
   ("jump_uses_vx", d.jumpUsesVx), ("logic_resets_vf", d.logicResetsVf),
   ("display_wait", d.drawEndsBatch)]

/-- The names of the switches. -/
def switchNames : List String := (switches {}).map (·.1)

/-- A dialect from the names of the switches that are on. -/
def ofSwitches (on : String → Bool) : Dialect where
  shiftUsesVy := on "shift_uses_vy"
  indexAdvances := on "load_store_increments_index"
  jumpUsesVx := on "jump_uses_vx"
  logicResetsVf := on "logic_resets_vf"
  drawEndsBatch := on "display_wait"

/-- A dialect from its switches by name: those left out are off, and there are no others. -/
def ofRecord (entries : List (String × Value)) : Except Error Dialect :=
  match (entries.map (·.1)).filter (fun name => !switchNames.contains name) with
  | [] => .ok (ofSwitches fun name => ((entries.lookup name).getD .null).isTrue)
  | unknown => .error (.unknownSwitches unknown)

/-- A dialect as a host describes it: by nothing, by its name or by its switches. -/
def ofValue : Value → Except Error Dialect
  | .null => .ok {}
  | .text name => named name
  | .record entries => ofRecord entries
  | _ => .error .wrongKind

/-- The value that a host's description gives to the switch with which draws end batches. -/
def drawSwitch : Value → Value
  | .record entries => (entries.lookup "display_wait").getD (.bool false)
  | _ => .bool false

/-- A dialect is described by all of its switches. -/
theorem ofRecord_switches (d : Dialect) :
    ofRecord (d.switches.map fun s => (s.1, .bool s.2)) = .ok d := by
  rfl

end Dialect

end Chip8
