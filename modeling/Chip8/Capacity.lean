namespace Chip8

/-!
# Capacity

What the system that a host runs on can hold: numbers up to a limit, and so many bytes or cells.
-/

/-- The numbers of the system are below this, and not below its negative. -/
def systemLimit : Int := 0x8000000000000000

/-- Whether an integer is a number of the system. -/
def isSystemNumber (z : Int) : Bool := decide (-systemLimit ≤ z) && decide (z < systemLimit)

/-- How many bytes the system is taken to hold where nobody says otherwise. -/
def memoryLimit : Nat := 0x800000000

end Chip8
