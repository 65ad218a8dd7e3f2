namespace Chip8.CommandLine

/-!
# Help

The fixed texts of the command line: its name, its usage and its help.
-/

/-- The name of the program. -/
def programName : String := "chip8vm"

/-- How the program is called. -/
def usageLines : List String :=
  ["usage: chip8vm [-h] [--frames FRAMES] [--ipf IPF] [--seed SEED]",
   "               [--quirks \x7bcosmac-vip,default\x7d] [--screenshot SCREENSHOT]",
   "               [--keys KEYS] [--log-level \x7bDEBUG,INFO,WARNING,ERROR,CRITICAL\x7d]",
   "               [--no-progress]",
   "               rom"]

/-- What the program and its options do. -/
def helpLines : List String :=
  usageLines ++
  ["",
   "Run a CHIP-8 ROM headlessly for a number of frames",
   "",
   "positional arguments:",
   "  rom                   Path to the ROM image",
   "",
   "options:",
   "  -h, --help            show this help message and exit",
   "  --frames FRAMES       Number of frames to run (default: 60)",
   "  --ipf IPF             Instructions per frame (default: 10)",
   "  --seed SEED           Seed for the random-byte instruction (default: 0)",
   "  --quirks \x7bcosmac-vip,default\x7d",
   "                        Quirks preset (default: default)",
   "  --screenshot SCREENSHOT",
   "                        Save the final framebuffer to this image file",
   "  --keys KEYS           Hex digits of keys held down for the whole run, e.g.",
   "                        '5a'",
   "  --log-level \x7bDEBUG,INFO,WARNING,ERROR,CRITICAL\x7d",
   "                        Console log level (default: INFO)",
   "  --no-progress         Disable the progress bar"]

end Chip8.CommandLine
