import Chip8.HostCall
import Chip8.HostFault
import Chip8.Image
import Chip8.Instruction.Listing
import Chip8.Main
import Chip8.Picture.Request
import Chip8.Report
import Chip8.Proofs.FirstFault
import Chip8.Proofs.Reachable
import Chip8.Proofs.CallReturn
import Chip8.Proofs.Atomicity
import Chip8.Proofs.Standstill
import Chip8.Proofs.FreshStart
import Chip8.Proofs.FrameCuts
import Chip8.Proofs.RandomDraws
import Chip8.Proofs.Resumption
import Chip8.Proofs.Footprint
import Chip8.Proofs.InstructionSet
import Chip8.Proofs.OutputOnly
import Chip8.Proofs.Sessions
import Chip8.Proofs.Drawings
import Chip8.Proofs.ExactArithmetic
import Chip8.Proofs.NextAddress
import Chip8.Proofs.BoundedStack
import Chip8.Proofs.RegisterTransfer
import Chip8.Proofs.KeyWait
import Chip8.Proofs.InstructionCount
import Chip8.Proofs.Assembly
import Chip8.Proofs.Rendering
import Chip8.Proofs.LoggedCalls
import Chip8.Proofs.ClampedAccess
import Chip8.Proofs.Diagnostics
import Chip8.Proofs.Rollback
