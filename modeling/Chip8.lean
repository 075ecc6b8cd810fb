import Chip8.Text.Printable
import Chip8.Text.Blank
import Chip8.Text.DecimalDigit
import Chip8.Text.Lowercase
import Chip8.Text.Numeral
import Chip8.Text.Quoted
import Chip8.Text.WholeNumber
import Chip8.Text.Decimal
import Chip8.Text.Argument
import Chip8.Text.Percent
import Chip8.Text.Form
import Chip8.Fault
import Chip8.Refusal
import Chip8.Log
import Chip8.Memory
import Chip8.Registers
import Chip8.Stack
import Chip8.Timers
import Chip8.Generator
import Chip8.Keypad
import Chip8.Keyboard
import Chip8.Font
import Chip8.Display
import Chip8.Binary64
import Chip8.Number
import Chip8.Image
import Chip8.Failure
import Chip8.Opcode
import Chip8.Instruction.Template
import Chip8.Operation
import Chip8.Instruction
import Chip8.InstructionSet
import Chip8.Dialect
import Chip8.Machine
import Chip8.Machine.Effect
import Chip8.Machine.Execute
import Chip8.Machine.Step
import Chip8.Machine.Run
import Chip8.Machine.Call
import Chip8.Trace
import Chip8.Console
import Chip8.Console.Session
import Chip8.Palette
import Chip8.Picture
import Chip8.Surface
import Chip8.Host
import Chip8.Tone
import Chip8.Path
import Chip8.Player
import Chip8.Player.Session
import Chip8.Player.Run
import Chip8.CommandLine
import Chip8.Program
import Chip8.Main
import Chip8.Proofs.Pixels
import Chip8.Proofs.Effect
import Chip8.Proofs.Memory
import Chip8.Proofs.Stack
import Chip8.Proofs.Transaction
import Chip8.Proofs.Assembly
import Chip8.Proofs.Decoding
import Chip8.Proofs.Step
import Chip8.Proofs.Faults
import Chip8.Proofs.Bounds
import Chip8.Proofs.Ideal
import Chip8.Proofs.Simulation
import Chip8.Proofs.Untouched
import Chip8.Proofs.Subroutines
import Chip8.Proofs.Frames
import Chip8.Proofs.Ring
import Chip8.Proofs.Tracing
import Chip8.Proofs.Painting
import Chip8.Proofs.Switching
import Chip8.Proofs.Window
import Chip8.Proofs.Keys
import Chip8.Proofs.Loading
import Chip8.Proofs.Views
import Chip8.Proofs.Watching
import Chip8.Proofs.Opening
import Chip8.Proofs.Closing
import Chip8.Proofs.Pitch
import Chip8.Proofs.Redraw
import Chip8.Proofs.WindowSession
import Chip8.Proofs.Exit
import Chip8.Proofs.Work
import Chip8.Proofs.Calls
import Chip8.Proofs.Sprites
import Chip8.Proofs.Polynomials
import Chip8.Proofs.Period
import Chip8.Proofs.Flags
import Chip8.Proofs.Blocks
import Chip8.Proofs.Overlays
import Chip8.Proofs.Matching
import Chip8.Proofs.Order
import Chip8.Proofs.Registration
import Chip8.Proofs.Layout
import Chip8.Proofs.Disassembly
import Chip8.Proofs.Footprint
import Chip8.Proofs.Saving
import Chip8.Proofs.Waiting
import Chip8.Proofs.Dialects
import Chip8.Proofs.Reset
import Chip8.Proofs.Strokes
import Chip8.Proofs.Lifetime
import Chip8.Proofs.Sounding
import Chip8.Proofs.Rectangles
import Chip8.Proofs.Rerun
import Chip8.Proofs.Transcript
import Chip8.Proofs.BoundedList
import Chip8.Proofs.ByteMap
import Chip8.Proofs.Trimming
import Chip8.Proofs.Messages
import Chip8.Proofs.Gate
import Chip8.Proofs.Laps
import Chip8.Proofs.Settings
