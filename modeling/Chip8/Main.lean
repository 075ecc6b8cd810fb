/-
# Chip8.Main — the command line

The outer layer of the program: it looks at the file the command line names and
at the variable that chooses the log, runs `Program.run` on what it found, and
prints what came of it. It has no window to offer.
-/
import Chip8.Program

namespace Chip8

set_option autoImplicit false

/-- What a path leads to in the file system: what is there and cannot be read counts as a
directory. -/
def Path.look (path : Path) : IO Path.Target := do
  try
    return .file ((← IO.FS.readBinFile path.text).toList.map fun b => b.toBitVec)
  catch
    | .noFileOrDirectory _ _ _ => return .missing
    | _ => return .directory

end Chip8

def main (args : List String) : IO UInt32 := do
  let target ← match Chip8.CommandLine.parse args with
    | .ok (some (.given path, _)) => path.look
    | _ => pure .missing
  let log := Chip8.Log.Filter.ofVariable (← IO.getEnv "CHIP8_DEBUG")
  let r := Chip8.Program.run args log (fun _ => target) { window := false }
  r.printed.forM fun line => IO.println line
  match r.outcome with
  | .ok exit =>
      if exit.report != "" then IO.eprintln exit.report
      return exit.status.toUInt32
  | .error _ => return 1
