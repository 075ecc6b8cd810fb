/-
# Chip8.Path — names of files

A path is a root and the names below it. Reading drops empty names and single
dots, so `./a//b/` and `a/b` are one path; a path without names is the directory
it starts from.
-/
namespace Chip8

set_option autoImplicit false

/-- A path: `root` is empty, `/`, or `//`. -/
structure Path where
  root : String := ""
  names : List String := []
  deriving DecidableEq, Repr

namespace Path

def pieces : List Char → List (List Char)
  | [] => [[]]
  | '/' :: rest => [] :: pieces rest
  | c :: rest =>
      match pieces rest with
      | [] => [[c]]
      | piece :: more => (c :: piece) :: more

/-- The root of a text: two slashes are a root of their own, any other number is one. -/
def rootOf : List Char → String
  | ['/', '/'] => "//"
  | '/' :: '/' :: c :: _ => if c = '/' then "/" else "//"
  | '/' :: _ => "/"
  | _ => ""

def ofText (text : String) : Path where
  root := rootOf text.toList
  names := ((pieces text.toList).map String.ofList).filter fun name => name != "" && name != "."

def text (p : Path) : String :=
  if p.root = "" && p.names.isEmpty then "." else p.root ++ "/".intercalate p.names

def name (p : Path) : String := p.names.getLastD ""

/-- A name without what follows its last point; a point at either end does not count. -/
def stemOf (name : List Char) : List Char :=
  let ending := name.reverse.takeWhile (· != '.')
  let stem := name.take (name.length - ending.length - 1)
  if ending.isEmpty || stem.isEmpty then name else stem

def stem (p : Path) : String := String.ofList (stemOf p.name.toList)

inductive Target where
  | missing
  | directory
  | file (data : List (BitVec 8))
  /-- A name on the way, or the whole path, is longer than a file system takes. -/
  | tooLong
  /-- The path holds a zero character, as no name does. -/
  | unnameable
  deriving DecidableEq, Repr

end Path

inductive FileError where
  | directory
  | tooLong
  deriving DecidableEq, Repr

def Path.Target.present : Path.Target → Except FileError Bool
  | .missing | .unnameable => .ok false
  | .directory | .file _ => .ok true
  | .tooLong => .error .tooLong

end Chip8
