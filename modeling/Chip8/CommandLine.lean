/-
# Chip8.CommandLine — options

Options are long words after two hyphens, and a word may be cut short as long as
it means one option only. A value is the next word or follows an equals sign; the
last one given counts. All words are sorted into options and others before any is
used, so an ambiguous word is reported before anything else, then the first misuse
from left to right, then a missing program, and at last the words that were not
used.

A word that begins with a hyphen is no value unless it is a single hyphen, looks
like a negative number, or contains a blank; after `--`, every word is one. Behind
an equals sign, `--` leaves an option empty: it counts as given and has no value.
-/
import Chip8.Path
import Chip8.Text.Quoted
import Chip8.Text.WholeNumber

namespace Chip8.CommandLine

set_option autoImplicit false

inductive Flag where
  | help
  | rom
  | scale
  | ipf
  | shiftVx
  | glyphStride
  | fullscreen
  | palette
  | mute
  deriving DecidableEq, Repr

namespace Flag

/-- The words for options, in the order in which they are offered. -/
def words : List (String × Flag) :=
  [("-h", .help), ("--help", .help), ("--rom", .rom), ("--scale", .scale), ("--ipf", .ipf),
   ("--shift-vx", .shiftVx), ("--glyph-stride", .glyphStride), ("--fullscreen", .fullscreen),
   ("--palette", .palette), ("--mute", .mute)]

/-- The option as errors name it. -/
def label : Flag → String
  | .help => "-h/--help"
  | .rom => "--rom"
  | .scale => "--scale"
  | .ipf => "--ipf"
  | .shiftVx => "--shift-vx"
  | .glyphStride => "--glyph-stride"
  | .fullscreen => "--fullscreen"
  | .palette => "--palette"
  | .mute => "--mute"

def takesValue : Flag → Bool
  | .rom | .scale | .ipf | .glyphStride | .palette => true
  | .help | .shiftVx | .fullscreen | .mute => false

end Flag

inductive UsageError where
  | ambiguous (word : String) (candidates : List String)
  | valueMissing (flag : Flag)
  | valueIgnored (flag : Flag) (value : String)
  | notAWholeNumber (flag : Flag) (value : String)
  | notAPalette (value : String)
  | romMissing
  | unrecognized (words : List String)
  | romNotFound (path : String)
  | notPositive (flag : Flag)
  deriving DecidableEq, Repr

namespace UsageError

def message : UsageError → String
  | .ambiguous word candidates =>
      "ambiguous option: " ++ word ++ " could match " ++ ", ".intercalate candidates
  | .valueMissing flag => "argument " ++ flag.label ++ ": expected one argument"
  | .valueIgnored flag value =>
      "argument " ++ flag.label ++ ": ignored explicit argument " ++ Text.quoted value
  | .notAWholeNumber flag value =>
      "argument " ++ flag.label ++ ": invalid int value: " ++ Text.quoted value
  | .notAPalette value =>
      "argument --palette: invalid choice: " ++ Text.quoted value
        ++ " (choose from 'amber', 'mono')"
  | .romMissing => "the following arguments are required: --rom"
  | .unrecognized words => "unrecognized arguments: " ++ " ".intercalate words
  | .romNotFound path => "ROM file not found: " ++ path
  | .notPositive flag => flag.label ++ " must be positive"

end UsageError

inductive Value (α : Type) where
  | given (a : α)
  | empty
  deriving DecidableEq, Repr

structure Options where
  rom : Option (Value Path) := none
  scale : Value Int := .given 10
  ipf : Value Int := .given 10
  shiftVx : Bool := false
  glyphStride : Value Int := .given 1
  fullscreen : Bool := false
  palette : Value String := .given "mono"
  mute : Bool := false
  deriving DecidableEq, Repr

/-! ## Words -/

inductive Word where
  | other
  /-- The word after which no word is an option. -/
  | separator
  | unknown
  | option (flag : Flag) (value : Option (List Char))
  /-- The short word for help with characters behind it. -/
  | shortHelp (rest : List Char)
  deriving DecidableEq, Repr

/-- A word looks like a negative number: a hyphen, and digits with at most one point that has
digits behind it. One line break at the end does not matter. -/
def looksNegative (word : List Char) : Bool :=
  let isDigit := fun c => (Text.DecimalDigit.value? c).isSome
  let word := if word.getLast? = some '\n' then word.dropLast else word
  match word with
  | '-' :: rest =>
      match rest.dropWhile isDigit with
      | [] => !rest.isEmpty
      | '.' :: fraction => !fraction.isEmpty && fraction.all isDigit
      | _ => false
  | _ => false

/-- The part before the first equals sign, and the part behind it if there is one. -/
def cut (word : List Char) : List Char × Option (List Char) :=
  let before := word.takeWhile (· != '=')
  match word.dropWhile (· != '=') with
  | [] => (before, none)
  | _ :: value => (before, some value)

def candidates (text : List Char) : List (String × Flag) :=
  Flag.words.filter fun entry => text.isPrefixOf entry.1.toList

def classifyOther (word : List Char) : Word :=
  if looksNegative word || word.contains ' ' then .other else .unknown

/-- What a word before `--` is. -/
def classify (word : String) : Except UsageError Word :=
  let chars := word.toList
  match chars with
  | [] | ['-'] => .ok .other
  | '-' :: second :: rest =>
      match Flag.words.lookup word with
      | some flag => .ok (.option flag none)
      | none =>
          let (name, value) := cut chars
          match value, value.bind fun _ => Flag.words.lookup (String.ofList name) with
          | some (c :: tail), some .help =>
              if second = 'h' then .ok (.shortHelp (c :: tail)) else .ok (.option .help value)
          | _, some flag => .ok (.option flag value)
          | _, none =>
              if second = '-' then
                match candidates name with
                | [] => .ok (classifyOther chars)
                | [(_, flag)] => .ok (.option flag value)
                | several => .error (.ambiguous word (several.map (·.1)))
              else if second = 'h' then .ok (.shortHelp rest)
              else .ok (classifyOther chars)
  | _ => .ok .other

def classifyAll : List String → Except UsageError (List (String × Word))
  | [] => .ok []
  | word :: rest =>
      if word = "--" then .ok ((word, .separator) :: rest.map fun w => (w, .other))
      else do
        let kind ← classify word
        return (word, kind) :: (← classifyAll rest)

/-! ## Options -/

/-- The value that a text stands for; `--` is none. -/
def valueOf {α : Type} (read : String → Except UsageError α) (text : String) :
    Except UsageError (Value α) :=
  if text = "--" then .ok .empty else (read text).map .given

def number (flag : Flag) (text : String) : Except UsageError Int :=
  match Text.WholeNumber.read? text with
  | some z => .ok z
  | none => .error (.notAWholeNumber flag text)

def paletteName (text : String) : Except UsageError String :=
  if text = "amber" || text = "mono" then .ok text else .error (.notAPalette text)

def assign (o : Options) (flag : Flag) (text : String) : Except UsageError Options :=
  match flag with
  | .rom => do
      let path ← valueOf (fun text => .ok (Path.ofText text)) text
      return { o with rom := some path }
  | .scale => do return { o with scale := ← valueOf (number flag) text }
  | .ipf => do return { o with ipf := ← valueOf (number flag) text }
  | .glyphStride => do return { o with glyphStride := ← valueOf (number flag) text }
  | .palette => do return { o with palette := ← valueOf paletteName text }
  | .help | .shiftVx | .fullscreen | .mute => .error (.valueIgnored flag text)

def switchOn (o : Options) : Flag → Options
  | .shiftVx => { o with shiftVx := true }
  | .fullscreen => { o with fullscreen := true }
  | .mute => { o with mute := true }
  | _ => o

/-- The characters behind the short word for help are short words themselves, of which only help
exists; from the first other character on they are refused as a value. -/
def shortHelp : List Char → Except UsageError Unit
  | [] => .ok ()
  | 'h' :: rest => shortHelp rest
  | rest => .error (.valueIgnored .help (String.ofList rest))

inductive Outcome where
  | help
  | options (o : Options) (unused : List String)
  deriving DecidableEq, Repr

/-- Words are used from left to right. -/
def use (o : Options) (unused : List String) : List (String × Word) → Except UsageError Outcome
  | [] => .ok (.options o unused.reverse)
  | (word, .other) :: rest | (word, .separator) :: rest | (word, .unknown) :: rest =>
      use o (word :: unused) rest
  | (_, .shortHelp tail) :: _ => (shortHelp tail).map fun _ => .help
  | (_, .option flag (some value)) :: rest => do
      let o ← assign o flag (String.ofList value)
      use o unused rest
  | (_, .option flag none) :: rest =>
      if flag.takesValue then
        match rest with
        | (value, .other) :: rest => do
            let o ← assign o flag value
            use o unused rest
        | _ => .error (.valueMissing flag)
      else if flag = .help then .ok .help
      else use (switchOn o flag) unused rest

/-- The options of a command line, with the path of the program; `none` asks for help. -/
def parse (words : List String) : Except UsageError (Option (Value Path × Options)) := do
  match ← use {} [] (← classifyAll words) with
  | .help => return none
  | .options o unused =>
      match o.rom with
      | none => .error .romMissing
      | some path => if unused.isEmpty then return some (path, o) else .error (.unrecognized unused)

end Chip8.CommandLine
