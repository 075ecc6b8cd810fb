/-
# Chip8.Text.Percent — messages with numbered holes

A message holds conversions: a percent sign, flags, a width, a precision, a size
that means nothing, and a letter. A star in place of a width or a precision takes
it from the arguments. A doubled percent sign is a percent sign and takes nothing.

`pieces` reads a message from left to right, with the open conversion as its only
state; `fill` gives each conversion its arguments in order. Filling uses up every
argument. Where that is not possible — too few, too many, the wrong kind, a number
of too many digits, an unknown or unfinished conversion — `render` falls back to the
message followed by the list of arguments. What no text can hold is refused, and so is
a list that cannot be shown.

A number may stand for a code point that is half of a pair. It takes its place in the
message, and only the whole message is refused for it: a `none` among its characters.
-/
import Chip8.Refusal
import Chip8.Text.Argument

namespace Chip8.Text.Percent

set_option autoImplicit false

/-! ## Conversions -/

/-- A number in a conversion: written out, or the next argument. -/
inductive Amount where
  | written (n : Nat)
  | taken
  deriving DecidableEq, Repr

/-- What stands between a percent sign and a letter, and the letter. -/
structure Conversion where
  left : Bool := false
  plus : Bool := false
  blank : Bool := false
  marked : Bool := false
  zero : Bool := false
  width : Amount := .written 0
  precision : Option Amount := none
  letter : Char := 's'
  deriving DecidableEq, Repr

inductive Phase where
  | flags
  | width
  | widthTaken
  | point
  | precision
  | precisionTaken
  | letter
  deriving DecidableEq, Repr

inductive Next where
  | more (k : Conversion) (phase : Phase)
  | done (k : Conversion)
  | flawed
  deriving DecidableEq, Repr

def widthLimit : Nat := Nat.pow 2 63 - 1

def precisionLimit : Nat := Nat.pow 2 31 - 1

/-- A size or the letter. -/
def atSize (k : Conversion) (c : Char) : Next :=
  if c = 'h' || c = 'l' || c = 'L' then .more k .letter else .done { k with letter := c }

/-- The point before a precision, or what can follow. -/
def atPoint (k : Conversion) (c : Char) : Next :=
  if c = '.' then .more { k with precision := some (.written 0) } .point else atSize k c

/-- The number with another digit, if it stays within a limit. -/
def grow (limit : Nat) (n : Amount) (c : Char) : Option Amount :=
  match n with
  | .taken => none
  | .written n =>
      let n := 10 * n + (c.toNat - 48)
      if n ≤ limit then some (.written n) else none

def atWidth (k : Conversion) (c : Char) : Next :=
  match grow widthLimit k.width c with
  | some n => .more { k with width := n } .width
  | none => .flawed

def atPrecision (k : Conversion) (c : Char) : Next :=
  match grow precisionLimit (k.precision.getD (.written 0)) c with
  | some n => .more { k with precision := some n } .precision
  | none => .flawed

def atFlags (k : Conversion) (c : Char) : Next :=
  match c with
  | '-' => .more { k with left := true } .flags
  | '+' => .more { k with plus := true } .flags
  | ' ' => .more { k with blank := true } .flags
  | '#' => .more { k with marked := true } .flags
  | '0' => .more { k with zero := true } .flags
  | '*' => .more { k with width := .taken } .widthTaken
  | c => if c.isDigit then atWidth k c else atPoint k c

def next (k : Conversion) (phase : Phase) (c : Char) : Next :=
  match phase with
  | .flags => atFlags k c
  | .width => if c.isDigit then atWidth k c else atPoint k c
  | .widthTaken => atPoint k c
  | .point =>
      if c = '*' then .more { k with precision := some .taken } .precisionTaken
      else if c.isDigit then atPrecision k c else atSize k c
  | .precision => if c.isDigit then atPrecision k c else atSize k c
  | .precisionTaken => atSize k c
  | .letter => .done { k with letter := c }

/-! ## Messages -/

inductive Piece where
  | char (c : Char)
  | hole (k : Conversion)
  | flaw
  deriving DecidableEq, Repr

/-- The pieces of a message. The first argument is the conversion that is open, if one is. -/
def pieces : Option (Conversion × Phase) → List Char → List Piece
  | none, [] => []
  | none, '%' :: '%' :: rest => .char '%' :: pieces none rest
  | none, '%' :: rest => pieces (some ({}, .flags)) rest
  | none, c :: rest => .char c :: pieces none rest
  | some _, [] => [.flaw]
  | some (k, phase), c :: rest =>
      match next k phase c with
      | .more k phase => pieces (some (k, phase)) rest
      | .done k => .hole k :: pieces none rest
      | .flawed => [.flaw]

/-- Why a message cannot be filled: it does not fit its arguments, or what it asks for is
refused. -/
inductive Trouble where
  | misfit
  | refused (reason : Refusal)
  deriving DecidableEq, Repr

/-! ## Arguments in their holes -/

/-- A text in parts, as padding needs it. -/
structure Body where
  numeric : Bool := false
  negative : Bool := false
  mark : List Char := []
  digits : List (Option Char)

def whole? : Argument → Option Int
  | .number z => some z
  | .flag b => some (if b then 1 else 0)
  | _ => none

/-- The whole number that an argument is, or becomes without its fraction. -/
def truncated (a : Argument) : Except Trouble Int :=
  match whole? a, a with
  | some z, _ => .ok z
  | none, .real bits =>
      match Magnitude.ofBits bits with
      | .finite m e => .ok (Magnitude.truncate m e)
      | .infinite _ => .error (.refused .beyondIndex)
      | .undefined => .error .misfit
  | none, _ => .error .misfit

def realBits (a : Argument) : Except Trouble UInt64 :=
  match whole? a, a with
  | some z, _ =>
      match Magnitude.ofRatio z.natAbs 1 with
      | .infinite _ => .error (.refused .beyondIndex)
      | x => .ok (x.bits (z < 0))
  | none, .real bits => .ok bits
  | none, _ => .error .misfit

/-- What cannot be shown does not fit its message, unless it is too deep. -/
def shownIn {α : Type} (checked : Except Refusal Unit) (a : α) : Except Trouble α :=
  match checked with
  | .ok () => .ok a
  | .error .tooManyDigits => .error .misfit
  | .error reason => .error (.refused reason)

/-- A whole number with at least as many digits as the precision says. -/
def wholeBody (r : Radix) (mark : List Char) (precision : Option Nat) (z : Int) :
    Except Trouble Body :=
  if precisionLimit - 3 < precision.getD 0 then .error (.refused .beyondIndex)
  else shownIn (if r = .decimal then Argument.checkNumber z else .ok ())
    { numeric := true
      negative := z < 0
      mark := mark
      digits := (Numeral.zeroPadded r (precision.getD 0) [] z.natAbs).map some }

def realBody (k : Conversion) (precision : Nat) (bits : UInt64) : Body :=
  let numeral (m : Nat) (e : Int) : List Char :=
    let (num, den) := Decimal.ratio m e
    match k.letter with
    | 'f' | 'F' => (Decimal.fixed precision num den).text k.marked
    | 'e' | 'E' => (Decimal.scientific 'e' precision num den).text k.marked
    | _ =>
        let d := Decimal.general 'e' precision num den
        if k.marked then d.text true else d.trim.text false
  let text := Decimal.ofMagnitude numeral (.ofBits bits)
  { numeric := true
    negative := !(Decimal.sign bits).isEmpty
    digits := (if k.letter.isUpper then text.map Char.toUpper else text).map some }

/-- The character of a code point, unless it is half of a pair. -/
def ofCodePoint (n : Nat) : Option Char :=
  if h : n.isValidChar then some (Char.ofNatAux n h) else none

def character (a : Argument) : Except Trouble (List (Option Char)) :=
  match whole? a, a with
  | some z, _ =>
      if 0 ≤ z ∧ z < 0x110000 then .ok [ofCodePoint z.toNat] else .error (.refused .beyondIndex)
  | none, .text s => if s.length = 1 then .ok (s.toList.map some) else .error .misfit
  | none, _ => .error .misfit

def body (limits : Limits) (k : Conversion) (precision : Option Nat) (a : Argument) :
    Except Trouble Body :=
  let cut (text : List Char) : Except Trouble Body :=
    let text := match precision with
      | some n => text.take n
      | none => text
    shownIn (a.check limits 0) { digits := text.map some }
  let ofWhole (r : Radix) (mark : List Char) : Except Trouble Body :=
    match whole? a with
    | some z => wholeBody r (if k.marked then mark else []) precision z
    | none => .error .misfit
  match k.letter with
  | 's' => cut a.shown
  | 'r' => cut a.listed
  | 'a' => cut a.listedAscii
  | 'd' | 'i' | 'u' => (truncated a).bind (wholeBody .decimal [] precision)
  | 'o' => ofWhole .octal ['0', 'o']
  | 'x' => ofWhole .hex ['0', 'x']
  | 'X' => ofWhole .upperHex ['0', 'X']
  | 'e' | 'E' | 'f' | 'F' | 'g' | 'G' => (realBits a).map (realBody k (precision.getD 6))
  | 'c' => (character a).map fun text => { digits := text }
  | _ => .error .misfit

def place (k : Conversion) (width : Nat) (b : Body) : List (Option Char) :=
  let sign : List Char :=
    if !b.numeric then []
    else if b.negative then ['-']
    else if k.plus then ['+']
    else if k.blank then [' ']
    else []
  let lead := (sign ++ b.mark).map some
  let padding (c : Char) := List.replicate (width - (lead.length + b.digits.length)) (some c)
  if k.left then lead ++ b.digits ++ padding ' '
  else if k.zero && b.numeric then lead ++ padding '0' ++ b.digits
  else padding ' ' ++ lead ++ b.digits

def amount (low limit : Int) (n : Amount) (args : List Argument) :
    Except Trouble (Int × List Argument) :=
  match n, args with
  | .written n, args => .ok (n, args)
  | .taken, [] => .error .misfit
  | .taken, a :: rest =>
      match whole? a with
      | none => .error .misfit
      | some z => if low ≤ z ∧ z ≤ limit then .ok (z, rest) else .error (.refused .beyondIndex)

def precisionOf (k : Conversion) (args : List Argument) :
    Except Trouble (Option Nat × List Argument) :=
  match k.precision with
  | none => .ok (none, args)
  | some n =>
      (amount (-(precisionLimit + 1)) precisionLimit n args).map fun (z, args) =>
        (some z.toNat, args)

/-- The characters that a width asks for. The opposite of the least index is no index, and asks for
none. -/
def span (width : Int) : Nat := if width.natAbs ≤ widthLimit then width.natAbs else 0

/-- One conversion, and the arguments that are left. A width below zero moves the text to the
left end. -/
def convert (limits : Limits) (k : Conversion) (args : List Argument) :
    Except Trouble (List (Option Char) × List Argument) := do
  let (width, args) ← amount (-(widthLimit + 1)) widthLimit k.width args
  let (precision, args) ← precisionOf k args
  match args with
  | [] => throw .misfit
  | a :: rest =>
      let b ← body limits k precision a
      match Refusal.room (span width) 1 limits with
      | .error reason => throw (.refused reason)
      | .ok () => return (place { k with left := k.left || width < 0 } (span width) b, rest)

def fill (limits : Limits) : List Piece → List Argument → Except Trouble (List (Option Char))
  | [], [] => .ok []
  | [], _ :: _ => .error .misfit
  | .char c :: rest, args => do return some c :: (← fill limits rest args)
  | .flaw :: _, _ => .error .misfit
  | .hole k :: rest, args => do
      let (text, args) ← convert limits k args
      return text ++ (← fill limits rest args)

def append (limits : Limits) (message : String) (args : List Argument) : Except Refusal String :=
  (Argument.checkItems limits 1 args).map fun _ =>
    String.ofList (message.toList ++ ' ' :: Argument.listedAll args)

/-- The message with its arguments in it, or behind it where they do not fit. A
message without arguments is left as it is. -/
def render (message : String) (args : List Argument) (limits : Limits := {}) :
    Except Refusal String :=
  if args.isEmpty then .ok message
  else match fill limits (pieces none message.toList) args with
    | .ok text =>
        match text.mapM id with
        | some text => .ok (String.ofList text)
        | none => .error .halfCharacter
    | .error .misfit => append limits message args
    | .error (.refused reason) => .error reason

end Chip8.Text.Percent
