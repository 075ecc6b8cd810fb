/-
# Chip8.Log — the debug log and its categories

Whoever starts the emulator chooses log categories by a variable: names between
commas, blanks and case ignored, `all` for every category. A `Filter` is that
choice. A `Gate` is a variable that can change, together with the filter that was
read from it: the first question after a reset reads the variable, and the answer
stands until the next reset, whatever the variable becomes (`Gate.filter_setVariable`).

What is logged is a list of printed texts, so that logging is an answer of the
operation that logs and never an effect on the machine.
-/
import Chip8.Text.Blank
import Chip8.Text.Lowercase
import Chip8.Text.Percent

namespace Chip8.Log

set_option autoImplicit false

def fields : List Char → List (List Char)
  | [] => [[]]
  | ',' :: rest => [] :: fields rest
  | c :: rest =>
      match fields rest with
      | [] => [[c]]
      | field :: more => (c :: field) :: more

/-- The categories that are logged, in lower case. -/
structure Filter where
  categories : List String := []
  deriving DecidableEq, Repr

namespace Filter

def silent : Filter := {}

def ofVariable : Option String → Filter
  | none => silent
  | some value =>
      let parts := (fields value.toList).map fun part =>
        Text.lowercase (String.ofList (Text.trim part))
      ⟨parts.filter (· != "")⟩

/-- A category is logged; with no category given, anything is. -/
def enabled (f : Filter) (category : Option String) : Bool :=
  if f.categories.isEmpty then false
  else if f.categories.contains "all" then true
  else match category with
    | none => true
    | some name => f.categories.contains (Text.lowercase name)

def line (category message : String) : String := "[CHIP8][" ++ category ++ "] " ++ message

/-- What is printed when a message is logged: one line, or nothing. -/
def write (f : Filter) (category message : String) : List String :=
  if f.enabled (some category) then [line category message] else []

@[simp] theorem enabled_silent (category : Option String) : silent.enabled category = false := rfl

@[simp] theorem write_silent (category message : String) : silent.write category message = [] :=
  rfl

end Filter

/-- A variable and the filter that was last read from it. -/
structure Gate where
  setting : Option String := none
  cached : Option Filter := none
  deriving DecidableEq, Repr

namespace Gate

def filter (g : Gate) : Filter := g.cached.getD (.ofVariable g.setting)

/-- The gate after a question: the filter in force is now the cached one. -/
def asked (g : Gate) : Gate := { g with cached := some g.filter }

def setVariable (g : Gate) (value : Option String) : Gate := { g with setting := value }

/-- A value for the variable that a host gave: it may not hold a zero character. -/
def checkValue (value : String) : Except Refusal String :=
  if value.contains '\x00' then .error .zeroCharacter else .ok value

def reset (g : Gate) : Gate := { g with cached := none }

def enabled (g : Gate) (category : Option String) : Bool × Gate :=
  (g.filter.enabled category, g.asked)

/-- A message with arguments is logged. If it is not, it need not make sense. -/
def log (g : Gate) (category message : String) (args : List Text.Argument)
    (limits : Limits := {}) : Except Refusal (List String) × Gate :=
  (if g.filter.enabled (some category) then
      (Text.Percent.render message args limits).map fun text => [Filter.line category text]
    else .ok [],
    g.asked)

@[simp] theorem filter_asked (g : Gate) : g.asked.filter = g.filter := rfl

/-- After a question, the variable no longer matters. -/
theorem filter_setVariable (g : Gate) (value : Option String) :
    (g.asked.setVariable value).filter = g.filter := rfl

/-- After a reset, the filter is that of the variable. -/
@[simp] theorem filter_reset (g : Gate) : g.reset.filter = .ofVariable g.setting := rfl

end Gate

end Chip8.Log
