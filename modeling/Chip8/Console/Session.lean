/-
# Chip8.Console.Session — all that a host can do, in any order

Between two instructions a host may do many things to a console: let time pass, press and
lift keys, choose another seed, look at the redraw flag, write into memory, show a picture,
load a program, reset. `Act` lists them, with the instruction itself. What a host asks for
may be refused, and then nothing changes (`attempt`); an instruction that fails leaves the
machine that `Machine.step` leaves.

A session is a list of acts, and `run` carries it out. The `history` of a session has the answer
to every act and the console after it.
-/
import Chip8.Console
import Chip8.Machine.Step

namespace Chip8.Console

set_option autoImplicit false

inductive Act where
  /-- One instruction. -/
  | step
  | tick
  | setKeys (states : List Bool)
  | press (name : String)
  | release (name : String)
  | liftKeys
  | seed (value : Int)
  | takeRedraw
  | load (address : Int) (data : List Byte)
  | store (address value : Int)
  | writeBlock (address : Int) (values : List Int)
  | showBytes (values : List Int)
  | reset

/-- The console after a request to its machine, which changes nothing when it is refused. -/
def attempt {ε : Type} (c : Console) : Except ε Machine → Console
  | .ok machine => { c with machine }
  | .error _ => c

def act (s : Setting) (c : Console) : Act → Console
  | .step => { c with machine := (c.machine.step s).machine }
  | .tick => { c with machine := c.machine.tick }
  | .setKeys states => c.attempt (c.machine.setKeys states)
  | .press name => c.press name
  | .release name => c.release name
  | .liftKeys => c.liftKeys
  | .seed value => { c with machine := c.machine.seed value }
  | .takeRedraw => { c with machine := c.machine.takeRedraw.2 }
  | .load address data => c.attempt (c.machine.load address data)
  | .store address value =>
      c.attempt ((c.machine.memory.store address value).map fun memory =>
        { c.machine with memory })
  | .writeBlock address values =>
      c.attempt ((c.machine.memory.writeBlock address (values.map (BitVec.ofInt 8))).map
        fun memory => { c.machine with memory })
  | .showBytes values =>
      c.attempt ((c.machine.display.loadValues values).map fun display =>
        { c.machine with display })
  | .reset => { c with machine := c.machine.reset }

/-- What a host learns from an act that was done. -/
inductive Answer where
  | nothing
  /-- The row of the instruction that was executed. -/
  | executed (row : Instruction)
  /-- The redraw flag. -/
  | redraw (wanted : Bool)
  deriving DecidableEq

def granted {ε α : Type} (reason : ε → Failure) : Except ε α → Except Failure Answer
  | .ok _ => .ok .nothing
  | .error e => .error (reason e)

def answer (s : Setting) (c : Console) : Act → Except Failure Answer
  | .step => (c.machine.step s).outcome.map .executed
  | .setKeys states => granted .refusal (c.machine.setKeys states)
  | .takeRedraw => .ok (.redraw c.machine.takeRedraw.1)
  | .load address data => granted .fault (c.machine.load address data)
  | .store address value => granted .fault (c.machine.memory.store address value)
  | .writeBlock address values =>
      granted .fault (c.machine.memory.writeBlock address (values.map (BitVec.ofInt 8)))
  | .showBytes values => granted .refusal (c.machine.display.loadValues values)
  | .tick | .press _ | .release _ | .liftKeys | .seed _ | .reset => .ok .nothing

/-- What a host sees of a session: after every act its answer and the console. -/
def history (s : Setting) (c : Console) : List Act → List (Except Failure Answer × Console)
  | [] => []
  | a :: rest => (c.answer s a, c.act s a) :: (c.act s a).history s rest

def run (s : Setting) (c : Console) (acts : List Act) : Console := acts.foldl (act s) c

/-- A request keeps what it keeps whenever it is granted. -/
theorem attempt_keeps {ε : Type} {P : Machine → Prop} {c : Console} {r : Except ε Machine}
    (before : P c.machine) (after : ∀ machine, r = .ok machine → P machine) :
    P (c.attempt r).machine := by
  cases r with
  | error _ => exact before
  | ok machine => exact after machine rfl

theorem attempt_map_keeps {ε α : Type} {P : Machine → Prop} {c : Console} {r : Except ε α}
    {f : α → Machine} (before : P c.machine) (after : ∀ a, r = .ok a → P (f a)) :
    P (c.attempt (r.map f)).machine := by
  cases r with
  | error _ => exact before
  | ok a => exact after a rfl

theorem run_concat (s : Setting) (c : Console) (acts : List Act) (a : Act) :
    c.run s (acts ++ [a]) = (c.run s acts).act s a := by
  rw [run, List.foldl_append]
  rfl

/-- What every act keeps holds after every session. -/
theorem run_keeps {s : Setting} {P : Console → Prop} (acts : List Act) {c : Console}
    (first : P c) (each : ∀ c a, P c → P (c.act s a)) : P (c.run s acts) := by
  induction acts generalizing c with
  | nil => exact first
  | cons a rest ih => exact ih (each c a first)

/-- Of the machine holds `P` whenever an instruction of a session is about to be executed. -/
def EachStep (s : Setting) (P : Machine → Prop) (c : Console) (acts : List Act) : Prop :=
  ∀ before, before ++ [.step] <+: acts → P (c.run s before).machine

theorem eachStep_nil (s : Setting) (P : Machine → Prop) (c : Console) : c.EachStep s P [] := by
  intro before inside
  simp at inside

/-- The first act is a place to look at, if it is an instruction. -/
theorem eachStep_cons (s : Setting) (P : Machine → Prop) (c : Console) (a : Act)
    (acts : List Act) :
    c.EachStep s P (a :: acts) ↔
      (a = .step → P c.machine) ∧ (c.act s a).EachStep s P acts := by
  constructor
  · intro each
    refine ⟨?_, fun before inside => each (a :: before) (List.cons_prefix_cons.2 ⟨rfl, inside⟩)⟩
    rintro rfl
    exact each [] (List.cons_prefix_cons.2 ⟨rfl, List.nil_prefix⟩)
  · rintro ⟨first, rest⟩ before inside
    cases before with
    | nil => exact first (List.cons_prefix_cons.1 inside).1.symm
    | cons b before =>
        obtain ⟨rfl, shorter⟩ := List.cons_prefix_cons.1 inside
        exact rest before shorter

end Chip8.Console
