/-
# Chip8.Host — the conversation with window, sound card and clock

The emulator never acts on the world itself. It makes requests in a certain order
and gets answers: the events of each frame, whether the mixer is open, whether a
sound channel is free. Every request, and some calls that are no request, may also
raise an exception instead of an answer. A `Host` holds the answers that are still to
come; what is asked for is a list of `Request`s.
-/
import Chip8.Surface
import Chip8.Text.Numeral

namespace Chip8

set_option autoImplicit false

inductive Event where
  | quit
  | keyDown (name : String)
  | keyUp (name : String)
  | other
  deriving DecidableEq, Repr

/-- One period of a square wave: samples at the high level, then samples at the low level. -/
structure Wave where
  high : Nat
  low : Nat
  deriving DecidableEq, Repr

namespace Wave

def amplitude : Int := 12000

def samples (w : Wave) : List Int :=
  List.replicate w.high amplitude ++ List.replicate w.low (-amplitude)

end Wave

/-- What the emulator asks the host to do. A request is made whether it is granted or raises. -/
inductive Request where
  | prepareMixer (rate : Nat) (format : Int) (channels buffer : Nat)
  | start
  | title (text : String)
  | openWindow (width height : Int) (fullscreen : Bool)
  | show (frame : Frame)
  | flip
  /-- A channel is looked for; whether one was found is part of the record. -/
  | findChannel (free : Bool)
  | sound (wave : Wave)
  | play
  | volume (level : Float)
  | stop
  | wait (rate : Nat)
  | quit

/-- What a call on the host may raise. -/
inductive HostError where
  /-- An error of the window system or of its sound, which the frontend reports. -/
  | reported (text : String)
  /-- An exception that passes through the frontend. -/
  | other
  deriving DecidableEq, Repr

namespace HostError

def failure : HostError → Failure
  | .reported text => .frontend (.raised text)
  | .other => .host

end HostError

/-- The answers that a host will give. -/
structure Host where
  /-- There is a window system. -/
  window : Bool := true
  /-- The events of each frame. -/
  frames : List (List Event) := []
  /-- The sample rate of the mixer, or that it is closed, at each question. -/
  mixer : List (Option Int) := [some 44100]
  /-- Whether a channel is free, at each question. -/
  channels : List Bool := [true]
  /-- What each call raises, if it does. When the list is used up no call raises. -/
  raises : List (Option HostError) := []
  deriving DecidableEq, Repr

namespace Host

/-- The next of some answers, and the answers after it. The last one repeats. -/
def next {α : Type} (last : α) : List α → α × List α
  | [] => (last, [])
  | [a] => (a, [a])
  | a :: b :: rest => (a, b :: rest)

/-- A call, of which only matters whether it raises. -/
def call (h : Host) : Except Failure Unit × Host :=
  match h.raises with
  | [] => (.ok (), h)
  | none :: rest => (.ok (), { h with raises := rest })
  | some e :: rest => (.error e.failure, { h with raises := rest })

/-- Requests, one after another, up to the first that raises; with the requests that were made. -/
def ask (h : Host) : List Request → Except Failure Unit × List Request × Host
  | [] => (.ok (), [], h)
  | r :: rest =>
      match h.call with
      | (.error e, h) => (.error e, [r], h)
      | (.ok (), h) =>
          let (outcome, made, h) := h.ask rest
          (outcome, r :: made, h)

def askMixer (h : Host) : Except Failure (Option Int) × Host :=
  match h.call with
  | (.error e, h) => (.error e, h)
  | (.ok (), h) =>
      let (answer, rest) := next none h.mixer
      (.ok answer, { h with mixer := rest })

def askChannel (h : Host) : Except Failure Bool × Host :=
  match h.call with
  | (.error e, h) => (.error e, h)
  | (.ok (), h) =>
      let (answer, rest) := next false h.channels
      (.ok answer, { h with channels := rest })

theorem call_of_calm {h : Host} (calm : h.raises = []) : h.call = (.ok (), h) := by
  rw [call, calm]

/-- A host that never raises grants all requests. -/
theorem ask_of_calm {h : Host} (calm : h.raises = []) (asked : List Request) :
    h.ask asked = (.ok (), asked, h) := by
  induction asked with
  | nil => rfl
  | cons r rest ih => rw [ask, call_of_calm calm]; simp only [ih]

theorem askMixer_of_calm {h : Host} (calm : h.raises = []) :
    h.askMixer = (.ok (next none h.mixer).1, { h with mixer := (next none h.mixer).2 }) := by
  rw [askMixer, call_of_calm calm]

theorem askChannel_of_calm {h : Host} (calm : h.raises = []) :
    h.askChannel =
      (.ok (next false h.channels).1, { h with channels := (next false h.channels).2 }) := by
  rw [askChannel, call_of_calm calm]

/-- What may come of requests: all are made, or one of them raises, which is then the last. -/
inductive Grants (h : Host) (asked : List Request) :
    Except Failure Unit × List Request × Host → Prop where
  | all {after : Host} (later : after.raises <:+ h.raises) : Grants h asked (.ok (), asked, after)
  | raised {e : Failure} {made : List Request} {after : Host} (begins : made <+: asked)
      (loud : h.raises ≠ []) : Grants h asked (.error e, made, after)

theorem raises_call (h : Host) : h.call.2.raises <:+ h.raises := by
  unfold call
  split
  · exact List.suffix_rfl
  · rename_i same
    exact same ▸ List.suffix_cons ..
  · rename_i same
    exact same ▸ List.suffix_cons ..

theorem loud_of_call {h : Host} {e : Failure} (raised : h.call.1 = .error e) : h.raises ≠ [] := by
  intro calm
  rw [call_of_calm calm] at raised
  cases raised

theorem grants_ask (h : Host) (asked : List Request) : h.Grants asked (h.ask asked) := by
  induction asked generalizing h with
  | nil => exact .all List.suffix_rfl
  | cons r rest ih =>
      have later := h.raises_call
      have loud {e : Failure} : h.call.1 = .error e → h.raises ≠ [] := loud_of_call
      rw [ask]
      generalize h.call = called at later loud
      obtain ⟨e | _, after⟩ := called
      · exact .raised ⟨rest, rfl⟩ (loud rfl)
      · have grants := ih after
        dsimp only
        generalize after.ask rest = answers at grants
        cases grants with
        | all later' => exact .all (later'.trans later)
        | raised begins loud' =>
            have loud : h.raises ≠ [] := fun calm => loud' (List.suffix_nil.1 (calm ▸ later))
            exact .raised (List.cons_prefix_cons.2 ⟨rfl, begins⟩) loud

theorem raises_askChannel (h : Host) : h.askChannel.2.raises <:+ h.raises := by
  have later := h.raises_call
  unfold askChannel
  generalize h.call = called at later
  obtain ⟨_ | _, after⟩ := called <;> exact later

theorem loud_of_askChannel {h : Host} {e : Failure} (raised : h.askChannel.1 = .error e) :
    h.raises ≠ [] := by
  intro calm
  rw [askChannel_of_calm calm] at raised
  cases raised

end Host

end Chip8
