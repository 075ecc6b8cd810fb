/-
# Chip8.Tone — the square wave of the sound timer

A tone is switched on and off. Its wave is built and its channel is looked for
when it is first switched on; a tone without a channel stays off and looks again
the next time. `playing` and the last `play` or `stop` that the host was asked for
agree, unless the host raises. What a call has changed before the host raises stays.
-/
import Chip8.Host
import Chip8.Log
import Chip8.Number

namespace Chip8

set_option autoImplicit false

/-- A tone and what it holds of the host. -/
structure Tone where
  rate : Number
  frequency : Number
  volume : Float
  wave : Option Wave := none
  /-- A channel is held. -/
  channel : Bool := false
  playing : Bool := false

namespace Tone

def standardFrequency : Number := .real 220.0

def standardVolume : Number := .real 0.25

def standardRate : Number := .whole 44100

/-- A tone for a host that has a window system and an open mixer. -/
def create (h : Host) (rate frequency volume : Number) : Except Failure Tone × Host :=
  if !h.window then (.error (.frontend .soundMissing), h)
  else match h.askMixer with
    | (.error e, h) => (.error e, h)
    | (.ok none, h) => (.error (.frontend .mixerClosed), h)
    | (.ok (some _), h) =>
        if frequency.notPositive then (.error (.refusal .frequency), h)
        else (.ok { rate := rate.atLeastOne, frequency, volume := volume.clamp }, h)

/-- The wave whose period has `n` samples, the first half of them high. -/
def waveOf (n : Int) : Wave :=
  let period := (max 2 n).toNat
  ⟨period / 2, period - period / 2⟩

/-- The wave of a tone: its period is the nearest whole number of samples, and at least two. -/
def build (t : Tone) (limits : Limits := {}) : Except Failure Wave := do
  let wave := waveOf (← Number.wholeBy Magnitude.nearest (← t.rate.quotient t.frequency))
  match Refusal.room wave.high 8 limits with
  | .ok () => return wave
  | .error reason => throw (.refusal reason)

structure Result where
  outcome : Except Failure Unit := .ok ()
  tone : Tone
  host : Host
  requests : List Request := []
  printed : List String := []

def silence (t : Tone) (h : Host) : Result :=
  match h.ask (if t.channel then [.stop] else []) with
  | (.error e, requests, host) => { outcome := .error e, tone := t, host, requests }
  | (.ok (), requests, host) => { tone := { t with playing := false }, host, requests }

def sound (t : Tone) (h : Host) (before : List Request) : Result :=
  match h.ask [.play, .volume t.volume] with
  | (.error e, made, host) =>
      { outcome := .error e, tone := { t with channel := true }, host, requests := before ++ made }
  | (.ok (), made, host) =>
      { tone := { t with channel := true, playing := true }, host, requests := before ++ made }

/-- A channel is looked for if none is held, and the tone is played. -/
def begin (f : Log.Filter) (t : Tone) (h : Host) (before : List Request) : Result :=
  if t.channel then t.sound h before
  else match h.askChannel with
    | (.error e, host) =>
        { outcome := .error e, tone := t, host, requests := before ++ [.findChannel false] }
    | (.ok true, h) => t.sound h (before ++ [.findChannel true])
    | (.ok false, host) =>
        { tone := t, host, requests := before ++ [.findChannel false]
          printed := f.write "audio" "no_free_channel" }

/-- The tone is switched on or off; nothing happens if it already is. -/
def set (f : Log.Filter) (t : Tone) (h : Host) (on : Bool) (limits : Limits := {}) : Result :=
  if on = t.playing then { tone := t, host := h }
  else if !on then t.silence h
  else match t.wave with
    | some _ => t.begin f h []
    | none =>
        match t.build limits with
        | .error e => { outcome := .error e, tone := t, host := h }
        | .ok wave =>
            match h.ask [.sound wave] with
            | (.error e, requests, host) => { outcome := .error e, tone := t, host, requests }
            | (.ok (), requests, h) => { t with wave := some wave }.begin f h requests

/-- The tone is silenced and lets go of its channel and its wave. -/
def shutdown (t : Tone) (h : Host) : Result :=
  let silent := t.silence h
  match silent.outcome with
  | .error _ => silent
  | .ok () => { silent with tone := { silent.tone with channel := false, wave := none } }

end Tone

end Chip8
