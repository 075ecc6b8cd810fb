/-
# Chip8.Player.Run — a player in its window

A run loads the program, opens the window, and then goes frame by frame: events,
instructions, sound, picture, and a wait for the clock. It ends with the first
frame whose events contain a quit or the escape key; the frame itself is still
played to its end. When the events of the host are used up, the window is closed.

Whatever ends the frames, the tone is shut down and the window is closed after
them. A failure before the first frame leaves without either, and if the tone
cannot be stopped at the end the window stays open too.
-/
import Chip8.Player

namespace Chip8

set_option autoImplicit false

def Event.closes : Event → Bool
  | .quit => true
  | .keyDown name => name = "escape"
  | .keyUp _ | .other => false

/-- The event strikes a key by its name. -/
def Event.named : Event → Bool
  | .keyDown name => name ≠ "escape"
  | .keyUp _ => true
  | .quit | .other => false

namespace Player

/-- A run under way: the player, its console, the host, and what was asked for and printed. -/
structure Live where
  player : Player
  console : Console
  host : Host
  requests : Array Request := #[]
  printed : Array String := #[]

namespace Live

/-- One step of a run after another, as long as none fails. -/
def andThen (r : Except Failure Unit × Live) (next : Live → Except Failure Unit × Live) :
    Except Failure Unit × Live :=
  match r with
  | (.ok (), l) => next l
  | (.error e, l) => (.error e, l)

/-- A call on the host that is no request: it returns, or it raises. -/
def call (l : Live) : Except Failure Unit × Live :=
  let (told, host) := l.host.call
  (told, { l with host })

/-- Requests are made, up to the first that raises. -/
def ask (l : Live) (requests : List Request) : Except Failure Unit × Live :=
  let (outcome, made, host) := l.host.ask requests
  (outcome, { l with host, requests := l.requests ++ made })

theorem call_of_calm {l : Live} (calm : l.host.raises = []) : l.call = (.ok (), l) := by
  rw [call, Host.call_of_calm calm]

theorem ask_of_calm {l : Live} (calm : l.host.raises = []) (requests : List Request) :
    l.ask requests = (.ok (), { l with requests := l.requests ++ requests }) := by
  rw [ask, Host.ask_of_calm calm]

/-- Nothing but the host knows of a call. -/
theorem call_ends (l : Live) :
    ∃ host, l.call.2 = { l with host } ∧ (l.host.raises = [] → host.raises = []) :=
  ⟨l.host.call.2, rfl, fun calm => by rw [Host.call_of_calm calm]; exact calm⟩

/-- Nothing but requests comes of requests: all of them, if none raises. -/
theorem ask_ends (l : Live) (requests : List Request) :
    ∃ (made : List Request) (host : Host),
      (l.ask requests).2 = { l with host, requests := l.requests ++ made } ∧
      made <+: requests ∧ ((l.ask requests).1 = .ok () → made = requests) ∧
      (l.host.raises = [] → host.raises = []) := by
  have grants := l.host.grants_ask requests
  unfold ask
  generalize l.host.ask requests = answers at grants
  cases grants with
  | all later =>
      exact ⟨requests, _, rfl, List.prefix_rfl, fun _ => rfl, fun calm =>
        List.suffix_nil.1 (calm ▸ later)⟩
  | raised begins loud => exact ⟨_, _, rfl, begins, nofun, fun calm => absurd calm loud⟩

def print (l : Live) (lines : List String) : Live := { l with printed := l.printed ++ lines }

/-- A frame that was drawn is shown. The calls that colour the points of its surface and scale it
stand here as one call: any of them may raise, and the surface is painted anew the next time. -/
def present (l : Live) : Except Failure Frame → Except Failure Unit × Live
  | .error e => (.error e, l)
  | .ok frame =>
      let text := "redraw " ++ Text.decimal frame.width ++ "x" ++ Text.decimal frame.height
      andThen (andThen l.call (·.ask [.show frame])) fun l =>
        (l.print (l.player.log.write "video" text)).ask [.flip]

/-- The picture of the machine is handed to the window. A surface is made for it if there is none
of its size. -/
def paint (l : Live) : Except Failure Unit × Live :=
  let display := l.console.machine.display
  let (drawn, canvas) :=
    l.player.canvas.draw display.buffer display.width display.height l.player.setup.scale
  andThen (if canvas.serial = l.player.canvas.serial then (.ok (), l) else l.call) fun l =>
    { l with player := { l.player with canvas } }.present drawn

def hold (l : Live) (tone : Option Tone) : Live := { l with player := { l.player with tone } }

/-- The tone is made: a closed mixer or a failure of the frontend leaves the player without one.
If the mixer cannot even be asked, the player keeps the tone it has. -/
def makeTone (l : Live) : Except Failure Unit × Live :=
  let log := l.player.log
  match l.host.askMixer with
  | (.error e, host) => (.error e, { l with host })
  | (.ok none, host) =>
      (.ok (), ({ l with host }.hold none).print (log.write "audio" "mixer_unavailable"))
  | (.ok (some rate), host) =>
      match Tone.create host (.whole rate) Tone.standardFrequency Tone.standardVolume with
      | (.ok tone, host) => (.ok (), { l with host }.hold (some tone))
      | (.error (.frontend e), host) =>
          (.ok (), ({ l with host }.hold none).print
            (log.write "audio" ("beeper_init_failed=" ++ e.message)))
      | (.error e, host) => (.error e, { l with host })

/-- The outcome of a call on the tone becomes part of the run. -/
def afterTone (l : Live) (r : Tone.Result) : Except Failure Unit × Live :=
  (r.outcome, ({ l with host := r.host, requests := l.requests ++ r.requests }.hold
    (some r.tone)).print r.printed)

/-- The tone sounds exactly while the machine beeps and the player is not halted. -/
def updateTone (l : Live) : Except Failure Unit × Live :=
  match l.player.tone with
  | none => (.ok (), l)
  | some tone =>
      l.afterTone <|
        tone.set l.player.log l.host (l.console.machine.beeping && l.player.halt.isNone)

def strike (l : Live) : Event → Live
  | .keyDown name =>
      if name = "escape" then l
      else { l with console := l.console.press name }.print (Keyboard.pressLog l.player.log name)
  | .keyUp name =>
      let console := l.console.release name
      { l with console }.print (Keyboard.releaseLog l.player.log console.keyboard name)
  | .quit | .other => l

/-- One event. For most keys the host is asked for a name first. -/
def event (l : Live) (e : Event) : Except Failure Unit × Live :=
  andThen (if e.named then l.call else (.ok (), l)) fun l => (.ok (), l.strike e)

def events (l : Live) : List Event → Except Failure Unit × Live
  | [] => (.ok (), l)
  | e :: rest => andThen (l.event e) (·.events rest)

def receive (l : Live) (batch : List Event) : Except Failure Unit × Live :=
  andThen l.call (·.events batch)

def execute (l : Live) : Except Failure Unit × Live :=
  let r := l.player.frame l.console.machine
  let l := { l with
    player := r.player
    console := { l.console with machine := r.machine }
    printed := l.printed ++ r.printed }
  (r.outcome.map fun _ => (), l)

def refresh (l : Live) : Except Failure Unit × Live :=
  let (redraw, machine) := l.console.machine.takeRedraw
  let l := { l with console := { l.console with machine } }
  if redraw then l.paint else (.ok (), l)

def frameRate : Nat := 60

def turn (l : Live) (batch : List Event) : Except Failure Unit × Live :=
  andThen (andThen (andThen (andThen (l.receive batch) execute) updateTone) refresh)
    (·.ask [.wait frameRate])

/-- All frames, up to the first whose events close the window. After the last batch of events the
user closes it. -/
def turns (l : Live) : List (List Event) → Except Failure Unit × Live
  | [] => l.turn [.quit]
  | batch :: rest =>
      if batch.any Event.closes then l.turn batch else andThen (l.turn batch) (·.turns rest)

def leave (l : Live) : Except Failure Unit × Live :=
  andThen
    (match l.player.tone with
      | none => (.ok (), l)
      | some tone => l.afterTone (tone.shutdown l.host))
    (·.ask [.quit])

/-- The window is opened and shows the machine. After the window a clock is made. -/
def openWindow (title : String) (l : Live) : Except Failure Unit × Live :=
  let setup := l.player.setup
  let asked := l.ask [.prepareMixer 44100 (-16) 1 512, .start, .title ("CHIP-8 - " ++ title)]
  let toned := andThen asked fun l => if setup.mute then (.ok (), l) else l.makeTone
  let opened := andThen toned
    (·.ask [.openWindow (64 * setup.scale) (32 * setup.scale) setup.fullscreen])
  andThen (andThen opened call) paint

/-- The end of a run whose frames are over. What is raised there replaces what ended the frames. -/
def finish (frames : Except Failure Unit × Live) : Except Failure Unit × Live :=
  let (left, l) := frames.2.leave
  (left.bind fun _ => frames.1, l)

def play (title : String) (l : Live) : Except Failure Unit × Live :=
  andThen (l.openWindow title) fun l => finish (l.turns l.host.frames)

end Live

def openImage (look : Path → Path.Target) (path : Path) : Except Failure Image :=
  match look path with
  | .missing | .unnameable => .error (.frontend (.imageNotFound path.text))
  | .tooLong => .error (.file .tooLong)
  | .directory => .error (.file .directory)
  | .file data =>
      match Image.load data Image.standardStart path.stem with
      | .ok image => .ok image
      | .error reason => .error (.frontend (.imageRejected path.text reason))

def insert (image : Image) : Except Failure Console :=
  match Console.create Generator.standardSeed image.start image.data with
  | .ok console => .ok console
  | .error f => .error (.fault f)

def insertLog (f : Log.Filter) (image : Image) : List String :=
  image.loadLog f ++ Console.createLog f image.start image.data

structure RunResult where
  outcome : Except Failure Unit
  player : Player
  console : Option Console := none
  requests : Array Request := #[]
  printed : Array String := #[]

def run (p : Player) (look : Path → Path.Target) (host : Host) : RunResult :=
  if !host.window then { outcome := .error (.frontend .windowMissing), player := p }
  else match p.setup.path with
    | none => { outcome := .error (.frontend .imageNotGiven), player := p }
    | some path =>
        match openImage look path with
        | .error e => { outcome := .error e, player := p }
        | .ok image =>
            let printed := (insertLog p.log image).toArray
            match insert image with
            | .error e => { outcome := .error e, player := p, printed }
            | .ok console =>
                let (outcome, l) := Live.play path.name { player := p, console, host, printed }
                { outcome, player := l.player, console := some l.console, requests := l.requests,
                  printed := l.printed }

end Player

end Chip8
