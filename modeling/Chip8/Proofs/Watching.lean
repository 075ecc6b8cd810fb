/-
# Chip8.Proofs.Watching — to log and to trace is only to watch

Two players that differ in what they log and in whether they trace do the same. What a player
has for the eyes of a reader is forgotten by `unwatched`: the printed lines, the filter and the
trace. To forget it before or after an act makes no difference, for one instruction, for a frame,
for a session and for a whole run in a window (`step_unwatched`, `frame_unwatched`,
`Session.run_unwatched`, `run_unwatched`). All players of one setup are the same when it is
forgotten, and so `same_play` holds of any two values of the variable that chooses the log.

Two facts keep this true. A row of the standard table can be logged and an opcode can be
disassembled whatever it is, so that no instruction fails for being watched.
-/
import Chip8.Player.Run
import Chip8.Player.Session
import Chip8.Proofs.Decoding

namespace Chip8

set_option autoImplicit false

/-! ## Instructions -/

namespace Machine

variable (dialect : Dialect) (log : Log.Filter)

/-- The log does not change what an opcode is resolved to. -/
theorem resolve_unwatched (pc : Int) (w : Opcode) :
    resolve { dialect } pc w = ([], (resolve { dialect, log } pc w).2) := by
  cases found : InstructionSet.standard.decode w with
  | none => simp only [resolve, found]
  | some row =>
      obtain ⟨printed, logged⟩ :=
        stepLog_of_readable InstructionSet.readable_standard found log pc
      have quiet : stepLog .silent pc w row = .ok [] := rfl
      simp only [resolve, found, logged, quiet]
      cases Operation.ofName? row.handler <;> rfl

/-- An instruction does the same when it is logged. -/
theorem step_unwatched (m : Machine) :
    m.step { dialect } = { m.step { dialect, log } with printed := [] } := by
  unfold step
  cases m.fetch with
  | error _ => rfl
  | ok w =>
      simp only [resolve_unwatched dialect log m.registers.pc w]
      cases resolve { dialect, log } m.registers.pc w with
      | mk printed resolved =>
          cases resolved with
          | error _ => rfl
          | ok found =>
              obtain ⟨row, operation⟩ := found
              dsimp only
              rcases (operation.execute dialect w).on m.skip with ⟨_ | _, _⟩ <;> rfl

end Machine

namespace Player

/-! ## Frames -/

namespace Burst

def unwatched (b : Burst) : Burst := { b with trace := none, printed := #[] }

variable (dialect : Dialect) (log : Log.Filter)

theorem advance_unwatched (b : Burst) :
    (b.advance { dialect, log }).unwatched = b.unwatched.advance { dialect } := by
  have same : b.unwatched.machine.step { dialect } =
      { b.machine.step { dialect, log } with printed := [] } :=
    Machine.step_unwatched dialect log b.machine
  simp only [advance, same]
  cases (b.machine.step { dialect, log }).outcome with
  | error _ => rfl
  | ok _ =>
      cases b.trace with
      | none => rfl
      | some t =>
          simp only [recordStep, InstructionSet.disassemble_standard]
          rfl

theorem run_unwatched (n : Nat) (b : Burst) :
    (run { dialect, log } n b).map unwatched id = run { dialect } n b.unwatched := by
  induction n generalizing b with
  | zero => rfl
  | succ n ih =>
      have next := advance_unwatched dialect log b
      have failed : (b.unwatched.advance { dialect }).failed =
          (b.advance { dialect, log }).failed := by
        rw [← next]
        rfl
      rw [run, run, failed]
      split
      · exact congrArg (·, b.machine) next
      · rw [ih, next]

end Burst

/-- A player without what only a reader sees. -/
def unwatched (p : Player) : Player := { p with log := .silent, trace := none }

section

variable (p : Player)

@[simp] theorem setup_unwatched : p.unwatched.setup = p.setup := rfl

@[simp] theorem log_unwatched : p.unwatched.log = .silent := rfl

@[simp] theorem halt_unwatched : p.unwatched.halt = p.halt := rfl

@[simp] theorem canvas_unwatched : p.unwatched.canvas = p.canvas := rfl

@[simp] theorem tone_unwatched : p.unwatched.tone = p.tone := rfl

end

/-- Players of one setup differ only in what a reader sees. -/
theorem unwatched_create (setup : Setup) (log : Log.Filter) :
    (create setup log).unwatched = create setup .silent := rfl

def FrameResult.unwatched (r : FrameResult) : FrameResult :=
  { r with player := r.player.unwatched, printed := #[] }

theorem frame_unwatched (p : Player) (m : Machine) :
    (p.frame m).unwatched = p.unwatched.frame m := by
  have burst : Burst.run p.unwatched.setting p.unwatched.setup.budget
      { machine := m, trace := p.unwatched.trace } =
      (Burst.run p.setting p.setup.budget { machine := m, trace := p.trace }).map
        Burst.unwatched id :=
    (Burst.run_unwatched p.setup.dialect p.log p.setup.budget
      { machine := m, trace := p.trace }).symm
  unfold frame
  rw [halt_unwatched]
  split
  · rfl
  · rw [burst]
    obtain ⟨b, before⟩ := Burst.run p.setting p.setup.budget { machine := m, trace := p.trace }
    have failed : b.unwatched.failed = b.failed := rfl
    simp only [Prod.map, failed]
    cases b.failed with
    | none => rfl
    | some e => cases e <;> rfl

/-! ## Sessions -/

namespace Session

def unwatched (g : Session) : Session := { g with player := g.player.unwatched }

theorem act_unwatched (g : Session) (a : Act) : (g.act a).unwatched = g.unwatched.act a := by
  cases a with
  | frame =>
      have same := frame_unwatched g.player g.console.machine
      simp only [act, unwatched, ← same]
      rfl
  | _ => rfl

theorem run_unwatched (g : Session) (acts : List Act) :
    (g.run acts).unwatched = g.unwatched.run acts :=
  (List.foldl_hom unwatched fun g a => (act_unwatched g a).symm).symm

end Session

end Player

/-! ## Runs in a window -/

namespace Tone

def Result.unwatched (r : Result) : Result := { r with printed := [] }

variable (log : Log.Filter) (t : Tone) (h : Host)

theorem silence_unwatched : (t.silence h).unwatched = t.silence h := by
  unfold silence
  split <;> rfl

theorem sound_unwatched (before : List Request) :
    (t.sound h before).unwatched = t.sound h before := by
  unfold sound
  split <;> rfl

theorem begin_unwatched (before : List Request) :
    (t.begin log h before).unwatched = t.begin .silent h before := by
  unfold begin
  split
  · exact sound_unwatched ..
  · rcases h.askChannel with ⟨_ | _ | _, _⟩
    · rfl
    · rfl
    · exact sound_unwatched ..

theorem set_unwatched (on : Bool) : (t.set log h on).unwatched = t.set .silent h on := by
  unfold set
  split
  · rfl
  split
  · exact silence_unwatched ..
  split
  · exact begin_unwatched ..
  · cases t.build with
    | error _ => rfl
    | ok wave =>
        dsimp only
        rcases h.ask [.sound wave] with ⟨_ | _, _, _⟩
        · rfl
        · exact begin_unwatched ..

theorem shutdown_unwatched : (t.shutdown h).unwatched = t.shutdown h := by
  have silent := silence_unwatched t h
  unfold shutdown
  dsimp only
  split
  · exact silent
  · exact congrArg (fun r : Result =>
      { r with tone := { r.tone with channel := false, wave := none } }) silent

end Tone

namespace Player

namespace Live

/-- A run without what only a reader sees. -/
def unwatched (l : Live) : Live := { l with player := l.player.unwatched, printed := #[] }

@[simp] theorem player_unwatched (l : Live) : l.unwatched.player = l.player.unwatched := rfl

@[simp] theorem console_unwatched (l : Live) : l.unwatched.console = l.console := rfl

@[simp] theorem host_unwatched (l : Live) : l.unwatched.host = l.host := rfl

def quiet (r : Except Failure Unit × Live) : Except Failure Unit × Live := (r.1, r.2.unwatched)

theorem andThen_unwatched {r : Except Failure Unit × Live}
    {next : Live → Except Failure Unit × Live}
    (same : ∀ l, quiet (next l) = next l.unwatched) :
    quiet (andThen r next) = andThen (quiet r) next := by
  obtain ⟨_ | _, l⟩ := r
  · rfl
  · exact same l

theorem ask_unwatched (l : Live) (asked : List Request) :
    quiet (l.ask asked) = l.unwatched.ask asked := rfl

theorem call_unwatched (l : Live) : quiet l.call = l.unwatched.call := rfl

theorem present_unwatched (l : Live) (drawn : Except Failure Frame) :
    quiet (l.present drawn) = l.unwatched.present drawn := by
  cases drawn with
  | error e => rfl
  | ok frame =>
      refine (andThen_unwatched fun l => rfl).trans (congrArg (andThen · _) ?_)
      exact andThen_unwatched fun l => ask_unwatched l _

theorem paint_unwatched (l : Live) : quiet l.paint = l.unwatched.paint := by
  unfold paint
  rw [player_unwatched, canvas_unwatched, setup_unwatched, console_unwatched]
  dsimp only
  generalize l.player.canvas.draw _ _ _ _ = drawing
  obtain ⟨drawn, canvas⟩ := drawing
  rw [andThen_unwatched fun l => present_unwatched { l with player := { l.player with canvas } } _]
  split <;> rfl

theorem makeTone_unwatched (l : Live) : quiet l.makeTone = l.unwatched.makeTone := by
  unfold makeTone
  rw [host_unwatched]
  rcases l.host.askMixer with ⟨_ | _ | rate, host⟩
  · rfl
  · rfl
  · dsimp only
    rcases Tone.create host (.whole rate) Tone.standardFrequency Tone.standardVolume with
      ⟨e | tone, host⟩
    · cases e <;> rfl
    · rfl

theorem afterTone_unwatched (l : Live) (r : Tone.Result) :
    quiet (l.afterTone r) = l.unwatched.afterTone r.unwatched := rfl

theorem updateTone_unwatched (l : Live) : quiet l.updateTone = l.unwatched.updateTone := by
  unfold updateTone
  rw [player_unwatched, tone_unwatched]
  cases l.player.tone with
  | none => rfl
  | some t =>
      refine (afterTone_unwatched ..).trans ?_
      rw [Tone.set_unwatched]
      rfl

theorem strike_unwatched (l : Live) (e : Event) :
    (l.strike e).unwatched = l.unwatched.strike e := by
  cases e with
  | keyDown name =>
      rw [strike, strike]
      split <;> rfl
  | _ => rfl

theorem event_unwatched (l : Live) (e : Event) : quiet (l.event e) = l.unwatched.event e := by
  unfold event
  rw [andThen_unwatched fun l => congrArg (Prod.mk _) (strike_unwatched l e)]
  split <;> rfl

theorem events_unwatched (l : Live) (batch : List Event) :
    quiet (l.events batch) = l.unwatched.events batch := by
  induction batch generalizing l with
  | nil => rfl
  | cons e rest ih =>
      rw [events, events, ← event_unwatched]
      exact andThen_unwatched ih

theorem receive_unwatched (l : Live) (batch : List Event) :
    quiet (l.receive batch) = l.unwatched.receive batch :=
  andThen_unwatched fun l => events_unwatched l batch

theorem execute_unwatched (l : Live) : quiet l.execute = l.unwatched.execute := by
  have same := frame_unwatched l.player l.console.machine
  simp only [execute, player_unwatched, console_unwatched, ← same]
  rfl

theorem refresh_unwatched (l : Live) : quiet l.refresh = l.unwatched.refresh := by
  rw [refresh, refresh, console_unwatched]
  dsimp only
  split
  · exact paint_unwatched _
  · rfl

theorem turn_unwatched (l : Live) (batch : List Event) :
    quiet (l.turn batch) = l.unwatched.turn batch := by
  unfold turn
  rw [← receive_unwatched, andThen_unwatched (ask_unwatched · _),
    andThen_unwatched refresh_unwatched, andThen_unwatched updateTone_unwatched,
    andThen_unwatched execute_unwatched]

theorem turns_unwatched (l : Live) (frames : List (List Event)) :
    quiet (l.turns frames) = l.unwatched.turns frames := by
  induction frames generalizing l with
  | nil => exact turn_unwatched l [.quit]
  | cons batch rest ih =>
      rw [turns, turns, ← turn_unwatched]
      split
      · rfl
      · exact andThen_unwatched ih

theorem leave_unwatched (l : Live) : quiet l.leave = l.unwatched.leave := by
  unfold leave
  rw [player_unwatched, tone_unwatched, andThen_unwatched (ask_unwatched · _)]
  cases l.player.tone with
  | none => rfl
  | some t =>
      dsimp only
      rw [afterTone_unwatched, Tone.shutdown_unwatched]
      rfl

theorem openWindow_unwatched (title : String) (l : Live) :
    quiet (l.openWindow title) = l.unwatched.openWindow title := by
  have toned (l : Live) (mute : Bool) :
      quiet (if mute then (.ok (), l) else l.makeTone) =
        if mute then (.ok (), l.unwatched) else l.unwatched.makeTone := by
    cases mute with
    | true => rfl
    | false => exact makeTone_unwatched l
  unfold openWindow
  dsimp only
  rw [andThen_unwatched paint_unwatched, andThen_unwatched call_unwatched,
    andThen_unwatched (ask_unwatched · _), andThen_unwatched (toned · _), ask_unwatched]
  rfl

theorem finish_unwatched (frames : Except Failure Unit × Live) :
    quiet (finish frames) = finish (quiet frames) := by
  have left := leave_unwatched frames.2
  rw [finish, finish]
  rw [show (quiet frames).2 = frames.2.unwatched from rfl, ← left]
  rfl

theorem play_unwatched (title : String) (l : Live) :
    quiet (l.play title) = l.unwatched.play title := by
  rw [play, play, ← openWindow_unwatched]
  refine andThen_unwatched fun l => ?_
  rw [finish_unwatched, turns_unwatched, host_unwatched]

end Live

theorem insertLog_silent (image : Image) : insertLog .silent image = [] := by
  rw [insertLog, Console.createLog]
  split <;> rfl

def RunResult.unwatched (r : RunResult) : RunResult :=
  { r with player := r.player.unwatched, printed := #[] }

theorem run_unwatched (p : Player) (look : Path → Path.Target) (host : Host) :
    (p.run look host).unwatched = p.unwatched.run look host := by
  unfold run
  rw [setup_unwatched, log_unwatched]
  split
  · rfl
  cases p.setup.path with
  | none => rfl
  | some path =>
      cases opened : openImage look path with
      | error _ => simp only [opened]; rfl
      | ok image =>
          cases inserted : insert image with
          | error _ => simp only [opened, inserted, insertLog_silent]; rfl
          | ok console =>
              have played := Live.play_unwatched path.name
                { player := p, console, host, printed := (insertLog p.log image).toArray }
              have start : Live.unwatched
                  { player := p, console, host, printed := (insertLog p.log image).toArray } =
                  { player := p.unwatched, console, host } := rfl
              rw [start] at played
              simp only [opened, inserted, insertLog_silent, ← played]
              rfl

/-- Whatever is logged and traced, a player does the same. For two values of the variable that
chooses the log, sessions of the same acts leave equal consoles, equal answers and equal halts,
and runs in a window with the same host come to equal ends: the outcome, the requests to the host,
the console and the halt. -/
theorem same_play (setup : Setup) (value value' : Option String) :
    let p := create setup (.ofVariable value)
    let p' := create setup (.ofVariable value')
    (∀ (c : Console) (acts : List Act),
      let g := Session.run ⟨p, c, []⟩ acts
      let g' := Session.run ⟨p', c, []⟩ acts
      g.console = g'.console ∧ g.answers = g'.answers ∧ g.player.halt = g'.player.halt) ∧
    ∀ (look : Path → Path.Target) (host : Host),
      let r := p.run look host
      let r' := p'.run look host
      r.outcome = r'.outcome ∧ r.console = r'.console ∧ r.requests = r'.requests ∧
        r.player.halt = r'.player.halt := by
  intro p p'
  have same : p.unwatched = p'.unwatched :=
    (unwatched_create setup _).trans (unwatched_create setup _).symm
  constructor
  · intro c acts g g'
    have sessions : g.unwatched = g'.unwatched :=
      calc g.unwatched = (Session.unwatched ⟨p, c, []⟩).run acts := Session.run_unwatched ..
        _ = (Session.unwatched ⟨p', c, []⟩).run acts := by
            rw [Session.unwatched, Session.unwatched, same]
        _ = g'.unwatched := (Session.run_unwatched ..).symm
    exact ⟨congrArg (·.console) sessions, congrArg (·.answers) sessions,
      congrArg (·.player.halt) sessions⟩
  · intro look host r r'
    have runs : r.unwatched = r'.unwatched :=
      calc r.unwatched = p.unwatched.run look host := run_unwatched ..
        _ = p'.unwatched.run look host := by rw [same]
        _ = r'.unwatched := (run_unwatched ..).symm
    exact ⟨congrArg (·.outcome) runs, congrArg (·.console) runs, congrArg (·.requests) runs,
      congrArg (·.player.halt) runs⟩

end Player

end Chip8
