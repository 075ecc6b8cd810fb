/-
# Chip8.Proofs.Rerun — a player that runs again

A run has a machine of its own, but the player that the run before has left. What a run tells of its
frames is listed by `Player.reports`: what each frame answered, the console after it, and whether
the player is halted. Painted pictures, tones, logs and traces are kept from run to run and make no
difference: two runs of players that agree in setup and halt go on in step (`Live.Twin`), and so a
player that is not halted plays the same frames again.

The halt is kept too, and nothing takes it back. A player that a fault has halted plays frames that
do nothing, whatever machine it is given (`Live.idle_reports`). `reports_of_rerun` is the law for
both, and `rerun_after_fault` a second run that is not like the first.
-/
import Chip8.Proofs.Lifetime
import Chip8.Proofs.Watching
import Chip8.Proofs.WindowSession

namespace Chip8

set_option autoImplicit false

/-- The machine without its keys and its redraw flag. -/
def Machine.still (m : Machine) : Machine := { m.calm with keypad := {} }

namespace Player

/-! ## What a run tells of its frames -/

/-- What a frame tells: its answer, the console after its instructions, and the fault that the
player is halted by. -/
structure Report where
  answer : Except Failure Nat
  console : Console
  halt : Option Fault

/-- The frame did nothing: the player is halted by a fault, and the machine is the given one but for
its keys and its redraw flag. -/
structure Report.Idle (f : Fault) (m : Machine) (report : Report) : Prop where
  answer : report.answer = .ok 0
  halt : report.halt = some f
  machine : report.console.machine.still = m.still

theorem Report.Idle.congr {f : Fault} {m m' : Machine} {report : Report} (idle : report.Idle f m')
    (still : m'.still = m.still) : report.Idle f m :=
  ⟨idle.answer, idle.halt, idle.machine.trans still⟩

def Live.told (l : Live) : Report :=
  let r := l.player.frame l.console.machine
  ⟨r.outcome, { l.console with machine := r.machine }, r.player.halt⟩

/-- The report of the next frame of a run. There is none if the host raises before its
instructions. -/
def Live.report (l : Live) (batch : List Event) : Option Report :=
  match l.receive batch with
  | (.ok (), l) => some l.told
  | (.error _, _) => none

def Live.reports (l : Live) : List (List Event) → List Report
  | [] => (l.report [.quit]).toList
  | batch :: rest =>
      (l.report batch).toList ++
        if batch.any Event.closes then []
        else match l.turn batch with
          | (.ok (), after) => after.reports rest
          | (.error _, _) => []

/-- The reports of the frames of a run, if its window was opened. -/
def Live.reportsAfter : Except Failure Unit × Live → List Report
  | (.ok (), l) => l.reports l.host.frames
  | (.error _, _) => []

def reports (p : Player) (look : Path → Path.Target) (host : Host) : List Report :=
  ((p.opening look host).map Live.reportsAfter).getD []

namespace Live

/-- The run stands where a report says, but for the redraw flag. -/
structure Ends (l : Live) (report : Report) : Prop where
  halt : l.player.halt = report.halt
  console : l.console.calm = report.console.calm

variable {l after : Live} {report : Report}

theorem Ends.rests (ends : l.Ends report) (rests : l.Rests after) : after.Ends report where
  halt := (congrArg Player.halt rests.player :).trans ends.halt
  console := rests.console.trans ends.console

theorem ends_andThen {r : Except Failure Unit × Live} {next : Live → Except Failure Unit × Live}
    (first : r.2.Ends report) (second : ∀ l, l.Ends report → (next l).2.Ends report) :
    (andThen r next).2.Ends report := by
  obtain ⟨_ | _, l⟩ := r
  · exact first
  · exact second l first

/-- On a host that does not raise, a frame has a report. Sound and picture come after it, and change
nothing of it. -/
theorem ends_turn (calm : l.host.raises = []) (batch : List Event) :
    ∃ report, l.report batch = some report ∧ (l.turn batch).2.Ends report := by
  have received := receive_of_calm calm batch
  refine ⟨(batch.foldl strike l).told, by rw [report, received], ?_⟩
  have executed : (batch.foldl strike l).execute.2.Ends (batch.foldl strike l).told := ⟨rfl, rfl⟩
  rw [turn, received, andThen]
  refine ends_andThen (ends_andThen (ends_andThen executed fun l ends => ?_) fun l ends => ?_)
    fun l ends => ⟨ends.halt, ends.console⟩
  · exact ends.rests (rests_updateTone l)
  · exact ends.rests (rests_refresh l)

theorem ends_turns (calm : l.host.raises = []) (batches : List (List Event)) :
    ∃ report, (l.reports batches).getLast? = some report ∧ (l.turns batches).2.Ends report := by
  induction batches generalizing l with
  | nil =>
      obtain ⟨report, told, ends⟩ := ends_turn calm [.quit]
      exact ⟨report, by rw [reports, told]; rfl, ends⟩
  | cons batch rest ih =>
      obtain ⟨report, told, ends⟩ := ends_turn calm batch
      have calm' := steady_calm.turn l batch calm
      rw [reports, turns, told]
      cases batch.any Event.closes with
      | true => exact ⟨report, rfl, ends⟩
      | false =>
          rw [if_neg Bool.false_ne_true, if_neg Bool.false_ne_true]
          generalize l.turn batch = r at ends calm'
          obtain ⟨_ | _, after⟩ := r
          · exact ⟨report, rfl, ends⟩
          · obtain ⟨report', last, ends'⟩ := ih calm'
            refine ⟨report', ?_, ends'⟩
            rw [Option.toList_some, List.singleton_append, List.getLast?_cons, last]
            rfl

end Live

/-- On a host that does not raise, a run ends where the last of its reports says. -/
theorem run_of_last_report (p : Player) (look : Path → Path.Target) {host : Host}
    (calm : host.raises = []) :
    ∀ report ∈ (p.reports look host).getLast?, (p.run look host).player.halt = report.halt ∧
      (p.run look host).console.map Console.calm = some report.console.calm := by
  intro report told
  unfold reports at told
  cases opens : p.opening look host with
  | none =>
      rw [opens] at told
      cases told
  | some r =>
      obtain ⟨title, image, c, -, rfl, ends⟩ := run_of_opening opens
      rw [opens, Option.map_some, Option.getD_some] at told
      rw [ends, RunResult.ofLive, Live.play]
      have calm' := Live.calm_openWindow title (l := .start p image c host) calm
      generalize (Live.start p image c host).openWindow title = r at told calm'
      obtain ⟨_ | _, l⟩ := r
      · cases told
      · obtain ⟨report', last, ends⟩ := Live.ends_turns calm' l.host.frames
        cases last.symm.trans told
        obtain ⟨halt, console⟩ := Live.leave_keeps (l.turns l.host.frames).2
        simp only [Live.andThen, Live.finish, halt, console]
        exact ⟨ends.halt, congrArg some ends.console⟩

/-! ## Frames of players that differ -/

/-- A player without picture, sound, log and trace. -/
def plain (p : Player) : Player :=
  { setup := p.setup, halt := p.halt, canvas := { palette := p.setup.palette } }

def FrameResult.plain (r : FrameResult) : FrameResult :=
  { r with player := r.player.plain, printed := #[] }

/-- A frame looks neither at the picture nor at the tone. -/
theorem frame_with (p : Player) (m : Machine) (canvas : Canvas) (tone : Option Tone) :
    ({ p with canvas, tone } : Player).frame m =
      { p.frame m with player := { (p.frame m).player with canvas, tone } } := by
  unfold frame
  split
  · rfl
  · have start : Burst.run ({ p with canvas, tone } : Player).setting p.setup.budget
        { machine := m, trace := p.trace } =
        Burst.run p.setting p.setup.budget { machine := m, trace := p.trace } := rfl
    dsimp only
    rw [start]
    obtain ⟨b, before⟩ := Burst.run p.setting p.setup.budget { machine := m, trace := p.trace }
    dsimp only
    cases b.failed with
    | none => rfl
    | some e => cases e <;> rfl

theorem frame_plain (p : Player) (m : Machine) : p.plain.frame m = (p.frame m).plain := by
  have setup : (p.frame m).player.setup = p.setup := (frame_keeps p m).setup
  have same : p.plain = { p.unwatched with canvas := { palette := p.setup.palette }, tone := none } :=
    rfl
  rw [same, frame_with, ← frame_unwatched, FrameResult.plain, plain, setup]
  simp only [FrameResult.unwatched, unwatched, setup]

/-- Frames of players that agree in setup and halt do the same. -/
theorem frame_alike {p p' : Player} {m m' : Machine} (setup : p'.setup = p.setup)
    (halt : p'.halt = p.halt) (machine : m' = m) :
    (p'.frame m').outcome = (p.frame m).outcome ∧ (p'.frame m').machine = (p.frame m).machine ∧
      (p'.frame m').player.halt = (p.frame m).player.halt := by
  have plain : p'.plain = p.plain := by rw [Player.plain, Player.plain, setup, halt]
  have same : (p'.frame m').plain = (p.frame m).plain := by
    rw [← frame_plain, ← frame_plain, plain, machine]
  exact ⟨congrArg (·.outcome) same, congrArg (·.machine) same, congrArg (·.player.halt) same⟩

end Player

/-! ## Runs in step -/

/-- A tone that was never played, because its wave cannot be built. -/
structure Tone.Broken (e : Failure) (t : Tone) : Prop where
  playing : t.playing = false
  wave : t.wave = none
  build : t.build = .error e

/-- To switch it on fails, and leaves it as it was. -/
theorem Tone.set_of_broken {e : Failure} {t : Tone} (broken : t.Broken e) (f : Log.Filter)
    (h : Host) (on : Bool) :
    t.set f h on = { outcome := if on then .error e else .ok (), tone := t, host := h } := by
  cases on with
  | false => rw [set, if_pos broken.playing.symm]; rfl
  | true =>
      have other : ¬true = t.playing := by simp [broken.playing]
      rw [set, if_neg other, broken.wave, broken.build]
      rfl

namespace Player

namespace Live

def Broken (e : Failure) (l : Live) : Prop := ∃ t, l.player.tone = some t ∧ t.Broken e

/-- Two runs in step: their players agree in setup and halt, their consoles are equal, their tones
can be built, or fail alike, and their hosts do not raise. -/
structure Twin (l l' : Live) : Prop where
  setup : l'.player.setup = l.player.setup
  halt : l'.player.halt = l.player.halt
  console : l'.console = l.console
  tone : (l.Tuned ∧ l'.Tuned) ∨ ∃ e, l.Broken e ∧ l'.Broken e
  calm : l.host.raises = [] ∧ l'.host.raises = []

def Alike (r r' : Except Failure Unit × Live) : Prop := r'.1 = r.1 ∧ r.2.Twin r'.2

variable {l l' : Live}

theorem alike_andThen {r r' : Except Failure Unit × Live}
    {next : Live → Except Failure Unit × Live} (first : Alike r r')
    (second : ∀ {l l' : Live}, l.Twin l' → Alike (next l) (next l')) :
    Alike (andThen r next) (andThen r' next) := by
  obtain ⟨outcome, l⟩ := r
  obtain ⟨outcome', l'⟩ := r'
  obtain ⟨same, twin⟩ := first
  obtain rfl : outcome' = outcome := same
  cases outcome' with
  | error e => exact ⟨rfl, twin⟩
  | ok _ => exact second twin

/-- Tones that are kept still fit. -/
theorem Twin.kept_tones {after after' : Live} (twin : l.Twin l')
    (tone : after.player.tone = l.player.tone) (tone' : after'.player.tone = l'.player.tone) :
    (after.Tuned ∧ after'.Tuned) ∨ ∃ e, after.Broken e ∧ after'.Broken e := by
  simpa only [Tuned, Broken, tone, tone'] using twin.tone

theorem twin_strike (twin : l.Twin l') (e : Event) : (l.strike e).Twin (l'.strike e) := by
  obtain ⟨player, host, -⟩ := strike_same l e
  obtain ⟨player', host', -⟩ := strike_same l' e
  refine ⟨?_, ?_, ?_, twin.kept_tones (congrArg Player.tone player) (congrArg Player.tone player'),
    host ▸ twin.calm.1, host' ▸ twin.calm.2⟩
  · rw [player, player', twin.setup]
  · rw [player, player', twin.halt]
  · cases e with
    | keyUp name => exact congrArg (·.release name) twin.console
    | keyDown name =>
        rw [strike, strike]
        split
        · exact twin.console
        · exact congrArg (·.press name) twin.console
    | _ => exact twin.console

theorem twin_strikes (twin : l.Twin l') (batch : List Event) :
    (batch.foldl strike l).Twin (batch.foldl strike l') := by
  induction batch generalizing l l' with
  | nil => exact twin
  | cons e rest ih => exact ih (twin_strike twin e)

theorem alike_execute (twin : l.Twin l') : Alike l.execute l'.execute := by
  have keyboard : l'.console.keyboard = l.console.keyboard := congrArg (·.keyboard) twin.console
  have keeps := frame_keeps l.player l.console.machine
  have keeps' := frame_keeps l'.player l'.console.machine
  obtain ⟨outcome, machine, halt⟩ :=
    frame_alike twin.setup twin.halt (congrArg (·.machine) twin.console)
  refine ⟨congrArg (Except.map fun _ => ()) outcome, ?_, halt, congrArg₂ Console.mk machine keyboard,
    twin.kept_tones keeps.tone keeps'.tone, twin.calm⟩
  exact keeps'.setup.trans (twin.setup.trans keeps.setup.symm)

/-- The tone changes nothing else of a run that frames look at. -/
theorem updateTone_keeps (l : Live) : l.updateTone.2.player.setup = l.player.setup ∧
    l.updateTone.2.player.halt = l.player.halt ∧ l.updateTone.2.console = l.console := by
  unfold updateTone
  split <;> exact ⟨rfl, rfl, rfl⟩

theorem updateTone_of_broken {e : Failure} (broken : l.Broken e) :
    l.updateTone.1 =
        (if l.console.machine.beeping && l.player.halt.isNone then .error e else .ok ()) ∧
      l.updateTone.2.Broken e := by
  obtain ⟨t, held, broken⟩ := broken
  rw [updateTone, held]
  dsimp only
  rw [Tone.set_of_broken broken]
  exact ⟨rfl, t, rfl, broken⟩

theorem alike_updateTone (twin : l.Twin l') : Alike l.updateTone l'.updateTone := by
  obtain ⟨setup, halt, console⟩ := updateTone_keeps l
  obtain ⟨setup', halt', console'⟩ := updateTone_keeps l'
  have both (outcome : l'.updateTone.1 = l.updateTone.1)
      (tone : (l.updateTone.2.Tuned ∧ l'.updateTone.2.Tuned) ∨
        ∃ e, l.updateTone.2.Broken e ∧ l'.updateTone.2.Broken e) :
      Alike l.updateTone l'.updateTone :=
    ⟨outcome, setup'.trans (twin.setup.trans setup.symm), halt'.trans (twin.halt.trans halt.symm),
      console'.trans (twin.console.trans console.symm), tone,
      steady_calm.updateTone l twin.calm.1, steady_calm.updateTone l' twin.calm.2⟩
  rcases twin.tone with ⟨tuned, tuned'⟩ | ⟨e, broken, broken'⟩
  · refine both ?_ (.inl ⟨(rests_updateTone l).tuned tuned, (rests_updateTone l').tuned tuned'⟩)
    rw [updateTone_of_tuned twin.calm.1 tuned, updateTone_of_tuned twin.calm.2 tuned']
  · obtain ⟨outcome, after⟩ := updateTone_of_broken broken
    obtain ⟨outcome', after'⟩ := updateTone_of_broken broken'
    refine both ?_ (.inr ⟨e, after, after'⟩)
    rw [outcome, outcome', twin.console, twin.halt]

/-- A picture changes nothing of the console and of the player but the canvas. -/
theorem paint_keeps (l : Live) : l.paint.2.console = l.console ∧
    ∃ canvas, l.paint.2.player = { l.player with canvas } := by
  obtain ⟨canvas, made, host, printed, painted, -⟩ := paint_ends l
  rw [painted]
  exact ⟨rfl, canvas, rfl⟩

/-- On a host that does not raise, it is painted in any positive scale. -/
theorem paint_of_calm (calm : l.host.raises = []) :
    l.paint.1 = (if l.player.setup.scale ≤ 0 then .error (.refusal .scale) else .ok ()) ∧
      l.paint.2.host = l.host := by
  by_cases flat : l.player.setup.scale ≤ 0
  · rw [paint_of_flat flat, if_pos flat]
    exact ⟨rfl, rfl⟩
  · obtain ⟨frame, drawn, -⟩ :=
      l.player.canvas.draw_display l.console.machine.display (Int.not_le.1 flat)
    obtain ⟨printed, painted⟩ := paint_of_drawn calm drawn
    rw [painted, if_neg flat]
    exact ⟨rfl, rfl⟩

theorem alike_paint (twin : l.Twin l') : Alike l.paint l'.paint := by
  obtain ⟨outcome, host⟩ := paint_of_calm twin.calm.1
  obtain ⟨outcome', host'⟩ := paint_of_calm twin.calm.2
  obtain ⟨console, canvas, player⟩ := paint_keeps l
  obtain ⟨console', canvas', player'⟩ := paint_keeps l'
  refine ⟨?_, ?_, ?_, console'.trans (twin.console.trans console.symm), ?_,
    host ▸ twin.calm.1, host' ▸ twin.calm.2⟩
  · rw [outcome, outcome', twin.setup]
  · rw [player, player']
    exact twin.setup
  · rw [player, player']
    exact twin.halt
  · exact twin.kept_tones (congrArg Player.tone player :) (congrArg Player.tone player' :)

theorem alike_refresh (twin : l.Twin l') : Alike l.refresh l'.refresh := by
  have taken := { twin with console := congrArg Console.calm twin.console :
    Twin { l with console := l.console.calm } { l' with console := l'.console.calm } }
  have redraw : l'.console.machine.redraw = l.console.machine.redraw :=
    congrArg (·.machine.redraw) twin.console
  unfold refresh
  dsimp only [Machine.takeRedraw]
  rw [redraw]
  split
  · exact alike_paint taken
  · exact ⟨rfl, taken⟩

theorem alike_turn (twin : l.Twin l') (batch : List Event) :
    Alike (l.turn batch) (l'.turn batch) := by
  rw [turn, turn, receive_of_calm twin.calm.1, receive_of_calm twin.calm.2]
  refine alike_andThen (alike_andThen (alike_andThen (alike_execute (twin_strikes twin batch))
    alike_updateTone) alike_refresh) fun twin => ?_
  rw [ask_of_calm twin.calm.1, ask_of_calm twin.calm.2]
  exact ⟨rfl, { twin with }⟩

theorem report_of_twin (twin : l.Twin l') (batch : List Event) :
    l'.report batch = l.report batch := by
  have start := twin_strikes twin batch
  have keyboard := congrArg (·.keyboard) start.console
  obtain ⟨outcome, machine, halt⟩ :=
    frame_alike start.setup start.halt (congrArg (·.machine) start.console)
  simp only [report, receive_of_calm twin.calm.1, receive_of_calm twin.calm.2, told, outcome,
    machine, halt, keyboard]

/-- Runs in step tell the same of all their frames. -/
theorem reports_of_twin (twin : l.Twin l') (batches : List (List Event)) :
    l'.reports batches = l.reports batches := by
  induction batches generalizing l l' with
  | nil => rw [reports, reports, report_of_twin twin]
  | cons batch rest ih =>
      obtain ⟨same, next⟩ := alike_turn twin batch
      rw [reports, reports, report_of_twin twin]
      generalize l.turn batch = r at same next
      generalize l'.turn batch = r' at same next
      obtain ⟨outcome, after⟩ := r
      obtain ⟨outcome', after'⟩ := r'
      obtain rfl : outcome' = outcome := same
      cases outcome' with
      | error e => rfl
      | ok _ =>
          have rest : after'.reports rest = after.reports rest := ih next
          dsimp only
          rw [rest]

theorem alike_turns (twin : l.Twin l') (batches : List (List Event)) :
    Alike (l.turns batches) (l'.turns batches) := by
  induction batches generalizing l l' with
  | nil => exact alike_turn twin [.quit]
  | cons batch rest ih =>
      rw [turns, turns]
      split
      · exact alike_turn twin batch
      · exact alike_andThen (alike_turn twin batch) ih

end Live

end Player

/-! ## Whole runs -/

/-- Two hosts that give a run the same events and the same tone: their mixers answer alike, or both
tell rates of 32 bits. -/
structure Host.Agree (h h' : Host) : Prop where
  window : h'.window = h.window
  frames : h'.frames = h.frames
  mixer : h'.mixer = h.mixer ∨ (h.ShortRates ∧ h'.ShortRates)
  /-- Neither of them raises. -/
  calm : h.raises = [] ∧ h'.raises = []

namespace Player

namespace Live

variable {l l' : Live}

/-- The first tones of two runs can be built, or fail alike. -/
theorem firstTone_alike (setup : l'.player.setup = l.player.setup)
    (silent : l.player.setup.mute = true → l.player.tone = none)
    (silent' : l'.player.setup.mute = true → l'.player.tone = none)
    (agree : l.host.Agree l'.host) :
    ((∀ t ∈ l.firstTone, t.Buildable) ∧ ∀ t ∈ l'.firstTone, t.Buildable) ∨
      ∃ e, (∃ t, l.firstTone = some t ∧ t.Broken e) ∧ ∃ t, l'.firstTone = some t ∧ t.Broken e := by
  have new {l : Live} {t : Tone} (silent : l.player.setup.mute = true → l.player.tone = none)
      (held : t ∈ l.firstTone) : t.Standard l.host.mixer :=
    Tone.standard_of_made (mem_made_of_firstTone silent held)
  rcases agree.mixer with same | ⟨rates, rates'⟩
  · have equal : l'.firstTone = l.firstTone := by
      unfold firstTone
      rw [setup]
      split
      · rename_i mute
        rw [silent mute, silent' (setup ▸ mute)]
      · exact Tone.made_congr agree.window same
    rw [equal]
    cases first : l.firstTone with
    | none => exact .inl ⟨nofun, nofun⟩
    | some t =>
        have fresh := (new silent first).toFresh
        cases built : t.build with
        | error e =>
            have broken : t.Broken e := ⟨fresh.playing, fresh.wave, built⟩
            exact .inr ⟨e, ⟨t, rfl, broken⟩, t, rfl, broken⟩
        | ok wave =>
            have buildable : ∀ t' ∈ some t, t'.Buildable := by
              rintro _ ⟨⟩
              exact ⟨wave, built⟩
            exact .inl ⟨buildable, buildable⟩
  · exact .inl ⟨fun t held => (new silent held).build_eq rates,
      fun t held => (new silent' held).build_eq rates'⟩

/-- Runs of players that agree, on equal consoles, begin in step. -/
theorem alike_openWindow (l l' : Live) (title : String) (setup : l'.player.setup = l.player.setup)
    (halt : l'.player.halt = l.player.halt) (console : l'.console = l.console)
    (silent : l.player.setup.mute = true → l.player.tone = none)
    (silent' : l'.player.setup.mute = true → l'.player.tone = none)
    (agree : l.host.Agree l'.host) :
    Alike (l.openWindow title) (l'.openWindow title) ∧
      (l'.openWindow title).2.host.frames = (l.openWindow title).2.host.frames := by
  obtain ⟨mixer, printed, opens⟩ := openWindow_of_calm title agree.calm.1
  obtain ⟨mixer', printed', opens'⟩ := openWindow_of_calm title agree.calm.2
  have twin : (l.opened title l.firstTone { l.host with mixer } printed).Twin
      (l'.opened title l'.firstTone { l'.host with mixer := mixer' } printed') :=
    ⟨setup, halt, console, firstTone_alike setup silent silent' agree, agree.calm⟩
  rw [opens, opens', (paint_of_calm twin.calm.1).2, (paint_of_calm twin.calm.2).2]
  exact ⟨alike_paint twin, agree.frames⟩

/-- Runs that begin in step end alike. -/
theorem play_alike {title : String} (opens : Alike (l.openWindow title) (l'.openWindow title))
    (frames : (l'.openWindow title).2.host.frames = (l.openWindow title).2.host.frames) :
    (l'.play title).2.console = (l.play title).2.console ∧
      (l'.play title).2.player.halt = (l.play title).2.player.halt := by
  unfold play
  generalize l.openWindow title = r at opens frames
  generalize l'.openWindow title = r' at opens frames
  obtain ⟨outcome, l⟩ := r
  obtain ⟨outcome', l'⟩ := r'
  obtain ⟨same, twin⟩ := opens
  obtain rfl : outcome' = outcome := same
  cases outcome' with
  | error e => exact ⟨twin.console, twin.halt⟩
  | ok _ =>
      have frames : l'.host.frames = l.host.frames := frames
      obtain ⟨-, after⟩ := alike_turns twin l.host.frames
      obtain ⟨halt, console⟩ := leave_keeps (l.turns l.host.frames).2
      obtain ⟨halt', console'⟩ := leave_keeps (l'.turns l.host.frames).2
      simp only [andThen, finish, frames, halt, halt', console, console']
      exact ⟨after.console, after.halt⟩

theorem reportsAfter_of_alike {r r' : Except Failure Unit × Live} (opens : Alike r r')
    (frames : r'.2.host.frames = r.2.host.frames) : reportsAfter r' = reportsAfter r := by
  obtain ⟨outcome, l⟩ := r
  obtain ⟨outcome', l'⟩ := r'
  obtain ⟨same, twin⟩ := opens
  obtain rfl : outcome' = outcome := same
  cases outcome' with
  | error e => rfl
  | ok _ =>
      have frames : l'.host.frames = l.host.frames := frames
      rw [reportsAfter, reportsAfter, frames]
      exact reports_of_twin twin l.host.frames

end Live

/-- Runs of players that agree tell the same of all their frames, and end alike. -/
theorem reports_alike {p p' : Player} (setup : p'.setup = p.setup) (halt : p'.halt = p.halt)
    (silent : p.setup.mute = true → p.tone = none) (silent' : p'.setup.mute = true → p'.tone = none)
    (look : Path → Path.Target) {host host' : Host} (agree : host.Agree host') :
    p'.reports look host' = p.reports look host ∧
      (p'.run look host').console = (p.run look host).console ∧
      (p'.run look host').player.halt = (p.run look host).player.halt := by
  have same : p'.opening look host' = if !host.window then none
      else (program p.setup look).map fun found =>
        (Live.start p' found.2.1 found.2.2 host').openWindow found.1 := by
    rw [opening, setup, agree.window]
  cases opens : p.opening look host with
  | none =>
      have none' : p'.opening look host' = none := by
        rw [same]
        rw [opening] at opens
        split
        · rfl
        · rename_i window
          rw [if_neg window, Option.map_eq_none_iff] at opens
          rw [opens, Option.map_none]
      obtain ⟨console, player⟩ := run_of_unopened opens
      obtain ⟨console', player'⟩ := run_of_unopened none'
      rw [reports, reports, opens, none', console, console', player, player']
      exact ⟨rfl, rfl, halt⟩
  | some r =>
      obtain ⟨title, image, c, found, rfl, ends⟩ := run_of_opening opens
      have window : ¬(!host.window) = true := fun closed => by
        rw [opening, if_pos closed] at opens
        cases opens
      rw [if_neg window, found, Option.map_some] at same
      obtain ⟨title', image', c', found', -, ends'⟩ := run_of_opening same
      rw [setup] at found'
      cases found.symm.trans found'
      obtain ⟨alike, frames⟩ := Live.alike_openWindow (.start p image c host)
        (.start p' image c host') title setup halt rfl silent silent' agree
      obtain ⟨last, halts⟩ := Live.play_alike alike frames
      rw [reports, reports, opens, same, ends, ends']
      exact ⟨Live.reportsAfter_of_alike alike frames, congrArg some last, halts⟩

end Player

/-! ## Players that are halted -/

namespace Player

namespace Live

/-- What is left of a machine that nothing is executed on: all but its keys and its redraw flag. The
player is halted and stays so. -/
theorem steady_still (f : Fault) : Steady fun l after => l.player.halt = some f →
    after.player.halt = some f ∧ after.console.machine.still = l.console.machine.still where
  refl := fun _ halted => ⟨halted, rfl⟩
  trans := fun first second halted =>
    have ⟨halted', still⟩ := first halted
    have ⟨halted'', still'⟩ := second halted'
    ⟨halted'', still'.trans still⟩
  call := fun _ halted => ⟨halted, rfl⟩
  strike := fun l e halted => by
    refine ⟨(steady_becomes.strike l e).halt f halted, ?_⟩
    cases e with
    | keyDown name =>
        rw [strike]
        split <;> rfl
    | _ => rfl
  execute := fun l halted => by
    have executed : l.execute.2.player = (l.player.frame l.console.machine).player ∧
        l.execute.2.console.machine = (l.player.frame l.console.machine).machine := ⟨rfl, rfl⟩
    rw [executed.1, executed.2, frame_of_halted halted]
    exact ⟨halted, rfl⟩
  updateTone := fun l halted => by
    obtain ⟨-, halt, console⟩ := updateTone_keeps l
    rw [halt, console]
    exact ⟨halted, rfl⟩
  take := fun l machine taken halted => by
    rw [taken]
    exact ⟨halted, rfl⟩
  paint := fun l halted => by
    obtain ⟨console, canvas, player⟩ := paint_keeps l
    rw [console, player]
    exact ⟨halted, rfl⟩
  wait := fun _ halted => ⟨halted, rfl⟩

variable {l : Live} {f : Fault}

theorem idle_report (halted : l.player.halt = some f) (batch : List Event) :
    ∀ report ∈ l.report batch, report.Idle f l.console.machine := by
  have received := (steady_still f).receive l batch halted
  intro report told
  unfold Live.report at told
  generalize l.receive batch = r at told received
  obtain ⟨_ | _, l'⟩ := r
  · cases told
  · obtain ⟨halted, still⟩ := received
    cases told
    rw [Live.told, frame_of_halted halted]
    exact ⟨rfl, halted, still⟩

/-- All frames of a player that is halted do nothing. -/
theorem idle_reports (halted : l.player.halt = some f) (batches : List (List Event)) :
    ∀ report ∈ l.reports batches, report.Idle f l.console.machine := by
  induction batches generalizing l with
  | nil => exact fun report told => idle_report halted [.quit] report (Option.mem_toList.1 told)
  | cons batch rest ih =>
      obtain ⟨halted', still⟩ := (steady_still f).turn l batch halted
      rw [reports]
      refine List.forall_mem_append.2
        ⟨fun report told => idle_report halted batch report (Option.mem_toList.1 told), ?_⟩
      split
      · exact List.forall_mem_nil _
      · generalize l.turn batch = r at halted' still
        obtain ⟨_ | _, after⟩ := r
        · exact List.forall_mem_nil _
        · exact fun report told => (ih halted' report told).congr still

/-- Opening the window does nothing either. -/
theorem idle_openWindow (title : String) (halted : l.player.halt = some f) :
    ∀ report ∈ reportsAfter (l.openWindow title), report.Idle f l.console.machine := by
  have halted := (becomes_openWindow title l).halt f halted
  have console := (opens_openWindow title l).console
  generalize l.openWindow title = r at halted console
  obtain ⟨_ | _, l'⟩ := r
  · exact List.forall_mem_nil _
  · have still : l'.console.machine.still = l.console.machine.still :=
      congrArg (fun console : Console => console.machine.still) console
    exact fun report told => (idle_reports halted l'.host.frames report told).congr still

end Live

/-- The law of a second run. If the first has not halted the player, the second tells the same of
all its frames and ends alike, if the host gives it the same events. If a fault has halted it,
whatever the host does, no frame of the second run executes an instruction: each answers zero, the
player is still halted by the old fault, and the new machine stays as it was made but for its keys.
-/
theorem reports_of_rerun {setup : Setup} {log : Log.Filter} {p : Player}
    (later : Later (create setup log) p) (look : Path → Path.Target) (host host' : Host) :
    let r := p.run look host
    (r.player.halt = none → host.Agree host' →
      r.player.reports look host' = p.reports look host ∧
        (r.player.run look host').console = r.console ∧
        (r.player.run look host').player.halt = none) ∧
    ∀ f, r.player.halt = some f → ∀ report ∈ r.player.reports look host',
      ∃ title image console, program p.setup look = some (title, image, console) ∧
        report.Idle f console.machine := by
  intro r
  have becomes := becomes_run p look host
  constructor
  · intro going agree
    have halt : p.halt = none := by
      cases halted : p.halt with
      | none => rfl
      | some f => cases going.symm.trans (becomes.halt f halted)
    obtain ⟨tells, last, halts⟩ := reports_alike becomes.setup (going.trans halt.symm)
      later.silent_of_mute (later.run look host).silent_of_mute look agree
    exact ⟨tells, last, halts.trans going⟩
  · intro f halted report told
    unfold reports at told
    cases opens : r.player.opening look host' with
    | none =>
        rw [opens] at told
        cases told
    | some opened =>
        obtain ⟨title, image, c, found, rfl, -⟩ := run_of_opening opens
        rw [opens] at told
        rw [becomes.setup] at found
        exact ⟨title, image, c, found, Live.idle_openWindow title halted report told⟩

/-- A tune that is played twice, the second time on a mixer without a free channel. -/
theorem reports_of_rerun_without_a_channel :
    let p := create { path := some (.ofText "beep.ch8"), budget := 2 } .silent
    let look (_ : Path) : Path.Target := .file [0x60, 0x03, 0xF0, 0x18, 0x12, 0x04]
    let host : Host := { frames := [[], [.keyDown "q"]] }
    let host' : Host := { host with channels := [false] }
    host.Agree host' ∧ (p.run look host).player.halt = none ∧
      (p.reports look host).map (fun report => (report.answer.toOption, report.halt)) =
        [(some 2, none), (some 2, none), (some 2, none)] ∧
      (p.run look host).player.reports look host' = p.reports look host := by
  intro p look host host'
  have agree : host.Agree host' := ⟨rfl, rfl, .inl rfl, rfl, rfl⟩
  have going : (p.run look host).player.halt = none := by decide +kernel
  have law := (reports_of_rerun (.same : Later p p) look host host').1 going agree
  exact ⟨agree, going, by decide +kernel, law.1⟩

/-- A program that faults is executed up to its fault in a first run, and not at all in a second. -/
theorem rerun_after_fault :
    let p := create { path := some (.ofText "rom.ch8") } .silent
    let look (_ : Path) : Path.Target := .file [0x60, 0x01, 0xFF, 0xFF]
    let host : Host := { frames := [[.quit]] }
    (p.reports look host).map (fun report =>
        (report.answer.toOption, report.console.machine.registers.pc)) = [(some 1, 0x204)] ∧
      ((p.run look host).player.reports look host).map (fun report =>
        (report.answer.toOption, report.console.machine.registers.pc)) = [(some 0, 0x200)] := by
  decide +kernel

end Player

end Chip8
