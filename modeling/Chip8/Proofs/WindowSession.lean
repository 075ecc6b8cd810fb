/-
# Chip8.Proofs.WindowSession — a run in a window is a session

What the events of a frame do to a console are the acts of a session, and then a frame is played.
Sound, picture and the redraw flag are all that a window adds, and no frame depends on them. So
after each of its frames a run stands where the session of its events stands
(`Live.turn_of_goes`, `Live.Follows`).

Nothing stops such a run before its end if the host never raises: instructions and pictures do not
fail, and a tone that can be built can be switched. The run goes on up to the first batch of events
that closes the window, plays the frame of that batch too, and ends there (`Live.turns_of_closing`).
-/
import Chip8.Proofs.Closing
import Chip8.Proofs.Pitch
import Chip8.Proofs.Redraw

namespace Chip8

set_option autoImplicit false

/-! ## Tones that can be built -/

namespace Tone

def Buildable (t : Tone) : Prop := ∃ wave, t.build = .ok wave

/-- A tone that can be built can still be built after it was switched, and if the host does not
raise it can be switched. -/
theorem set_of_buildable {t : Tone} (buildable : t.Buildable) (f : Log.Filter) (h : Host)
    (on : Bool) :
    (h.raises = [] → (t.set f h on).outcome = .ok ()) ∧ (t.set f h on).tone.Buildable := by
  obtain ⟨wave, built⟩ := buildable
  have switches := switches_set f t h on
  exact ⟨fun calm => switches.outcome_of_built calm built, wave, switches.build_eq.trans built⟩

end Tone

def Console.calm (c : Console) : Console := { c with machine := c.machine.calm }

theorem Console.calm_press (c : Console) (name : String) :
    (c.press name).calm = c.calm.press name := rfl

theorem Console.calm_release (c : Console) (name : String) :
    (c.release name).calm = c.calm.release name := rfl

/-! ## Events as acts -/

def Request.waits : Request → Bool
  | .wait _ => true
  | _ => false

theorem Request.not_waits_of_sounds {r : Request} (sounds : r.sounds) : ¬r.waits := by
  cases r <;> first | exact Bool.false_ne_true | cases sounds

theorem Request.not_waits_of_shows {r : Request} (shows : r.shows) : ¬r.waits := by
  cases r <;> first | exact Bool.false_ne_true | cases shows

namespace Event

def acts : Event → List Player.Act
  | .keyDown name => if name = "escape" then [] else [.press name]
  | .keyUp name => [.release name]
  | .quit | .other => []

end Event

namespace Player

/-- The acts of a frame: those of its events, and the frame. -/
def batchActs (batch : List Event) : List Act := batch.flatMap Event.acts ++ [.frame]

theorem Session.run_append (g : Session) (first second : List Act) :
    g.run (first ++ second) = (g.run first).run second :=
  List.foldl_append ..

namespace Live

def waits (l : Live) : Nat := l.requests.toList.countP Request.waits

/-- The tone of a run, if it has one, can be built. -/
def Tuned (l : Live) : Prop := ∀ t ∈ l.player.tone, t.Buildable

/-- A run stands where a session stands, but for picture, sound and the redraw flag. -/
structure Follows (l : Live) (g : Session) : Prop where
  player : l.player.bare = g.player.bare
  console : l.console.calm = g.console.calm

/-- `after` comes after `l` without an act and without a wait. -/
structure Rests (l after : Live) : Prop where
  player : after.player.bare = l.player.bare
  console : after.console.calm = l.console.calm
  waits : after.waits = l.waits
  tuned : l.Tuned → after.Tuned

variable {l l' after : Live} {g : Session} {setup : Setup}

theorem Rests.refl (l : Live) : l.Rests l := ⟨rfl, rfl, rfl, id⟩

theorem Rests.trans {l'' : Live} (first : l.Rests l') (second : l'.Rests l'') : l.Rests l'' where
  player := second.player.trans first.player
  console := second.console.trans first.console
  waits := second.waits.trans first.waits
  tuned := second.tuned ∘ first.tuned

theorem Follows.rests (follows : l.Follows g) (rests : l.Rests after) : after.Follows g where
  player := rests.player.trans follows.player
  console := rests.console.trans follows.console

theorem waits_of_asked (more : List Request)
    (asked : after.requests.toList = l.requests.toList ++ more) :
    after.waits = l.waits + more.countP Request.waits := by
  rw [waits, asked, List.countP_append, waits]

/-! ## Sound and picture -/

theorem rests_afterTone {r : Tone.Result} (sounds : ∀ request ∈ r.requests, request.sounds)
    (buildable : l.Tuned → r.tone.Buildable) : l.Rests (l.afterTone r).2 :=
  { Rests.refl l with
    waits := by
      have silent : r.requests.countP Request.waits = 0 :=
        List.countP_eq_zero.2 fun request asked => Request.not_waits_of_sounds (sounds _ asked)
      rw [waits_of_asked r.requests (requests_afterTone l r), silent, Nat.add_zero]
    tuned := by
      rintro tuned _ ⟨⟩
      exact buildable tuned }

theorem rests_updateTone (l : Live) : l.Rests l.updateTone.2 := by
  cases held : l.player.tone with
  | none =>
      rw [updateTone, held]
      exact .refl l
  | some t =>
      rw [updateTone, held]
      refine rests_afterTone (Tone.switches_set l.player.log t l.host _).sounds fun tuned => ?_
      exact (Tone.set_of_buildable (tuned t held) _ _ _).2

/-- A tone that can be built does not stop a run. -/
theorem updateTone_of_tuned (calm : l.host.raises = []) (tuned : l.Tuned) :
    l.updateTone.1 = .ok () := by
  cases held : l.player.tone with
  | none => rw [updateTone, held]
  | some t =>
      rw [updateTone, held]
      exact (Tone.set_of_buildable (tuned t held) _ _ _).1 calm

theorem rests_paint (l : Live) : l.Rests l.paint.2 := by
  obtain ⟨canvas, made, host, printed, painted, shows, -⟩ := paint_ends l
  have silent : made.countP Request.waits = 0 :=
    List.countP_eq_zero.2 fun r inside => Request.not_waits_of_shows (shows r inside)
  rw [painted]
  exact { Rests.refl l with
    waits := by rw [waits_of_asked made (Array.toList_appendList ..), silent, Nat.add_zero] }

theorem rests_refresh (l : Live) : l.Rests l.refresh.2 := by
  have taken : l.Rests
      { l with console := { l.console with machine := l.console.machine.takeRedraw.2 } } :=
    { Rests.refl l with }
  unfold refresh
  dsimp only
  split
  · exact taken.trans (rests_paint _)
  · exact taken

/-! ## Events and instructions -/

/-- The keys of an event are its acts. -/
theorem follows_strike (follows : l.Follows g) (e : Event) :
    (l.strike e).Follows (g.run e.acts) := by
  cases e with
  | quit => exact follows
  | other => exact follows
  | keyUp name =>
      have released : (l.console.release name).calm = (g.console.release name).calm := by
        rw [Console.calm_release, follows.console, Console.calm_release]
      exact ⟨follows.player, released⟩
  | keyDown name =>
      have pressed : (l.console.press name).calm = (g.console.press name).calm := by
        rw [Console.calm_press, follows.console, Console.calm_press]
      by_cases escape : name = "escape"
      · rw [strike, if_pos escape, Event.acts, if_pos escape]
        exact follows
      · rw [strike, if_neg escape, Event.acts, if_neg escape]
        exact ⟨follows.player, pressed⟩

/-- On a host that does not raise, the events of a frame are their keys. -/
theorem receive_of_calm (calm : l.host.raises = []) (batch : List Event) :
    l.receive batch = (.ok (), batch.foldl strike l) := by
  rw [receive, call_of_calm calm, andThen]
  induction batch generalizing l with
  | nil => rfl
  | cons e rest ih =>
      rw [events, event, call_of_calm calm, ite_self, andThen, andThen]
      exact ih ((strike_same l e).2.1 ▸ calm)

theorem strikes_same (l : Live) (batch : List Event) : (batch.foldl strike l).player = l.player ∧
    (batch.foldl strike l).host = l.host ∧ (batch.foldl strike l).requests = l.requests := by
  induction batch generalizing l with
  | nil => exact ⟨rfl, rfl, rfl⟩
  | cons e rest ih =>
      obtain ⟨player, host, requests⟩ := strike_same l e
      obtain ⟨player', host', requests'⟩ := ih (l.strike e)
      exact ⟨player'.trans player, host'.trans host, requests'.trans requests⟩

theorem follows_strikes (follows : l.Follows g) (batch : List Event) :
    (batch.foldl strike l).Follows (g.run (batch.flatMap Event.acts)) := by
  induction batch generalizing l g with
  | nil => exact follows
  | cons e rest ih =>
      rw [List.flatMap_cons, Session.run_append]
      exact ih (follows_strike follows e)

/-- The instructions of a frame are those of the session. -/
theorem follows_execute (follows : l.Follows g) : l.execute.2.Follows (g.act .frame) := by
  have same := frame_congr follows.player (congrArg (·.machine) follows.console :)
  have keyboard := (congrArg (·.keyboard) follows.console :)
  exact ⟨congrArg FrameResult.player same,
    congrArg₂ Console.mk (congrArg FrameResult.machine same) keyboard⟩

/-! ## Frames -/

/-- A run that can go on: it stands where a session stands, its window shows the machine, its tone
can be built, and the host does not raise. -/
structure Goes (l : Live) (setup : Setup) (g : Session) : Prop where
  follows : l.Follows g
  ready : l.Ready setup
  shown : l.Shows setup l.console.machine.display
  tuned : l.Tuned
  calm : l.host.raises = []

/-- The events of a frame, and its instructions, are the acts of a session. -/
theorem execute_receive (goes : l.Goes setup g) (batch : List Event) :
    ∃ after, andThen (l.receive batch) execute = (.ok (), after) ∧
      after.Follows (g.run (batchActs batch)) ∧ after.Ready setup ∧
      after.waits = l.waits ∧ after.Tuned ∧ after.host.raises = [] := by
  have received := receive_of_calm goes.calm batch
  have follows := follows_strikes goes.follows batch
  have keeps := keeps_receive l batch
  obtain ⟨player, host, requests⟩ := strikes_same l batch
  rw [received] at keeps ⊢
  generalize batch.foldl strike l = l₁ at follows keeps player host requests
  obtain ⟨after, executed, frame⟩ := keeps_execute l₁
  obtain rfl : l₁.execute.2 = after := by rw [executed]
  have held : l₁.execute.2.player.tone = l.player.tone :=
    (frame_keeps l₁.player l₁.console.machine).tone.trans (congrArg Player.tone player)
  refine ⟨l₁.execute.2, executed, ?_, goes.ready.keeps (keeps.trans frame), ?_, ?_, ?_⟩
  · rw [batchActs, Session.run_append]
    exact follows_execute follows
  · exact congrArg (fun requests : Array Request => requests.toList.countP Request.waits) requests
  · intro t sounding
    exact goes.tuned t (held ▸ sounding)
  · exact (congrArg Host.raises host).trans goes.calm

/-- Painting does not fail if the host does not raise. -/
theorem refresh_of_calm (calm : l.host.raises = []) (ready : l.Ready setup) :
    l.refresh.1 = .ok () := by
  let taken := { l with console := { l.console with machine := l.console.machine.takeRedraw.2 } }
  obtain ⟨frame, canvas, printed, painted⟩ := paint_of_screen (l := taken) calm ready.stride
    ready.height (ready.player.symm ▸ ready.scale)
  unfold refresh
  dsimp only
  split
  · exact congrArg Prod.fst painted
  · rfl

/-- A frame of a run does not fail. It carries the run on along its session, and waits once. -/
theorem turn_of_goes (goes : l.Goes setup g) (batch : List Event) :
    ∃ after, l.turn batch = (.ok (), after) ∧ after.Goes setup (g.run (batchActs batch)) ∧
      after.waits = l.waits + 1 := by
  obtain ⟨l₁, executed, follows, ready, waits, tuned, calm⟩ := execute_receive goes batch
  have toned : l₁.updateTone = (.ok (), l₁.updateTone.2) :=
    Prod.ext (updateTone_of_tuned calm tuned) rfl
  have rests₂ := rests_updateTone l₁
  have ready₂ := ready.keeps (keeps_updateTone l₁)
  have calm₂ := steady_calm.updateTone l₁ calm
  generalize l₁.updateTone.2 = l₂ at toned rests₂ ready₂ calm₂
  have refreshed : l₂.refresh = (.ok (), l₂.refresh.2) :=
    Prod.ext (refresh_of_calm calm₂ ready₂) rfl
  have rests₃ := rests_refresh l₂
  have calm₃ := steady_calm.refresh l₂ calm₂
  generalize l₂.refresh.2 = l₃ at refreshed rests₃ calm₃
  have rests := rests₂.trans rests₃
  have turned : l.turn batch =
      (.ok (), { l₃ with requests := l₃.requests ++ [Request.wait frameRate] }) := by
    rw [turn, executed, andThen, toned, andThen, refreshed, andThen, ask_of_calm calm₃]
  obtain ⟨ready, shown⟩ := shows_turn goes.ready goes.shown turned
  refine ⟨_, turned, ⟨⟨?_, ?_⟩, ready, shown, ?_, calm₃⟩, ?_⟩
  · exact (follows.rests rests).player
  · exact (follows.rests rests).console
  · exact rests.tuned tuned
  · rw [waits_of_asked _ (Array.toList_appendList ..), rests.waits, waits]
    rfl

/-- The frames of a run are those of its batches of events, up to the first that closes the
window. -/
theorem turns_of_closing (goes : l.Goes setup g) {earlier : List (List Event)}
    {last : List Event} (later : List (List Event))
    (unclosed : ∀ batch ∈ earlier, batch.any Event.closes = false)
    (closing : last.any Event.closes = true) :
    ∃ after, l.turns (earlier ++ last :: later) = (.ok (), after) ∧
      after.Follows (g.run ((earlier ++ [last]).flatMap batchActs)) ∧
      after.waits = l.waits + (earlier.length + 1) ∧ after.host.raises = [] := by
  induction earlier generalizing l g with
  | nil =>
      obtain ⟨after, turned, goes', waits⟩ := turn_of_goes goes last
      refine ⟨after, ?_, ?_, waits, goes'.calm⟩
      · rw [List.nil_append, turns, if_pos closing, turned]
      · simpa using goes'.follows
  | cons batch rest ih =>
      obtain ⟨next, turned, goes', waits⟩ := turn_of_goes goes batch
      obtain ⟨after, ended, follows, waits', calm⟩ :=
        ih goes' fun b inside => unclosed b (List.mem_cons_of_mem _ inside)
      refine ⟨after, ?_, ?_, ?_, calm⟩
      · rw [List.cons_append, turns, unclosed batch List.mem_cons_self,
          if_neg Bool.false_ne_true, turned]
        exact ended
      · rwa [List.cons_append, List.flatMap_cons, Session.run_append]
      · rw [waits', waits, List.length_cons]
        omega

/-! ## The whole run -/

theorem waits_leave (l : Live) : l.leave.2.waits = l.waits := by
  have silent : (if l.holds then [Request.stop] else []).countP Request.waits = 0 := by
    split <;> rfl
  have left : [Request.quit].countP Request.waits = 0 := rfl
  rcases leave_ends l with ⟨e, -, -, requests⟩ | ⟨-, requests, -⟩
  · rw [waits_of_asked [.stop] requests]
    rfl
  · rw [waits, requests, List.countP_append, List.countP_append, silent, left]
    rfl

/-- To leave a window changes neither the console nor the halt of the player. -/
theorem leave_keeps (l : Live) :
    l.leave.2.player.halt = l.player.halt ∧ l.leave.2.console = l.console := by
  refine rel_andThen (R := fun l after =>
      after.player.halt = l.player.halt ∧ after.console = l.console)
    (fun first second => ⟨second.1.trans first.1, second.2.trans first.2⟩) ?_
    fun l' => ⟨rfl, rfl⟩
  cases l.player.tone <;> exact ⟨rfl, rfl⟩

/-- Nothing hinders a run from leaving its window if the host does not raise. -/
theorem leave_of_calm (calm : l.host.raises = []) : l.leave.1 = .ok () := by
  unfold leave
  cases l.player.tone with
  | none => exact congrArg Prod.fst (ask_of_calm calm [.quit])
  | some t =>
      dsimp only
      rw [Tone.shutdown_of_calm t calm, afterTone, andThen, ask_of_calm]
      exact calm

/-- A run that is about to open its window: nothing was asked for yet, there is a screen to paint
in some scale and in the colours of the palette, no tone was made, the mixer tells rates of 32 bits,
and the host does not raise. -/
structure Begins (l : Live) : Prop where
  requests : l.requests = #[]
  stride : l.console.machine.display.stride = 8
  height : l.console.machine.display.height = 32
  scale : 0 < l.player.setup.scale
  palette : l.player.canvas.palette = l.player.setup.palette
  tone : l.player.tone = none
  rates : l.host.ShortRates
  calm : l.host.raises = []

/-- The window is opened, and the run can go on from where a session begins. -/
theorem openWindow_of_begins (begins : l.Begins) (title : String) :
    ∃ after, l.openWindow title = (.ok (), after) ∧
      after.Goes l.player.setup ⟨l.player, l.console, []⟩ ∧ after.waits = 0 ∧
      after.host.frames = l.host.frames := by
  obtain ⟨mixer, printed, opens⟩ := openWindow_of_calm title begins.calm
  obtain ⟨frame, canvas, printed', painted⟩ := paint_of_screen
    (l := l.opened title l.firstTone { l.host with mixer } printed) begins.calm begins.stride
    begins.height begins.scale
  rw [painted] at opens
  obtain ⟨ready, shown⟩ :=
    shows_openWindow begins.stride begins.height begins.scale begins.palette opens
  refine ⟨_, opens, ⟨⟨rfl, rfl⟩, ready, shown, ?_, begins.calm⟩, ?_, rfl⟩
  · intro t sounding
    have made : t ∈ Tone.made l.host := mem_made_of_firstTone (fun _ => begins.tone) sounding
    exact (Tone.standard_of_made made).build_eq begins.rates
  · simp [waits, opened, overture, begins.requests, Request.waits]

/-- A run in a window ends without a failure. It has played the frames of its batches of events up
to the first that closes the window, and it is halted if the session of these frames is. -/
theorem play_of_closing (begins : l.Begins) (title : String) {earlier later : List (List Event)}
    {last : List Event} (frames : l.host.frames = earlier ++ last :: later)
    (unclosed : ∀ batch ∈ earlier, batch.any Event.closes = false)
    (closing : last.any Event.closes = true) :
    ∃ after, l.play title = (.ok (), after) ∧
      after.player.halt = (Session.run ⟨l.player, l.console, []⟩
        ((earlier ++ [last]).flatMap batchActs)).player.halt ∧
      after.waits = earlier.length + 1 := by
  obtain ⟨opened, opens, goes, waits, same⟩ := openWindow_of_begins begins title
  obtain ⟨ended, turned, follows, waits', calm⟩ :=
    turns_of_closing goes later unclosed closing
  refine ⟨ended.leave.2, ?_, ?_, ?_⟩
  · rw [play, opens, andThen, same, frames, turned, finish]
    dsimp only
    rw [leave_of_calm calm]
    rfl
  · rw [(leave_keeps ended).1]
    exact (congrArg Player.halt follows.player :)
  · rw [waits_leave, waits', waits, Nat.zero_add]

end Live

end Player

end Chip8
