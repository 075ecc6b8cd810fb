/-
# Chip8.Proofs.Window — the window is never behind the machine

The window is painted again only when the machine asks for it, by a flag that instructions set
and the window takes. That is enough: a picture changes only together with the flag, no fault
and no other instruction takes the flag back (`Machine.Redraws`), and when the flag is taken
the whole picture is painted. So whatever happens in a frame, at its end the last frame that
the window was given shows the display (`shows_turn`), and by induction at the end of every
frame of a run (`shows_laps`). That a run passes through the ends of its frames is said in
`Chip8.Proofs.Laps`.
-/
import Chip8.Player.Run
import Chip8.Proofs.Frames
import Chip8.Proofs.Painting
import Chip8.Proofs.Switching

namespace Chip8

set_option autoImplicit false

/-! ## Pictures that change -/

namespace Machine

/-- `after` comes after `m`: its picture is that of `m`, unless it asks for a redraw. -/
structure Redraws (m after : Machine) : Prop where
  size : after.display.stride = m.display.stride ∧ after.display.height = m.display.height
  asks : after.redraw = true ∨ (after.redraw = m.redraw ∧ after.display = m.display)

theorem Redraws.refl (m : Machine) : m.Redraws m := ⟨⟨rfl, rfl⟩, .inr ⟨rfl, rfl⟩⟩

theorem Redraws.trans {m m' m'' : Machine} (first : m.Redraws m') (second : m'.Redraws m'') :
    m.Redraws m'' where
  size := ⟨second.size.1.trans first.size.1, second.size.2.trans first.size.2⟩
  asks := by
    rcases second.asks with asks | ⟨flag, same⟩
    · exact .inl asks
    · rw [flag, same]
      exact first.asks

variable {dialect : Dialect} {log : Log.Filter} {m last : Machine} {path : List Machine}

/-- An operation that changes the picture asks for a redraw, and no operation takes the flag. -/
theorem redraws_of_done {row : Instruction}
    (done : (m.step { dialect, log }).outcome = .ok row) :
    m.Redraws (m.step { dialect, log }).machine := by
  obtain ⟨o, -, after, leaves, result⟩ := leaves_of_done done
  rw [result]
  refine ⟨leaves.size, ?_⟩
  change after.redraw = true ∨ (after.redraw = m.redraw ∧ after.display = m.display)
  rw [leaves.redraw]
  cases paints : o.paints with
  | true => exact .inl rfl
  | false => exact .inr ⟨rfl, leaves.display paints⟩

theorem Executes.redraws (h : Executes { dialect, log } m path last) : m.Redraws last := by
  induction h with
  | none m => exact .refl m
  | next done rest ih => exact (redraws_of_done done).trans ih

end Machine

namespace Player

structure FrameKeeps (p : Player) (m : Machine) (r : FrameResult) : Prop where
  answers : ∃ n, r.outcome = .ok n
  setup : r.player.setup = p.setup
  log : r.player.log = p.log
  canvas : r.player.canvas = p.canvas
  tone : r.player.tone = p.tone
  redraws : m.Redraws r.machine

theorem frame_keeps (p : Player) (m : Machine) : FrameKeeps p m (p.frame m) := by
  have ends := frame_ends p m InstructionSet.readable_standard
  generalize p.frame m = r at ends ⊢
  cases ends with
  | idle halted => exact ⟨⟨_, rfl⟩, rfl, rfl, rfl, rfl, .refl m⟩
  | whole going executes full =>
      exact ⟨⟨_, rfl⟩, rfl, rfl, rfl, rfl, ⟨executes.redraws.size, executes.redraws.asks⟩⟩
  | cut going executes short faults =>
      obtain ⟨pc, same⟩ := Machine.jump_of_failed faults
      rw [same]
      exact ⟨⟨_, rfl⟩, rfl, rfl, rfl, rfl, ⟨executes.redraws.size, executes.redraws.asks⟩⟩

end Player

/-! ## Frames on the window -/

def Request.leavesWindow : Request → Bool
  | .findChannel _ | .sound _ | .play | .volume _ | .stop | .wait _ => true
  | _ => false

def Request.shows : Request → Bool
  | .show _ | .flip => true
  | _ => false

theorem Request.leavesWindow_of_sounds {r : Request} (sounds : r.sounds) : r.leavesWindow := by
  cases r <;> first | rfl | cases sounds

/-- The colour of a point of a frame: the window shows the surface scaled to the frame. -/
def Frame.point (f : Frame) (x y : Int) : Rgb :=
  f.base.point (x * f.base.width / f.width) (y * f.base.height / f.height)

/-- A frame that was scaled from a surface shows every pixel as a square of points. -/
theorem Frame.point_eq {f : Frame} {scale : Int} (pos : 0 < scale)
    (base : 0 < f.base.width ∧ 0 < f.base.height) (width : f.width = f.base.width * scale)
    (height : f.height = f.base.height * scale) (x y : Nat) :
    f.point x y = f.base.point (x / scale.toNat : Nat) (y / scale.toNat : Nat) := by
  have whole : (scale.toNat : Int) = scale := Int.toNat_of_nonneg (by omega)
  rw [point, width, height, Int.mul_comm (x : Int), Int.mul_comm (y : Int),
    Int.mul_ediv_mul_of_pos _ _ base.1, Int.mul_ediv_mul_of_pos _ _ base.2, Int.natCast_ediv,
    Int.natCast_ediv, whole]

/-- A frame as large as the window that shows a display in the colours of a palette. -/
structure Frame.Shows (f : Frame) (palette : Palette) (scale : Int) (d : Display) : Prop where
  width : f.width = 64 * scale
  height : f.height = 32 * scale
  point : ∀ x y : Nat, x < 64 * scale → y < 32 * scale →
    f.point x y = palette.colour (d.lit (x / scale.toNat) (y / scale.toNat))

/-- What a canvas draws of a screen shows it, whatever it has drawn before. -/
theorem Canvas.draw_screen (c : Canvas) {d : Display} (stride : d.stride = 8)
    (height : d.height = 32) {scale : Int} (pos : 0 < scale) :
    ∃ frame, c.draw d.buffer d.width d.height scale =
        (.ok frame, { c with base := some frame.base, serial := frame.serial }) ∧
      frame.Shows c.palette scale d := by
  have width : d.width = 64 := by rw [Display.width, stride]
  obtain ⟨frame, drawn, wide, high, baseWidth, baseHeight, points⟩ := c.draw_display d pos
  rw [width] at wide baseWidth points
  rw [height] at high baseHeight points
  refine ⟨frame, drawn, wide, high, fun x y hx hy => ?_⟩
  rw [Frame.point_eq pos (by omega) (baseWidth ▸ wide) (baseHeight ▸ high)]
  exact points _ _ (Nat.div_lt_of_lt_mul (by omega)) (Nat.div_lt_of_lt_mul (by omega))

namespace Tone

theorem leavesWindow_set (f : Log.Filter) (t : Tone) (h : Host) (on : Bool) :
    ∀ r ∈ (t.set f h on).requests, r.leavesWindow :=
  fun r asked => Request.leavesWindow_of_sounds ((switches_set f t h on).sounds r asked)

end Tone

namespace Player.Live

/-- The last frame that the window was given, and that was flipped, shows a display. -/
def Shows (l : Live) (setup : Setup) (d : Display) : Prop :=
  ∃ (earlier later : List Request) (frame : Frame),
    l.requests.toList = earlier ++ .show frame :: .flip :: later ∧
    .openWindow (64 * setup.scale) (32 * setup.scale) setup.fullscreen ∈ earlier ∧
    (∀ r ∈ later, r.leavesWindow) ∧
    frame.Shows setup.palette setup.scale d

/-- A run that can paint: the screen and the window have their sizes, and the colours are those
of the palette. -/
structure Ready (l : Live) (setup : Setup) : Prop where
  player : l.player.setup = setup
  stride : l.console.machine.display.stride = 8
  height : l.console.machine.display.height = 32
  scale : 0 < setup.scale
  palette : l.player.canvas.palette = setup.palette
  opened : .openWindow (64 * setup.scale) (32 * setup.scale) setup.fullscreen ∈ l.requests.toList

/-- `after` comes after `l` without a change of the window, and asks for one if the picture is
new. -/
structure Keeps (l after : Live) : Prop where
  setup : after.player.setup = l.player.setup
  palette : after.player.canvas.palette = l.player.canvas.palette
  requests : ∃ more, after.requests.toList = l.requests.toList ++ more ∧
    ∀ r ∈ more, r.leavesWindow
  redraws : l.console.machine.Redraws after.console.machine

variable {l after : Live} {setup : Setup} {d : Display}

theorem Keeps.trans {l l' l'' : Live} (first : l.Keeps l') (second : l'.Keeps l'') :
    l.Keeps l'' := by
  obtain ⟨more, asked, quiet⟩ := first.requests
  obtain ⟨more', asked', quiet'⟩ := second.requests
  exact
    { setup := second.setup.trans first.setup
      palette := second.palette.trans first.palette
      requests := ⟨more ++ more', by rw [asked', asked, List.append_assoc],
        List.forall_mem_append.2 ⟨quiet, quiet'⟩⟩
      redraws := first.redraws.trans second.redraws }

theorem Ready.keeps (ready : l.Ready setup) (keeps : l.Keeps after) : after.Ready setup := by
  obtain ⟨more, asked, -⟩ := keeps.requests
  exact
    { ready with
      player := keeps.setup.trans ready.player
      stride := keeps.redraws.size.1.trans ready.stride
      height := keeps.redraws.size.2.trans ready.height
      palette := keeps.palette.trans ready.palette
      opened := asked ▸ List.mem_append_left _ ready.opened }

theorem Shows.keeps (shown : l.Shows setup d) (keeps : l.Keeps after) : after.Shows setup d := by
  obtain ⟨earlier, later, frame, asked, opened, quiet, picture⟩ := shown
  obtain ⟨more, asked', quiet'⟩ := keeps.requests
  refine ⟨earlier, later ++ more, frame, ?_, opened, List.forall_mem_append.2 ⟨quiet, quiet'⟩,
    picture⟩
  rw [asked', asked, List.append_assoc]
  rfl

/-- A step of a run follows another one only if that did not fail. -/
theorem andThen_eq_ok {r : Except Failure Unit × Live} {next : Live → Except Failure Unit × Live}
    (done : andThen r next = (.ok (), after)) :
    ∃ l, r = (.ok (), l) ∧ next l = (.ok (), after) := by
  obtain ⟨outcome, l⟩ := r
  cases outcome with
  | error e => cases done
  | ok _ => exact ⟨l, rfl, done⟩

/-- What both of two steps keep they keep one after the other, whether the first fails or not. -/
theorem rel_andThen {R : Live → Live → Prop}
    (trans : ∀ {l l' l'' : Live}, R l l' → R l' l'' → R l l'') {r : Except Failure Unit × Live}
    {next : Live → Except Failure Unit × Live} (first : R l r.2)
    (second : ∀ l', R l' (next l').2) : R l (andThen r next).2 := by
  obtain ⟨_ | _, l'⟩ := r
  · exact first
  · exact trans first (second l')

/-- A frame that is shown makes its requests and nothing else. -/
theorem present_ends (l : Live) (drawn : Except Failure Frame) :
    ∃ (made : List Request) (host : Host) (printed : Array String),
      (l.present drawn).2 = { l with host, requests := l.requests ++ made, printed } ∧
      (∀ r ∈ made, r.shows) ∧
      ((l.present drawn).1 = .ok () → ∃ frame, drawn = .ok frame ∧ made = [.show frame, .flip]) ∧
      (l.host.raises = [] → host.raises = []) := by
  cases drawn with
  | error e => exact ⟨[], l.host, l.printed, by simp [present], nofun, nofun, id⟩
  | ok frame =>
      obtain ⟨host₀, called, calm₀⟩ := l.call_ends
      have shows {made : List Request} {r : Request} (begins : made <+: [r]) (showing : r.shows) :
          ∀ r ∈ made, r.shows := fun r' inside =>
        List.mem_singleton.1 (begins.subset inside) ▸ showing
      rw [present]
      generalize l.call = r at called
      obtain ⟨e | _, l₀⟩ := r
      · exact ⟨[], host₀, l.printed, by simpa [andThen] using called, nofun, nofun, calm₀⟩
      obtain rfl : l₀ = _ := called
      obtain ⟨made, host, asked, begins, all, calm⟩ := ask_ends { l with host := host₀ } [.show frame]
      rw [andThen]
      generalize ask { l with host := host₀ } [.show frame] = r at asked all
      obtain ⟨e | _, l₁⟩ := r
      · exact ⟨made, host, l.printed, asked, shows begins rfl, nofun, calm ∘ calm₀⟩
      obtain rfl := all rfl
      obtain rfl : l₁ = _ := asked
      let lines := l.player.log.write "video"
        ("redraw " ++ Text.decimal frame.width ++ "x" ++ Text.decimal frame.height)
      let shown := Live.print { l with host, requests := l.requests ++ [Request.show frame] } lines
      obtain ⟨made', host', asked', begins', all', calm'⟩ := shown.ask_ends [.flip]
      refine ⟨[.show frame] ++ made', host', l.printed ++ lines, ?_,
        List.forall_mem_append.2 ⟨shows begins rfl, shows begins' rfl⟩, fun done => ?_,
        calm' ∘ calm ∘ calm₀⟩
      · have parts : l.requests ++ ([Request.show frame] ++ made') =
            l.requests ++ [Request.show frame] ++ made' := by simp
        rw [parts]
        exact asked'
      · exact ⟨frame, rfl, by rw [all' done]; rfl⟩

/-- A picture changes the canvas and makes its requests. -/
theorem paint_ends (l : Live) :
    ∃ (canvas : Canvas) (made : List Request) (host : Host) (printed : Array String),
      l.paint.2 = { l with player := { l.player with canvas }, host
                           requests := l.requests ++ made, printed } ∧
      (∀ r ∈ made, r.shows) ∧
      (l.paint.1 = .ok () → ∃ frame, made = [.show frame, .flip] ∧
        l.player.canvas.draw l.console.machine.display.buffer l.console.machine.display.width
          l.console.machine.display.height l.player.setup.scale = (.ok frame, canvas)) ∧
      (l.host.raises = [] → host.raises = []) := by
  unfold paint
  dsimp only
  generalize l.player.canvas.draw _ _ _ _ = drawing
  obtain ⟨drawn, canvas⟩ := drawing
  dsimp only
  generalize surfaced : (if canvas.serial = l.player.canvas.serial then (.ok (), l) else l.call) = r
  have kept : ∃ host, r.2 = { l with host } ∧ (l.host.raises = [] → host.raises = []) := by
    rw [← surfaced]
    split
    · exact ⟨l.host, rfl, id⟩
    · exact l.call_ends
  obtain ⟨e | _, l'⟩ := r <;> obtain ⟨host, rfl, calm⟩ := kept
  · exact ⟨l.player.canvas, [], host, l.printed, by simp [andThen], nofun, nofun, calm⟩
  · obtain ⟨made, host', printed, asked, shows, all, calm'⟩ :=
      Live.present_ends { l with host, player := { l.player with canvas } } drawn
    refine ⟨canvas, made, host', printed, asked, shows, fun done => ?_, calm' ∘ calm⟩
    obtain ⟨frame, rfl, made⟩ := all done
    exact ⟨frame, made, rfl⟩

/-- Painting shows the display. -/
theorem shows_paint (ready : l.Ready setup) (painted : l.paint = (.ok (), after)) :
    after.Ready setup ∧ after.console = l.console ∧
      after.Shows setup l.console.machine.display := by
  obtain ⟨canvas, made, host, printed, same, -, all, -⟩ := paint_ends l
  rw [painted] at same all
  obtain ⟨frame, rfl, drawn⟩ := all rfl
  obtain ⟨frame', drawn', picture⟩ :=
    l.player.canvas.draw_screen ready.stride ready.height ready.scale
  rw [ready.player] at drawn
  obtain ⟨sameFrame, rfl⟩ := Prod.mk.inj (drawn.symm.trans drawn')
  obtain rfl := Except.ok.inj sameFrame
  obtain rfl : after = _ := same
  have asked : (l.requests ++ [Request.show frame, Request.flip]).toList =
      l.requests.toList ++ .show frame :: .flip :: [] := by simp
  refine ⟨{ ready with opened := ?_ }, rfl, ?_⟩
  · rw [asked]
    exact List.mem_append_left _ ready.opened
  · exact ⟨l.requests.toList, [], frame, asked, ready.opened, nofun, ready.palette ▸ picture⟩

/-! ## One frame of a run -/

theorem Keeps.refl (l : Live) : l.Keeps l :=
  ⟨rfl, rfl, ⟨[], (List.append_nil _).symm, nofun⟩, .refl _⟩

theorem keeps_call (l : Live) : l.Keeps l.call.2 := { Keeps.refl l with }

/-- Keys and printed lines are not shown. -/
theorem keeps_strike (l : Live) (e : Event) : l.Keeps (l.strike e) := by
  cases e with
  | keyDown name =>
      rw [strike]
      split
      · exact .refl l
      · exact { Keeps.refl l with redraws := ⟨⟨rfl, rfl⟩, .inr ⟨rfl, rfl⟩⟩ }
  | keyUp name => exact { Keeps.refl l with redraws := ⟨⟨rfl, rfl⟩, .inr ⟨rfl, rfl⟩⟩ }
  | _ => exact .refl l

theorem strike_same (l : Live) (e : Event) : (l.strike e).player = l.player ∧
    (l.strike e).host = l.host ∧ (l.strike e).requests = l.requests := by
  cases e with
  | keyDown name =>
      rw [strike]
      split <;> exact ⟨rfl, rfl, rfl⟩
  | _ => exact ⟨rfl, rfl, rfl⟩

/-- What calls and keys keep the events of a frame keep. -/
theorem rel_receive {R : Live → Live → Prop} (refl : ∀ l, R l l)
    (trans : ∀ {l l' l'' : Live}, R l l' → R l' l'' → R l l'') (call : ∀ l : Live, R l l.call.2)
    (strike : ∀ (l : Live) (e : Event), R l (l.strike e)) (l : Live) (batch : List Event) :
    R l (l.receive batch).2 := by
  have event (l : Live) (e : Event) : R l (l.event e).2 := by
    refine rel_andThen (R := R) trans ?_ fun l' => strike l' e
    split
    · exact call l
    · exact refl l
  have events (l : Live) : R l (l.events batch).2 := by
    induction batch generalizing l with
    | nil => exact refl l
    | cons e rest ih => exact rel_andThen (R := R) trans (event l e) ih
  exact rel_andThen (R := R) trans (call l) events

theorem keeps_receive (l : Live) (batch : List Event) : l.Keeps (l.receive batch).2 :=
  rel_receive .refl .trans keeps_call keeps_strike l batch

/-- The instructions of a frame never fail the run. -/
theorem keeps_execute (l : Live) : ∃ after, l.execute = (.ok (), after) ∧ l.Keeps after := by
  have frame := frame_keeps l.player l.console.machine
  obtain ⟨n, answers⟩ := frame.answers
  refine ⟨l.execute.2, ?_, ?_⟩
  · rw [execute, answers]
    rfl
  · exact { Keeps.refl l with
      setup := frame.setup
      palette := congrArg Canvas.palette frame.canvas
      redraws := frame.redraws }

theorem requests_afterTone (l : Live) (r : Tone.Result) :
    (l.afterTone r).2.requests.toList = l.requests.toList ++ r.requests :=
  Array.toList_appendList ..

theorem keeps_updateTone (l : Live) : l.Keeps l.updateTone.2 := by
  cases held : l.player.tone with
  | none =>
      rw [updateTone, held]
      exact .refl l
  | some tone =>
      rw [updateTone, held]
      exact { Keeps.refl l with
        requests := ⟨_, requests_afterTone l _,
          fun r => Tone.leavesWindow_set l.player.log tone l.host _ r⟩ }

theorem keeps_wait (l : Live) (rate : Nat) : l.Keeps (l.ask [.wait rate]).2 := by
  obtain ⟨made, host, asked, begins, -⟩ := l.ask_ends [.wait rate]
  rw [asked]
  refine { Keeps.refl l with requests := ⟨made, Array.toList_appendList .., fun r inside => ?_⟩ }
  rw [List.mem_singleton.1 (begins.subset inside)]
  rfl

/-- When the picture is new the machine asks for it, and when it asks the picture is painted. -/
theorem shows_refresh (ready : l.Ready setup) (shown : l.Shows setup d)
    (asks : l.console.machine.redraw = true ∨ l.console.machine.display = d)
    (refreshed : l.refresh = (.ok (), after)) :
    after.Ready setup ∧ after.Shows setup after.console.machine.display := by
  let taken := { l with console := { l.console with machine := l.console.machine.takeRedraw.2 } }
  cases redraw : l.console.machine.redraw with
  | true =>
      have painted : taken.paint = (.ok (), after) := by
        rw [← refreshed]
        simp only [refresh, Machine.takeRedraw, redraw]
        rfl
      obtain ⟨ready, console, picture⟩ := shows_paint (l := taken) { ready with } painted
      exact ⟨ready, console ▸ picture⟩
  | false =>
      rw [redraw] at asks
      obtain rfl := asks.resolve_left Bool.false_ne_true
      have kept : l.refresh = (.ok (), taken) := by
        simp only [refresh, Machine.takeRedraw, redraw]
        rfl
      obtain rfl : taken = after := (Prod.mk.inj (kept.symm.trans refreshed)).2
      exact ⟨{ ready with }, shown⟩

/-- At the end of a frame the window shows the display, if it did at the end of the frame
before. -/
theorem shows_turn (ready : l.Ready setup) (shown : l.Shows setup l.console.machine.display)
    {batch : List Event} (done : l.turn batch = (.ok (), after)) :
    after.Ready setup ∧ after.Shows setup after.console.machine.display := by
  obtain ⟨l₄, done, waits⟩ := andThen_eq_ok done
  obtain ⟨l₃, done, refreshes⟩ := andThen_eq_ok done
  obtain ⟨l₂, done, tones⟩ := andThen_eq_ok done
  obtain ⟨l₁, receives, executes⟩ := andThen_eq_ok done
  -- up to the refresh nothing touches the window
  have keeps : l.Keeps l₃ := by
    obtain ⟨l₂', executed, frame⟩ := keeps_execute l₁
    obtain rfl := (Prod.mk.inj (executes.symm.trans executed)).2
    have start := keeps_receive l batch
    have tone := keeps_updateTone l₂
    rw [receives] at start
    rw [tones] at tone
    exact start.trans (frame.trans tone)
  obtain ⟨readyAfter, picture⟩ := shows_refresh (ready.keeps keeps) (shown.keeps keeps)
    (keeps.redraws.asks.imp_right (·.2)) refreshes
  have waited := keeps_wait l₄ frameRate
  have same : after.console = l₄.console := by
    obtain ⟨made, host, asked, -⟩ := l₄.ask_ends [.wait frameRate]
    rw [waits] at asked
    exact (congrArg Live.console asked :)
  rw [waits] at waited
  exact ⟨readyAfter.keeps waited, same ▸ picture.keeps waited⟩

/-! ## A whole run -/

/-- The run at the end of each of its frames, up to one that fails. -/
def laps (l : Live) : List (List Event) → List Live
  | [] =>
      match l.turn [.quit] with
      | (.ok (), after) => [after]
      | (.error _, _) => []
  | batch :: rest =>
      match l.turn batch with
      | (.ok (), after) => after :: if batch.any Event.closes then [] else after.laps rest
      | (.error _, _) => []

/-- What a frame brings about, if something it keeps was there before, holds at the end of every
frame. -/
theorem forall_mem_laps {P Q : Live → Prop}
    (turns : ∀ {l after : Live} {batch : List Event}, P l → l.turn batch = (.ok (), after) →
      P after ∧ Q after)
    (first : P l) (batches : List (List Event)) : ∀ after ∈ l.laps batches, Q after := by
  induction batches generalizing l with
  | nil =>
      rcases turned : l.turn [.quit] with ⟨_ | _, l'⟩ <;> simp only [laps, turned]
      · exact List.forall_mem_nil _
      · exact List.forall_mem_singleton.2 (turns first turned).2
  | cons batch rest ih =>
      rcases turned : l.turn batch with ⟨_ | _, l'⟩ <;> simp only [laps, turned]
      · exact List.forall_mem_nil _
      · obtain ⟨kept, holds⟩ := turns first turned
        refine List.forall_mem_cons.2 ⟨holds, ?_⟩
        split
        · exact List.forall_mem_nil _
        · exact ih kept

theorem shows_of_mem_laps (ready : l.Ready setup)
    (shown : l.Shows setup l.console.machine.display) (batches : List (List Event)) :
    ∀ after ∈ l.laps batches, after.Shows setup after.console.machine.display := by
  let P (l : Live) := l.Ready setup ∧ l.Shows setup l.console.machine.display
  have turns {l after : Live} {batch : List Event} (start : P l)
      (turned : l.turn batch = (.ok (), after)) :
      P after ∧ after.Shows setup after.console.machine.display := by
    have ends := shows_turn start.1 start.2 turned
    exact ⟨ends, ends.2⟩
  exact forall_mem_laps turns ⟨ready, shown⟩ batches

/-- The making of a tone changes nothing but the tone: the player gets a new one, or none, or the
making fails and the player keeps its own. -/
theorem makeTone_ends (l : Live) :
    ∃ (tone : Option Tone) (host : Host) (printed : Array String),
      l.makeTone.2 = { l with player := { l.player with tone }, host, printed } ∧
      ((∀ t ∈ tone, t.Fresh) ∨ (∃ e, l.makeTone.1 = .error e) ∧ tone = l.player.tone) := by
  unfold makeTone
  split
  · exact ⟨_, _, _, rfl, .inr ⟨⟨_, rfl⟩, rfl⟩⟩
  · exact ⟨none, _, _, rfl, .inl nofun⟩
  · split
    · rename_i made
      refine ⟨_, _, _, rfl, .inl ?_⟩
      rintro t ⟨⟩
      exact Tone.fresh_of_create made
    · exact ⟨none, _, _, rfl, .inl nofun⟩
    · exact ⟨_, _, _, rfl, .inr ⟨⟨_, rfl⟩, rfl⟩⟩

/-- What is asked of the host before the window is opened. -/
def overture (title : String) : List Request :=
  [.prepareMixer 44100 (-16) 1 512, .start, .title ("CHIP-8 - " ++ title)]

/-- The run with a tone, or none, and with its window open and nothing in it. -/
def opened (title : String) (l : Live) (tone : Option Tone) (host : Host)
    (printed : Array String) : Live :=
  { l with
    player := { l.player with tone }
    host
    requests := l.requests ++ overture title ++ [Request.openWindow
      (64 * l.player.setup.scale) (32 * l.player.setup.scale) l.player.setup.fullscreen]
    printed }

/-- A window that is opened has a new tone or none, or the player is muted; and then the first
picture is painted. -/
theorem openWindow_eq_ok {title : String} (done : l.openWindow title = (.ok (), after)) :
    ∃ (tone : Option Tone) (host : Host) (printed : Array String),
      (l.opened title tone host printed).paint = (.ok (), after) ∧
      if l.player.setup.mute then tone = l.player.tone else ∀ t ∈ tone, t.Fresh := by
  obtain ⟨l₄, done, painted⟩ := andThen_eq_ok done
  obtain ⟨l₃, done, clock⟩ := andThen_eq_ok done
  obtain ⟨l₂, done, asks⟩ := andThen_eq_ok done
  obtain ⟨l₁, begins, made⟩ := andThen_eq_ok done
  obtain ⟨requests₁, host₁, same₁, -, all₁, -⟩ := l.ask_ends (overture title)
  obtain ⟨requests₃, host₃, same₃, -, all₃, -⟩ := l₂.ask_ends [.openWindow
    (64 * l.player.setup.scale) (32 * l.player.setup.scale) l.player.setup.fullscreen]
  rw [asks] at same₃ all₃
  have begins : l.ask (overture title) = (.ok (), l₁) := begins
  rw [begins] at same₁ all₁
  obtain rfl : l₁ = _ := same₁
  obtain rfl : l₃ = _ := same₃
  obtain rfl := all₁ rfl
  obtain rfl := all₃ rfl
  obtain rfl : (Live.call _).2 = l₄ := congrArg Prod.snd clock
  cases mute : l.player.setup.mute with
  | true =>
      rw [mute, if_pos rfl] at made
      obtain rfl := (Prod.mk.inj made).2
      exact ⟨l.player.tone, _, _, painted, rfl⟩
  | false =>
      rw [mute, if_neg Bool.false_ne_true] at made
      obtain ⟨tone, host, printed, same, fresh⟩ :=
        makeTone_ends { l with host := host₁, requests := l.requests ++ overture title }
      rw [made] at same fresh
      obtain rfl : l₂ = _ := same
      exact ⟨tone, _, _, painted, fresh.resolve_right (by simp)⟩

/-- A window that was opened shows the machine. -/
theorem shows_openWindow {title : String} (stride : l.console.machine.display.stride = 8)
    (height : l.console.machine.display.height = 32) (scale : 0 < l.player.setup.scale)
    (palette : l.player.canvas.palette = l.player.setup.palette)
    (opened : l.openWindow title = (.ok (), after)) :
    after.Ready l.player.setup ∧ after.Shows l.player.setup after.console.machine.display := by
  obtain ⟨tone, host, printed, painted, -⟩ := openWindow_eq_ok opened
  have ready : (l.opened title tone host printed).Ready l.player.setup :=
    { player := rfl, stride, height, scale, palette, opened := by simp [Live.opened] }
  obtain ⟨readyAfter, console, picture⟩ := shows_paint ready painted
  exact ⟨readyAfter, console ▸ picture⟩

/-- A console that a program was inserted into has the standard screen. -/
theorem display_of_insert {image : Image} {c : Console} (inserted : insert image = .ok c) :
    c.machine.display = .standard := by
  have made : Console.create Generator.standardSeed image.start image.data = .ok c := by
    rw [insert] at inserted
    split at inserted
    · rename_i made
      exact made.trans (congrArg Except.ok (Except.ok.inj inserted))
    · cases inserted
  have screen : ((Machine.standard.seed Generator.standardSeed).jump image.start).display =
      .standard := rfl
  simp only [Console.create] at made
  generalize (Machine.standard.seed Generator.standardSeed).jump image.start = m at screen made
  split at made
  · cases made
    exact screen
  · cases loaded : m.load image.start image.data with
    | error _ =>
        rw [loaded] at made
        cases made
    | ok machine =>
        rw [loaded] at made
        cases made
        obtain ⟨memory, -, rfl⟩ := Operation.bind_eq_ok
          (fun memory : Memory => Machine.jump { m with memory } image.start) loaded
        exact screen

/-- The window is never behind the machine. Once it is open, and then at the end of every frame
of the run, the last frame that it was given shows the display. -/
theorem shows_laps (p : Player) (palette : p.canvas.palette = p.setup.palette)
    (scale : 0 < p.setup.scale) (host : Host) (title : String) (printed : Array String)
    {image : Image} {c : Console} (inserted : insert image = .ok c) {l : Live}
    (opened : openWindow title { player := p, console := c, host, printed } = (.ok (), l)) :
    l.Shows p.setup l.console.machine.display ∧
      ∀ after ∈ l.laps l.host.frames, after.Shows p.setup after.console.machine.display := by
  have screen := display_of_insert inserted
  obtain ⟨ready, picture⟩ := shows_openWindow (l := { player := p, console := c, host, printed })
    (by rw [screen]; rfl) (by rw [screen]; rfl) scale palette opened
  exact ⟨picture, shows_of_mem_laps ready picture _⟩

/-- A program that draws a glyph and faults, in a window that is closed a frame later. -/
theorem shows_laps_after_a_fault :
    let p := Player.create { budget := 3, mute := true } .silent
    let host : Host := { frames := [[]] }
    let image : Image := { data := [0xA0, 0x50, 0xD0, 0x05, 0xFF, 0xFF] }
    ∃ c l, insert image = .ok c ∧
      openWindow "glyph" { player := p, console := c, host } = (.ok (), l) ∧
      (l.laps l.host.frames).map
        (fun after => (after.player.halt, after.console.machine.display.lit 0 0)) =
          [(some (.illegalInstruction 0xFFFF), true), (some (.illegalInstruction 0xFFFF), true)] ∧
      ∀ after ∈ l.laps l.host.frames, after.Shows p.setup after.console.machine.display := by
  intro p host image
  let c := (insert image).toOption.getD { machine := .standard }
  let opened := openWindow "glyph" { player := p, console := c, host }
  have inserted : insert image = .ok c := by
    have taken {r : Except Failure Console} (ok : r.isOk = true) :
        r = .ok (r.toOption.getD { machine := .standard }) := by
      cases r with
      | error _ => cases ok
      | ok _ => rfl
    exact taken (by decide +kernel)
  have succeeds : opened.1 = .ok () := by decide +kernel
  have opens : opened = (.ok (), opened.2) := by rw [← succeeds]
  refine ⟨c, opened.2, inserted, opens, by decide +kernel, ?_⟩
  exact (shows_laps p rfl (by decide) host "glyph" #[] inserted opens).2

end Player.Live

end Chip8
