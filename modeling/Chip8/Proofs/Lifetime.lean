/-
# Chip8.Proofs.Lifetime — what frames and runs leave of a player

A player outlives its runs. It plays frames and runs in any order, and each starts with the player
that the one before has left (`Player.Later`). Some things about it never change: how it was set up,
what it logs, its fault once it is halted, and that it has no tone if it is muted
(`Player.Becomes`, `Later.becomes`).

A run is long, but it has few parts, and what all of them keep the run keeps: `Live.Steady` lists
the parts of a frame, and `Steady.turns` goes over the frames once and for all.
-/
import Chip8.Proofs.Opening

namespace Chip8

set_option autoImplicit false

namespace Player

namespace Live

/-! ## What every part of a frame keeps -/

/-- A relation between what was and what comes that every part of a frame keeps. -/
structure Steady (R : Live → Live → Prop) : Prop where
  refl (l : Live) : R l l
  trans {l l' l'' : Live} (first : R l l') (second : R l' l'') : R l l''
  call (l : Live) : R l l.call.2
  strike (l : Live) (e : Event) : R l (l.strike e)
  execute (l : Live) : R l l.execute.2
  updateTone (l : Live) : R l l.updateTone.2
  take (l : Live) (machine : Machine) (taken : machine = l.console.machine.takeRedraw.2) :
    R l { l with console := { l.console with machine } }
  paint (l : Live) : R l l.paint.2
  wait (l : Live) : R l (l.ask [.wait frameRate]).2

namespace Steady

variable {R : Live → Live → Prop} (steady : Steady R)

include steady

theorem andThen {l : Live} {r : Except Failure Unit × Live}
    {next : Live → Except Failure Unit × Live} (first : R l r.2)
    (second : ∀ l', R l' (next l').2) : R l (Live.andThen r next).2 :=
  rel_andThen (R := R) steady.trans first second

theorem receive (l : Live) (batch : List Event) : R l (l.receive batch).2 :=
  rel_receive steady.refl steady.trans steady.call steady.strike l batch

theorem refresh (l : Live) : R l l.refresh.2 := by
  have taken := steady.take l _ rfl
  unfold Live.refresh
  dsimp only
  split
  · exact steady.trans taken (steady.paint _)
  · exact taken

theorem turn (l : Live) (batch : List Event) : R l (l.turn batch).2 :=
  steady.andThen (steady.andThen (steady.andThen (steady.andThen (steady.receive l batch)
    steady.execute) steady.updateTone) steady.refresh) steady.wait

theorem turns (l : Live) (batches : List (List Event)) : R l (l.turns batches).2 := by
  induction batches generalizing l with
  | nil => exact steady.turn l [.quit]
  | cons batch rest ih =>
      rw [Live.turns]
      split
      · exact steady.turn l batch
      · exact steady.andThen (steady.turn l batch) ih

end Steady

end Live

/-! ## What a player keeps -/

/-- What a player keeps of itself: how it was set up, its log, a fault that halted it, and that it
is silent if it is muted. -/
structure Becomes (p after : Player) : Prop where
  setup : after.setup = p.setup
  log : after.log = p.log
  halt : ∀ f, p.halt = some f → after.halt = some f
  silent : p.setup.mute = true → p.tone = none → after.tone = none

theorem Becomes.refl (p : Player) : p.Becomes p := ⟨rfl, rfl, fun _ => id, fun _ => id⟩

theorem Becomes.trans {p p' p'' : Player} (first : p.Becomes p') (second : p'.Becomes p'') :
    p.Becomes p'' where
  setup := second.setup.trans first.setup
  log := second.log.trans first.log
  halt := fun f halted => second.halt f (first.halt f halted)
  silent := fun mute silent =>
    second.silent (first.setup ▸ mute) (first.silent mute silent)

/-- A player that is halted does nothing in a frame. -/
theorem frame_of_halted {p : Player} {f : Fault} (halted : p.halt = some f) (m : Machine) :
    p.frame m = ⟨.ok 0, p, m, #[]⟩ := by
  rw [frame, halted]
  rfl

theorem becomes_frame (p : Player) (m : Machine) : p.Becomes (p.frame m).player := by
  have keeps := frame_keeps p m
  refine ⟨keeps.setup, keeps.log, fun f halted => ?_, fun _ silent => ?_⟩
  · rw [frame_of_halted halted]
    exact halted
  · rw [keeps.tone]
    exact silent

namespace Live

variable {l after : Live}

/-- A tone is switched, but not made. -/
theorem becomes_afterTone {t : Tone} (held : l.player.tone = some t) (r : Tone.Result) :
    l.player.Becomes (l.afterTone r).2.player where
  setup := rfl
  log := rfl
  halt := fun _ => id
  silent := fun _ silent => by
    rw [held] at silent
    cases silent

theorem becomes_paint (l : Live) : l.player.Becomes l.paint.2.player := by
  obtain ⟨canvas, made, host, printed, painted, -⟩ := paint_ends l
  rw [painted]
  exact ⟨rfl, rfl, fun _ => id, fun _ => id⟩

/-- Every part of a frame keeps what a player keeps. -/
theorem steady_becomes : Steady fun l after => l.player.Becomes after.player where
  refl := fun l => .refl l.player
  trans := .trans
  call := fun l => .refl l.player
  strike := fun l e => (strike_same l e).1 ▸ .refl l.player
  execute := fun l => becomes_frame l.player l.console.machine
  updateTone := fun l => by
    cases held : l.player.tone with
    | none =>
        rw [updateTone, held]
        exact .refl l.player
    | some t =>
        rw [updateTone, held]
        exact becomes_afterTone held _
  take := fun l _ _ => .refl l.player
  paint := becomes_paint
  wait := fun l => .refl l.player

/-- A host that does not raise does not begin to. -/
theorem steady_calm : Steady fun l after => l.host.raises = [] → after.host.raises = [] where
  refl := fun _ => id
  trans := fun first second => second ∘ first
  call := fun l calm => by rw [call_of_calm calm]; exact calm
  strike := fun l e calm => by
    rw [(strike_same l e).2.1]
    exact calm
  execute := fun _ => id
  updateTone := fun l calm => by
    cases held : l.player.tone with
    | none =>
        rw [updateTone, held]
        exact calm
    | some t =>
        rw [updateTone, held]
        exact (Tone.switches_set l.player.log t l.host _).calm calm
  take := fun _ _ _ => id
  paint := fun l => by
    obtain ⟨canvas, made, host, printed, painted, -, -, calm⟩ := paint_ends l
    rw [painted]
    exact calm
  wait := fun l => by
    obtain ⟨made, host, asked, -, -, calm⟩ := l.ask_ends [.wait frameRate]
    rw [asked]
    exact calm

theorem calm_openWindow (title : String) {l : Live} (calm : l.host.raises = []) :
    (l.openWindow title).2.host.raises = [] := by
  obtain ⟨mixer, printed, opens⟩ := openWindow_of_calm title calm
  rw [opens]
  exact steady_calm.paint _ calm

theorem becomes_leave (l : Live) : l.player.Becomes l.leave.2.player := by
  refine steady_becomes.andThen ?_ fun l' => .refl l'.player
  cases held : l.player.tone with
  | none => exact .refl l.player
  | some t => exact becomes_afterTone held _

/-- A tone is made for a player that is not muted. -/
theorem becomes_openWindow (title : String) (l : Live) :
    l.player.Becomes (l.openWindow title).2.player := by
  obtain ⟨canvas, tone, same, new⟩ := (opens_openWindow title l).player
  rw [same]
  refine ⟨rfl, rfl, fun _ => id, fun mute silent => ?_⟩
  rcases new with kept | ⟨sounding, -⟩
  · exact kept.trans silent
  · cases sounding.symm.trans mute

theorem becomes_play (title : String) (l : Live) : l.player.Becomes (l.play title).2.player :=
  steady_becomes.andThen (becomes_openWindow title l) fun l' =>
    (steady_becomes.turns l' l'.host.frames).trans (becomes_leave _)

end Live

theorem becomes_run (p : Player) (look : Path → Path.Target) (host : Host) :
    p.Becomes (p.run look host).player := by
  have ends := run_ends p look host
  generalize p.opening look host = opening, p.run look host = r at ends ⊢
  cases ends with
  | unopened => exact .refl p
  | @played title image c found => exact Live.becomes_play title (.start p image c host)

/-- What a player is after frames and runs. -/
inductive Later (p : Player) : Player → Prop where
  | same : Later p p
  | frame {p' : Player} (later : Later p p') (m : Machine) : Later p (p'.frame m).player
  | run {p' : Player} (later : Later p p') (look : Path → Path.Target) (host : Host) :
      Later p (p'.run look host).player

theorem Later.becomes {p p' : Player} (later : Later p p') : p.Becomes p' := by
  induction later with
  | same => exact .refl p
  | frame later m ih => exact ih.trans (becomes_frame _ m)
  | run later look host ih => exact ih.trans (becomes_run _ look host)

/-- A muted player never has a tone. -/
theorem Later.silent_of_mute {setup : Setup} {log : Log.Filter} {p : Player}
    (later : Later (create setup log) p) (mute : p.setup.mute = true) : p.tone = none := by
  have becomes := later.becomes
  exact becomes.silent (becomes.setup ▸ mute) rfl

end Player

end Chip8
