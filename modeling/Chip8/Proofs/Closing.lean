/-
# Chip8.Proofs.Closing — a window that was opened is closed

A run starts the window system, opens a window and goes frame by frame. Whatever ends the frames,
the tone is shut down and the window system is left, once and as the last thing, unless the host
raises when the tone is stopped (`finish_ends`). That rests on what every part of a run keeps
(`Stays`): nothing but the end of a run asks to leave, and once the tone was played its channel is
held, so that it can be stopped at the end.

The end is only reached from the frames. A run that fails before them has started the window system
and does not leave it. So it is where the host raises until then, and where the first picture is
refused, because the scale is not positive (`openWindow_ne_ok_of_flat`). `closed_of_started` is the
law for all runs, and `unclosed_at_scale_zero` is a run that is not closed.
-/
import Chip8.Proofs.Lifetime

namespace Chip8

set_option autoImplicit false

namespace Request

def starts : Request → Bool
  | .start => true
  | _ => false

theorem start_mem {requests : List Request} (asked : requests.any starts = true) :
    .start ∈ requests := by
  obtain ⟨r, inside, starts⟩ := List.any_eq_true.1 asked
  cases r <;> first | exact inside | cases starts

def quits : Request → Bool
  | .quit => true
  | _ => false

theorem quit_notMem {requests : List Request} (unasked : requests.all (fun r => !r.quits) = true) :
    .quit ∉ requests := fun inside => by
  have left := List.all_eq_true.1 unasked .quit inside
  cases left

end Request

/-- Every time the tone was played it was stopped later. -/
def Request.Silenced (requests : List Request) : Prop :=
  ∀ before after, requests = before ++ .play :: after → .stop ∈ after

/-- What is stopped at the end is silenced, whatever was played before. -/
theorem Request.silenced_stop (requests : List Request) : Silenced (requests ++ [.stop]) := by
  intro before after same
  have last := congrArg List.getLast? same
  rw [List.getLast?_concat, List.getLast?_append, List.getLast?_cons] at last
  cases later : after.getLast? with
  | none =>
      rw [later] at last
      cases last
  | some r =>
      rw [later] at last
      cases last
      exact List.mem_of_getLast? later

theorem Request.silenced_of_unplayed {requests : List Request} (unplayed : .play ∉ requests) :
    Silenced requests := by
  intro before after same
  refine absurd ?_ unplayed
  rw [same]
  exact List.mem_append_right _ List.mem_cons_self

/-- The next call on the host raises `e`. -/
def Host.Raises (h : Host) (e : HostError) : Prop := h.raises.head? = some (some e)

/-- One request is made, and raises what the host raises next. -/
theorem Host.ask_singleton (h : Host) (r : Request) :
    (∃ e host, h.Raises e ∧ h.ask [r] = (.error e.failure, [r], host)) ∨
      (∀ e, ¬h.Raises e) ∧ ∃ host, h.ask [r] = (.ok (), [r], host) := by
  unfold Raises ask call
  cases h.raises with
  | nil => exact .inr ⟨fun _ raises => (by cases raises), _, rfl⟩
  | cons told rest =>
      cases told with
      | none => exact .inr ⟨fun _ raises => (by cases raises), _, rfl⟩
      | some e => exact .inl ⟨e, _, rfl, rfl⟩

namespace Tone

/-- A tone is shut down, unless it holds a channel and the host raises when it is stopped. -/
theorem shutdown_ends (t : Tone) (h : Host) :
    (∃ e, t.channel = true ∧ h.Raises e ∧ (t.shutdown h).outcome = .error e.failure ∧
        (t.shutdown h).requests = [.stop]) ∨
      (t.channel = true → ∀ e, ¬h.Raises e) ∧ (t.shutdown h).outcome = .ok () ∧
        (t.shutdown h).requests = (if t.channel then [.stop] else []) ∧
        (t.shutdown h).tone.Fresh := by
  unfold shutdown silence
  cases held : t.channel with
  | false => exact .inr ⟨nofun, rfl, rfl, rfl, rfl, rfl⟩
  | true =>
      rw [if_pos rfl]
      rcases h.ask_singleton .stop with ⟨e, host, raises, asked⟩ | ⟨quiet, host, asked⟩
      · rw [asked]
        exact .inl ⟨e, rfl, raises, rfl, rfl⟩
      · rw [asked]
        exact .inr ⟨fun _ => quiet, rfl, rfl, rfl, rfl, rfl⟩

end Tone

namespace Player

open Live

namespace Live

def holds (l : Live) : Bool := l.player.tone.any (·.channel)

/-- `after` comes after `l`. Nothing was left in between, and if the tone was played it holds its
channel. -/
structure Stays (l after : Live) : Prop where
  requests : ∃ more, after.requests.toList = l.requests.toList ++ more ∧ .quit ∉ more ∧
    (.play ∈ more → after.holds)
  holds : l.holds → after.holds

variable {l l' after : Live}

theorem Stays.trans {l'' : Live} (first : l.Stays l') (second : l'.Stays l'') : l.Stays l'' := by
  obtain ⟨more, asked, unleft, played⟩ := first.requests
  obtain ⟨more', asked', unleft', played'⟩ := second.requests
  refine ⟨⟨more ++ more', by rw [asked', asked, List.append_assoc], ?_, ?_⟩,
    second.holds ∘ first.holds⟩
  · exact List.not_mem_append unleft unleft'
  · intro played''
    rcases List.mem_append.1 played'' with earlier | later
    · exact second.holds (played earlier)
    · exact played' later

/-- Requests that neither play nor leave may be added while the tone stays as it is. -/
theorem stays_of_asked (more : List Request)
    (asked : after.requests.toList = l.requests.toList ++ more)
    (tone : after.player.tone = l.player.tone) (unleft : .quit ∉ more) (unplayed : .play ∉ more) :
    l.Stays after where
  requests := ⟨more, asked, unleft, fun played => absurd played unplayed⟩
  holds := by
    rw [Live.holds, Live.holds, tone]
    exact id

/-- Nothing may be asked at all. -/
theorem stays_of_same (requests : after.requests = l.requests)
    (tone : after.player.tone = l.player.tone) : l.Stays after :=
  stays_of_asked [] (by rw [requests, List.append_nil]) tone nofun nofun

/-! ## The parts of a frame -/

theorem stays_strike (l : Live) (e : Event) : l.Stays (l.strike e) :=
  stays_of_same (strike_same l e).2.2 (by rw [(strike_same l e).1])

theorem stays_execute (l : Live) : l.Stays l.execute.2 :=
  stays_of_same rfl (frame_keeps l.player l.console.machine).tone

theorem stays_updateTone (l : Live) : l.Stays l.updateTone.2 := by
  cases held : l.player.tone with
  | none =>
      rw [updateTone, held]
      exact stays_of_same rfl rfl
  | some t =>
      rw [updateTone, held]
      have switches := Tone.switches_set l.player.log t l.host
        (l.console.machine.beeping && l.player.halt.isNone)
      have unleft : .quit ∉ (t.set l.player.log l.host
          (l.console.machine.beeping && l.player.halt.isNone)).requests :=
        fun left => Bool.false_ne_true (switches.sounds .quit left)
      refine ⟨⟨_, requests_afterTone l _, unleft, switches.holds.1⟩, ?_⟩
      rw [Live.holds, held]
      exact switches.holds.2

/-- What is asked for may be neither to leave nor to play. -/
theorem stays_ask (l : Live) {requests : List Request} (unleft : .quit ∉ requests)
    (unplayed : .play ∉ requests) : l.Stays (l.ask requests).2 := by
  obtain ⟨made, host, asked, begins, -⟩ := l.ask_ends requests
  rw [asked]
  exact stays_of_asked made (Array.toList_appendList ..) rfl
    (fun left => unleft (begins.subset left)) fun played => unplayed (begins.subset played)

theorem stays_paint (l : Live) : l.Stays l.paint.2 := by
  obtain ⟨canvas, made, host, printed, painted, shows, -⟩ := paint_ends l
  rw [painted]
  exact stays_of_asked made (Array.toList_appendList ..) rfl
    (fun left => Bool.false_ne_true (shows .quit left))
    fun played => Bool.false_ne_true (shows .play played)

/-- Every part of a frame stays in the window. -/
theorem steady_stays : Steady Stays where
  refl := fun _ => stays_of_same rfl rfl
  trans := .trans
  call := fun _ => stays_of_same rfl rfl
  strike := stays_strike
  execute := stays_execute
  updateTone := stays_updateTone
  take := fun _ _ _ => stays_of_same rfl rfl
  paint := stays_paint
  wait := fun l => stays_ask l (by simp) (by simp)

/-! ## The whole run -/

/-- The tone of a run cannot be stopped: it holds a channel, and the host raises `e`. -/
def Stuck (l : Live) (e : HostError) : Prop := l.holds = true ∧ l.host.Raises e

/-- To leave the window system is asked for even if the host raises. -/
theorem ask_quit (l : Live) :
    (l.ask [.quit]).2.requests.toList = l.requests.toList ++ [.quit] ∧
      (l.ask [.quit]).2.player = l.player := by
  rw [ask]
  rcases l.host.ask_singleton .quit with ⟨e, host, -, asked⟩ | ⟨-, host, asked⟩ <;> rw [asked]
  · exact ⟨Array.toList_appendList .., rfl⟩
  · exact ⟨Array.toList_appendList .., rfl⟩

/-- To leave is to stop a tone that holds its channel, to shut it down, and to leave the window
system. If the tone cannot be stopped nothing else is done. -/
theorem leave_ends (l : Live) :
    (∃ e, l.Stuck e ∧ l.leave.1 = .error e.failure ∧
        l.leave.2.requests.toList = l.requests.toList ++ [.stop]) ∨
      (∀ e, ¬l.Stuck e) ∧
        l.leave.2.requests.toList =
          l.requests.toList ++ (if l.holds then [.stop] else []) ++ [.quit] ∧
        ∀ t ∈ l.leave.2.player.tone, t.Fresh := by
  unfold leave Stuck holds
  cases tone : l.player.tone with
  | none =>
      obtain ⟨asked, same⟩ := ask_quit l
      refine .inr ⟨by simp, ?_, fun t held => ?_⟩
      · simpa [andThen] using asked
      · have held : t ∈ (l.ask [.quit]).2.player.tone := held
        rw [same, tone] at held
        cases held
  | some t =>
      dsimp only [Option.any_some]
      have asked := requests_afterTone l (t.shutdown l.host)
      have result : l.afterTone (t.shutdown l.host) =
          ((t.shutdown l.host).outcome, (l.afterTone (t.shutdown l.host)).2) := rfl
      have player : (l.afterTone (t.shutdown l.host)).2.player.tone = (t.shutdown l.host).tone :=
        rfl
      generalize (l.afterTone (t.shutdown l.host)).2 = l' at asked result player
      rw [result]
      rcases t.shutdown_ends l.host with
        ⟨e, held, raises, outcome, requests⟩ | ⟨quiet, outcome, requests, down⟩
      · rw [outcome]
        exact .inl ⟨e, ⟨held, raises⟩, rfl, by rw [andThen, asked, requests]⟩
      · rw [outcome, andThen]
        obtain ⟨asked', same⟩ := ask_quit l'
        refine .inr ⟨fun e stuck => quiet stuck.1 e stuck.2, ?_, fun t' held => ?_⟩
        · rw [asked', asked, requests]
        · rw [same, player] at held
          cases held
          exact down

/-- A run in a window is over when the window cannot be opened, and else when its frames are. -/
theorem play_eq (title : String) (l : Live) :
    (∃ e after, l.openWindow title = (.error e, after) ∧ l.play title = (.error e, after)) ∨
      ∃ opened, l.openWindow title = (.ok (), opened) ∧
        l.play title = finish (opened.turns opened.host.frames) := by
  unfold play
  rcases l.openWindow title with ⟨e | _, after⟩
  · exact .inl ⟨e, after, rfl, rfl⟩
  · exact .inr ⟨after, rfl, rfl⟩

end Live

/-- A run has given back what it took of its host. The window system was left, once and as the
last thing; before that the tone was silenced, and it was shut down. -/
structure RunResult.Closed (r : RunResult) : Prop where
  requests : ∃ earlier, r.requests.toList = earlier ++ [.quit] ∧ .quit ∉ earlier ∧
    Request.Silenced earlier
  tone : ∀ t, r.player.tone = some t → t.playing = false ∧ t.channel = false ∧ t.wave = none

/-- Nothing is left when a window is opened, and nothing is played. -/
theorem unleft_openWindow (title : String) {l : Live} (fresh : l.requests = #[]) :
    .quit ∉ (l.openWindow title).2.requests.toList ∧
      .play ∉ (l.openWindow title).2.requests.toList := by
  obtain ⟨more, asked, opens⟩ := (opens_openWindow title l).requests
  rw [asked, fresh]
  exact ⟨fun left => Bool.false_ne_true (opens .quit (by simpa using left)),
    fun played => Bool.false_ne_true (opens .play (by simpa using played))⟩

/-- The frames of a run, and what is left when they are over. -/
theorem finish_ends {opened : Live} (unleft : .quit ∉ opened.requests.toList)
    (unplayed : .play ∉ opened.requests.toList) (batches : List (List Event)) :
    let ended := opened.turns batches
    let r := RunResult.ofLive (finish ended)
    (∃ e, ended.2.Stuck e ∧ r.outcome = .error e.failure ∧
        r.requests.toList = ended.2.requests.toList ++ [.stop] ∧ .quit ∉ r.requests.toList) ∨
      (∀ e, ¬ended.2.Stuck e) ∧ r.Closed := by
  intro ended r
  obtain ⟨more, asked, unleft', played⟩ := (steady_stays.turns opened batches).requests
  have unleft : .quit ∉ ended.2.requests.toList := by
    rw [asked]
    exact List.not_mem_append unleft unleft'
  have held : .play ∈ ended.2.requests.toList → ended.2.holds := by
    rw [asked]
    exact fun inside => played ((List.mem_append.1 inside).resolve_left unplayed)
  rcases leave_ends ended.2 with ⟨e, stuck, outcome, requests⟩ | ⟨free, requests, down⟩
  · refine .inl ⟨e, stuck, ?_, requests, ?_⟩
    · show ended.2.leave.1.bind _ = _
      rw [outcome]
      rfl
    · show .quit ∉ ended.2.leave.2.requests.toList
      rw [requests]
      exact List.not_mem_append unleft (by simp)
  · refine .inr ⟨free, ⟨_, requests, List.not_mem_append unleft (by split <;> simp), ?_⟩, ?_⟩
    · cases channel : ended.2.holds with
      | true => exact Request.silenced_stop _
      | false =>
          rw [channel] at held
          refine Request.silenced_of_unplayed fun played => Bool.false_ne_true (held ?_)
          simpa using played
    · exact fun t sounding => ⟨(down t sounding).playing, (down t sounding).channel,
        (down t sounding).wave⟩

namespace Live

variable {title : String} {l : Live}

/-- A run that has asked for nothing yet ends with the failure of its opening, and the window system
is not left. If its window was opened, the run is closed, unless the tone cannot be stopped. -/
theorem play_closes (title : String) (fresh : l.requests = #[]) :
    let opening := l.openWindow title
    let ended := opening.2.turns opening.2.host.frames
    let r := RunResult.ofLive (l.play title)
    (∀ e, opening.1 = .error e → r.outcome = .error e ∧ .quit ∉ r.requests.toList) ∧
      (opening.1 = .ok () →
        (∀ e, ended.2.Stuck e → r.outcome = .error e.failure ∧ .quit ∉ r.requests.toList) ∧
          ((∀ e, ¬ended.2.Stuck e) → r.Closed)) := by
  obtain ⟨unleft, unplayed⟩ := unleft_openWindow title fresh
  rcases play_eq title l with ⟨e, after, failed, played⟩ | ⟨opened, opens, played⟩
  · rw [failed] at unleft ⊢
    rw [played]
    exact ⟨fun e' same => ⟨same, unleft⟩, nofun⟩
  · rw [opens] at unleft unplayed ⊢
    rw [played]
    refine ⟨nofun, fun _ => ?_⟩
    rcases finish_ends unleft unplayed opened.host.frames with
      ⟨e, stuck, outcome, -, unleft⟩ | ⟨free, closed⟩
    · refine ⟨fun e' stuck' => ?_, fun free => absurd stuck (free e)⟩
      cases stuck.2.symm.trans stuck'.2
      exact ⟨outcome, unleft⟩
    · exact ⟨fun e stuck => absurd stuck (free e), fun _ => closed⟩

/-- A run whose scale is not positive never opens its window to the end. -/
theorem openWindow_ne_ok_of_flat (flat : l.player.setup.scale ≤ 0) :
    (l.openWindow title).1 ≠ .ok () := by
  intro done
  have opened : l.openWindow title = (.ok (), (l.openWindow title).2) := Prod.ext done rfl
  obtain ⟨tone, host, printed, painted, -⟩ := openWindow_eq_ok opened
  cases painted.symm.trans (paint_of_flat (l := l.opened title tone host printed) flat)

/-- On a host that does not raise, a run with a screen begins exactly if its scale is positive. -/
theorem opens_of_calm (title : String) (calm : l.host.raises = [])
    (stride : l.console.machine.display.stride = 8)
    (height : l.console.machine.display.height = 32) :
    (0 < l.player.setup.scale →
      (l.openWindow title).1 = .ok () ∧ (l.openWindow title).2.host.raises = []) ∧
    (l.player.setup.scale ≤ 0 → (l.openWindow title).1 = .error (.refusal .scale)) := by
  obtain ⟨mixer, printed, opens⟩ := openWindow_of_calm title calm
  rw [opens]
  constructor
  · intro scale
    obtain ⟨frame, canvas, printed', painted⟩ := paint_of_screen
      (l := l.opened title l.firstTone { l.host with mixer } printed) calm stride height scale
    rw [painted]
    exact ⟨rfl, calm⟩
  · intro flat
    exact congrArg Prod.fst (paint_of_flat
      (l := l.opened title l.firstTone { l.host with mixer } printed) flat)

end Live

/-- The law of closing. A run that starts the window system comes to the opening of its window. If
that fails, the run ends with its failure and the window system is not left. If it succeeds, the run
leaves the window system, once and as the last thing, and has shut its tone down before, whatever
ends its frames, unless the host raises when the tone is stopped. A scale that is not positive makes
the opening fail. If the host never raises, nothing else does. -/
theorem closed_of_started (p : Player) (look : Path → Path.Target) (host : Host)
    (started : .start ∈ (p.run look host).requests.toList) :
    ∃ opened l, p.opening look host = some (opened, l) ∧
      (∀ e, opened = .error e → (p.run look host).outcome = .error e ∧
        .quit ∉ (p.run look host).requests.toList) ∧
      (opened = .ok () →
        (∀ e, (l.turns l.host.frames).2.Stuck e →
          (p.run look host).outcome = .error e.failure ∧
            .quit ∉ (p.run look host).requests.toList) ∧
        ((∀ e, ¬(l.turns l.host.frames).2.Stuck e) → (p.run look host).Closed)) ∧
      (p.setup.scale ≤ 0 → opened ≠ .ok ()) ∧
      (host.raises = [] →
        (0 < p.setup.scale → (p.run look host).Closed) ∧
        (p.setup.scale ≤ 0 → opened = .error (.refusal .scale))) := by
  have ends := run_ends p look host
  generalize p.opening look host = opening, p.run look host = r at started ends ⊢
  cases ends with
  | unopened => cases started
  | @played title image c found =>
      let start := Live.start p image c host
      have screen : start.console.machine.display = .standard :=
        display_of_insert (insert_of_program found)
      obtain ⟨fails, closes⟩ := Live.play_closes (l := start) title rfl
      refine ⟨(start.openWindow title).1, (start.openWindow title).2, rfl, fails, closes,
        fun flat => openWindow_ne_ok_of_flat (l := start) flat, fun calm => ?_⟩
      obtain ⟨good, refused⟩ :=
        opens_of_calm (l := start) title calm (by rw [screen]; rfl) (by rw [screen]; rfl)
      refine ⟨fun scale => ?_, refused⟩
      obtain ⟨opened, calm'⟩ := good scale
      refine (closes opened).2 fun e stuck => ?_
      have raises := stuck.2
      rw [Host.Raises, steady_calm.turns _ _ calm'] at raises
      cases raises

/-- Three windows that are closed while the tone sounds. The first host never raises; the second
raises when the picture is flipped for the first time, and its window stays open; the third raises
when the tone is to be stopped, and its window stays open too. -/
theorem closed_of_started_while_beeping :
    let p := create { path := some (.ofText "beep.ch8"), scale := 2, budget := 3 } .silent
    let look (_ : Path) : Path.Target := .file [0x60, 0xFF, 0xF0, 0x18, 0x12, 0x04]
    let host : Host := { frames := [[], [.quit]] }
    let unflipped : Host := { host with raises := List.replicate 10 none ++ [some .other] }
    let stuck : Host := { host with raises := List.replicate 19 none ++ [some (.reported "busy")] }
    (.start ∈ (p.run look host).requests.toList ∧
      (p.run look host).console.map (·.machine.beeping) = some true ∧
      (p.run look host).Closed) ∧
    (.start ∈ (p.run look unflipped).requests.toList ∧
      (p.run look unflipped).outcome = .error .host ∧
      .quit ∉ (p.run look unflipped).requests.toList) ∧
    .start ∈ (p.run look stuck).requests.toList ∧
      (p.run look stuck).outcome = .error (.frontend (.raised "busy")) ∧
      .quit ∉ (p.run look stuck).requests.toList := by
  intro p look host unflipped stuck
  have started (host : Host) (asked : (p.run look host).requests.toList.any Request.starts = true) :
      .start ∈ (p.run look host).requests.toList := Request.start_mem asked
  refine ⟨?_, ?_, ?_⟩
  · have begun := started host (by decide +kernel)
    obtain ⟨opened, l, -, -, -, -, calm⟩ := closed_of_started p look host begun
    exact ⟨begun, by decide +kernel, (calm rfl).1 (by decide)⟩
  · have begun := started unflipped (by decide +kernel)
    obtain ⟨opened, l, opens, failed, -⟩ := closed_of_started p look unflipped begun
    have raised : (p.opening look unflipped).map (·.1) = some (.error .host) := by decide +kernel
    rw [opens] at raised
    exact ⟨begun, failed _ (Option.some.inj raised)⟩
  · have begun := started stuck (by decide +kernel)
    obtain ⟨opened, l, opens, -, ends, -⟩ := closed_of_started p look stuck begun
    have fine : (p.opening look stuck).map (·.1) = some (.ok ()) := by decide +kernel
    have held : (p.opening look stuck).map (fun r => (r.2.turns r.2.host.frames).2.holds) =
        some true := by decide +kernel
    have raises : (p.opening look stuck).map
        (fun r => (r.2.turns r.2.host.frames).2.host.raises.head?) =
          some (some (some (.reported "busy"))) := by decide +kernel
    rw [opens] at fine held raises
    exact ⟨begun, (ends (Option.some.inj fine)).1 (.reported "busy")
      ⟨Option.some.inj held, Option.some.inj raises⟩⟩

/-- A window that was opened and is not closed: its scale is zero. -/
theorem unclosed_at_scale_zero :
    let p := create { path := some (.ofText "rom.ch8"), scale := 0 } .silent
    let look (_ : Path) : Path.Target := .file [0x12, 0x00]
    let host : Host := { frames := [[.quit]] }
    .start ∈ (p.run look host).requests.toList ∧
      .quit ∉ (p.run look host).requests.toList := by
  intro p look host
  have left : (p.run look host).requests.toList.all (fun r => !r.quits) = true := by decide +kernel
  exact ⟨Request.start_mem (by decide +kernel), Request.quit_notMem left⟩

end Player

end Chip8
