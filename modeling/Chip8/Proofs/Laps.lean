/-
# Chip8.Proofs.Laps — the frames of a whole run

The laws of the picture and of the tone speak of the ends of the frames of a loop (`Live.laps`). A
loop passes through each of them and is nothing besides: one frame leads from each to the next
(`isChain_laps`), the loop goes on from each with the batches that are left (`turns_of_mem_laps`),
and it ends at the last, or fails in the frame after it (`turns_ends`).

So the laws hold of `Player.run`. What a run asked for up to the end of a frame is the beginning of
what it asks for in all (`requests_of_mem_laps`); up to there the window shows the machine
(`shows_run`), and the tone is heard when it should be (`heard_run`). A run that does not fail ends
as its last frame left it (`getLast?_laps_of_run`).
-/
import Chip8.Proofs.Closing
import Chip8.Proofs.Sounding
import Chip8.Proofs.WindowSession

namespace Chip8.Player

set_option autoImplicit false

namespace Live

variable {l after : Live}

/-- One frame leads from the beginning of a loop to the end of its first frame, and from the end of
each frame to the end of the next. -/
theorem isChain_laps (l : Live) (batches : List (List Event)) :
    List.IsChain (fun before after => ∃ batch, before.turn batch = (.ok (), after))
      (l :: l.laps batches) := by
  induction batches generalizing l with
  | nil =>
      rcases turned : l.turn [.quit] with ⟨_ | _, after⟩ <;> simp only [laps, turned]
      · exact .singleton _
      · exact .cons_cons ⟨_, turned⟩ (.singleton _)
  | cons batch rest ih =>
      rcases turned : l.turn batch with ⟨_ | _, after⟩ <;> simp only [laps, turned]
      · exact .singleton _
      · refine .cons_cons ⟨_, turned⟩ ?_
        split
        · exact .singleton _
        · exact ih after

/-- The loop passes through the end of each frame: it ends there, or goes on from there with the
batches of events that are left. -/
theorem turns_of_mem_laps {batches : List (List Event)} (lap : after ∈ l.laps batches) :
    l.turns batches = (.ok (), after) ∨ ∃ rest, l.turns batches = after.turns rest := by
  induction batches generalizing l with
  | nil =>
      rw [laps] at lap
      rcases turned : l.turn [.quit] with ⟨_ | _, l'⟩ <;> rw [turned] at lap
      · cases lap
      · obtain rfl := List.mem_singleton.1 lap
        exact .inl turned
  | cons batch rest ih =>
      rw [laps] at lap
      rcases turned : l.turn batch with ⟨_ | _, l'⟩ <;> rw [turned] at lap
      · cases lap
      rw [turns, turned]
      cases closing : batch.any Event.closes with
      | true =>
          rw [closing] at lap
          obtain rfl := List.mem_singleton.1 lap
          exact .inl rfl
      | false =>
          rw [closing] at lap
          rcases List.mem_cons.1 lap with rfl | later
          · exact .inr ⟨rest, rfl⟩
          · exact ih later

/-- A loop ends with the last of its frames, or fails in a frame that begins there. -/
theorem turns_ends (l : Live) (batches : List (List Event)) :
    (∃ after, l.turns batches = (.ok (), after) ∧ (l.laps batches).getLast? = some after) ∨
      ∃ e after batch, l.turns batches = (.error e, after) ∧
        ((l.laps batches).getLast?.getD l).turn batch = (.error e, after) := by
  induction batches generalizing l with
  | nil =>
      rcases turned : l.turn [.quit] with ⟨e | _, after⟩ <;> simp only [laps, turns, turned]
      · exact .inr ⟨e, after, _, rfl, turned⟩
      · exact .inl ⟨after, rfl, rfl⟩
  | cons batch rest ih =>
      rcases turned : l.turn batch with ⟨e | _, after⟩ <;> simp only [laps, turns, turned]
      · exact .inr ⟨e, after, batch, by split <;> rfl, turned⟩
      · split
        · exact .inl ⟨after, rfl, rfl⟩
        · rw [List.getLast?_cons, Option.getD_some]
          rcases ih after with ⟨last, done, ends⟩ | failed
          · exact .inl ⟨last, done, by rw [ends]; rfl⟩
          · exact .inr failed

/-- What has failed does not end well. -/
theorem finish_error (e : Failure) (l : Live) : (finish (.error e, l)).1 ≠ .ok () := by
  show l.leave.1.bind (fun _ => .error e) ≠ .ok ()
  cases l.leave.1 <;> exact nofun

end Live

open Live

variable {p : Player} {look : Path → Path.Target} {host : Host} {after : Live}

/-- A run at the end of each of its frames. -/
def laps (p : Player) (look : Path → Path.Target) (host : Host) : List Live :=
  match p.opening look host with
  | some (.ok (), l) => l.laps l.host.frames
  | _ => []

/-- A run with frames has opened its window. -/
theorem opened_of_mem_laps (lap : after ∈ p.laps look host) :
    ∃ title image c l, program p.setup look = some (title, image, c) ∧
      (Live.start p image c host).openWindow title = (.ok (), l) ∧
      after ∈ l.laps l.host.frames ∧
      p.run look host = .ofLive (finish (l.turns l.host.frames)) := by
  unfold laps at lap
  split at lap
  · rename_i l opens
    obtain ⟨title, image, c, found, opened, played⟩ := run_of_opening opens
    refine ⟨title, image, c, l, found, opened.symm, lap, ?_⟩
    rw [played, play, ← opened]
    rfl
  · cases lap

/-- A run passes through the end of each of its frames. -/
theorem run_of_mem_laps (lap : after ∈ p.laps look host) :
    p.run look host = .ofLive (finish (.ok (), after)) ∨
      ∃ rest, p.run look host = .ofLive (finish (after.turns rest)) := by
  obtain ⟨title, image, c, l, -, -, lap, played⟩ := opened_of_mem_laps lap
  rw [played]
  rcases turns_of_mem_laps lap with last | ⟨rest, further⟩
  · exact .inl (by rw [last])
  · exact .inr ⟨rest, by rw [further]⟩

/-- What was asked for up to the end of a frame is what a run begins with. -/
theorem requests_of_mem_laps (lap : after ∈ p.laps look host) :
    after.requests.toList <+: (p.run look host).requests.toList := by
  have finished (frames : Except Failure Unit × Live) :
      frames.2.requests.toList <+: (finish frames).2.requests.toList := by
    have left : (finish frames).2 = frames.2.leave.2 := rfl
    rw [left]
    rcases frames.2.leave_ends with ⟨e, -, -, asked⟩ | ⟨-, asked, -⟩ <;> rw [asked]
    · exact List.prefix_append ..
    · rw [List.append_assoc]
      exact List.prefix_append ..
  rcases run_of_mem_laps lap with last | ⟨rest, further⟩
  · rw [last]
    exact finished (.ok (), after)
  · rw [further]
    obtain ⟨more, asked, -⟩ := (steady_stays.turns after rest).requests
    exact List.IsPrefix.trans ⟨more, asked.symm⟩ (finished _)

/-- A run that does not fail ends as the last of its frames has left it. -/
theorem getLast?_laps_of_run (done : (p.run look host).outcome = .ok ()) :
    ∃ last, (p.laps look host).getLast? = some last ∧
      (p.run look host).player.halt = last.player.halt ∧
      (p.run look host).console = some last.console := by
  have ends := run_ends p look host
  unfold laps
  generalize p.opening look host = opening, p.run look host = r at done ends ⊢
  cases ends with
  | unopened => cases done
  | @played title image c found =>
      have played : ((Live.start p image c host).play title).1 = .ok () := done
      rcases play_eq title (.start p image c host) with
        ⟨e, l, -, failed⟩ | ⟨opened, opens, finished⟩
      · rw [failed] at played
        cases played
      · rw [finished] at played ⊢
        rw [opens]
        rcases turns_ends opened opened.host.frames with ⟨last, ended, ends⟩ | ⟨e, l, -, ended, -⟩
        · have kept : (finish (opened.turns opened.host.frames)).2 = last.leave.2 := by
            rw [ended]
            rfl
          refine ⟨last, ends, ?_, ?_⟩
          · show (finish _).2.player.halt = _
            rw [kept, (leave_keeps last).1]
          · show some (finish _).2.console = _
            rw [kept, (leave_keeps last).2]
        · rw [ended] at played
          exact absurd played (finish_error e l)

/-- The window of a run is never behind its machine: what was asked for up to the end of a frame
has shown the display last. -/
theorem shows_run (palette : p.canvas.palette = p.setup.palette) (scale : 0 < p.setup.scale) :
    ∀ after ∈ p.laps look host, after.Shows p.setup after.console.machine.display := by
  intro after lap
  obtain ⟨title, image, c, l, found, opened, lap, -⟩ := opened_of_mem_laps lap
  have screen : (Live.start p image c host).console.machine.display = .standard :=
    display_of_insert (insert_of_program found)
  obtain ⟨ready, picture⟩ := shows_openWindow (by rw [screen]; rfl) (by rw [screen]; rfl) scale
    palette opened
  exact shows_of_mem_laps ready picture _ after lap

/-- The tone of a run that holds a channel is heard at the end of a frame exactly if the sound timer
is not zero and the player is not halted. -/
theorem heard_run {C : Type} (channel : Nat → C) {setup : Setup} {log : Log.Filter}
    (later : Later (create setup log) p) :
    ∀ after ∈ p.laps look host, ∀ t ∈ after.player.tone, t.channel = true →
      ((∃ c, Request.Heard channel after.requests.toList c) ↔
        after.console.machine.timers.sound ≠ 0 ∧ after.player.halt = none) := by
  intro after lap
  obtain ⟨title, image, c, l, -, opened, lap, -⟩ := opened_of_mem_laps lap
  have attuned : l.Attuned channel :=
    attuned_openWindow (l := .start p image c host) rfl later.silent_of_mute opened
  exact heard_of_mem_laps attuned l.host.frames after lap

end Chip8.Player
