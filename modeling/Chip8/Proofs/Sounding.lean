/-
# Chip8.Proofs.Sounding — a tone is heard exactly while it plays

A tone says of itself that it plays, and the mixer knows what its channels were sent. The two agree
after every call on a mixer that does not raise, whatever channels it finds or does not find: a
channel is heard, and only one, exactly while the tone plays (`Tone.Fits`). That rests on what a
call can do, which is said once (`Tone.Switches`): a tone that plays holds its channel, and a tone
that holds a channel has its wave. So nothing is played over a channel that is heard, and a wave
that is built stays until the tone is shut down (`Tone.Session.Obeys`).

In a window the tone is switched once in every frame, after the instructions. At the end of a frame
in which it holds a channel it is heard exactly if the sound timer is not zero and the player is not
halted (`Player.Live.heard_of_mem_laps`). `law_of_tone` says both, for all calls and for all runs of
players that have run before or not.
-/
import Mathlib.Data.List.Induction
import Chip8.Proofs.Lifetime
import Chip8.Proofs.WindowSession

namespace Chip8

set_option autoImplicit false

/-! ## What channels are sent -/

inductive Signal where
  | play
  | stop

namespace Request

/-- The request looked for a channel, and one was found. -/
def finds : Request → Bool
  | .findChannel free => free
  | _ => false

def builds : Request → Bool
  | .sound _ => true
  | _ => false

def signals : Request → Bool
  | .play | .stop => true
  | _ => false

theorem not_sounds_of_shows {r : Request} (shows : r.shows) : ¬r.sounds := by
  cases r <;> first | exact Bool.false_ne_true | cases shows

def found (requests : List Request) : Nat := requests.countP finds

variable {C : Type} (channel : Nat → C)

/-- What the channels are sent, in order, when `n` of them were found before. The channel that is
found next is `channel (n + 1)`, and to play and to stop is asked of the channel that was found
last. -/
def sent : (n : Nat) → List Request → List (C × Signal)
  | _, [] => []
  | n, .findChannel true :: rest => sent (n + 1) rest
  | n, .play :: rest => (channel n, .play) :: sent n rest
  | n, .stop :: rest => (channel n, .stop) :: sent n rest
  | n, _ :: rest => sent n rest

/-- A channel is heard after some signals: it was sent to play, and not to stop since. -/
def Sounding (c : C) (signals : List (C × Signal)) : Prop :=
  ∃ before after, signals = before ++ (c, .play) :: after ∧ (c, .stop) ∉ after

def Heard (requests : List Request) (c : C) : Prop := Sounding c (sent channel 0 requests)

theorem sent_append (n : Nat) (first second : List Request) :
    sent channel n (first ++ second) =
      sent channel n first ++ sent channel (n + found first) second := by
  induction first generalizing n with
  | nil => rfl
  | cons r rest ih =>
      cases r with
      | findChannel free =>
          cases free with
          | true =>
              have more : n + found (.findChannel true :: rest) = n + 1 + found rest := by
                rw [found, List.countP_cons_of_pos rfl, found]
                omega
              rw [List.cons_append, sent, ih, more]
              rfl
          | false => exact ih n
      | play => exact congrArg _ (ih n)
      | stop => exact congrArg _ (ih n)
      | _ => exact ih n

/-- Without a request to play or to stop nothing is sent. -/
theorem sent_eq_nil {requests : List Request} (silent : ∀ r ∈ requests, ¬r.signals) (n : Nat) :
    sent channel n requests = [] := by
  induction requests generalizing n with
  | nil => rfl
  | cons r rest ih =>
      obtain ⟨first, others⟩ := List.forall_mem_cons.1 silent
      cases r with
      | findChannel free => cases free <;> exact ih others _
      | play => exact absurd rfl first
      | stop => exact absurd rfl first
      | _ => exact ih others n

/-- The last signal decides about its own channel, if it is to play or to stop. -/
theorem sounding_concat (c d : C) (signal : Signal) (signals : List (C × Signal)) :
    Sounding c (signals ++ [(d, signal)]) ↔
      (c, Signal.play) = (d, signal) ∨ (Sounding c signals ∧ (c, Signal.stop) ≠ (d, signal)) := by
  constructor
  · rintro ⟨before, after, same, unstopped⟩
    induction after using List.reverseRecOn with
    | nil => exact .inl (List.singleton_inj.1 (List.append_inj' same rfl).2).symm
    | append_singleton after last =>
        rw [← List.cons_append, ← List.append_assoc] at same
        obtain ⟨rfl, single⟩ := List.append_inj' same rfl
        obtain rfl := List.singleton_inj.1 single
        rw [List.mem_append, List.mem_singleton, not_or] at unstopped
        exact .inr ⟨⟨before, after, rfl, unstopped.1⟩, unstopped.2⟩
  · rintro (last | ⟨⟨before, after, rfl, unstopped⟩, other⟩)
    · exact ⟨signals, [], by rw [last], List.not_mem_nil⟩
    · refine ⟨before, after ++ [(d, signal)], by simp, ?_⟩
      rw [List.mem_append, List.mem_singleton, not_or]
      exact ⟨unstopped, other⟩

variable {channel} {requests more : List Request} {c : C}

theorem heard_silent (silent : ∀ r ∈ more, ¬r.signals) :
    Heard channel (requests ++ more) c ↔ Heard channel requests c := by
  rw [Heard, sent_append, sent_eq_nil channel silent, List.append_nil, Heard]

theorem heard_play : Heard channel (requests ++ [.play]) c ↔
    c = channel (found requests) ∨ Heard channel requests c := by
  rw [Heard, sent_append, Nat.zero_add, sent, sent, sounding_concat, Heard]
  simp

theorem heard_stop : Heard channel (requests ++ [.stop]) c ↔
    Heard channel requests c ∧ c ≠ channel (found requests) := by
  rw [Heard, sent_append, Nat.zero_add, sent, sent, sounding_concat, Heard]
  simp

/-- To silence a tone plays nothing. -/
theorem play_notMem_silence (held : Bool) : .play ∉ if held then [Request.stop] else [] := by
  cases held <;> simp

theorem not_heard_of_silent (silent : ∀ r ∈ requests, ¬r.signals) :
    ¬Heard channel requests c := by
  rw [Heard, sent_eq_nil channel silent]
  rintro ⟨before, after, same, -⟩
  exact List.append_ne_nil_of_right_ne_nil before (List.cons_ne_nil _ after) same.symm

end Request

/-! ## What is asked for the wave -/

namespace Tone

variable {t : Tone} {h : Host} {on : Bool} {r : Result} {w : Wave} {asked : List Request}

theorem Prepared.silent (prepared : t.Prepared w asked) : ∀ r ∈ asked, ¬r.signals := by
  cases prepared <;> simp [Request.signals]

/-- What was asked for the wave, and whether a channel was found, sends nothing. -/
theorem Prepared.silent_found (prepared : t.Prepared w asked) (free : Bool) :
    ∀ r ∈ asked ++ [.findChannel free], ¬r.signals :=
  List.forall_mem_append.2 ⟨prepared.silent, by simp [Request.signals]⟩

/-- Waves are built where there was none, and stay. -/
theorem Switches.builds_eq (switches : t.Switches h on r) (calm : h.raises = []) :
    r.requests.countP Request.builds + t.wave.isSome.toNat = r.tone.wave.isSome.toNat := by
  have prepared {w : Wave} {asked : List Request} (prepared : t.Prepared w asked) :
      asked.countP Request.builds + t.wave.isSome.toNat = 1 := by
    cases prepared with
    | kept kept => rw [kept]; rfl
    | built none built => rw [none]; rfl
  cases switches with
  | already same => exact Nat.zero_add _
  | off later playing =>
      dsimp only
      cases t.channel <;> exact Nat.zero_add _
  | unbuilt silent none failed => exact Nat.zero_add _
  | unfound later silent made free =>
      rw [List.countP_append]
      exact prepared made
  | on later silent made held =>
      rw [List.countP_append]
      exact prepared made
  | onFound later silent made free =>
      rw [List.countP_append, List.countP_append]
      exact prepared made
  | raised loud raised => exact absurd calm loud

/-! ## The tone and the mixer -/

variable {C : Type} (channel : Nat → C)

/-- A tone fits to the requests that were made: a channel is heard exactly if the tone plays, and it
is the one that was found last. A tone that plays holds a channel, and one that holds a channel has
its wave. -/
structure Fits (t : Tone) (requests : List Request) : Prop where
  heard : ∀ c, Request.Heard channel requests c ↔
    t.playing = true ∧ c = channel (Request.found requests)
  held : t.playing = true → t.channel = true
  built : t.channel = true → t.wave.isSome = true

variable {channel} {requests : List Request}

theorem Fresh.fits (fresh : t.Fresh) (silent : ∀ r ∈ requests, ¬r.signals) :
    t.Fits channel requests where
  heard := fun c => by simp [Request.not_heard_of_silent silent, fresh.playing]
  held := by simp [fresh.playing]
  built := by simp [fresh.channel]

/-- A channel is heard exactly while the tone plays. -/
theorem Fits.sounds (fits : t.Fits channel requests) :
    (∃ c, Request.Heard channel requests c) ↔ t.playing = true := by
  constructor
  · rintro ⟨c, heard⟩
    exact ((fits.heard c).1 heard).1
  · intro playing
    exact ⟨_, (fits.heard _).2 ⟨playing, rfl⟩⟩

theorem Fits.not_heard (fits : t.Fits channel requests) (silent : t.playing = false) (c : C) :
    ¬Request.Heard channel requests c := by
  rw [fits.heard, silent]
  simp

/-- Only one channel is heard. -/
theorem Fits.single (fits : t.Fits channel requests) {c c' : C}
    (first : Request.Heard channel requests c) (second : Request.Heard channel requests c') :
    c = c' :=
  ((fits.heard c).1 first).2.trans ((fits.heard c').1 second).2.symm

/-- Requests that send nothing and find nothing change nothing. -/
theorem Fits.append {more : List Request} (fits : t.Fits channel requests)
    (silent : ∀ r ∈ more, ¬r.sounds) : t.Fits channel (requests ++ more) where
  heard := fun c => by
    have unsent : ∀ r ∈ more, ¬r.signals := fun r inside signals => silent r inside (by
      cases r <;> first | rfl | cases signals)
    have unfound : Request.found more = 0 := List.countP_eq_zero.2 fun r inside finds =>
      silent r inside (by cases r <;> first | rfl | cases finds)
    have same : Request.found (requests ++ more) = Request.found requests := by
      rw [Request.found, List.countP_append, ← Request.found, ← Request.found, unfound, Nat.add_zero]
    rw [Request.heard_silent unsent, fits.heard, same]
  held := fits.held
  built := fits.built

/-- After the request to play, the channel that was found last is heard. -/
theorem Fits.play {more : List Request} (fits : t.Fits channel requests)
    (silent : t.playing = false) (unsent : ∀ r ∈ more, ¬r.signals) (volume : Float) (c : C) :
    Request.Heard channel (requests ++ (more ++ [.play, .volume volume])) c ↔
      c = channel (Request.found (requests ++ (more ++ [.play, .volume volume]))) := by
  have parts : requests ++ (more ++ [.play, .volume volume]) =
      requests ++ more ++ [.play] ++ [.volume volume] := by simp
  have same : Request.found (requests ++ more ++ [.play] ++ [.volume volume]) =
      Request.found (requests ++ more) := by
    rw [Request.found, List.countP_append, List.countP_append]
    rfl
  have loud : ∀ r ∈ [Request.volume volume], ¬r.signals := by simp [Request.signals]
  rw [parts, same, Request.heard_silent loud, Request.heard_play, Request.heard_silent unsent]
  exact or_iff_left (fits.not_heard silent c)

/-- Switching a tone on or off keeps it and the mixer together, if the host does not raise. -/
theorem Fits.switches (fits : t.Fits channel requests) (switches : t.Switches h on r)
    (fine : h.raises = [] ∨ r.outcome = .ok ()) : r.tone.Fits channel (requests ++ r.requests) := by
  cases switches with
  | already same => simpa using fits
  | unbuilt silent none failed => simpa using fits
  | off later playing =>
      have holds := fits.held playing
      rw [if_pos holds]
      refine ⟨fun c => ?_, fun playing => absurd playing Bool.false_ne_true, fits.built⟩
      rw [Request.heard_stop, fits.heard]
      simp
  | unfound later silent prepared free =>
      refine ⟨fun c => ?_, fits.held, fun _ => rfl⟩
      rw [Request.heard_silent (prepared.silent_found false)]
      simp [fits.not_heard silent, silent]
  | on later silent prepared held =>
      refine ⟨fun c => ?_, fun _ => rfl, fun _ => rfl⟩
      exact (fits.play silent prepared.silent t.volume c).trans (and_iff_right rfl).symm
  | onFound later silent prepared free =>
      refine ⟨fun c => ?_, fun _ => rfl, fun _ => rfl⟩
      have heard := fits.play silent (prepared.silent_found true) t.volume c
      exact heard.trans (and_iff_right rfl).symm
  | raised loud raised => exact raised.elim loud fine

/-- A tone that is shut down is silent, and can be switched on again. -/
theorem Fits.shutdown (fits : t.Fits channel requests) (calm : h.raises = []) :
    (t.shutdown h).tone.Fits channel (requests ++ (t.shutdown h).requests) := by
  rw [shutdown_of_calm t calm]
  refine ⟨fun c => ?_, nofun, nofun⟩
  cases held : t.channel with
  | true =>
      rw [if_pos rfl, Request.heard_stop, fits.heard]
      simp
  | false =>
      have quiet : t.playing = false := by
        cases playing : t.playing with
        | false => rfl
        | true => exact absurd ((fits.held playing).symm.trans held) (by decide)
      rw [if_neg Bool.false_ne_true, List.append_nil]
      simp [fits.not_heard quiet]

/-- The request to play is made when no channel is heard. -/
theorem Fits.play_only (fits : t.Fits channel requests) (switches : t.Switches h on r)
    (calm : h.raises = []) {before after : List Request}
    (played : r.requests = before ++ .play :: after) (c : C) :
    ¬Request.Heard channel (requests ++ before) c := by
  -- in what is asked before, nothing is sent; the first signal is the one to play
  have first {more : List Request} (unsent : ∀ r ∈ more, ¬r.signals) {volume : Float}
      (same : more ++ [.play, .volume volume] = before ++ .play :: after) : before = more := by
    rcases List.append_eq_append_iff.1 same with ⟨rest, rfl, tail⟩ | ⟨rest, rfl, tail⟩
    · rcases rest with _ | ⟨r, _ | ⟨r', rest⟩⟩
      · exact List.append_nil _
      · simp at tail
      · simp at tail
    · rcases rest with _ | ⟨r, rest⟩
      · exact (List.append_nil _).symm
      · obtain ⟨rfl, -⟩ := List.cons.inj tail
        exact absurd rfl (unsent .play (by simp))
  have inside : Request.play ∈ r.requests := by
    rw [played]
    simp
  cases switches with
  | already same => simp at inside
  | off later playing => exact absurd inside (Request.play_notMem_silence t.channel)
  | unbuilt silent none failed => simp at inside
  | unfound later silent prepared free =>
      exact absurd rfl (prepared.silent_found false .play inside)
  | on later silent prepared held =>
      rw [first prepared.silent played, Request.heard_silent prepared.silent]
      exact fits.not_heard silent c
  | onFound later silent prepared free =>
      rw [first (prepared.silent_found true) played,
        Request.heard_silent (prepared.silent_found true)]
      exact fits.not_heard silent c
  | raised loud raised => exact absurd calm loud

/-- A tone that is switched asks to stop only when its channel is heard. -/
theorem Fits.stop_only (fits : t.Fits channel requests) (switches : t.Switches h on r)
    (calm : h.raises = []) {before after : List Request}
    (stopped : r.requests = before ++ .stop :: after) :
    ∃ c, Request.Heard channel (requests ++ before) c := by
  have unstopped {w : Wave} {asked : List Request} (prepared : t.Prepared w asked) :
      Request.stop ∉ asked := fun inside => prepared.silent .stop inside rfl
  have inside : Request.stop ∈ r.requests := by
    rw [stopped]
    simp
  cases switches with
  | already same => simp at inside
  | unbuilt silent none failed => simp at inside
  | off later playing =>
      rw [if_pos (fits.held playing)] at stopped
      rcases before with _ | ⟨r, before⟩
      · exact ⟨_, (by simpa using (fits.heard _).2 ⟨playing, rfl⟩)⟩
      · simp at stopped
  | unfound later silent prepared free => simp [unstopped prepared] at inside
  | on later silent prepared held => simp [unstopped prepared] at inside
  | onFound later silent prepared free => simp [unstopped prepared] at inside
  | raised loud raised => exact absurd calm loud

/-! ## All calls -/

inductive Call where
  | set (on : Bool)
  | shutdown

def call (f : Log.Filter) (t : Tone) (h : Host) : Call → Result
  | .set on => t.set f h on
  | .shutdown => t.shutdown h

/-- A tone, the host that answers it, and what was asked for. -/
structure Session where
  tone : Tone
  host : Host
  requests : List Request := []

namespace Session

variable (f : Log.Filter) (g : Session)

def call (c : Call) : Session :=
  let r := g.tone.call f g.host c
  ⟨r.tone, r.host, g.requests ++ r.requests⟩

def run (calls : List Call) : Session := calls.foldl (call f) g

variable {f g}

theorem calm_call (calm : g.host.raises = []) (c : Call) : (g.call f c).host.raises = [] := by
  cases c with
  | set on => exact (switches_set f g.tone g.host on).calm calm
  | shutdown =>
      have host : (g.call f .shutdown).host = (g.tone.shutdown g.host).host := rfl
      rw [host, shutdown_of_calm g.tone calm]
      exact calm

theorem fits_call (calm : g.host.raises = []) (fits : g.tone.Fits channel g.requests) (c : Call) :
    (g.call f c).tone.Fits channel (g.call f c).requests := by
  cases c with
  | set on => exact fits.switches (switches_set f g.tone g.host on) (.inl calm)
  | shutdown => exact fits.shutdown calm

theorem fits_run (calm : g.host.raises = []) (fits : g.tone.Fits channel g.requests)
    (calls : List Call) :
    (g.run f calls).host.raises = [] ∧
      (g.run f calls).tone.Fits channel (g.run f calls).requests := by
  induction calls generalizing g with
  | nil => exact ⟨calm, fits⟩
  | cons c rest ih => exact ih (calm_call calm c) (fits_call calm fits c)

/-- Waves that are built while the tone is not shut down. -/
theorem builds_run (calm : g.host.raises = []) {calls : List Call} (going : .shutdown ∉ calls) :
    (g.run f calls).requests.countP Request.builds + g.tone.wave.isSome.toNat =
      g.requests.countP Request.builds + (g.run f calls).tone.wave.isSome.toNat := by
  induction calls generalizing g with
  | nil => rfl
  | cons c rest ih =>
      rw [List.mem_cons, not_or] at going
      cases c with
      | shutdown => exact absurd rfl going.1
      | set on =>
          have first := (switches_set f g.tone g.host on).builds_eq calm
          have others := ih (g := g.call f (.set on)) (calm_call calm _) going.2
          have asked : (g.call f (.set on)).requests.countP Request.builds =
              g.requests.countP Request.builds +
                (g.tone.set f g.host on).requests.countP Request.builds :=
            List.countP_append ..
          have tone : (g.call f (.set on)).tone = (g.tone.set f g.host on).tone := rfl
          have next : g.run f (.set on :: rest) = (g.call f (.set on)).run f rest := rfl
          rw [next]
          rw [asked, tone] at others
          omega

/-- What was promised of a tone and its mixer, after some calls. -/
structure Obeys (f : Log.Filter) (channel : Nat → C) (g : Session) : Prop where
  /-- A channel is heard exactly while the tone plays. -/
  sounds : (∃ c, Request.Heard channel g.requests c) ↔ g.tone.playing = true
  /-- Only one is heard. -/
  single : ∀ c c', Request.Heard channel g.requests c → Request.Heard channel g.requests c' → c = c'
  /-- A tone that is switched off or shut down does not play. -/
  off : (g.call f (.set false)).tone.playing = false ∧ (g.call f .shutdown).tone.playing = false
  /-- A tone that is switched on plays if it did, held a channel, or found one. -/
  on : (g.call f (.set true)).tone.playing = true ↔ g.tone.playing = true ∨
    g.tone.channel = true ∨ .findChannel true ∈ (g.tone.set f g.host true).requests
  /-- No call plays while a channel is heard. -/
  play : ∀ c before after, (g.tone.call f g.host c).requests = before ++ .play :: after →
    ∀ d, ¬Request.Heard channel (g.requests ++ before) d
  /-- To switch a tone stops it only while a channel is heard. -/
  stop : ∀ on before after, (g.tone.set f g.host on).requests = before ++ .stop :: after →
    ∃ d, Request.Heard channel (g.requests ++ before) d
  /-- As long as the tone is not shut down, its wave is built once at most. -/
  build : ∀ calls asked, .shutdown ∉ calls → (g.run f calls).requests = g.requests ++ asked →
    asked.countP Request.builds ≤ 1

theorem obeys_of_fits (calm : g.host.raises = []) (fits : g.tone.Fits channel g.requests) :
    g.Obeys f channel where
  sounds := fits.sounds
  single := fun c c' => fits.single
  off := by
    have silent : (g.call f .shutdown).tone = (g.tone.shutdown g.host).tone := rfl
    rw [silent, shutdown_of_calm g.tone calm]
    exact ⟨(switches_set f g.tone g.host false).playing_eq (.inl calm) fits.built nofun, rfl⟩
  on := (switches_set f g.tone g.host true).playing_iff calm fits.built
  play := by
    intro c before after played d
    cases c with
    | set on => exact fits.play_only (switches_set f g.tone g.host on) calm played d
    | shutdown =>
        have inside : Request.play ∈ (g.tone.shutdown g.host).requests := by
          rw [show (g.tone.shutdown g.host).requests = _ from played]
          simp
        rw [shutdown_of_calm g.tone calm] at inside
        exact absurd inside (Request.play_notMem_silence g.tone.channel)
  stop := fun on before after stopped =>
    fits.stop_only (switches_set f g.tone g.host on) calm stopped
  build := fun calls asked going same => by
    have built := builds_run (f := f) calm going
    have most := Bool.toNat_le (g.run f calls).tone.wave.isSome
    rw [same, List.countP_append] at built
    omega

end Session

end Tone

/-! ## The tone of a run -/

namespace Player

namespace Live

variable {C : Type} (channel : Nat → C)

/-- The tone of a run, if it has one, fits to what the run asked for. -/
def Attuned (l : Live) : Prop := ∀ t ∈ l.player.tone, t.Fits channel l.requests.toList

/-- The tone of a run, if it has one that holds a channel, plays exactly if the machine beeps and
the player is not halted. -/
def Beeps (l : Live) : Prop :=
  ∀ t ∈ l.player.tone, t.channel = true →
    t.playing = (l.console.machine.beeping && l.player.halt.isNone)

/-- `after` comes after `l` with the same tone, of which nothing was asked. -/
structure Hushed (l after : Live) : Prop where
  tone : after.player.tone = l.player.tone
  requests : ∃ more, after.requests.toList = l.requests.toList ++ more ∧ ∀ r ∈ more, ¬r.sounds

variable {channel} {l after : Live}

theorem Attuned.hushed (attuned : l.Attuned channel) (hushed : l.Hushed after) :
    after.Attuned channel := by
  obtain ⟨more, asked, silent⟩ := hushed.requests
  intro t held
  rw [hushed.tone] at held
  rw [asked]
  exact (attuned t held).append silent

theorem hushed_of_same (tone : after.player.tone = l.player.tone)
    (requests : after.requests = l.requests) : l.Hushed after :=
  ⟨tone, [], by rw [requests, List.append_nil], nofun⟩

theorem Hushed.trans {l l' l'' : Live} (first : l.Hushed l') (second : l'.Hushed l'') :
    l.Hushed l'' where
  tone := second.tone.trans first.tone
  requests := by
    obtain ⟨more, asked, silent⟩ := first.requests
    obtain ⟨more', asked', silent'⟩ := second.requests
    exact ⟨more ++ more', by rw [asked', asked, List.append_assoc],
      List.forall_mem_append.2 ⟨silent, silent'⟩⟩

theorem hushed_receive (l : Live) (batch : List Event) : l.Hushed (l.receive batch).2 :=
  rel_receive (fun _ => hushed_of_same rfl rfl) .trans (fun _ => hushed_of_same rfl rfl)
    (fun l e => hushed_of_same (congrArg Player.tone (strike_same l e).1) (strike_same l e).2.2)
    l batch

theorem hushed_execute (l : Live) : l.Hushed l.execute.2 :=
  hushed_of_same (frame_keeps l.player l.console.machine).tone rfl

theorem hushed_paint (l : Live) : l.Hushed l.paint.2 := by
  obtain ⟨canvas, made, host, printed, painted, shows, -⟩ := paint_ends l
  rw [painted]
  exact ⟨rfl, made, Array.toList_appendList .., fun r inside =>
    Request.not_sounds_of_shows (shows r inside)⟩

theorem hushed_refresh (l : Live) : l.Hushed l.refresh.2 := by
  unfold refresh
  dsimp only
  split
  · have painted := hushed_paint
      { l with console := { l.console with machine := l.console.machine.takeRedraw.2 } }
    exact ⟨painted.tone, painted.requests⟩
  · exact hushed_of_same rfl rfl

theorem hushed_wait (l : Live) : l.Hushed (l.ask [.wait frameRate]).2 := by
  obtain ⟨made, host, asked, begins, -⟩ := l.ask_ends [.wait frameRate]
  rw [asked]
  refine ⟨rfl, made, Array.toList_appendList .., fun r inside => ?_⟩
  rw [List.mem_singleton.1 (begins.subset inside)]
  exact Bool.false_ne_true

/-- The picture changes nothing that the tone depends on. -/
theorem Beeps.refresh (beeps : l.Beeps) : l.refresh.2.Beeps := by
  have rests := rests_refresh l
  have halt : l.refresh.2.player.halt = l.player.halt := (congrArg Player.halt rests.player :)
  have timers : l.refresh.2.console.machine.timers = l.console.machine.timers :=
    (congrArg (·.machine.timers) rests.console :)
  intro t held
  rw [(hushed_refresh l).tone] at held
  rw [halt, Machine.beeping, timers]
  exact beeps t held

/-- The tone is switched to what the machine and the player are at. -/
theorem attuned_updateTone (attuned : l.Attuned channel) (updated : l.updateTone.1 = .ok ()) :
    l.updateTone.2.Attuned channel ∧ l.updateTone.2.Beeps := by
  cases held : l.player.tone with
  | none =>
      rw [updateTone, held]
      refine ⟨attuned, fun t sounding => ?_⟩
      rw [held] at sounding
      cases sounding
  | some t =>
      rw [updateTone, held] at updated ⊢
      have fits := attuned t held
      have switches := Tone.switches_set l.player.log t l.host
        (l.console.machine.beeping && l.player.halt.isNone)
      refine ⟨?_, ?_⟩
      · rintro _ ⟨⟩
        rw [requests_afterTone]
        exact fits.switches switches (.inr updated)
      · rintro _ ⟨⟩ sounding
        exact switches.playing_eq (.inr updated) fits.built fun _ => sounding

/-- A frame keeps the tone and the mixer together, and ends with the tone as it should be. -/
theorem attuned_turn (attuned : l.Attuned channel) {batch : List Event}
    (turned : l.turn batch = (.ok (), after)) : after.Attuned channel ∧ after.Beeps := by
  obtain ⟨l₄, done, waits⟩ := andThen_eq_ok turned
  obtain ⟨l₃, done, refreshes⟩ := andThen_eq_ok done
  obtain ⟨l₂, done, tones⟩ := andThen_eq_ok done
  obtain ⟨l₁, receives, executes⟩ := andThen_eq_ok done
  obtain rfl : (l.receive batch).2 = l₁ := congrArg Prod.snd receives
  obtain rfl : (l.receive batch).2.execute.2 = l₂ := congrArg Prod.snd executes
  obtain rfl : (l.receive batch).2.execute.2.updateTone.2 = l₃ := congrArg Prod.snd tones
  obtain rfl : (l.receive batch).2.execute.2.updateTone.2.refresh.2 = l₄ :=
    congrArg Prod.snd refreshes
  obtain rfl : _ = after := congrArg Prod.snd waits
  have start := (attuned.hushed (hushed_receive l batch)).hushed (hushed_execute _)
  obtain ⟨switched, beeps⟩ := attuned_updateTone start (congrArg Prod.fst tones)
  refine ⟨(switched.hushed (hushed_refresh _)).hushed (hushed_wait _), ?_⟩
  exact beeps.refresh

/-- A window is opened with a tone that is new, or with none. -/
theorem attuned_openWindow {title : String} (fresh : l.requests = #[])
    (silent : l.player.setup.mute = true → l.player.tone = none)
    (opens : l.openWindow title = (.ok (), after)) : after.Attuned channel := by
  obtain ⟨tone, host, printed, painted, new⟩ := openWindow_eq_ok opens
  have attuned : (l.opened title tone host printed).Attuned channel := by
    intro t held
    obtain rfl : tone = some t := held
    refine Tone.Fresh.fits ?_ (by simp [opened, overture, fresh, Request.signals])
    cases mute : l.player.setup.mute with
    | true =>
        rw [mute, if_pos rfl, silent mute] at new
        cases new
    | false =>
        rw [mute, if_neg Bool.false_ne_true] at new
        exact new t rfl
  have hushed := hushed_paint (l.opened title tone host printed)
  rw [painted] at hushed
  exact attuned.hushed hushed

/-- At the end of every frame in which the tone of a run holds a channel, that channel is heard
exactly if the sound timer is not zero and the player is not halted. -/
theorem heard_of_mem_laps (attuned : l.Attuned channel) (batches : List (List Event)) :
    ∀ after ∈ l.laps batches, ∀ t ∈ after.player.tone, t.channel = true →
      ((∃ c, Request.Heard channel after.requests.toList c) ↔
        after.console.machine.timers.sound ≠ 0 ∧ after.player.halt = none) := by
  intro after lap t sounding held
  obtain ⟨fits, beeps⟩ := forall_mem_laps
    (Q := fun after => after.Attuned channel ∧ after.Beeps)
    (fun attuned turned => ⟨(attuned_turn attuned turned).1, attuned_turn attuned turned⟩)
    attuned batches after lap
  rw [(fits t sounding).sounds, beeps t sounding held, Bool.and_eq_true,
    Option.isNone_iff_eq_none]
  simp [Machine.beeping, Timers.beeping]

end Live

/-- The law of the tone. Whatever calls are made on a tone, and whatever channels a mixer finds that
does not raise, the tone and the mixer agree, as `Tone.Session.Obeys` lists it. And in every run of
a player, at the end of each of its frames, a tone that holds a channel is heard exactly if the
sound timer is not zero and the player is not halted. -/
theorem law_of_tone {C : Type} (channel : Nat → C) :
    (∀ (h h' host : Host) (rate frequency volume : Number) (t : Tone),
      Tone.create h rate frequency volume = (.ok t, h') → host.raises = [] →
        ∀ (f : Log.Filter) (calls : List Tone.Call),
          (Tone.Session.run f ⟨t, host, []⟩ calls).Obeys f channel) ∧
    ∀ (setup : Setup) (log : Log.Filter) (p : Player), Later (create setup log) p →
      ∀ (c : Console) (host : Host) (title : String) (printed : Array String) (l : Live),
        Live.openWindow title { player := p, console := c, host, printed } = (.ok (), l) →
          ∀ after ∈ l.laps l.host.frames, ∀ t ∈ after.player.tone, t.channel = true →
            ((∃ c, Request.Heard channel after.requests.toList c) ↔
              after.console.machine.timers.sound ≠ 0 ∧ after.player.halt = none) := by
  constructor
  · intro h h' host rate frequency volume t made calm f calls
    have start : t.Fits channel [] := (Tone.fresh_of_create made).fits nofun
    obtain ⟨calm, fits⟩ := Tone.Session.fits_run (f := f) (g := ⟨t, host, []⟩) calm start calls
    exact Tone.Session.obeys_of_fits calm fits
  · intro setup log p later c host title printed l opened
    let start : Live := { player := p, console := c, host, printed }
    have attuned : l.Attuned channel :=
      Live.attuned_openWindow (l := start) rfl later.silent_of_mute opened
    exact Live.heard_of_mem_laps attuned l.host.frames

/-- A tone that finds its channel at the second try, by itself and in a run: it is silent at the end
of the first frame, heard at the end of the second, and stopped in the third. -/
theorem law_of_tone_found_late :
    let calls : List Tone.Call := [.set true, .set true, .shutdown, .set true]
    let host : Host := { frames := [[], []], channels := [false, true] }
    let image : Image := { data := [0x60, 0x03, 0xF0, 0x18, 0x12, 0x04] }
    (∃ t h', Tone.create host Tone.standardRate Tone.standardFrequency Tone.standardVolume =
        (.ok t, h') ∧
      (Tone.Session.run .silent ⟨t, host, []⟩ calls).tone.playing = true ∧
      (Tone.Session.run .silent ⟨t, host, []⟩ calls).Obeys .silent id) ∧
    ∃ c l, insert image = .ok c ∧
      Live.openWindow "beep" { player := create {} .silent, console := c, host } = (.ok (), l) ∧
      (l.laps l.host.frames).map
        (fun after => (after.player.tone.map fun t => (t.channel, t.playing),
          after.console.machine.timers.sound)) =
            [(some (false, false), 2), (some (true, true), 1), (some (true, false), 0)] ∧
      ∀ after ∈ l.laps l.host.frames, ∀ t ∈ after.player.tone, t.channel = true →
        ((∃ c, Request.Heard id after.requests.toList c) ↔
          after.console.machine.timers.sound ≠ 0 ∧ after.player.halt = none) := by
  intro calls host image
  have taken {α : Type} {r : Except Failure α} (ok : r.isOk = true) (a : α) :
      r = .ok (r.toOption.getD a) := by
    cases r with
    | error _ => cases ok
    | ok _ => rfl
  constructor
  · let made :=
      Tone.create host Tone.standardRate Tone.standardFrequency Tone.standardVolume
    let t := made.1.toOption.getD { rate := .whole 1, frequency := .whole 1, volume := 0 }
    have created : made = (.ok t, made.2) := Prod.ext (taken (by decide +kernel) _) rfl
    have law := (law_of_tone id).1 host made.2 host _ _ _ t created rfl .silent calls
    exact ⟨t, made.2, created, by decide +kernel, law⟩
  · let c := (insert image).toOption.getD { machine := .standard }
    let opened := Live.openWindow "beep" { player := create {} .silent, console := c, host }
    have inserted : insert image = .ok c := taken (by decide +kernel) _
    have succeeds : opened.1 = .ok () := by decide +kernel
    have opens : opened = (.ok (), opened.2) := by rw [← succeeds]
    have law := (law_of_tone id).2 {} .silent _ .same c host "beep" #[] opened.2 opens
    exact ⟨c, opened.2, inserted, opens, by decide +kernel, law⟩

end Player

end Chip8
