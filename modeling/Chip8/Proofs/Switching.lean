/-
# Chip8.Proofs.Switching — what switching a tone comes to

A tone that is switched on needs its wave and a channel. The wave may be there, be built, or fail;
the channel may be held, be found, or be missing; and the host may raise anywhere. `Tone.Switches`
lists what can come of a call, with the whole result in each case but the last, and `switches_set`
says that nothing else does. What calls keep of a tone, and what they ask for, is read off that
list.
-/
import Chip8.Tone

namespace Chip8

set_option autoImplicit false

def Request.sounds : Request → Bool
  | .findChannel _ | .sound _ | .play | .volume _ | .stop => true
  | _ => false

namespace Tone

/-- A tone that was not switched on yet. -/
structure Fresh (t : Tone) : Prop where
  playing : t.playing = false
  channel : t.channel = false
  wave : t.wave = none

theorem fresh_of_create {h h' : Host} {rate frequency volume : Number} {t : Tone}
    (made : create h rate frequency volume = (.ok t, h')) : t.Fresh := by
  unfold create at made
  split at made
  · cases made
  split at made
  · cases made
  · cases made
  split at made
  · cases made
  · cases made
    exact ⟨rfl, rfl, rfl⟩

/-- A tone has its wave, or builds it; with the requests that were made for it. -/
inductive Prepared (t : Tone) : Wave → List Request → Prop where
  | kept {w : Wave} (kept : t.wave = some w) : Prepared t w []
  | built {w : Wave} (none : t.wave = none) (built : t.build = .ok w) : Prepared t w [.sound w]

theorem Prepared.sounds {t : Tone} {w : Wave} {asked : List Request}
    (prepared : t.Prepared w asked) : ∀ r ∈ asked, r.sounds := by
  cases prepared <;> simp [Request.sounds]

structure Result.Raised (t : Tone) (r : Result) : Prop where
  outcome : ∃ e, r.outcome = .error e
  build : r.tone.build = t.build
  held : t.channel = true → r.tone.channel = true
  sounds : ∀ request ∈ r.requests, request.sounds
  /-- If it was played, it holds the channel that it was played on. -/
  played : .play ∈ r.requests → r.tone.channel = true

/-- What switching a tone on or off comes to. -/
inductive Switches (t : Tone) (h : Host) : Bool → Result → Prop where
  /-- It is on or off already. -/
  | already {on : Bool} (same : on = t.playing) : Switches t h on { tone := t, host := h }
  /-- It is switched off. -/
  | off {host : Host} (later : host.raises <:+ h.raises) (playing : t.playing = true) :
      Switches t h false
        { tone := { t with playing := false }, host
          requests := if t.channel then [.stop] else [] }
  /-- Its wave cannot be built. -/
  | unbuilt {e : Failure} (silent : t.playing = false) (none : t.wave = none)
      (failed : t.build = .error e) :
      Switches t h true { outcome := .error e, tone := t, host := h }
  /-- There is no channel for it. -/
  | unfound {host : Host} {printed : List String} {w : Wave} {asked : List Request}
      (later : host.raises <:+ h.raises) (silent : t.playing = false)
      (prepared : t.Prepared w asked) (free : t.channel = false) :
      Switches t h true
        { tone := { t with wave := some w }, host, requests := asked ++ [.findChannel false],
          printed }
  /-- It is switched on, on the channel that it holds. -/
  | on {host : Host} {w : Wave} {asked : List Request} (later : host.raises <:+ h.raises)
      (silent : t.playing = false) (prepared : t.Prepared w asked) (held : t.channel = true) :
      Switches t h true
        { tone := { t with wave := some w, channel := true, playing := true }, host
          requests := asked ++ [.play, .volume t.volume] }
  /-- It is switched on, on a channel that was found. -/
  | onFound {host : Host} {w : Wave} {asked : List Request} (later : host.raises <:+ h.raises)
      (silent : t.playing = false) (prepared : t.Prepared w asked) (free : t.channel = false) :
      Switches t h true
        { tone := { t with wave := some w, channel := true, playing := true }, host
          requests := asked ++ [Request.findChannel true] ++ [.play, .volume t.volume] }
  /-- The host raises. -/
  | raised {on : Bool} {r : Result} (loud : h.raises ≠ []) (raised : r.Raised t) :
      Switches t h on r

section

variable {t : Tone} {h : Host} {asked : List Request}

/-- What may come of a tone that is played on a channel it holds. -/
theorem sound_ends (t : Tone) (h : Host) (before : List Request) :
    (∃ host, host.raises <:+ h.raises ∧ t.sound h before =
        { tone := { t with channel := true, playing := true }, host
          requests := before ++ [.play, .volume t.volume] }) ∨
      h.raises ≠ [] ∧ ∃ e made host, (∀ r ∈ made, r.sounds) ∧ t.sound h before =
        { outcome := .error e, tone := { t with channel := true }, host
          requests := before ++ made } := by
  have grants := h.grants_ask [.play, .volume t.volume]
  unfold sound
  generalize h.ask _ = answers at grants
  cases grants with
  | all later => exact .inl ⟨_, later, rfl⟩
  | raised begins loud =>
      refine .inr ⟨loud, _, _, _, fun r made => ?_, rfl⟩
      have inside := begins.subset made
      simp only [List.mem_cons, List.not_mem_nil, or_false] at inside
      rcases inside with rfl | rfl <;> rfl

/-- What has been done for a tone so far is left of it when the host raises. -/
theorem raised_of_prepared {w : Wave} {e : Failure} {host : Host} {channel : Bool}
    {made : List Request} (prepared : t.Prepared w asked) (held : t.channel = true → channel = true)
    (sounds : ∀ r ∈ made, r.sounds) (played : .play ∈ made → channel = true) :
    Result.Raised t { outcome := .error e, tone := { t with wave := some w, channel }, host
                      requests := asked ++ made } where
  outcome := ⟨e, rfl⟩
  build := rfl
  held := held
  sounds := List.forall_mem_append.2 ⟨prepared.sounds, sounds⟩
  played := by
    intro inside
    refine played ((List.mem_append.1 inside).resolve_left fun early => ?_)
    cases prepared <;> simp at early

theorem switches_begin (f : Log.Filter) {w : Wave} {host : Host}
    (silent : t.playing = false) (prepared : t.Prepared w asked)
    (later : host.raises <:+ h.raises) :
    t.Switches h true ({ t with wave := some w }.begin f host asked) := by
  have loud {host : Host} (later : host.raises <:+ h.raises) (loud : host.raises ≠ []) :
      h.raises ≠ [] := fun calm => loud (List.suffix_nil.1 (calm ▸ later))
  unfold begin
  split
  · rename_i held
    rcases sound_ends { t with wave := some w } host asked with
      ⟨after, later', same⟩ | ⟨loud', e, made, after, sounds, same⟩
    · rw [same]
      exact .on (later'.trans later) silent prepared held
    · rw [same]
      exact .raised (loud later loud') (raised_of_prepared prepared (fun _ => rfl) sounds fun _ => rfl)
  · rename_i free
    have free : t.channel = false := Bool.eq_false_iff.2 free
    have later' := host.raises_askChannel
    have raised {e : Failure} : host.askChannel.1 = .error e → host.raises ≠ [] :=
      Host.loud_of_askChannel
    generalize host.askChannel = answer at later' raised
    obtain ⟨e | found, after⟩ := answer
    · have held : t.channel = true → t.channel = true := id
      exact .raised (loud later (raised rfl)) (raised_of_prepared prepared held
        (by simp [Request.sounds]) (by simp))
    cases found with
    | false => exact .unfound (later'.trans later) silent prepared free
    | true =>
        rcases sound_ends { t with wave := some w } after (asked ++ [.findChannel true]) with
          ⟨after', later'', same⟩ | ⟨loud', e, made, after', sounds, same⟩
        · dsimp only
          rw [same]
          exact .onFound (later''.trans (later'.trans later)) silent prepared free
        · dsimp only
          rw [same, List.append_assoc]
          exact .raised (loud (later'.trans later) loud') (raised_of_prepared prepared
            (fun _ => rfl) (List.forall_mem_append.2 ⟨by simp [Request.sounds], sounds⟩) fun _ => rfl)

theorem switches_set (f : Log.Filter) (t : Tone) (h : Host) (on : Bool) :
    t.Switches h on (t.set f h on) := by
  unfold set
  split
  · rename_i same
    exact .already same
  rename_i other
  cases on with
  | false =>
      have playing : t.playing = true := by
        cases played : t.playing with
        | true => rfl
        | false => exact absurd played.symm other
      have grants := h.grants_ask (if t.channel then [.stop] else [])
      rw [if_pos (by decide)]
      unfold silence
      generalize h.ask _ = answers at grants
      cases grants with
      | all later => exact .off later playing
      | raised begins loud =>
          refine .raised loud ⟨⟨_, rfl⟩, rfl, id, fun r made => ?_, fun played => ?_⟩
          · have inside := begins.subset made
            split at inside <;> simp_all [Request.sounds]
          · have inside := begins.subset played
            split at inside <;> simp at inside
  | true =>
      have silent : t.playing = false := Bool.eq_false_iff.2 fun playing => other playing.symm
      rw [if_neg (by decide)]
      cases kept : t.wave with
      | some w =>
          have same : { t with wave := some w } = t := by rw [← kept]
          have ends := switches_begin f silent (.kept kept) (List.suffix_refl h.raises)
          rwa [same] at ends
      | none =>
          dsimp only
          cases built : t.build with
          | error e => exact .unbuilt silent kept built
          | ok w =>
              have grants := h.grants_ask [.sound w]
              dsimp only
              generalize h.ask [.sound w] = answers at grants
              cases grants with
              | all later => exact switches_begin f silent (.built kept built) later
              | raised begins loud =>
                  refine .raised loud ⟨⟨_, rfl⟩, rfl, id, fun r made => ?_, fun played => ?_⟩
                  · rw [List.mem_singleton.1 (begins.subset made)]
                    rfl
                  · cases List.mem_singleton.1 (begins.subset played)

end

variable {t : Tone} {h : Host} {on : Bool} {r : Result}

/-- Whatever comes of it, the tone has its rate and its pitch. -/
theorem Switches.build_eq (switches : t.Switches h on r) : r.tone.build = t.build := by
  cases switches with
  | raised loud raised => exact raised.build
  | _ => rfl

/-- A host that raises is not calm, and the call fails. -/
theorem Result.Raised.elim {α : Prop} (raised : r.Raised t) (loud : h.raises ≠ [])
    (fine : h.raises = [] ∨ r.outcome = .ok ()) : α := by
  obtain ⟨e, failed⟩ := raised.outcome
  rcases fine with calm | ok
  · exact absurd calm loud
  · cases failed.symm.trans ok

/-- If the host does not raise, it fails only if the wave cannot be built. -/
theorem Switches.outcome_of_built (switches : t.Switches h on r) (calm : h.raises = []) {w : Wave}
    (built : t.build = .ok w) : r.outcome = .ok () := by
  cases switches with
  | unbuilt silent none failed => cases built.symm.trans failed
  | raised loud raised => exact raised.elim loud (.inl calm)
  | _ => rfl

/-- A host that did not raise does not begin to. -/
theorem Switches.calm (switches : t.Switches h on r) (calm : h.raises = []) :
    r.host.raises = [] := by
  cases switches with
  | already same => exact calm
  | unbuilt silent none failed => exact calm
  | raised loud raised => exact absurd calm loud
  | _ => exact List.suffix_nil.1 (calm ▸ ‹_ <:+ h.raises›)

/-- A tone that is switched on plays if it played before, held a channel, or found one. -/
theorem Switches.playing_iff (switches : t.Switches h true r) (calm : h.raises = [])
    (built : t.channel = true → t.wave.isSome = true) :
    r.tone.playing = true ↔
      t.playing = true ∨ t.channel = true ∨ .findChannel true ∈ r.requests := by
  cases switches with
  | already same => simp [same.symm]
  | unbuilt silent none failed =>
      have free : t.channel = false := by
        cases held : t.channel with
        | false => rfl
        | true =>
            have some := built held
            rw [none] at some
            cases some
      simp [silent, free]
  | unfound later silent prepared free => cases prepared <;> simp [silent, free]
  | on later silent prepared held => simp [held]
  | onFound later silent prepared free => simp
  | raised loud raised => exact raised.elim loud (.inl calm)

/-- A tone is as it was asked to be, except that one without a channel cannot be on. -/
theorem Switches.playing_eq (switches : t.Switches h on r)
    (fine : h.raises = [] ∨ r.outcome = .ok ())
    (built : t.channel = true → t.wave.isSome = true) (held : on = true → r.tone.channel = true) :
    r.tone.playing = on := by
  cases switches with
  | already same => exact same.symm
  | off later playing => rfl
  | unbuilt silent none failed =>
      have some := built (held rfl)
      rw [none] at some
      cases some
  | unfound later silent prepared free => exact absurd (free.symm.trans (held rfl)) Bool.false_ne_true
  | on later silent prepared held => rfl
  | onFound later silent prepared free => rfl
  | raised loud raised => exact raised.elim loud fine

/-- A tone that is switched never loses its channel, and if it is played it holds one. -/
theorem Switches.holds (switches : t.Switches h on r) :
    (.play ∈ r.requests → r.tone.channel = true) ∧ (t.channel = true → r.tone.channel = true) := by
  cases switches with
  | already same => exact ⟨nofun, id⟩
  | off later playing =>
      refine ⟨fun played => ?_, id⟩
      split at played <;> simp at played
  | unbuilt silent none failed => exact ⟨nofun, id⟩
  | unfound later silent prepared free =>
      refine ⟨fun played => ?_, id⟩
      cases prepared <;> simp at played
  | on later silent prepared held => exact ⟨fun _ => rfl, fun _ => rfl⟩
  | onFound later silent prepared free => exact ⟨fun _ => rfl, fun _ => rfl⟩
  | raised loud raised => exact ⟨raised.played, raised.held⟩

/-- To switch a tone asks for nothing but sound. -/
theorem Switches.sounds (switches : t.Switches h on r) : ∀ request ∈ r.requests, request.sounds := by
  have played {asked : List Request} (sounds : ∀ r ∈ asked, r.sounds) :
      ∀ r ∈ asked ++ [.play, .volume t.volume], r.sounds :=
    List.forall_mem_append.2 ⟨sounds, by simp [Request.sounds]⟩
  have looked {asked : List Request} (sounds : ∀ r ∈ asked, r.sounds) (free : Bool) :
      ∀ r ∈ asked ++ [.findChannel free], r.sounds :=
    List.forall_mem_append.2 ⟨sounds, by simp [Request.sounds]⟩
  cases switches with
  | already same => exact nofun
  | off later playing =>
      dsimp only
      split <;> simp [Request.sounds]
  | unbuilt silent none failed => exact nofun
  | unfound later silent prepared free => exact looked prepared.sounds false
  | on later silent prepared held => exact played prepared.sounds
  | onFound later silent prepared free => exact played (looked prepared.sounds true)
  | raised loud raised => exact raised.sounds

/-- If the host does not raise, a tone is stopped if it holds a channel, and lets go of it and of
its wave. -/
theorem shutdown_of_calm (t : Tone) (calm : h.raises = []) :
    t.shutdown h =
      { tone := { t with playing := false, channel := false, wave := none }, host := h
        requests := if t.channel then [.stop] else [] } := by
  rw [shutdown, silence, Host.ask_of_calm calm]

end Tone

end Chip8
