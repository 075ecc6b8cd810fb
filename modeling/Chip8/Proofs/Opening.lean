/-
# Chip8.Proofs.Opening — how a run begins

Before its first frame a run starts the window system, makes its tone, opens the window, makes a
clock and paints the machine. Any of these calls may raise, and what was done until then stays as it
is (`Live.Opens`).

On a host that never raises the tone does not stand in the way: a closed mixer leaves the run
silent, and the pitch and volume of the tone are good ones (`makeTone_of_calm`). So a run begins
there exactly if its scale is positive; a scale of zero or less is refused with the first picture,
when the window is open (`openWindow_of_calm`, `paint_of_flat`).
-/
import Chip8.Proofs.Window

namespace Chip8

set_option autoImplicit false

/-- The pitch of the tone is a positive number. -/
theorem Tone.standardFrequency_positive : standardFrequency.notPositive = false := by
  decide +kernel

/-- What a mixer answers is one of its answers. -/
theorem Host.mem_mixer {h : Host} {rate : Int} (told : (next none h.mixer).1 = some rate) :
    some rate ∈ h.mixer := by
  unfold next at told
  split at told
  · cases told
  · rename_i same
    rw [same, ← told]
    exact List.mem_cons_self
  · rename_i same
    rw [same, ← told]
    exact List.mem_cons_self

namespace Request

/-- The requests by which a window is opened and shows its first picture. -/
def opens : Request → Bool
  | .prepareMixer .. | .start | .title _ | .openWindow .. | .show _ | .flip => true
  | _ => false

theorem opens_of_shows {r : Request} (shows : r.shows) : r.opens := by
  cases r <;> first | rfl | cases shows

end Request

structure Tone.Standard (mixer : List (Option Int)) (t : Tone) : Prop extends t.Fresh where
  rate : ∃ rate, some rate ∈ mixer ∧ t.rate = .whole (max 1 rate)
  frequency : t.frequency = standardFrequency

namespace Tone

/-- The tone of the standard pitch that is made for a host that does not raise, if one is: the mixer
is asked for its rate, and then once more whether it is open. -/
def made (h : Host) : Option Tone :=
  let (first, rest) := Host.next none h.mixer
  if !h.window || (Host.next none rest).1.isNone then none
  else first.map fun rate =>
    { rate := .whole (max 1 rate), frequency := standardFrequency
      volume := standardVolume.clamp }

theorem standard_of_made {h : Host} {t : Tone} (held : t ∈ made h) : t.Standard h.mixer := by
  unfold made at held
  dsimp only at held
  split at held
  · cases held
  · obtain ⟨rate, told, rfl⟩ := Option.map_eq_some_iff.1 held
    exact ⟨⟨rfl, rfl, rfl⟩, ⟨rate, Host.mem_mixer told, rfl⟩, rfl⟩

/-- Only the window system and the mixer of a host matter for the making of a tone. -/
theorem made_congr {h h' : Host} (window : h'.window = h.window) (mixer : h'.mixer = h.mixer) :
    made h' = made h := by
  rw [made, made, window, mixer]

end Tone

namespace Player

namespace Live

/-- Making a tone does not fail if the host does not raise, and asks it for nothing but its mixer.
-/
theorem makeTone_of_calm {l : Live} (calm : l.host.raises = []) :
    ∃ (mixer : List (Option Int)) (printed : Array String),
      l.makeTone = (.ok (), { l with player := { l.player with tone := Tone.made l.host }
                                     host := { l.host with mixer }, printed }) := by
  unfold makeTone Tone.made
  rw [Host.askMixer_of_calm calm]
  obtain ⟨first, rest⟩ := Host.next none l.host.mixer
  have asks : Host.askMixer { l.host with mixer := rest } = (.ok (Host.next none rest).1,
      { l.host with mixer := (Host.next none rest).2 }) := Host.askMixer_of_calm calm
  cases first with
  | none =>
      simp only [Option.map_none, ite_self]
      exact ⟨_, _, rfl⟩
  | some rate =>
      simp only [Tone.create, asks, Tone.standardFrequency_positive]
      cases l.host.window with
      | false => exact ⟨_, _, rfl⟩
      | true => cases (Host.next none rest).1 <;> exact ⟨_, _, rfl⟩

/-- The tone that a run begins with: a muted player keeps the one that it has. -/
def firstTone (l : Live) : Option Tone :=
  if l.player.setup.mute then l.player.tone else Tone.made l.host

/-- It is a new one, if a muted player has none. -/
theorem mem_made_of_firstTone {l : Live} {t : Tone}
    (silent : l.player.setup.mute = true → l.player.tone = none) (held : t ∈ l.firstTone) :
    t ∈ Tone.made l.host := by
  unfold firstTone at held
  split at held
  · rename_i mute
    rw [silent mute] at held
    cases held
  · exact held

/-- On a host that does not raise, a run begins with its tone and its window, and with a first
picture. -/
theorem openWindow_of_calm (title : String) {l : Live} (calm : l.host.raises = []) :
    ∃ (mixer : List (Option Int)) (printed : Array String), l.openWindow title =
      (l.opened title l.firstTone { l.host with mixer } printed).paint := by
  have asked : l.ask [.prepareMixer 44100 (-16) 1 512, .start, .title ("CHIP-8 - " ++ title)] =
      (.ok (), { l with requests := l.requests ++ overture title }) := ask_of_calm calm _
  have opens (l : Live) (calm : l.host.raises = []) (requests : List Request) :
      andThen (andThen (andThen (.ok (), l) (·.ask requests)) call) paint =
        { l with requests := l.requests ++ requests }.paint := by
    rw [andThen, ask_of_calm calm, andThen, call_of_calm, andThen]
    exact calm
  obtain ⟨mixer, printed, toned⟩ : ∃ mixer printed,
      (if l.player.setup.mute then
          (.ok (), { l with requests := l.requests ++ overture title })
        else { l with requests := l.requests ++ overture title }.makeTone) =
        (.ok (), { l with player := { l.player with tone := l.firstTone }
                          host := { l.host with mixer }
                          requests := l.requests ++ overture title, printed }) := by
    unfold firstTone
    split
    · exact ⟨l.host.mixer, l.printed, rfl⟩
    · exact makeTone_of_calm (l := { l with requests := l.requests ++ overture title }) calm
  refine ⟨mixer, printed, ?_⟩
  unfold openWindow
  dsimp only
  rw [asked, andThen, toned]
  apply opens
  exact calm

/-- A picture is refused if its scale is not positive. -/
theorem paint_of_flat {l : Live} (flat : l.player.setup.scale ≤ 0) :
    l.paint = (.error (.refusal .scale), l) := by
  have refused (length : Nat) (width height : Int) :
      checkFrame length width height l.player.setup.scale = .error .scale := if_pos flat
  simp only [paint, Canvas.draw, refused]
  rfl

/-- What is drawn is shown, if the host does not raise. -/
theorem paint_of_drawn {l : Live} (calm : l.host.raises = []) {frame : Frame} {canvas : Canvas}
    (drawn : l.player.canvas.draw l.console.machine.display.buffer l.console.machine.display.width
      l.console.machine.display.height l.player.setup.scale = (.ok frame, canvas)) :
    ∃ printed : Array String, l.paint = (.ok (),
      { l with
        player := { l.player with canvas }
        requests := l.requests ++ [Request.show frame] ++ [Request.flip]
        printed }) := by
  have surfaced : (if canvas.serial = l.player.canvas.serial then (.ok (), l) else l.call) =
      (.ok (), l) := by
    split
    · rfl
    · exact call_of_calm calm
  unfold paint
  dsimp only
  rw [drawn]
  dsimp only
  rw [surfaced, andThen, present, call_of_calm, andThen, ask_of_calm, andThen, ask_of_calm]
  · exact ⟨_, rfl⟩
  all_goals exact calm

/-- A screen is painted in any positive scale, if the host does not raise. -/
theorem paint_of_screen {l : Live} (calm : l.host.raises = [])
    (stride : l.console.machine.display.stride = 8)
    (height : l.console.machine.display.height = 32) (scale : 0 < l.player.setup.scale) :
    ∃ (frame : Frame) (canvas : Canvas) (printed : Array String), l.paint = (.ok (),
      { l with
        player := { l.player with canvas }
        requests := l.requests ++ [Request.show frame] ++ [Request.flip]
        printed }) := by
  obtain ⟨frame, drawn, -⟩ := l.player.canvas.draw_screen stride height scale
  obtain ⟨printed, painted⟩ := paint_of_drawn calm drawn
  exact ⟨frame, _, printed, painted⟩

/-! ## What is left if the host raises -/

/-- `after` comes after `l`, and the window may have been opened in between. The player got a new
tone or none, unless it is muted. -/
structure Opens (mute : Bool) (l after : Live) : Prop where
  player : ∃ canvas tone, after.player = { l.player with canvas, tone } ∧
    (tone = l.player.tone ∨ mute = false ∧ ∀ t ∈ tone, t.Fresh)
  console : after.console = l.console
  requests : ∃ more, after.requests.toList = l.requests.toList ++ more ∧ ∀ r ∈ more, r.opens

variable {mute : Bool} {l l' l'' after : Live}

theorem Opens.trans (first : l.Opens mute l') (second : l'.Opens mute l'') : l.Opens mute l'' where
  player := by
    obtain ⟨canvas, tone, same, new⟩ := first.player
    obtain ⟨canvas', tone', same', new'⟩ := second.player
    refine ⟨canvas', tone', by rw [same', same], ?_⟩
    rcases new' with rfl | new'
    · rw [same]
      exact new
    · exact .inr new'
  console := second.console.trans first.console
  requests := by
    obtain ⟨more, asked, opens⟩ := first.requests
    obtain ⟨more', asked', opens'⟩ := second.requests
    exact ⟨more ++ more', by rw [asked', asked, List.append_assoc],
      List.forall_mem_append.2 ⟨opens, opens'⟩⟩

/-- Nothing is asked for and nothing changes but the host and the printed lines. -/
theorem opens_of_same (player : after.player = l.player) (console : after.console = l.console)
    (requests : after.requests = l.requests) : l.Opens mute after :=
  ⟨⟨l.player.canvas, l.player.tone, player, .inl rfl⟩, console,
    [], by rw [requests, List.append_nil], nofun⟩

theorem opens_ask (mute : Bool) (l : Live) {requests : List Request}
    (opens : ∀ r ∈ requests, r.opens) :
    l.Opens mute (l.ask requests).2 := by
  obtain ⟨made, host, asked, begins, -⟩ := l.ask_ends requests
  rw [asked]
  exact ⟨⟨_, _, rfl, .inl rfl⟩, rfl, made, Array.toList_appendList ..,
    fun r inside => opens r (begins.subset inside)⟩

theorem opens_makeTone (l : Live) : l.Opens false l.makeTone.2 := by
  obtain ⟨tone, host, printed, made, fresh | ⟨-, kept⟩⟩ := makeTone_ends l
  · rw [made]
    exact ⟨⟨_, tone, rfl, .inr ⟨rfl, fresh⟩⟩, rfl, [], (List.append_nil _).symm, nofun⟩
  · rw [made, kept]
    exact opens_of_same rfl rfl rfl

theorem opens_paint (l : Live) : l.Opens mute l.paint.2 := by
  obtain ⟨canvas, made, host, printed, painted, shows, -⟩ := paint_ends l
  rw [painted]
  exact ⟨⟨canvas, _, rfl, .inl rfl⟩, rfl, made, Array.toList_appendList ..,
    fun r inside => Request.opens_of_shows (shows r inside)⟩

theorem opens_openWindow (title : String) (l : Live) :
    l.Opens l.player.setup.mute (l.openWindow title).2 := by
  have named : ∀ r ∈ overture title, r.opens := by simp [overture, Request.opens]
  have asked := opens_ask l.player.setup.mute l named
  have toned (l' : Live) : l'.Opens l.player.setup.mute
      (if l.player.setup.mute then (.ok (), l') else l'.makeTone).2 := by
    cases l.player.setup.mute with
    | true => exact opens_of_same rfl rfl rfl
    | false => exact opens_makeTone l'
  have opened (l' : Live) : l'.Opens l.player.setup.mute (l'.ask [.openWindow
      (64 * l.player.setup.scale) (32 * l.player.setup.scale) l.player.setup.fullscreen]).2 :=
    opens_ask _ l' (by simp [Request.opens])
  exact rel_andThen .trans (rel_andThen .trans (rel_andThen .trans (rel_andThen .trans asked toned)
    opened) fun l' => opens_of_same rfl rfl rfl) opens_paint

/-! ## The ways in which a run can go -/

def start (p : Player) (image : Image) (console : Console) (host : Host) : Live :=
  { player := p, console, host, printed := (insertLog p.log image).toArray }

end Live

/-- The program of a setup: the title of its window, its image, and the console it is played on. -/
def program (setup : Setup) (look : Path → Path.Target) : Option (String × Image × Console) :=
  setup.path.bind fun path => (openImage look path).toOption.bind fun image =>
    (insert image).toOption.map fun console => (path.name, image, console)

/-- What comes of the opening of the window in a run, if the run comes to it. -/
def opening (p : Player) (look : Path → Path.Target) (host : Host) :
    Option (Except Failure Unit × Live) :=
  if !host.window then none
  else (program p.setup look).map fun (title, image, console) =>
    (Live.start p image console host).openWindow title

def RunResult.ofLive (r : Except Failure Unit × Live) : RunResult where
  outcome := r.1
  player := r.2.player
  console := some r.2.console
  requests := r.2.requests
  printed := r.2.printed

/-- The ways in which a run can go, by what came of the opening of its window. -/
inductive RunEnds (p : Player) (look : Path → Path.Target) (host : Host) :
    Option (Except Failure Unit × Live) → RunResult → Prop where
  /-- There is no window system, no program, or no machine for it: nothing is asked of the host. -/
  | unopened {e : Failure} {printed : Array String} :
      RunEnds p look host none { outcome := .error e, player := p, printed }
  /-- The program is played in a window. -/
  | played {title : String} {image : Image} {c : Console}
      (found : program p.setup look = some (title, image, c)) :
      RunEnds p look host (some ((Live.start p image c host).openWindow title))
        (.ofLive (Live.play title (.start p image c host)))

theorem run_ends (p : Player) (look : Path → Path.Target) (host : Host) :
    RunEnds p look host (p.opening look host) (p.run look host) := by
  cases window : host.window with
  | false =>
      rw [run, opening, window]
      exact .unopened
  | true =>
      have played {title : String} {image : Image} {c : Console}
          (found : program p.setup look = some (title, image, c))
          (same : p.run look host = .ofLive (Live.play title (.start p image c host))) :
          RunEnds p look host (p.opening look host) (p.run look host) := by
        rw [same, opening, window, found]
        exact .played found
      have unopened (e : Failure) (printed : Array String) (none : program p.setup look = none)
          (same : p.run look host = { outcome := .error e, player := p, printed }) :
          RunEnds p look host (p.opening look host) (p.run look host) := by
        rw [same, opening, window, none]
        exact .unopened
      cases given : p.setup.path with
      | none =>
          exact unopened (.frontend .imageNotGiven) #[] (by simp [program, given])
            (by simp [run, window, given])
      | some path =>
          cases opened : openImage look path with
          | error e =>
              exact unopened e #[]
                (by simp [program, given, opened, Except.toOption])
                (by simp [run, window, given, opened])
          | ok image =>
              cases inserted : insert image with
              | error e =>
                  exact unopened e (insertLog p.log image).toArray
                    (by simp [program, given, opened, inserted, Except.toOption])
                    (by simp [run, window, given, opened, inserted])
              | ok c =>
                  have found : program p.setup look = some (path.name, image, c) := by
                    simp [program, given, opened, inserted, Except.toOption]
                  exact played found (by simp [run, window, given, opened, inserted]; rfl)

/-- The console of a program was made for its image. -/
theorem insert_of_program {setup : Setup} {look : Path → Path.Target} {title : String}
    {image : Image} {c : Console} (found : program setup look = some (title, image, c)) :
    insert image = .ok c := by
  obtain ⟨path, -, found⟩ := Option.bind_eq_some_iff.1 found
  obtain ⟨image', -, found⟩ := Option.bind_eq_some_iff.1 found
  obtain ⟨c', made, same⟩ := Option.map_eq_some_iff.1 found
  cases same
  cases inserted : insert image with
  | error e =>
      rw [inserted] at made
      cases made
  | ok c =>
      rw [inserted] at made
      cases made
      rfl

/-- A run that comes to the opening of its window plays a program. -/
theorem run_of_opening {p : Player} {look : Path → Path.Target} {host : Host}
    {r : Except Failure Unit × Live} (opens : p.opening look host = some r) :
    ∃ title image c, program p.setup look = some (title, image, c) ∧
      r = (Live.start p image c host).openWindow title ∧
      p.run look host = .ofLive ((Live.start p image c host).play title) := by
  have ends := run_ends p look host
  generalize p.opening look host = opening, p.run look host = result at opens ends
  cases ends with
  | unopened => cases opens
  | played found =>
      cases opens
      exact ⟨_, _, _, found, rfl, rfl⟩

/-- A run that does not come to it has no console and leaves the player as it was. -/
theorem run_of_unopened {p : Player} {look : Path → Path.Target} {host : Host}
    (none : p.opening look host = none) :
    (p.run look host).console = Option.none ∧ (p.run look host).player = p := by
  have ends := run_ends p look host
  generalize p.opening look host = opening, p.run look host = result at none ends
  cases ends with
  | unopened => exact ⟨rfl, rfl⟩
  | played found => cases none

end Player

end Chip8
