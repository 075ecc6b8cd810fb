/-
# Chip8.Proofs.Exit — the exit status of the program

A program file is rejected exactly if it is empty or longer than the 3584 bytes that there are
from `0x200` on; the program then ends with status 1 and has asked its host for nothing
(`run_of_rejected`). Any other file is played in a window until that is closed (`run_of_accepted`).
What happens in its frames is the course of a session, and the exit tells of it what there is to
tell: status 2 if a frame met a fault, even one long before the last, and status 0 if none did.

`exit_of_run` says this of every command line with good options, every file and every host that does
not raise and whose events close the window. Which words give which options is said in
`Chip8.Proofs.Settings`.
-/
import Chip8.Program
import Chip8.Proofs.Loading
import Chip8.Proofs.WindowSession

namespace Chip8

set_option autoImplicit false

namespace Player

variable {p : Player} {look : Path → Path.Target} {host : Host} {path : Path} {data : List Byte}

/-- The bytes of a program file make an image if they are some and fit behind `0x200`. -/
theorem openImage_of_file (file : look path = .file data) :
    (∀ reason, Image.load data Image.standardStart path.stem = .error reason →
        openImage look path = .error (.frontend (.imageRejected path.text reason))) ∧
      ∀ image, Image.load data Image.standardStart path.stem = .ok image →
        openImage look path = .ok image := by
  simp only [openImage, file]
  exact ⟨fun _ rejected => by rw [rejected], fun _ made => by rw [made]⟩

theorem load_isOk_iff (data : List Byte) (name : String) :
    (∃ image, Image.load data Image.standardStart name = .ok image) ↔
      ¬(data = [] ∨ 3584 < data.length) := by
  simp only [Image.load_eq_ok_iff]
  have size : Memory.standardSize = 4096 := rfl
  have start : Image.standardStart = 512 := rfl
  constructor
  · rintro ⟨-, -, -, some, fits⟩ (none | long)
    · exact some none
    · omega
  · intro good
    obtain ⟨some, short⟩ := not_or.1 good
    exact ⟨_, rfl, by omega, some, by omega⟩

/-- A run whose file is empty or too long ends before it asks for anything. -/
theorem run_of_rejected (window : host.window = true) (given : p.setup.path = some path)
    (file : look path = .file data) (bad : data = [] ∨ 3584 < data.length) :
    ∃ e, (p.run look host).outcome = .error (.frontend e) ∧ (p.run look host).requests = #[] := by
  cases made : Image.load data Image.standardStart path.stem with
  | ok image => exact absurd bad ((load_isOk_iff data path.stem).1 ⟨image, made⟩)
  | error reason =>
      have opened := (openImage_of_file file).1 reason made
      simp only [run, window, given, opened, Bool.not_true, Bool.false_eq_true, if_false]
      exact ⟨_, rfl, trivial⟩

/-- An image of the standard address is never refused by the machine. -/
theorem insert_of_load {name : String} {image : Image}
    (made : Image.load data Image.standardStart name = .ok image) :
    ∃ c, Console.create Generator.standardSeed 0x200 data = .ok c ∧ insert image = .ok c := by
  obtain ⟨rfl, nonneg, some, fits⟩ := (Image.load_eq_ok_iff ..).1 made
  have created := Console.create_of_fits Generator.standardSeed some ⟨nonneg, fits⟩
  refine ⟨_, created, ?_⟩
  simp only [insert, created]

/-- A program that was inserted is played. -/
theorem run_of_insert {image : Image} {c : Console} (window : host.window = true)
    (given : p.setup.path = some path) (opened : openImage look path = .ok image)
    (inserted : insert image = .ok c) :
    p.run look host = .ofLive (Live.play path.name
      { player := p, console := c, host, printed := (insertLog p.log image).toArray }) := by
  simp only [run, window, given, opened, inserted, Bool.not_true, Bool.false_eq_true, if_false]
  rfl

/-- A run of any other file ends without a failure, and its frames are those of a session. -/
theorem run_of_accepted (window : host.window = true) (given : p.setup.path = some path)
    (file : look path = .file data) (good : ¬(data = [] ∨ 3584 < data.length))
    (scale : 0 < p.setup.scale) (palette : p.canvas.palette = p.setup.palette)
    (tone : p.tone = none) (rates : host.ShortRates) (calm : host.raises = [])
    {earlier later : List (List Event)} {last : List Event}
    (frames : host.frames = earlier ++ last :: later)
    (unclosed : ∀ batch ∈ earlier, batch.any Event.closes = false)
    (closing : last.any Event.closes = true) :
    ∃ c, Console.create Generator.standardSeed 0x200 data = .ok c ∧
      (p.run look host).outcome = .ok () ∧
      (p.run look host).player.halt =
        (Session.run ⟨p, c, []⟩ ((earlier ++ [last]).flatMap batchActs)).player.halt ∧
      (p.run look host).requests.toList.countP Request.waits = earlier.length + 1 := by
  obtain ⟨image, made⟩ := (load_isOk_iff data path.stem).2 good
  obtain ⟨c, created, inserted⟩ := insert_of_load made
  have screen := Live.display_of_insert inserted
  have begins : Live.Begins
      { player := p, console := c, host, printed := (insertLog p.log image).toArray } :=
    ⟨rfl, by rw [screen]; rfl, by rw [screen]; rfl, scale, palette, tone, rates, calm⟩
  obtain ⟨after, played, halt, waits⟩ :=
    Live.play_of_closing begins path.name frames unclosed closing
  rw [run_of_insert window given ((openImage_of_file file).2 image made) inserted, played]
  exact ⟨c, created, rfl, halt, waits⟩

end Player

namespace Program

/-- Good options make a player. -/
theorem player_of_options {look : Path → Path.Target} {path : Path} {data : List Byte}
    {o : CommandLine.Options} {scale ipf stride : Int} {palette : String}
    (file : look path = .file data)
    (scaled : o.scale = .given scale) (scalePos : 0 < scale)
    (paced : o.ipf = .given ipf) (ipfPos : 0 < ipf)
    (spaced : o.glyphStride = .given stride) (stridePos : 0 < stride)
    (coloured : o.palette = .given palette) (log : Log.Filter) :
    player look (.given path) o log = .ok (.create
      { path := some path
        scale := scale.toNat
        fullscreen := o.fullscreen
        budget := ipf.toNat
        dialect := ⟨!o.shiftVx, stride.toNat, Refusal.toNat_pos stridePos⟩
        palette := (Palette.named.lookup palette).getD .monochrome
        mute := o.mute
        budget_pos := Refusal.toNat_pos ipfPos }
      log) := by
  simp only [player, existing, file, Path.Target.present, scaled, paced, spaced, coloured, positive,
    needed, bind, Except.bind, scalePos, ipfPos, stridePos, dif_pos]
  rfl

/-- The exit after a run that was played tells whether a fault was met, however early. -/
theorem exitOf_of_played {r : Player.RunResult} {h : Player.History} (outcome : r.outcome = .ok ())
    (halt : r.player.halt = h.fault.map (·.2)) :
    ∃ exit, exitOf r = .ok exit ∧ exit.status ≠ 1 ∧
      (exit.status = 2 ↔ ∃ m f, h.fault = some (m, f)) ∧ (exit.status = 0 ↔ h.fault = none) := by
  cases fault : h.fault with
  | none =>
      rw [fault] at halt
      refine ⟨⟨0, ""⟩, ?_, by decide, iff_of_false (by decide) (by simp), iff_of_true rfl rfl⟩
      rw [exitOf, outcome, halt]
      rfl
  | some met =>
      obtain ⟨m, f⟩ := met
      rw [fault] at halt
      refine ⟨⟨2, name ++ ": guest program halted: " ++ f.message⟩, ?_, by simp,
        iff_of_true rfl ⟨m, f, rfl⟩, iff_of_false (by simp) (by simp)⟩
      rw [exitOf, outcome, halt]
      rfl

/-- The law of the exit status. Let a command line give good options and an existing file, and let
the host have a window system, a mixer that tells rates of 32 bits if it is open, and events that
close the window, and let it never raise. The program ends with an exit and with no failure. Its
status is 1 exactly if the file is empty or too long, and then the host was asked for nothing.
Otherwise the machine for the file can be made, and one frame is played for each batch of events up
to the first that closes the window, with its events and the whole budget of instructions unless one
of them faults. The status is 2 if one did in any of these frames, and 0 if none did. -/
theorem exit_of_run {words : List String} (log : Log.Filter) {look : Path → Path.Target}
    {host : Host} {path : Path} {data : List Byte} {o : CommandLine.Options}
    {scale ipf stride : Int} {palette : String} {earlier later : List (List Event)}
    {last : List Event}
    (asked : CommandLine.parse words = .ok (some (.given path, o)))
    (file : look path = .file data)
    (scaled : o.scale = .given scale) (scalePos : 0 < scale)
    (paced : o.ipf = .given ipf) (ipfPos : 0 < ipf)
    (spaced : o.glyphStride = .given stride) (stridePos : 0 < stride)
    (coloured : o.palette = .given palette)
    (window : host.window = true) (rates : host.ShortRates) (calm : host.raises = [])
    (frames : host.frames = earlier ++ last :: later)
    (unclosed : ∀ batch ∈ earlier, batch.any Event.closes = false)
    (closing : last.any Event.closes = true) :
    let r := run words log look host
    ∃ exit, r.outcome = .ok exit ∧
      (exit.status = 1 ↔ data = [] ∨ 3584 < data.length) ∧
      (exit.status = 1 → r.requests = #[]) ∧
      (exit.status ≠ 1 → ∃ c h d,
        Console.create Generator.standardSeed 0x200 data = .ok c ∧
        Player.Course
          { dialect := ⟨!o.shiftVx, stride.toNat, Refusal.toNat_pos stridePos⟩, log } ipf.toNat c
          ((earlier ++ [last]).flatMap Player.batchActs) h d ∧
        r.requests.toList.countP Request.waits = earlier.length + 1 ∧
        (exit.status = 2 ↔ ∃ m f, h.fault = some (m, f)) ∧
        (exit.status = 0 ↔ h.fault = none)) := by
  intro r
  let p := Player.create
    { path := some path
      scale := scale.toNat
      fullscreen := o.fullscreen
      budget := ipf.toNat
      dialect := ⟨!o.shiftVx, stride.toNat, Refusal.toNat_pos stridePos⟩
      palette := (Palette.named.lookup palette).getD .monochrome
      mute := o.mute
      budget_pos := Refusal.toNat_pos ipfPos } log
  have made : player look (.given path) o log = .ok p :=
    player_of_options file scaled scalePos paced ipfPos spaced stridePos coloured log
  have exits : r.outcome = exitOf (p.run look host) ∧ r.requests = (p.run look host).requests := by
    simp only [r, run, asked, made]
    exact ⟨trivial, trivial⟩
  by_cases bad : data = [] ∨ 3584 < data.length
  · obtain ⟨e, outcome, requests⟩ := Player.run_of_rejected (p := p) window rfl file bad
    refine ⟨⟨1, name ++ ": " ++ e.message⟩, ?_, iff_of_true rfl bad, fun _ => ?_, fun other => ?_⟩
    · rw [exits.1, exitOf, outcome]
    · rw [exits.2, requests]
    · exact absurd rfl other
  · have pos : 0 < p.setup.scale := by
      show 0 < (scale.toNat : Int)
      omega
    obtain ⟨c, created, outcome, halt, waits⟩ := Player.run_of_accepted (p := p) window rfl file bad
      pos rfl rfl rates calm frames unclosed closing
    obtain ⟨h, course, tracks⟩ :=
      Player.tracks_run (p := p) InstructionSet.readable_standard rfl c
        ((earlier ++ [last]).flatMap Player.batchActs)
    obtain ⟨exit, exited, played, faulted, fine⟩ :=
      exitOf_of_played outcome (halt.trans tracks.halt)
    rw [← exits.1] at exited
    rw [← exits.2] at waits
    exact ⟨exit, exited, iff_of_false played bad, fun one => absurd one played,
      fun _ => ⟨c, h, _, created, course, waits, faulted, fine⟩⟩

/-- A guest that faults in its first frame, in a window that is closed in the third. -/
theorem exit_of_run_after_an_early_fault :
    let words := ["--rom", "fault.ch8", "--ipf=2"]
    let path : Path := .ofText "fault.ch8"
    let look (_ : Path) : Path.Target := .file [0x60, 0x05, 0xFF, 0xFF]
    let earlier : List (List Event) := [[.keyDown "q"], []]
    let last : List Event := [.keyUp "q", .keyDown "escape"]
    let host : Host := { frames := earlier ++ last :: [[.quit]] }
    let r := run words .silent look host
    CommandLine.parse words =
        .ok (some (.given path, { rom := some (.given path), ipf := .given 2 })) ∧
      (∀ batch ∈ earlier, batch.any Event.closes = false) ∧ last.any Event.closes = true ∧
      r.outcome = .ok ⟨2, "run.py: guest program halted: illegal instruction 0xffff"⟩ ∧
      ∃ c h d, Player.Course {} 2 c
          [.press "q", .frame, .frame, .release "q", .frame] h d ∧
        r.requests.toList.countP Request.waits = 3 ∧ ∃ m f, h.fault = some (m, f) := by
  intro words path look earlier last host r
  have asked : CommandLine.parse words =
      .ok (some (.given path, { rom := some (.given path), ipf := .given 2 })) := by
    decide +kernel
  have rates : host.ShortRates := by
    intro rate told
    obtain rfl := Option.some.inj (List.mem_singleton.1 told)
    decide
  have unclosed : ∀ batch ∈ earlier, batch.any Event.closes = false := by decide +kernel
  have closing : last.any Event.closes = true := by decide +kernel
  have outcome :
      r.outcome = .ok ⟨2, "run.py: guest program halted: illegal instruction 0xffff"⟩ := by
    decide +kernel
  have file : look path = .file [0x60, 0x05, 0xFF, 0xFF] := rfl
  have frames : host.frames = earlier ++ last :: [[.quit]] := rfl
  have stride : (0 : Int) < 1 := by decide
  obtain ⟨exit, exits, -, -, played⟩ := exit_of_run .silent asked file rfl (by decide) rfl
    (by decide) rfl stride rfl rfl rates rfl frames unclosed closing
  obtain rfl := Except.ok.inj (outcome.symm.trans exits)
  obtain ⟨c, h, d, -, course, waits, faulted, -⟩ := played (by simp)
  exact ⟨asked, unclosed, closing, outcome, c, h, d, course, waits, faulted.1 rfl⟩

end Program

end Chip8
