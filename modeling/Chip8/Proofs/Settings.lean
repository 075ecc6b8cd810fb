/-
# Chip8.Proofs.Settings — words for options

A command line gives an option by a word that means this option and no other (`Calls`), cut short or
not. A value stands behind an equals sign, or is the next word. Whatever is given in this way, in
whatever order and however often, the command line comes to the options that its parts make one
after another, or to the first refusal of one of them (`parse_words`).

So all options can be asked for (`parse_of_options`), switches and options without a value among
them: numbers are read as they are written, if they have no more than 4300 digits
(`read?_decimal`), and of names only those of the palettes are known.
-/
import Chip8.CommandLine
import Chip8.Proofs.Trimming
import Mathlib.Data.Nat.Digits.Defs

namespace Chip8

set_option autoImplicit false

/-! ## Numerals -/

namespace Text.WholeNumber

variable {c : Char} {text : List Char}

theorem value?_of_isDigit (digit : c.isDigit = true) :
    DecimalDigit.value? c = some (c.toNat - 48) := by
  have bounds : 48 ≤ c.toNat ∧ c.toNat ≤ 57 := Char.isDigit_iff_toNat.1 digit
  have found : DecimalDigit.zeros.find? (fun z => z ≤ c.toNat && c.toNat < z + 10) = some 48 := by
    rw [DecimalDigit.zeros, List.find?_cons_of_pos]
    simp only [Bool.and_eq_true, decide_eq_true_eq]
    omega
  rw [DecimalDigit.value?, found]
  rfl

theorem moreDigits_of_isDigit (digits : ∀ c ∈ text, c.isDigit = true) :
    moreDigits text = some (text.map fun c => c.toNat - 48) := by
  induction text with
  | nil => rfl
  | cons c rest ih =>
      have digit := digits c List.mem_cons_self
      have other : c ≠ '_' := by
        rintro rfl
        cases digit
      rw [moreDigits, value?_of_isDigit digit, ih fun c inside => digits c (.tail _ inside)]
      · rfl
      · exact fun _ _ same _ => other same

/-- A row of digits is read, first digit first, if it is not too long. -/
theorem natural?_of_isDigit (some : text ≠ []) (digits : ∀ c ∈ text, c.isDigit = true)
    (short : text.length ≤ Numeral.digitLimit) :
    natural? text = .some (Nat.ofDigitChars 10 text 0) := by
  obtain ⟨c, rest, rfl⟩ := List.exists_cons_of_ne_nil some
  have read : digits? (c :: rest) = .some ((c :: rest).map fun c => c.toNat - 48) := by
    rw [digits?, value?_of_isDigit (digits c List.mem_cons_self),
      moreDigits_of_isDigit fun c inside => digits c (.tail _ inside)]
    rfl
  rw [natural?, read, Option.bind_eq_bind, Option.bind_some, List.length_map, if_pos short, value,
    List.foldl_map]
  rfl

/-- The numeral of a number is short enough to be read. -/
def Short (z : Int) : Prop :=
  (Radix.decimal.digits z.natAbs).length ≤ Numeral.digitLimit

theorem isDigit_of_mem_digits {n : Nat} (inside : c ∈ Radix.decimal.digits n) :
    c.isDigit = true :=
  Nat.isDigit_of_mem_toDigits (by decide) (by decide) inside

theorem signed?_plain {z : Int} (short : Short z) :
    signed? (Numeral.plain .decimal z) = some z := by
  have whole : natural? (Radix.decimal.digits z.natAbs) = some z.natAbs := by
    have nonempty : Radix.decimal.digits z.natAbs ≠ [] := Nat.toDigits_ne_nil
    rw [natural?_of_isDigit nonempty (fun c => isDigit_of_mem_digits) short]
    exact congrArg some (Nat.ofDigitChars_toDigits (by decide) (by decide))
  by_cases negative : z < 0
  · rw [Numeral.plain, Numeral.sign, if_pos negative, List.singleton_append, signed?, whole]
    show some (-(z.natAbs : Int)) = some z
    rw [Int.ofNat_natAbs_of_nonpos (Int.le_of_lt negative), Int.neg_neg]
  · rw [Numeral.plain, Numeral.sign, if_neg negative, List.nil_append, signed?, whole]
    · show some (z.natAbs : Int) = some z
      rw [Int.natAbs_of_nonneg (Int.not_lt.1 negative)]
    all_goals
      intro rest same
      have digit := isDigit_of_mem_digits (n := z.natAbs) (by rw [same]; exact List.mem_cons_self)
      cases digit

theorem isSurround_of_isDigit (digit : c.isDigit = true) : isSurround c = false := by
  have bounds : 48 ≤ c.toNat ∧ c.toNat ≤ 57 := Char.isDigit_iff_toNat.1 digit
  have ascii : CharRange.mem [(48, 57)] c = true :=
    (CharRange.mem_iff ..).2 ⟨_, List.mem_singleton_self _, bounds⟩
  have other : isBlank c = false := CharRange.mem_eq_false (by decide) ascii
  rw [isSurround, other, Bool.false_and]

theorem dropWhile_isSurround (inside : ∀ c ∈ text, isSurround c = false) :
    text.dropWhile isSurround = text := by
  cases text with
  | nil => rfl
  | cons c rest => exact List.dropWhile_cons_of_neg (by simp [inside c List.mem_cons_self])

/-- A number is read as it is written. -/
theorem read?_decimal {z : Int} (short : Short z) : read? (decimal z) = some z := by
  have inside : ∀ c ∈ Numeral.plain .decimal z, isSurround c = false := by
    intro c inside
    rcases List.mem_append.1 inside with sign | digit
    · unfold Numeral.sign at sign
      split at sign
      · obtain rfl := List.mem_singleton.1 sign
        decide
      · cases sign
    · exact isSurround_of_isDigit (isDigit_of_mem_digits digit)
  rw [read?, decimal, String.toList_ofList, dropWhile_isSurround inside, dropWhile_isSurround,
    List.reverse_reverse, signed?_plain short]
  simpa using inside

end Text.WholeNumber

/-! ## Words -/

namespace CommandLine

/-- The word means this option and no other: it is a word for it, or the beginning of one that
begins no other word. -/
structure Calls (word : String) (flag : Flag) : Prop where
  hyphens : ∃ rest, word.toList = '-' :: '-' :: rest
  whole : '=' ∉ word.toList
  means : Flag.words.lookup word = some flag ∨
    Flag.words.lookup word = none ∧ ∃ entry, candidates word.toList = [(entry, flag)]

example : Calls "--sc" .scale :=
  ⟨⟨_, rfl⟩, by decide +kernel, .inr ⟨by decide +kernel, "--scale", by decide +kernel⟩⟩

variable {word : String} {flag : Flag}

theorem bne_of_whole {chars : List Char} (whole : '=' ∉ chars) :
    ∀ c ∈ chars, (c != '=') = true := by
  intro c inside
  rw [bne_iff_ne]
  rintro rfl
  exact whole inside

theorem cut_of_whole {chars : List Char} (whole : '=' ∉ chars) : cut chars = (chars, none) := by
  rw [cut, List.takeWhile_eq_self_iff.2 (bne_of_whole whole),
    List.dropWhile_eq_nil_iff.2 (bne_of_whole whole)]

theorem cut_append {chars : List Char} (whole : '=' ∉ chars) (value : List Char) :
    cut (chars ++ '=' :: value) = (chars, some value) := by
  rw [cut, List.takeWhile_append_of_pos (bne_of_whole whole),
    List.dropWhile_append_of_pos (bne_of_whole whole)]
  simp

/-- No word for an option has an equals sign in it. -/
theorem lookup_joined (word value : String) : Flag.words.lookup (word ++ "=" ++ value) = none := by
  have free : Flag.words.all (fun entry => !entry.1.toList.contains '=') = true := by decide +kernel
  rw [List.lookup_eq_none_iff]
  intro entry known
  rw [bne_iff_ne]
  intro same
  have free := List.all_eq_true.1 free entry known
  rw [← same] at free
  simp at free

theorem Calls.classify (calls : Calls word flag) : classify word = .ok (.option flag none) := by
  obtain ⟨rest, shape⟩ := calls.hyphens
  have cuts := cut_of_whole calls.whole
  rw [shape] at cuts
  rcases calls.means with known | ⟨unknown, entry, single⟩
  · simp [CommandLine.classify, shape, known]
  · rw [shape] at single
    simp [CommandLine.classify, shape, unknown, cuts, single]

/-- A value behind an equals sign is the value of the option before it. -/
theorem Calls.classify_joined (calls : Calls word flag) (value : String) :
    CommandLine.classify (word ++ "=" ++ value) = .ok (.option flag (some value.toList)) := by
  obtain ⟨rest, shape⟩ := calls.hyphens
  have chars : (word ++ "=" ++ value).toList = '-' :: '-' :: (rest ++ '=' :: value.toList) := by
    simp [shape]
  have cuts := cut_append calls.whole value.toList
  rw [shape, List.cons_append, List.cons_append] at cuts
  have back : String.ofList ('-' :: '-' :: rest) = word := by
    rw [← shape, String.ofList_toList]
  rcases calls.means with known | ⟨unknown, entry, single⟩
  · simp only [CommandLine.classify, chars, lookup_joined, cuts, Option.bind_some, back, known]
    split
    · rename_i same
      cases same
      rfl
    · rename_i same _
      cases same
      rfl
    · contradiction
  · rw [shape] at single
    simp [CommandLine.classify, chars, lookup_joined, cuts, back, unknown, single]

/-! ## Settings -/

/-- A part of a command line that gives an option, with the word for it. -/
inductive Setting where
  /-- The value stands behind an equals sign. -/
  | joined (word : String) (flag : Flag) (value : String)
  /-- The value is the next word. -/
  | apart (word : String) (flag : Flag) (value : String)
  | switch (word : String) (flag : Flag)

namespace Setting

def words : Setting → List String
  | joined word _ value => [word ++ "=" ++ value]
  | apart word _ value => [word, value]
  | switch word _ => [word]

def kinds : Setting → List (String × Word)
  | joined word flag value => [(word ++ "=" ++ value, .option flag (some value.toList))]
  | apart word flag value => [(word, .option flag none), (value, .other)]
  | switch word flag => [(word, .option flag none)]

def apply (o : Options) : Setting → Except UsageError Options
  | joined _ flag value => assign o flag value
  | apart _ flag value => assign o flag value
  | switch _ flag => .ok (switchOn o flag)

/-- Its words are taken for what they are meant for: the first calls the option, and if the next is
its value, it is not taken for an option itself. -/
def Clear : Setting → Prop
  | joined word flag _ => Calls word flag
  | apart word flag value => Calls word flag ∧ flag.takesValue = true ∧
      value ≠ "--" ∧ classify value = .ok .other
  | switch word flag => Calls word flag ∧ flag.takesValue = false ∧ flag ≠ .help

end Setting

/-- A word that calls an option does not end the options. -/
theorem Calls.ne_separator (calls : Calls word flag) : word ≠ "--" := by
  rintro rfl
  have unknown : Flag.words.lookup "--" = none := by decide +kernel
  have several : (candidates "--".toList).length ≠ 1 := by decide +kernel
  rcases calls.means with known | ⟨-, entry, single⟩
  · rw [unknown] at known
    cases known
  · exact several (by rw [single]; rfl)

theorem classifyAll_cons {kind : Word} (other : word ≠ "--") (known : classify word = .ok kind)
    (rest : List String) :
    classifyAll (word :: rest) = (classifyAll rest).map ((word, kind) :: ·) := by
  rw [classifyAll, if_neg other, known]
  cases classifyAll rest <;> rfl

theorem classifyAll_words {settings : List Setting} (clear : ∀ s ∈ settings, s.Clear) :
    classifyAll (settings.flatMap Setting.words) = .ok (settings.flatMap Setting.kinds) := by
  induction settings with
  | nil => rfl
  | cons s rest ih =>
      have known := ih fun s inside => clear s (.tail _ inside)
      have first := clear s List.mem_cons_self
      rw [List.flatMap_cons, List.flatMap_cons]
      cases s with
      | joined word flag value =>
          have calls : Calls word flag := first
          have other : word ++ "=" ++ value ≠ "--" := by
            intro same
            have unequal := congrArg (fun word => word.toList.contains '=') same
            simp at unequal
          rw [Setting.words, List.singleton_append,
            classifyAll_cons other (calls.classify_joined value), known]
          rfl
      | apart word flag value =>
          obtain ⟨calls, -, other, plain⟩ := first
          rw [Setting.words, List.cons_append, classifyAll_cons calls.ne_separator calls.classify,
            List.cons_append, classifyAll_cons other plain, List.nil_append, known]
          rfl
      | switch word flag =>
          obtain ⟨calls, -, -⟩ := first
          rw [Setting.words, List.cons_append, classifyAll_cons calls.ne_separator calls.classify,
            List.nil_append, known]
          rfl

/-- A switch does not look at what follows it. -/
theorem use_switch (unvalued : flag.takesValue = false) (other : flag ≠ .help) (o : Options)
    (unused : List String) (word : String) (rest : List (String × Word)) :
    use o unused ((word, .option flag none) :: rest) = use (switchOn o flag) unused rest := by
  cases rest with
  | nil => simp [use, unvalued, other]
  | cons entry rest =>
      obtain ⟨next, kind⟩ := entry
      cases kind <;> simp [use, unvalued, other]

/-- Settings are used one after another. -/
theorem use_kinds {settings : List Setting} (clear : ∀ s ∈ settings, s.Clear) (o : Options) :
    use o [] (settings.flatMap Setting.kinds) =
      (settings.foldlM Setting.apply o).map (.options · []) := by
  induction settings generalizing o with
  | nil => rfl
  | cons s rest ih =>
      have used (o : Options) := ih (fun s inside => clear s (.tail _ inside)) o
      have first := clear s List.mem_cons_self
      rw [List.flatMap_cons, List.foldlM_cons]
      cases s with
      | joined word flag value =>
          simp only [Setting.kinds, List.singleton_append, use, String.ofList_toList, Setting.apply]
          cases assign o flag value with
          | error e => rfl
          | ok o' => exact used o'
      | apart word flag value =>
          obtain ⟨-, valued, -, -⟩ := first
          simp only [Setting.kinds, List.cons_append, List.nil_append, use, valued, if_true,
            Setting.apply]
          cases assign o flag value with
          | error e => rfl
          | ok o' => exact used o'
      | switch word flag =>
          obtain ⟨-, unvalued, other⟩ := first
          exact (use_switch unvalued other o [] word _).trans (used (switchOn o flag))

/-- A command line of settings comes to the options that they make one after another, or to the
first refusal of one of them. The program must be among them. -/
theorem parse_words {settings : List Setting} (clear : ∀ s ∈ settings, s.Clear) :
    parse (settings.flatMap Setting.words) = (settings.foldlM Setting.apply {}).bind fun o =>
      o.rom.elim (.error .romMissing) fun path => .ok (some (path, o)) := by
  rw [parse, classifyAll_words clear]
  show (use {} [] (settings.flatMap Setting.kinds)).bind _ = _
  rw [use_kinds clear]
  cases settings.foldlM Setting.apply {} with
  | error e => rfl
  | ok o =>
      dsimp only [Except.map, Except.bind, List.isEmpty_nil]
      cases o.rom <;> rfl

/-! ## All options -/

/-- The word for the option that is not cut short. -/
def Flag.long : Flag → String
  | .help => "--help"
  | flag => flag.label

theorem calls_long (flag : Flag) : Calls flag.long flag where
  hyphens := by cases flag <;> exact ⟨_, rfl⟩
  whole := by cases flag <;> decide +kernel
  means := .inl (by cases flag <;> decide +kernel)

def Value.text {α : Type} (write : α → String) : Value α → String
  | .given a => write a
  | .empty => "--"

namespace Setting

def switches (flag : Flag) (on : Bool) : List Setting := if on then [.switch flag.long flag] else []

theorem clear_switches (unvalued : flag.takesValue = false) (other : flag ≠ .help) (on : Bool) :
    ∀ s ∈ switches flag on, s.Clear := by
  cases on with
  | false => exact nofun
  | true => exact List.forall_mem_singleton.2 ⟨calls_long flag, unvalued, other⟩

theorem apply_switches (flag : Flag) (on : Bool) (o : Options) :
    (switches flag on).foldlM apply o = .ok (if on then switchOn o flag else o) := by
  cases on <;> rfl

end Setting

namespace Options

/-- Words can give these options: every number among them can be written, and the palette has a
name. -/
structure Writable (o : Options) : Prop where
  scale : ∀ z, o.scale = .given z → Text.WholeNumber.Short z
  ipf : ∀ z, o.ipf = .given z → Text.WholeNumber.Short z
  glyphStride : ∀ z, o.glyphStride = .given z → Text.WholeNumber.Short z
  palette : ∀ name, o.palette = .given name → name = "amber" ∨ name = "mono"

/-- Settings for all of the options, with the text of the program's path. -/
def settings (o : Options) (rom : String) : List Setting :=
  [.joined Flag.rom.long .rom rom,
    .joined Flag.scale.long .scale (o.scale.text Text.decimal),
    .joined Flag.ipf.long .ipf (o.ipf.text Text.decimal),
    .joined Flag.glyphStride.long .glyphStride (o.glyphStride.text Text.decimal),
    .joined Flag.palette.long .palette (o.palette.text id)] ++
  (Setting.switches .shiftVx o.shiftVx ++ (Setting.switches .fullscreen o.fullscreen ++
    Setting.switches .mute o.mute))

theorem clear_settings (o : Options) (rom : String) : ∀ s ∈ o.settings rom, s.Clear := by
  refine List.forall_mem_append.2 ⟨?_, List.forall_mem_append.2 ⟨?_, List.forall_mem_append.2
    ⟨?_, ?_⟩⟩⟩
  · simp only [List.forall_mem_cons]
    exact ⟨calls_long _, calls_long _, calls_long _, calls_long _, calls_long _, nofun⟩
  all_goals exact Setting.clear_switches (by rfl) (by decide) _

end Options

/-- A value is read as it is written. -/
theorem valueOf_text {α : Type} {read : String → Except UsageError α} {write : α → String}
    {v : Value α} (reads : ∀ a, v = .given a → write a ≠ "--" ∧ read (write a) = .ok a) :
    valueOf read (v.text write) = .ok v := by
  cases v with
  | empty => rfl
  | given a =>
      obtain ⟨other, read⟩ := reads a rfl
      rw [Value.text, valueOf, if_neg other, read]
      rfl

theorem valueOf_decimal (flag : Flag) {v : Value Int}
    (short : ∀ z, v = .given z → Text.WholeNumber.Short z) :
    valueOf (number flag) (v.text Text.decimal) = .ok v := by
  refine valueOf_text fun z given => ?_
  have read := Text.WholeNumber.read?_decimal (short z given)
  refine ⟨fun same => ?_, by rw [number, read]⟩
  rw [same] at read
  have refused : Text.WholeNumber.read? "--" = none := by decide +kernel
  cases refused.symm.trans read

/-- All options can be asked for. -/
theorem parse_of_options {o : Options} {rom : String} (given : o.rom = some (.given (.ofText rom)))
    (named : rom ≠ "--") (writable : o.Writable) :
    parse ((o.settings rom).flatMap Setting.words) = .ok (some (.given (.ofText rom), o)) := by
  have titled : valueOf (fun text => .ok (Path.ofText text)) rom = .ok (.given (.ofText rom)) := by
    rw [valueOf, if_neg named]
    rfl
  have scaled := valueOf_decimal .scale writable.scale
  have paced := valueOf_decimal .ipf writable.ipf
  have spaced := valueOf_decimal .glyphStride writable.glyphStride
  have coloured : valueOf paletteName (o.palette.text id) = .ok o.palette := by
    refine valueOf_text fun name given => ?_
    rcases writable.palette name given with rfl | rfl <;> exact ⟨by decide, rfl⟩
  have applied : (o.settings rom).foldlM Setting.apply {} = .ok o := by
    obtain ⟨program, scale, ipf, shiftVx, stride, fullscreen, palette, mute⟩ := o
    obtain rfl : program = some (.given (.ofText rom)) := given
    simp only [Options.settings, List.foldlM_append, List.foldlM_cons, List.foldlM_nil,
      Setting.apply, assign, titled, scaled, paced, spaced, coloured, bind, Except.bind, pure,
      Except.pure, Setting.apply_switches]
    cases shiftVx <;> cases fullscreen <;> cases mute <;> rfl
  rw [parse_words (o.clear_settings rom), applied]
  show o.rom.elim _ _ = _
  rw [given]
  rfl

end CommandLine

end Chip8
