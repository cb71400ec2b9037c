import Trackplan.Proofs.ArgumentOrder

/-! Which arguments are taken. The usage has three lines, and on each of them the options that go
together; what is taken keeps to one of the lines, or else it asks for the check along with a query. -/
namespace Trackplan.CommandLine

variable {text : String} {n : Nat}

/-- The number that a text writes: decimal digits, at least one, perhaps after a plus sign. -/
def Numeral (text : String) (n : Nat) : Prop :=
  ∃ digits : List Char, digits ≠ [] ∧ (∀ d ∈ digits, d.isDigit = true) ∧
    (text.toList = digits ∨ text.toList = '+' :: digits) ∧ Nat.ofDigitChars 10 digits 0 = n

theorem wordOf?_eq_some : wordOf? text = some n ↔ Numeral text n ∧ n < wordLimit := by
  have reads (digits : List Char) :
      (if digits ≠ [] ∧ digits.all Char.isDigit ∧ Nat.ofDigitChars 10 digits 0 < wordLimit
        then some (Nat.ofDigitChars 10 digits 0) else none) = some n ↔
      (digits ≠ [] ∧ (∀ d ∈ digits, d.isDigit = true) ∧ Nat.ofDigitChars 10 digits 0 = n) ∧
        n < wordLimit := by
    rw [Option.ite_none_right_eq_some, List.all_eq_true, Option.some.injEq]
    constructor
    · rintro ⟨⟨some, all, small⟩, rfl⟩; exact ⟨⟨some, all, rfl⟩, small⟩
    · rintro ⟨⟨some, all, rfl⟩, small⟩; exact ⟨⟨some, all, small⟩, rfl⟩
  unfold wordOf?
  split
  · rename_i rest signed
    refine (reads rest).trans (and_congr_left' ⟨?_, ?_⟩)
    · rintro ⟨some, all, value⟩
      exact ⟨rest, some, all, .inr signed, value⟩
    · rintro ⟨digits, some, all, plain | same, value⟩
      · have sign : '+' ∈ digits := by rw [← plain, signed]; exact List.mem_cons_self
        exact absurd (all _ sign) (by decide)
      · obtain rfl : rest = digits := by simpa [signed] using same
        exact ⟨some, all, value⟩
  · rename_i unsigned
    refine (reads text.toList).trans (and_congr_left' ⟨?_, ?_⟩)
    · rintro ⟨some, all, value⟩
      exact ⟨text.toList, some, all, .inl rfl, value⟩
    · rintro ⟨digits, some, all, rfl | signed, value⟩
      · exact ⟨some, all, value⟩
      · exact absurd signed (unsigned digits)

theorem widthOf?_eq_some :
    widthOf? text = some n ↔ Numeral text n ∧ 0 < n ∧ n < wordLimit := by
  have word : wordOf? text = some n ↔ _ := wordOf?_eq_some
  unfold widthOf?
  split
  · rename_i zero
    rw [zero, Option.some.injEq] at word
    constructor
    · rintro ⟨⟩
    · rintro ⟨number, positive, small⟩
      obtain rfl := word.mpr ⟨number, small⟩
      exact absurd positive (Nat.lt_irrefl 0)
  · rename_i nonzero
    rw [word]
    constructor
    · rintro ⟨number, small⟩
      refine ⟨number, Nat.pos_of_ne_zero ?_, small⟩
      rintro rfl
      exact nonzero (word.mpr ⟨number, small⟩)
    · rintro ⟨number, -, small⟩; exact ⟨number, small⟩

namespace Setting

variable {s : Setting} {settings : List Setting} {argument value : String}
  {piece arguments : List String}

/-- How a setting is written. -/
inductive Writes : Setting → List String → Prop
  | rule (name : String) : Writes (.rule name) ["--rule", name]
  | sectionId (id : String) : Writes (.sectionId id) ["--section", id]
  | filter (query : String) : Writes (.filter query) ["--filter", query]
  | regex : Writes .regex ["--regex"]
  | list : Writes .list ["--list"]
  | json : Writes .json ["--json"]
  | peg : Writes .peg ["--peg"]
  | check : Writes .check ["--check"]
  | noComments : Writes .noComments ["--no-comments"]
  | limit {width : String} {n : Nat} (number : Numeral width n) (positive : 0 < n)
    (small : n < wordLimit) : Writes (.limit n) ["--max-label-width", width]
  | help : Writes .help ["--help"]
  | shortHelp : Writes .help ["-h"]

/-- The arguments write the settings one after the other. -/
inductive Written : List Setting → List String → Prop
  | nil : Written [] []
  | cons {s : Setting} {settings : List Setting} {piece rest : List String}
    (first : Writes s piece) (later : Written settings rest) : Written (s :: settings) (piece ++ rest)

theorem writes_of_flag? (flag : flag? argument = some s) : Writes s [argument] := by
  unfold flag? at flag
  split at flag <;> cases flag <;> constructor

theorem writes_of_reader? {read : String → Option Setting} (option : reader? argument = some read)
    (made : read value = some s) : Writes s [argument, value] := by
  unfold reader? at option
  split at option
  · cases option; cases made; exact .rule value
  · cases option; cases made; exact .sectionId value
  · cases option; cases made; exact .filter value
  · cases option
    obtain ⟨n, width, rfl⟩ := Option.map_eq_some_iff.1 made
    obtain ⟨number, positive, small⟩ := widthOf?_eq_some.1 width
    exact .limit number positive small
  · cases option

theorem Writes.ofArguments_append (writes : Writes s piece) (rest : List String) :
    ofArguments (piece ++ rest) = (ofArguments rest).map (s :: ·) := by
  cases writes with
  | rule | sectionId | filter => exact (ofArguments_option rfl _ rest).trans rfl
  | limit number positive small =>
    have width := widthOf?_eq_some.2 ⟨number, positive, small⟩
    refine (ofArguments_option rfl _ rest).trans ?_
    rw [width]
    rfl
  | regex | list | json | peg | check | noComments | help | shortHelp =>
    exact ofArguments_alone rfl rest

theorem Written.ofArguments (written : Written settings arguments) :
    ofArguments arguments = some settings := by
  induction written with
  | nil => rfl
  | cons first later ih => rw [first.ofArguments_append, ih, Option.map_some]

/-- Reading finds the settings that were written, and no others. -/
theorem ofArguments_eq_some : ofArguments arguments = some settings ↔ Written settings arguments := by
  refine ⟨fun made => ?_, Written.ofArguments⟩
  fun_induction Setting.ofArguments arguments generalizing settings with
  | case1 => cases made; exact .nil
  | case2 last =>
    obtain ⟨s, flag, rfl⟩ := Option.map_eq_some_iff.1 made
    exact .cons (writes_of_flag? flag) .nil
  | case3 first second rest read option ih =>
    simp only [bind, Option.bind_eq_some_iff, pure, Option.some.injEq] at made
    obtain ⟨s, made, later, others, rfl⟩ := made
    exact .cons (writes_of_reader? option made) (ih others)
  | case4 first second rest alone ih =>
    simp only [bind, Option.bind_eq_some_iff, pure, Option.some.injEq] at made
    obtain ⟨s, flag, later, others, rfl⟩ := made
    exact .cons (writes_of_flag? flag) (ih others)

end Setting

namespace Options

variable {o made : Options} {s : Setting} {settings : List Setting}

theorem foldlM_set_eq_some : settings.foldlM set o = some made ↔
    ((settings.map Setting.option).Nodup ∧ ∀ s ∈ settings, o.holds s = false) ∧
      settings.foldl put o = made := by
  induction settings generalizing o with
  | nil => simp
  | cons s rest ih =>
    rw [List.foldlM_cons, List.foldl_cons, List.map_cons, List.nodup_cons, List.forall_mem_cons]
    cases given : o.holds s with
    | true => simp [set_of_holds given]
    | false =>
      rw [set_of_not_holds given]
      refine ih.trans (and_congr_left' ?_)
      have free : (∀ t ∈ rest, (o.put s).holds t = false) ↔
          s.option ∉ rest.map Setting.option ∧ ∀ t ∈ rest, o.holds t = false := by
        simp only [holds_put, Bool.or_eq_false_iff, decide_eq_false_iff_not, List.mem_map,
          not_exists, not_and, ← forall_and]
        exact forall₂_congr fun t mem => and_congr_left' ne_comm
      rw [free]
      tauto

theorem holds_foldl_put (settings : List Setting) (o : Options) (s : Setting) :
    (settings.foldl put o).holds s = true ↔
      s.option ∈ settings.map Setting.option ∨ o.holds s = true := by
  induction settings generalizing o with
  | nil => simp
  | cons t rest ih =>
    rw [List.foldl_cons, ih, holds_put, List.map_cons, List.mem_cons, Bool.or_eq_true,
      decide_eq_true_iff, ← or_assoc, or_comm (a := s.option = t.option), eq_comm]

end Options

namespace Usage

/-- Options that may stand beside any others. -/
def anywhere : List String := ["--max-label-width", "--no-comments", "--help"]

/-- Options that choose the form of the output. -/
def forms : List String := ["--json", "--peg", "--list"]

def options : List String :=
  anywhere ++ forms ++ ["--section", "--filter", "--regex", "--rule", "--check"]

/-- No two of the choices are given. -/
def OneAtMost (given choices : List String) : Prop :=
  ∀ a ∈ given, ∀ b ∈ given, a ∈ choices → b ∈ choices → a = b

/-- The options that are given keep to one of the lines of the usage. -/
inductive Kept (given : List String) : Prop
  | listing (known : given ⊆ anywhere ++ forms ++ ["--section", "--filter", "--regex"])
    (searched : "--regex" ∈ given → "--filter" ∈ given) (single : OneAtMost given forms)
  | rule (asked : "--rule" ∈ given) (known : given ⊆ anywhere ++ ["--json", "--peg", "--rule"])
    (single : OneAtMost given ["--json", "--peg"])
  | check (asked : "--check" ∈ given) (known : given ⊆ anywhere ++ ["--check"])

/-- The check is asked for along with a query, to which it pays no heed. -/
structure ChecksQuery (given : List String) : Prop where
  asked : "--check" ∈ given
  searched : "--filter" ∈ given
  known : given ⊆ anywhere ++ ["--check", "--filter", "--regex"]

/-- What is looked at once all options are made. -/
structure Compatible (given : List String) : Prop where
  single : OneAtMost given forms
  searched : "--regex" ∈ given → "--filter" ∈ given
  rule : "--rule" ∈ given → "--section" ∉ given ∧ "--filter" ∉ given ∧ "--list" ∉ given
  check : "--check" ∈ given → "--rule" ∉ given ∧ "--section" ∉ given ∧ ∀ form ∈ forms, form ∉ given

variable {given allowed choices : List String}

theorem subset_of_known (known : given ⊆ options)
    (others : ∀ option ∈ options, option ∉ allowed → option ∉ given) : given ⊆ allowed := by
  intro option mem
  by_contra out
  exact others option (known mem) out mem

theorem absent (known : given ⊆ allowed) {option : String} (out : option ∉ allowed) :
    option ∉ given := fun mem => out (known mem)

theorem OneAtMost.mono {fewer : List String} (single : OneAtMost given choices)
    (part : fewer ⊆ choices) : OneAtMost given fewer :=
  fun a memA b memB chosenA chosenB => single a memA b memB (part chosenA) (part chosenB)

theorem OneAtMost.of_known {fewer : List String} (single : OneAtMost given fewer)
    (known : given ⊆ allowed) (left : ∀ option ∈ allowed, option ∈ choices → option ∈ fewer) :
    OneAtMost given choices := fun a memA b memB chosenA chosenB =>
  single a memA b memB (left a (known memA) chosenA) (left b (known memB) chosenB)

/-- Where no choice is allowed, none is given. -/
theorem oneAtMost_of_known (known : given ⊆ allowed)
    (out : ∀ option ∈ allowed, option ∉ choices) : OneAtMost given choices :=
  fun a mem _ _ chosen _ => absurd chosen (out a (known mem))

theorem oneAtMost_forms : OneAtMost given forms ↔
    ("--json" ∈ given → "--peg" ∉ given ∧ "--list" ∉ given) ∧
      ("--peg" ∈ given → "--list" ∉ given) := by
  constructor
  · intro single
    have apart {a b : String} (other : a ≠ b) (chosenA : a ∈ forms) (chosenB : b ∈ forms)
        (memA : a ∈ given) : b ∉ given := fun memB => other (single a memA b memB chosenA chosenB)
    exact ⟨fun json => ⟨apart (by decide) (by decide) (by decide) json,
      apart (by decide) (by decide) (by decide) json⟩, apart (by decide) (by decide) (by decide)⟩
  · rintro ⟨json, peg⟩ a memA b memB chosenA chosenB
    simp only [forms, List.mem_cons, List.not_mem_nil, or_false] at chosenA chosenB
    rcases chosenA with rfl | rfl | rfl <;> rcases chosenB with rfl | rfl | rfl
    · rfl
    · exact absurd memB (json memA).1
    · exact absurd memB (json memA).2
    · exact absurd memA (json memB).1
    · rfl
    · exact absurd memB (peg memA)
    · exact absurd memA (json memB).2
    · exact absurd memA (peg memB)
    · rfl

theorem Compatible.kept_or_checksQuery (compatible : Compatible given) (known : given ⊆ options) :
    Kept given ∨ ChecksQuery given := by
  by_cases rule : "--rule" ∈ given
  · obtain ⟨noSection, noFilter, noList⟩ := compatible.rule rule
    have noCheck : "--check" ∉ given := fun check => (compatible.check check).1 rule
    have noRegex : "--regex" ∉ given := fun regex => noFilter (compatible.searched regex)
    refine .inl (.rule rule (subset_of_known known ?_) (compatible.single.mono (by decide)))
    simp [options, anywhere, forms, noSection, noFilter, noList, noCheck, noRegex]
  · by_cases check : "--check" ∈ given
    · obtain ⟨-, noSection, noForm⟩ := compatible.check check
      simp only [forms, List.forall_mem_cons] at noForm
      obtain ⟨noJson, noPeg, noList, -⟩ := noForm
      by_cases filter : "--filter" ∈ given
      · refine .inr ⟨check, filter, subset_of_known known ?_⟩
        simp [options, anywhere, forms, rule, noSection, noJson, noPeg, noList]
      · have noRegex : "--regex" ∉ given := fun regex => filter (compatible.searched regex)
        refine .inl (.check check (subset_of_known known ?_))
        simp [options, anywhere, forms, rule, noSection, noJson, noPeg, noList, filter, noRegex]
    · refine .inl (.listing (subset_of_known known ?_) compatible.searched compatible.single)
      simp [options, anywhere, forms, rule, check]

theorem Kept.compatible (kept : Kept given) : Compatible given := by
  cases kept with
  | listing known searched single =>
    exact ⟨single, searched, fun rule => absurd rule (absent known (by decide)),
      fun check => absurd check (absent known (by decide))⟩
  | rule asked known single =>
    refine ⟨single.of_known known (by decide), ?_, fun _ => ⟨?_, ?_, ?_⟩, ?_⟩
    · exact fun regex => absurd regex (absent known (by decide))
    · exact absent known (by decide)
    · exact absent known (by decide)
    · exact absent known (by decide)
    · exact fun check => absurd check (absent known (by decide))
  | check asked known =>
    have noForm : ∀ option ∈ anywhere ++ ["--check"], option ∉ forms := by decide
    refine ⟨oneAtMost_of_known known noForm, ?_, ?_, fun _ => ⟨?_, ?_, ?_⟩⟩
    · exact fun regex => absurd regex (absent known (by decide))
    · exact fun rule => absurd rule (absent known (by decide))
    · exact absent known (by decide)
    · exact absent known (by decide)
    · exact fun form chosen mem => noForm form (known mem) chosen

theorem ChecksQuery.compatible (checks : ChecksQuery given) : Compatible given := by
  have noForm : ∀ option ∈ anywhere ++ ["--check", "--filter", "--regex"], option ∉ forms := by
    decide
  refine ⟨oneAtMost_of_known checks.known noForm, fun _ => checks.searched, ?_,
    fun _ => ⟨?_, ?_, ?_⟩⟩
  · exact fun rule => absurd rule (absent checks.known (by decide))
  · exact absent checks.known (by decide)
  · exact absent checks.known (by decide)
  · exact fun form chosen mem => noForm form (checks.known mem) chosen

theorem ChecksQuery.not_kept (checks : ChecksQuery given) : ¬ Kept given := by
  intro kept
  cases kept with
  | listing known => exact absurd (known checks.asked) (by decide)
  | rule _ known => exact absurd (known checks.asked) (by decide)
  | check _ known => exact absurd (known checks.searched) (by decide)

end Usage

/-- The options that the arguments give, each of them once. -/
def Gives (arguments given : List String) : Prop :=
  given.Nodup ∧ ∃ settings, Setting.Written settings arguments ∧ settings.map Setting.option = given

/-- The arguments keep to one of the lines of the usage. -/
def KeepsToUsage (arguments : List String) : Prop :=
  ∃ given, Gives arguments given ∧ Usage.Kept given

def ChecksQuery (arguments : List String) : Prop :=
  ∃ given, Gives arguments given ∧ Usage.ChecksQuery given

variable {arguments given other : List String}

theorem Gives.known (gives : Gives arguments given) : given ⊆ Usage.options := by
  obtain ⟨-, settings, -, rfl⟩ := gives
  intro option mem
  obtain ⟨s, -, rfl⟩ := List.mem_map.1 mem
  cases s <;> exact of_decide_eq_true rfl

theorem Gives.unique (gives : Gives arguments given) (again : Gives arguments other) :
    given = other := by
  obtain ⟨-, settings, written, rfl⟩ := gives
  obtain ⟨-, settings', written', rfl⟩ := again
  cases written.ofArguments.symm.trans written'.ofArguments
  rfl

namespace Options

theorem forms_le_one (o : Options) : o.forms ≤ 1 ↔
    (o.json = true → o.peg = false ∧ o.list = false) ∧ (o.peg = true → o.list = false) := by
  rw [forms]
  cases o.json <;> cases o.peg <;> cases o.list <;> decide

theorem forms_eq_zero (o : Options) :
    o.forms = 0 ↔ o.json = false ∧ o.peg = false ∧ o.list = false := by
  rw [forms]
  cases o.json <;> cases o.peg <;> cases o.list <;> decide

theorem agree_iff (o : Options) : o.agree = true ↔ o.forms ≤ 1 ∧
    (o.regex = true → o.filter.isSome = true) ∧
    (o.rule.isSome = true → ¬ o.sectionId.isSome = true ∧ ¬ o.filter.isSome = true ∧
      ¬ o.list = true) ∧
    (o.check = true → ¬ o.rule.isSome = true ∧ ¬ o.sectionId.isSome = true ∧ o.forms = 0) := by
  simp only [agree, Bool.and_eq_true, Bool.not_eq_true', Bool.and_eq_false_imp,
    Bool.or_eq_false_iff, decide_eq_true_eq, and_assoc]
  simp

/-- Options agree if those that were given are compatible. -/
theorem agree_foldl_put (settings : List Setting) : (settings.foldl put {}).agree = true ↔
    Usage.Compatible (settings.map Setting.option) := by
  generalize made : settings.foldl put {} = o
  have given (s : Setting) : o.holds s = true ↔ s.option ∈ settings.map Setting.option := by
    rw [← made, holds_foldl_put]
    cases s <;> simp [holds]
  generalize settings.map Setting.option = names at given
  have json : o.json = true ↔ "--json" ∈ names := given .json
  have peg : o.peg = true ↔ "--peg" ∈ names := given .peg
  have list : o.list = true ↔ "--list" ∈ names := given .list
  have regex : o.regex = true ↔ "--regex" ∈ names := given .regex
  have check : o.check = true ↔ "--check" ∈ names := given .check
  have filter : o.filter.isSome = true ↔ "--filter" ∈ names := given (.filter "")
  have rule : o.rule.isSome = true ↔ "--rule" ∈ names := given (.rule "")
  have sectionId : o.sectionId.isSome = true ↔ "--section" ∈ names := given (.sectionId "")
  have single : o.forms ≤ 1 ↔ Usage.OneAtMost names Usage.forms := by
    rw [forms_le_one, Usage.oneAtMost_forms, ← json, ← peg, ← list, Bool.not_eq_true,
      Bool.not_eq_true]
  have none : o.forms = 0 ↔ ∀ form ∈ Usage.forms, form ∉ names := by
    simp [forms_eq_zero, Usage.forms, ← json, ← peg, ← list]
  rw [agree_iff, single, none, regex, filter, rule, sectionId, list, check]
  exact ⟨fun ⟨single, searched, rule, check⟩ => ⟨single, searched, rule, check⟩,
    fun ⟨single, searched, rule, check⟩ => ⟨single, searched, rule, check⟩⟩

theorem isSome_ofArguments_iff : (Options.ofArguments arguments).isSome = true ↔
    ∃ given, Gives arguments given ∧ Usage.Compatible given := by
  simp only [Option.isSome_iff_exists, ofArguments, ofSettings, Option.bind_eq_bind,
    Option.bind_eq_some_iff, Setting.ofArguments_eq_some, foldlM_set_eq_some,
    Option.ite_none_right_eq_some]
  constructor
  · rintro ⟨_, settings, written, o, ⟨⟨once, -⟩, rfl⟩, agree, -⟩
    exact ⟨_, ⟨once, settings, written, rfl⟩, (agree_foldl_put settings).1 agree⟩
  · rintro ⟨_, ⟨once, settings, written, rfl⟩, compatible⟩
    have free : ∀ s ∈ settings, holds {} s = false := fun s _ => by cases s <;> rfl
    exact ⟨_, settings, written, _, ⟨⟨once, free⟩, rfl⟩, (agree_foldl_put settings).2 compatible, rfl⟩

theorem isSome_ofArguments_iff_kept : (Options.ofArguments arguments).isSome = true ↔
    KeepsToUsage arguments ∨ ChecksQuery arguments := by
  rw [isSome_ofArguments_iff, KeepsToUsage, ChecksQuery, ← exists_or]
  refine exists_congr fun given => ?_
  rw [← and_or_left]
  refine and_congr_right fun gives => ⟨fun compatible => ?_, ?_⟩
  · exact compatible.kept_or_checksQuery gives.known
  · rintro (kept | checks)
    · exact kept.compatible
    · exact checks.compatible

end Options

theorem ChecksQuery.not_keepsToUsage (checks : ChecksQuery arguments) :
    ¬ KeepsToUsage arguments := by
  rintro ⟨given, gives, kept⟩
  obtain ⟨other, again, checks⟩ := checks
  cases gives.unique again
  exact checks.not_kept kept

/-- Arguments are taken if they keep to one of the lines of the usage, and otherwise only if they ask
for the check along with a query. So "the usage says what is taken" holds of all arguments but
these. -/
theorem usage_kept_iff (arguments : List String) :
    ((Options.ofArguments arguments).isSome = true ↔
      KeepsToUsage arguments ∨ ChecksQuery arguments) ∧
    (((Options.ofArguments arguments).isSome = true ↔ KeepsToUsage arguments) ↔
      ¬ ChecksQuery arguments) := by
  have taken : (Options.ofArguments arguments).isSome = true ↔ _ :=
    Options.isSome_ofArguments_iff_kept
  refine ⟨taken, ?_, ?_⟩
  · intro usage checks
    exact checks.not_keepsToUsage (usage.1 (taken.2 (.inr checks)))
  · intro other
    rw [taken, or_iff_left other]

/-- A query next to the check is taken, though no line of the usage has both. -/
theorem filtered_check_taken : (Options.ofArguments ["--check", "--filter", "a"]).isSome = true ∧
    ¬ KeepsToUsage ["--check", "--filter", "a"] := by
  refine ⟨by decide, ChecksQuery.not_keepsToUsage ⟨["--check", "--filter"], ⟨by decide, ?_⟩,
    ⟨by decide, by decide, by decide⟩⟩⟩
  exact ⟨[.check, .filter "a"], .cons .check (.cons (.filter "a") .nil), rfl⟩

end Trackplan.CommandLine
