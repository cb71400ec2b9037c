import Mathlib.Data.List.Perm.Basic
import Trackplan.CommandLine.Options

/-! Arguments in another order. A flag stands alone and an option stands before its value; groups of
this kind may be put into any order, and no two of them may give the same option. -/
namespace Trackplan.CommandLine

namespace Options

variable {o : Options} {s t : Setting}

theorem holds_put (o : Options) (s t : Setting) :
    (o.put s).holds t = (s.option = t.option || o.holds t) := by
  cases s <;> cases t <;> rfl

theorem put_comm (o : Options) (differ : s.option ≠ t.option) :
    (o.put s).put t = (o.put t).put s := by
  cases s <;> cases t <;> first | rfl | exact absurd rfl differ

theorem set_of_holds (given : o.holds s = true) : o.set s = none := if_pos given

theorem set_of_not_holds (free : o.holds s = false) : o.set s = some (o.put s) :=
  if_neg (Bool.eq_false_iff.1 free)

/-- An option is not given twice. -/
theorem set_bind_set_of_same (o : Options) (same : s.option = t.option) :
    (o.set s).bind (·.set t) = none := by
  cases given : o.holds s with
  | true => rw [set_of_holds given, Option.bind_none]
  | false =>
    rw [set_of_not_holds given, Option.bind_some]
    apply set_of_holds
    rw [holds_put, decide_eq_true same, Bool.true_or]

theorem set_bind_set_of_holds (given : o.holds t = true) : (o.set s).bind (·.set t) = none := by
  cases first : o.holds s with
  | true => rw [set_of_holds first, Option.bind_none]
  | false =>
    rw [set_of_not_holds first, Option.bind_some]
    apply set_of_holds
    rw [holds_put, given, Bool.or_true]

/-- Two settings are made in either order. -/
theorem set_bind_set_comm (o : Options) (s t : Setting) :
    (o.set s).bind (·.set t) = (o.set t).bind (·.set s) := by
  by_cases same : s.option = t.option
  · rw [set_bind_set_of_same o same, set_bind_set_of_same o same.symm]
  · cases first : o.holds s with
    | true => rw [set_bind_set_of_holds first, set_of_holds first, Option.bind_none]
    | false =>
      cases second : o.holds t with
      | true => rw [set_bind_set_of_holds second, set_of_holds second, Option.bind_none]
      | false =>
        have free : (o.put s).holds t = false := by
          rw [holds_put, second, decide_eq_false same, Bool.or_false]
        have free' : (o.put t).holds s = false := by
          rw [holds_put, first, decide_eq_false (Ne.symm same), Bool.or_false]
        rw [set_of_not_holds first, set_of_not_holds second, Option.bind_some, Option.bind_some,
          set_of_not_holds free, set_of_not_holds free', put_comm o same]

end Options

/-- Arguments that belong together: a flag, an option with its value, whatever that looks like, or
an argument that is neither. -/
inductive Group
  | flag (argument : String) (known : (Setting.flag? argument).isSome = true)
  | option (argument value : String) (known : (Setting.reader? argument).isSome = true)
  | unknown (argument : String) (notFlag : Setting.flag? argument = none)
      (notOption : Setting.reader? argument = none)

namespace Group

def arguments : Group → List String
  | .flag argument _ => [argument]
  | .option argument value _ => [argument, value]
  | .unknown argument _ _ => [argument]

/-- The option that the group gives; there are two spellings of one. -/
def option? : Group → Option String
  | .flag argument _ => some (if argument = "-h" then "--help" else argument)
  | .option argument _ _ => some argument
  | .unknown .. => none

/-- The setting that the group makes, if its value can be read. -/
def setting? : Group → Option Setting
  | .flag argument _ => Setting.flag? argument
  | .option argument value _ => (Setting.reader? argument).bind (· value)
  | .unknown .. => none

end Group

theorem Group.option?_of_setting {g : Group} {s : Setting} (made : g.setting? = some s) :
    g.option? = some s.option := by
  cases g with
  | flag argument known =>
    simp only [setting?, Setting.flag?] at made
    split at made <;> cases made <;> rfl
  | option argument value known =>
    simp only [setting?, Setting.reader?] at made
    split at made
    · cases made; rfl
    · cases made; rfl
    · cases made; rfl
    · obtain ⟨width, -, rfl⟩ := Option.map_eq_some_iff.1 made
      rfl
    · cases made
  | unknown argument notFlag notOption => cases made

theorem Group.ofArguments_append (g : Group) (rest : List String) :
    Setting.ofArguments (g.arguments ++ rest) =
      g.setting?.bind fun s => (Setting.ofArguments rest).map (s :: ·) := by
  cases g with
  | flag argument known => exact Setting.ofArguments_alone (Setting.reader?_of_flag known) rest
  | option argument value known =>
    obtain ⟨read, option⟩ := Option.isSome_iff_exists.1 known
    rw [Group.arguments, Group.setting?, option, Option.bind_some]
    exact Setting.ofArguments_option option value rest
  | unknown argument notFlag notOption =>
    rw [Group.arguments, Group.setting?, List.singleton_append,
      Setting.ofArguments_alone notOption, notFlag]

namespace Options

/-- One step of reading: the setting of the next group is made. -/
def add (o : Options) (g : Group) : Option Options := g.setting?.bind o.set

theorem bind_foldlM_set (groups : List Group) (o : Options) :
    (Setting.ofArguments (groups.flatMap Group.arguments)).bind (List.foldlM set o) =
      groups.foldlM add o := by
  induction groups generalizing o with
  | nil => rfl
  | cons g rest ih =>
    rw [List.flatMap_cons, g.ofArguments_append, List.foldlM_cons, add]
    cases made : g.setting? with
    | none => rfl
    | some s =>
      rw [Option.bind_some, Option.bind_map, Option.bind_some]
      simp only [Function.comp_def, List.foldlM_cons]
      cases o.set s with
      | none => exact Option.bind_fun_none _
      | some next => exact ih next

/-- The options are made group by group and looked at when all are made. -/
theorem ofArguments_groups (groups : List Group) :
    Options.ofArguments (groups.flatMap Group.arguments) =
      (groups.foldlM add {}).bind fun o => if o.agree then some o else none := by
  rw [← bind_foldlM_set]
  cases h : Setting.ofArguments (groups.flatMap Group.arguments) with
  | none => simp [ofArguments, h]
  | some settings => simp [ofArguments, h, ofSettings]

theorem add_bind_add_comm (o : Options) (g h : Group) :
    (o.add g).bind (·.add h) = (o.add h).bind (·.add g) := by
  cases first : g.setting? with
  | none => simp [add, first]
  | some s =>
    cases second : h.setting? with
    | none => simp [add, second]
    | some t =>
      simp only [add, first, second, Option.bind_some]
      exact o.set_bind_set_comm s t

theorem foldlM_add_cons_cons (o : Options) (g h : Group) (rest : List Group) :
    (g :: h :: rest).foldlM add o =
      ((o.add g).bind (·.add h)).bind fun o => rest.foldlM add o := by
  simp only [List.foldlM_cons, Option.bind_assoc]
  rfl

theorem foldlM_add_perm {groups groups' : List Group} (perm : groups.Perm groups') (o : Options) :
    groups.foldlM add o = groups'.foldlM add o := by
  induction perm generalizing o with
  | nil => rfl
  | cons g _ ih => simp only [List.foldlM_cons, ih]
  | swap g h rest => rw [foldlM_add_cons_cons, foldlM_add_cons_cons, add_bind_add_comm]
  | trans _ _ first second => exact (first o).trans (second o)

theorem add_bind_add_of_same {g h : Group} {option : String} (first : g.option? = some option)
    (second : h.option? = some option) (o : Options) : (o.add g).bind (·.add h) = none := by
  cases made : g.setting? with
  | none => simp [add, made]
  | some s =>
    cases madeNext : h.setting? with
    | none => simp [add, madeNext]
    | some t =>
      have same : s.option = t.option := by
        rw [Group.option?_of_setting made] at first
        rw [Group.option?_of_setting madeNext] at second
        exact Option.some.inj (first.trans second.symm)
      simp only [add, made, madeNext, Option.bind_some]
      exact o.set_bind_set_of_same same

end Options

/-- In whatever order groups of arguments are given, they make the same options or make no sense;
and they make no sense where two of them give the same option. -/
theorem order_irrelevant {groups groups' : List Group} (perm : groups.Perm groups') :
    Options.ofArguments (groups.flatMap Group.arguments) =
        Options.ofArguments (groups'.flatMap Group.arguments) ∧
      ∀ g h option, [g, h].Sublist groups → g.option? = some option → h.option? = some option →
        Options.ofArguments (groups.flatMap Group.arguments) = none := by
  simp only [Options.ofArguments_groups]
  constructor
  · rw [Options.foldlM_add_perm perm]
  · intro g h option both first second
    obtain ⟨rest, front⟩ := both.exists_perm_append
    rw [Options.foldlM_add_perm front, List.cons_append, List.singleton_append,
      Options.foldlM_add_cons_cons, Options.add_bind_add_of_same first second, Option.bind_none,
      Option.bind_none]

/-- Help is asked for in both spellings; between them stands a value that looks like a third. -/
def helpTwice : List Group :=
  [.flag "-h" rfl, .option "--filter" "--help" rfl, .flag "--help" rfl]

theorem order_irrelevant_helpTwice : helpTwice.Perm helpTwice.reverse ∧
    [Group.flag "-h" rfl, Group.flag "--help" rfl].Sublist helpTwice ∧
    Options.ofArguments (helpTwice.flatMap Group.arguments) =
      Options.ofArguments (helpTwice.reverse.flatMap Group.arguments) ∧
    Options.ofArguments (helpTwice.flatMap Group.arguments) = none := by
  have perm : helpTwice.Perm helpTwice.reverse := (List.reverse_perm helpTwice).symm
  have both : [Group.flag "-h" rfl, Group.flag "--help" rfl].Sublist helpTwice :=
    .cons_cons _ (.cons _ (.refl _))
  obtain ⟨same, fails⟩ := order_irrelevant perm
  exact ⟨perm, both, same, fails _ _ "--help" both rfl rfl⟩

/-- A value is taken for what it is, even if it looks like a flag. -/
example : Options.ofArguments ["--filter", "--regex", "--regex"] =
    some { filter := some "--regex", regex := true } := by decide

end Trackplan.CommandLine
