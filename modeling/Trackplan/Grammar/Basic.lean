import Trackplan.Expr.Soundness
import Trackplan.Name

/-! A grammar is a list of named rules in the order in which the names first came up, with an index
that leads from a name to the place of its rule. A name that is defined again keeps its place and
takes the later body; every such repetition is remembered. -/
namespace Trackplan

structure Rule where
  name : Name
  body : Expr
  deriving DecidableEq

namespace Rule

def withBody (body : Expr) (rule : Rule) : Rule := { rule with body := body }

/-- The index leads from a name to a place exactly if a rule of that name stands there. -/
def Indexed (index : List (String × Nat)) (rules : List Rule) : Prop :=
  ∀ name place, index.lookup name = some place ↔
    ∃ rule, rules[place]? = some rule ∧ rule.name.text = name

variable {index : List (String × Nat)} {rules : List Rule}

theorem map_name_modify (place : Nat) (body : Expr) (rules : List Rule) :
    (rules.modify place (withBody body)).map Rule.name = rules.map Rule.name := by
  refine List.ext_getElem? fun i => ?_
  rw [List.getElem?_map, List.getElem?_map, List.getElem?_modify]
  cases rules[i]? with
  | none => rfl
  | some rule => simp only [Option.map_eq_map, Option.map_some]; split <;> rfl

theorem indexed_iff_names : Indexed index rules ↔ ∀ name place,
    index.lookup name = some place ↔ (rules.map Rule.name)[place]?.map Name.text = some name := by
  simp [Indexed, Option.map_map]

/-- Another body leaves every rule where it is. -/
theorem Indexed.modify (indexed : Indexed index rules) (place : Nat) (body : Expr) :
    Indexed index (rules.modify place (withBody body)) := by
  rw [indexed_iff_names, map_name_modify]
  exact indexed_iff_names.1 indexed

theorem Indexed.mem_iff (indexed : Indexed index rules) {name : String} :
    (∃ place, index.lookup name = some place) ↔ ∃ rule ∈ rules, rule.name.text = name := by
  simp only [indexed name, List.mem_iff_getElem?]
  constructor
  · rintro ⟨place, rule, found, same⟩; exact ⟨rule, ⟨place, found⟩, same⟩
  · rintro ⟨rule, ⟨place, found⟩, same⟩; exact ⟨place, rule, found, same⟩

theorem getElem?_concat {last rule : Rule} {place : Nat} :
    (rules ++ [last])[place]? = some rule ↔
      rules[place]? = some rule ∨ place = rules.length ∧ rule = last := by
  rcases Nat.lt_trichotomy place rules.length with before | rfl | after
  · simp [List.getElem?_append_left before, Nat.ne_of_lt before]
  · simp [eq_comm]
  · have beyond : (rules ++ [last]).length ≤ place := by
      rw [List.length_append, List.length_singleton]; exact after
    rw [List.getElem?_eq_none beyond, List.getElem?_eq_none (Nat.le_of_lt after)]
    simp [Nat.ne_of_gt after]

/-- A rule of a new name goes to the end. -/
theorem Indexed.append (indexed : Indexed index rules) {name : Name}
    (new : index.lookup name.text = none) (body : Expr) :
    Indexed ((name.text, rules.length) :: index) (rules ++ [⟨name, body⟩]) := by
  intro other place
  simp only [getElem?_concat, List.lookup_cons]
  by_cases same : other = name.text
  · subst same
    have unused : ¬∃ rule, rules[place]? = some rule ∧ rule.name.text = name.text := by
      rw [← indexed, new]; simp
    simp only [beq_self_eq_true, Option.some.injEq]
    constructor
    · rintro rfl; exact ⟨⟨name, body⟩, .inr ⟨rfl, rfl⟩, rfl⟩
    · rintro ⟨rule, found | ⟨rfl, rfl⟩, text⟩
      · exact absurd ⟨rule, found, text⟩ unused
      · rfl
  · simp only [beq_eq_false_iff_ne.2 same, indexed other place]
    constructor
    · rintro ⟨rule, found, text⟩; exact ⟨rule, .inl found, text⟩
    · rintro ⟨rule, found | ⟨rfl, rfl⟩, text⟩
      · exact ⟨rule, found, text⟩
      · exact absurd text.symm same

/-- Two places of one name are one place. -/
theorem Indexed.distinct (indexed : Indexed index rules) : (rules.map Rule.name).Nodup := by
  rw [List.Nodup, List.pairwise_map, List.pairwise_iff_getElem]
  intro i j left right before same
  have first := (indexed _ i).2 ⟨rules[i], List.getElem?_eq_getElem left, rfl⟩
  have second := (indexed _ j).2 ⟨rules[j], List.getElem?_eq_getElem right, rfl⟩
  rw [← same, first, Option.some.injEq] at second
  exact Nat.ne_of_lt before second

end Rule

structure Grammar where
  rules : List Rule
  /-- The place of every rule, by name. -/
  index : List (String × Nat)
  /-- The name of every repeated definition, in the order of the repetitions. -/
  repeats : List Name
  indexed : Rule.Indexed index rules

namespace Grammar

/-- Reported when a name is defined that has a definition already. -/
structure Redefinition where
  name : Name
  deriving DecidableEq, Repr

def Redefinition.message (warning : Redefinition) : String :=
  "rule `" ++ warning.name.text ++ "` registered more than once"

structure Undefined where
  name : String
  deriving DecidableEq, Repr

def Undefined.message (fault : Undefined) : String := "no definition for `" ++ fault.name ++ "`"

def empty : Grammar := ⟨[], [], [], by simp [Rule.Indexed]⟩

def names (g : Grammar) : List Name := g.rules.map Rule.name

def size (g : Grammar) : Nat := g.rules.length

def redefinitions (g : Grammar) : List Redefinition := g.repeats.map .mk

def find? (g : Grammar) (name : String) : Option Rule := (g.index.lookup name).bind (g.rules[·]?)

def has (g : Grammar) (name : String) : Bool := (g.index.lookup name).isSome

def lookup (g : Grammar) (name : String) : Except Undefined Expr :=
  match g.find? name with
  | some rule => .ok rule.body
  | none => .error ⟨name⟩

def define (g : Grammar) (name : Name) (body : Expr) : Grammar × Option Redefinition :=
  match new : g.index.lookup name.text with
  | some place =>
    (⟨g.rules.modify place (.withBody body), g.index, g.repeats ++ [name],
      g.indexed.modify place body⟩, some ⟨name⟩)
  | none =>
    (⟨g.rules ++ [⟨name, body⟩], (name.text, g.rules.length) :: g.index, g.repeats,
      g.indexed.append new body⟩, none)

def defineAll (g : Grammar) : List (Name × Expr) → Grammar
  | [] => g
  | (name, body) :: rest => (g.define name body).1.defineAll rest

/-- The grammar of a list of definitions, or the first fault in a name. -/
def ofDefinitions (definitions : List (String × Expr)) : Except Name.Fault Grammar := do
  let named ← definitions.mapM fun (name, body) => do return (← Name.ofText name, body)
  return empty.defineAll named

/-- Rules whose bodies make no sense, each with its first fault. -/
def faults (g : Grammar) : List (Name × Expr.Fault) :=
  g.rules.filterMap fun rule => rule.body.fault?.map (rule.name, ·)

theorem distinct (g : Grammar) : g.names.Nodup := g.indexed.distinct

theorem mem_names_iff {g : Grammar} {name : Name} :
    name ∈ g.names ↔ ∃ place, g.index.lookup name.text = some place := by
  rw [g.indexed.mem_iff, names, List.mem_map]
  constructor
  · rintro ⟨rule, mem, rfl⟩; exact ⟨rule, mem, rfl⟩
  · rintro ⟨rule, mem, same⟩; exact ⟨rule, mem, Name.ext same⟩

theorem not_mem_names_iff {g : Grammar} {name : Name} :
    name ∉ g.names ↔ g.index.lookup name.text = none := by
  rw [mem_names_iff, ← Option.isSome_iff_exists, Option.not_isSome_iff_eq_none]

theorem names_define (g : Grammar) (name : Name) (body : Expr) :
    (g.define name body).1.names =
      if name ∈ g.names then g.names else g.names ++ [name] := by
  unfold define
  split
  · rename_i place known
    rw [if_pos (mem_names_iff.2 ⟨place, known⟩)]
    exact Rule.map_name_modify place body g.rules
  · rename_i new
    rw [if_neg (not_mem_names_iff.2 new)]
    exact List.map_append

theorem repeats_define (g : Grammar) (name : Name) (body : Expr) :
    (g.define name body).1.repeats =
      if name ∈ g.names then g.repeats ++ [name] else g.repeats := by
  unfold define
  split
  · rename_i place known
    rw [if_pos (mem_names_iff.2 ⟨place, known⟩)]
  · rename_i new
    rw [if_neg (not_mem_names_iff.2 new)]

/-- The answer tells whether the name was defined before. -/
theorem define_answer (g : Grammar) (name : Name) (body : Expr) :
    (g.define name body).2 = if name ∈ g.names then some ⟨name⟩ else none := by
  unfold define
  split
  · rename_i place known
    rw [if_pos (mem_names_iff.2 ⟨place, known⟩)]
  · rename_i new
    rw [if_neg (not_mem_names_iff.2 new)]

theorem find?_eq_some {g : Grammar} {name : String} {rule : Rule} :
    g.find? name = some rule ↔ rule ∈ g.rules ∧ rule.name.text = name := by
  rw [find?, Option.bind_eq_some_iff]
  constructor
  · rintro ⟨place, known, found⟩
    obtain ⟨other, here, same⟩ := (g.indexed name place).1 known
    rw [found, Option.some.injEq] at here
    exact ⟨List.mem_of_getElem? found, here ▸ same⟩
  · rintro ⟨mem, same⟩
    obtain ⟨place, found⟩ := List.mem_iff_getElem?.1 mem
    exact ⟨place, (g.indexed name place).2 ⟨rule, found, same⟩, found⟩

theorem mem_rules_define {g : Grammar} {name : Name} {body : Expr} {rule : Rule} :
    rule ∈ (g.define name body).1.rules ↔
      rule = ⟨name, body⟩ ∨ rule ∈ g.rules ∧ rule.name ≠ name := by
  unfold define
  split
  · rename_i place known
    obtain ⟨old, here, same⟩ := (g.indexed _ place).1 known
    have same : old.name = name := Name.ext same
    simp only [List.mem_iff_getElem?, List.getElem?_modify, Option.map_eq_map,
      Option.map_eq_some_iff]
    constructor
    · rintro ⟨i, r, found, rfl⟩
      by_cases moved : place = i
      · subst moved
        rw [here, Option.some.injEq] at found
        simp [Rule.withBody, ← found, same]
      · rw [if_neg moved]
        refine .inr ⟨⟨i, found⟩, fun again => moved ?_⟩
        have there := (g.indexed name.text i).2 ⟨r, found, congrArg Name.text again⟩
        rw [known, Option.some.injEq] at there
        exact there
    · rintro (rfl | ⟨⟨i, found⟩, differs⟩)
      · exact ⟨place, old, here, by simp [Rule.withBody, same]⟩
      · refine ⟨i, rule, found, if_neg ?_⟩
        rintro rfl
        rw [here, Option.some.injEq] at found
        exact differs (found ▸ same)
  · rename_i new
    have other : ∀ rule ∈ g.rules, rule.name ≠ name := by
      rintro rule mem rfl
      exact not_mem_names_iff.2 new (List.mem_map_of_mem mem)
    simp only [List.mem_append, List.mem_singleton]
    constructor
    · rintro (mem | rfl)
      · exact .inr ⟨mem, other rule mem⟩
      · exact .inl rfl
    · rintro (rfl | ⟨mem, -⟩)
      · exact .inr rfl
      · exact .inl mem

/-- The name leads to the new body now, and every other name where it led before. -/
theorem find?_define (g : Grammar) (name : Name) (body : Expr) (other : String) :
    (g.define name body).1.find? other =
      if other = name.text then some ⟨name, body⟩ else g.find? other := by
  refine Option.ext fun rule => ?_
  rw [find?_eq_some, mem_rules_define]
  split
  · rename_i same
    subst same
    simp only [Option.some.injEq]
    constructor
    · rintro ⟨rfl | ⟨-, differs⟩, same⟩
      · rfl
      · exact absurd (Name.ext same) differs
    · rintro rfl; exact ⟨.inl rfl, rfl⟩
  · rename_i differs
    rw [find?_eq_some]
    constructor
    · rintro ⟨rfl | ⟨mem, -⟩, same⟩
      · exact absurd same.symm differs
      · exact ⟨mem, same⟩
    · rintro ⟨mem, rfl⟩
      exact ⟨.inr ⟨mem, fun same => differs (same ▸ rfl)⟩, rfl⟩

theorem isSome_find? (g : Grammar) (name : String) : (g.find? name).isSome = g.has name := by
  unfold find? has
  cases known : g.index.lookup name with
  | none => rfl
  | some place =>
    obtain ⟨rule, found, -⟩ := (g.indexed name place).1 known
    rw [Option.bind_some, found]; rfl

theorem has_iff {g : Grammar} {name : String} :
    g.has name = true ↔ ∃ n ∈ g.names, n.text = name := by
  rw [has, Option.isSome_iff_exists, g.indexed.mem_iff]
  constructor
  · rintro ⟨rule, mem, same⟩; exact ⟨rule.name, List.mem_map_of_mem mem, same⟩
  · rintro ⟨n, mem, same⟩
    obtain ⟨rule, here, rfl⟩ := List.mem_map.1 mem
    exact ⟨rule, here, same⟩

end Grammar

end Trackplan
