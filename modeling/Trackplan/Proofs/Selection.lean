import Trackplan.CommandLine.Selection
import Trackplan.Proofs.Definitions

/-! Which sections and rules the options choose, and when they choose none at all: a section that
does not exist is refused, and so is an expression that makes no sense, unless there is no section
to search with it. -/
namespace Trackplan.CommandLine.Options

section

variable {π ε : Type} (o : Options) (engine : Search.Engine π ε)

/-- The rule has what the query asks for. -/
def asksFor (name : Name) : Bool :=
  match o.filter with
  | none => true
  | some query =>
    if o.regex then
      match engine.read true query with
      | .ok pattern => engine.occursIn pattern name.text
      | .error _ => false
    else
      Text.occursIn (Text.lowered (Text.trimmed query.toList)) (Text.lowered name.text.toList)

/-- The section with those of its rules that are asked for. -/
def narrowed (s : Section) : Section := { s with rules := s.rules.filter (o.asksFor engine) }

/-- The sections that are asked for, whether or not a rule of theirs is. -/
def chosen (c : Contents) : List Section := (c.sections.filter o.wants).map (o.narrowed engine)

/-- All chosen sections where there is no query, and those with a rule to show where there is. -/
def shown (c : Contents) : List Section :=
  (o.chosen engine c).filter fun s => o.filter.isNone || !s.rules.isEmpty

/-- The query is to be read as an expression and cannot be. -/
def Misread (fault : ε) : Prop :=
  o.regex = true ∧ ∃ query, o.filter = some query ∧ engine.read true query = .error fault

/-- Why nothing can be chosen. -/
inductive Refused (c : Contents) : Failure ε → Prop
  | unknownSection {id : String} (asked : o.sectionId = some id)
    (unknown : ∀ s ∈ c.sections, s.id.text ≠ id) : Refused c (.unknownSection id)
  | badExpression {fault : ε} {s : Section} (misread : o.Misread engine fault)
    (searched : s ∈ c.sections) (wanted : ∀ id, o.sectionId = some id → s.id.text = id) :
    Refused c (.badExpression fault)

end

variable {π ε : Type} {engine : Search.Engine π ε}

variable {o : Options} {c : Contents} {s : Section} {names : List Name}

theorem wants_iff : o.wants s = true ↔ ∀ id, o.sectionId = some id → s.id.text = id := by
  unfold wants
  cases o.sectionId <;> simp

theorem not_hides (o : Options) (s : Section) :
    (!o.hides s) = (o.filter.isNone || !s.rules.isEmpty) := by
  unfold hides
  cases o.filter <;> simp

theorem shown_eq (o : Options) (engine : Search.Engine π ε) (c : Contents) :
    o.shown engine c = (o.chosen engine c).filter (!o.hides ·) := by
  simp only [shown, not_hides]

theorem byQuery_eq (query : String) (names : List Name) :
    Search.byQuery Name.text query names = names.filter fun name =>
      Text.occursIn (Text.lowered (Text.trimmed query.toList)) (Text.lowered name.text.toList) := by
  rw [Search.byQuery_eq_byText, ← Text.toList_trim]
  rfl

theorem chosenRules_of_misread {fault : ε} (misread : o.Misread engine fault) :
    o.chosenRules engine names = .error fault := by
  obtain ⟨expression, query, asked, bad⟩ := misread
  simp only [chosenRules, asked, expression, if_true, Search.byExpression_of_misread bad]

theorem chosenRules_of_read (read : ∀ fault, ¬o.Misread engine fault) :
    o.chosenRules engine names = .ok (names.filter (o.asksFor engine)) := by
  unfold chosenRules
  cases asked : o.filter with
  | none =>
    have every : o.asksFor engine = fun _ => true := by funext name; simp [asksFor, asked]
    rw [every, List.filter_true]
  | some query =>
    by_cases expression : o.regex = true
    · cases parsed : engine.read true query with
      | error fault => exact absurd ⟨expression, query, asked, parsed⟩ (read fault)
      | ok pattern =>
        have matching : o.asksFor engine = fun name => engine.occursIn pattern name.text := by
          funext name; simp [asksFor, asked, expression, parsed]
        rw [matching]
        simp only [expression, if_true, Search.byExpression_of_read parsed]
    · have containing : o.asksFor engine = fun name =>
          Text.occursIn (Text.lowered (Text.trimmed query.toList))
            (Text.lowered name.text.toList) := by
        funext name; simp [asksFor, asked, expression]
      rw [containing, ← byQuery_eq]
      exact if_neg expression

/-- Without a section to search no expression is read. -/
theorem chosenSections_of_read
    (read : (c.sections.filter o.wants) = [] ∨ ∀ fault, ¬o.Misread engine fault) :
    o.chosenSections engine c = .ok (o.chosen engine c) := by
  unfold chosenSections chosen
  rcases read with unasked | read
  · rw [unasked]; rfl
  · rw [Grammar.mapM_eq_ok, List.forall₂_map_right_iff, List.forall₂_same]
    intro s _
    simp [chosenRules_of_read read, narrowed, bind, Except.bind, pure, Except.pure]

theorem chosenSections_of_misread {fault : ε} (misread : o.Misread engine fault)
    (wanted : s ∈ c.sections.filter o.wants) : o.chosenSections engine c = .error fault := by
  unfold chosenSections
  cases asked : c.sections.filter o.wants with
  | nil => rw [asked] at wanted; cases wanted
  | cons first rest =>
    rw [List.mapM_cons]
    simp [chosenRules_of_misread misread, bind, Except.bind]

theorem selection_of_unknown {id : String} (asked : o.sectionId = some id)
    (unknown : ∀ s ∈ c.sections, s.id.text ≠ id) :
    o.selection engine c = .error (.unknownSection id) := by
  have unasked : c.sections.filter o.wants = [] :=
    List.filter_eq_nil_iff.2 fun s mem wanted => unknown s mem (wants_iff.1 wanted id asked)
  unfold selection
  rw [chosenSections_of_read (.inl unasked), chosen, unasked, asked]
  rfl

theorem selection_of_misread {fault : ε} (misread : o.Misread engine fault)
    (mem : s ∈ c.sections) (wanted : ∀ id, o.sectionId = some id → s.id.text = id) :
    o.selection engine c = .error (.badExpression fault) := by
  unfold selection
  rw [chosenSections_of_misread misread (List.mem_filter.2 ⟨mem, wants_iff.2 wanted⟩)]
  rfl

theorem selection_of_known
    (known : ∀ id, o.sectionId = some id → ∃ s ∈ c.sections, s.id.text = id)
    (read : c.sections.filter o.wants = [] ∨ ∀ fault, ¬o.Misread engine fault) :
    o.selection engine c = .ok (o.chosen engine c) := by
  unfold selection
  rw [chosenSections_of_read read]
  cases asked : o.sectionId with
  | none => rfl
  | some id =>
    obtain ⟨s, mem, same⟩ := known id asked
    have wanted : ∀ other, o.sectionId = some other → s.id.text = other := by
      intro other again
      rw [asked, Option.some.injEq] at again
      rw [same, again]
    have found : o.narrowed engine s ∈ o.chosen engine c :=
      List.mem_map_of_mem (List.mem_filter.2 ⟨mem, wants_iff.2 wanted⟩)
    cases some : o.chosen engine c with
    | nil => rw [some] at found; cases found
    | cons first rest => rfl

theorem selection_of_refused {fault : Failure ε} (refused : o.Refused engine c fault) :
    o.selection engine c = .error fault := by
  cases refused with
  | unknownSection asked unknown => exact selection_of_unknown asked unknown
  | badExpression misread mem wanted => exact selection_of_misread misread mem wanted

/-- What is not refused is chosen. -/
theorem selection_of_not_refused (free : ∀ fault, ¬o.Refused engine c fault) :
    o.selection engine c = .ok (o.chosen engine c) := by
  apply selection_of_known
  · intro id asked
    apply Decidable.byContradiction
    intro unknown
    refine free _ (.unknownSection asked fun s mem same => unknown ⟨s, mem, same⟩)
  · by_cases searched : c.sections.filter o.wants = []
    · exact .inl searched
    · obtain ⟨s, mem⟩ := List.exists_mem_of_ne_nil _ searched
      obtain ⟨listed, wanted⟩ := List.mem_filter.1 mem
      exact .inr fun fault misread =>
        free _ (.badExpression misread listed (wants_iff.1 wanted))

/-- There are no other reasons. -/
theorem selection_eq_error {fault : Failure ε} :
    o.selection engine c = .error fault ↔ o.Refused engine c fault := by
  constructor
  · intro failed
    by_cases free : ∀ other, ¬o.Refused engine c other
    · rw [selection_of_not_refused free] at failed
      cases failed
    · obtain ⟨other, refused⟩ := not_forall_not.1 free
      rw [selection_of_refused refused] at failed
      cases failed
      exact refused
  · exact selection_of_refused

end Trackplan.CommandLine.Options
