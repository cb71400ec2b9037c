import Trackplan.CommandLine.Run
import Trackplan.Proofs.Definitions
import Trackplan.Proofs.References
import Trackplan.Proofs.Soundness

/-! What a check without problems says of the whole listing: every rule is drawn in it, nothing is
missing from a drawing, and whatever a drawing refers to is drawn as well. The diagrams show all
that the passes look for, except that a rule was defined more than once. None of the tools takes
part. -/
namespace Trackplan

theorem Diagram.mem_placeholders {d : Diagram} {name : String} :
    name ∈ d.placeholders ↔ .missing name ∈ d.root.nodes := by
  rw [placeholders, List.mem_filterMap]
  constructor
  · rintro ⟨n, mem, shown⟩
    cases n with
    | missing other => cases shown; exact mem
    | _ => cases shown
  · intro mem
    exact ⟨.missing name, mem, rfl⟩

namespace Rule

/-- No expression brings a missing rule with it. -/
theorem placeholders_diagram (rule : Rule) : rule.diagram.placeholders = [] :=
  (labelsKept {} rule.body).nothingMissing

theorem referenceLabels_diagram (rule : Rule) :
    rule.diagram.referenceLabels = rule.body.references :=
  (labelsKept {} rule.body).references

end Rule

namespace Grammar

variable {g : Grammar} {name : String}

theorem exists_rule_of_has (has : g.has name = true) :
    ∃ rule ∈ g.rules, rule.name.text = name := by
  obtain ⟨n, mem, same⟩ := has_iff.1 has
  obtain ⟨rule, here, rfl⟩ := List.mem_map.1 mem
  exact ⟨rule, here, same⟩

theorem diagram_of_not_has (unknown : ¬g.has name = true) : g.diagram name = .missing name := by
  have none : g.find? name = none := by
    rw [← Option.not_isSome_iff_eq_none, isSome_find?]
    exact unknown
  rw [diagram, none]

theorem dangling_eq_nil : g.dangling = [] ↔
    ∀ rule ∈ g.rules, ∀ target ∈ rule.body.references, g.has target = true := by
  simp only [dangling, List.filter_eq_nil_iff, references_eq, List.forall_mem_flatMap,
    referencesFrom, List.forall_mem_map, targets_eq, mem_firsts, Bool.not_eq_true,
    Bool.not_eq_false']

theorem faults_eq_nil : g.faults = [] ↔ ∀ rule ∈ g.rules, rule.body.fault? = none := by
  simp only [faults, List.filterMap_eq_nil_iff, Option.map_eq_none_iff]

end Grammar

namespace Contents

variable {g : Grammar} {c : Contents} {d : Diagram}

theorem unknown_eq_nil : (c.coverage g).unknown = [] ↔
    ∀ s ∈ c.sections, ∀ name ∈ s.rules, g.has name.text = true := by
  simp only [coverage, List.flatMap_eq_nil_iff, List.map_eq_nil_iff, List.filter_eq_nil_iff,
    Bool.not_eq_true, Bool.not_eq_false']

theorem unlisted_eq_nil : (c.coverage g).unlisted = [] ↔
    ∀ name ∈ g.names, ∃ s ∈ c.sections, name ∈ s.rules := by
  simp [coverage]

/-- The diagrams of all rules that the sections list, in order. -/
def diagrams (c : Contents) (g : Grammar) : List Diagram :=
  c.sections.flatMap fun s => s.rules.map fun name => g.diagram name.text

theorem mem_diagrams : d ∈ c.diagrams g ↔
    ∃ s ∈ c.sections, ∃ name ∈ s.rules, g.diagram name.text = d := by
  simp only [diagrams, List.mem_flatMap, List.mem_map]

/-- Where all listed names have rules, the diagrams are those of the rules. -/
theorem rule_of_mem_diagrams (known : (c.coverage g).unknown = []) (drawn : d ∈ c.diagrams g) :
    ∃ rule ∈ g.rules, rule.diagram = d := by
  obtain ⟨s, listed, name, mem, rfl⟩ := mem_diagrams.1 drawn
  obtain ⟨rule, here, same⟩ := Grammar.exists_rule_of_has (unknown_eq_nil.1 known s listed name mem)
  exact ⟨rule, here, by rw [← same, Grammar.diagram_of_mem here]⟩

end Contents

/-- The contents show all of the grammar, and nothing in their diagrams leads out of them. -/
structure Closed (g : Grammar) (c : Contents) : Prop where
  nothingMissing : ∀ d ∈ c.diagrams g, ∀ name, .missing name ∉ d.root.nodes
  linked : ∀ d ∈ c.diagrams g, ∀ target ∈ d.referenceLabels,
    ∃ name ∈ g.names, name.text = target ∧ ∃ s ∈ c.sections, name ∈ s.rules
  choices : ∀ d ∈ c.diagrams g, ∀ paths default, .choice paths default ∈ d.root.nodes →
    paths ≠ [] ∧ default < paths.length
  repetitions : ∀ d ∈ c.diagrams g, ∀ least body separator,
    .repetition least body separator ∈ d.root.nodes → body ≠ .skip
  listed : ∀ name ∈ g.names, ∃ s ∈ c.sections, name ∈ s.rules
  complete : ∀ rule ∈ g.rules, rule.diagram ∈ c.diagrams g

theorem Closed.sound {g : Grammar} {c : Contents} (closed : Closed g c) {rule : Rule}
    (here : rule ∈ g.rules) : rule.diagram.root.Everywhere Diagram.Node.Sound := by
  have drawn := closed.complete rule here
  exact Diagram.Node.everywhere_sound.2 ⟨closed.choices _ drawn, closed.repetitions _ drawn⟩

namespace CommandLine

variable {π ε : Type} {t : Tools π ε} {g : Grammar} {c : Contents} {o : Options}

theorem problems_eq_nil : problems g c = [] ↔
    g.redefinitions = [] ∧ g.dangling = [] ∧ g.faults = [] ∧
      (c.coverage g).unknown = [] ∧ (c.coverage g).unlisted = [] := by
  simp [problems]

theorem forM_report (found : List Problem) :
    found.forM (fun p => Written.write (line p.message)) =
      (Written.write (String.join (found.map fun p => line p.message)) : Written ε Unit) :=
  Written.forM_write fun _ _ => rfl

/-- A check reports every problem and always comes to an end. -/
theorem auditPage_result (g : Grammar) (c : Contents) :
    (auditPage g c : Written ε Nat).result = .ok (if (problems g c).isEmpty then 0 else 1) := by
  rw [auditPage, forM_report]
  rfl

theorem clean_iff (asked : o.check = true) :
    (o.answer t g c).result = .ok 0 ↔ problems g c = [] := by
  rw [Options.answer, if_pos asked, auditPage_result, ← List.isEmpty_iff]
  split <;> simp_all

/-- Clean passes make a closed listing. -/
theorem closed_of_clean (clean : problems g c = []) : Closed g c := by
  obtain ⟨-, dangling, faults, unknown, unlisted⟩ := problems_eq_nil.1 clean
  have listed := Contents.unlisted_eq_nil.1 unlisted
  have sound : ∀ rule ∈ g.rules, rule.diagram.root.Everywhere Diagram.Node.Sound := by
    intro rule here
    exact (Diagram.Node.sound_ofExpr rule.body).2 (Grammar.faults_eq_nil.1 faults rule here)
  constructor
  case nothingMissing =>
    intro d drawn name mem
    obtain ⟨rule, here, rfl⟩ := Contents.rule_of_mem_diagrams unknown drawn
    rw [← Diagram.mem_placeholders, rule.placeholders_diagram] at mem
    cases mem
  case linked =>
    intro d drawn target mem
    obtain ⟨rule, here, rfl⟩ := Contents.rule_of_mem_diagrams unknown drawn
    rw [rule.referenceLabels_diagram] at mem
    obtain ⟨name, known, same⟩ :=
      Grammar.has_iff.1 (Grammar.dangling_eq_nil.1 dangling rule here target mem)
    exact ⟨name, known, same, listed name known⟩
  case choices =>
    intro d drawn paths default mem
    obtain ⟨rule, here, rfl⟩ := Contents.rule_of_mem_diagrams unknown drawn
    exact (Diagram.Node.everywhere_sound.1 (sound rule here)).1 paths default mem
  case repetitions =>
    intro d drawn least body separator mem
    obtain ⟨rule, here, rfl⟩ := Contents.rule_of_mem_diagrams unknown drawn
    exact sound rule here _ mem
  case listed => exact listed
  case complete =>
    intro rule here
    obtain ⟨s, inContents, mem⟩ := listed rule.name (List.mem_map_of_mem here)
    exact Contents.mem_diagrams.2 ⟨s, inContents, rule.name, mem, Grammar.diagram_of_mem here⟩

/-- A closed listing leaves nothing to report but rules that are defined again. -/
theorem clean_of_closed (once : g.redefinitions = []) (closed : Closed g c) :
    problems g c = [] := by
  refine problems_eq_nil.2 ⟨once, ?_, ?_, ?_, Contents.unlisted_eq_nil.2 closed.listed⟩
  · rw [Grammar.dangling_eq_nil]
    intro rule here target mem
    rw [← rule.referenceLabels_diagram] at mem
    obtain ⟨name, known, same, -⟩ := closed.linked _ (closed.complete rule here) target mem
    exact Grammar.has_iff.2 ⟨name, known, same⟩
  · rw [Grammar.faults_eq_nil]
    intro rule here
    exact (Diagram.Node.sound_ofExpr rule.body).1 (closed.sound here)
  · rw [Contents.unknown_eq_nil]
    intro s inContents name mem
    apply Decidable.byContradiction
    intro unknown
    have drawn : g.diagram name.text ∈ c.diagrams g :=
      Contents.mem_diagrams.2 ⟨s, inContents, name, mem, rfl⟩
    refine closed.nothingMissing _ drawn name.text ?_
    rw [Grammar.diagram_of_not_has unknown]
    exact List.mem_singleton_self _

/-- A check exits with zero exactly if the listing is closed and no rule is defined twice. -/
theorem clean_check_iff_closed (asked : o.check = true) :
    (o.answer t g c).result = .ok 0 ↔ g.redefinitions = [] ∧ Closed g c := by
  rw [clean_iff asked]
  constructor
  · intro clean
    exact ⟨(problems_eq_nil.1 clean).1, closed_of_clean clean⟩
  · rintro ⟨once, closed⟩
    exact clean_of_closed once closed

def callName : Name := ⟨"call", by decide⟩

def argumentsName : Name := ⟨"arguments", by decide⟩

/-- A call has arguments or none, and each argument is a call or a name. -/
def calls : Grammar := Grammar.empty.defineAll
  [(callName, .sequence [.token "NAME", .token "(", .optional (.reference "arguments"),
      .token ")"]),
    (argumentsName, .repetition .one (.choice [.reference "call", .token "NAME"] 1)
      (some (.token ",")))]

def callContents : Contents where
  sections := [⟨callName, "Calls", [callName]⟩, ⟨argumentsName, "Arguments", [argumentsName]⟩]
  distinct := by decide

theorem clean_check_iff_closed_calls :
    (({ check := true } : Options).answer tools calls callContents).result = .ok 0 ∧
      calls.redefinitions = [] ∧ Closed calls callContents := by
  have clean : (({ check := true } : Options).answer tools calls callContents).result = .ok 0 := by
    rfl
  exact ⟨clean, (clean_check_iff_closed rfl).1 clean⟩

end CommandLine

end Trackplan
