import Mathlib.Data.List.Nodup
import Trackplan.Grammar.References
import Trackplan.Proofs.Labels

/-! The references of a grammar, seen from their sources, from their targets and all together. The
three views tell the same, and the diagrams of the rules show it too. -/
namespace Trackplan

theorem targets_eq (e : Expr) : e.targets = firsts e.references := unseen_nil e.references

theorem filter_eq_of_nodup {α : Type} [DecidableEq α] {as : List α} (distinct : as.Nodup) (a : α) :
    as.filter (· = a) = if a ∈ as then [a] else [] := by
  rw [List.filter_eq, distinct.count]
  split <;> rfl

theorem flatMap_if {α β : Type} (p : α → Prop) [DecidablePred p] (f : α → List β) (as : List α) :
    (as.flatMap fun a => if p a then f a else []) = (as.filter p).flatMap f := by
  induction as with
  | nil => rfl
  | cons a rest ih => by_cases h : p a <;> simp [h, ih]

namespace Grammar

def referencesFrom (g : Grammar) (rule : Rule) : List Reference :=
  rule.body.targets.map fun target => ⟨rule.name, target, g.has target⟩

theorem references_eq (g : Grammar) : g.references = g.rules.flatMap g.referencesFrom := rfl

variable {g : Grammar} {rule : Rule} {r : Reference}

theorem mem_referencesFrom :
    r ∈ g.referencesFrom rule ↔
      r.source = rule.name ∧ r.target ∈ rule.body.references ∧ r.resolved = g.has r.target := by
  rw [referencesFrom, List.mem_map]
  simp only [targets_eq, mem_firsts]
  constructor
  · rintro ⟨target, mem, rfl⟩; exact ⟨rfl, mem, rfl⟩
  · rintro ⟨source, mem, resolved⟩
    exact ⟨r.target, mem, by rw [← source, ← resolved]⟩

theorem lookup_of_mem (mem : rule ∈ g.rules) : g.lookup rule.name.text = .ok rule.body := by
  rw [lookup, find?_eq_some.2 ⟨mem, rfl⟩]

theorem referencesOf_of_mem (mem : rule ∈ g.rules) :
    g.referencesOf rule.name.text = .ok (firsts rule.body.references) := by
  rw [referencesOf, lookup_of_mem mem, ← foldl_collect_nil]
  rfl

theorem nodup_rules (g : Grammar) : g.rules.Nodup := List.Nodup.of_map Rule.name g.distinct

/-- One name, one rule. -/
theorem name_eq_iff {other : Rule} (mem : rule ∈ g.rules) (there : other ∈ g.rules) :
    other.name = rule.name ↔ other = rule :=
  ⟨List.inj_on_of_nodup_map g.distinct there mem, congrArg Rule.name⟩

/-- The references with a given source are those of its rule. -/
theorem filter_source (mem : rule ∈ g.rules) :
    g.references.filter (·.source = rule.name) = g.referencesFrom rule := by
  have own (other : Rule) (there : other ∈ g.rules) :
      (g.referencesFrom other).filter (·.source = rule.name) =
        if other = rule then g.referencesFrom other else [] := by
    split
    · rename_i same
      subst same
      exact List.filter_eq_self.2 fun r from_ => by simpa using (mem_referencesFrom.1 from_).1
    · rename_i differ
      refine List.filter_eq_nil_iff.2 fun r from_ => ?_
      rw [(mem_referencesFrom.1 from_).1, decide_eq_true_iff, name_eq_iff mem there]
      exact differ
  calc g.references.filter (·.source = rule.name)
      = g.rules.flatMap fun other => (g.referencesFrom other).filter (·.source = rule.name) := by
        rw [references_eq, List.filter_flatMap]
    _ = g.rules.flatMap fun other => if other = rule then g.referencesFrom other else [] :=
        List.flatMap_congr own
    _ = (g.rules.filter (· = rule)).flatMap g.referencesFrom := flatMap_if ..
    _ = g.referencesFrom rule := by
        rw [filter_eq_of_nodup g.nodup_rules, if_pos mem, List.flatMap_singleton]

/-- The references with a given target come one from each rule that mentions it. -/
theorem filter_target (g : Grammar) (target : String) :
    (g.references.filter (·.target = target)).map Reference.source = g.usedBy target := by
  have own (rule : Rule) (_ : rule ∈ g.rules) :
      (g.referencesFrom rule).filter (·.target = target) =
        if target ∈ rule.body.references then [⟨rule.name, target, g.has target⟩] else [] := by
    rw [referencesFrom, targets_eq, List.filter_map]
    simp only [Function.comp_def]
    rw [filter_eq_of_nodup (nodup_firsts _)]
    simp only [mem_firsts]
    split <;> rfl
  calc (g.references.filter (·.target = target)).map Reference.source
      = (g.rules.flatMap fun rule => (g.referencesFrom rule).filter (·.target = target)).map
          Reference.source := by rw [references_eq, List.filter_flatMap]
    _ = ((g.rules.filter (target ∈ ·.body.references)).flatMap fun rule =>
          [⟨rule.name, target, g.has target⟩]).map Reference.source := by
        rw [List.flatMap_congr own, flatMap_if]
    _ = g.usedBy target := by
        rw [List.map_flatMap, usedBy]
        exact List.flatMap_pure_eq_map ..

theorem nodup_pairs (g : Grammar) :
    (g.references.map fun r => (r.source, r.target)).Nodup := by
  rw [references_eq, List.map_flatMap, List.nodup_flatMap]
  constructor
  · intro rule _
    rw [referencesFrom, List.map_map, targets_eq]
    exact (nodup_firsts _).map fun a b same => congrArg Prod.snd same
  · refine (List.pairwise_map.1 g.distinct).imp fun {a b} differ => ?_
    intro pair left right
    obtain ⟨r, fromA, rfl⟩ := List.mem_map.1 left
    obtain ⟨s, fromB, same⟩ := List.mem_map.1 right
    have sources : s.source = r.source := congrArg Prod.fst same
    rw [(mem_referencesFrom.1 fromA).1, (mem_referencesFrom.1 fromB).1] at sources
    exact differ sources.symm

theorem mem_usedBy {n : Name} {target : String} :
    n ∈ g.usedBy target ↔ ∃ rule ∈ g.rules, target ∈ rule.body.references ∧ rule.name = n := by
  simp [usedBy, and_assoc]

theorem resolved_eq (mem : r ∈ g.references) : r.resolved = g.has r.target := by
  obtain ⟨rule, -, from_⟩ := List.mem_flatMap.1 mem
  exact (mem_referencesFrom.1 from_).2.2

/-- The views of the references agree. -/
structure ViewsAgree (g : Grammar) : Prop where
  forward : ∀ n ∈ g.names, g.referencesOf n.text =
    .ok ((g.references.filter (·.source = n)).map Reference.target)
  drawn : ∀ n ∈ g.names, g.referencesOf n.text = .ok (firsts (g.diagram n.text).referenceLabels)
  backward : ∀ target, g.usedBy target =
    (g.references.filter (·.target = target)).map Reference.source
  inverse : ∀ n ∈ g.names, ∀ target,
    (∃ targets, g.referencesOf n.text = .ok targets ∧ target ∈ targets) ↔ n ∈ g.usedBy target
  single : (g.references.map fun r => (r.source, r.target)).Nodup
  resolved : ∀ r ∈ g.references, r.resolved = true ↔ ∃ n ∈ g.names, n.text = r.target
  dangling : g.dangling = g.references.filter fun r => ¬∃ n ∈ g.names, n.text = r.target

/-- Forwards, backwards and all together, a grammar tells of the same references. -/
theorem views_agree (g : Grammar) : g.ViewsAgree where
  forward n mem := by
    obtain ⟨rule, here, rfl⟩ := List.mem_map.1 mem
    rw [referencesOf_of_mem here, filter_source here, referencesFrom, targets_eq, List.map_map]
    exact congrArg _ (List.map_id _).symm
  drawn n mem := by
    obtain ⟨rule, here, rfl⟩ := List.mem_map.1 mem
    have shown : rule.diagram.referenceLabels = rule.body.references :=
      (labelsKept {} rule.body).references
    rw [referencesOf_of_mem here, diagram, find?_eq_some.2 ⟨here, rfl⟩]
    exact congrArg _ (congrArg firsts shown.symm)
  backward target := (g.filter_target target).symm
  inverse n mem target := by
    obtain ⟨rule, here, rfl⟩ := List.mem_map.1 mem
    rw [mem_usedBy, referencesOf_of_mem here]
    constructor
    · rintro ⟨targets, ok, found⟩
      obtain rfl := Except.ok.inj ok
      exact ⟨rule, here, mem_firsts.1 found, rfl⟩
    · rintro ⟨other, there, found, same⟩
      obtain rfl := (name_eq_iff here there).1 same
      exact ⟨_, rfl, mem_firsts.2 found⟩
  single := g.nodup_pairs
  resolved r mem := by rw [resolved_eq mem, has_iff]
  dangling := by
    refine List.filter_congr fun r mem => ?_
    rw [resolved_eq mem, Bool.eq_iff_iff, decide_eq_true_iff, ← has_iff, Bool.not_eq_true']
    exact (Bool.not_eq_true _).symm.to_iff

end Grammar

end Trackplan
