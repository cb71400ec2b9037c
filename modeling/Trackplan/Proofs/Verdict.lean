import Mathlib.Data.List.Count
import Trackplan.Proofs.Closure

/-! What a check finds, told from the definitions and the sections alone: how often it reports each
problem, what number it ends with and when it is content. A body that was replaced no longer counts,
while its repetition still does. -/
namespace Trackplan

namespace Grammar

variable {g : Grammar} {history : List (Name × Expr)} {answers : List (Option Redefinition)}

theorem Follows.mem_names (follows : g.Follows history answers) {n : Name} :
    n ∈ g.names ↔ n ∈ history.map Prod.fst := by
  rw [follows.names, mem_firsts]

theorem Follows.has_eq_false (follows : g.Follows history answers) {name : String} :
    g.has name = false ↔ ∀ d ∈ history, d.1.text ≠ name := by
  rw [← follows.find?_eq_none, ← isSome_find?, Option.isSome_eq_false_iff, Option.isNone_iff_eq_none]

theorem Follows.mem_rules (follows : g.Follows history answers) {rule : Rule} :
    rule ∈ g.rules ↔ Latest history rule.name.text rule.body := by
  have here := follows.latest rule.name.text rule
  rw [find?_eq_some] at here
  simpa using here

/-- The rules are the last definitions of their names. -/
theorem Follows.exists_rule_iff (follows : g.Follows history answers) {n : Name}
    (holds : Expr → Prop) :
    (∃ rule ∈ g.rules, rule.name = n ∧ holds rule.body) ↔
      ∃ body, Latest history n.text body ∧ holds body := by
  constructor
  · rintro ⟨rule, mem, rfl, here⟩; exact ⟨rule.body, follows.mem_rules.1 mem, here⟩
  · rintro ⟨body, latest, here⟩; exact ⟨⟨n, body⟩, follows.mem_rules.2 latest, rfl, here⟩

theorem has_text {n : Name} : g.has n.text = true ↔ n ∈ g.names := by
  simp [Grammar.has_iff, Name.text_injective.eq_iff]

/-- A definition either brings its name or is remembered as a repetition of it. -/
theorem count_define (g : Grammar) (d : Name × Expr) (n : Name) :
    (g.define d.1 d.2).1.names.count n + (g.define d.1 d.2).1.repeats.count n =
      g.names.count n + g.repeats.count n + [d.1].count n := by
  rw [names_define, repeats_define]
  split
  · rw [List.count_append, Nat.add_assoc]
  · rw [List.count_append]
    omega

theorem count_defineAll (g : Grammar) (calls : List (Name × Expr)) (n : Name) :
    (g.defineAll calls).names.count n + (g.defineAll calls).repeats.count n =
      g.names.count n + g.repeats.count n + (calls.map Prod.fst).count n := by
  induction calls generalizing g with
  | nil => rfl
  | cons d rest ih =>
    have first := g.count_define d n
    have later := ih (g.define d.1 d.2).1
    rw [List.count_singleton] at first
    rw [defineAll, List.map_cons, List.count_cons]
    omega

theorem follows_defineAll (calls : List (Name × Expr)) :
    (empty.defineAll calls).Follows calls (empty.answers calls) := by
  simpa using follows_empty.defineAll calls

/-- All definitions of a name but one are repetitions. -/
theorem count_repeats (calls : List (Name × Expr)) (n : Name) :
    (empty.defineAll calls).repeats.count n = (calls.map Prod.fst).count n - 1 := by
  have all := empty.count_defineAll calls n
  have none : empty.names.count n + empty.repeats.count n = 0 := rfl
  rw [(empty.defineAll calls).distinct.count] at all
  split at all
  · omega
  · rename_i undefined
    rw [(follows_defineAll calls).mem_names, ← List.count_eq_zero] at undefined
    omega

theorem nodup_dangling (g : Grammar) : g.dangling.Nodup :=
  (List.Nodup.of_map _ g.nodup_pairs).filter _

theorem mem_dangling {r : Reference} :
    r ∈ g.dangling ↔ r.resolved = false ∧
      (∃ rule ∈ g.rules, rule.name = r.source ∧ r.target ∈ rule.body.references) ∧
      g.has r.target = false := by
  simp only [dangling, references_eq, List.mem_filter, List.mem_flatMap, mem_referencesFrom,
    Bool.not_eq_true']
  constructor
  · rintro ⟨⟨rule, mem, source, target, status⟩, dangles⟩
    exact ⟨dangles, ⟨rule, mem, source.symm, target⟩, status ▸ dangles⟩
  · rintro ⟨dangles, ⟨rule, mem, source, target⟩, unknown⟩
    exact ⟨⟨rule, mem, source.symm, target, dangles.trans unknown.symm⟩, dangles⟩

theorem mem_faults {n : Name} {fault : Expr.Fault} :
    (n, fault) ∈ g.faults ↔ ∃ rule ∈ g.rules, rule.name = n ∧ rule.body.fault? = some fault := by
  simp only [faults, List.mem_filterMap, Option.map_eq_some_iff, Prod.mk.injEq]
  constructor
  · rintro ⟨rule, mem, other, found, same, rfl⟩; exact ⟨rule, mem, same, found⟩
  · rintro ⟨rule, mem, same, found⟩; exact ⟨rule, mem, fault, found, same, rfl⟩

/-- No rule has two faults reported. -/
theorem nodup_faults (g : Grammar) : g.faults.Nodup := by
  rw [faults, List.Nodup, List.pairwise_filterMap]
  refine (List.pairwise_map.1 g.distinct).imp fun {a b} differ => ?_
  intro left ofA right ofB same
  rw [Option.map_eq_some_iff] at ofA ofB
  obtain ⟨_, -, rfl⟩ := ofA
  obtain ⟨_, -, rfl⟩ := ofB
  exact differ (congrArg Prod.fst same)

end Grammar

namespace Contents

theorem nodup_unlisted (c : Contents) (g : Grammar) : (c.coverage g).unlisted.Nodup :=
  g.distinct.filter _

theorem mem_unlisted {c : Contents} {g : Grammar} {n : Name} :
    n ∈ (c.coverage g).unlisted ↔ n ∈ g.names ∧ ∀ s ∈ c.sections, n ∉ s.rules := by
  simp [coverage]

theorem find?_eq_some {c : Contents} {id : String} {s : Section} :
    c.find? id = some s ↔ s ∈ c.sections ∧ s.id.text = id := by
  constructor
  · intro found
    exact ⟨List.mem_of_find?_eq_some found, by simpa using List.find?_some found⟩
  · rintro ⟨mem, rfl⟩
    cases found : c.find? s.id.text with
    | none => simpa using List.find?_eq_none.1 found s mem
    | some t =>
      have same : t.id.text = s.id.text := by simpa using List.find?_some found
      have there := List.mem_of_find?_eq_some found
      exact congrArg some (List.inj_on_of_nodup_map c.distinct there mem (Name.ext same))

theorem mem_rules? {c : Contents} {id : String} {n : Name} :
    n ∈ (c.rules? id).getD [] ↔ ∃ s ∈ c.sections, s.id.text = id ∧ n ∈ s.rules := by
  rw [rules?]
  constructor
  · intro mem
    cases found : c.find? id with
    | none => rw [found] at mem; cases mem
    | some s =>
      rw [found] at mem
      obtain ⟨there, same⟩ := find?_eq_some.1 found
      exact ⟨s, there, same, mem⟩
  · rintro ⟨s, there, same, mem⟩
    rwa [find?_eq_some.2 ⟨there, same⟩]

/-- Every name with the section that lists it, as often as it does. -/
def entries (c : Contents) : List (Name × Name) :=
  c.sections.flatMap fun s => s.rules.map (s.id, ·)

theorem unknown_eq (c : Contents) (g : Grammar) :
    (c.coverage g).unknown = c.entries.filter fun entry => !g.has entry.2.text := by
  rw [entries, List.filter_flatMap]
  refine List.flatMap_congr fun s _ => ?_
  rw [List.filter_map]
  rfl

/-- Where identifiers are distinct, the first section of one is all that it stands for. -/
theorem count_flatMap_rules {sections : List Section} (distinct : (sections.map Section.id).Nodup)
    (id n : Name) : (sections.flatMap fun s => s.rules.map (s.id, ·)).count (id, n) =
      (((sections.find? (·.id.text = id.text)).map Section.rules).getD []).count n := by
  induction sections with
  | nil => rfl
  | cons s rest ih =>
    obtain ⟨new, distinct⟩ := List.nodup_cons.1 distinct
    rw [List.flatMap_cons, List.count_append]
    by_cases same : s.id = id
    · subst same
      have later : (s.id, n) ∉ rest.flatMap fun s => s.rules.map (s.id, ·) := by
        intro mem
        obtain ⟨t, there, listed⟩ := List.mem_flatMap.1 mem
        obtain ⟨rule, -, pair⟩ := List.mem_map.1 listed
        exact new (List.mem_map.2 ⟨t, there, congrArg Prod.fst pair⟩)
      rw [List.count_eq_zero.2 later, List.find?_cons_of_pos (by simp),
        List.count_map_of_injective _ _ fun _ _ pair => congrArg Prod.snd pair]
      rfl
    · have here : (id, n) ∉ s.rules.map (s.id, ·) := by
        intro mem
        obtain ⟨rule, -, pair⟩ := List.mem_map.1 mem
        exact same (congrArg Prod.fst pair)
      rw [List.count_eq_zero.2 here, List.find?_cons_of_neg, ih distinct, Nat.zero_add]
      simpa [Name.text_injective.eq_iff] using same

/-- An unknown name is met as often as the section of that identifier lists it. -/
theorem count_unknown (c : Contents) (g : Grammar) (id n : Name) :
    (c.coverage g).unknown.count (id, n) =
      if g.has n.text = true then 0 else ((c.rules? id.text).getD []).count n := by
  rw [unknown_eq]
  split
  · rename_i known
    exact List.count_eq_zero.2 fun mem => by simp [known] at mem
  · rename_i unknown
    rw [List.count_filter (by simpa using unknown)]
    exact count_flatMap_rules c.distinct id n

end Contents

namespace CommandLine

open Grammar (Latest)

variable {ε : Type}

/-- The problem is reported once where it has its cause, and not at all where it has none. -/
structure OnceIf (found : List Problem) (p : Problem) (cause : Prop) : Prop where
  reported : cause → found.count p = 1
  otherwise : ¬cause → found.count p = 0

theorem OnceIf.of_nodup {α : Type} [BEq α] [LawfulBEq α] {found : List Problem} {p : Problem}
    {cause : Prop} {as : List α} {a : α} (same : found.count p = as.count a) (single : as.Nodup)
    (mem : a ∈ as ↔ cause) : OnceIf found p cause where
  reported holds := by rw [same, single.count, if_pos (mem.2 holds)]
  otherwise fails := by rw [same, single.count, if_neg fun here => fails (mem.1 here)]

/-- How often each problem is found once the definitions are made. -/
structure Tallied (calls : List (Name × Expr)) (c : Contents) (found : List Problem) : Prop where
  duplicate : ∀ n, found.count (.duplicate n) = (calls.map Prod.fst).count n - 1
  dangling : ∀ r : Reference, OnceIf found (.dangling r) (r.resolved = false ∧
    (∃ body, Latest calls r.source.text body ∧ r.target ∈ body.references) ∧
    ∀ d ∈ calls, d.1.text ≠ r.target)
  invalid : ∀ n fault, OnceIf found (.invalid n fault)
    (∃ body, Latest calls n.text body ∧ body.fault? = some fault)
  unknown : ∀ id n, found.count (.unknown id n) =
    if n ∈ calls.map Prod.fst then 0 else ((c.rules? id.text).getD []).count n
  unsectioned : ∀ n, OnceIf found (.unsectioned n)
    (n ∈ calls.map Prod.fst ∧ ∀ s ∈ c.sections, n ∉ s.rules)

/-- Definitions that name every rule once, make sense and lead to each other, and sections that list
the same rules. -/
structure Consistent (calls : List (Name × Expr)) (c : Contents) : Prop where
  once : (calls.map Prod.fst).Nodup
  linked : ∀ name body, Latest calls name body →
    ∀ target ∈ body.references, ∃ d ∈ calls, d.1.text = target
  valid : ∀ name body, Latest calls name body → body.fault? = none
  listed : ∀ n, (∃ s ∈ c.sections, n ∈ s.rules) ↔ n ∈ calls.map Prod.fst

/-- No problem of one kind is a problem of another. -/
theorem count_map_of_ne {α : Type} {kind : α → Problem} {p : Problem} (other : ∀ a, kind a ≠ p)
    (as : List α) : (as.map kind).count p = 0 := by
  refine List.count_eq_zero.2 fun mem => ?_
  obtain ⟨a, -, same⟩ := List.mem_map.1 mem
  exact other a same

theorem problems_eq (g : Grammar) (c : Contents) : problems g c =
    g.repeats.map .duplicate ++ g.dangling.map .dangling ++
      g.faults.map (fun entry => .invalid entry.1 entry.2) ++
      (c.coverage g).unknown.map (fun entry => .unknown entry.1 entry.2) ++
      (c.coverage g).unlisted.map .unsectioned := by
  rw [problems, Grammar.redefinitions, List.map_map]
  rfl

/-- Every kind of problem comes from one pass alone. -/
theorem count_problems (g : Grammar) (c : Contents) (p : Problem) : (problems g c).count p =
    match p with
    | .duplicate n => g.repeats.count n
    | .dangling r => g.dangling.count r
    | .invalid n fault => g.faults.count (n, fault)
    | .unknown id n => (c.coverage g).unknown.count (id, n)
    | .unsectioned n => (c.coverage g).unlisted.count n := by
  simp only [problems_eq, List.count_append]
  cases p with
  | duplicate n =>
    have own := List.count_map_of_injective g.repeats _ (fun _ _ => Problem.duplicate.inj) n
    simp [own, count_map_of_ne]
  | dangling r =>
    have own := List.count_map_of_injective g.dangling _ (fun _ _ => Problem.dangling.inj) r
    simp [own, count_map_of_ne]
  | invalid n fault =>
    have own := List.count_map_of_injective g.faults
      (fun entry => Problem.invalid entry.1 entry.2)
      (fun _ _ same => Prod.ext_iff.2 (Problem.invalid.inj same)) (n, fault)
    simp [own, count_map_of_ne]
  | unknown id n =>
    have own := List.count_map_of_injective (c.coverage g).unknown
      (fun entry => Problem.unknown entry.1 entry.2)
      (fun _ _ same => Prod.ext_iff.2 (Problem.unknown.inj same)) (id, n)
    simp [own, count_map_of_ne]
  | unsectioned n =>
    have own := List.count_map_of_injective (c.coverage g).unlisted _
      (fun _ _ => Problem.unsectioned.inj) n
    simp [own, count_map_of_ne]

/-- The passes over a grammar find what its definitions call for. -/
theorem tallied_problems (calls : List (Name × Expr)) (c : Contents) :
    Tallied calls c (problems (Grammar.empty.defineAll calls) c) := by
  have follows := Grammar.follows_defineAll calls
  have found := count_problems (Grammar.empty.defineAll calls) c
  constructor
  case duplicate =>
    intro n
    exact (found _).trans (Grammar.count_repeats calls n)
  case dangling =>
    intro r
    refine .of_nodup (found (.dangling r)) (Grammar.nodup_dangling _) ?_
    rw [Grammar.mem_dangling, follows.exists_rule_iff (r.target ∈ ·.references),
      follows.has_eq_false]
  case invalid =>
    intro n fault
    refine .of_nodup (found (.invalid n fault)) (Grammar.nodup_faults _) ?_
    rw [Grammar.mem_faults]
    exact follows.exists_rule_iff (·.fault? = some fault)
  case unknown =>
    intro id n
    refine (found (.unknown id n)).trans ?_
    have known : (Grammar.empty.defineAll calls).has n.text = true ↔ n ∈ calls.map Prod.fst := by
      rw [Grammar.has_text, follows.mem_names]
    simp only [Contents.count_unknown, known]
  case unsectioned =>
    intro n
    refine .of_nodup (found (.unsectioned n)) (c.nodup_unlisted _) ?_
    rw [Contents.mem_unlisted, follows.mem_names]

variable {calls : List (Name × Expr)} {c : Contents} {found : List Problem}

theorem Tallied.consistent (tallied : Tallied calls c []) : Consistent calls c := by
  constructor
  case once =>
    refine List.nodup_iff_count_le_one.2 fun n => ?_
    have none : 0 = _ := tallied.duplicate n
    omega
  case linked =>
    intro name body latest target mem
    apply Decidable.byContradiction
    intro undefined
    obtain ⟨-, n, -, -, rfl, -⟩ := id latest
    have one := (tallied.dangling ⟨n, target, false⟩).reported
      ⟨rfl, ⟨body, latest, mem⟩, fun d mem same => undefined ⟨d, mem, same⟩⟩
    cases one
  case valid =>
    intro name body latest
    obtain ⟨-, n, -, -, rfl, -⟩ := id latest
    cases broken : body.fault? with
    | none => rfl
    | some fault =>
      have one := (tallied.invalid n fault).reported ⟨body, latest, broken⟩
      cases one
  case listed =>
    intro n
    constructor
    · rintro ⟨s, there, mem⟩
      apply Decidable.byContradiction
      intro undefined
      have none : 0 = _ := tallied.unknown s.id n
      rw [if_neg undefined, eq_comm, List.count_eq_zero, Contents.mem_rules?] at none
      exact none ⟨s, there, rfl, mem⟩
    · intro defined
      apply Decidable.byContradiction
      intro unlisted
      have one := (tallied.unsectioned n).reported
        ⟨defined, fun s there mem => unlisted ⟨s, there, mem⟩⟩
      cases one

theorem Consistent.count_eq_zero (consistent : Consistent calls c) (tallied : Tallied calls c found)
    (p : Problem) : found.count p = 0 := by
  cases p with
  | duplicate n =>
    have once := List.nodup_iff_count_le_one.1 consistent.once n
    rw [tallied.duplicate]
    omega
  | dangling r =>
    refine (tallied.dangling r).otherwise ?_
    rintro ⟨-, ⟨body, latest, mem⟩, undefined⟩
    obtain ⟨d, there, same⟩ := consistent.linked _ body latest _ mem
    exact undefined d there same
  | invalid n fault =>
    refine (tallied.invalid n fault).otherwise ?_
    rintro ⟨body, latest, broken⟩
    rw [consistent.valid _ body latest] at broken
    cases broken
  | unknown id n =>
    rw [tallied.unknown]
    split
    · rfl
    · rename_i undefined
      refine List.count_eq_zero.2 fun mem => ?_
      obtain ⟨s, there, -, mem⟩ := Contents.mem_rules?.1 mem
      exact undefined ((consistent.listed n).1 ⟨s, there, mem⟩)
  | unsectioned n =>
    refine (tallied.unsectioned n).otherwise ?_
    rintro ⟨defined, unlisted⟩
    obtain ⟨s, there, mem⟩ := (consistent.listed n).2 defined
    exact unlisted s there mem

/-- Nothing is found exactly where all is well. -/
theorem Tallied.eq_nil_iff (tallied : Tallied calls c found) :
    found = [] ↔ Consistent calls c := by
  constructor
  · rintro rfl
    exact tallied.consistent
  · intro consistent
    refine List.eq_nil_iff_forall_not_mem.2 fun p => ?_
    exact List.count_eq_zero.1 (consistent.count_eq_zero tallied p)

/-- The problems in lines of their own and their number after them. -/
theorem output_auditPage (g : Grammar) (c : Contents) :
    (auditPage g c : Written ε Nat).output =
      String.join ((problems g c).map fun p => line p.message) ++
      line (toString g.size ++ " rules, " ++ toString c.size ++ " sections, " ++
        toString (problems g c).length ++ " problem(s)") := by
  rw [auditPage, forM_report, Written.bind_of_ok rfl]
  exact congrArg (_ ++ ·) (String.append_empty ..)

/-- A check that ends with zero or one for the right reasons, and counts what it has reported. -/
structure ExactCheck (calls : List (Name × Expr)) (c : Contents) (answer : Written ε Nat) :
    Prop where
  content : answer.result = .ok 0 ↔ Consistent calls c
  discontent : answer.result = .ok 1 ↔ ¬Consistent calls c
  counted : ∃ found, Tallied calls c found ∧
    answer.output = String.join (found.map fun p => line p.message) ++
      line (toString (firsts (calls.map Prod.fst)).length ++ " rules, " ++ toString c.size ++
        " sections, " ++ toString found.length ++ " problem(s)")

/-- For all definitions and all sections, the check is exact. -/
theorem verdict_exact (calls : List (Name × Expr)) (c : Contents) :
    ExactCheck calls c (auditPage (Grammar.empty.defineAll calls) c : Written ε Nat) := by
  have tallied := tallied_problems calls c
  constructor
  case content =>
    rw [auditPage_result, ← tallied.eq_nil_iff, ← List.isEmpty_iff]
    simp
  case discontent =>
    rw [auditPage_result, ← tallied.eq_nil_iff, ← List.isEmpty_iff]
    simp
  case counted =>
    refine ⟨_, tallied, ?_⟩
    rw [output_auditPage, ← Grammar.length_names, (Grammar.follows_defineAll calls).names]

def termName : Name := ⟨"term", by decide⟩

/-- The reference of the body that was replaced is not reported, while the repetition is. -/
example : problems (Grammar.empty.defineAll
    [(termName, .reference "factor"), (termName, .token "NAME")]) .empty =
      [.duplicate termName, .unsectioned termName] := by decide

end CommandLine

end Trackplan
