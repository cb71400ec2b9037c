import Mathlib.Data.List.Forall2
import Trackplan.Grammar.Diagram
import Trackplan.Grammar.References

/-! A grammar after any run of definitions. It has the names in the order in which they first came
up, each with the body that it was given last, and has reported every definition of a name that was
there before. -/
namespace Trackplan.Grammar

/-- What the definitions are answered, one after the other. -/
def answers (g : Grammar) : List (Name × Expr) → List (Option Redefinition)
  | [] => []
  | (name, body) :: rest => (g.define name body).2 :: (g.define name body).1.answers rest

/-- The last definition of the name gives it this body. -/
def Latest (history : List (Name × Expr)) (name : String) (body : Expr) : Prop :=
  ∃ before n after, history = before ++ (n, body) :: after ∧ n.text = name ∧
    ∀ later ∈ after, later.1.text ≠ name

/-- The answer that a definition calls for, by its place in the history. -/
def answerAt (history : List (Name × Expr)) (i : Nat) (d : Name × Expr) : Option Redefinition :=
  if d.1 ∈ (history.take i).map Prod.fst then some ⟨d.1⟩ else none

/-- What comes later changes no answer. -/
theorem mapIdx_answerAt_concat (history : List (Name × Expr)) (d : Name × Expr) :
    (history ++ [d]).mapIdx (answerAt (history ++ [d])) =
      history.mapIdx (answerAt history) ++
        [if d.1 ∈ history.map Prod.fst then some ⟨d.1⟩ else none] := by
  have kept : history.mapIdx (answerAt (history ++ [d])) = history.mapIdx (answerAt history) := by
    refine List.ext_getElem (by simp) fun i inside _ => ?_
    have early : i ≤ history.length := by simpa using Nat.le_of_lt inside
    simp [answerAt, List.take_append_of_le_length early]
  rw [List.mapIdx_concat, kept, answerAt, List.take_left]

variable {g : Grammar} {history : List (Name × Expr)} {name : String} {body : Expr}

theorem latest_concat (n : Name) (b : Expr) :
    Latest (history ++ [(n, b)]) name body ↔
      if name = n.text then body = b else Latest history name body := by
  constructor
  · rintro ⟨before, m, after, split, rfl, last⟩
    rcases List.eq_nil_or_concat after with rfl | ⟨mid, e, rfl⟩
    · obtain ⟨-, pair⟩ := List.append_inj' split rfl
      simp only [List.cons.injEq, Prod.mk.injEq, and_true] at pair
      obtain ⟨rfl, rfl⟩ := pair
      simp
    · have ends : history ++ [(n, b)] = (before ++ (m, body) :: mid) ++ [e] := by
        simpa using split
      obtain ⟨same, pair⟩ := List.append_inj' ends rfl
      obtain rfl : (n, b) = e := by simpa using pair
      rw [if_neg fun again => last (n, b) (by simp) again.symm]
      exact ⟨before, m, mid, same, rfl, fun later mem => last later (by simp [mem])⟩
  · split
    · rename_i same
      rintro rfl
      exact ⟨history, n, [], rfl, same.symm, by simp⟩
    · rename_i other
      rintro ⟨before, m, after, rfl, rfl, last⟩
      refine ⟨before, m, after ++ [(n, b)], by simp, rfl, ?_⟩
      intro later mem
      rcases List.mem_append.1 mem with mem | mem
      · exact last later mem
      · obtain rfl := List.mem_singleton.1 mem
        exact fun again => other again.symm

/-- What holds of a grammar after a history of definitions and the answers to them. -/
structure Follows (g : Grammar) (history : List (Name × Expr))
    (answers : List (Option Redefinition)) : Prop where
  names : g.names = firsts (history.map Prod.fst)
  latest : ∀ name rule, g.find? name = some rule ↔
    rule.name.text = name ∧ Latest history name rule.body
  answered : answers = history.mapIdx (answerAt history)
  reported : g.redefinitions = answers.filterMap id
  counted : g.size + g.redefinitions.length = history.length

theorem follows_empty : empty.Follows [] [] where
  names := rfl
  latest name rule := by simp [find?, empty, Latest]
  answered := rfl
  reported := rfl
  counted := rfl

theorem length_names (g : Grammar) : g.names.length = g.size := List.length_map _

theorem firsts_concat {α : Type} [DecidableEq α] (as : List α) (a : α) :
    firsts (as ++ [a]) = if a ∈ firsts as then firsts as else firsts as ++ [a] := by
  rw [← foldl_collect_nil, List.foldl_append, foldl_collect_nil]
  rfl

/-- One more definition. -/
theorem Follows.define {answers : List (Option Redefinition)} (follows : g.Follows history answers)
    (n : Name) (b : Expr) :
    (g.define n b).1.Follows (history ++ [(n, b)]) (answers ++ [(g.define n b).2]) where
  names := by
    rw [names_define, follows.names, List.map_append, List.map_singleton, firsts_concat]
  latest name rule := by
    rw [find?_define, latest_concat]
    split
    · rename_i same
      subst same
      obtain ⟨m, c⟩ := rule
      simp only [Option.some.injEq, Rule.mk.injEq]
      constructor
      · rintro ⟨rfl, rfl⟩; exact ⟨rfl, rfl⟩
      · rintro ⟨same, rfl⟩; exact ⟨Name.ext same.symm, rfl⟩
    · exact follows.latest name rule
  answered := by
    rw [mapIdx_answerAt_concat, ← follows.answered, define_answer, follows.names]
    simp only [mem_firsts]
  reported := by
    rw [List.filterMap_append, ← follows.reported, redefinitions, repeats_define, define_answer]
    split <;> simp [redefinitions]
  counted := by
    have before := follows.counted
    rw [← length_names, redefinitions, List.length_map] at before ⊢
    rw [names_define, repeats_define, List.length_append, List.length_singleton, ← before]
    split <;> simp only [List.length_append, List.length_singleton] <;> omega

/-- A whole run of definitions. -/
theorem Follows.defineAll {answers : List (Option Redefinition)}
    (follows : g.Follows history answers) (calls : List (Name × Expr)) :
    (g.defineAll calls).Follows (history ++ calls) (answers ++ g.answers calls) := by
  induction calls generalizing g history answers with
  | nil => simpa [Grammar.defineAll, Grammar.answers] using follows
  | cons d rest ih =>
    obtain ⟨n, b⟩ := d
    simpa [Grammar.defineAll, Grammar.answers] using ih (follows.define n b)

/-- A definition as it is written, its name a plain text. -/
def written (d : Name × Expr) : String × Expr := (d.1.text, d.2)

theorem mapM_eq_ok {ε α β : Type} {f : α → Except ε β} {as : List α} {bs : List β} :
    as.mapM f = .ok bs ↔ List.Forall₂ (fun a b => f a = .ok b) as bs := by
  induction as generalizing bs with
  | nil => cases bs <;> simp [pure, Except.pure]
  | cons a rest ih =>
    rw [List.mapM_cons]
    cases here : f a with
    | error fault => cases bs <;> simp [bind, Except.bind, here]
    | ok b =>
      cases later : rest.mapM f with
      | error fault => cases bs <;> simp [bind, Except.bind, here, ← ih, later]
      | ok bs' => cases bs <;> simp [bind, Except.bind, pure, Except.pure, here, ← ih, later]

theorem named_eq_ok {d : String × Expr} {n : Name × Expr} :
    (do return (← Name.ofText d.1, d.2)) = Except.ok n ↔ d = written n := by
  obtain ⟨text, body⟩ := d
  obtain ⟨name, body'⟩ := n
  cases named : Name.ofText text with
  | error fault =>
    have other : text ≠ name.text := by
      rintro rfl
      rw [Name.ofText_text] at named
      cases named
    simp [bind, Except.bind, written, other]
  | ok m =>
    obtain rfl := Name.ofText_eq_ok.1 named
    simp [bind, Except.bind, pure, Except.pure, written, Name.text_injective.eq_iff]

/-- Definitions make a grammar exactly if their names are names. -/
theorem ofDefinitions_eq_ok {definitions : List (String × Expr)} :
    ofDefinitions definitions = .ok g ↔
      ∃ named, definitions = List.map written named ∧ g = empty.defineAll named := by
  have all (named : List (Name × Expr)) :
      (definitions.mapM fun d => do return (← Name.ofText d.1, d.2)) = Except.ok named ↔
        definitions = named.map written := by
    simp only [mapM_eq_ok, named_eq_ok]
    rw [← List.forall₂_map_right_iff, List.forall₂_eq_eq_eq]
  unfold ofDefinitions
  constructor
  · intro made
    cases named : definitions.mapM fun d => do return (← Name.ofText d.1, d.2) with
    | error fault => rw [named] at made; cases made
    | ok ds =>
      rw [named] at made
      exact ⟨ds, (all ds).1 named, (Except.ok.inj made).symm⟩
  · rintro ⟨ds, split, rfl⟩
    rw [(all ds).2 split]
    rfl

/-- A grammar as an ordered map in which the last write wins. -/
structure LastWriteWins (g : Grammar) (history : List (Name × Expr))
    (answers : List (Option Redefinition)) : Prop where
  distinct : g.names.Nodup
  indexed : ∀ name place, g.index.lookup name = some place ↔
    ∃ rule, g.rules[place]? = some rule ∧ rule.name.text = name
  ordered : g.names = firsts (history.map Prod.fst)
  found : ∀ name rule, g.find? name = some rule ↔
    rule.name.text = name ∧ Latest history name rule.body
  known : ∀ name body, g.lookup name = .ok body ↔ Latest history name body
  unknown : ∀ name fault, g.lookup name = .error fault ↔
    fault = ⟨name⟩ ∧ ∀ d ∈ history, d.1.text ≠ name
  has : ∀ name, g.has name = (g.find? name).isSome
  answered : answers = history.mapIdx (answerAt history)
  reported : g.redefinitions = answers.filterMap id
  counted : g.size + g.redefinitions.length = history.length
  drawn : g.diagrams = g.names.map fun name => g.diagram name.text

theorem diagram_of_mem {rule : Rule} (mem : rule ∈ g.rules) :
    g.diagram rule.name.text = rule.diagram := by
  rw [diagram, find?_eq_some.2 ⟨mem, rfl⟩]

theorem Follows.find?_eq_none {answers : List (Option Redefinition)}
    (follows : g.Follows history answers) :
    g.find? name = none ↔ ∀ d ∈ history, d.1.text ≠ name := by
  rw [← Option.not_isSome_iff_eq_none, isSome_find?, has_iff, follows.names]
  simp [mem_firsts]

theorem Follows.lastWriteWins {answers : List (Option Redefinition)}
    (follows : g.Follows history answers) : g.LastWriteWins history answers where
  distinct := g.distinct
  indexed := g.indexed
  ordered := follows.names
  found := follows.latest
  known name body := by
    constructor
    · intro ok
      unfold lookup at ok
      split at ok
      · rename_i rule found
        obtain ⟨-, latest⟩ := (follows.latest name rule).1 found
        rwa [Except.ok.inj ok] at latest
      · cases ok
    · intro latest
      obtain ⟨-, n, -, -, rfl, -⟩ := id latest
      rw [lookup, (follows.latest n.text ⟨n, body⟩).2 ⟨rfl, latest⟩]
  unknown name fault := by
    rw [← follows.find?_eq_none, lookup]
    cases g.find? name <;> simp [eq_comm]
  has name := (g.isSome_find? name).symm
  answered := follows.answered
  reported := follows.reported
  counted := follows.counted
  drawn := by
    rw [diagrams, Grammar.names, List.map_map]
    exact List.map_congr_left fun rule mem => (diagram_of_mem mem).symm

/-- A grammar that is made of definitions and then given more of them keeps the last body of every
name, in the order in which the names first came up, and reports each repetition when it is made. -/
theorem last_write_wins (definitions : List (String × Expr)) (calls : List (Name × Expr))
    {made : Grammar} (ok : ofDefinitions definitions = .ok made) :
    ∃ named, definitions = named.map written ∧
      (made.defineAll calls).LastWriteWins (named ++ calls)
        (empty.answers named ++ made.answers calls) := by
  obtain ⟨named, split, rfl⟩ := ofDefinitions_eq_ok.1 ok
  have first : (empty.defineAll named).Follows named (empty.answers named) := by
    simpa using follows_empty.defineAll named
  exact ⟨named, split, (first.defineAll calls).lastWriteWins⟩

def itemName : Name := ⟨"item", by decide⟩

def listName : Name := ⟨"list", by decide⟩

/-- An item is defined again after the list of items. -/
def revised : List (Name × Expr) :=
  [(itemName, .token "NAME"), (listName, .repetition .one (.reference "item") none),
    (itemName, .token "NUMBER")]

theorem last_write_wins_revised :
    ∃ made, ofDefinitions (revised.map written) = .ok made ∧
      (∃ named, revised.map written = named.map written ∧
        (made.defineAll [(listName, .reference "item")]).LastWriteWins
          (named ++ [(listName, .reference "item")])
          (empty.answers named ++ made.answers [(listName, .reference "item")])) ∧
      (made.defineAll [(listName, .reference "item")]).names = [itemName, listName] ∧
      made.answers [(listName, .reference "item")] = [some ⟨listName⟩] := by
  have ok := ofDefinitions_eq_ok.2 ⟨revised, rfl, rfl⟩
  exact ⟨_, ok, last_write_wins _ _ ok, by decide, by decide⟩

end Trackplan.Grammar
