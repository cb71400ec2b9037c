import Mathlib.Computability.Language
import Trackplan.Plan

/-! Grammar expressions, diagrams and figures as sets of words. An expression and its diagram spell
terminals and names of rules; a figure spells the boxes that are met on the way along its tracks. -/
namespace Trackplan

open scoped Computability

variable {α β : Type}

/-- One or more words of a language, with a word of another one between each two. -/
inductive Separated (body between : Language α) : List α → Prop
  | one {u} : u ∈ body → Separated body between u
  | more {u s v} : u ∈ body → s ∈ between → Separated body between v →
      Separated body between (u ++ (s ++ v))

def separated (body between : Language α) : Language α := {w | Separated body between w}

/-- As many rounds as one likes, but no fewer than the least number. -/
def rounds (least : Least) (body between : Language α) : Language α :=
  match least with
  | .zero => 1 + separated body between
  | .one => separated body between

theorem separated_append {body between : Language α} (rest : List (List α))
    (more : ∀ w ∈ rest, w ∈ between * body) {u : List α} (first : u ∈ body) :
    Separated body between (u ++ rest.flatten) := by
  induction rest generalizing u with
  | nil => simpa using Separated.one first
  | cons w rest ih =>
    obtain ⟨s, sep, v, next, rfl⟩ := Language.mem_mul.mp (more w (by simp))
    rw [List.flatten_cons, List.append_assoc]
    exact .more first sep (ih (fun w mem => more w (List.mem_cons_of_mem _ mem)) next)

/-- Separated words are a first one and then a separator with one more, over and over. -/
theorem separated_eq (body between : Language α) :
    separated body between = body * (between * body)∗ := by
  refine Language.ext fun w => ⟨fun separated => ?_, fun mem => ?_⟩
  · induction separated with
    | @one u first => exact Language.mem_mul.mpr ⟨u, first, [], Language.nil_mem_kstar _, by simp⟩
    | @more u s v first sep _ ih =>
      obtain ⟨next, again, _, ⟨later, rfl, more⟩, rfl⟩ := Language.mem_mul.mp ih
      refine Language.mem_mul.mpr ⟨u, first, _, ⟨(s ++ next) :: later, rfl, ?_⟩, by simp⟩
      exact List.forall_mem_cons.mpr ⟨Language.append_mem_mul sep again, more⟩
  · obtain ⟨u, first, _, ⟨later, rfl, more⟩, rfl⟩ := Language.mem_mul.mp mem
    exact separated_append later more first

theorem map_singleton (f : α → β) (a : α) : Language.map f {[a]} = {[f a]} :=
  Set.image_singleton

/-- Renaming the symbols of both languages renames those of the rounds. -/
theorem map_rounds (f : α → β) (least : Least) (body between : Language α) :
    Language.map f (rounds least body between) =
      rounds least (Language.map f body) (Language.map f between) := by
  cases least <;> simp only [rounds, separated_eq, map_add, map_one, map_mul, Language.map_kstar]

/-- What an expression or a diagram is spelled with. -/
inductive Symbol
  | terminal (t : Terminal)
  | reference (name : String)
  deriving DecidableEq, Repr

namespace Expr

mutual

/-- A note spells nothing. -/
def language : Expr → Language Symbol
  | .terminal t => {[.terminal t]}
  | .reference name => {[.reference name]}
  | .note _ => 1
  | .sequence items => (languages items).prod
  | .choice options _ => (languages options).sum
  | .optional body => 1 + language body
  | .repetition least body none => rounds least (language body) 1
  | .repetition least body (some separator) => rounds least (language body) (language separator)

def languages : List Expr → List (Language Symbol)
  | [] => []
  | e :: rest => language e :: languages rest

end

theorem languages_eq (es : List Expr) : languages es = es.map language := by
  induction es with
  | nil => rfl
  | cons e rest ih => simp [languages, ih]

theorem language_sequence (items : List Expr) :
    language (.sequence items) = (items.map language).prod := by
  rw [language, languages_eq]

theorem language_choice (options : List Expr) (default : Nat) :
    language (.choice options default) = (options.map language).sum := by
  rw [language, languages_eq]

theorem language_repetition (least : Least) (body : Expr) (separator : Option Expr) :
    language (.repetition least body separator) =
      rounds least body.language (separator.elim 1 language) := by
  cases separator <;> rw [language] <;> rfl

end Expr

namespace Diagram.Node

mutual

/-- Plain track, comments and what stands for a missing definition spell nothing. -/
def language : Node → Language Symbol
  | .terminal t => {[.terminal t]}
  | .reference name => {[.reference name]}
  | .skip | .comment _ | .missing _ => 1
  | .sequence items => (languages items).prod
  | .choice paths _ => (languages paths).sum
  | .optional body => 1 + language body
  | .repetition least body none => rounds least (language body) 1
  | .repetition least body (some separator) => rounds least (language body) (language separator)

def languages : List Node → List (Language Symbol)
  | [] => []
  | n :: rest => language n :: languages rest

end

theorem languages_eq (ns : List Node) : languages ns = ns.map language := by
  induction ns with
  | nil => rfl
  | cons n rest ih => simp [languages, ih]

theorem language_sequence (items : List Node) :
    language (.sequence items) = (items.map language).prod := by
  rw [language, languages_eq]

theorem language_choice (paths : List Node) (default : Nat) :
    language (.choice paths default) = (paths.map language).sum := by
  rw [language, languages_eq]

theorem language_repetition (least : Least) (body : Node) (separator : Option Node) :
    language (.repetition least body separator) =
      rounds least body.language (separator.elim 1 language) := by
  cases separator <;> rw [language] <;> rfl

end Diagram.Node

namespace Figure

mutual

/-- The boxes met from the left end of the track to its right end. A branch is passed along one of
its paths; after the body of a loop the way back leads to the body once more, any number of
times. -/
def language : Figure → Language (Shape × String)
  | .box shape label => {[(shape, label)]}
  | .caption _ | .track _ => 1
  | .sequence first rest => (language first :: languages rest).prod
  | .branch above main below => (languages above ++ language main :: languages below).sum
  | .loop body back => language body * (language back * language body)∗

def languages : List Figure → List (Language (Shape × String))
  | [] => []
  | f :: rest => language f :: languages rest

end

theorem languages_eq (fs : List Figure) : languages fs = fs.map language := by
  induction fs with
  | nil => rfl
  | cons f rest ih => simp [languages, ih]

theorem language_sequence (first : Figure) (rest : List Figure) :
    language (.sequence first rest) = ((first :: rest).map language).prod := by
  rw [language, languages_eq, List.map_cons]

theorem language_branch (above : List Figure) (main : Figure) (below : List Figure) :
    language (.branch above main below) = ((above ++ main :: below).map language).sum := by
  rw [language, languages_eq, languages_eq, List.map_append, List.map_cons]

end Figure

end Trackplan
