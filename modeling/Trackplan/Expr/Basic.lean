/-! Grammar expressions as finite trees. A rule refers to another one by name only, so a recursive
grammar needs no cyclic tree. Subexpressions are listed parents first, and the repeated body
before its separator. -/
namespace Trackplan

inductive Terminal.Kind
  | token | literal | keyword | softKeyword
  deriving DecidableEq, Repr

structure Terminal where
  text : String
  kind : Terminal.Kind
  deriving DecidableEq, Repr

namespace Terminal

/-- Token classes are spelled in capitals and low lines with at least one letter; any other text
stands for itself. -/
def Kind.ofText (text : String) : Kind :=
  if text.toList.all (fun c => c.isUpper || c = '_') && text.toList.any Char.isUpper
  then .token else .literal

def ofText (text : String) : Terminal := ⟨text, .ofText text⟩

/-- The terminal as grammar source writes it. -/
def written (t : Terminal) : String :=
  match t.kind with
  | .token => t.text
  | .literal | .keyword => "'" ++ t.text ++ "'"
  | .softKeyword => "\"" ++ t.text ++ "\""

end Terminal

/-- The fewest rounds of a repetition. -/
inductive Least
  | zero | one
  deriving DecidableEq, Repr

inductive Expr
  | terminal (t : Terminal)
  | reference (name : String)
  | note (text : String)
  | sequence (items : List Expr)
  | choice (options : List Expr) (default : Nat)
  | optional (body : Expr)
  | repetition (least : Least) (body : Expr) (separator : Option Expr)

namespace Expr

def token (text : String) : Expr := .terminal (.ofText text)
def keyword (text : String) : Expr := .terminal ⟨text, .keyword⟩
def softKeyword (text : String) : Expr := .terminal ⟨text, .softKeyword⟩

/-- Membership hypotheses replace the list and option cases of the recursor. -/
@[elab_as_elim]
theorem induct {P : Expr → Prop}
    (terminal : ∀ t, P (.terminal t)) (reference : ∀ name, P (.reference name))
    (note : ∀ text, P (.note text))
    (sequence : ∀ items, (∀ e ∈ items, P e) → P (.sequence items))
    (choice : ∀ options default, (∀ e ∈ options, P e) → P (.choice options default))
    (optional : ∀ body, P body → P (.optional body))
    (repetition : ∀ least body separator, P body → (∀ s ∈ separator, P s) →
      P (.repetition least body separator)) (e : Expr) : P e :=
  @Expr.rec P (fun es => ∀ e ∈ es, P e) (fun s => ∀ e ∈ s, P e)
    terminal reference note sequence choice optional repetition
    (by simp) (fun _ _ first rest => by simpa using ⟨first, rest⟩)
    (by simp) (fun _ ih => by simpa using ih) e

mutual

def decEq : (a b : Expr) → Decidable (a = b)
  | .terminal a, .terminal b => decidable_of_iff (a = b) (by simp)
  | .reference a, .reference b => decidable_of_iff (a = b) (by simp)
  | .note a, .note b => decidable_of_iff (a = b) (by simp)
  | .sequence as, .sequence bs =>
    have := decEqAll as bs
    decidable_of_iff (as = bs) (by simp)
  | .choice as m, .choice bs n =>
    have := decEqAll as bs
    decidable_of_iff (as = bs ∧ m = n) (by simp)
  | .optional a, .optional b =>
    have := decEq a b
    decidable_of_iff (a = b) (by simp)
  | .repetition l a none, .repetition k b none =>
    have := decEq a b
    decidable_of_iff (l = k ∧ a = b) (by simp)
  | .repetition l a (some s), .repetition k b (some t) =>
    have := decEq a b
    have := decEq s t
    decidable_of_iff (l = k ∧ a = b ∧ s = t) (by simp)
  | .repetition _ _ none, .repetition _ _ (some _)
  | .repetition _ _ (some _), .repetition _ _ none => isFalse (by simp)
  | .terminal _, .reference _ | .terminal _, .note _ | .terminal _, .sequence _
  | .terminal _, .choice .. | .terminal _, .optional _ | .terminal _, .repetition ..
  | .reference _, .terminal _ | .reference _, .note _ | .reference _, .sequence _
  | .reference _, .choice .. | .reference _, .optional _ | .reference _, .repetition ..
  | .note _, .terminal _ | .note _, .reference _ | .note _, .sequence _
  | .note _, .choice .. | .note _, .optional _ | .note _, .repetition ..
  | .sequence _, .terminal _ | .sequence _, .reference _ | .sequence _, .note _
  | .sequence _, .choice .. | .sequence _, .optional _ | .sequence _, .repetition ..
  | .choice .., .terminal _ | .choice .., .reference _ | .choice .., .note _
  | .choice .., .sequence _ | .choice .., .optional _ | .choice .., .repetition ..
  | .optional _, .terminal _ | .optional _, .reference _ | .optional _, .note _
  | .optional _, .sequence _ | .optional _, .choice .. | .optional _, .repetition ..
  | .repetition .., .terminal _ | .repetition .., .reference _ | .repetition .., .note _
  | .repetition .., .sequence _ | .repetition .., .choice ..
  | .repetition .., .optional _ => isFalse (by simp)

def decEqAll : (as bs : List Expr) → Decidable (as = bs)
  | [], [] => isTrue rfl
  | [], _ :: _ | _ :: _, [] => isFalse (by simp)
  | a :: as, b :: bs =>
    have := decEq a b
    have := decEqAll as bs
    decidable_of_iff (a = b ∧ as = bs) (by simp)

end

instance : DecidableEq Expr := decEq

mutual

def nodes : Expr → List Expr
  | .terminal t => [.terminal t]
  | .reference name => [.reference name]
  | .note text => [.note text]
  | .sequence items => .sequence items :: nodesAll items
  | .choice options default => .choice options default :: nodesAll options
  | .optional body => .optional body :: nodes body
  | .repetition least body none => .repetition least body none :: nodes body
  | .repetition least body (some separator) =>
    .repetition least body (some separator) :: (nodes body ++ nodes separator)

def nodesAll : List Expr → List Expr
  | [] => []
  | e :: rest => nodes e ++ nodesAll rest

end

def terminal? : Expr → Option Terminal
  | .terminal t => some t
  | _ => none

def reference? : Expr → Option String
  | .reference name => some name
  | _ => none

def terminals (e : Expr) : List Terminal := e.nodes.filterMap terminal?

/-- Names of the rules referred to, with repetitions. -/
def references (e : Expr) : List String := e.nodes.filterMap reference?

theorem nodesAll_eq (es : List Expr) : nodesAll es = es.flatMap nodes := by
  induction es with
  | nil => rfl
  | cons e rest ih => simp [nodesAll, ih]

theorem nodes_sequence (items : List Expr) :
    nodes (.sequence items) = .sequence items :: items.flatMap nodes := by
  simp [nodes, nodesAll_eq]

theorem nodes_choice (options : List Expr) (default : Nat) :
    nodes (.choice options default) = .choice options default :: options.flatMap nodes := by
  simp [nodes, nodesAll_eq]

theorem nodes_repetition (least : Least) (body : Expr) (separator : Option Expr) :
    nodes (.repetition least body separator) =
      .repetition least body separator :: (nodes body ++ separator.toList.flatMap nodes) := by
  cases separator <;> simp [nodes]

end Expr

end Trackplan
