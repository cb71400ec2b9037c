import Trackplan.Proofs.Spelling

/-! What the text of an expression shows of it. One-item sequences, one-option choices and defaults
leave no trace, keywords look like literals, and a separated repetition that may be left out looks
like the optional one. -/
namespace Trackplan

/-- Keywords and literals are written alike. -/
def Terminal.core (t : Terminal) : Terminal :=
  match t.kind with
  | .keyword => ⟨t.text, .literal⟩
  | .token | .literal | .softKeyword => t

namespace Expr

def ofItems : List Expr → Expr
  | [e] => e
  | items => .sequence items

def ofOptions : List Expr → Expr
  | [e] => e
  | options => .choice options 0

mutual

/-- The expression up to what no text shows: one-item sequences, one-option choices, defaults,
keywords among literals, and the two ways to say that a separated repetition may be left out. -/
def core : Expr → Expr
  | .terminal t => .terminal t.core
  | .reference name => .reference name
  | .note text => .note text
  | .sequence items => ofItems (coreEach items)
  | .choice options _ => ofOptions (coreEach options)
  | .optional body => .optional (core body)
  | .repetition least body none => .repetition least (core body) none
  | .repetition .zero body (some separator) =>
    .optional (.repetition .one (core body) (some (core separator)))
  | .repetition .one body (some separator) => .repetition .one (core body) (some (core separator))

def coreEach : List Expr → List Expr
  | [] => []
  | e :: rest => core e :: coreEach rest

end

theorem coreEach_eq (es : List Expr) : coreEach es = es.map core := by
  induction es with
  | nil => rfl
  | cons e rest ih => simp [coreEach, ih]

theorem core_sequence (items : List Expr) : core (.sequence items) = ofItems (items.map core) := by
  rw [core, coreEach_eq]

theorem core_choice (options : List Expr) (default : Nat) :
    core (.choice options default) = ofOptions (options.map core) := by
  rw [core, coreEach_eq]

section

variable {f : Expr → Expr}

theorem lexemesEach_map {place : Place} {es : List Expr}
    (same : ∀ e ∈ es, lexemesAt place (f e) = lexemesAt place e) :
    lexemesEach place (es.map f) = lexemesEach place es := by
  rw [lexemesEach_eq, lexemesEach_eq, List.map_map]
  exact List.map_congr_left same

theorem lexemesAt_sequence_map {items : List Expr}
    (same : ∀ e ∈ items, ∀ place, lexemesAt place (f e) = lexemesAt place e) (place : Place) :
    lexemesAt place (.sequence (items.map f)) = lexemesAt place (.sequence items) := by
  match items with
  | [] => rfl
  | [e] => exact same e (by simp) place
  | e :: g :: rest =>
    exact congrArg (fun each => enclosedIf place.bindsSequence ([.space].intercalate each))
      (lexemesEach_map fun e mem => same e mem .item)

theorem lexemesAt_choice_map {options : List Expr} {default other : Nat}
    (same : ∀ e ∈ options, ∀ place, lexemesAt place (f e) = lexemesAt place e) (place : Place) :
    lexemesAt place (.choice (options.map f) other) =
      lexemesAt place (.choice options default) := by
  match options with
  | [] => rfl
  | [e] => exact same e (by simp) place
  | e :: g :: rest =>
    exact congrArg
      (fun each => enclosedIf place.bindsChoice ([.space, .bar, .space].intercalate each))
      (lexemesEach_map fun e mem => same e mem .option)

end

theorem lexemesAt_ofItems (place : Place) (items : List Expr) :
    lexemesAt place (ofItems items) = lexemesAt place (.sequence items) := by
  match items with
  | [] | [_] | _ :: _ :: _ => rfl

theorem lexemesAt_ofOptions (place : Place) (options : List Expr) :
    lexemesAt place (ofOptions options) = lexemesAt place (.choice options 0) := by
  match options with
  | [] | [_] | _ :: _ :: _ => rfl

/-- No text shows more of an expression than its core. -/
theorem lexemesAt_core (place : Place) (e : Expr) : lexemesAt place e.core = lexemesAt place e := by
  induction e using Expr.induct generalizing place with
  | terminal t =>
    obtain ⟨text, kind⟩ := t
    cases kind <;> rfl
  | reference | note => rfl
  | sequence items ih =>
    rw [core_sequence, lexemesAt_ofItems]
    exact lexemesAt_sequence_map (fun e mem place => ih e mem place) place
  | choice options default ih =>
    rw [core_choice, lexemesAt_ofOptions]
    exact lexemesAt_choice_map (fun e mem place => ih e mem place) place
  | optional body ih => simp [core, lexemesAt, ih]
  | repetition least body separator ih ihSeparator =>
    cases separator with
    | none => cases least <;> simp [core, lexemesAt, ih]
    | some s => cases least <;> simp [core, lexemesAt, ih, ihSeparator s rfl]

end Expr

end Trackplan
