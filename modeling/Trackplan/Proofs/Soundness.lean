import Trackplan.Diagram.OfExpr
import Trackplan.Proofs.Legible

/-! Sound diagrams: every choice offers its default, and no repetition runs round a bare track. An
expression is valid exactly if its diagram is sound, because splicing a sequence neither hides a
node nor leaves a bare track among the pieces of a run. -/
namespace Trackplan.Diagram.Node

/-- What a node asks of its own parts. -/
def Sound : Node → Prop
  | .choice paths default => default < paths.length
  | .repetition _ body _ => body ≠ .skip
  | _ => True

/-- The node and everything on it have the property. -/
def Everywhere (p : Node → Prop) (n : Node) : Prop := ∀ m ∈ n.nodes, p m

section

variable {p : Node → Prop}

theorem everywhere_sequence {items : List Node} :
    Everywhere p (.sequence items) ↔ p (.sequence items) ∧ ∀ n ∈ items, Everywhere p n := by
  simp only [Everywhere, nodes_sequence, List.forall_mem_cons, List.forall_mem_flatMap]

theorem everywhere_choice {paths : List Node} {default : Nat} :
    Everywhere p (.choice paths default) ↔
      p (.choice paths default) ∧ ∀ n ∈ paths, Everywhere p n := by
  simp only [Everywhere, nodes_choice, List.forall_mem_cons, List.forall_mem_flatMap]

theorem everywhere_optional {body : Node} :
    Everywhere p (.optional body) ↔ p (.optional body) ∧ Everywhere p body := by
  simp only [Everywhere, nodes, List.forall_mem_cons]

theorem everywhere_repetition {least : Least} {body : Node} {separator : Option Node} :
    Everywhere p (.repetition least body separator) ↔ p (.repetition least body separator) ∧
      Everywhere p body ∧ ∀ s ∈ separator, Everywhere p s := by
  cases separator <;> simp [Everywhere, nodes, or_imp, forall_and]

end

/-- Neither a bare track nor a run of pieces. -/
def IsPiece : Node → Prop
  | .skip | .sequence _ => False
  | _ => True

theorem everywhere_sound {n : Node} : n.Everywhere Sound ↔
    (∀ paths default, .choice paths default ∈ n.nodes → paths ≠ [] ∧ default < paths.length) ∧
    ∀ least body separator, .repetition least body separator ∈ n.nodes → body ≠ .skip := by
  constructor
  · intro sound
    refine ⟨fun paths default mem => ?_, fun least body separator mem => sound _ mem⟩
    have inside : default < paths.length := sound _ mem
    exact ⟨List.ne_nil_of_length_pos (Nat.zero_lt_of_lt inside), inside⟩
  · rintro ⟨choices, repetitions⟩ m mem
    cases m with
    | choice paths default => exact (choices paths default mem).2
    | repetition least body separator => exact repetitions least body separator mem
    | _ => trivial

section

variable {n : Node} {ns : List Node}

theorem pieces_of_isPiece (single : n.IsPiece) : n.pieces = [n] := by
  cases n with
  | skip => exact single.elim
  | sequence items => exact single.elim
  | _ => rfl

theorem pieces_run (single : ∀ n ∈ ns, n.IsPiece) : (run ns).pieces = ns :=
  match ns with
  | [] => rfl
  | [n] => pieces_of_isPiece (single n (List.mem_singleton_self n))
  | _ :: _ :: _ => rfl

theorem sound_run : (run ns).Everywhere Sound ↔ ∀ n ∈ ns, n.Everywhere Sound :=
  match ns with
  | [] => by simp [run, Everywhere, nodes, Sound]
  | [n] => by simp [run]
  | first :: second :: rest => everywhere_sequence.trans (and_iff_right trivial)

theorem Everywhere.pieces {p : Node → Prop} (holds : n.Everywhere p) :
    ∀ m ∈ n.pieces, m.Everywhere p := by
  cases n with
  | sequence items => exact (everywhere_sequence.1 holds).2
  | skip => nofun
  | _ => exact List.forall_mem_singleton.2 holds

theorem sound_pieces : (∀ m ∈ n.pieces, m.Everywhere Sound) ↔ n.Everywhere Sound := by
  refine ⟨fun sound => ?_, Everywhere.pieces⟩
  cases n with
  | sequence items => exact everywhere_sequence.2 ⟨trivial, sound⟩
  | skip => simp [Everywhere, nodes, Sound]
  | _ => exact List.forall_mem_singleton.1 sound

end

/-- Only whole pieces are spliced into a run. -/
theorem isPiece_of_mem_pieces (e : Expr) : ∀ n ∈ (ofExpr e).pieces, n.IsPiece := by
  induction e using Expr.induct with
  | sequence items ih =>
    have single : ∀ n ∈ items.flatMap (pieces ∘ ofExpr), n.IsPiece :=
      List.forall_mem_flatMap.2 ih
    rw [ofExpr_sequence, pieces_run single]
    exact single
  | terminal | reference | note | optional => simp [ofExpr, pieces, IsPiece]
  | choice options default => simp [ofExpr_choice, pieces, IsPiece]
  | repetition least body separator => simp [ofExpr_repetition, pieces, IsPiece]

theorem isPiece_of_mem_items (items : List Expr) :
    ∀ n ∈ items.flatMap (pieces ∘ ofExpr), n.IsPiece :=
  List.forall_mem_flatMap.2 fun e _ => isPiece_of_mem_pieces e

theorem pieces_sequence (items : List Expr) :
    (ofExpr (.sequence items)).pieces = items.flatMap (pieces ∘ ofExpr) := by
  rw [ofExpr_sequence, pieces_run (isPiece_of_mem_items items)]

/-- What an expression adds to a run is the run that it makes by itself. -/
theorem run_pieces (e : Expr) : run (ofExpr e).pieces = ofExpr e := by
  cases e with
  | sequence items => rw [pieces_sequence, ofExpr_sequence]
  | repetition least body separator => rw [ofExpr_repetition]; rfl
  | terminal | reference | note | choice | optional => rfl

theorem pieces_eq_nil (e : Expr) : (ofExpr e).pieces = [] ↔ e.isEmpty = true := by
  induction e using Expr.induct with
  | sequence items ih =>
    rw [pieces_sequence, List.flatMap_eq_nil_iff, Expr.isEmpty, Expr.allEmpty_eq,
      List.all_eq_true]
    exact forall₂_congr ih
  | terminal | reference | note | optional => simp [ofExpr, pieces, Expr.isEmpty]
  | choice options default => simp [ofExpr_choice, pieces, Expr.isEmpty]
  | repetition least body separator => simp [ofExpr_repetition, pieces, Expr.isEmpty]

/-- The bare tracks are the diagrams of the empty production. -/
theorem ofExpr_eq_skip (e : Expr) : ofExpr e = .skip ↔ e.isEmpty = true := by
  constructor
  · intro bare
    rw [← pieces_eq_nil, bare]
    rfl
  · intro empty
    rw [← run_pieces, (pieces_eq_nil e).2 empty]
    rfl

theorem sound_repetition {least : Least} {body : Expr} {separator : Option Node} :
    (Node.repetition least (ofExpr body) separator).Sound ↔ Expr.repetitionFault? body = none := by
  rw [Expr.repetitionFault?_eq_none, ← Bool.not_eq_true, ← ofExpr_eq_skip]
  rfl

/-- Validity of an expression is soundness of its diagram. -/
theorem sound_ofExpr (e : Expr) : (ofExpr e).Everywhere Sound ↔ e.fault? = none := by
  rw [Expr.fault?_eq_none]
  induction e using Expr.induct with
  | terminal | reference | note =>
    simp [ofExpr, Everywhere, nodes, Sound, Expr.Everywhere, Expr.nodes, Expr.ownFault?]
  | sequence items ih =>
    have own : (Expr.sequence items).ownFault? = none := rfl
    rw [ofExpr_sequence, sound_run, List.forall_mem_flatMap, Expr.everywhere_sequence,
      and_iff_right own]
    exact forall₂_congr fun e mem => sound_pieces.trans (ih e mem)
  | choice options default ih =>
    have own : (Expr.choice options default).ownFault? =
      Expr.choiceFault? options.length default := rfl
    rw [ofExpr_choice, everywhere_choice, Expr.everywhere_choice, own,
      Expr.choiceFault?_eq_none, List.forall_mem_map]
    apply and_congr
    · simp only [Sound, List.length_map]
    · exact forall₂_congr ih
  | optional body ih =>
    have own : (Expr.optional body).ownFault? = none := rfl
    rw [ofExpr, everywhere_optional, Expr.everywhere_optional, and_iff_right own, ih]
    exact and_iff_right trivial
  | repetition least body separator ih ihSeparator =>
    have own : (Expr.repetition least body separator).ownFault? = Expr.repetitionFault? body := rfl
    rw [ofExpr_repetition, everywhere_repetition, Expr.everywhere_repetition, own, ih]
    apply and_congr sound_repetition
    apply and_congr_right'
    simpa using forall₂_congr ihSeparator

end Trackplan.Diagram.Node

namespace Trackplan.Diagram

/-- An expression is empty exactly if its diagram is a bare track, and valid exactly if in its
diagram every choice has a path at its default and no repetition runs round a bare track. -/
theorem validity_shown (e : Expr) :
    (e.isEmpty = true ↔ (Diagram.ofExpr e).root = .skip) ∧
    (e.fault? = none ↔
      (∀ paths default, .choice paths default ∈ (Diagram.ofExpr e).root.nodes →
        paths ≠ [] ∧ default < paths.length) ∧
      ∀ least body separator, .repetition least body separator ∈ (Diagram.ofExpr e).root.nodes →
        body ≠ .skip) :=
  ⟨(Node.ofExpr_eq_skip e).symm, (Node.sound_ofExpr e).symm.trans Node.everywhere_sound⟩

end Trackplan.Diagram
