import Mathlib.Data.List.Forall2
import Trackplan.Proofs.Arrangement
import Trackplan.Proofs.Labels

/-! How a style bears on the size of a plan. Two styles make figures of one construction from a
diagram, so what passes from parts to wholes need only be looked at where the styles show up: at
the labels and the notes. Showing more makes no figure smaller, and labels alone leave all rows as
they are. -/
namespace Trackplan

namespace Figure

/-- The relation passes from parts to the figures that are made of them alike, and from the body of a
loop to the plain way back beneath it. -/
structure Compatible (R : Figure → Figure → Prop) : Prop where
  bare : R (.track 1) (.track 1)
  back {f g : Figure} : R f g → R (.track f.width) (.track g.width)
  sequence {f g : Figure} {fs gs : List Figure} :
    R f g → List.Forall₂ R fs gs → R (.sequence f fs) (.sequence g gs)
  branch {f g : Figure} {as bs cs ds : List Figure} :
    List.Forall₂ R as bs → R f g → List.Forall₂ R cs ds → R (.branch as f cs) (.branch bs g ds)
  loop {f g b c : Figure} : R f g → R b c → R (.loop f b) (.loop g c)

namespace Compatible

variable {R : Figure → Figure → Prop} {f g : Figure} {fs gs : List Figure}

theorem ofItems (compatible : Compatible R) (items : List.Forall₂ R fs gs) :
    R (ofItems fs) (ofItems gs) := by
  cases items with
  | nil => exact compatible.bare
  | cons first rest => exact compatible.sequence first rest

theorem branchAt (compatible : Compatible R) {as bs : List Figure} (above : List.Forall₂ R as bs)
    (main : R f g) (below : List.Forall₂ R fs gs) (default : Nat) :
    R (branchAt as f fs default) (branchAt bs g gs default) := by
  induction below generalizing as bs f g default with
  | nil => exact compatible.branch above main .nil
  | cons next below ih =>
    cases default with
    | zero => exact compatible.branch above main (.cons next below)
    | succ n => exact ih (List.rel_append above (.cons main .nil)) next n

theorem ofPaths (compatible : Compatible R) (default : Nat) (paths : List.Forall₂ R fs gs) :
    R (ofPaths default fs) (ofPaths default gs) := by
  cases paths with
  | nil => exact compatible.bare
  | cons first rest => exact compatible.branchAt .nil first rest default

theorem bypassed (compatible : Compatible R) (main : R f g) : R (bypassed f) (bypassed g) :=
  compatible.branch (.cons compatible.bare .nil) main .nil

theorem looped (compatible : Compatible R) {s t : Option Figure} (body : R f g)
    (separator : Option.Rel R s t) : R (looped f s) (looped g t) := by
  cases separator with
  | none => exact compatible.loop body (compatible.back body)
  | some back => exact compatible.loop body back

theorem repeated (compatible : Compatible R) (least : Least) {s t : Option Figure} (body : R f g)
    (separator : Option.Rel R s t) : R (repeated least f s) (repeated least g t) := by
  have loop := compatible.looped body separator
  cases least with
  | zero => exact compatible.bypassed loop
  | one => exact loop

/-- What holds of the leaves under two styles holds of all figures. -/
theorem ofNode (compatible : Compatible R) {s t : Style}
    (leaf : ∀ n : Diagram.Node, n.leaf?.isSome = true → R (ofNode s n) (ofNode t n))
    (n : Diagram.Node) : R (ofNode s n) (ofNode t n) := by
  have each {ns : List Diagram.Node} (ih : ∀ n ∈ ns, R (Figure.ofNode s n) (Figure.ofNode t n)) :
      List.Forall₂ R (ofNodes s ns) (ofNodes t ns) := by
    rw [ofNodes_eq, ofNodes_eq, List.forall₂_map_left_iff, List.forall₂_map_right_iff,
      List.forall₂_same]
    exact ih
  induction n using Diagram.Node.induct with
  | terminal | reference | comment | missing => exact leaf _ rfl
  | skip => exact compatible.bare
  | sequence items ih => exact compatible.ofItems (each ih)
  | choice paths default ih => exact compatible.ofPaths default (each ih)
  | optional body ih => exact compatible.bypassed ih
  | repetition least body separator ih sep =>
    rw [ofNode_repetition, ofNode_repetition]
    refine compatible.repeated least ih ?_
    cases separator with
    | none => exact .none
    | some s => exact .some (sep s rfl)

end Compatible

def parts (f : Figure) : List Figure := f.children.map Placed.figure

/-- The part that is reached by taking the numbered part of one figure after the other. -/
def part? (f : Figure) : List Nat → Option Figure
  | [] => some f
  | i :: path => f.parts[i]?.bind fun part => part.part? path

/-- Two figures have the same parts by number, and what stands in the same place is related. -/
def Throughout (R : Figure → Figure → Prop) (f g : Figure) : Prop :=
  ∀ path, Option.Rel R (f.part? path) (g.part? path)

theorem parts_sequence (first : Figure) (rest : List Figure) :
    (Figure.sequence first rest).parts = first :: rest := figures_inRow ..

theorem parts_branch (above : List Figure) (main : Figure) (below : List Figure) :
    (Figure.branch above main below).parts = above ++ main :: below := figures_inStack ..

section

variable {R : Figure → Figure → Prop} {f g : Figure}

theorem Throughout.intro (own : R f g) (parts : List.Forall₂ (Throughout R) f.parts g.parts) :
    Throughout R f g := by
  intro path
  cases path with
  | nil => exact .some own
  | cons i path =>
    obtain ⟨count, related⟩ := List.forall₂_iff_get.mp parts
    rw [part?, part?]
    by_cases inside : i < f.parts.length
    · have inside' : i < g.parts.length := count ▸ inside
      rw [List.getElem?_eq_getElem inside, List.getElem?_eq_getElem inside']
      exact related i inside inside' path
    · rw [List.getElem?_eq_none (Nat.not_lt.mp inside),
        List.getElem?_eq_none (count ▸ Nat.not_lt.mp inside)]
      exact .none

theorem Throughout.self (related : Throughout R f g) : R f g := by
  cases related [] with
  | some own => exact own

theorem Compatible.throughout (compatible : Compatible R) : Compatible (Throughout R) where
  bare := .intro compatible.bare .nil
  back related := .intro (compatible.back related.self) .nil
  sequence first rest := by
    refine .intro (compatible.sequence first.self (rest.imp fun _ _ => Throughout.self)) ?_
    rw [parts_sequence, parts_sequence]
    exact .cons first rest
  branch above main below := by
    refine .intro (compatible.branch (above.imp fun _ _ => Throughout.self) main.self
      (below.imp fun _ _ => Throughout.self)) ?_
    rw [parts_branch, parts_branch]
    exact List.rel_append above (.cons main below)
  loop body back :=
    .intro (compatible.loop body.self back.self) (.cons body (.cons back .nil))

end

/-- As wide at most, and reaching as far up and down from the track at most. -/
structure NoLarger (f g : Figure) : Prop where
  width : f.width ≤ g.width
  rise : f.rise ≤ g.rise
  fall : f.fall ≤ g.fall

/-- The same rows for the figure, its track and its parts; the columns may differ. -/
structure SameRows (f g : Figure) : Prop where
  height : f.height = g.height
  rise : f.rise = g.rise
  parts : f.children.map Placed.y = g.children.map Placed.y

theorem NoLarger.refl (f : Figure) : NoLarger f f :=
  ⟨Nat.le_refl _, Nat.le_refl _, Nat.le_refl _⟩

theorem NoLarger.box (shape : Shape) {a b : String} (shorter : a.length ≤ b.length) :
    NoLarger (.box shape a) (.box shape b) :=
  ⟨Nat.add_le_add_right shorter 4, Nat.le_refl 1, Nat.le_refl 2⟩

theorem NoLarger.caption {a b : String} (shorter : a.length ≤ b.length) :
    NoLarger (.caption a) (.caption b) :=
  ⟨Nat.add_le_add_right shorter 2, Nat.le_refl 1, Nat.le_refl 1⟩

/-- A note takes more room than the bare track in its place. -/
theorem NoLarger.bare_caption (text : String) : NoLarger (.track 1) (.caption text) :=
  ⟨Nat.le_add_left 1 (text.length + 1), Nat.zero_le 1, Nat.le_refl 1⟩

theorem NoLarger.height {f g : Figure} (small : NoLarger f g) : f.height ≤ g.height :=
  Nat.add_le_add small.rise small.fall

theorem SameRows.fall {f g : Figure} (same : SameRows f g) : f.fall = g.fall := by
  have height := same.height
  have rise := same.rise
  simp only [Figure.height] at height
  omega

section

variable {fs gs : List Figure}

theorem widths_le (small : List.Forall₂ NoLarger fs gs) :
    widthAfter fs ≤ widthAfter gs ∧ widest fs ≤ widest gs := by
  induction small with
  | nil => exact ⟨Nat.le_refl _, Nat.le_refl _⟩
  | cons first _ ih =>
    have := first.width
    simp only [widthAfter, widest]
    omega

theorem heights_le (small : List.Forall₂ NoLarger fs gs) :
    highest fs ≤ highest gs ∧ deepest fs ≤ deepest gs ∧ stacked fs ≤ stacked gs := by
  induction small with
  | nil => exact ⟨Nat.le_refl _, Nat.le_refl _, Nat.le_refl _⟩
  | cons first _ ih =>
    have := first.rise
    have := first.fall
    simp only [highest, deepest, stacked]
    omega

theorem heights_eq (same : List.Forall₂ SameRows fs gs) :
    highest fs = highest gs ∧ deepest fs = deepest gs ∧ stacked fs = stacked gs := by
  induction same with
  | nil => exact ⟨rfl, rfl, rfl⟩
  | cons first _ ih =>
    have := first.rise
    have := first.fall
    simp only [highest, deepest, stacked]
    omega

theorem rows_inRow (same : List.Forall₂ SameRows fs gs) (track x x' : Nat) :
    (inRow track x fs).map Placed.y = (inRow track x' gs).map Placed.y := by
  induction same generalizing x x' with
  | nil => rfl
  | cons first _ ih => rw [inRow, inRow, List.map_cons, List.map_cons, first.rise, ih]

theorem rows_inStack (same : List.Forall₂ SameRows fs gs) (y : Nat) :
    (inStack y fs).map Placed.y = (inStack y gs).map Placed.y := by
  induction same generalizing y with
  | nil => rfl
  | cons first _ ih => rw [inStack, inStack, List.map_cons, List.map_cons, first.height, ih]

end

theorem compatible_noLarger : Compatible NoLarger where
  bare := .refl _
  back small := by
    refine ⟨?_, Nat.le_refl 0, Nat.le_refl 1⟩
    have := small.width
    simp only [width]
    omega
  sequence first rest := by
    obtain ⟨wide, high, deep⟩ := first
    obtain ⟨wideRest, -⟩ := widths_le rest
    obtain ⟨highRest, deepRest, -⟩ := heights_le rest
    constructor
    case width => simp only [width]; omega
    case rise => simp only [rise]; omega
    case fall => simp only [fall]; omega
  branch above main below := by
    obtain ⟨wide, high, deep⟩ := main
    obtain ⟨-, wideAbove⟩ := widths_le above
    obtain ⟨-, -, stackedAbove⟩ := heights_le above
    obtain ⟨-, wideBelow⟩ := widths_le below
    obtain ⟨-, -, stackedBelow⟩ := heights_le below
    constructor
    case width => simp only [width]; omega
    case rise => simp only [rise]; omega
    case fall => simp only [fall]; omega
  loop body back := by
    obtain ⟨wide, high, deep⟩ := body
    obtain ⟨wideBack, highBack, deepBack⟩ := back
    constructor
    case width => simp only [width]; omega
    case rise => exact high
    case fall => simp only [fall]; omega

theorem compatible_sameRows : Compatible SameRows where
  bare := ⟨rfl, rfl, rfl⟩
  back _ := ⟨rfl, rfl, rfl⟩
  sequence first rest := by
    obtain ⟨highRest, deepRest, -⟩ := heights_eq rest
    constructor
    case height => simp only [height, rise, fall, first.rise, first.fall, highRest, deepRest]
    case rise => simp only [rise, first.rise, highRest]
    case parts =>
      simp only [children, rise, first.rise, highRest]
      exact rows_inRow (.cons first rest) _ 0 0
  branch above main below := by
    obtain ⟨-, -, stackedAbove⟩ := heights_eq above
    obtain ⟨-, -, stackedBelow⟩ := heights_eq below
    constructor
    case height => simp only [height, rise, fall, main.rise, main.fall, stackedAbove, stackedBelow]
    case rise => simp only [rise, main.rise, stackedAbove]
    case parts => exact rows_inStack (List.rel_append above (.cons main below)) 0
  loop body back := by
    constructor
    case height => simp only [height, rise, fall, body.rise, body.fall, back.rise, back.fall]
    case rise => exact body.rise
    case parts => simp only [children, List.map_cons, List.map_nil, body.height]

end Figure

namespace Style

/-- The first style shows no more of a label or note than the second. No limit is the largest. -/
structure ShowsNoMore (s t : Style) : Prop where
  limit : ∀ n ∈ t.limit, ∃ m ∈ s.limit, m ≤ n
  comments : s.comments = true → t.comments = true
  quotes : s.quotes = true → t.quotes = true

theorem length_label (style : Style) (text : String) : (style.label text).length =
    style.limit.elim text.length fun limit => min (max limit 1) text.length := by
  rw [label]
  cases style.limit with
  | none => rfl
  | some limit => exact Text.length_clip _ text

variable {s t : Style}

theorem length_label_le (less : s.ShowsNoMore t) {a b : String} (shorter : a.length ≤ b.length) :
    (s.label a).length ≤ (t.label b).length := by
  rw [length_label, length_label]
  cases large : t.limit with
  | none =>
    cases s.limit with
    | none => exact shorter
    | some m => exact Nat.le_trans (Nat.min_le_right _ _) shorter
  | some n =>
    obtain ⟨m, small, le⟩ := less.limit n large
    rw [small, Option.elim_some, Option.elim_some]
    omega

theorem length_le_written (terminal : Terminal) : terminal.text.length ≤ terminal.written.length := by
  rw [Terminal.written]
  split
  · exact Nat.le_refl _
  all_goals
    rw [String.length_append, String.length_append]
    omega

theorem length_terminalLabel_le (less : s.ShowsNoMore t) (terminal : Terminal) :
    (s.terminalLabel terminal).length ≤ (t.terminalLabel terminal).length := by
  refine length_label_le less ?_
  by_cases quoted : s.quotes = true
  · exact Nat.le_of_eq (by rw [if_pos quoted, if_pos (less.quotes quoted)])
  · rw [if_neg quoted]
    split
    · exact length_le_written terminal
    · exact Nat.le_refl _

end Style

namespace Figure

variable {s t : Style}

theorem parts_leaf {n : Diagram.Node} (leaf : n.leaf?.isSome = true) : (ofNode s n).parts = [] := by
  cases n with
  | terminal | reference | missing => rfl
  | comment text =>
    rw [ofNode]
    split <;> rfl
  | skip | sequence | choice | optional | repetition => cases leaf

/-- What passes from parts to wholes and holds of all leaves holds throughout. -/
theorem Compatible.throughout_ofNode {R : Figure → Figure → Prop} (compatible : Compatible R)
    (leaf : ∀ n : Diagram.Node, n.leaf?.isSome = true → R (Figure.ofNode s n) (Figure.ofNode t n))
    (n : Diagram.Node) : Throughout R (Figure.ofNode s n) (Figure.ofNode t n) := by
  refine compatible.throughout.ofNode (fun n isLeaf => .intro (leaf n isLeaf) ?_) n
  rw [parts_leaf isLeaf, parts_leaf isLeaf]
  exact .nil

theorem noLarger_leaf (less : s.ShowsNoMore t) {n : Diagram.Node} (leaf : n.leaf?.isSome = true) :
    NoLarger (ofNode s n) (ofNode t n) := by
  cases n with
  | terminal terminal => exact .box _ (Style.length_terminalLabel_le less terminal)
  | reference name => exact .box _ (Style.length_label_le less (Nat.le_refl _))
  | missing name => exact .caption (Style.length_label_le less (Nat.le_refl _))
  | comment text =>
    rw [ofNode, ofNode]
    by_cases noted : s.comments = true
    · rw [if_pos noted, if_pos (less.comments noted)]
      exact .caption (Style.length_label_le less (Nat.le_refl _))
    · rw [if_neg noted]
      split
      · exact .bare_caption _
      · exact .refl _
  | skip | sequence | choice | optional | repetition => cases leaf

/-- A box or caption takes the same rows whatever it says. -/
theorem sameRows_leaf (same : s.comments = t.comments) {n : Diagram.Node}
    (leaf : n.leaf?.isSome = true) : SameRows (ofNode s n) (ofNode t n) := by
  cases n with
  | terminal | reference | missing => exact ⟨rfl, rfl, rfl⟩
  | comment text =>
    rw [ofNode, ofNode, same]
    cases t.comments <;> exact ⟨rfl, rfl, rfl⟩
  | skip | sequence | choice | optional | repetition => cases leaf

end Figure

namespace Plan

/-- A style that shows more makes no plan smaller, nor any figure in it, and how labels are shown
bears on columns only: with the same notes shown, all rows of all figures stay. -/
theorem sizes_monotone (d : Diagram) (s t : Style) :
    (s.ShowsNoMore t →
      (ofDiagram s d).width ≤ (ofDiagram t d).width ∧
      (ofDiagram s d).height ≤ (ofDiagram t d).height ∧
      (ofDiagram s d).trackRow ≤ (ofDiagram t d).trackRow ∧
      (ofDiagram s d).figure.Throughout Figure.NoLarger (ofDiagram t d).figure) ∧
    (s.comments = t.comments →
      (ofDiagram s d).figure.Throughout Figure.SameRows (ofDiagram t d).figure) := by
  constructor
  · intro less
    have small := Figure.compatible_noLarger.throughout_ofNode
      (fun _ leaf => Figure.noLarger_leaf less leaf) d.root
    exact ⟨Nat.add_le_add_right small.self.width 4, small.self.height, small.self.rise, small⟩
  · intro same
    exact Figure.compatible_sameRows.throughout_ofNode
      (fun _ leaf => Figure.sameRows_leaf same leaf) d.root

end Plan

/-- Keys set apart by commas, or none, after a note. -/
def Diagram.notedKeys : Diagram where
  rule := none
  root := .sequence [.comment "&')'",
    .repetition .zero (.reference "key") (some (.terminal ⟨",", .literal⟩))]

/-- Two characters of each label, no quotes and no notes. -/
def Style.terse : Style := { limit := some 2, comments := false, quotes := false }

theorem Plan.sizes_monotone_notedKeys :
    (Style.terse.ShowsNoMore {} ∧
      (ofDiagram .terse .notedKeys).width ≤ (ofDiagram {} .notedKeys).width ∧
      (ofDiagram .terse .notedKeys).height ≤ (ofDiagram {} .notedKeys).height ∧
      (ofDiagram .terse .notedKeys).trackRow ≤ (ofDiagram {} .notedKeys).trackRow ∧
      (ofDiagram .terse .notedKeys).figure.Throughout Figure.NoLarger
        (ofDiagram {} .notedKeys).figure) ∧
    (Style.comments { limit := some 1 } = Style.comments {} ∧
      (ofDiagram { limit := some 1 } .notedKeys).figure.Throughout Figure.SameRows
        (ofDiagram {} .notedKeys).figure) := by
  have less : Style.terse.ShowsNoMore {} := ⟨nofun, nofun, nofun⟩
  exact ⟨⟨less, (sizes_monotone .notedKeys .terse {}).1 less⟩,
    rfl, (sizes_monotone .notedKeys { limit := some 1 } {}).2 rfl⟩

end Trackplan
