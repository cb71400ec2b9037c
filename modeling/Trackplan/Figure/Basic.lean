import Trackplan.Expr.Basic

/-! Figures: laid-out diagrams on a character grid. Every figure is a rectangle that one row, its
track, crosses from the first column to the last. Its size follows from its shape, so no figure
can disagree with its own measurements. -/
namespace Trackplan

inductive Figure.Shape
  | terminal (kind : Terminal.Kind)
  | reference
  deriving DecidableEq, Repr

/-- A sequence has a first item, and a branch is split at the path that carries the track, so
neither can be empty. -/
inductive Figure
  | box (shape : Figure.Shape) (label : String)
  | caption (text : String)
  | track (length : Nat)
  | sequence (first : Figure) (rest : List Figure)
  | branch (above : List Figure) (main : Figure) (below : List Figure)
  | loop (body back : Figure)

namespace Figure

/-- Columns of track between two items of a sequence. -/
def gap : Nat := 2

/-- Columns beside the paths of a branch or loop: the entry, the rail and a connector. -/
def inset : Nat := 3

mutual

def width : Figure → Nat
  | .box _ label => label.length + 4
  | .caption text => text.length + 2
  | .track length => max length 1
  | .sequence first rest => width first + widthAfter rest
  | .branch above main below =>
    max (widest above) (max (width main) (widest below)) + 2 * inset
  | .loop body back => max (width body) (width back) + 2 * inset

/-- Columns of the items after the first one, each with the gap before it. -/
def widthAfter : List Figure → Nat
  | [] => 0
  | f :: rest => gap + width f + widthAfter rest

def widest : List Figure → Nat
  | [] => 0
  | f :: rest => max (width f) (widest rest)

end

mutual

/-- Rows above the track. -/
def rise : Figure → Nat
  | .box .. => 1
  | .caption _ => 1
  | .track _ => 0
  | .sequence first rest => max (rise first) (highest rest)
  | .branch above main _ => stacked above + rise main
  | .loop body _ => rise body

/-- Rows from the track downwards, the track's own among them. -/
def fall : Figure → Nat
  | .box .. => 2
  | .caption _ => 1
  | .track _ => 1
  | .sequence first rest => max (fall first) (deepest rest)
  | .branch _ main below => fall main + stacked below
  | .loop body back => fall body + (rise back + fall back)

def highest : List Figure → Nat
  | [] => 0
  | f :: rest => max (rise f) (highest rest)

def deepest : List Figure → Nat
  | [] => 0
  | f :: rest => max (fall f) (deepest rest)

/-- Rows of figures one below the other. -/
def stacked : List Figure → Nat
  | [] => 0
  | f :: rest => rise f + fall f + stacked rest

end

def height (f : Figure) : Nat := f.rise + f.fall

/-- The last column, where the track leaves. -/
def exitCol (f : Figure) : Nat := f.width - 1

@[elab_as_elim]
theorem induct {P : Figure → Prop}
    (box : ∀ shape label, P (.box shape label)) (caption : ∀ text, P (.caption text))
    (track : ∀ length, P (.track length))
    (sequence : ∀ first rest, P first → (∀ f ∈ rest, P f) → P (.sequence first rest))
    (branch : ∀ above main below, (∀ f ∈ above, P f) → P main → (∀ f ∈ below, P f) →
      P (.branch above main below))
    (loop : ∀ body back, P body → P back → P (.loop body back)) (f : Figure) : P f :=
  @Figure.rec P (fun fs => ∀ f ∈ fs, P f) box caption track sequence branch loop
    (by simp) (fun _ _ first rest => by simpa using ⟨first, rest⟩) f

theorem stacked_cons (f : Figure) (rest : List Figure) :
    stacked (f :: rest) = f.height + stacked rest := by
  simp [stacked, height]

theorem stacked_append (fs gs : List Figure) : stacked (fs ++ gs) = stacked fs + stacked gs := by
  induction fs with
  | nil => simp [stacked]
  | cons f rest ih => simp [stacked, ih]; omega

theorem width_pos (f : Figure) : 0 < f.width := by
  induction f using induct with
  | box => simp [width]
  | caption => simp [width]
  | track => simp only [width]; omega
  | sequence first rest ih => simp only [width]; omega
  | branch => simp only [width, inset]; omega
  | loop => simp only [width, inset]; omega

theorem fall_pos (f : Figure) : 0 < f.fall := by
  induction f using induct with
  | box => simp [fall]
  | caption => simp [fall]
  | track => simp [fall]
  | sequence first rest ih => simp only [fall]; omega
  | branch above main below _ ih => simp only [fall]; omega
  | loop body back ih => simp only [fall]; omega

theorem width_le_widest {f : Figure} {fs : List Figure} (mem : f ∈ fs) : f.width ≤ widest fs := by
  induction fs with
  | nil => cases mem
  | cons g rest ih =>
    simp only [widest]
    rcases List.mem_cons.1 mem with rfl | mem
    · omega
    · have := ih mem; omega

theorem rise_le_highest {f : Figure} {fs : List Figure} (mem : f ∈ fs) : f.rise ≤ highest fs := by
  induction fs with
  | nil => cases mem
  | cons g rest ih =>
    simp only [highest]
    rcases List.mem_cons.1 mem with rfl | mem
    · omega
    · have := ih mem; omega

theorem fall_le_deepest {f : Figure} {fs : List Figure} (mem : f ∈ fs) : f.fall ≤ deepest fs := by
  induction fs with
  | nil => cases mem
  | cons g rest ih =>
    simp only [deepest]
    rcases List.mem_cons.1 mem with rfl | mem
    · omega
    · have := ih mem; omega

end Figure

end Trackplan
