import Trackplan.Proofs.Continuity

/-! What a cell shows. Without lines it is the character written last; a cell with lines shows one
of the line characters, and which one is settled by the links to its neighbours. -/
namespace Trackplan

namespace Edges

variable {e : Edges}

theorem ext_reach {a b : Edges} (same : ∀ side, a.reach side = b.reach side) : a = b := by
  obtain ⟨_, _, _, _⟩ := a
  obtain ⟨_, _, _, _⟩ := b
  simp only [Edges.mk.injEq]
  exact ⟨same .left, same .right, same .up, same .down⟩

theorem glyph_of_level (up : e.up = false) (down : e.down = false) (line : e ≠ .none) :
    e.glyph = '─' := by
  obtain ⟨left, right, up', down'⟩ := e
  subst up down
  revert left right
  decide

/-- Lines show as line characters. -/
theorem ofChar?_glyph (line : e ≠ .none) : ofChar? e.glyph ≠ Option.none := by
  obtain ⟨left, right, up, down⟩ := e
  revert left right up down
  decide

end Edges

namespace Grid

variable {g : Grid} {x y : Nat} {e : Edges}

theorem get_of_has (has : g.area.Has x y) : g.get x y = .ok (g.glyph x y) := by
  rw [get, fault?_of_has has]

theorem glyph_of_text {c : Char} (text : g.cell x y = ⟨c, .none⟩) : g.glyph x y = c := by
  simp only [glyph, text, if_true]

theorem glyph_of_line (line : g.edges x y ≠ .none) :
    g.glyph x y = if g.answered x y = .none then (g.edges x y).glyph
      else (g.answered x y).glyph := by
  simp only [glyph, edges] at *
  rw [if_neg line]

/-- Where the neighbours answer some of the sides, those are shown. -/
theorem glyph_of_answered (answered : g.answered x y = e) (line : e ≠ .none) :
    g.glyph x y = e.glyph := by
  have own : g.edges x y ≠ .none := by
    intro blank
    refine line (answered.symm.trans ?_)
    simp [Grid.answered, blank, Edges.none]
  rw [glyph_of_line own, answered, if_neg line]

/-- A level line shows as such, whatever the neighbours answer. -/
theorem glyph_of_level (up : (g.edges x y).up = false) (down : (g.edges x y).down = false)
    (line : g.edges x y ≠ .none) : g.glyph x y = '─' := by
  rw [glyph_of_line line]
  split
  · exact Edges.glyph_of_level up down line
  · refine Edges.glyph_of_level ?_ ?_ ‹_›
    · simp [answered, up]
    · simp [answered, down]

theorem ofChar?_glyph (line : g.edges x y ≠ .none) : Edges.ofChar? (g.glyph x y) ≠ none := by
  rw [glyph_of_line line]
  split
  · exact Edges.ofChar?_glyph line
  · exact Edges.ofChar?_glyph ‹_›

end Grid

namespace Plan

variable {plan : Plan} {g : Grid} {x y : Nat} {c : Char}

/-- Something is drawn in the cell, and nothing but the one character. -/
structure DrawsOnly (plan : Plan) (x y : Nat) (c : Char) : Prop where
  drawn : ∃ m ∈ plan.marks, m.At x y
  only : ∀ m ∈ plan.marks, m.At x y → m.c = c

theorem ShownBy.get (shown : plan.ShownBy g) (has : plan.area.Has x y) :
    g.get x y = .ok (g.glyph x y) := Grid.get_of_has (shown.area ▸ has)

theorem ShownBy.cell_of_untouched (shown : plan.ShownBy g)
    (untouched : ∀ m ∈ plan.marks, ¬ m.At x y) : g.cell x y = ⟨' ', .none⟩ := by
  rw [shown.cell, Cell.after_of_untouched untouched]

theorem ShownBy.cell_of_text (shown : plan.ShownBy g) (text : Edges.ofChar? c = none)
    (draws : plan.DrawsOnly x y c) : g.cell x y = ⟨c, .none⟩ := by
  rw [shown.cell, Cell.after_of_text text draws.only (.inr draws.drawn)]

theorem ShownBy.edges_of_line {e : Edges} (shown : plan.ShownBy g)
    (line : Edges.ofChar? c = some e) (draws : plan.DrawsOnly x y c) : g.edges x y = e := by
  obtain ⟨m, marked, here⟩ := draws.drawn
  refine Edges.ext_reach fun side => Bool.eq_iff_iff.mpr ⟨fun reach => ?_, fun reach => ?_⟩
  · obtain ⟨n, marked, there, e', drawn, reach⟩ := shown.mark_of_reach side reach
    rw [draws.only n marked there] at drawn
    cases line.symm.trans drawn
    exact reach
  · rw [Grid.edges, shown.cell]
    refine Cell.reach_of_mark (fun n marked there text => ?_) marked here
      ⟨e, draws.only m marked here ▸ line, reach⟩
    rw [Mark.IsText, draws.only n marked there, line] at text
    cases text

theorem ShownBy.get_of_text (shown : plan.ShownBy g) (has : plan.area.Has x y)
    (text : g.cell x y = ⟨c, .none⟩) : g.get x y = .ok c := by
  rw [shown.get has, Grid.glyph_of_text text]

theorem ShownBy.get_of_answered {e : Edges} (shown : plan.ShownBy g) (has : plan.area.Has x y)
    (answered : g.answered x y = e) (line : e ≠ .none) : g.get x y = .ok e.glyph := by
  rw [shown.get has, Grid.glyph_of_answered answered line]

theorem ShownBy.get_of_level (shown : plan.ShownBy g) (has : plan.area.Has x y)
    (draws : plan.DrawsOnly x y '─') : g.get x y = .ok '─' := by
  have level := shown.edges_of_line rfl draws
  rw [shown.get has,
    Grid.glyph_of_level (by rw [level]; rfl) (by rw [level]; rfl) (by rw [level]; decide)]

end Plan

end Trackplan
