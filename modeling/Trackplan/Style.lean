import Trackplan.Expr.Basic
import Trackplan.Text.Clip

/-! How labels are shown. -/
namespace Trackplan

structure Style where
  /-- The longest label shown in full; a limit of zero counts as one. -/
  limit : Option Nat := none
  comments : Bool := true
  quotes : Bool := true
  deriving DecidableEq, Repr

namespace Style

def label (style : Style) (text : String) : String :=
  match style.limit with
  | none => text
  | some limit => Text.clip (max limit 1) text

def terminalLabel (style : Style) (t : Terminal) : String :=
  style.label (if style.quotes then t.written else t.text)

theorem mem_label {style : Style} {text : String} {c : Char}
    (mem : c ∈ (style.label text).toList) : c ∈ text.toList ∨ c = '…' := by
  cases limit : style.limit with
  | none => exact .inl (by simpa [label, limit] using mem)
  | some n => exact Text.mem_clipped (by simpa [label, limit] using mem)

/-- A label ends as its text does or in an ellipsis. -/
theorem getLast?_label (style : Style) (text : String) :
    (style.label text).toList.getLast? = text.toList.getLast? ∨
      (style.label text).toList.getLast? = some '…' := by
  cases limit : style.limit with
  | none => exact .inl (by simp [label, limit])
  | some n => simpa [label, limit] using Text.getLast?_clipped text.toList (Nat.le_max_right n 1)

end Style

end Trackplan
