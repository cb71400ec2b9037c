import Trackplan.Text.Lowercase
import Trackplan.Text.Occurrence
import Trackplan.Text.Trim

/-! Choosing names by a part of their text. The names stay in order. -/
namespace Trackplan.Search

variable {α : Type}

/-- Names that contain the text as it stands, or with case ignored. Ignoring case compares the
whole texts in lower case. -/
def byText (text : α → String) (ignoreCase : Bool) (needle : String) (names : List α) : List α :=
  let form := fun s : String => if ignoreCase then Text.lowered s.toList else s.toList
  names.filter fun name => Text.occursIn (form needle) (form (text name))

/-- Names that contain the query with case and surrounding blanks ignored. A blank query keeps
them all. -/
def byQuery (text : α → String) (query : String) (names : List α) : List α :=
  let needle := Text.lowered (Text.trimmed query.toList)
  if needle = [] then names
  else names.filter fun name => Text.occursIn needle (Text.lowered (text name).toList)

/-- A query is looked for without the blanks around it, and a blank one is found in every name. -/
theorem byQuery_eq_byText (text : α → String) (query : String) (names : List α) :
    byQuery text query names = byText text true (Text.trim query) names := by
  simp only [byText, if_true, Text.toList_trim]
  unfold byQuery
  dsimp only
  split
  · rename_i blank
    rw [blank]
    refine (List.filter_eq_self.2 fun name _ => ?_).symm
    exact (Text.occursIn_iff _ _).2 ⟨[], _, rfl⟩
  · rfl

theorem byText_sublist (text : α → String) (ignoreCase : Bool) (needle : String)
    (names : List α) : List.Sublist (byText text ignoreCase needle names) names :=
  List.filter_sublist

theorem byQuery_sublist (text : α → String) (query : String) (names : List α) :
    List.Sublist (byQuery text query names) names :=
  byQuery_eq_byText text query names ▸ byText_sublist ..

end Trackplan.Search
