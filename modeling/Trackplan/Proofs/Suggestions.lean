import Trackplan.CommandLine.Answer
import Trackplan.Proofs.Ranking

/-! What is offered for a rule that does not exist. A rule whose name differs from the one asked for
in case alone is never offered: to the ranking it is the name that was asked for, whatever the
measure of likeness. -/
namespace Trackplan

namespace Name

open Unicode

theorem bounds_of_allows {c : Char} (allowed : allows c = true) :
    48 ≤ c.toNat ∧ c.toNat ≤ 122 := by
  change (((c.isUpper || c.isLower) || c.isDigit) || decide (c = '_')) = true at allowed
  simp only [Bool.or_eq_true, decide_eq_true_eq] at allowed
  rcases allowed with ((upper | lower) | digit) | rfl
  · have bounds : 'A'.val ≤ c.val ∧ c.val ≤ 'Z'.val := of_decide_eq_true upper
    have low : 65 ≤ c.toNat := UInt32.le_iff_toNat_le.1 bounds.1
    have high : c.toNat ≤ 90 := UInt32.le_iff_toNat_le.1 bounds.2
    omega
  · obtain ⟨above, below⟩ := Bool.and_eq_true_iff.1 lower
    have low : 97 ≤ c.toNat := UInt32.le_iff_toNat_le.1 (of_decide_eq_true above)
    have high : c.toNat ≤ 122 := UInt32.le_iff_toNat_le.1 (of_decide_eq_true below)
    omega
  · have bounds : 48 ≤ c.toNat ∧ c.toNat ≤ 57 := Char.isDigit_iff_toNat.1 digit
    omega
  · decide

theorem not_isWhiteSpace_of_allows {c : Char} (allowed : allows c = true) :
    isWhiteSpace c = false := by
  apply Bool.eq_false_iff.2
  intro blank
  obtain ⟨low, high⟩ := bounds_of_allows allowed
  obtain ⟨r, mem, first, last⟩ := exists_range_of_covers blank
  have apart : ∀ r ∈ whiteSpace, r.last < 48 ∨ 122 < r.first := by decide
  have beside := apart r mem
  omega

/-- Names have no blanks around them. -/
theorem trimmed_text (n : Name) : Text.trimmed n.text.toList = n.text.toList := by
  apply Text.trimmed_eq_self
  intro c mem
  exact not_isWhiteSpace_of_allows ((fault?_eq_none.1 n.valid).2 c mem)

theorem form_text (n : Name) : Likeness.form n.text = Text.lowered n.text.toList := by
  rw [Likeness.form, trimmed_text]

end Name

namespace CommandLine

open Likeness (form)

/-- The first name offered is the one asked for but for case and the blanks around it. -/
def OffersVariant (likeness : List Char → List Char → Int) (g : Grammar) (name : String) : Prop :=
  ∃ first rest, suggestions likeness g name = first :: rest ∧ form first.text = form name

variable {likeness : List Char → List Char → Int} {g : Grammar} {name : String}

theorem of_mem_suggestions {rule : Name} (mem : rule ∈ suggestions likeness g name) :
    rule ∈ g.names ∧ form rule.text ≠ form name := by
  rw [Name.form_text]
  exact Likeness.of_mem_suggestBy mem

theorem not_offersVariant : ¬ OffersVariant likeness g name := by
  rintro ⟨first, rest, offered, same⟩
  have mem : first ∈ suggestions likeness g name := offered ▸ List.mem_cons_self
  exact (of_mem_suggestions mem).2 same

theorem suggestions_eq : suggestions likeness g name =
    Likeness.suggestBy likeness Name.text (g.names.filter fun rule => form rule.text ≠ form name)
      name suggestionLimit := by
  simp only [Name.form_text]
  exact (Likeness.suggestBy_filter g.names name suggestionLimit).symm

/-- Whatever is asked for, a rule that is the same but for case is never offered: "if there is one,
it comes first" holds only where there is none, and the suggestions are those that the other rules
alone give. -/
theorem variant_offered_iff (likeness : List Char → List Char → Int) (g : Grammar) (name : String) :
    (((∃ rule ∈ g.names, form rule.text = form name) → OffersVariant likeness g name) ↔
      ∀ rule ∈ g.names, form rule.text ≠ form name) ∧
    suggestions likeness g name =
      Likeness.suggestBy likeness Name.text
        (g.names.filter fun rule => form rule.text ≠ form name) name suggestionLimit := by
  refine ⟨⟨?_, ?_⟩, suggestions_eq⟩
  · intro offered rule mem same
    exact not_offersVariant (offered ⟨rule, mem, same⟩)
  · rintro none ⟨rule, mem, same⟩
    exact absurd same (none rule mem)

def forName : Name := ⟨"for_stmt", by decide⟩

/-- Asked for in capitals, the only rule is not offered. -/
theorem capitals_not_offered : ∃ g name, g.has name = false ∧
    (∃ rule ∈ g.names, form rule.text = form name) ∧
    ∀ likeness, ¬ OffersVariant likeness g name ∧ suggestions likeness g name = [] := by
  refine ⟨Grammar.empty.defineAll [(forName, .keyword "for")], "FOR_STMT", by decide,
    ⟨forName, by decide, by decide⟩, fun likeness => ⟨not_offersVariant, ?_⟩⟩
  apply List.eq_nil_iff_forall_not_mem.2
  intro rule mem
  obtain ⟨here, differs⟩ := of_mem_suggestions mem
  have only : rule = forName := List.mem_singleton.1 here
  subst only
  exact differs (by decide)

end CommandLine

end Trackplan
