import Mathlib.Data.List.Nodup
import Trackplan.Proofs.Pages
import Trackplan.Proofs.References

/-! The page of the contents is put together from the pages of the sections. No two sections have the
same identifier, so asking for one of them finds that one alone, and what is kept of it does not
hang on the others. -/
namespace Trackplan.CommandLine

open Written

namespace Options

/-- The same options for one section only. -/
def onlySection (o : Options) (id : Name) : Options := { o with sectionId := some id.text }

variable {π ε : Type} {t : Tools π ε} {engine : Search.Engine π ε} {o : Options} {g : Grammar}
  {c : Contents} {s : Section}

theorem chosen_of_all (every : o.sectionId = none) :
    o.chosen engine c = c.sections.map (o.narrowed engine) := by
  have wanted : c.sections.filter o.wants = c.sections :=
    List.filter_eq_self.2 fun s _ => by simp [wants, every]
  rw [chosen, wanted]

/-- An identifier leads to its section and to no other. -/
theorem chosen_onlySection (mem : s ∈ c.sections) :
    (o.onlySection s.id).chosen engine c = [o.narrowed engine s] := by
  have single : c.sections.filter (o.onlySection s.id).wants = c.sections.filter (· = s) := by
    apply List.filter_congr
    intro other there
    rw [Bool.eq_iff_iff, decide_eq_true_iff, wants, onlySection, beq_iff_eq]
    constructor
    · intro same
      exact List.inj_on_of_nodup_map c.distinct there mem (Name.ext same)
    · rintro rfl; rfl
  rw [chosen, single, filter_eq_of_nodup (List.Nodup.of_map _ c.distinct), if_pos mem]
  rfl

/-- What is not refused for all sections is not refused for one of them. -/
theorem not_refused_onlySection (every : o.sectionId = none)
    (chosen : ∀ fault, ¬o.Refused engine c fault) (mem : s ∈ c.sections) :
    ∀ fault, ¬(o.onlySection s.id).Refused engine c fault := by
  intro fault refused
  cases refused with
  | unknownSection asked unknown =>
    cases asked
    exact unknown s mem rfl
  | badExpression misread searched wanted =>
    refine chosen _ (.badExpression misread searched ?_)
    intro id asked
    rw [every] at asked
    cases asked

/-- A section on its own is written as among the others. -/
theorem page_onlySection (all : o.rule = none) (text : o.json = false) (every : o.sectionId = none)
    (chosen : ∀ fault, ¬o.Refused t.engine c fault) (mem : s ∈ c.sections) :
    (o.onlySection s.id).page t g c =
      (unless o.hides (o.narrowed t.engine s) do o.formPage g (o.narrowed t.engine s)) := by
  have single := not_refused_onlySection every chosen mem
  rw [page_of_chosen (o := o.onlySection s.id) all single, chosen_onlySection mem,
    shownPage_of_text (o := o.onlySection s.id) text, forM_singleton]
  rfl

/-- The whole page goes through the pages of the sections. -/
theorem page_eq_forM (all : o.rule = none) (text : o.json = false) (every : o.sectionId = none)
    (chosen : ∀ fault, ¬o.Refused t.engine c fault) :
    o.page t g c = c.sections.forM fun s => (o.onlySection s.id).page t g c := by
  rw [page_of_chosen all chosen, shownPage_of_text text, chosen_of_all every]
  refine List.forM_map.trans (forM_congr ?_)
  intro s mem
  exact (page_onlySection all text every chosen mem).symm

theorem output_answer (unchecked : o.check = false) (ok : (o.page t g c).result = .ok ()) :
    (o.answer t g c).output = (o.page t g c).output := by
  rw [answer, if_neg (by simp [unchecked]), bind_of_ok ok]
  exact String.append_empty

/-- A section is left out for a query that asks for none of its rules. -/
theorem hides_narrowed : o.hides (o.narrowed engine s) = true ↔
    o.filter ≠ none ∧ ∀ name ∈ s.rules, o.asksFor engine name = false := by
  rw [hides, Bool.and_eq_true, Option.isSome_iff_ne_none, List.isEmpty_iff, narrowed,
    List.filter_eq_nil_iff]
  simp only [Bool.not_eq_true]

/-- Whatever else is written of a section, its heading is. -/
theorem output_formPage_ne_empty (o : Options) (g : Grammar) (s : Section) :
    (o.formPage g s : Page ε Unit).output ≠ "" := by
  intro nothing
  by_cases list : o.list = true
  · rw [formPage, if_pos list, sectionList, bind_of_ok rfl] at nothing
    simp [write, line] at nothing
  · rw [formPage, if_neg list, sectionPage, bind_of_ok rfl] at nothing
    simp [write, line] at nothing

end Options

/-- The text for all sections is the texts for the single sections, one after the other in the order
of the contents. Each of them can be written, and what is not asked for in a section leaves no trace
of it. This holds for all tools. -/
theorem page_of_sections {π ε : Type} (t : Tools π ε) (o : Options) (g : Grammar) (c : Contents)
    (every : o.sectionId = none) (all : o.rule = none) (unchecked : o.check = false)
    (text : o.json = false) {code : Nat} (ok : (o.answer t g c).result = .ok code) :
    (∀ id ∈ c.ids, ((o.onlySection id).answer t g c).result = .ok 0) ∧
      (o.answer t g c).output =
        String.join (c.ids.map fun id => ((o.onlySection id).answer t g c).output) ∧
      ∀ s ∈ c.sections, ((o.onlySection s.id).answer t g c).output = "" ↔
        o.filter ≠ none ∧ ∀ name ∈ s.rules, o.asksFor t.engine name = false := by
  have chosen := Options.not_refused_of_answer all unchecked ok
  have succeeds := ((Options.result_answer unchecked).1 ok).1
  have whole := Options.page_eq_forM (g := g) all text every chosen
  have each : ∀ s ∈ c.sections, ((o.onlySection s.id).page t g c).result = .ok () := by
    rw [whole, result_forM] at succeeds
    exact succeeds
  have output : ∀ s ∈ c.sections,
      ((o.onlySection s.id).answer t g c).output = ((o.onlySection s.id).page t g c).output :=
    fun s mem => Options.output_answer (o := o.onlySection s.id) unchecked (each s mem)
  refine ⟨?_, ?_, ?_⟩
  · intro id mem
    obtain ⟨s, listed, rfl⟩ := List.mem_map.1 mem
    exact (Options.result_answer (o := o.onlySection s.id) unchecked).2 ⟨each s listed, rfl⟩
  · rw [Options.output_answer unchecked succeeds, whole, output_forM each, Contents.ids,
      List.map_map]
    congr 1
    apply List.map_congr_left
    intro s mem
    exact (output s mem).symm
  · intro s mem
    rw [output s mem, Options.page_onlySection all text every chosen mem,
      ← Options.hides_narrowed]
    by_cases hidden : o.hides (o.narrowed t.engine s) = true
    · rw [if_pos hidden]
      exact iff_of_true rfl hidden
    · rw [if_neg hidden]
      exact iff_of_false (Options.output_formPage_ne_empty o g _) hidden

theorem page_of_sections_items :
    (itemQuery.answer tools itemGrammar itemContents).result = .ok 0 ∧
      (∀ id ∈ [Grammar.listName, Grammar.itemName],
        ((itemQuery.onlySection id).answer tools itemGrammar itemContents).result = .ok 0) ∧
      (itemQuery.answer tools itemGrammar itemContents).output =
        String.join ([Grammar.listName, Grammar.itemName].map fun id =>
          ((itemQuery.onlySection id).answer tools itemGrammar itemContents).output) ∧
      ((itemQuery.onlySection Grammar.listName).answer tools itemGrammar itemContents).output =
        "" := by
  have ok : (itemQuery.answer tools itemGrammar itemContents).result = .ok 0 := by rfl
  obtain ⟨each, whole, hidden⟩ := page_of_sections tools itemQuery _ itemContents rfl rfl rfl rfl ok
  refine ⟨ok, each, whole, (hidden _ (List.mem_cons_self ..)).2 ⟨Option.some_ne_none _, ?_⟩⟩
  rw [List.forall_mem_singleton]
  rfl

end Trackplan.CommandLine
