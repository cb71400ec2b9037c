import Trackplan.Proofs.Closure
import Trackplan.Proofs.Pages

/-! What can go wrong in a run. As long as the drawings fit, only the choice of the sections fails,
and it is made before anything is written. Which expressions make no sense is left to the engine. -/
namespace Trackplan.CommandLine

open Written

namespace Options

variable {π ε : Type} {t : Tools π ε} {engine : Search.Engine π ε} {o : Options} {g : Grammar}
  {c : Contents} {s : Section} {name : String}

/-- The names whose rules are drawn. -/
def drawn (o : Options) (engine : Search.Engine π ε) (c : Contents) : List String :=
  if o.check || o.json || o.peg then []
  else
    match o.rule with
    | some name => [name]
    | none => if o.list then [] else (o.shown engine c).flatMap fun s => s.rules.map Name.text

theorem drawn_of_rule (unchecked : o.check = false) (single : o.rule = some name)
    (payload : o.json = false) (peg : o.peg = false) : o.drawn engine c = [name] := by
  simp [drawn, unchecked, single, payload, peg]

theorem drawn_of_all (unchecked : o.check = false) (all : o.rule = none) (list : o.list = false)
    (payload : o.json = false) (peg : o.peg = false) :
    o.drawn engine c = (o.shown engine c).flatMap fun s => s.rules.map Name.text := by
  simp [drawn, unchecked, all, list, payload, peg]

/-- PEG text cannot fail, and a drawing that fits does not. -/
theorem result_rulePage_of_fits (fits : o.peg = false → (g.diagram name).Fits o.style) :
    (o.rulePage g name : Page ε Unit).result = .ok () := by
  by_cases peg : o.peg = true
  · rw [rulePage_of_peg peg]
    rfl
  · have drawing : o.peg = false := by simpa using peg
    exact (result_rulePage drawing name).2 (fits drawing)

theorem result_singlePage
    (fits : o.json = false → o.peg = false → (g.diagram name).Fits o.style) :
    (o.singlePage t g name).result = .ok () := by
  refine result_bind_eq_ok.2 ⟨(), rfl, ?_⟩
  by_cases payload : o.json = true
  · rw [if_pos payload]
    rfl
  · rw [if_neg payload]
    refine result_bind_eq_ok.2 ⟨(), result_rulePage_of_fits (fits (by simpa using payload)), ?_⟩
    by_cases peg : o.peg = true
    · rw [if_pos peg]
      rfl
    · rw [if_neg peg]
      rfl

theorem result_formPage
    (fits : o.list = false → o.peg = false → ∀ name ∈ s.rules, (g.diagram name.text).Fits o.style) :
    (o.formPage g s : Page ε Unit).result = .ok () := by
  by_cases list : o.list = true
  · rw [formPage, if_pos list, sectionList_eq]
    rfl
  · rw [formPage, if_neg list, result_sectionPage]
    intro name listed
    exact result_rulePage_of_fits fun peg => fits (by simpa using list) peg name listed

/-- Without a fault in the choice of the sections all of them are shown. -/
theorem result_page_of_fits (unchecked : o.check = false) (all : o.rule = none)
    (chosen : ∀ fault, ¬o.Refused t.engine c fault)
    (fits : ∀ name ∈ o.drawn t.engine c, (g.diagram name).Fits o.style) :
    (o.page t g c).result = .ok () := by
  rw [page_of_chosen all chosen]
  by_cases payload : o.json = true
  · unfold shownPage
    by_cases list : o.list = true
    · rw [if_pos list, forM_unless, result_forM]
      intro s _
      rw [sectionList_eq]
      rfl
    · rw [if_neg list, if_pos payload]
      rfl
  · have text : o.json = false := by simpa using payload
    rw [shownPage_of_text text, forM_unless, ← shown_eq, result_forM]
    intro s mem
    apply result_formPage
    intro list peg name listed
    apply fits
    rw [drawn_of_all unchecked all list text peg]
    exact List.mem_flatMap.2 ⟨s, mem, List.mem_map_of_mem listed⟩

/-- A choice that is refused is all that there is of a run. -/
theorem answer_of_refused (unchecked : o.check = false) (all : o.rule = none) {fault : Failure ε}
    (refused : o.Refused t.engine c fault) : o.answer t g c = ⟨.error fault, "", ""⟩ := by
  have page := page_of_refused (g := g) all refused
  rw [answer_of_error unchecked (congrArg Written.result page), page]
  rfl

/-- Every other run comes to its end. -/
theorem result_answer_of_fits (fits : ∀ name ∈ o.drawn t.engine c, (g.diagram name).Fits o.style)
    (free : o.check = false → o.rule = none → ∀ fault, ¬o.Refused t.engine c fault) :
    (o.answer t g c).result = .ok (if o.check = true ∧ problems g c ≠ [] then 1 else 0) := by
  by_cases asked : o.check = true
  · rw [answer, if_pos asked, auditPage_result]
    by_cases clean : problems g c = []
    · simp [clean]
    · simp [asked, clean]
  · have unchecked : o.check = false := by simpa using asked
    rw [if_neg (fun both => asked both.1), result_answer unchecked]
    refine ⟨?_, rfl⟩
    cases all : o.rule with
    | none => exact result_page_of_fits unchecked all (free unchecked all) fits
    | some name =>
      rw [page, all]
      apply result_singlePage
      intro payload peg
      apply fits
      rw [drawn_of_rule unchecked all payload peg]
      exact List.mem_singleton_self name

end Options

/-- A run fails before it writes anything, or it comes to its end. -/
structure FailsFirst {π ε : Type} (t : Tools π ε) (o : Options) (g : Grammar) (c : Contents) :
    Prop where
  refused : ∀ fault, (o.answer t g c).result = .error fault ↔
    o.check = false ∧ o.rule = none ∧ o.Refused t.engine c fault
  silent : ∀ fault, (o.answer t g c).result = .error fault →
    (o.answer t g c).output = "" ∧ (o.answer t g c).remarks = ""
  code : ∀ code, (o.answer t g c).result = .ok code →
    code = if o.check = true ∧ problems g c ≠ [] then 1 else 0

/-- Where the drawings fit, a run fails for a section that does not exist or an expression that
makes no sense to the engine, and for nothing else. -/
theorem fails_before_writing {π ε : Type} (t : Tools π ε) (o : Options) (g : Grammar)
    (c : Contents) (fits : ∀ name ∈ o.drawn t.engine c, (g.diagram name).Fits o.style) :
    FailsFirst t o g c := by
  by_cases free : o.check = false → o.rule = none → ∀ fault, ¬o.Refused t.engine c fault
  · have ends := Options.result_answer_of_fits fits free
    constructor
    case refused =>
      intro fault
      rw [ends]
      exact iff_of_false (fun same => nomatch same)
        fun ⟨unchecked, all, refused⟩ => free unchecked all fault refused
    case silent =>
      intro fault failed
      rw [ends] at failed
      cases failed
    case code =>
      intro code ok
      rw [ends] at ok
      exact (Except.ok.inj ok).symm
  · push Not at free
    obtain ⟨unchecked, all, fault, refused⟩ := free
    have failed := Options.answer_of_refused (g := g) unchecked all refused
    constructor
    case refused =>
      intro other
      rw [failed]
      constructor
      · rintro ⟨⟩
        exact ⟨unchecked, all, refused⟩
      · rintro ⟨-, -, again⟩
        rw [← failed, Options.answer_of_refused unchecked all again]
    case silent =>
      intro other _
      rw [failed]
      exact ⟨rfl, rfl⟩
    case code =>
      intro code ok
      rw [failed] at ok
      cases ok

def badPattern : Options := { filter := some "(", regex := true }

theorem fails_before_writing_items :
    ({} : Options).drawn tools.engine itemContents = ["list", "items", "item"] ∧
      FailsFirst tools {} itemGrammar itemContents ∧
      FailsFirst tools badPattern itemGrammar itemContents ∧
      ∃ fault, badPattern.Refused tools.engine itemContents (.badExpression fault) := by
  refine ⟨rfl, ?_, ?_, ?_⟩
  · apply fails_before_writing
    decide
  · apply fails_before_writing
    decide
  · refine ⟨_, .badExpression ⟨rfl, "(", rfl, rfl⟩ (List.mem_cons_self ..) ?_⟩
    intro id asked
    cases asked

end Trackplan.CommandLine
