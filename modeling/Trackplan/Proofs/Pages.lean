import Trackplan.CommandLine.Run
import Trackplan.Proofs.Bounds
import Trackplan.Proofs.Printing
import Trackplan.Proofs.Selection

/-! What the pages hold. Lists, PEG text, JSON and drawings go through the chosen sections each in a
loop of its own, and all of them show the same sections with the same rules in the same order. For
JSON this asks of the printer that its texts can be read back. -/
namespace Trackplan

namespace Diagram

/-- The cells of the drawing can be counted. -/
def Fits (style : Style) (d : Diagram) : Prop :=
  (Plan.ofDiagram style d).width * (Plan.ofDiagram style d).height < Grid.areaLimit

instance (style : Style) (d : Diagram) : Decidable (d.Fits style) :=
  inferInstanceAs (Decidable (_ < _))

theorem text_of_fits {style : Style} {d : Diagram} (fits : d.Fits style) :
    ∃ text, d.text style = .ok text := by
  obtain ⟨g, ok, -⟩ := (Plan.ofDiagram style d).drawn_of_fits fits
  exact ⟨g.trimmedText, by rw [Diagram.text, Plan.text, ok]; rfl⟩

theorem fits_of_text {style : Style} {d : Diagram} {text : String} (ok : d.text style = .ok text) :
    d.Fits style := by
  apply Decidable.byContradiction
  intro large
  rw [Diagram.text, Plan.text, (Plan.ofDiagram style d).drawn_of_not_fits large] at ok
  cases ok

end Diagram

namespace Grammar

/-- What PEG text has after a name: the body of its rule, or a note that there is none. -/
def definition (g : Grammar) (name : String) : String :=
  match g.find? name with
  | some rule => rule.body.peg
  | none => "/* no definition for `" ++ name ++ "` */"

theorem rule_diagram (g : Grammar) (name : Name) : (g.diagram name.text).rule = some name := by
  unfold diagram
  cases found : g.find? name.text with
  | none => exact Name.ofText?_text name
  | some rule => exact congrArg some (Name.ext (find?_eq_some.1 found).2)

end Grammar

namespace Json

def field? (key : String) : Json → Option Json
  | .object fields => fields.lookup key
  | _ => none

def items? : Json → Option (List Json)
  | .list items => some items
  | _ => none

def text? : Json → Option String
  | .text s => some s
  | _ => none

end Json

namespace CommandLine

open Written

/-- Sections one below the other, each with an entry for every rule under its heading. -/
def laidOut (heading : Section → String) (entry : Name → String) (sections : List Section) :
    String :=
  String.join (sections.map fun s => heading s ++ String.join (s.rules.map entry))

/-- The rule that a diagram is of. -/
def readRule (payload : Json) : Option String := do (← payload.field? "rule").text?

def readSection (payload : Json) : Option (String × List String) := do
  let id ← (← payload.field? "id").text?
  let diagrams ← (← payload.field? "rules").items?
  return (id, ← diagrams.mapM readRule)

/-- The identifiers of the sections, each with the rules of its diagrams. -/
def readSections (payload : Json) : Option (List (String × List String)) := do
  (← payload.items?).mapM readSection

variable {π ε : Type}

section

variable {t : Tools π ε} {o : Options} {g : Grammar} {c : Contents} {s : Section}

theorem mapM_map_eq_some {α β γ : Type} {encode : α → β} {read : β → Option γ} {view : α → γ}
    (each : ∀ a, read (encode a) = some (view a)) (items : List α) :
    (items.map encode).mapM read = some (items.map view) := by
  induction items with
  | nil => rfl
  | cons a rest ih => simp [List.mapM_cons, each, ih]

theorem readRule_json (g : Grammar) (name : Name) :
    readRule (g.diagram name.text).json = some name.text := by
  simp [readRule, Diagram.json, Json.field?, g.rule_diagram, Json.optional, Json.text?]

theorem readSection_json (g : Grammar) (s : Section) :
    readSection (sectionJson g s) = some (s.id.text, s.rules.map Name.text) := by
  have rules := mapM_map_eq_some (readRule_json g) s.rules
  simp [readSection, sectionJson, Json.field?, List.lookup_cons, Json.text?, Json.items?, rules]

theorem readSections_json (g : Grammar) (sections : List Section) :
    readSections (.list (sections.map (sectionJson g))) =
      some (sections.map fun s => (s.id.text, s.rules.map Name.text)) :=
  mapM_map_eq_some (readSection_json g) sections

theorem pegLine_eq (g : Grammar) (name : String) :
    pegLine g name = name ++ ": " ++ g.definition name ++ "\n" := by
  unfold pegLine Grammar.lookup Grammar.definition
  cases g.find? name with
  | none =>
    dsimp only [line, Grammar.Undefined.message]
    apply String.toList_injective
    simp
  | some rule => rfl

/-- A heading, and then an entry for each rule. -/
theorem headed_eq {heading : String} {names : List Name} {step : Name → Written ε Unit}
    {entry : Name → String} (each : ∀ name ∈ names, step name = write (entry name)) :
    (write heading >>= fun _ => names.forM step) =
      write (heading ++ String.join (names.map entry)) := by
  rw [forM_write each, write_bind_write]

theorem sectionList_eq (s : Section) :
    (sectionList s : Written ε Unit) = write (s.id.text ++ "\t" ++ s.title ++ "\n" ++
      String.join (s.rules.map fun name => "  " ++ name.text ++ "\n")) :=
  headed_eq fun _ _ => rfl

namespace Options

theorem rulePage_of_peg (peg : o.peg = true) (name : String) :
    (o.rulePage g name : Page ε Unit) = write (name ++ ": " ++ g.definition name ++ "\n") := by
  rw [rulePage, if_pos peg, pegLine_eq]

theorem rulePage_of_text (drawn : o.peg = false) {name text : String}
    (ok : (g.diagram name).text o.style = .ok text) :
    (o.rulePage g name : Page ε Unit) = write (name ++ "\n" ++ text ++ "\n\n") := by
  rw [rulePage, if_neg (by simp [drawn]), ok]
  change (write (line name) >>= fun _ => ofExcept (.ok text) >>= fun drawing =>
    write (line drawing) >>= fun _ => write (line "")) = _
  rw [ok_bind, write_bind_write, write_bind_write]
  simp [line, String.append_assoc]

theorem result_rulePage (drawn : o.peg = false) (name : String) :
    (o.rulePage g name : Page ε Unit).result = .ok () ↔ (g.diagram name).Fits o.style := by
  constructor
  · intro ok
    rw [rulePage, if_neg (by simp [drawn])] at ok
    obtain ⟨-, -, ok⟩ := result_bind_eq_ok.1 ok
    obtain ⟨text, made, -⟩ := result_bind_eq_ok.1 ok
    cases given : (g.diagram name).text o.style with
    | ok text => exact Diagram.fits_of_text given
    | error fault => rw [given] at made; cases made
  · intro fits
    obtain ⟨text, ok⟩ := Diagram.text_of_fits fits
    rw [rulePage_of_text drawn ok]
    rfl

theorem result_sectionPage : (o.sectionPage g s : Page ε Unit).result = .ok () ↔
    ∀ name ∈ s.rules, (o.rulePage g name.text : Page ε Unit).result = .ok () := by
  rw [sectionPage, result_bind_eq_ok]
  simp only [result_bind_eq_ok, result_forM]
  constructor
  · rintro ⟨-, -, -, -, ok⟩; exact ok
  · intro ok; exact ⟨(), rfl, (), rfl, ok⟩

theorem sectionPage_eq {entry : Name → String}
    (each : ∀ name ∈ s.rules, (o.rulePage g name.text : Page ε Unit) = write (entry name)) :
    (o.sectionPage g s : Page ε Unit) = write ("== " ++ s.title ++ " ==\n\n" ++
      String.join (s.rules.map entry)) := by
  change (write (line ("== " ++ s.title ++ " ==")) >>= fun _ => write (line "") >>= fun _ =>
    s.rules.forM fun name => o.rulePage g name.text) = _
  rw [headed_eq each, write_bind_write]
  congr 1
  apply String.toList_injective
  simp [line]

/-- One section in the form that is asked for, unless that form is JSON. -/
def formPage (o : Options) (g : Grammar) (s : Section) : Page ε Unit :=
  if o.list then sectionList s else o.sectionPage g s

theorem shownPage_of_text (text : o.json = false) (sections : List Section) :
    o.shownPage t g sections =
      sections.forM fun s => (unless o.hides s do o.formPage g s) := by
  unfold shownPage formPage
  by_cases list : o.list = true
  · simp only [list, if_true]
  · simp only [list, text, Bool.false_eq_true, if_false]

theorem page_of_chosen (all : o.rule = none) (chosen : ∀ fault, ¬o.Refused t.engine c fault) :
    o.page t g c = o.shownPage t g (o.chosen t.engine c) := by
  rw [page, all]
  change (ofExcept (o.selection t.engine c) >>= fun sections => o.shownPage t g sections) = _
  rw [selection_of_not_refused chosen, ok_bind]

theorem page_of_refused (all : o.rule = none) {fault : Failure ε}
    (refused : o.Refused t.engine c fault) : o.page t g c = ofExcept (.error fault) := by
  rw [page, all]
  change (ofExcept (o.selection t.engine c) >>= fun sections => o.shownPage t g sections) = _
  rw [selection_of_refused refused, error_bind]

theorem answer_of_write (unchecked : o.check = false) {text : String}
    (page : o.page t g c = write text) : o.answer t g c = ⟨.ok 0, text, ""⟩ := by
  rw [answer, if_neg (by simp [unchecked]), page, bind_of_ok rfl]
  simp [write, pure]

/-- All shown sections, if each of them can be written. -/
theorem answer_of_text (unchecked : o.check = false) (all : o.rule = none) (text : o.json = false)
    (chosen : ∀ fault, ¬o.Refused t.engine c fault) {heading : Section → String}
    {entry : Name → String}
    (each : ∀ s ∈ o.shown t.engine c, o.formPage g s =
      (write (heading s ++ String.join (s.rules.map entry)) : Page ε Unit)) :
    o.answer t g c = ⟨.ok 0, laidOut heading entry (o.shown t.engine c), ""⟩ := by
  apply answer_of_write unchecked
  rw [page_of_chosen all chosen, shownPage_of_text text, forM_unless, ← shown_eq]
  exact forM_write each

theorem result_answer (unchecked : o.check = false) {code : Nat} :
    (o.answer t g c).result = .ok code ↔ (o.page t g c).result = .ok () ∧ code = 0 := by
  rw [answer, if_neg (by simp [unchecked]), result_bind_eq_ok]
  constructor
  · rintro ⟨⟨⟩, ok, made⟩; exact ⟨ok, (Except.ok.inj made).symm⟩
  · rintro ⟨ok, rfl⟩; exact ⟨(), ok, rfl⟩

theorem answer_of_error (unchecked : o.check = false) {fault : Failure ε}
    (failed : (o.page t g c).result = .error fault) :
    o.answer t g c = ⟨.error fault, (o.page t g c).output, (o.page t g c).remarks⟩ := by
  rw [answer, if_neg (by simp [unchecked]), bind_of_error failed]

theorem not_refused_of_answer (all : o.rule = none) (unchecked : o.check = false) {code : Nat}
    (ok : (o.answer t g c).result = .ok code) : ∀ fault, ¬o.Refused t.engine c fault := by
  intro fault refused
  have shown := ((result_answer unchecked).1 ok).1
  rw [page_of_refused all refused] at shown
  cases shown

end Options

end

/-- The forms in which sections are shown. -/
inductive Form
  | list | json | peg | drawing
  deriving DecidableEq, Repr

def Options.inForm (o : Options) (form : Form) : Options :=
  { o with list := form = .list, json := form = .json, peg := form = .peg }

/-- A JSON text tells its value: something reads it back. -/
def Tools.Legible (t : Tools π ε) : Prop :=
  ∃ read : String → Option Json, ∀ value, read (t.print value) = some value

theorem tools_legible : tools.Legible :=
  ⟨Function.partialInv tools.print, Function.partialInv_left (Json.pretty_injective 0)⟩

theorem Tools.Legible.line_injective {t : Tools π ε} (legible : t.Legible) :
    Function.Injective (jsonPage t) := by
  obtain ⟨read, reads⟩ := legible
  intro a b same
  have texts : t.print a = t.print b := (String.append_left_inj "\n").1 same
  have values : some a = some b := by rw [← reads a, ← reads b, texts]
  exact Option.some.inj values

/-- Each form shows the sections one after the other and under each of them its rules one after the
other, whether or not they are defined. JSON holds an object for each section with one for each of
its rules, and no other value has that text. -/
structure FormsShow (t : Tools π ε) (o : Options) (g : Grammar) (c : Contents)
    (shown : List Section) : Prop where
  list : (o.inForm .list).answer t g c = ⟨.ok 0, laidOut
    (fun s => s.id.text ++ "\t" ++ s.title ++ "\n") (fun name => "  " ++ name.text ++ "\n")
    shown, ""⟩
  json : (o.inForm .json).answer t g c =
    ⟨.ok 0, t.print (.list (shown.map (sectionJson g))) ++ "\n", ""⟩
  payload : ∀ value, ((o.inForm .json).answer t g c).output = t.print value ++ "\n" →
    readSections value = some (shown.map fun s => (s.id.text, s.rules.map Name.text))
  peg : (o.inForm .peg).answer t g c = ⟨.ok 0, laidOut
    (fun s => "== " ++ s.title ++ " ==\n\n")
    (fun name => name.text ++ ": " ++ g.definition name.text ++ "\n") shown, ""⟩
  drawing : (∀ s ∈ shown, ∀ name ∈ s.rules, (g.diagram name.text).Fits o.style) →
    ∃ drawn : Name → String,
      (∀ s ∈ shown, ∀ name ∈ s.rules, (g.diagram name.text).text o.style = .ok (drawn name)) ∧
      (o.inForm .drawing).answer t g c = ⟨.ok 0, laidOut
        (fun s => "== " ++ s.title ++ " ==\n\n")
        (fun name => name.text ++ "\n" ++ drawn name ++ "\n\n") shown, ""⟩
  drawable : (∃ code, ((o.inForm .drawing).answer t g c).result = .ok code) →
    ∀ s ∈ shown, ∀ name ∈ s.rules, (g.diagram name.text).Fits o.style

/-- What is chosen does not hang on the form. -/
theorem refused_of_inForm {o : Options} {c : Contents} {form : Form} {fault : Failure ε}
    {engine : Search.Engine π ε} (refused : (o.inForm form).Refused engine c fault) :
    o.Refused engine c fault := by
  cases refused with
  | unknownSection asked unknown => exact .unknownSection asked unknown
  | badExpression misread searched wanted => exact .badExpression misread searched wanted

/-- Whatever the form, the same sections are shown with the same rules: those that are asked for, in
the order of the contents. -/
theorem forms_show_selection (t : Tools π ε) (legible : t.Legible) (o : Options) (g : Grammar)
    (c : Contents) (all : o.rule = none) (unchecked : o.check = false) {code : Nat}
    (ok : (o.answer t g c).result = .ok code) : FormsShow t o g c (o.shown t.engine c) := by
  have chosen (form : Form) : ∀ fault, ¬(o.inForm form).Refused t.engine c fault := by
    intro fault refused
    exact Options.not_refused_of_answer all unchecked ok fault (refused_of_inForm refused)
  have json : (o.inForm .json).answer t g c =
      ⟨.ok 0, t.print (.list ((o.shown t.engine c).map (sectionJson g))) ++ "\n", ""⟩ := by
    apply Options.answer_of_write (o := o.inForm .json) unchecked
    rw [Options.page_of_chosen (o := o.inForm .json) all (chosen .json), Options.shown_eq]
    rfl
  constructor
  case list =>
    apply Options.answer_of_text (o := o.inForm .list) unchecked all rfl (chosen .list)
    intro s _
    exact sectionList_eq s
  case json => exact json
  case payload =>
    intro value same
    rw [json] at same
    rw [← legible.line_injective same]
    exact readSections_json g _
  case peg =>
    apply Options.answer_of_text (o := o.inForm .peg) unchecked all rfl (chosen .peg)
    intro s _
    apply Options.sectionPage_eq
    intro name _
    exact Options.rulePage_of_peg rfl name.text
  case drawing =>
    intro fits
    let drawn := fun name : Name => ((g.diagram name.text).text o.style).toOption.getD ""
    have made : ∀ s ∈ o.shown t.engine c, ∀ name ∈ s.rules,
        (g.diagram name.text).text o.style = .ok (drawn name) := by
      intro s mem name listed
      obtain ⟨text, ok⟩ := Diagram.text_of_fits (fits s mem name listed)
      simp [drawn, ok, Except.toOption]
    refine ⟨drawn, made, ?_⟩
    apply Options.answer_of_text (o := o.inForm .drawing) unchecked all rfl (chosen .drawing)
    intro s mem
    apply Options.sectionPage_eq (o := o.inForm .drawing)
    intro name listed
    exact Options.rulePage_of_text (o := o.inForm .drawing) rfl (made s mem name listed)
  case drawable =>
    rintro ⟨code, ok⟩ s mem name listed
    have page := ((Options.result_answer (o := o.inForm .drawing) unchecked).1 ok).1
    rw [Options.page_of_chosen (o := o.inForm .drawing) all (chosen .drawing),
      Options.shownPage_of_text rfl, forM_unless, ← Options.shown_eq, result_forM] at page
    have written := Options.result_sectionPage.1 (page s mem) name listed
    exact (Options.result_rulePage (o := o.inForm .drawing) rfl name.text).1 written

def itemsName : Name := ⟨"items", by decide⟩

def itemGrammar : Grammar := Grammar.empty.defineAll Grammar.revised

/-- There is no rule for one of the names. -/
def itemContents : Contents where
  sections := [⟨Grammar.listName, "Lists", [Grammar.listName]⟩,
    ⟨Grammar.itemName, "Items", [itemsName, Grammar.itemName]⟩]
  distinct := by decide

/-- The query is found in the names of one section only. -/
def itemQuery : Options := { filter := some " Item" }

theorem forms_show_selection_items : tools.Legible ∧
    (itemQuery.answer tools itemGrammar itemContents).result = .ok 0 ∧
      FormsShow tools itemQuery itemGrammar itemContents
        [⟨Grammar.itemName, "Items", [itemsName, Grammar.itemName]⟩] := by
  have ok : (itemQuery.answer tools itemGrammar itemContents).result = .ok 0 := by rfl
  have shown : itemQuery.shown tools.engine itemContents =
      [⟨Grammar.itemName, "Items", [itemsName, Grammar.itemName]⟩] := by
    rfl
  rw [← shown]
  exact ⟨tools_legible, ok, forms_show_selection tools tools_legible itemQuery _ _ rfl rfl ok⟩

end CommandLine

end Trackplan
