import Trackplan.CommandLine.Selection
import Trackplan.CommandLine.Written
import Trackplan.Diagram.Json
import Trackplan.Drawing
import Trackplan.Expr.Peg
import Trackplan.Grammar.Diagram
import Trackplan.Grammar.References

/-! Pages of output: lists of rules, rules as PEG text, as JSON or as drawings. -/
namespace Trackplan.CommandLine

/-- What a run takes from outside. -/
structure Tools (π ε : Type) where
  engine : Search.Engine π ε
  /-- The text of a JSON value. -/
  print : Json → String
  /-- How much alike two texts are, in thousandths. -/
  likeness : List Char → List Char → Int

variable {π ε : Type}

/-- What is written on a page, and whether something failed on the way. -/
abbrev Page (ε : Type) : Type → Type := Written (Failure ε)

def line (text : String) : String := text ++ "\n"

def pegLine (g : Grammar) (name : String) : String :=
  match g.lookup name with
  | .ok body => line (name ++ ": " ++ body.peg)
  | .error fault => line (name ++ ": /* " ++ fault.message ++ " */")

/-- Names of rules on one line after a heading; no line without names. -/
def namesLine (heading : String) : List String → String
  | [] => ""
  | names => line (heading ++ ": " ++ String.intercalate ", " names)

/-- What the rule refers to and what refers to it. -/
def neighbours (g : Grammar) (name : String) : String :=
  namesLine "references" ((g.referencesOf name).toOption.getD []) ++
    namesLine "used by" ((g.usedBy name).map Name.text)

namespace Options

/-- One rule, as PEG text or as a drawing under its name. -/
def rulePage (o : Options) (g : Grammar) (name : String) : Page ε Unit := do
  if o.peg then
    .write (pegLine g name)
  else
    .write (line name)
    let drawing ← .ofExcept (((g.diagram name).text o.style).mapError .badDrawing)
    .write (line drawing)
    .write (line "")

def sectionPage (o : Options) (g : Grammar) (s : Section) : Page ε Unit := do
  .write (line ("== " ++ s.title ++ " =="))
  .write (line "")
  s.rules.forM fun name => o.rulePage g name.text

end Options

def sectionList (s : Section) : Written ε Unit := do
  .write (line (s.id.text ++ "\t" ++ s.title))
  s.rules.forM fun name => .write (line ("  " ++ name.text))

def sectionJson (g : Grammar) (s : Section) : Json :=
  .object [("id", .text s.id.text), ("title", .text s.title),
    ("rules", .list (s.rules.map fun name => (g.diagram name.text).json))]

def jsonPage (t : Tools π ε) (json : Json) : String := line (t.print json)

/-- The sections that are shown, in the form that is asked for. -/
def Options.shownPage (o : Options) (t : Tools π ε) (g : Grammar) (chosen : List Section) :
    Page ε Unit :=
  if o.list then
    chosen.forM fun s => unless o.hides s do sectionList s
  else if o.json then
    .write (jsonPage t (.list ((chosen.filter fun s => !o.hides s).map (sectionJson g))))
  else
    chosen.forM fun s => unless o.hides s do o.sectionPage g s

/-- The page of all sections that the options choose. -/
def Options.contentsPage (o : Options) (t : Tools π ε) (g : Grammar) (c : Contents) :
    Page ε Unit := do
  o.shownPage t g (← .ofExcept (o.selection t.engine c))

end Trackplan.CommandLine
