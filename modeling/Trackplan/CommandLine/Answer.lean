import Trackplan.CommandLine.Audit
import Trackplan.CommandLine.Usage
import Trackplan.Likeness.Suggestion
import Trackplan.Python

/-! Runs as pure functions, with whatever tools they are given: from arguments to the texts written
and the exit code. -/
namespace Trackplan.CommandLine

variable {π ε : Type}

structure Outcome where
  code : Nat
  output : String := ""
  /-- What goes to the error channel. -/
  remarks : String := ""
  deriving DecidableEq, Repr

def remark (text : String) : String := line (program ++ ": " ++ text)

/-- Names offered in place of an unknown one. -/
def suggestionLimit : Nat := 3

def suggestions (likeness : List Char → List Char → Int) (g : Grammar) (name : String) :
    List Name :=
  Likeness.suggestBy likeness Name.text g.names name suggestionLimit

/-- An unknown rule is no failure: suggestions are made for it and its page says what is missing. -/
def unknownRuleRemark (likeness : List Char → List Char → Int) (g : Grammar) (name : String) :
    String :=
  if g.has name then ""
  else
    match suggestions likeness g name with
    | [] => ""
    | offered =>
      remark ("unknown rule `" ++ name ++ "`; did you mean: " ++
        String.intercalate ", " (offered.map Name.text) ++ "?")

namespace Options

/-- A single rule, with what it refers to and what refers to it under its drawing. -/
def singlePage (o : Options) (t : Tools π ε) (g : Grammar) (name : String) : Page ε Unit := do
  .remark (unknownRuleRemark t.likeness g name)
  if o.json then
    .write (jsonPage t (g.diagram name).json)
  else
    o.rulePage g name
    unless o.peg do .write (neighbours g name)

/-- A single rule or the contents. -/
def page (o : Options) (t : Tools π ε) (g : Grammar) (c : Contents) : Page ε Unit :=
  match o.rule with
  | some name => o.singlePage t g name
  | none => o.contentsPage t g c

/-- What the options call for, with the exit code. -/
def answer (o : Options) (t : Tools π ε) (g : Grammar) (c : Contents) : Page ε Nat :=
  if o.check then auditPage g c else do o.page t g c; return 0

end Options

def Written.outcome (answer : Written ε Nat) : Except ε Outcome := do
  return ⟨← answer.result, answer.output, answer.remarks⟩

def pythonAnswer (t : Tools π ε) (o : Options) : Page ε Nat := do
  let g ← .ofExcept (Python.grammar.mapError .badGrammar)
  let c ← .ofExcept (Python.contents.mapError .badContents)
  o.answer t g c

/-- The whole program on the grammar of Python. Help goes where errors go. A fault is remarked after
what was written before it. -/
def Tools.outcome (t : Tools π ε) (arguments : List String) : Outcome :=
  match Options.ofArguments arguments with
  | none => ⟨2, "", usage⟩
  | some o =>
    if o.help then ⟨0, "", usage⟩
    else
      let answer := pythonAnswer t o
      match answer.outcome with
      | .ok result => result
      | .error fault => ⟨1, answer.output, answer.remarks ++ remark (fault.message t.engine)⟩

end Trackplan.CommandLine
