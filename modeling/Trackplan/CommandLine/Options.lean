import Trackplan.CommandLine.Setting
import Trackplan.Style

/-! The options of the command line and which of them go together. -/
namespace Trackplan.CommandLine

structure Options where
  rule : Option String := none
  sectionId : Option String := none
  filter : Option String := none
  regex : Bool := false
  list : Bool := false
  json : Bool := false
  peg : Bool := false
  check : Bool := false
  noComments : Bool := false
  limit : Option Nat := none
  help : Bool := false
  deriving DecidableEq, Repr

namespace Options

/-- Whether the option of a setting is given already, with whatever value. -/
def holds (o : Options) : Setting → Bool
  | .rule _ => o.rule.isSome
  | .sectionId _ => o.sectionId.isSome
  | .filter _ => o.filter.isSome
  | .regex => o.regex
  | .list => o.list
  | .json => o.json
  | .peg => o.peg
  | .check => o.check
  | .noComments => o.noComments
  | .limit _ => o.limit.isSome
  | .help => o.help

def put (o : Options) : Setting → Options
  | .rule name => { o with rule := some name }
  | .sectionId id => { o with sectionId := some id }
  | .filter query => { o with filter := some query }
  | .regex => { o with regex := true }
  | .list => { o with list := true }
  | .json => { o with json := true }
  | .peg => { o with peg := true }
  | .check => { o with check := true }
  | .noComments => { o with noComments := true }
  | .limit width => { o with limit := some width }
  | .help => { o with help := true }

/-- Makes a setting, unless its option is given already. -/
def set (o : Options) (s : Setting) : Option Options :=
  if o.holds s then none else some (o.put s)

/-- The forms of output that are asked for. -/
def forms (o : Options) : Nat := [o.json, o.peg, o.list].countP id

/-- One form of output at most; an expression needs the query that it is; a single rule excludes
everything that chooses among rules, and the check excludes every other output. -/
def agree (o : Options) : Bool :=
  o.forms ≤ 1 &&
  !(o.regex && o.filter.isNone) &&
  !(o.rule.isSome && (o.sectionId.isSome || o.filter.isSome || o.list)) &&
  !(o.check && (o.rule.isSome || o.sectionId.isSome || 0 < o.forms))

def ofSettings (settings : List Setting) : Option Options := do
  let o ← settings.foldlM set {}
  if o.agree then some o else none

/-- Options of the arguments, or none where the usage has to be shown. -/
def ofArguments (arguments : List String) : Option Options := do
  ofSettings (← Setting.ofArguments arguments)

def style (o : Options) : Style := { limit := o.limit, comments := !o.noComments }

end Options

end Trackplan.CommandLine
