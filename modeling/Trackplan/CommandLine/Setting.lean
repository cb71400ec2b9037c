/-! Single settings of the command line, and how a list of arguments falls apart into them. -/
namespace Trackplan.CommandLine

inductive Setting
  | rule (name : String)
  | sectionId (id : String)
  | filter (query : String)
  | regex
  | list
  | json
  | peg
  | check
  | noComments
  | limit (width : Nat)
  | help
  deriving DecidableEq, Repr

/-- Numbers are below this, the sixty-fourth power of two. -/
def wordLimit : Nat := 18446744073709551616

/-- A number in decimal digits that a machine word holds. A plus sign may stand before it. -/
def wordOf? (text : String) : Option Nat :=
  let digits : List Char := match text.toList with
    | '+' :: rest => rest
    | cs => cs
  let value := digits.foldl (fun value d => 10 * value + (d.toNat - '0'.toNat)) 0
  if digits ≠ [] ∧ digits.all Char.isDigit ∧ value < wordLimit then some value else none

def widthOf? (text : String) : Option Nat :=
  match wordOf? text with
  | some 0 => none
  | width? => width?

namespace Setting

/-- The option that makes the setting. -/
def option : Setting → String
  | .rule _ => "--rule"
  | .sectionId _ => "--section"
  | .filter _ => "--filter"
  | .regex => "--regex"
  | .list => "--list"
  | .json => "--json"
  | .peg => "--peg"
  | .check => "--check"
  | .noComments => "--no-comments"
  | .limit _ => "--max-label-width"
  | .help => "--help"

/-- The setting of an argument that takes no value. -/
def flag? : String → Option Setting
  | "--regex" => some .regex
  | "--list" => some .list
  | "--json" => some .json
  | "--peg" => some .peg
  | "--check" => some .check
  | "--no-comments" => some .noComments
  | "-h" => some .help
  | "--help" => some .help
  | _ => none

/-- How an argument that takes a value reads the argument after it, whatever that looks like. -/
def reader? : String → Option (String → Option Setting)
  | "--rule" => some fun name => some (.rule name)
  | "--section" => some fun id => some (.sectionId id)
  | "--filter" => some fun query => some (.filter query)
  | "--max-label-width" => some fun width => (widthOf? width).map .limit
  | _ => none

/-- The settings of all arguments, if each argument is a known one. -/
def ofArguments : List String → Option (List Setting)
  | [] => some []
  | [last] => (flag? last).map ([·])
  | first :: second :: rest =>
    match reader? first with
    | some read => do return (← read second) :: (← ofArguments rest)
    | none => do return (← flag? first) :: (← ofArguments (second :: rest))

/-- No argument is both a flag and an option. -/
theorem reader?_of_flag {argument : String} (known : (flag? argument).isSome = true) :
    reader? argument = none := by
  unfold flag? at known
  split at known <;> first | rfl | cases known

theorem ofArguments_alone {argument : String} (alone : reader? argument = none)
    (rest : List String) : ofArguments (argument :: rest) =
      (flag? argument).bind fun s => (ofArguments rest).map (s :: ·) := by
  cases rest with
  | nil => cases flag : flag? argument <;> simp [ofArguments, flag]
  | cons second rest =>
    simp only [ofArguments, alone]
    cases flag? argument with
    | none => rfl
    | some s => cases ofArguments (second :: rest) <;> rfl

theorem ofArguments_option {argument : String} {read : String → Option Setting}
    (option : reader? argument = some read) (value : String) (rest : List String) :
    ofArguments (argument :: value :: rest) =
      (read value).bind fun s => (ofArguments rest).map (s :: ·) := by
  simp only [ofArguments, option]
  cases read value with
  | none => rfl
  | some s => cases ofArguments rest <;> rfl

end Setting

end Trackplan.CommandLine
