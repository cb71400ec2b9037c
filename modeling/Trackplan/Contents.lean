import Trackplan.Grammar.Basic

/-! The table of contents of a grammar: titled sections in order, each with the rules that it
lists. No two sections have the same identifier. -/
namespace Trackplan

structure Section where
  id : Name
  title : String
  rules : List Name
  deriving DecidableEq

structure Contents where
  sections : List Section
  distinct : (sections.map Section.id).Nodup

namespace Contents

inductive Fault
  | duplicate (id : Name)
  | badName (fault : Name.Fault)
  deriving DecidableEq

def Fault.message : Fault → String
  | .duplicate id => "section `" ++ id.text ++ "` is defined more than once"
  | .badName fault => "invalid section entry: " ++ fault.message

def empty : Contents := ⟨[], by simp⟩

def ids (c : Contents) : List Name := c.sections.map Section.id

def size (c : Contents) : Nat := c.sections.length

def find? (c : Contents) (id : String) : Option Section :=
  c.sections.find? (·.id.text = id)

def title? (c : Contents) (id : String) : Option String := (c.find? id).map Section.title

def rules? (c : Contents) (id : String) : Option (List Name) := (c.find? id).map Section.rules

def add (c : Contents) (s : Section) : Except Fault Contents :=
  if h : s.id ∈ c.sections.map Section.id then .error (.duplicate s.id)
  else
    .ok ⟨c.sections ++ [s], by
      rw [List.map_append, List.nodup_append]
      refine ⟨c.distinct, by simp, ?_⟩
      rintro a mem _ single rfl
      exact h (by simpa [List.mem_singleton.1 single] using mem)⟩

/-- A section whose names are still plain texts. -/
structure Row where
  id : String
  title : String
  rules : List String

/-- The identifier is looked at before the rules. -/
def Row.section (row : Row) : Except Name.Fault Section := do
  let id ← Name.ofText row.id
  let rules ← Name.ofTexts row.rules
  return ⟨id, row.title, rules⟩

def addRow (c : Contents) (row : Row) : Except Fault Contents :=
  match row.section with
  | .error fault => .error (.badName fault)
  | .ok s => c.add s

def ofRows (rows : List Row) : Except Fault Contents := rows.foldlM addRow empty

/-- The sections that list the rule. -/
def listing (c : Contents) (rule : String) : List Section :=
  c.sections.filter fun s => s.rules.any (·.text = rule)

/-- How far the sections and a grammar agree: listed names without a rule, with their sections,
and rules that no section lists. -/
structure Coverage where
  unknown : List (Name × Name)
  unlisted : List Name
  deriving DecidableEq

def Coverage.isClean (report : Coverage) : Bool := report.unknown.isEmpty && report.unlisted.isEmpty

def coverage (c : Contents) (g : Grammar) : Coverage where
  unknown := c.sections.flatMap fun s =>
    (s.rules.filter fun rule => !g.has rule.text).map (s.id, ·)
  unlisted := g.names.filter fun name => !c.sections.any fun s => name ∈ s.rules

end Contents

end Trackplan
