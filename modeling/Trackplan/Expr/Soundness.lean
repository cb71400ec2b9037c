import Trackplan.Expr.Basic

/-! Which expressions make sense: every choice offers its default, and no repetition repeats the
empty production. The same rule is read in two ways, over a finished tree and while a tree is
built from its leaves. -/
namespace Trackplan.Expr

inductive Fault
  | emptyChoice
  | defaultOutOfRange (default count : Nat)
  | emptyRepetition
  deriving DecidableEq, Repr

def Fault.message : Fault → String
  | .emptyChoice => "a choice must offer at least one alternative"
  | .defaultOutOfRange default count =>
    "choice default " ++ toString default ++ " is out of range for " ++ toString count ++ " options"
  | .emptyRepetition => "a repetition must not repeat the empty production"

mutual

/-- The empty production: a sequence of nothing else. -/
def isEmpty : Expr → Bool
  | .sequence items => allEmpty items
  | _ => false

def allEmpty : List Expr → Bool
  | [] => true
  | e :: rest => e.isEmpty && allEmpty rest

end

def choiceFault? (count default : Nat) : Option Fault :=
  if count = 0 then some .emptyChoice
  else if default < count then none
  else some (.defaultOutOfRange default count)

def repetitionFault? (body : Expr) : Option Fault :=
  if body.isEmpty then some .emptyRepetition else none

/-- What is wrong with the root of the tree, its parts left aside. -/
def ownFault? : Expr → Option Fault
  | .choice options default => choiceFault? options.length default
  | .repetition _ body _ => repetitionFault? body
  | _ => none

mutual

/-- The first fault of the tree, parents before their parts. -/
def fault? : Expr → Option Fault
  | .terminal _ | .reference _ | .note _ => none
  | .sequence items => faultIn? items
  | .choice options default => choiceFault? options.length default <|> faultIn? options
  | .optional body => fault? body
  | .repetition _ body none => repetitionFault? body <|> fault? body
  | .repetition _ body (some separator) =>
    repetitionFault? body <|> fault? body <|> fault? separator

def faultIn? : List Expr → Option Fault
  | [] => none
  | e :: rest => fault? e <|> faultIn? rest

end

def ofChoice (options : List Expr) (default : Nat) : Except Fault Expr :=
  match choiceFault? options.length default with
  | some fault => .error fault
  | none => .ok (.choice options default)

def ofRepetition (least : Least) (body : Expr) (separator : Option Expr) : Except Fault Expr :=
  match repetitionFault? body with
  | some fault => .error fault
  | none => .ok (.repetition least body separator)

mutual

/-- Builds the tree anew from its leaves: parts in order, the body before its separator, and
every part before the whole. -/
def rebuilt : Expr → Except Fault Expr
  | .terminal t => .ok (.terminal t)
  | .reference name => .ok (.reference name)
  | .note text => .ok (.note text)
  | .sequence items => do return .sequence (← rebuiltAll items)
  | .choice options default => do ofChoice (← rebuiltAll options) default
  | .optional body => do return .optional (← rebuilt body)
  | .repetition least body none => do ofRepetition least (← rebuilt body) none
  | .repetition least body (some separator) => do
    let body ← rebuilt body
    let separator ← rebuilt separator
    ofRepetition least body (some separator)

def rebuiltAll : List Expr → Except Fault (List Expr)
  | [] => .ok []
  | e :: rest => do return (← rebuilt e) :: (← rebuiltAll rest)

end

theorem allEmpty_eq (es : List Expr) : allEmpty es = es.all isEmpty := by
  induction es with
  | nil => rfl
  | cons e rest ih => simp [allEmpty, ih]

theorem choiceFault?_eq_none {count default : Nat} :
    choiceFault? count default = none ↔ default < count := by
  unfold choiceFault?
  split
  · simp_all
  · split <;> simp_all

theorem repetitionFault?_eq_none {body : Expr} :
    repetitionFault? body = none ↔ body.isEmpty = false := by
  unfold repetitionFault?; split <;> simp_all

theorem faultIn?_eq_of_parts {es : List Expr}
    (parts : ∀ e ∈ es, e.fault? = e.nodes.findSome? ownFault?) :
    faultIn? es = (es.flatMap nodes).findSome? ownFault? := by
  induction es with
  | nil => rfl
  | cons e rest ih =>
    have others := ih fun e mem => parts e (List.mem_cons_of_mem _ mem)
    rw [faultIn?, List.flatMap_cons, List.findSome?_append, parts e List.mem_cons_self, others,
      Option.orElse_eq_orElse, Option.orElse_eq_or]

/-- The first fault of a tree is the fault of its first faulty node. -/
theorem fault?_eq_findSome? (e : Expr) : e.fault? = e.nodes.findSome? ownFault? := by
  induction e using Expr.induct with
  | terminal | reference | note => rfl
  | sequence items ih =>
    rw [fault?, nodes_sequence, faultIn?_eq_of_parts ih]
    rfl
  | choice options default ih =>
    rw [fault?, nodes_choice, faultIn?_eq_of_parts ih, List.findSome?_cons, ownFault?]
    cases choiceFault? options.length default <;> rfl
  | optional body ih =>
    rw [fault?, ih]
    rfl
  | repetition least body separator ih sep =>
    rw [nodes_repetition, List.findSome?_cons, ownFault?, List.findSome?_append, ← ih]
    cases separator with
    | none =>
      rw [fault?]
      cases repetitionFault? body <;> simp
    | some s =>
      rw [fault?, sep s rfl, Option.toList_some, List.flatMap_singleton]
      cases repetitionFault? body <;> simp

end Trackplan.Expr
