import Trackplan.Proofs.Reading

/-! When the text of an expression tells what the expression is. A separated repetition and a
one-or-more mark share their sign, so a separator can take the mark of its own body. Regrouping an
expression the way its text is read gives another one of the same text in which no separator does,
and of these each text has one only. -/
namespace Trackplan.Expr

/-- The part before the first free mark of an expression that has one, when a separator put before
the expression takes that mark. -/
def taken (separator : Expr) : Expr → Expr
  | .sequence [e] => taken separator e
  | .choice [e] _ => taken separator e
  | .repetition .zero body none => .repetition .zero (taken separator body) none
  | .repetition .one body none =>
    if body.hasFreeMark then .repetition .one (taken separator body) none
    else .repetition .one body (some separator)
  | .repetition .one body (some inner) => .repetition .one body (some (taken separator inner))
  | e => e

section

variable {separator e : Expr}

theorem taken_plus {body : Expr} (own : body.hasFreeMark = false) :
    taken separator (.repetition .one body none) = .repetition .one body (some separator) :=
  if_neg (by simp [own])

theorem taken_doubled {body : Expr} (free : body.hasFreeMark = true) :
    taken separator (.repetition .one body none) = .repetition .one (taken separator body) none :=
  if_pos free

theorem lexemesAt_taken (free : e.hasFreeMark = true) :
    lexemesAt .marked (taken separator e) =
      lexemesAt .marked separator ++ [.dot] ++ lexemesAt .marked e := by
  induction e, free using freeMark_induct with
  | item e free ih => exact ih
  | option e default free ih => exact ih
  | star body free ih => simp [taken, lexemesAt, ih]
  | plus body own => simp [taken_plus own, lexemesAt]
  | doubled body free ih => simp [taken_doubled free, lexemesAt, ih]
  | separator body s free ih => simp [taken, lexemesAt, ih]

theorem isEmpty_taken (free : e.hasFreeMark = true) : (taken separator e).isEmpty = false := by
  induction e, free using freeMark_induct with
  | item e free ih => exact ih
  | option e default free ih => exact ih
  | star | separator => rfl
  | plus body own => rw [taken_plus own]; rfl
  | doubled body free => rw [taken_doubled free]; rfl

theorem legible_taken (free : e.hasFreeMark = true) (legible : separator.Legible)
    (legibleE : e.Legible) : (taken separator e).Legible := by
  induction e, free using freeMark_induct with
  | item e free ih => exact ih (legible_sequence.1 legibleE e (by simp))
  | option e default free ih => exact ih ((legible_choice.1 legibleE).2 e (by simp))
  | star body free ih =>
    obtain ⟨-, legibleBody, -⟩ := legible_repetition.1 legibleE
    exact legible_repetition.2 ⟨isEmpty_taken free, ih legibleBody, nofun⟩
  | plus body own =>
    obtain ⟨nonempty, legibleBody, -⟩ := legible_repetition.1 legibleE
    rw [taken_plus own]
    exact legible_repetition.2 ⟨nonempty, legibleBody, by simpa using legible⟩
  | doubled body free ih =>
    obtain ⟨-, legibleBody, -⟩ := legible_repetition.1 legibleE
    rw [taken_doubled free]
    exact legible_repetition.2 ⟨isEmpty_taken free, ih legibleBody, nofun⟩
  | separator body s free ih =>
    obtain ⟨nonempty, legibleBody, legibleS⟩ := legible_repetition.1 legibleE
    exact legible_repetition.2 ⟨nonempty, legibleBody, by simpa using ih (legibleS s rfl)⟩

theorem captureFree_taken (free : e.hasFreeMark = true) (captureFree : separator.CaptureFree)
    (captureFreeE : e.CaptureFree) : (taken separator e).CaptureFree := by
  induction e, free using freeMark_induct with
  | item e free ih => exact ih (captureFree_sequence.1 captureFreeE e (by simp))
  | option e default free ih => exact ih (captureFree_choice.1 captureFreeE e (by simp))
  | star body free ih => exact captureFree_repeated.2 (ih (captureFree_repeated.1 captureFreeE))
  | plus body own =>
    rw [taken_plus own]
    exact captureFree_separated.2 ⟨own, captureFree_repeated.1 captureFreeE, captureFree⟩
  | doubled body free ih =>
    rw [taken_doubled free]
    exact captureFree_repeated.2 (ih (captureFree_repeated.1 captureFreeE))
  | separator body s free ih =>
    obtain ⟨own, captureFreeBody, captureFreeS⟩ := captureFree_separated.1 captureFreeE
    exact captureFree_separated.2 ⟨own, captureFreeBody, ih captureFreeS⟩

end

/-- A repetition with a separator, grouped as its text is read. -/
def gathered (least : Least) (separator body : Expr) : Expr :=
  if body.hasFreeMark then
    match least with
    | .zero => .optional (.repetition .one (taken separator body) none)
    | .one => .repetition .one (taken separator body) none
  else .repetition least body (some separator)

section

variable {least : Least} {separator body : Expr}

theorem lexemesAt_gathered (place : Place) : lexemesAt place (gathered least separator body) =
    lexemesAt place (.repetition least body (some separator)) := by
  unfold gathered
  split
  · rename_i free
    cases least <;> simp [lexemesAt, lexemesAt_taken free]
  · rfl

theorem legible_gathered (nonempty : body.isEmpty = false) (legibleBody : body.Legible)
    (legible : separator.Legible) : (gathered least separator body).Legible := by
  unfold gathered
  split
  · rename_i free
    have repeated : Legible (.repetition .one (taken separator body) none) :=
      legible_repetition.2 ⟨isEmpty_taken free, legible_taken free legible legibleBody, nofun⟩
    cases least with
    | zero => exact legible_optional.2 repeated
    | one => exact repeated
  · exact legible_repetition.2 ⟨nonempty, legibleBody, by simpa using legible⟩

theorem isEmpty_gathered : (gathered least separator body).isEmpty = false := by
  unfold gathered
  split
  · cases least <;> rfl
  · rfl

theorem captureFree_gathered (captureFreeBody : body.CaptureFree)
    (captureFree : separator.CaptureFree) : (gathered least separator body).CaptureFree := by
  unfold gathered
  split
  · rename_i free
    have repeated : CaptureFree (.repetition .one (taken separator body) none) :=
      captureFree_repeated.2 (captureFree_taken free captureFree captureFreeBody)
    cases least with
    | zero => exact captureFree_optional.2 repeated
    | one => exact repeated
  · rename_i kept
    exact captureFree_separated.2 ⟨Bool.eq_false_iff.2 kept, captureFreeBody, captureFree⟩

end

mutual

/-- The expression grouped as its text is read. -/
def regrouped : Expr → Expr
  | .terminal t => .terminal t
  | .reference name => .reference name
  | .note text => .note text
  | .sequence items => .sequence (regroupedEach items)
  | .choice options default => .choice (regroupedEach options) default
  | .optional body => .optional (regrouped body)
  | .repetition least body none => .repetition least (regrouped body) none
  | .repetition least body (some separator) => gathered least (regrouped separator) (regrouped body)

def regroupedEach : List Expr → List Expr
  | [] => []
  | e :: rest => regrouped e :: regroupedEach rest

end

theorem regroupedEach_eq (es : List Expr) : regroupedEach es = es.map regrouped := by
  induction es with
  | nil => rfl
  | cons e rest ih => simp [regroupedEach, ih]

theorem regrouped_sequence (items : List Expr) :
    regrouped (.sequence items) = .sequence (items.map regrouped) := by
  rw [regrouped, regroupedEach_eq]

theorem regrouped_choice (options : List Expr) (default : Nat) :
    regrouped (.choice options default) = .choice (options.map regrouped) default := by
  rw [regrouped, regroupedEach_eq]

theorem lexemesAt_regrouped (place : Place) (e : Expr) :
    lexemesAt place e.regrouped = lexemesAt place e := by
  induction e using Expr.induct generalizing place with
  | terminal | reference | note => rfl
  | sequence items ih =>
    rw [regrouped_sequence]
    exact lexemesAt_sequence_map (fun e mem place => ih e mem place) place
  | choice options default ih =>
    rw [regrouped_choice]
    exact lexemesAt_choice_map (fun e mem place => ih e mem place) place
  | optional body ih => simp [regrouped, lexemesAt, ih]
  | repetition least body separator ih ihSeparator =>
    cases separator with
    | none => cases least <;> simp [regrouped, lexemesAt, ih]
    | some s =>
      rw [regrouped, lexemesAt_gathered]
      cases least <;> simp [lexemesAt, ih, ihSeparator s rfl]

theorem isEmpty_regrouped (e : Expr) : e.regrouped.isEmpty = e.isEmpty := by
  induction e using Expr.induct with
  | terminal | reference | note | choice | optional => rfl
  | sequence items ih =>
    rw [regrouped_sequence, isEmpty, isEmpty, allEmpty_eq, allEmpty_eq, List.all_map]
    exact Bool.eq_iff_iff.2 (by simp +contextual [List.all_eq_true, ih])
  | repetition least body separator =>
    cases separator with
    | none => rfl
    | some s => exact isEmpty_gathered

theorem legible_regrouped {e : Expr} (legible : e.Legible) : e.regrouped.Legible := by
  induction e using Expr.induct with
  | terminal | reference | note => exact legible
  | sequence items ih =>
    have parts := legible_sequence.1 legible
    rw [regrouped_sequence, legible_sequence, List.forall_mem_map]
    exact fun e mem => ih e mem (parts e mem)
  | choice options default ih =>
    obtain ⟨inRange, parts⟩ := legible_choice.1 legible
    rw [regrouped_choice, legible_choice, List.length_map, List.forall_mem_map]
    exact ⟨inRange, fun e mem => ih e mem (parts e mem)⟩
  | optional body ih => exact legible_optional.2 (ih (legible_optional.1 legible))
  | repetition least body separator ih ihSeparator =>
    obtain ⟨nonempty, legibleBody, legibleSeparator⟩ := legible_repetition.1 legible
    rw [← isEmpty_regrouped] at nonempty
    cases separator with
    | none => exact legible_repetition.2 ⟨nonempty, ih legibleBody, nofun⟩
    | some s =>
      exact legible_gathered nonempty (ih legibleBody) (ihSeparator s rfl (legibleSeparator s rfl))

theorem captureFree_regrouped (e : Expr) : e.regrouped.CaptureFree := by
  induction e using Expr.induct with
  | terminal | reference | note => simp [CaptureFree, Everywhere, regrouped, nodes, takesOwnMark]
  | sequence items ih =>
    rw [regrouped_sequence, captureFree_sequence, List.forall_mem_map]
    exact ih
  | choice options default ih =>
    rw [regrouped_choice, captureFree_choice, List.forall_mem_map]
    exact ih
  | optional body ih => exact captureFree_optional.2 ih
  | repetition least body separator ih ihSeparator =>
    cases separator with
    | none => exact captureFree_repeated.2 ih
    | some s => exact captureFree_gathered ih (ihSeparator s rfl)

theorem regrouped_eq_self {e : Expr} (captureFree : e.CaptureFree) : e.regrouped = e := by
  induction e using Expr.induct with
  | terminal | reference | note => rfl
  | sequence items ih =>
    have parts := captureFree_sequence.1 captureFree
    rw [regrouped_sequence, List.map_congr_left fun e mem => ih e mem (parts e mem), List.map_id']
  | choice options default ih =>
    have parts := captureFree_choice.1 captureFree
    rw [regrouped_choice, List.map_congr_left fun e mem => ih e mem (parts e mem), List.map_id']
  | optional body ih => rw [regrouped, ih (captureFree_optional.1 captureFree)]
  | repetition least body separator ih ihSeparator =>
    cases separator with
    | none => rw [regrouped, ih (captureFree_repeated.1 captureFree)]
    | some s =>
      obtain ⟨own, captureFreeBody, captureFreeS⟩ := captureFree_separated.1 captureFree
      rw [regrouped, ih captureFreeBody, ihSeparator s rfl captureFreeS]
      simp [gathered, own]

/-- Legible expressions have the same text when, grouped as it is read, they are the same up to
what no text shows. -/
theorem peg_eq_iff {a b : Expr} (legibleA : a.Legible) (legibleB : b.Legible) :
    a.peg = b.peg ↔ a.regrouped.core = b.regrouped.core := by
  constructor
  · intro same
    have lexemes := lexemes_eq_of_peg_eq legibleA.plain legibleB.plain same
    rw [← lexemesAt_regrouped, ← lexemesAt_regrouped _ b] at lexemes
    exact core_eq_of_lexemes_eq (legible_regrouped legibleA) (legible_regrouped legibleB)
      (captureFree_regrouped a) (captureFree_regrouped b) lexemes
  · intro same
    refine String.toList_injective ?_
    rw [peg, peg, (spells legibleA.plain .alone).chars, (spells legibleB.plain .alone).chars]
    rw [← lexemesAt_regrouped, ← lexemesAt_core, same, lexemesAt_core, lexemesAt_regrouped]

/-- Among legible expressions whose separators take no mark but their own, the text tells what the
expression is up to what no text shows. No other legible expression can join them: it shares its
text with one of them that is not the same. -/
theorem readable {a : Expr} (legible : a.Legible) :
    (a.CaptureFree → ∀ b : Expr, b.Legible → b.CaptureFree → (a.peg = b.peg ↔ a.core = b.core)) ∧
    (¬a.CaptureFree → ∃ b : Expr, b.Legible ∧ b.CaptureFree ∧ a.peg = b.peg ∧ a.core ≠ b.core) := by
  constructor
  · intro captureFreeA b legibleB captureFreeB
    rw [peg_eq_iff legible legibleB, regrouped_eq_self captureFreeA, regrouped_eq_self captureFreeB]
  · intro captured
    have free := captureFree_regrouped a
    refine ⟨a.regrouped, legible_regrouped legible, free, ?_, fun same => captured ?_⟩
    · rw [peg_eq_iff legible (legible_regrouped legible), regrouped_eq_self free]
    · rw [← captureFree_core, same, captureFree_core]
      exact free

/-- One or more runs of names, with commas between the runs. -/
def runs : Expr := .repetition .one (.repetition .one (.token "NAME") none) (some (.token ","))

/-- One or more lists of names with commas. -/
def lists : Expr := .repetition .one (.repetition .one (.token "NAME") (some (.token ","))) none

theorem readable_runs :
    (lists.Legible ∧ lists.CaptureFree ∧ ∀ b : Expr, b.Legible → b.CaptureFree →
      (lists.peg = b.peg ↔ lists.core = b.core)) ∧
    (runs.Legible ∧ ¬runs.CaptureFree ∧ ∃ b : Expr, b.Legible ∧ b.CaptureFree ∧
      runs.peg = b.peg ∧ runs.core ≠ b.core) :=
  ⟨⟨by decide, by decide, (readable (by decide)).1 (by decide)⟩,
    ⟨by decide, by decide, (readable (by decide)).2 (by decide)⟩⟩

/-- Both are written "','.NAME++". -/
theorem runs_written_as_lists :
    runs.Legible ∧ lists.Legible ∧ runs.peg = lists.peg ∧ runs.core ≠ lists.core :=
  ⟨by decide, by decide, by decide, by decide⟩

end Trackplan.Expr
