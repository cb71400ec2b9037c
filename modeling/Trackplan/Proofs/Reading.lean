import Trackplan.Proofs.FreeMarks

/-! Reading an expression back from its lexemes. A one-or-more mark belongs to the last separator
before it that has none yet, so the text of a separated repetition is read right where no mark of
its body stands free. -/
namespace Trackplan

/-- What has been read since the last bracket that is still open, the latest first. -/
structure Level where
  options : List Expr
  items : List Expr
  separators : List Expr

namespace Level

def blank : Level := ⟨[], [], []⟩

def put (level : Level) (e : Expr) : Level := { level with items := e :: level.items }

/-- The alternatives so far, the one that is being read among them. -/
def alternatives (level : Level) : List Expr :=
  .ofItems level.items.reverse :: level.options

def whole (level : Level) : Expr := .ofOptions level.alternatives.reverse

def bar (level : Level) : Level := ⟨level.alternatives, [], []⟩

def dot : Level → Level
  | ⟨options, e :: items, separators⟩ => ⟨options, items, e :: separators⟩
  | level => level

def star : Level → Level
  | ⟨options, e :: items, separators⟩ =>
    ⟨options, .repetition .zero e none :: items, separators⟩
  | level => level

def plus : Level → Level
  | ⟨options, e :: items, []⟩ => ⟨options, .repetition .one e none :: items, []⟩
  | ⟨options, e :: items, separator :: separators⟩ =>
    ⟨options, .repetition .one e (some separator) :: items, separators⟩
  | level => level

end Level

namespace Expr

def ofWord (text : String) : Expr :=
  if Terminal.Kind.ofText text = .token then .terminal ⟨text, .token⟩ else .reference text

def ofQuoted (text : String) : Quote → Expr
  | .single => .terminal ⟨text, .literal⟩
  | .double => .terminal ⟨text, .softKeyword⟩

/-- Reading one lexeme, the innermost open bracket first. -/
def step : List Level → Lexeme → List Level
  | level :: outer, .word text => level.put (ofWord text) :: outer
  | level :: outer, .quoted quote text => level.put (ofQuoted text quote) :: outer
  | level :: outer, .note text => level.put (.note text) :: outer
  | levels, .leftRound | levels, .leftSquare => .blank :: levels
  | level :: around :: outer, .rightRound => around.put level.whole :: outer
  | level :: around :: outer, .rightSquare => around.put (.optional level.whole) :: outer
  | level :: outer, .bar => level.bar :: outer
  | level :: outer, .dot => level.dot :: outer
  | level :: outer, .star => level.star :: outer
  | level :: outer, .plus => level.plus :: outer
  | levels, _ => levels

def read (lexemes : List Lexeme) (levels : List Level) : List Level := lexemes.foldl step levels

theorem read_append (a b : List Lexeme) (levels : List Level) :
    read (a ++ b) levels = read b (read a levels) := List.foldl_append

/-- What reading the expression at its place comes to. An option is read where an alternative
begins, and an expression that stands alone is read where a bracket opens. -/
def ReadsAt (e : Expr) : Place → Prop
  | .alone => ∀ outer, ∃ level,
      read (lexemesAt .alone e) (.blank :: outer) = level :: outer ∧ level.whole = e.core
  | .option => ∀ options outer, ∃ level,
      read (lexemesAt .option e) (⟨options, [], []⟩ :: outer) = level :: outer ∧
        level.alternatives = e.core :: options
  | place => ∀ level outer, level.separators = [] ∨ e.hasFreeMark = false →
      read (lexemesAt place e) (level :: outer) = level.put e.core :: outer

section

variable {e : Expr} {place : Place}

/-- An expression that is written alike at all places is read alike. -/
theorem readsAt_of_marked (alike : ∀ place, lexemesAt place e = lexemesAt .marked e)
    (reads : ReadsAt e .marked) : ReadsAt e place := by
  cases place with
  | alone =>
    intro outer
    refine ⟨_, (congrArg (read · _) (alike .alone)).trans (reads .blank outer (.inl rfl)), rfl⟩
  | option =>
    intro options outer
    exact ⟨_, (congrArg (read · _) (alike .option)).trans
      (reads ⟨options, [], []⟩ outer (.inl rfl)), rfl⟩
  | item => exact fun level outer free => alike .item ▸ reads level outer free
  | marked => exact reads

/-- Between brackets an expression is read as it is alone. -/
theorem read_bracketed (reads : ReadsAt e .alone) (left right : Lexeme) (levels : List Level)
    (opens : step levels left = .blank :: levels) : ∃ inner : Level, inner.whole = e.core ∧
      read (left :: lexemesAt .alone e ++ [right]) levels = step (inner :: levels) right := by
  obtain ⟨inner, reading, whole⟩ := reads levels
  refine ⟨inner, whole, ?_⟩
  calc read (left :: lexemesAt .alone e ++ [right]) levels
      = read [right] (read (lexemesAt .alone e) (step levels left)) :=
        read_append (left :: lexemesAt .alone e) [right] levels
    _ = step (inner :: levels) right := by rw [opens, reading]; rfl

theorem read_enclosed (reads : ReadsAt e .alone) (level : Level) (outer : List Level) :
    read (enclosedIf true (lexemesAt .alone e)) (level :: outer) = level.put e.core :: outer := by
  obtain ⟨inner, whole, reading⟩ :=
    read_bracketed reads .leftRound .rightRound (level :: outer) rfl
  rw [← whole]
  exact reading

end

/-- Items are put on the level in order. -/
theorem read_items {items : List Expr} (ih : ∀ e ∈ items, ReadsAt e .item) (level : Level)
    (outer : List Level) (free : level.separators = []) :
    read ([.space].intercalate (lexemesEach .item items)) (level :: outer) =
      { level with items := items.reverse.map core ++ level.items } :: outer := by
  rw [lexemesEach_eq]
  induction items generalizing level with
  | nil => rfl
  | cons e rest ihRest =>
    have first := ih e (by simp) level outer (.inl free)
    cases rest with
    | nil => simpa [Level.put] using first
    | cons f rest =>
      have others := ihRest (fun e mem => ih e (List.mem_cons_of_mem _ mem)) (level.put e.core) free
      rw [List.map_cons, List.map_cons, List.intercalate_cons_cons, read_append, read_append, first]
      rw [List.map_cons] at others
      refine others.trans ?_
      simp [Level.put]

/-- Options become alternatives in order. -/
theorem read_options {e : Expr} {rest : List Expr} (ih : ∀ o ∈ e :: rest, ReadsAt o .option)
    (options : List Expr) (outer : List Level) : ∃ level,
      read ([.space, .bar, .space].intercalate (lexemesEach .option (e :: rest)))
          (⟨options, [], []⟩ :: outer) = level :: outer ∧
        level.alternatives = (e :: rest).reverse.map core ++ options := by
  rw [lexemesEach_eq]
  induction rest generalizing e options with
  | nil =>
    obtain ⟨level, reading, alternatives⟩ := ih e (by simp) options outer
    exact ⟨level, by simpa using reading, by simpa using alternatives⟩
  | cons f rest ihRest =>
    obtain ⟨first, reading, alternatives⟩ := ih e (by simp) options outer
    obtain ⟨last, others, all⟩ :=
      ihRest (fun o mem => ih o (List.mem_cons_of_mem _ mem)) first.alternatives
    refine ⟨last, ?_, ?_⟩
    · rw [List.map_cons, List.map_cons, List.intercalate_cons_cons, read_append, read_append,
        reading]
      exact others
    · rw [all, alternatives]; simp

theorem readsAt_sequence {items : List Expr} (ih : ∀ e ∈ items, ∀ place, ReadsAt e place)
    (place : Place) : ReadsAt (.sequence items) place := by
  match items with
  | [] => exact readsAt_of_marked (fun _ => rfl) fun level outer _ => rfl
  | [e] =>
    have only := ih e (by simp) place
    cases place <;> exact only
  | e :: f :: rest =>
    have option : ReadsAt (.sequence (e :: f :: rest)) .option := by
      intro options outer
      refine ⟨_, read_items (fun e mem => ih e mem .item) ⟨options, [], []⟩ outer rfl, ?_⟩
      rw [core_sequence]
      simp [Level.alternatives, List.map_reverse]
    have alone : ReadsAt (.sequence (e :: f :: rest)) .alone := by
      intro outer
      obtain ⟨level, reading, alternatives⟩ := option [] outer
      exact ⟨level, reading, by rw [Level.whole, alternatives]; rfl⟩
    cases place with
    | alone => exact alone
    | option => exact option
    | item => exact fun level outer _ => read_enclosed alone level outer
    | marked => exact fun level outer _ => read_enclosed alone level outer

theorem readsAt_choice {options : List Expr} {default : Nat}
    (ih : ∀ e ∈ options, ∀ place, ReadsAt e place) (nonempty : options ≠ []) (place : Place) :
    ReadsAt (.choice options default) place := by
  match options with
  | [] => exact absurd rfl nonempty
  | [e] =>
    have only := ih e (by simp) place
    cases place <;> exact only
  | e :: f :: rest =>
    have alone : ReadsAt (.choice (e :: f :: rest) default) .alone := by
      intro outer
      obtain ⟨level, reading, alternatives⟩ := read_options (fun e mem => ih e mem .option) [] outer
      refine ⟨level, reading, ?_⟩
      rw [core_choice, Level.whole, alternatives]
      simp [List.map_reverse]
    have enclosed := read_enclosed alone
    cases place with
    | alone => exact alone
    | option => exact fun options outer => ⟨_, enclosed ⟨options, [], []⟩ outer, rfl⟩
    | item => exact fun level outer _ => enclosed level outer
    | marked => exact fun level outer _ => enclosed level outer

theorem readsAt_optional {body : Expr} (ih : ReadsAt body .alone) (place : Place) :
    ReadsAt (.optional body) place := by
  refine readsAt_of_marked (fun _ => rfl) fun level outer _ => ?_
  obtain ⟨inner, whole, reading⟩ :=
    read_bracketed ih .leftSquare .rightSquare (level :: outer) rfl
  rw [core, ← whole]
  exact reading

/-- The mark after a body closes no separator where none waits. -/
theorem readsAt_repeated {least : Least} {body : Expr} (ih : ReadsAt body .marked) (place : Place) :
    ReadsAt (.repetition least body none) place := by
  cases least with
  | zero =>
    refine readsAt_of_marked (fun _ => rfl) fun level outer free => ?_
    calc read (lexemesAt .marked body ++ [.star]) (level :: outer)
        = read [.star] (read (lexemesAt .marked body) (level :: outer)) := read_append _ _ _
      _ = read [.star] (level.put body.core :: outer) := by rw [ih level outer free]
      _ = level.put (.repetition .zero body.core none) :: outer := rfl
  | one =>
    refine readsAt_of_marked (fun _ => rfl) fun level outer free => ?_
    -- A separator that waits would take this mark.
    have none_wait : level.separators = [] := free.resolve_right (by simp [hasFreeMark])
    obtain ⟨options, items, separators⟩ := level
    cases none_wait
    calc read (lexemesAt .marked body ++ [.plus]) (⟨options, items, []⟩ :: outer)
        = read [.plus] (read (lexemesAt .marked body) (⟨options, items, []⟩ :: outer)) :=
          read_append _ _ _
      _ = read [.plus] (Level.put ⟨options, items, []⟩ body.core :: outer) := by
          rw [ih _ outer (.inl rfl)]
      _ = Level.put ⟨options, items, []⟩ (.repetition .one body.core none) :: outer := rfl

/-- The body's mark closes the separator, since no mark of the body does. -/
theorem read_gathered {body separator : Expr} (ih : ReadsAt body .marked)
    (ihSeparator : ReadsAt separator .marked) (own : body.hasFreeMark = false) (level : Level)
    (outer : List Level) (free : level.separators = [] ∨ separator.hasFreeMark = false) :
    read (lexemesAt .marked separator ++ [.dot] ++ lexemesAt .marked body ++ [.plus])
        (level :: outer) =
      level.put (.repetition .one body.core (some separator.core)) :: outer := by
  obtain ⟨options, items, separators⟩ := level
  rw [read_append, read_append, read_append, ihSeparator _ outer free]
  calc read [.plus] (read (lexemesAt .marked body)
          (⟨options, items, separator.core :: separators⟩ :: outer))
      = read [.plus] (⟨options, body.core :: items, separator.core :: separators⟩ :: outer) := by
        rw [ih _ outer (.inr own)]; rfl
    _ = ⟨options, .repetition .one body.core (some separator.core) :: items, separators⟩ :: outer :=
        rfl

theorem ReadsAt.alike {e f : Expr} {place : Place} (reads : ReadsAt f place)
    (lexemes : lexemesAt place e = lexemesAt place f) (mark : e.hasFreeMark = f.hasFreeMark)
    (same : e.core = f.core) : ReadsAt e place := by
  cases place <;> simpa only [ReadsAt, lexemes, mark, same] using reads

theorem readsAt_separated {least : Least} {body separator : Expr} (ih : ReadsAt body .marked)
    (ihSeparator : ReadsAt separator .marked) (own : body.hasFreeMark = false) (place : Place) :
    ReadsAt (.repetition least body (some separator)) place := by
  have gathered : ∀ place, ReadsAt (.repetition .one body (some separator)) place := fun place =>
    readsAt_of_marked (fun _ => rfl) fun level outer free =>
      read_gathered ih ihSeparator own level outer free
  cases least with
  | zero =>
    refine (readsAt_optional (gathered .alone) place).alike ?_ rfl rfl
    simp [lexemesAt]
  | one => exact gathered place

theorem readsAt_terminal {t : Terminal} (plain : t.isPlain = true) (place : Place) :
    ReadsAt (.terminal t) place := by
  refine readsAt_of_marked (fun _ => rfl) fun level outer _ => ?_
  obtain ⟨text, kind⟩ := t
  cases kind with
  | token =>
    have token : Terminal.Kind.ofText text = .token := by simpa [Terminal.isPlain] using plain
    change level.put (ofWord text) :: outer = _
    rw [ofWord, if_pos token]
    rfl
  | literal | keyword | softKeyword => rfl

theorem readsAt_reference {name : String} (small : name.toList.any Char.isLower = true)
    (place : Place) : ReadsAt (.reference name) place := by
  refine readsAt_of_marked (fun _ => rfl) fun level outer _ => ?_
  change level.put (ofWord name) :: outer = _
  rw [ofWord, if_neg (Terminal.Kind.ofText_ne_token small)]
  rfl

/-- A legible expression whose separators take no mark but their own is read back. -/
theorem readsAt {e : Expr} (legible : e.Legible) (free : e.CaptureFree) (place : Place) :
    ReadsAt e place := by
  induction e using Expr.induct generalizing place with
  | terminal t => exact readsAt_terminal legible.plain.root place
  | reference name =>
    have proper := legible.plain.root
    rw [isPlainLeaf, Bool.and_eq_true] at proper
    exact readsAt_reference proper.2 place
  | note text => exact readsAt_of_marked (fun _ => rfl) fun level outer _ => rfl
  | sequence items ih =>
    have parts := legible_sequence.1 legible
    have freeParts := captureFree_sequence.1 free
    exact readsAt_sequence (fun e mem => ih e mem (parts e mem) (freeParts e mem)) place
  | choice options default ih =>
    obtain ⟨inRange, parts⟩ := legible_choice.1 legible
    have freeParts := captureFree_choice.1 free
    have nonempty : options ≠ [] := List.ne_nil_of_length_pos (Nat.zero_lt_of_lt inRange)
    exact readsAt_choice (fun e mem => ih e mem (parts e mem) (freeParts e mem)) nonempty place
  | optional body ih =>
    exact readsAt_optional
      (ih (legible_optional.1 legible) (captureFree_optional.1 free) .alone) place
  | repetition least body separator ih ihSeparator =>
    obtain ⟨-, legibleBody, legibleSeparator⟩ := legible_repetition.1 legible
    cases separator with
    | none => exact readsAt_repeated (ih legibleBody (captureFree_repeated.1 free) .marked) place
    | some s =>
      obtain ⟨own, freeBody, freeSeparator⟩ := captureFree_separated.1 free
      have inner := ih legibleBody freeBody .marked
      have outer := ihSeparator s rfl (legibleSeparator s rfl) freeSeparator .marked
      exact readsAt_separated inner outer own place

/-- Of the legible expressions that are read back, those with the same lexemes are the same up to
what no text shows. -/
theorem core_eq_of_lexemes_eq {a b : Expr} (legibleA : a.Legible) (legibleB : b.Legible)
    (freeA : a.CaptureFree) (freeB : b.CaptureFree)
    (same : lexemesAt .alone a = lexemesAt .alone b) : a.core = b.core := by
  obtain ⟨levelA, readingA, wholeA⟩ := readsAt legibleA freeA .alone []
  obtain ⟨levelB, readingB, wholeB⟩ := readsAt legibleB freeB .alone []
  rw [same, readingB, List.cons.injEq] at readingA
  rw [← wholeA, ← wholeB, readingA.1]

end Expr

end Trackplan
