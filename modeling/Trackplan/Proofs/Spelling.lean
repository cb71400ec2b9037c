import Trackplan.Expr.Peg
import Trackplan.Proofs.Legible
import Trackplan.Proofs.Lexemes

/-! The text of an expression as a list of lexemes. Between any two words of the text stands a sign,
so a legible expression's text shows its lexemes. -/
namespace Trackplan

open Lexeme (Spaced written)

/-- A text with the lexemes that it is made of. -/
structure Spells (lexemes : List Lexeme) (text : String) : Prop where
  chars : text.toList = written lexemes
  proper : ∀ l ∈ lexemes, l.Proper
  spaced : Spaced lexemes

namespace Spells

variable {a b : List Lexeme} {s t : String} {l : Lexeme}

theorem unique (left : Spells a s) (right : Spells b s) : a = b :=
  Lexeme.eq_of_written_eq left.proper right.proper left.spaced right.spaced
    (left.chars.symm.trans right.chars)

theorem single (proper : l.Proper) (chars : s.toList = l.chars) : Spells [l] s where
  chars := by simpa [written] using chars
  proper := by simpa using proper
  spaced := List.isChain_singleton l

theorem nil : Spells [] "" := ⟨rfl, by simp, List.isChain_nil⟩

end Spells

/-- Signs with no text of their own, which keep apart the words on their two sides. -/
structure Signs (m : List Lexeme) (text : String) : Prop where
  chars : text.toList = written m
  signs : m.all Lexeme.isSign = true
  nonempty : m ≠ []

namespace Spells

variable {a b m : List Lexeme} {s t sign : String}

theorem between (left : Spells a s) (middle : Signs m sign) (right : Spells b t) :
    Spells (a ++ m ++ b) (s ++ sign ++ t) where
  chars := by simp [left.chars, middle.chars, right.chars, written]
  proper := by
    intro l mem
    rcases List.mem_append.1 mem with mem | mem
    · rcases List.mem_append.1 mem with mem | mem
      · exact left.proper l mem
      · exact Lexeme.proper_of_isSign (List.all_eq_true.1 middle.signs l mem)
    · exact right.proper l mem
  spaced := by
    have plain : ∀ l ∈ m, l.isWord = false := fun l mem =>
      Lexeme.not_isWord_of_isSign (List.all_eq_true.1 middle.signs l mem)
    have inner : Spaced m := (List.pairwise_of_forall_mem_list
      fun l mem k _ => by rw [plain l mem, Bool.false_and]).isChain
    refine (left.spaced.append inner ?_).append right.spaced ?_
    · intro x _ y head
      rw [plain y (List.mem_of_mem_head? head), Bool.and_false]
    · intro x last y _
      rw [List.getLast?_append_of_ne_nil a middle.nonempty] at last
      rw [plain x (List.mem_of_mem_getLast? last), Bool.false_and]

theorem after (right : Spells b t) (middle : Signs m sign) : Spells (m ++ b) (sign ++ t) := by
  simpa using nil.between middle right

theorem before (left : Spells a s) (middle : Signs m sign) : Spells (a ++ m) (s ++ sign) := by
  simpa using left.between middle nil

/-- Texts in a row with the same signs between any two. -/
theorem intercalate {α : Type} {f : α → List Lexeme} {g : α → String} (middle : Signs m sign)
    {es : List α} (spells : ∀ e ∈ es, Spells (f e) (g e)) :
    Spells (m.intercalate (es.map f)) (sign.intercalate (es.map g)) := by
  induction es with
  | nil => exact nil
  | cons e rest ih =>
    have first := spells e (by simp)
    cases rest with
    | nil => simpa using first
    | cons e' rest =>
      have others := ih fun e mem => spells e (List.mem_cons_of_mem _ mem)
      simpa [List.intercalate_cons_cons, String.intercalate_cons_cons] using
        first.between middle others

end Spells

def Terminal.lexeme (t : Terminal) : Lexeme :=
  match t.kind with
  | .token => .word t.text
  | .literal | .keyword => .quoted .single t.text
  | .softKeyword => .quoted .double t.text

namespace Expr

def enclosedIf (needed : Bool) (lexemes : List Lexeme) : List Lexeme :=
  if needed then .leftRound :: lexemes ++ [.rightRound] else lexemes

mutual

/-- The lexemes of the expression's text. -/
def lexemesAt (place : Place) : Expr → List Lexeme
  | .terminal t => [t.lexeme]
  | .reference name => [.word name]
  | .note text => [.note text]
  | .sequence [] => [.leftRound, .rightRound]
  | .sequence [e] => lexemesAt place e
  | .sequence (e :: f :: rest) =>
    enclosedIf place.bindsSequence
      ([.space].intercalate (lexemesAt .item e :: lexemesAt .item f :: lexemesEach .item rest))
  | .choice [e] _ => lexemesAt place e
  | .choice options _ =>
    enclosedIf place.bindsChoice ([.space, .bar, .space].intercalate (lexemesEach .option options))
  | .optional body => .leftSquare :: lexemesAt .alone body ++ [.rightSquare]
  | .repetition .zero body none => lexemesAt .marked body ++ [.star]
  | .repetition .one body none => lexemesAt .marked body ++ [.plus]
  | .repetition .zero body (some separator) =>
    .leftSquare :: lexemesAt .marked separator ++ [.dot] ++ lexemesAt .marked body ++
      [.plus, .rightSquare]
  | .repetition .one body (some separator) =>
    lexemesAt .marked separator ++ [.dot] ++ lexemesAt .marked body ++ [.plus]

def lexemesEach (place : Place) : List Expr → List (List Lexeme)
  | [] => []
  | e :: rest => lexemesAt place e :: lexemesEach place rest

end

theorem lexemesEach_eq (place : Place) (es : List Expr) :
    lexemesEach place es = es.map (lexemesAt place) := by
  induction es with
  | nil => rfl
  | cons e rest ih => simp [lexemesEach, ih]

theorem spells_enclosedIf {lexemes : List Lexeme} {text : String} (needed : Bool)
    (spells : Spells lexemes text) :
    Spells (enclosedIf needed lexemes) (parenthesized needed text) := by
  have left : Signs [.leftRound] "(" := ⟨rfl, rfl, nofun⟩
  have right : Signs [.rightRound] ")" := ⟨rfl, rfl, nofun⟩
  unfold enclosedIf parenthesized
  split
  · exact ((spells.after left).before right)
  · exact spells

theorem spells_each {place : Place} {es : List Expr} {m : List Lexeme} {sign : String}
    (middle : Signs m sign) (ih : ∀ e ∈ es, Spells (lexemesAt place e) (pegAt place e)) :
    Spells (m.intercalate (lexemesEach place es)) (sign.intercalate (pegEach place es)) := by
  rw [lexemesEach_eq, pegEach_eq]
  exact Spells.intercalate middle ih

theorem spells_terminal {t : Terminal} (plain : t.isPlain = true) :
    Spells [t.lexeme] t.written := by
  apply Spells.single
  · unfold Terminal.isPlain at plain
    unfold Terminal.lexeme
    split <;> simp_all [Lexeme.Proper, Quote.char, Terminal.Kind.fault?_of_token]
  · unfold Terminal.lexeme Terminal.written
    cases t.kind <;> simp [Lexeme.chars, Quote.char]

/-- The text of a plain expression is made of its lexemes. -/
theorem spells {e : Expr} (plain : e.Plain) (place : Place) :
    Spells (lexemesAt place e) (pegAt place e) := by
  have space : Signs [.space] " " := ⟨rfl, rfl, nofun⟩
  have bar : Signs [.space, .bar, .space] " | " := ⟨rfl, rfl, nofun⟩
  have dot : Signs [.dot] "." := ⟨rfl, rfl, nofun⟩
  have star : Signs [.star] "*" := ⟨rfl, rfl, nofun⟩
  have plus : Signs [.plus] "+" := ⟨rfl, rfl, nofun⟩
  have round : Signs [.leftRound, .rightRound] "()" := ⟨rfl, rfl, nofun⟩
  have left : Signs [.leftSquare] "[" := ⟨rfl, rfl, nofun⟩
  have right : Signs [.rightSquare] "]" := ⟨rfl, rfl, nofun⟩
  have plusRight : Signs [.plus, .rightSquare] "+]" := ⟨rfl, rfl, nofun⟩
  induction e using Expr.induct generalizing place with
  | terminal t => exact spells_terminal plain.root
  | reference name =>
    have proper := plain.root
    simp only [isPlainLeaf, Bool.and_eq_true, Option.isNone_iff_eq_none] at proper
    exact Spells.single proper.1 rfl
  | note text =>
    have closed := plain.root
    simp only [isPlainLeaf, Bool.not_eq_true'] at closed
    exact Spells.single closed (by simp [pegAt, Lexeme.chars])
  | sequence items ih =>
    have parts := fun e mem => ih e mem ((everywhere_sequence.1 plain).2 e mem)
    cases items with
    | nil => exact Spells.nil.before round
    | cons e rest =>
      cases rest with
      | nil => exact parts e (by simp) place
      | cons => exact spells_enclosedIf _ (spells_each space fun e mem => parts e mem .item)
  | choice options default ih =>
    have parts := fun e mem => ih e mem ((everywhere_choice.1 plain).2 e mem)
    cases options with
    | nil => exact spells_enclosedIf _ Spells.nil
    | cons e rest =>
      cases rest with
      | nil => exact parts e (by simp) place
      | cons => exact spells_enclosedIf _ (spells_each bar fun e mem => parts e mem .option)
  | optional body ih =>
    have inner := ih (everywhere_optional.1 plain).2 .alone
    exact (inner.after left).before right
  | repetition least body separator ih ihSeparator =>
    obtain ⟨-, plainBody, plainSeparator⟩ := everywhere_repetition.1 plain
    have inner := ih plainBody .marked
    cases separator with
    | none =>
      cases least with
      | zero => exact inner.before star
      | one => exact inner.before plus
    | some s =>
      have outer := ihSeparator s rfl (plainSeparator s rfl) .marked
      cases least with
      | zero => exact ((outer.after left).between dot inner).before plusRight
      | one => exact (outer.between dot inner).before plus

/-- Plain expressions of the same text have the same lexemes. -/
theorem lexemes_eq_of_peg_eq {a b : Expr} (plainA : a.Plain) (plainB : b.Plain)
    (same : a.peg = b.peg) : lexemesAt .alone a = lexemesAt .alone b := by
  have left : Spells (lexemesAt .alone a) b.peg := same ▸ spells plainA .alone
  exact left.unique (spells plainB .alone)

end Expr

end Trackplan
