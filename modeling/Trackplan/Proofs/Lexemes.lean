import Mathlib.Data.List.Chain
import Trackplan.Name
import Trackplan.Text.Occurrence

/-! The lexemes of grammar source. A text falls into its lexemes in one way only, as long as no two
words meet, no quoted text holds its quote and no note closes itself. -/
namespace Trackplan

inductive Quote
  | single | double
  deriving DecidableEq, Repr

def Quote.char : Quote → Char
  | .single => '\''
  | .double => '"'

inductive Lexeme
  | word (text : String)
  | quoted (quote : Quote) (text : String)
  | note (text : String)
  | leftRound | rightRound | leftSquare | rightSquare
  | space | bar | dot | star | plus
  deriving DecidableEq, Repr

namespace Lexeme

def chars : Lexeme → List Char
  | .word text => text.toList
  | .quoted quote text => quote.char :: (text.toList ++ [quote.char])
  | .note text => '/' :: '*' :: ' ' :: (text.toList ++ [' ', '*', '/'])
  | .leftRound => ['(']
  | .rightRound => [')']
  | .leftSquare => ['[']
  | .rightSquare => [']']
  | .space => [' ']
  | .bar => ['|']
  | .dot => ['.']
  | .star => ['*']
  | .plus => ['+']

def isWord : Lexeme → Bool
  | .word _ => true
  | _ => false

/-- The lexeme is always written the same. -/
def isSign : Lexeme → Bool
  | .word _ | .quoted .. | .note _ => false
  | _ => true

/-- The lexeme can be told from what follows it. -/
def Proper : Lexeme → Prop
  | .word text => Name.fault? text = none
  | .quoted quote text => quote.char ∉ text.toList
  | .note text => Text.occursIn ['*', '/'] text.toList = false
  | _ => True

theorem not_isWord_of_isSign {l : Lexeme} (sign : l.isSign = true) : l.isWord = false := by
  cases l <;> simp_all [isSign, isWord]

theorem proper_of_isSign {l : Lexeme} (sign : l.isSign = true) : l.Proper := by
  cases l <;> simp_all [isSign, Proper]

def written (lexemes : List Lexeme) : List Char := lexemes.flatMap chars

def Spaced (lexemes : List Lexeme) : Prop :=
  lexemes.IsChain fun l m => (l.isWord && m.isWord) = false

/-- A note's text and what follows the note, from where its text begins. -/
def splitNote : List Char → List Char × List Char
  | [] => ([], [])
  | ' ' :: '*' :: '/' :: rest => ([], rest)
  | c :: rest => (c :: (splitNote rest).1, (splitNote rest).2)

def splitQuoted (quote : Quote) (cs : List Char) : Lexeme × List Char :=
  (.quoted quote (.ofList (cs.takeWhile (· ≠ quote.char))), (cs.dropWhile (· ≠ quote.char)).tail)

/-- The lexeme that begins with a character outside words. -/
def nextSign (rest : List Char) : Char → Option (Lexeme × List Char)
  | '\'' => some (splitQuoted .single rest)
  | '"' => some (splitQuoted .double rest)
  | '/' => some (.note (.ofList (splitNote (rest.drop 2)).1), (splitNote (rest.drop 2)).2)
  | '(' => some (.leftRound, rest)
  | ')' => some (.rightRound, rest)
  | '[' => some (.leftSquare, rest)
  | ']' => some (.rightSquare, rest)
  | ' ' => some (.space, rest)
  | '|' => some (.bar, rest)
  | '.' => some (.dot, rest)
  | '*' => some (.star, rest)
  | '+' => some (.plus, rest)
  | _ => none

/-- The first lexeme of a text and what follows it. -/
def next : List Char → Option (Lexeme × List Char)
  | [] => none
  | c :: rest =>
    if Name.allows c then
      some (.word (.ofList ((c :: rest).takeWhile Name.allows)), (c :: rest).dropWhile Name.allows)
    else nextSign rest c

theorem splitNote_append {text : List Char} (unclosed : Text.occursIn ['*', '/'] text = false)
    (rest : List Char) : splitNote (text ++ ' ' :: '*' :: '/' :: rest) = (text, rest) := by
  induction text with
  | nil => rfl
  | cons c text ih =>
    simp only [Text.occursIn, Bool.or_eq_false_iff] at unclosed
    -- The text may end in a star, but the blank before the closing star keeps it from closing.
    have inside : ∀ tail, text ++ ' ' :: '*' :: '/' :: rest ≠ '*' :: '/' :: tail := by
      intro tail closes
      cases text with
      | nil => simp at closes
      | cons d text =>
        cases text with
        | nil => simp at closes
        | cons e text =>
          simp only [List.cons_append, List.cons.injEq] at closes
          obtain ⟨rfl, rfl, -⟩ := closes
          simp [Text.occursIn] at unclosed
    rw [List.cons_append, splitNote, ih unclosed.2]
    rintro tail rfl closes
    exact inside tail closes

theorem split_while {p : Char → Bool} {body rest : List Char} (inside : ∀ c ∈ body, p c = true)
    (stops : ∀ c ∈ rest.head?, p c = false) :
    (body ++ rest).takeWhile p = body ∧ (body ++ rest).dropWhile p = rest := by
  rw [List.takeWhile_append_of_pos inside, List.dropWhile_append_of_pos inside]
  cases rest with
  | nil => simp
  | cons c rest => simp [stops c rfl]

theorem splitQuoted_append {quote : Quote} {text : String} (closed : quote.char ∉ text.toList)
    (rest : List Char) :
    splitQuoted quote (text.toList ++ quote.char :: rest) = (.quoted quote text, rest) := by
  have inside : ∀ c ∈ text.toList, decide (c ≠ quote.char) = true := by
    intro c mem
    exact decide_eq_true fun same => closed (same ▸ mem)
  have stops : ∀ c ∈ (quote.char :: rest).head?, decide (c ≠ quote.char) = false := by simp
  have split := split_while inside stops
  rw [splitQuoted, split.1, split.2, String.ofList_toList, List.tail_cons]

/-- Words and only words begin with a character of words. -/
theorem chars_eq_cons {l : Lexeme} (proper : l.Proper) :
    ∃ c rest, l.chars = c :: rest ∧ Name.allows c = l.isWord := by
  cases l with
  | word text =>
    obtain ⟨nonempty, allowed⟩ := Name.fault?_eq_none.1 proper
    cases chars : text.toList with
    | nil => exact absurd (String.toList_injective chars) nonempty
    | cons c rest => exact ⟨c, rest, chars, allowed c (by simp [chars])⟩
  | quoted quote text => exact ⟨quote.char, _, rfl, by cases quote <;> rfl⟩
  | note text => exact ⟨'/', _, rfl, rfl⟩
  | _ => exact ⟨_, _, rfl, rfl⟩

theorem next_chars {l : Lexeme} (proper : l.Proper) {rest : List Char}
    (stops : l.isWord = true → ∀ c ∈ rest.head?, Name.allows c = false) :
    next (l.chars ++ rest) = some (l, rest) := by
  cases l with
  | word text =>
    obtain ⟨c, tail, chars, first⟩ := chars_eq_cons proper
    have split := split_while (Name.fault?_eq_none.1 proper).2 (stops rfl)
    rw [Lexeme.chars] at chars ⊢
    rw [chars, List.cons_append] at split ⊢
    have allowed : Name.allows c = true := first
    rw [next, if_pos allowed, split.1, split.2, ← chars, String.ofList_toList]
  | quoted quote text =>
    have split := splitQuoted_append proper rest
    rw [Lexeme.chars, List.cons_append, List.append_assoc, List.singleton_append]
    cases quote <;> exact congrArg some split
  | note text =>
    have split := splitNote_append proper rest
    have found : next ('/' :: '*' :: ' ' :: (text.toList ++ ' ' :: '*' :: '/' :: rest)) =
        some (.note (.ofList (splitNote (text.toList ++ ' ' :: '*' :: '/' :: rest)).1),
          (splitNote (text.toList ++ ' ' :: '*' :: '/' :: rest)).2) := rfl
    rw [split, String.ofList_toList] at found
    simpa [Lexeme.chars] using found
  | _ => rfl

theorem next_written {l : Lexeme} {rest : List Lexeme} (proper : ∀ m ∈ l :: rest, m.Proper)
    (spaced : Spaced (l :: rest)) : next (written (l :: rest)) = some (l, written rest) := by
  apply next_chars (proper l (by simp))
  intro word
  change ∀ c ∈ (written rest).head?, Name.allows c = false
  cases rest with
  | nil => simp [written]
  | cons m rest =>
    obtain ⟨c, tail, chars, first⟩ := chars_eq_cons (proper m (by simp))
    have apart := (List.isChain_cons_cons.1 spaced).1
    rw [word, Bool.true_and] at apart
    simp [written, chars, first, apart]

/-- A text falls into its lexemes in one way only. -/
theorem eq_of_written_eq {a b : List Lexeme} (properA : ∀ l ∈ a, l.Proper)
    (properB : ∀ l ∈ b, l.Proper) (spacedA : Spaced a) (spacedB : Spaced b)
    (same : written a = written b) : a = b := by
  induction a generalizing b with
  | nil =>
    cases b with
    | nil => rfl
    | cons m b =>
      have found := next_written properB spacedB
      rw [← same] at found
      cases found
  | cons l a ih =>
    have foundA := next_written properA spacedA
    cases b with
    | nil => rw [same] at foundA; cases foundA
    | cons m b =>
      rw [same, next_written properB spacedB] at foundA
      simp only [Option.some.injEq, Prod.mk.injEq] at foundA
      obtain ⟨rfl, rests⟩ := foundA
      have tails := ih (b := b) (fun k mem => properA k (by simp [mem]))
        (fun k mem => properB k (by simp [mem])) spacedA.tail spacedB.tail rests.symm
      rw [tails]

end Lexeme

end Trackplan
