import Mathlib.Data.List.Infix
import Trackplan.Search.ByText

/-! Whether a name that contains a text as it stands also contains it with case ignored. Lower case
of a part is not always part of the lower case of the whole: a capital sigma takes another form at
the end of a word, and where the word ends may only be seen outside the part. -/
namespace Trackplan.Text

open Unicode

/-- Whether the first character that is not ignored is a cased one, if there is such a character. -/
def firstCased? (text : List Char) : Option Bool :=
  (text.find? fun c => !isCaseIgnorable c).map isCased

theorem firstCased?_append (text more : List Char) :
    firstCased? (text ++ more) = (firstCased? text).or (firstCased? more) := by
  rw [firstCased?, List.find?_append, Option.map_or]
  rfl

theorem meetsCased_eq (text : List Char) : meetsCased text = (firstCased? text).getD false := by
  induction text with
  | nil => rfl
  | cons c rest ih =>
    by_cases ignored : isCaseIgnorable c = true
    · rw [meetsCased, if_pos ignored, ih, firstCased?, firstCased?,
        List.find?_cons_of_neg (by simp [ignored])]
    · rw [meetsCased, if_neg ignored, firstCased?, List.find?_cons_of_pos (by simpa using ignored)]
      rfl

/-- The form of a capital sigma can be told from the text before it, read backwards, and the text
after it, whatever surrounds the two. -/
def SigmaSettled (before after : List Char) : Prop :=
  firstCased? before = some false ∨ firstCased? after = some true ∨
    firstCased? before = some true ∧ firstCased? after = some false

instance (before after : List Char) : Decidable (SigmaSettled before after) :=
  inferInstanceAs (Decidable (_ ∨ _ ∨ _))

theorem loweredSigma_of_settled {before after : List Char} (settled : SigmaSettled before after)
    (further beyond : List Char) :
    loweredSigma (before ++ further) (after ++ beyond) = loweredSigma before after := by
  simp only [loweredSigma, meetsCased_eq, firstCased?_append]
  rcases settled with none | some | ⟨left, right⟩
  · simp [none]
  · simp [some]
  · simp [left, right]

/-- All sigmas of a text are settled, given the text before it, read backwards. -/
def SettledFrom (before : List Char) : List Char → Prop
  | [] => True
  | c :: after => (c = 'Σ' → SigmaSettled before after) ∧ SettledFrom (c :: before) after

instance decidableSettledFrom : ∀ before text, Decidable (SettledFrom before text)
  | _, [] => .isTrue trivial
  | before, c :: after =>
    have := decidableSettledFrom (c :: before) after
    inferInstanceAs (Decidable ((c = 'Σ' → SigmaSettled before after) ∧ _))

/-- Each capital sigma of the text has one lower case, wherever the text stands. -/
def Settled (text : List Char) : Prop := SettledFrom [] text

instance (text : List Char) : Decidable (Settled text) :=
  inferInstanceAs (Decidable (SettledFrom [] text))

/-- Lower case of a text between the text before it, read backwards, and the text after it. -/
def loweredWithin (before : List Char) : List Char → List Char → List Char
  | [], _ => []
  | c :: rest, after =>
    (if c = 'Σ' then [loweredSigma before (rest ++ after)] else loweredAlone c) ++
      loweredWithin (c :: before) rest after

theorem loweredFrom_append (before text after : List Char) :
    loweredFrom before (text ++ after) =
      loweredWithin before text after ++ loweredFrom (text.reverse ++ before) after := by
  induction text generalizing before with
  | nil => rfl
  | cons c rest ih =>
    rw [List.cons_append, loweredFrom, ih, loweredWithin, List.append_assoc, List.reverse_cons,
      List.append_assoc]
    rfl

theorem loweredFrom_eq_within (before text : List Char) :
    loweredFrom before text = loweredWithin before text [] := by
  have all := loweredFrom_append before text []
  rwa [List.append_nil, loweredFrom, List.append_nil] at all

theorem loweredWithin_append (before first second after : List Char) :
    loweredWithin before (first ++ second) after = loweredWithin before first (second ++ after) ++
      loweredWithin (first.reverse ++ before) second after := by
  induction first generalizing before with
  | nil => rfl
  | cons c rest ih =>
    rw [List.cons_append, loweredWithin, ih, loweredWithin, List.append_assoc, List.append_assoc,
      List.reverse_cons, List.append_assoc]
    rfl

/-- What surrounds a text does not change how long its lower case is. -/
theorem length_loweredWithin (before before' text after after' : List Char) :
    (loweredWithin before text after).length = (loweredWithin before' text after').length := by
  induction text generalizing before before' with
  | nil => rfl
  | cons c rest ih =>
    rw [loweredWithin, loweredWithin, List.length_append, List.length_append,
      ih (c :: before) (c :: before')]
    split <;> rfl

theorem loweredWithin_of_settled {before text : List Char} (settled : SettledFrom before text)
    (further after : List Char) :
    loweredWithin (before ++ further) text after = loweredFrom before text := by
  induction text generalizing before with
  | nil => rfl
  | cons c rest ih =>
    obtain ⟨here, later⟩ := settled
    have tail := ih later
    rw [List.cons_append] at tail
    rw [loweredWithin, loweredFrom, tail]
    split
    · rename_i sigma
      rw [loweredSigma_of_settled (here sigma)]
    · rfl

/-- The lower case of a settled part is part of the lower case of the whole. -/
theorem lowered_isInfix {needle hay : List Char} (settled : Settled needle)
    (inside : needle <:+: hay) : lowered needle <:+: lowered hay := by
  obtain ⟨before, after, rfl⟩ := inside
  have kept : loweredWithin ([] ++ before.reverse) needle after = lowered needle :=
    loweredWithin_of_settled settled before.reverse after
  rw [List.nil_append] at kept
  refine ⟨loweredWithin [] before (needle ++ after),
    loweredFrom (needle.reverse ++ before.reverse) after, ?_⟩
  symm
  calc lowered (before ++ needle ++ after)
      = loweredWithin [] before (needle ++ after) ++
          loweredFrom before.reverse (needle ++ after) := by
        rw [lowered, List.append_assoc, loweredFrom_append, List.append_nil]
    _ = loweredWithin [] before (needle ++ after) ++ lowered needle ++
          loweredFrom (needle.reverse ++ before.reverse) after := by
        rw [loweredFrom_append, kept, List.append_assoc]

theorem exists_unsettled {before text : List Char} (unsettled : ¬ SettledFrom before text) :
    ∃ first rest, text = first ++ 'Σ' :: rest ∧ ¬ SigmaSettled (first.reverse ++ before) rest := by
  induction text generalizing before with
  | nil => exact absurd trivial unsettled
  | cons c after ih =>
    by_cases later : SettledFrom (c :: before) after
    · have here : ¬ (c = 'Σ' → SigmaSettled before after) := fun h => unsettled ⟨h, later⟩
      obtain ⟨rfl, untold⟩ := Classical.not_imp.1 here
      exact ⟨[], after, rfl, untold⟩
    · obtain ⟨first, rest, rfl, untold⟩ := ih later
      refine ⟨c :: first, rest, rfl, ?_⟩
      rwa [List.reverse_cons, List.append_assoc]

/-- A sigma that takes another form makes another text. -/
theorem loweredWithin_ne {before first rest after : List Char}
    (differs : loweredSigma (first.reverse ++ before) (rest ++ after) ≠
      loweredSigma first.reverse rest) :
    loweredWithin before (first ++ 'Σ' :: rest) after ≠ lowered (first ++ 'Σ' :: rest) := by
  intro same
  rw [lowered, loweredFrom_eq_within, loweredWithin_append, loweredWithin_append] at same
  have tails := List.append_inj_right same (length_loweredWithin ..)
  simp only [loweredWithin, if_pos, List.cons_append, List.nil_append, List.append_nil] at tails
  exact differs (List.head_eq_of_cons_eq tails)

/-- A small letter of the kind that words are made of. -/
structure Joining (c : Char) : Prop where
  cased : firstCased? [c] = some true
  ne_sigma : c ≠ 'Σ'
  low : loweredAlone c = [c]

theorem exists_joining (known : Option Char) : ∃ c, Joining c ∧ known ≠ some c := by
  by_cases first : known = some 'a'
  · exact ⟨'b', ⟨by decide, by decide, by decide⟩, by rw [first]; decide⟩
  · exact ⟨'a', ⟨by decide, by decide, by decide⟩, first⟩

theorem open_before_or_after {before after : List Char} (untold : ¬ SigmaSettled before after) :
    firstCased? before = none ∧ firstCased? after ≠ some true ∨
      firstCased? before = some true ∧ firstCased? after = none := by
  rw [SigmaSettled, not_or, not_or] at untold
  obtain ⟨start, stop, both⟩ := untold
  cases left : firstCased? before with
  | none => exact .inl ⟨rfl, stop⟩
  | some cased =>
    have here : cased = true := by
      cases cased with
      | false => exact absurd left start
      | true => rfl
    subst here
    cases right : firstCased? after with
    | none => exact .inr ⟨rfl, rfl⟩
    | some cased =>
      cases cased with
      | false => exact absurd ⟨left, right⟩ both
      | true => exact absurd right stop

/-- The sigma is not final on its own, and is final after a letter. -/
theorem Joining.final_after {c : Char} (joining : Joining c) {before after : List Char}
    (start : firstCased? before = none) (stop : firstCased? after ≠ some true) :
    loweredSigma (before ++ [c]) after ≠ loweredSigma before after := by
  have ends : (firstCased? after).getD false = false := by
    cases right : firstCased? after with
    | none => rfl
    | some cased =>
      cases cased with
      | false => rfl
      | true => exact absurd right stop
  simp [loweredSigma, meetsCased_eq, firstCased?_append, start, joining.cased, ends]

/-- The sigma is final on its own, and is not final before a letter. -/
theorem Joining.not_final_before {c : Char} (joining : Joining c) {before after : List Char}
    (start : firstCased? before = some true) (stop : firstCased? after = none) :
    loweredSigma before (after ++ [c]) ≠ loweredSigma before after := by
  simp [loweredSigma, meetsCased_eq, firstCased?_append, start, stop, joining.cased]

theorem Joining.loweredFrom_cons {c : Char} (joining : Joining c) (before rest : List Char) :
    loweredFrom before (c :: rest) = c :: loweredFrom (c :: before) rest := by
  rw [loweredFrom, if_neg joining.ne_sigma, joining.low]
  rfl

theorem Joining.lowered_cons {c : Char} (joining : Joining c) (text : List Char) :
    lowered (c :: text) = c :: loweredWithin [c] text [] := by
  rw [lowered, joining.loweredFrom_cons, loweredFrom_eq_within]

theorem Joining.lowered_concat {c : Char} (joining : Joining c) (text : List Char) :
    lowered (text ++ [c]) = loweredWithin [] text [c] ++ [c] := by
  rw [lowered, loweredFrom_append, joining.loweredFrom_cons]
  rfl

section

variable {α : Type} {a : α} {as bs : List α}

theorem not_infix_cons (long : as.length = bs.length) (differs : bs ≠ as)
    (start : as.head? ≠ some a) : ¬ as <:+: a :: bs := by
  intro inside
  rcases List.infix_cons_iff.1 inside with front | inside
  · cases as with
    | nil => exact differs (List.length_eq_zero_iff.1 long.symm)
    | cons b as => exact start (congrArg some (List.cons_prefix_cons.1 front).1)
  · exact differs (inside.eq_of_length long).symm

theorem not_infix_concat (long : as.length = bs.length) (differs : bs ≠ as)
    (stop : as.getLast? ≠ some a) : ¬ as <:+: bs ++ [a] := by
  rw [← List.reverse_infix, List.reverse_concat]
  apply not_infix_cons
  · rw [List.length_reverse, List.length_reverse, long]
  · exact fun same => differs (List.reverse_injective same)
  · rwa [List.head?_reverse]

end

/-- Where a sigma is not settled, one letter before the text or after it makes another text of it. -/
theorem exists_lost {text : List Char} (unsettled : ¬ Settled text) :
    ∃ hay, text <:+: hay ∧ ¬ lowered text <:+: lowered hay := by
  obtain ⟨first, rest, rfl, untold⟩ := exists_unsettled unsettled
  rw [List.append_nil] at untold
  have long : ∀ before after, (lowered (first ++ 'Σ' :: rest)).length =
      (loweredWithin before (first ++ 'Σ' :: rest) after).length := by
    intro before after
    rw [lowered, loweredFrom_eq_within]
    exact length_loweredWithin ..
  rcases open_before_or_after untold with ⟨start, stop⟩ | ⟨start, stop⟩
  · obtain ⟨c, joining, other⟩ := exists_joining (lowered (first ++ 'Σ' :: rest)).head?
    refine ⟨c :: (first ++ 'Σ' :: rest), List.infix_cons (List.infix_refl _), ?_⟩
    rw [joining.lowered_cons]
    apply not_infix_cons (long _ _) _ other
    apply loweredWithin_ne
    rw [List.append_nil]
    exact joining.final_after start stop
  · obtain ⟨c, joining, other⟩ := exists_joining (lowered (first ++ 'Σ' :: rest)).getLast?
    refine ⟨first ++ 'Σ' :: rest ++ [c], (List.prefix_append _ _).isInfix, ?_⟩
    rw [joining.lowered_concat]
    apply not_infix_concat (long _ _) _ other
    apply loweredWithin_ne
    rw [List.append_nil]
    exact joining.not_final_before start stop

end Trackplan.Text

namespace Trackplan.Search

open Text (Settled lowered occursIn_iff_isInfix)

/-- Whatever the names, those that contain the needle as it stands are found with case ignored too,
in the same order. -/
def KeepsVerbatim (needle : String) : Prop :=
  ∀ (α : Type) (text : α → String) (names : List α),
    List.Sublist (byText text false needle names) (byText text true needle names)

/-- Whatever the names, those that contain the query as it stands are found, in the same order. The
blanks around the query do not belong to it. -/
def QueryKeepsVerbatim (query : String) : Prop :=
  ∀ (α : Type) (text : α → String) (names : List α),
    List.Sublist (byText text false (Text.trim query) names) (byQuery text query names)

theorem mem_byText {α : Type} {text : α → String} {needle : String} {names : List α} {a : α} :
    a ∈ byText text false needle names ↔ a ∈ names ∧ needle.toList <:+: (text a).toList := by
  rw [byText, List.mem_filter, occursIn_iff_isInfix]
  rfl

theorem mem_byText_ignoringCase {α : Type} {text : α → String} {needle : String} {names : List α}
    {a : α} : a ∈ byText text true needle names ↔
      a ∈ names ∧ lowered needle.toList <:+: lowered (text a).toList := by
  rw [byText, List.mem_filter, occursIn_iff_isInfix]
  rfl

theorem keepsVerbatim_iff (needle : String) : KeepsVerbatim needle ↔ Settled needle.toList := by
  constructor
  · intro keeps
    by_contra unsettled
    obtain ⟨hay, inside, lost⟩ := Text.exists_lost unsettled
    have here : String.ofList hay ∈ byText id false needle [.ofList hay] := by
      rw [mem_byText]
      exact ⟨List.mem_singleton_self _, by simpa using inside⟩
    have there := mem_byText_ignoringCase.1 ((keeps String id _).subset here)
    exact lost (by simpa using there.2)
  · intro settled α text names
    apply List.monotone_filter_right
    intro a occurs
    rw [occursIn_iff_isInfix] at occurs ⊢
    exact Text.lowered_isInfix settled occurs

theorem queryKeepsVerbatim_iff (query : String) :
    QueryKeepsVerbatim query ↔ Settled (Text.trimmed query.toList) := by
  rw [← Text.toList_trim, ← keepsVerbatim_iff]
  simp only [QueryKeepsVerbatim, KeepsVerbatim, byQuery_eq_byText]

/-- With case ignored, a text finds all names that contain it as it stands exactly if each of its
capital sigmas has one lower case, wherever the text stands. -/
theorem verbatim_kept_iff (needle : String) :
    (KeepsVerbatim needle ↔ Settled needle.toList) ∧
      (QueryKeepsVerbatim needle ↔ Settled (Text.trimmed needle.toList)) :=
  ⟨keepsVerbatim_iff needle, queryKeepsVerbatim_iff needle⟩

/-- The needle ends in a final sigma, the name goes on after it. -/
theorem verbatim_lost : byText id false "ΑΣ" ["ΑΣΑ"] = ["ΑΣΑ"] ∧ byText id true "ΑΣ" ["ΑΣΑ"] = [] ∧
    byQuery id "ΑΣ" ["ΑΣΑ"] = [] := by decide +kernel

/-- What follows the sigma settles it only if it is part of the text. -/
example : Text.Settled "ΑΣΑ".toList ∧ Text.Settled "ΑΣ-".toList ∧ ¬ Text.Settled "ΑΣ".toList := by
  decide +kernel

end Trackplan.Search
