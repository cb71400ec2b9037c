import Mathlib.Data.List.ReduceOption
import Mathlib.Data.Set.List
import Trackplan.Proofs.Verdict

/-! The table of contents after any run of additions. It has the first section of every identifier
that came up, in order, and refuses all others; rows of plain texts make the same table if nothing
in them is refused, and otherwise the first thing that is wrong is reported. -/
namespace Trackplan

namespace Name

variable {text : String} {fault : Fault} {texts : List String}

def Proper (text : String) : Prop := text ≠ "" ∧ ∀ c ∈ text.toList, allows c = true

/-- What keeps a text from being a name. -/
inductive Broken (text : String) : Fault → Prop
  | empty (none : text = "") : Broken text .empty
  | badChar {good rest : List Char} {c : Char} (split : text.toList = good ++ c :: rest)
    (allowed : ∀ d ∈ good, allows d = true) (bad : allows c = false) : Broken text (.badChar c)

theorem fault?_eq_some : fault? text = some fault ↔ Broken text fault := by
  unfold fault?
  split
  · rename_i none
    have empty : text = "" := String.toList_injective none
    constructor
    · intro found; cases found; exact .empty empty
    · intro broken
      cases broken with
      | empty => rfl
      | badChar split => rw [none] at split; cases (List.append_eq_nil_iff.1 split.symm).2
  · rename_i some
    rw [Option.map_eq_some_iff]
    constructor
    · rintro ⟨c, found, rfl⟩
      obtain ⟨bad, good, rest, split, allowed⟩ := List.find?_eq_some_iff_append.1 found
      exact .badChar split (by simpa using allowed) (by simpa using bad)
    · intro broken
      cases broken with
      | empty none => exact absurd (none ▸ rfl) some
      | badChar split allowed bad =>
        exact ⟨_, List.find?_eq_some_iff_append.2
          ⟨by simpa using bad, _, _, split, by simpa using allowed⟩, rfl⟩

theorem Broken.not_proper (broken : Broken text fault) : ¬ Proper text := by
  intro proper
  rw [← fault?_eq_some, fault?_eq_none.2 proper] at broken
  cases broken

theorem proper (n : Name) : Proper n.text := fault?_eq_none.1 n.valid

theorem exists_ofText : (∃ n, ofText text = .ok n) ↔ Proper text := by
  simp only [ofText_eq_ok]
  refine ⟨?_, fun proper => ⟨⟨text, fault?_eq_none.2 proper⟩, rfl⟩⟩
  rintro ⟨n, rfl⟩
  exact n.proper

theorem ofTexts_eq_ok {names : List Name} :
    ofTexts texts = .ok names ↔ texts = names.map Name.text := by
  rw [ofTexts, Grammar.mapM_eq_ok]
  simp only [ofText_eq_ok, eq_comm (b := (_ : String))]
  rw [← List.forall₂_map_right_iff, List.forall₂_eq_eq_eq]

end Name

namespace Contents

section Runs

variable {ε α β : Type} {e : ε} {a : α} {as : List α}

theorem bind_eq_ok {x : Except ε α} {f : α → Except ε β} {b : β} :
    (x >>= f) = .ok b ↔ ∃ a, x = .ok a ∧ f a = .ok b := by
  cases x <;> simp [bind, Except.bind]

theorem bind_eq_error {x : Except ε α} {f : α → Except ε β} :
    (x >>= f) = .error e ↔ x = .error e ∨ ∃ a, x = .ok a ∧ f a = .error e := by
  cases x <;> simp [bind, Except.bind]

/-- An element that is found in a list is found at the front or further on. -/
theorem exists_split_cons {holds : List α → α → Prop} :
    (∃ before b after, a :: as = before ++ b :: after ∧ holds before b) ↔
      holds [] a ∨ ∃ before b after, as = before ++ b :: after ∧ holds (a :: before) b := by
  constructor
  · rintro ⟨before, b, after, split, here⟩
    cases before with
    | nil => cases split; exact .inl here
    | cons c before => cases split; exact .inr ⟨before, b, after, rfl, here⟩
  · rintro (here | ⟨before, b, after, rfl, here⟩)
    · exact ⟨[], a, as, rfl, here⟩
    · exact ⟨a :: before, b, after, rfl, here⟩

theorem mapM_eq_error {f : α → Except ε β} : as.mapM f = .error e ↔
    ∃ before a after, as = before ++ a :: after ∧
      (∀ b ∈ before, ∃ made, f b = .ok made) ∧ f a = .error e := by
  induction as with
  | nil => simp [pure, Except.pure]
  | cons a rest ih =>
    have done (made : List β) (b : β) : (pure (b :: made) : Except ε (List β)) ≠ .error e := nofun
    rw [List.mapM_cons, bind_eq_error, exists_split_cons]
    simp only [bind_eq_error, done, and_false, exists_false, or_false, ih, List.forall_mem_cons]
    refine or_congr (by simp) ⟨?_, ?_⟩
    · rintro ⟨b, made, before, c, after, split, earlier, failed⟩
      exact ⟨before, c, after, split, ⟨⟨b, made⟩, earlier⟩, failed⟩
    · rintro ⟨before, c, after, split, ⟨⟨b, made⟩, earlier⟩, failed⟩
      exact ⟨b, made, before, c, after, split, earlier, failed⟩

theorem foldlM_eq_error {f : β → α → Except ε β} {start : β} : as.foldlM f start = .error e ↔
    ∃ before a after, as = before ++ a :: after ∧
      ∃ b, before.foldlM f start = .ok b ∧ f b a = .error e := by
  induction as generalizing start with
  | nil => simp [pure, Except.pure]
  | cons a rest ih =>
    rw [List.foldlM_cons, bind_eq_error, exists_split_cons]
    simp only [ih, List.foldlM_cons, bind_eq_ok]
    refine or_congr (by simp [pure, Except.pure]) ⟨?_, ?_⟩
    · rintro ⟨next, made, before, c, after, split, b, earlier, failed⟩
      exact ⟨before, c, after, split, b, ⟨next, made, earlier⟩, failed⟩
    · rintro ⟨before, c, after, split, b, ⟨next, made, earlier⟩, failed⟩
      exact ⟨next, made, before, c, after, split, b, earlier, failed⟩

end Runs

variable {c c' : Contents} {s : Section} {pushed : List Section} {fault : Fault}

/-- What an addition leaves behind. -/
def after (c : Contents) (s : Section) : Contents :=
  match c.add s with
  | .ok c' => c'
  | .error _ => c

/-- What an addition is answered. -/
def answer (c : Contents) (s : Section) : Option Fault :=
  match c.add s with
  | .ok _ => none
  | .error fault => some fault

/-- Adds one section after the other and passes over those that are refused. -/
def addEach (c : Contents) (pushed : List Section) : Contents := pushed.foldl after c

def answers (c : Contents) : List Section → List (Option Fault)
  | [] => []
  | s :: rest => c.answer s :: (c.after s).answers rest

theorem add_of_mem (mem : s.id ∈ c.ids) : c.add s = .error (.duplicate s.id) := dif_pos mem

theorem add_of_not_mem (new : s.id ∉ c.ids) :
    ∃ c', c.add s = .ok c' ∧ c'.sections = c.sections ++ [s] := ⟨_, dif_neg new, rfl⟩

theorem add_eq_error : c.add s = .error fault ↔ s.id ∈ c.ids ∧ fault = .duplicate s.id := by
  by_cases mem : s.id ∈ c.ids
  · rw [add_of_mem mem]
    simp [mem, eq_comm]
  · obtain ⟨c', added, -⟩ := add_of_not_mem mem
    simp [added, mem]

theorem after_of_mem (mem : s.id ∈ c.ids) : c.after s = c := by rw [after, add_of_mem mem]

theorem after_of_ok (added : c.add s = .ok c') : c.after s = c' := by rw [after, added]

theorem add_eq_ok : c.add s = .ok c' ↔ s.id ∉ c.ids ∧ c' = c.after s := by
  by_cases mem : s.id ∈ c.ids
  · rw [add_of_mem mem]
    simp [mem]
  · obtain ⟨made, added, -⟩ := add_of_not_mem mem
    rw [after_of_ok added, added]
    simp [mem, eq_comm]

theorem sections_after (c : Contents) (s : Section) :
    (c.after s).sections = if s.id ∈ c.ids then c.sections else c.sections ++ [s] := by
  split
  · rename_i mem
    rw [after_of_mem mem]
  · rename_i new
    obtain ⟨c', added, sections⟩ := add_of_not_mem new
    rw [after_of_ok added, sections]

theorem ids_after (new : s.id ∉ c.ids) : (c.after s).ids = c.ids ++ [s.id] := by
  rw [ids, sections_after, if_neg new, List.map_append, List.map_singleton, ← ids]

theorem answer_eq (c : Contents) (s : Section) :
    c.answer s = if s.id ∈ c.ids then some (.duplicate s.id) else none := by
  split
  · rename_i mem
    rw [answer, add_of_mem mem]
  · rename_i new
    obtain ⟨c', added, -⟩ := add_of_not_mem new
    rw [answer, added]

/-- Each element by itself and the elements before it. -/
def withEarlier {α β : Type} (f : List α → α → β) (as : List α) : List β :=
  as.mapIdx fun i a => f (as.take i) a

theorem withEarlier_concat {α β : Type} (f : List α → α → β) (as : List α) (a : α) :
    withEarlier f (as ++ [a]) = withEarlier f as ++ [f as a] := by
  have kept : (as.mapIdx fun i b => f ((as ++ [a]).take i) b) = withEarlier f as := by
    refine List.ext_getElem (by simp [withEarlier]) fun i inside _ => ?_
    have early : i ≤ as.length := by simpa using Nat.le_of_lt inside
    simp [withEarlier, List.take_append_of_le_length early]
  rw [withEarlier, List.mapIdx_concat, kept, List.take_left]

/-- A section that is the first of its identifier. -/
def firstOfId (earlier : List Section) (s : Section) : Option Section :=
  if s.id ∈ earlier.map Section.id then none else some s

/-- The answer that an addition calls for. -/
def refusal (earlier : List Section) (s : Section) : Option Fault :=
  if s.id ∈ earlier.map Section.id then some (.duplicate s.id) else none

/-- What holds of a table after a run of additions and the answers to them. -/
structure Follows (c : Contents) (pushed : List Section) (answers : List (Option Fault)) : Prop where
  ids : ∀ id, id ∈ c.ids ↔ id ∈ pushed.map Section.id
  sections : c.sections = (withEarlier firstOfId pushed).reduceOption
  found : ∀ id, c.find? id = pushed.find? (·.id.text = id)
  answered : answers = withEarlier refusal pushed

theorem follows_empty : empty.Follows [] [] := ⟨fun _ => .rfl, rfl, fun _ => rfl, rfl⟩

/-- One more addition. -/
theorem Follows.add {answers : List (Option Fault)} (follows : c.Follows pushed answers)
    (s : Section) : (c.after s).Follows (pushed ++ [s]) (answers ++ [c.answer s]) where
  ids id := by
    rw [Contents.ids, sections_after, List.map_append, List.mem_append, ← follows.ids]
    split
    · rename_i mem
      simp only [List.map_singleton, List.mem_singleton, Contents.ids, iff_self_or]
      rintro rfl
      exact mem
    · simp [Contents.ids]
  sections := by
    rw [withEarlier_concat, List.reduceOption_append, ← follows.sections, sections_after, firstOfId]
    simp only [follows.ids]
    split <;> simp
  found id := by
    rw [find?, sections_after, List.find?_append, ← follows.found]
    split
    · rename_i mem
      obtain ⟨t, there, same⟩ := List.mem_map.1 mem
      by_cases asked : s.id.text = id
      · rw [← find?, find?_eq_some.2 ⟨there, (congrArg Name.text same).trans asked⟩, Option.some_or]
      · rw [List.find?_singleton, if_neg (by simpa using asked), Option.or_none, find?]
    · rw [List.find?_append, ← find?]
  answered := by
    rw [withEarlier_concat, ← follows.answered, answer_eq, refusal]
    simp only [follows.ids]

/-- A whole run of additions. -/
theorem Follows.addEach {answers : List (Option Fault)} (follows : c.Follows pushed answers)
    (more : List Section) :
    (c.addEach more).Follows (pushed ++ more) (answers ++ c.answers more) := by
  induction more generalizing c pushed answers with
  | nil => simpa [Contents.addEach, Contents.answers] using follows
  | cons s rest ih => simpa [Contents.addEach, Contents.answers] using ih (follows.add s)

end Contents

/-- A section as it is written, its names plain texts. -/
def Section.written (s : Section) : Contents.Row := ⟨s.id.text, s.title, s.rules.map Name.text⟩

namespace Contents

namespace Row

variable {row : Row} {s : Section} {fault : Name.Fault}

def Proper (row : Row) : Prop := Name.Proper row.id ∧ ∀ rule ∈ row.rules, Name.Proper rule

/-- The first text of the row that is not a name, the identifier before the rules. -/
inductive Broken (row : Row) : Name.Fault → Prop
  | id {fault : Name.Fault} (broken : Name.Broken row.id fault) : Broken row fault
  | rule {fault : Name.Fault} {before after : List String} {rule : String}
    (proper : Name.Proper row.id) (split : row.rules = before ++ rule :: after)
    (earlier : ∀ other ∈ before, Name.Proper other) (broken : Name.Broken rule fault) :
    Broken row fault

theorem section_eq_ok : row.section = .ok s ↔ row = s.written := by
  obtain ⟨id, title, rules⟩ := row
  obtain ⟨name, title', names⟩ := s
  simp only [Row.section, bind_eq_ok, Name.ofText_eq_ok, Name.ofTexts_eq_ok, pure, Except.pure,
    Except.ok.injEq, Section.mk.injEq, Section.written, Row.mk.injEq]
  constructor
  · rintro ⟨_, rfl, _, rfl, rfl, rfl, rfl⟩; exact ⟨rfl, rfl, rfl⟩
  · rintro ⟨rfl, rfl, rfl⟩; exact ⟨name, rfl, names, rfl, rfl, rfl, rfl⟩

theorem section_eq_error : row.section = .error fault ↔ row.Broken fault := by
  simp only [Row.section, bind_eq_error, Name.ofText_eq_error, Name.fault?_eq_some, Name.ofTexts,
    mapM_eq_error, Name.exists_ofText]
  constructor
  · rintro (broken | ⟨id, proper, ⟨before, rule, after, split, earlier, broken⟩ | ⟨_, -, ⟨⟩⟩⟩)
    · exact .id broken
    · exact .rule (Name.exists_ofText.1 ⟨id, proper⟩) split earlier broken
  · intro broken
    cases broken with
    | id broken => exact .inl broken
    | rule proper split earlier broken =>
      obtain ⟨id, made⟩ := Name.exists_ofText.2 proper
      exact .inr ⟨id, made, .inl ⟨_, _, _, split, earlier, broken⟩⟩

theorem Broken.not_proper (broken : row.Broken fault) : ¬ row.Proper := by
  rintro ⟨id, rules⟩
  cases broken with
  | id broken => exact broken.not_proper id
  | rule _ split _ broken => exact broken.not_proper (rules _ (split ▸ by simp))

theorem proper_iff : row.Proper ↔ ∃ s : Section, row = s.written := by
  constructor
  · intro proper
    cases made : row.section with
    | error fault => exact absurd proper (section_eq_error.1 made).not_proper
    | ok s => exact ⟨s, section_eq_ok.1 made⟩
  · rintro ⟨s, rfl⟩
    refine ⟨s.id.proper, fun rule mem => ?_⟩
    obtain ⟨n, -, rfl⟩ := List.mem_map.1 mem
    exact n.proper

end Row

/-- Rows in which every name is a name and no identifier comes twice. -/
structure Sound (rows : List Row) : Prop where
  proper : ∀ row ∈ rows, row.Proper
  distinct : (rows.map Row.id).Nodup

/-- What is wrong with a row after the rows before it: a text that is not a name, or else an
identifier that is there already. -/
inductive Refused (earlier : List Row) (row : Row) : Fault → Prop
  | badName {fault : Name.Fault} (broken : row.Broken fault) : Refused earlier row (.badName fault)
  | duplicate {id : Name} (proper : row.Proper) (same : id.text = row.id)
    (known : row.id ∈ earlier.map Row.id) : Refused earlier row (.duplicate id)

variable {c c' : Contents} {s : Section} {pushed : List Section} {row : Row} {rows : List Row}
  {fault : Fault}

theorem addRow_eq_ok :
    c.addRow row = .ok c' ↔ ∃ s : Section, row = s.written ∧ s.id ∉ c.ids ∧ c' = c.after s := by
  simp only [← Row.section_eq_ok, ← add_eq_ok]
  unfold addRow
  cases row.section <;> simp

theorem addRow_eq_error : c.addRow row = .error fault ↔
    (∃ f, row.Broken f ∧ fault = .badName f) ∨
      ∃ s : Section, row = s.written ∧ s.id ∈ c.ids ∧ fault = .duplicate s.id := by
  simp only [← Row.section_eq_ok, ← Row.section_eq_error, ← add_eq_error]
  unfold addRow
  cases row.section <;> simp [eq_comm]

theorem not_mem_ids_of_nodup {ids : List Name} (distinct : (c.ids ++ s.id :: ids).Nodup) :
    s.id ∉ c.ids := fun mem => (List.nodup_append.1 distinct).2.2 _ mem _ List.mem_cons_self rfl

theorem ids_after_append (new : s.id ∉ c.ids) (ids : List Name) :
    (c.after s).ids ++ ids = c.ids ++ s.id :: ids := by
  rw [ids_after new, List.append_assoc, List.singleton_append]

/-- Where no identifier comes twice, nothing is passed over. -/
theorem sections_addEach (distinct : (c.ids ++ pushed.map Section.id).Nodup) :
    (c.addEach pushed).sections = c.sections ++ pushed := by
  induction pushed generalizing c with
  | nil => simp [addEach]
  | cons s rest ih =>
    have new := not_mem_ids_of_nodup distinct
    refine (ih ((ids_after_append new _).symm ▸ distinct)).trans ?_
    rw [sections_after, if_neg new, List.append_assoc, List.singleton_append]

theorem foldlM_addRow_eq_ok : rows.foldlM addRow c = .ok c' ↔
    ∃ sections : List Section, rows = sections.map Section.written ∧
      (c.ids ++ sections.map Section.id).Nodup ∧ c' = c.addEach sections := by
  induction rows generalizing c with
  | nil =>
    have distinct : c.ids.Nodup := c.distinct
    simp [pure, Except.pure, addEach, distinct, eq_comm]
  | cons row rest ih =>
    simp only [List.foldlM_cons, bind_eq_ok, addRow_eq_ok, ih]
    constructor
    · rintro ⟨_, ⟨s, rfl, new, rfl⟩, later, rfl, distinct, rfl⟩
      exact ⟨s :: later, rfl, ids_after_append new _ ▸ distinct, rfl⟩
    · rintro ⟨sections, split, distinct, rfl⟩
      cases sections with
      | nil => cases split
      | cons s later =>
        obtain ⟨rfl, rfl⟩ := List.cons.inj split
        have new := not_mem_ids_of_nodup distinct
        exact ⟨_, ⟨s, rfl, new, rfl⟩, later, rfl, (ids_after_append new _).symm ▸ distinct, rfl⟩

theorem sound_iff : Sound rows ↔
    ∃ sections : List Section, rows = sections.map Section.written ∧
      (sections.map Section.id).Nodup := by
  have ids (sections : List Section) : (sections.map Section.written).map Row.id =
      (sections.map Section.id).map Name.text := by simp [Function.comp_def, Section.written]
  constructor
  · rintro ⟨proper, distinct⟩
    obtain ⟨sections, rfl⟩ : rows ∈ Set.range (List.map Section.written) := by
      rw [Set.range_list_map]
      intro row mem
      obtain ⟨s, rfl⟩ := Row.proper_iff.1 (proper row mem)
      exact ⟨s, rfl⟩
    rw [ids, List.nodup_map_iff Name.text_injective] at distinct
    exact ⟨sections, rfl, distinct⟩
  · rintro ⟨sections, rfl, distinct⟩
    refine ⟨fun row mem => ?_, ids sections ▸ distinct.map Name.text_injective⟩
    obtain ⟨s, -, rfl⟩ := List.mem_map.1 mem
    exact Row.proper_iff.2 ⟨s, rfl⟩

theorem ofRows_eq_ok : ofRows rows = .ok c ↔ ∃ sections : List Section,
    rows = sections.map Section.written ∧ (sections.map Section.id).Nodup ∧
      c = empty.addEach sections := foldlM_addRow_eq_ok

theorem exists_ofRows : (∃ c, ofRows rows = .ok c) ↔ Sound rows := by
  simp only [ofRows_eq_ok, sound_iff]
  constructor
  · rintro ⟨_, sections, split, distinct, -⟩; exact ⟨sections, split, distinct⟩
  · rintro ⟨sections, split, distinct⟩; exact ⟨_, sections, split, distinct, rfl⟩

theorem addEach_empty (pushed : List Section) :
    (empty.addEach pushed).Follows pushed (empty.answers pushed) := by
  simpa using follows_empty.addEach pushed

theorem addRow_addEach_eq_error {sections : List Section} :
    (empty.addEach sections).addRow row = .error fault ↔
      Refused (sections.map Section.written) row fault := by
  rw [addRow_eq_error]
  simp only [(addEach_empty sections).ids]
  constructor
  · rintro (⟨f, broken, rfl⟩ | ⟨s, rfl, known, rfl⟩)
    · exact .badName broken
    · refine .duplicate (Row.proper_iff.2 ⟨s, rfl⟩) rfl ?_
      simpa [Section.written, Name.text_injective.eq_iff] using known
  · intro refused
    cases refused with
    | badName broken => exact .inl ⟨_, broken, rfl⟩
    | duplicate proper same known =>
      obtain ⟨s, rfl⟩ := Row.proper_iff.1 proper
      obtain rfl := Name.ext same
      refine .inr ⟨s, rfl, ?_, rfl⟩
      simpa [Section.written, Name.text_injective.eq_iff] using known

theorem ofRows_eq_error : ofRows rows = .error fault ↔ ∃ before row after,
    rows = before ++ row :: after ∧ Sound before ∧ Refused before row fault := by
  rw [ofRows, foldlM_eq_error]
  constructor
  · rintro ⟨before, row, after, split, c, made, failed⟩
    have sound := exists_ofRows.1 ⟨c, made⟩
    obtain ⟨sections, rfl, -, rfl⟩ := ofRows_eq_ok.1 made
    exact ⟨_, row, after, split, sound, addRow_addEach_eq_error.1 failed⟩
  · rintro ⟨before, row, after, split, sound, refused⟩
    obtain ⟨c, made⟩ := exists_ofRows.2 sound
    refine ⟨before, row, after, split, c, made, ?_⟩
    obtain ⟨sections, rfl, -, rfl⟩ := ofRows_eq_ok.1 made
    exact addRow_addEach_eq_error.2 refused

/-- A table that has the first section of every identifier, and what can be asked of it. -/
structure FirstKept (c : Contents) (pushed : List Section) (answers : List (Option Fault)) :
    Prop where
  distinct : c.ids.Nodup
  sections : c.sections = (withEarlier firstOfId pushed).reduceOption
  answered : answers = withEarlier refusal pushed
  refused : ∀ s fault, c.add s = .error fault ↔ s.id ∈ c.ids ∧ fault = .duplicate s.id
  unchanged : ∀ s, s.id ∈ c.ids → c.after s = c
  first : ∀ id, c.find? id = pushed.find? (·.id.text = id)
  found : ∀ id s, c.find? id = some s ↔ s ∈ c.sections ∧ s.id.text = id
  titled : ∀ id title, c.title? id = some title ↔
    ∃ s ∈ c.sections, s.id.text = id ∧ s.title = title
  ruled : ∀ id rules, c.rules? id = some rules ↔
    ∃ s ∈ c.sections, s.id.text = id ∧ s.rules = rules
  listing : ∀ rule, c.listing rule = c.sections.filter fun s => rule ∈ s.rules.map Name.text

theorem Follows.firstKept {answers : List (Option Fault)} (follows : c.Follows pushed answers) :
    c.FirstKept pushed answers where
  distinct := c.distinct
  sections := follows.sections
  answered := follows.answered
  refused _ _ := add_eq_error
  unchanged _ := after_of_mem
  first := follows.found
  found _ _ := find?_eq_some
  titled id title := by simp only [title?, Option.map_eq_some_iff, find?_eq_some, and_assoc]
  ruled id rules := by simp only [rules?, Option.map_eq_some_iff, find?_eq_some, and_assoc]
  listing rule := by
    refine List.filter_congr fun s _ => Bool.eq_iff_iff.2 ?_
    simp

/-- What rows of plain texts make: the table of their sections, or the first thing wrong with them. -/
structure RowsRead (rows : List Row) (made : Except Fault Contents) : Prop where
  succeeds : (∃ c, made = .ok c) ↔ Sound rows
  collected : ∀ c, made = .ok c →
    rows = c.sections.map Section.written ∧ c = empty.addEach c.sections
  fails : ∀ fault, made = .error fault ↔ ∃ before row after,
    rows = before ++ row :: after ∧ Sound before ∧ Refused before row fault

theorem rowsRead (rows : List Row) : RowsRead rows (ofRows rows) where
  succeeds := exists_ofRows
  collected c made := by
    obtain ⟨sections, rfl, distinct, rfl⟩ := ofRows_eq_ok.1 made
    have all : (empty.addEach sections).sections = sections := sections_addEach distinct
    rw [all]
    exact ⟨rfl, rfl⟩
  fails _ := ofRows_eq_error

/-- However many sections are added, the table has the first one of every identifier and answers from
it, and all others were refused; rows are read as if their sections were added one by one. -/
theorem first_section_kept (pushed : List Section) (rows : List Row) :
    (empty.addEach pushed).FirstKept pushed (empty.answers pushed) ∧ RowsRead rows (ofRows rows) :=
  ⟨(addEach_empty pushed).firstKept, rowsRead rows⟩

/-- A text that is not a name is reported before an identifier that is there already. -/
example : ofRows [⟨"one", "", []⟩, ⟨"one", "", ["b c"]⟩] = .error (.badName (.badChar ' ')) := rfl

end Contents

end Trackplan
