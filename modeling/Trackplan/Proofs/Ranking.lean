import Mathlib.Data.List.FinRange
import Trackplan.Likeness.Suggestion

/-! Suggestions are the beginning of a ranking of positions. The ranking holds every position whose
name is worth suggesting, the one with more points first and of two with as many the earlier one; a
limit only decides how much of it is shown. All of this holds for any measure of likeness. -/
namespace Trackplan.Likeness

variable {α β : Type}

theorem Scored.mayPrecede_trans (a b c : Scored α) (first : a.mayPrecede b = true)
    (second : b.mayPrecede c = true) : a.mayPrecede c = true := by
  simp only [mayPrecede, decide_eq_true_eq] at first second ⊢
  omega

theorem Scored.mayPrecede_total (a b : Scored α) :
    (a.mayPrecede b || b.mayPrecede a) = true := by
  simp only [mayPrecede, Bool.or_eq_true, decide_eq_true_eq]
  omega

theorem mem_ranked {entries : List (Scored α)} {entry : Scored α} :
    entry ∈ ranked entries ↔ entry ∈ entries :=
  List.mem_mergeSort

theorem ranked_descending (entries : List (Scored α)) :
    (ranked entries).Pairwise fun a b => b.score ≤ a.score := by
  have sorted := List.pairwise_mergeSort Scored.mayPrecede_trans Scored.mayPrecede_total entries
  exact sorted.imp fun {a b} h => by simpa [Scored.mayPrecede] using h

/-- Ties stay as they were. -/
theorem filter_ranked (entries : List (Scored α)) (score : Int) :
    (ranked entries).filter (·.score = score) = entries.filter (·.score = score) := by
  -- Equal scores are in order already, so they all pass through the sort without changing places.
  have tied : (entries.filter (·.score = score)).Pairwise (Scored.mayPrecede · ·) := by
    refine List.pairwise_iff_forall_sublist.2 fun {a b} pair => ?_
    have left := (List.mem_filter.1 (pair.subset (by simp : a ∈ [a, b]))).2
    have right := (List.mem_filter.1 (pair.subset (by simp : b ∈ [a, b]))).2
    simp only [decide_eq_true_eq] at left right
    simp [Scored.mayPrecede, left, right]
  have kept : (entries.filter (·.score = score)).Sublist (ranked entries) := by
    apply List.sublist_mergeSort Scored.mayPrecede_trans Scored.mayPrecede_total tied
    exact List.filter_sublist
  have among := kept.filter (·.score = score)
  rw [List.filter_filter, List.filter_congr fun _ _ => Bool.and_self _] at among
  apply Eq.symm
  apply among.eq_of_length
  exact ((List.mergeSort_perm entries _).filter _).length_eq.symm

/-- Where the entries came in some order, it decides between those with the same score. -/
theorem ranked_ordered {earlier : Scored α → Scored α → Prop} {entries : List (Scored α)}
    (came : entries.Pairwise earlier) : (ranked entries).Pairwise fun a b =>
      b.score < a.score ∨ b.score = a.score ∧ earlier a b := by
  refine List.pairwise_iff_forall_sublist.2 fun {a b} pair => ?_
  have bound := List.pairwise_iff_forall_sublist.1 (ranked_descending entries) pair
  by_cases tie : b.score = a.score
  · right
    -- Among its ties the pair stands as it came.
    have among := pair.filter (·.score = a.score)
    rw [filter_ranked, List.filter_cons_of_pos (by simp), List.filter_cons_of_pos (by simpa),
      List.filter_nil] at among
    exact ⟨tie, List.pairwise_iff_forall_sublist.1 came (among.trans List.filter_sublist)⟩
  · left
    omega

variable {likeness : List Char → List Char → Int} {text : α → String}

/-- The same score for another name. -/
def Scored.onto (f : β → α) (entry : Scored β) : Scored α := ⟨entry.score, f entry.name⟩

theorem scored_map (f : β → α) (needle : List Char) (names : List β) :
    scored likeness text needle (names.map f) =
      (scored likeness (fun b => text (f b)) needle names).map (Scored.onto f) := by
  rw [scored, scored, List.filterMap_map, List.map_filterMap]
  refine List.filterMap_congr fun b _ => ?_
  rw [Option.map_map]
  rfl

theorem ranked_map (f : β → α) (entries : List (Scored β)) :
    ranked (entries.map (Scored.onto f)) = (ranked entries).map (Scored.onto f) := by
  symm
  apply List.map_mergeSort
  intro a _ b _
  rfl

/-- A suggestion is one of the names, and not the one that is asked for. -/
theorem of_mem_suggestBy {names : List α} {needle : String} {limit : Nat} {a : α}
    (mem : a ∈ suggestBy likeness text names needle limit) :
    a ∈ names ∧ Text.lowered (text a).toList ≠ form needle := by
  unfold suggestBy at mem
  split at mem
  · cases mem
  · obtain ⟨entry, kept, rfl⟩ := List.mem_map.1 mem
    obtain ⟨here, scores⟩ := mem_scored.1 (mem_ranked.1 (List.mem_of_mem_take kept))
    exact ⟨here, (score?_eq_some.1 scores).1.symm⟩

/-- The name that is asked for takes no place among the suggestions. -/
theorem suggestBy_filter (names : List α) (needle : String) (limit : Nat) :
    suggestBy likeness text (names.filter fun a => Text.lowered (text a).toList ≠ form needle)
      needle limit = suggestBy likeness text names needle limit := by
  have same : scored likeness text (form needle)
      (names.filter fun a => Text.lowered (text a).toList ≠ form needle) =
        scored likeness text (form needle) names := by
    rw [scored, scored, List.filterMap_filter]
    refine List.filterMap_congr fun a _ => ?_
    by_cases asked : Text.lowered (text a).toList = form needle
    · simp [score?, asked]
    · simp [asked]
  rw [suggestBy, suggestBy, same]

/-- All positions that are worth suggesting, the best first. -/
def ranking (likeness : List Char → List Char → Int) (text : α → String) (names : List α)
    (needle : List Char) : List (Fin names.length) :=
  (ranked (scored likeness (fun p => text (names.get p)) needle
    (List.finRange names.length))).map Scored.name

theorem suggestBy_of_asked (names : List α) {needle : String} (asked : form needle ≠ [])
    (limit : Nat) : suggestBy likeness text names needle limit =
      ((ranking likeness text names (form needle)).take limit).map names.get := by
  have everywhere : scored likeness text (form needle) names =
      (scored likeness (fun p => text (names.get p)) (form needle)
        (List.finRange names.length)).map (Scored.onto names.get) := by
    rw [← scored_map, List.map_get_finRange]
  rw [suggestBy, if_neg asked, everywhere, ranked_map, ranking, ← List.map_take, List.map_map,
    ← List.map_take, List.map_map]
  rfl

/-- The points of the name at a position. -/
def pointsAt (likeness : List Char → List Char → Int) (text : α → String) (names : List α)
    (needle : String) (p : Fin names.length) : Int :=
  points likeness (form needle) (Text.lowered (text (names.get p)).toList)

/-- A position is worth suggesting if something is asked for, its name is another one in lower case
and has enough points. -/
structure Eligible (likeness : List Char → List Char → Int) (text : α → String) (names : List α)
    (needle : String) (p : Fin names.length) : Prop where
  asked : form needle ≠ []
  differs : Text.lowered (text (names.get p)).toList ≠ form needle
  enough : threshold ≤ pointsAt likeness text names needle p

/-- More points, or as many and an earlier position. -/
def Better (likeness : List Char → List Char → Int) (text : α → String) (names : List α)
    (needle : String) (p q : Fin names.length) : Prop :=
  pointsAt likeness text names needle q < pointsAt likeness text names needle p ∨
    pointsAt likeness text names needle q = pointsAt likeness text names needle p ∧ p < q

variable {names : List α} {needle : String}

theorem mem_ranking (asked : form needle ≠ []) {p : Fin names.length} :
    p ∈ ranking likeness text names (form needle) ↔ Eligible likeness text names needle p := by
  simp only [ranking, List.mem_map, mem_ranked, mem_scored, score?_eq_some]
  constructor
  · rintro ⟨entry, ⟨-, differs, same, enough⟩, rfl⟩
    exact ⟨asked, differs.symm, Int.le_trans enough (Int.le_of_eq same.symm)⟩
  · rintro ⟨-, differs, enough⟩
    exact ⟨⟨pointsAt likeness text names needle p, p⟩,
      ⟨List.mem_finRange p, differs.symm, rfl, enough⟩, rfl⟩

theorem ranking_ordered (names : List α) (needle : String) :
    (ranking likeness text names (form needle)).Pairwise (Better likeness text names needle) := by
  have came : (scored likeness (fun p => text (names.get p)) (form needle)
      (List.finRange names.length)).Pairwise fun a b => a.name < b.name := by
    rw [scored, List.pairwise_filterMap]
    refine (List.pairwise_lt_finRange _).imp fun {p q} before a ofP b ofQ => ?_
    rw [Option.map_eq_some_iff] at ofP ofQ
    obtain ⟨_, -, rfl⟩ := ofP
    obtain ⟨_, -, rfl⟩ := ofQ
    exact before
  rw [ranking, List.pairwise_map]
  refine (ranked_ordered came).imp_of_mem fun {a b} memA memB better => ?_
  obtain ⟨-, -, scoreA, -⟩ := (mem_scored.1 (mem_ranked.1 memA)).imp_right score?_eq_some.1
  obtain ⟨-, -, scoreB, -⟩ := (mem_scored.1 (mem_ranked.1 memB)).imp_right score?_eq_some.1
  rw [← scoreA, ← scoreB] at better
  exact better

theorem Better.ne {p q : Fin names.length} (better : Better likeness text names needle p q) :
    p ≠ q := by
  rintro rfl
  rcases better with more | ⟨-, before⟩
  · exact Int.lt_irrefl _ more
  · exact Nat.lt_irrefl _ before

/-- For each limit, the suggestions are the names at the chosen positions, and the chosen positions
are the best of all that are worth suggesting. -/
structure TopChosen (likeness : List Char → List Char → Int) (text : α → String) (names : List α)
    (needle : String) (chosen : Nat → List (Fin names.length)) : Prop where
  suggested : ∀ limit, suggestBy likeness text names needle limit = (chosen limit).map names.get
  distinct : ∀ limit, (chosen limit).Nodup
  eligible : ∀ limit, ∀ p ∈ chosen limit, Eligible likeness text names needle p
  ordered : ∀ limit, (chosen limit).Pairwise (Better likeness text names needle)
  complete : ∀ limit p, Eligible likeness text names needle p → p ∉ chosen limit →
    (chosen limit).length = limit ∧ ∀ q ∈ chosen limit, Better likeness text names needle q p
  extended : ∀ limit more, limit ≤ more → chosen limit <+: chosen more
  blank : (∀ c ∈ needle.toList, Unicode.isWhiteSpace c = true) → ∀ limit, chosen limit = []

theorem form_eq_nil (needle : String) :
    form needle = [] ↔ ∀ c ∈ needle.toList, Unicode.isWhiteSpace c = true := by
  rw [form, Text.lowered, Text.loweredFrom_eq_nil, Text.trimmed_eq_nil]

/-- A cut leaves out only what comes after all that it keeps, and only when it has kept enough. -/
theorem kept_before_left_out {r : α → α → Prop} {as : List α} (ordered : as.Pairwise r)
    {limit : Nat} {a : α} (mem : a ∈ as) (out : a ∉ as.take limit) :
    (as.take limit).length = limit ∧ ∀ b ∈ as.take limit, r b a := by
  rw [← List.take_append_drop limit as] at mem ordered
  have later : a ∈ as.drop limit := (List.mem_append.1 mem).resolve_left out
  constructor
  · have some : 0 < (as.drop limit).length := List.length_pos_of_mem later
    rw [List.length_drop] at some
    rw [List.length_take]
    omega
  · intro b kept
    exact (List.pairwise_append.1 ordered).2.2 b kept a later

/-- Whatever the measure of likeness gives, suggestions are the names at the best positions. -/
theorem suggestions_top (likeness : List Char → List Char → Int) (text : α → String)
    (names : List α) (needle : String) :
    ∃ chosen, TopChosen likeness text names needle chosen := by
  by_cases asked : form needle = []
  · refine ⟨fun _ => [], ?_⟩
    constructor
    case suggested => intro limit; rw [suggestBy, if_pos asked, List.map_nil]
    case distinct => intro limit; exact List.nodup_nil
    case eligible => intro limit p mem; cases mem
    case ordered => intro limit; exact .nil
    case complete => intro limit p eligible; exact absurd asked eligible.asked
    case extended => intro limit more _; exact List.nil_prefix
    case blank => intro _ limit; rfl
  · have ordered : (ranking likeness text names (form needle)).Pairwise
        (Better likeness text names needle) := ranking_ordered names needle
    refine ⟨fun limit => (ranking likeness text names (form needle)).take limit, ?_⟩
    constructor
    case suggested => exact suggestBy_of_asked names asked
    case distinct =>
      intro limit
      exact (ordered.imp Better.ne).sublist (List.take_sublist ..)
    case eligible =>
      intro limit p mem
      exact (mem_ranking asked).1 (List.mem_of_mem_take mem)
    case ordered => intro limit; exact ordered.sublist (List.take_sublist ..)
    case complete =>
      intro limit p eligible out
      exact kept_before_left_out ordered ((mem_ranking asked).2 eligible) out
    case extended =>
      intro limit more le
      exact List.take_prefix_take_left le
    case blank => intro blank; exact absurd ((form_eq_nil needle).2 blank) asked

end Trackplan.Likeness
