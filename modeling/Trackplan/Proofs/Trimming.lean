import Trackplan.Proofs.Cells
import Trackplan.Proofs.Lines

/-! What trimming leaves out of a grid's text. Each line loses the blanks at its end and the text
the blank lines at its end, and nothing else: filled up to the size of the grid again, the lines
make up the whole text. -/
namespace Trackplan

namespace Text

variable {α : Type} {test : α → Bool} {n : Nat}

/-- What was dropped is put back where only one element satisfies the test. -/
theorem rightpad_dropTrailing (blank : α) (only : ∀ a, test a = true → a = blank) (as : List α) :
    (dropTrailing test as).rightpad as.length blank = as := by
  obtain ⟨dropped, split, all⟩ := exists_dropped test as
  have blanks : dropped = List.replicate dropped.length blank :=
    List.eq_replicate_of_mem fun a mem => only a (all a mem)
  have count : as.length - (dropTrailing test as).length = dropped.length := by
    have total := congrArg List.length split
    rw [List.length_append] at total
    omega
  calc (dropTrailing test as).rightpad as.length blank
      = dropTrailing test as ++ List.replicate dropped.length blank := by rw [List.rightpad, count]
    _ = as := by rw [← blanks, ← split]

theorem map_rightpad {β : Type} (f : α → β) (blank : α) (as : List α) :
    (as.rightpad n blank).map f = (as.map f).rightpad n (f blank) := by
  simp only [List.rightpad, List.map_append, List.map_replicate, List.length_map]

/-- A single blank is no more than what is put at the end anyway. -/
theorem rightpad_singleton (blank : α) (room : 0 < n) :
    [blank].rightpad n blank = [].rightpad n blank := by
  obtain ⟨n, rfl⟩ := Nat.exists_eq_succ_of_ne_zero (Nat.ne_of_gt room)
  rfl

end Text

namespace Grid

variable {g : Grid} {x y : Nat}

/-- The lines of a text filled up with blanks to so many columns, with blank lines after them up to
so many rows. -/
def refilled (width height : Nat) (text : String) : String :=
  linesText (((text.toList.splitOn '\n').map (List.rightpad width ' ')).rightpad height
    (List.replicate width ' '))

/-- No cell holds a line end. -/
def Plain (g : Grid) : Prop := ∀ x < g.width, ∀ y < g.height, (g.cell x y).ink ≠ '\n'

instance (g : Grid) : Decidable g.Plain :=
  inferInstanceAs (Decidable (∀ x < g.width, ∀ y < g.height, _))

/-- A text of the grid's lines that only lacks blanks, and all of them that end a line or the text. -/
structure TrimmedTo (g : Grid) (text : String) : Prop where
  lossless : refilled g.width g.height text = g.text
  lines : ∀ line ∈ text.toList.splitOn '\n', line.getLast? ≠ some ' '
  ending : (text.toList.splitOn '\n').getLast? = some [] → text = ""

theorem Plain.glyph (plain : g.Plain) (left : x < g.width) (top : y < g.height) :
    g.glyph x y ≠ '\n' := by
  by_cases line : g.edges x y = .none
  · have ink : g.glyph x y = (g.cell x y).ink := glyph_of_text (by rw [← line]; rfl)
    rw [ink]
    exact plain x left y top
  · intro newline
    have shown := ofChar?_glyph line
    rw [newline] at shown
    exact shown rfl

theorem trimmedRows_eq (g : Grid) :
    g.trimmedRows = Text.dropTrailing List.isEmpty ((List.range g.height).map g.line) := by
  rw [trimmedRows, rows, List.map_map]
  rfl

theorem mem_trimmedRows {line : List Char} (mem : line ∈ g.trimmedRows) :
    ∃ y < g.height, g.line y = line := by
  rw [trimmedRows_eq] at mem
  obtain ⟨y, row, same⟩ := List.mem_map.mp ((Text.dropTrailing_prefix _ _).subset mem)
  exact ⟨y, List.mem_range.mp row, same⟩

/-- The lines of the trimmed text are the ones that were put into it; an empty text has one line
more than was put into it. -/
theorem splitOn_trimmedText (plain : ∀ line ∈ g.trimmedRows, '\n' ∉ line) :
    g.trimmedText.toList.splitOn '\n' = g.trimmedRows ∨
      g.trimmedText = "" ∧ g.trimmedRows = [] ∧ g.trimmedText.toList.splitOn '\n' = [[]] := by
  by_cases empty : g.trimmedRows = []
  · have text : g.trimmedText = "" := by rw [trimmedText, empty]; rfl
    exact .inr ⟨text, empty, by rw [text]; rfl⟩
  · exact .inl (splitOn_linesText empty plain)

/-- The rows come back from their trimmed lines. -/
theorem refilled_trimmedRows (g : Grid) :
    (g.trimmedRows.map (List.rightpad g.width ' ')).rightpad g.height
      (List.replicate g.width ' ') = g.rows := by
  have lines : g.trimmedRows.rightpad g.height [] = (List.range g.height).map g.line := by
    have back := Text.rightpad_dropTrailing [] (fun line => List.isEmpty_iff.mp)
      ((List.range g.height).map g.line)
    rwa [← trimmedRows_eq, List.length_map, List.length_range] at back
  have row : ∀ y, (g.line y).rightpad g.width ' ' = g.row y := by
    intro y
    have back := Text.rightpad_dropTrailing ' ' (fun c => of_decide_eq_true) (g.row y)
    rwa [length_row] at back
  calc (g.trimmedRows.map (List.rightpad g.width ' ')).rightpad g.height
        (List.replicate g.width ' ')
      = (g.trimmedRows.rightpad g.height []).map (List.rightpad g.width ' ') := by
        rw [Text.map_rightpad]; rfl
    _ = (List.range g.height).map fun y => (g.line y).rightpad g.width ' ' := by
        rw [lines, List.map_map]; rfl
    _ = g.rows := by simp only [row, rows]

theorem refilled_trimmedText (tall : 0 < g.height) (plain : ∀ line ∈ g.trimmedRows, '\n' ∉ line) :
    refilled g.width g.height g.trimmedText = g.text := by
  rw [text, ← refilled_trimmedRows, refilled]
  rcases splitOn_trimmedText plain with lines | ⟨-, empty, lines⟩
  · rw [lines]
  -- the one empty line stands for the first of the blank lines
  · rw [lines, empty]
    exact congrArg linesText (Text.rightpad_singleton _ tall)

/-- Trimming a grid's text, whatever is drawn on the grid, loses nothing but the blanks at the ends
of its lines and the blank lines at its end. -/
theorem trimming_lossless (tall : 0 < g.height) (plain : g.Plain) : g.TrimmedTo g.trimmedText := by
  have free : ∀ line ∈ g.trimmedRows, '\n' ∉ line := by
    intro line mem
    obtain ⟨y, top, rfl⟩ := mem_trimmedRows mem
    exact newline_not_mem_line fun x left => plain.glyph left top
  constructor
  case lossless => exact refilled_trimmedText tall free
  case lines =>
    rcases splitOn_trimmedText free with lines | ⟨-, -, lines⟩
    · rw [lines]
      intro line mem
      obtain ⟨y, -, rfl⟩ := mem_trimmedRows mem
      exact g.getLast_line y
    · rw [lines]
      simp
  case ending =>
    rcases splitOn_trimmedText free with lines | ⟨text, -⟩
    · rw [lines, trimmedRows]
      intro last
      have inked := Text.getLast?_dropTrailing last
      cases inked
    · exact fun _ => text

/-- Blank rows above, between and below what is drawn. -/
def spaced : List Stroke := [.write 1 1 "ab", .across 0 3 3]

theorem trimming_lossless_spaced : ∃ start, blank 6 5 ' ' = .ok start ∧
    0 < (start.drawEach spaced).height ∧ (start.drawEach spaced).Plain ∧
    (start.drawEach spaced).TrimmedTo (start.drawEach spaced).trimmedText ∧
    (start.drawEach spaced).trimmedText = "\n ab\n\n────" :=
  ⟨_, rfl, by decide, by decide, trimming_lossless (by decide) (by decide), by decide⟩

end Grid

end Trackplan
