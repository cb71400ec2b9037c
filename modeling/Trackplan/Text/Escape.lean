import Trackplan.Unicode.Property

/-! Writing text so that every character of it can be seen: control characters, unprintable
characters and marks without a base are written as escapes. -/
namespace Trackplan.Text

open Unicode

/-- The hexadecimal escape of a code point, without leading zeros. -/
def codeEscape (c : Char) : List Char :=
  "\\u\x7b".toList ++ Nat.toDigits 16 c.toNat ++ "\x7d".toList

/-- Which characters are escaped though they could be seen: the quotes, and a mark that would
combine with what stands before it. -/
structure EscapeRule where
  single : Bool
  double : Bool
  mark : Bool

def escaped (rule : EscapeRule) (c : Char) : List Char :=
  if c = '\x00' then ['\\', '0']
  else if c = '\t' then ['\\', 't']
  else if c = '\r' then ['\\', 'r']
  else if c = '\n' then ['\\', 'n']
  else if c = '\\' then ['\\', '\\']
  else if c = '\'' then if rule.single then ['\\', '\''] else [c]
  else if c = '"' then if rule.double then ['\\', '"'] else [c]
  else if rule.mark && isGraphemeExtend c then codeEscape c
  else if isPrintable c then [c]
  else codeEscape c

/-- A character between single quotes. -/
def quotedChar (c : Char) : String :=
  .ofList ('\'' :: escaped ⟨true, false, true⟩ c ++ ['\''])

/-- Both quotes are escaped throughout; a mark only at the very start, where it has no base. -/
def escapedText : List Char → List Char
  | [] => []
  | c :: rest => escaped ⟨true, true, true⟩ c ++ rest.flatMap (escaped ⟨true, true, false⟩)

def escape (text : String) : String := .ofList (escapedText text.toList)

@[simp] theorem toList_escape (text : String) :
    (escape text).toList = escapedText text.toList := by
  simp [escape]

theorem mem_toDigits {c : Char} (n : Nat) (mem : c ∈ Nat.toDigits 16 n) :
    c ≠ '\n' ∧ c.toNat < 128 := by
  have digit : ∀ d < 16, Nat.digitChar d ≠ '\n' ∧ (Nat.digitChar d).toNat < 128 := by decide
  induction n using Nat.strongRecOn with
  | ind n ih =>
    rw [Nat.toDigits_eq_if (by decide)] at mem
    split at mem
    · rw [List.mem_singleton.mp mem]
      exact digit n ‹_›
    · rcases List.mem_append.mp mem with higher | last
      · exact ih (n / 16) (by omega) higher
      · rw [List.mem_singleton.mp last]
        exact digit (n % 16) (Nat.mod_lt n (by decide))

theorem mem_codeEscape {c d : Char} (mem : d ∈ codeEscape c) : d ≠ '\n' ∧ d.toNat < 128 := by
  have around : ∀ e ∈ "\\u\x7b".toList ++ "\x7d".toList, e ≠ '\n' ∧ e.toNat < 128 := by simp
  simp only [codeEscape, List.mem_append] at mem around
  rcases mem with (before | digit) | after
  · exact around d (.inl before)
  · exact mem_toDigits c.toNat digit
  · exact around d (.inr after)

/-- The three ways to write a character: a backslash with one more character, the code point, or
the character itself if it is no line end. -/
inductive Writes (c : Char) : List Char → Prop
  | short (letter : Char) (known : letter ∈ "0trn\\'\"".toList) : Writes c ['\\', letter]
  | code : Writes c (codeEscape c)
  | itself (other : c ≠ '\n') : Writes c [c]

theorem writes_escaped (rule : EscapeRule) (c : Char) : Writes c (escaped rule c) := by
  refine iteInduction (fun _ => .short '0' (by decide)) fun _ => ?_
  refine iteInduction (fun _ => .short 't' (by decide)) fun _ => ?_
  refine iteInduction (fun _ => .short 'r' (by decide)) fun _ => ?_
  refine iteInduction (fun _ => .short 'n' (by decide)) fun other => ?_
  refine iteInduction (fun _ => .short '\\' (by decide)) fun _ => ?_
  refine iteInduction (fun _ => ?single) fun _ => ?_
  case single => exact iteInduction (fun _ => .short '\'' (by decide)) fun _ => .itself other
  refine iteInduction (fun _ => ?double) fun _ => ?_
  case double => exact iteInduction (fun _ => .short '"' (by decide)) fun _ => .itself other
  refine iteInduction (fun _ => .code) fun _ => ?_
  exact iteInduction (fun _ => .itself other) fun _ => .code

/-- An escape has no line end, and besides the character it stands for it needs ASCII only. -/
theorem mem_escaped {rule : EscapeRule} {c d : Char} (mem : d ∈ escaped rule c) :
    d ≠ '\n' ∧ (d = c ∨ d.toNat < 128) := by
  have written := writes_escaped rule c
  generalize escaped rule c = cs at mem written
  cases written with
  | short letter known =>
    have ascii : ∀ e ∈ '\\' :: "0trn\\'\"".toList, e ≠ '\n' ∧ e.toNat < 128 := by simp
    refine (ascii d ?_).imp_right .inr
    rcases List.mem_cons.mp mem with rfl | last
    · exact List.mem_cons_self
    · rw [List.mem_singleton.mp last]
      exact List.mem_cons_of_mem _ known
  | code => exact (mem_codeEscape mem).imp_right .inr
  | itself other =>
    rw [List.mem_singleton] at mem
    exact ⟨mem ▸ other, .inl mem⟩

theorem mem_escapedText {text : List Char} {d : Char} (mem : d ∈ escapedText text) :
    d ≠ '\n' ∧ (d ∈ text ∨ d.toNat < 128) := by
  have origin {rule : EscapeRule} {c : Char} (here : c ∈ text) (mem : d ∈ escaped rule c) :
      d ≠ '\n' ∧ (d ∈ text ∨ d.toNat < 128) := by
    obtain ⟨other, rfl | ascii⟩ := mem_escaped mem
    · exact ⟨other, .inl here⟩
    · exact ⟨other, .inr ascii⟩
  cases text with
  | nil => cases mem
  | cons c rest =>
    rcases List.mem_append.mp mem with first | later
    · exact origin List.mem_cons_self first
    · obtain ⟨e, here, written⟩ := List.mem_flatMap.mp later
      exact origin (List.mem_cons_of_mem c here) written

end Trackplan.Text
