import Trackplan.Json.Text

/-! Texts of JSON values. No two values have the same text: a text that begins with the text of one
value begins with that of no other, as long as no digit follows. -/
namespace Trackplan.Json

/-- What follows does not prolong a number. -/
def Ends (rest : List Char) : Prop := ∀ c ∈ rest.head?, c.isDigit = false

/-- A text that begins with the value's begins with that of no other value. -/
def Tells {α : Type} (text : α → String) (a : α) : Prop :=
  ∀ b rest rest', Ends rest → Ends rest' → (text a).toList ++ rest = (text b).toList ++ rest' →
    a = b ∧ rest = rest'

theorem ends_cons {c : Char} (other : c.isDigit = false) (rest : List Char) : Ends (c :: rest) := by
  intro d first
  cases first
  exact other

theorem Tells.injective {α : Type} {text : α → String} (tells : ∀ a, Tells text a) :
    Function.Injective text := by
  intro a b same
  have none : Ends [] := fun c first => nomatch first
  exact (tells a b [] [] none none (by rw [same])).1

section Characters

def hexValue (c : Char) : Nat :=
  if c.isDigit then c.toNat - '0'.toNat else c.toNat - 'a'.toNat + 10

/-- The character that a quoted text begins with. -/
def unquotedChar : List Char → Option (Char × List Char)
  | [] => none
  | '\\' :: 'b' :: rest => some ('\x08', rest)
  | '\\' :: 'f' :: rest => some ('\x0c', rest)
  | '\\' :: 'n' :: rest => some ('\n', rest)
  | '\\' :: 'r' :: rest => some ('\r', rest)
  | '\\' :: 't' :: rest => some ('\t', rest)
  | '\\' :: 'u' :: '0' :: '0' :: high :: low :: rest =>
    some (Char.ofNat (16 * hexValue high + hexValue low), rest)
  | '\\' :: c :: rest => some (c, rest)
  | c :: rest => some (c, rest)

theorem hexValue_hexDigit : ∀ n < 16, hexValue (hexDigit n) = n := by decide

theorem unquotedChar_plain {c : Char} (plain : c ≠ '\\') (rest : List Char) :
    unquotedChar (c :: rest) = some (c, rest) := by
  unfold unquotedChar
  split <;> simp_all

theorem unquotedChar_quotedChar (c : Char) (rest : List Char) :
    unquotedChar (quotedChar c ++ rest) = some (c, rest) := by
  unfold quotedChar
  split
  case h_8 =>
    split
    · rename_i control
      have high : hexValue (hexDigit (c.toNat / 16)) = c.toNat / 16 :=
        hexValue_hexDigit _ (by omega)
      have low : hexValue (hexDigit (c.toNat % 16)) = c.toNat % 16 := hexValue_hexDigit _ (by omega)
      change some (Char.ofNat _, rest) = _
      rw [high, low, Nat.div_add_mod, Char.ofNat_toNat]
    · exact unquotedChar_plain ‹_› rest
  all_goals rfl

/-- A quoted character begins with no quote. -/
theorem quotedChar_ne {c : Char} {rest rest' : List Char} :
    quotedChar c ++ rest ≠ '"' :: rest' := by
  unfold quotedChar
  split
  case h_8 =>
    split
    · exact fun same => absurd (List.cons.inj same).1 (by decide)
    · exact fun same => absurd (List.cons.inj same).1 ‹_›
  all_goals exact fun same => absurd (List.cons.inj same).1 (by decide)

theorem quotedChars_tell {cs ds rest rest' : List Char}
    (same : cs.flatMap quotedChar ++ '"' :: rest = ds.flatMap quotedChar ++ '"' :: rest') :
    cs = ds ∧ rest = rest' := by
  induction cs generalizing ds with
  | nil =>
    cases ds with
    | nil => exact ⟨rfl, (List.cons.inj same).2⟩
    | cons d ds =>
      rw [List.flatMap_cons, List.append_assoc] at same
      exact absurd same.symm quotedChar_ne
  | cons c cs ih =>
    cases ds with
    | nil =>
      rw [List.flatMap_cons, List.append_assoc] at same
      exact absurd same quotedChar_ne
    | cons d ds =>
      rw [List.flatMap_cons, List.flatMap_cons, List.append_assoc, List.append_assoc] at same
      have read := congrArg unquotedChar same
      rw [unquotedChar_quotedChar, unquotedChar_quotedChar, Option.some.injEq,
        Prod.mk.injEq] at read
      obtain ⟨rfl, others⟩ := read
      obtain ⟨rfl, rest⟩ := ih others
      exact ⟨rfl, rest⟩

theorem toList_quoted (s : String) (rest : List Char) :
    (quoted s).toList ++ rest = '"' :: (s.toList.flatMap quotedChar ++ '"' :: rest) := by
  simp [quoted]

theorem quoted_tells (s : String) : Tells quoted s := by
  intro t rest rest' _ _ same
  rw [toList_quoted, toList_quoted] at same
  obtain ⟨chars, rest⟩ := quotedChars_tell (List.cons.inj same).2
  exact ⟨String.toList_injective chars, rest⟩

end Characters

theorem isDigit_of_mem {n : Nat} {c : Char} (mem : c ∈ (toString n).toList) : c.isDigit = true := by
  change c ∈ n.repr.toList at mem
  rw [Nat.repr_eq_ofList_toDigits, String.toList_ofList] at mem
  exact Nat.isDigit_of_mem_toDigits (by decide) (by decide) mem

theorem takeWhile_number (n : Nat) {rest : List Char} (ends : Ends rest) :
    ((toString n).toList ++ rest).takeWhile Char.isDigit = (toString n).toList := by
  rw [List.takeWhile_append_of_pos fun _ mem => isDigit_of_mem mem]
  cases rest with
  | nil => exact List.append_nil _
  | cons c rest =>
    rw [List.takeWhile_cons, if_neg (by simp [ends c rfl]), List.append_nil]

theorem number_tells (n : Nat) : Tells (fun n : Nat => toString n) n := by
  intro m rest rest' ends ends' same
  have digits := congrArg (List.takeWhile Char.isDigit) same
  dsimp only at digits same
  rw [takeWhile_number n ends, takeWhile_number m ends'] at digits
  have numbers : n = m := by
    simpa [Nat.toString_eq_ofList_toDigits] using
      congrArg (fun digits => Nat.ofDigitChars 10 digits 0) digits
  rw [numbers, List.append_cancel_left_eq] at same
  exact ⟨numbers, same⟩

section Parts

variable {α : Type} {text : α → String} {level : Nat}

/-- The parts after the first one, and the bracket. -/
def following (closing : Char) (level : Nat) : List String → List Char
  | [] => (newLine level).toList ++ [closing]
  | part :: parts =>
    ',' :: ((newLine (level + 1)).toList ++ part.toList ++ following closing level parts)

theorem toList_newLine (level : Nat) :
    (newLine level).toList = '\n' :: List.replicate (2 * level) ' ' := by
  simp [newLine]

theorem ends_following (closing : Char) (level : Nat) (parts : List String) (rest : List Char) :
    Ends (following closing level parts ++ rest) := by
  cases parts with
  | nil =>
    rw [following, toList_newLine]
    exact ends_cons rfl _
  | cons part parts => exact ends_cons rfl _

/-- A first part and those after it are told if the part is. -/
theorem Tells.following {a b : α} (tells : Tells text a) {closing : Char} {as bs : List α}
    {rest rest' : List Char}
    (same : (text a).toList ++ (Json.following closing level (as.map text) ++ rest) =
      (text b).toList ++ (Json.following closing level (bs.map text) ++ rest')) :
    a = b ∧ Json.following closing level (as.map text) ++ rest =
      Json.following closing level (bs.map text) ++ rest' :=
  tells b _ _ (ends_following closing level _ rest) (ends_following closing level _ rest') same

theorem following_tells {as bs : List α} (tells : ∀ a ∈ as, Tells text a) {closing : Char}
    {rest rest' : List Char} (same : following closing level (as.map text) ++ rest =
      following closing level (bs.map text) ++ rest') : as = bs ∧ rest = rest' := by
  induction as generalizing bs with
  | nil =>
    cases bs with
    | nil => exact ⟨rfl, List.append_cancel_left same⟩
    | cons b bs =>
      rw [List.map_nil, following, toList_newLine] at same
      exact absurd (List.cons.inj same).1 (by decide)
  | cons a as ih =>
    cases bs with
    | nil =>
      simp only [List.map_nil, following, toList_newLine] at same
      exact absurd (List.cons.inj same).1 (by decide)
    | cons b bs =>
      rw [List.forall_mem_cons] at tells
      simp only [List.map_cons, following, List.cons_append, List.append_assoc, List.cons.injEq,
        List.append_cancel_left_eq, true_and] at same
      obtain ⟨rfl, later⟩ := tells.1.following same
      obtain ⟨rfl, rest⟩ := ih tells.2 later
      exact ⟨rfl, rest⟩

theorem intercalate_append (closing : Char) (level : Nat) (part : String) (parts : List String) :
    (String.intercalate ("," ++ newLine (level + 1)) (part :: parts)).toList ++
        ((newLine level).toList ++ [closing]) =
      part.toList ++ following closing level parts := by
  induction parts generalizing part with
  | nil => simp [following]
  | cons next parts ih =>
    rw [String.intercalate_cons_cons]
    simp only [String.toList_append, List.append_assoc, ih, following]
    simp

variable {opening closing : String} {first last : Char}

theorem toList_enclosed_nil (opens : opening.toList = [first]) (closes : closing.toList = [last])
    (level : Nat) :
    (enclosed opening closing level []).toList = [first, last] := by
  simp [enclosed, opens, closes]

theorem toList_enclosed_cons (opens : opening.toList = [first]) (closes : closing.toList = [last])
    (level : Nat) (part : String) (parts : List String) :
    (enclosed opening closing level (part :: parts)).toList =
      first :: ((newLine (level + 1)).toList ++ part.toList ++ following last level parts) := by
  have inner := intercalate_append last level part parts
  simp only [enclosed, String.toList_append, opens, closes, List.append_assoc] at inner ⊢
  rw [inner]
  rfl

/-- Parts between brackets are told by what stands between the brackets. -/
theorem enclosed_tells (opens : opening.toList = [first]) (closes : closing.toList = [last])
    (bracket : last ≠ '\n') {as bs : List α} (tells : ∀ a ∈ as, Tells text a)
    {rest rest' : List Char} (same : (enclosed opening closing level (as.map text)).toList ++ rest =
      (enclosed opening closing level (bs.map text)).toList ++ rest') : as = bs ∧ rest = rest' := by
  have empty := toList_enclosed_nil opens closes level
  have filled := toList_enclosed_cons opens closes level
  cases as with
  | nil =>
    cases bs with
    | nil => exact ⟨rfl, List.append_cancel_left same⟩
    | cons b bs =>
      rw [List.map_nil, List.map_cons, empty, filled, toList_newLine] at same
      exact absurd (List.cons.inj (List.cons.inj same).2).1 bracket
  | cons a as =>
    cases bs with
    | nil =>
      rw [List.map_nil, List.map_cons, empty, filled, toList_newLine] at same
      exact absurd (List.cons.inj (List.cons.inj same).2).1.symm bracket
    | cons b bs =>
      rw [List.forall_mem_cons] at tells
      simp only [List.map_cons, filled, List.cons_append, List.append_assoc, List.cons.injEq,
        List.append_cancel_left_eq, true_and] at same
      obtain ⟨rfl, later⟩ := tells.1.following same
      obtain ⟨rfl, rest⟩ := following_tells tells.2 later
      exact ⟨rfl, rest⟩

/-- Brackets come first, whatever stands between them. -/
theorem exists_toList_enclosed (opens : opening.toList = [first]) (closes : closing.toList = [last])
    (parts : List String) :
    ∃ rest, (enclosed opening closing level parts).toList = first :: rest := by
  cases parts with
  | nil => exact ⟨_, toList_enclosed_nil opens closes level⟩
  | cons part parts => exact ⟨_, toList_enclosed_cons opens closes level part parts⟩

end Parts

section Kinds

variable {level : Nat}

/-- A text begins differently for each kind of value. -/
def Begins (c : Char) : Json → Prop
  | .null => c = 'n'
  | .number _ => c.isDigit = true
  | .text _ => c = '"'
  | .list _ => c = '['
  | .object _ => c = '\x7b'

theorem toList_brackets : "[".toList = ['['] ∧ "]".toList = [']'] := by decide

theorem toList_braces : "\x7b".toList = ['\x7b'] ∧ "\x7d".toList = ['\x7d'] := by decide

theorem exists_begins (level : Nat) (v : Json) :
    ∃ c rest, (v.pretty level).toList = c :: rest ∧ Begins c v := by
  cases v with
  | null => exact ⟨'n', ['u', 'l', 'l'], by simp [pretty], rfl⟩
  | number n =>
    rw [pretty]
    cases digits : (toString n).toList with
    | nil =>
      have none : n.repr = "" := String.toList_injective digits
      exact absurd none Nat.repr_ne_empty
    | cons c rest => exact ⟨c, rest, rfl, isDigit_of_mem (digits ▸ List.mem_cons_self)⟩
  | text s =>
    rw [pretty, ← List.append_nil (quoted s).toList, toList_quoted]
    exact ⟨_, _, rfl, rfl⟩
  | list items =>
    rw [pretty]
    obtain ⟨rest, text⟩ := exists_toList_enclosed toList_brackets.1 toList_brackets.2 _
    exact ⟨_, rest, text, rfl⟩
  | object fields =>
    rw [pretty]
    obtain ⟨rest, text⟩ := exists_toList_enclosed toList_braces.1 toList_braces.2 _
    exact ⟨_, rest, text, rfl⟩

/-- Values with texts that begin alike are of one kind. -/
theorem begins_alike {v w : Json} {rest rest' : List Char}
    (same : (v.pretty level).toList ++ rest = (w.pretty level).toList ++ rest') :
    ∃ c, Begins c v ∧ Begins c w := by
  obtain ⟨c, _, textV, beginsV⟩ := exists_begins level v
  obtain ⟨d, _, textW, beginsW⟩ := exists_begins level w
  rw [textV, textW] at same
  obtain rfl := (List.cons.inj same).1
  exact ⟨c, beginsV, beginsW⟩

end Kinds

theorem prettyFields_eq (level : Nat) (fields : List (String × Json)) :
    prettyFields level fields = fields.map (prettyField level) := by
  induction fields with
  | nil => rfl
  | cons field fields ih => rw [prettyFields, ih, List.map_cons]

mutual

theorem pretty_tells (level : Nat) : ∀ v : Json, Tells (pretty level) v
  | .null => by
    intro w rest rest' _ _ same
    obtain ⟨c, begins, begins'⟩ := begins_alike same
    cases w with
    | null => exact ⟨rfl, List.append_cancel_left same⟩
    | _ => simp_all [Begins]
  | .number n => by
    intro w rest rest' ends ends' same
    obtain ⟨c, begins, begins'⟩ := begins_alike same
    cases w with
    | number m =>
      obtain ⟨rfl, rest⟩ := number_tells n m rest rest' ends ends' same
      exact ⟨rfl, rest⟩
    | _ => simp_all [Begins]
  | .text s => by
    intro w rest rest' ends ends' same
    obtain ⟨c, begins, begins'⟩ := begins_alike same
    cases w with
    | text t =>
      rw [pretty, pretty] at same
      obtain ⟨rfl, rest⟩ := quoted_tells s t rest rest' ends ends' same
      exact ⟨rfl, rest⟩
    | _ => simp_all [Begins]
  | .list items => by
    intro w rest rest' ends ends' same
    obtain ⟨c, begins, begins'⟩ := begins_alike same
    cases w with
    | list others =>
      rw [pretty, pretty, prettyItems_eq, prettyItems_eq] at same
      obtain ⟨rfl, rest⟩ := enclosed_tells toList_brackets.1 toList_brackets.2 (by decide)
        (items_tell (level + 1) items) same
      exact ⟨rfl, rest⟩
    | _ => simp_all [Begins]
  | .object fields => by
    intro w rest rest' ends ends' same
    obtain ⟨c, begins, begins'⟩ := begins_alike same
    cases w with
    | object others =>
      rw [pretty, pretty, prettyFields_eq, prettyFields_eq] at same
      obtain ⟨rfl, rest⟩ := enclosed_tells toList_braces.1 toList_braces.2 (by decide)
        (fields_tell (level + 1) fields) same
      exact ⟨rfl, rest⟩
    | _ => simp_all [Begins]

theorem items_tell (level : Nat) : ∀ items : List Json, ∀ v ∈ items, Tells (pretty level) v
  | [] => fun _ mem => nomatch mem
  | item :: items => List.forall_mem_cons.2 ⟨pretty_tells level item, items_tell level items⟩

theorem fields_tell (level : Nat) :
    ∀ fields : List (String × Json), ∀ field ∈ fields, Tells (prettyField level) field
  | [] => fun _ mem => nomatch mem
  | field :: fields => List.forall_mem_cons.2 ⟨field_tells level field, fields_tell level fields⟩

theorem field_tells (level : Nat) : ∀ field : String × Json, Tells (prettyField level) field
  | (key, value) => by
    rintro ⟨key', value'⟩ rest rest' ends ends' same
    simp only [prettyField, String.toList_append, List.append_assoc] at same
    have colon (rest : List Char) : Ends (": ".toList ++ rest) := ends_cons rfl _
    obtain ⟨rfl, later⟩ := quoted_tells key key' _ _ (colon _) (colon _) same
    obtain ⟨rfl, rest⟩ :=
      pretty_tells level value value' rest rest' ends ends' (List.append_cancel_left later)
    exact ⟨rfl, rest⟩

end

/-- The text tells the value. -/
theorem pretty_injective (level : Nat) : Function.Injective (pretty level) :=
  Tells.injective (pretty_tells level)

end Trackplan.Json
