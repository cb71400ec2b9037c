/-! Shortening a label to a number of characters, with an ellipsis in the last place when
something was cut. -/
namespace Trackplan.Text

def clipped (limit : Nat) (text : List Char) : List Char :=
  match limit with
  | 0 => []
  | room + 1 => if text.length ≤ room + 1 then text else text.take room ++ ['…']

def clip (limit : Nat) (text : String) : String := .ofList (clipped limit text.toList)

@[simp] theorem toList_clip (limit : Nat) (text : String) :
    (clip limit text).toList = clipped limit text.toList := by
  simp [clip]

theorem length_clipped (limit : Nat) (text : List Char) :
    (clipped limit text).length = min limit text.length := by
  cases limit with
  | zero => simp [clipped]
  | succ room =>
    simp only [clipped]
    split
    · exact (Nat.min_eq_right ‹_›).symm
    · rw [List.length_append, List.length_take, List.length_singleton]; omega

theorem clipped_of_length_le {limit : Nat} {text : List Char} (h : text.length ≤ limit) :
    clipped limit text = text := by
  cases limit with
  | zero => rw [List.length_eq_zero_iff.1 (Nat.le_zero.1 h)]; rfl
  | succ room => simp [clipped, h]

theorem length_clip (limit : Nat) (text : String) :
    (clip limit text).length = min limit text.length := by
  rw [← String.length_toList, toList_clip, length_clipped, String.length_toList]

theorem mem_clipped {limit : Nat} {text : List Char} {c : Char} (mem : c ∈ clipped limit text) :
    c ∈ text ∨ c = '…' := by
  cases limit with
  | zero => cases mem
  | succ room =>
    simp only [clipped] at mem
    split at mem
    · exact .inl mem
    · exact (List.mem_append.mp mem).imp List.mem_of_mem_take List.mem_singleton.mp

theorem getLast?_clipped {limit : Nat} (text : List Char) (room : 0 < limit) :
    (clipped limit text).getLast? = text.getLast? ∨ (clipped limit text).getLast? = some '…' := by
  obtain ⟨room, rfl⟩ := Nat.exists_eq_succ_of_ne_zero (Nat.ne_of_gt room)
  simp only [clipped]
  split
  · exact .inl rfl
  · exact .inr List.getLast?_concat

end Trackplan.Text
