import Mathlib.Data.List.DropRight
import ReversePolish.Text

/-! # What is trimmed

Trimming a text on the right is dropping from its end (`Text.trimRight_eq_rdropWhile`), and so what
is trimmed off is made of characters that are to be dropped, and what is left does not end in
one.
-/

namespace ReversePolish.Text

variable {drop : Char → Bool} {text front back : Text}

theorem trimRight_eq_rdropWhile (drop : Char → Bool) (text : Text) :
    trimRight drop text = text.rdropWhile drop := by
  induction text with
  | nil => rfl
  | cons c rest ih =>
      rw [trimRight, ih, List.rdropWhile, List.rdropWhile, List.reverse_cons, List.dropWhile_append]
      cases kept : rest.reverse.dropWhile drop with
      | nil => cases first : drop c <;> simp [first]
      | cons last others => simp

theorem trimRight_eq_self_of_getLast? (kept : ∀ c ∈ text.getLast?, drop c = false) :
    trimRight drop text = text := by
  rw [trimRight_eq_rdropWhile, List.rdropWhile_eq_self_iff]
  intro nonempty
  rw [kept _ (List.getLast?_eq_some_getLast nonempty)]
  exact Bool.false_ne_true

theorem trimRight_eq_self (kept : ∀ c ∈ text, drop c = false) : trimRight drop text = text :=
  trimRight_eq_self_of_getLast? fun c last => kept c (List.mem_of_getLast? last)

theorem getLast?_trimRight : ∀ c ∈ (trimRight drop text).getLast?, drop c = false := by
  intro c last
  rw [trimRight_eq_rdropWhile] at last
  obtain ⟨nonempty, rfl⟩ := List.mem_getLast?_eq_getLast last
  simpa using List.rdropWhile_last_not drop text nonempty

/-- What is cut off at the end of a text is to be dropped. -/
theorem exists_trimRight_append (drop : Char → Bool) (text : Text) :
    ∃ cut, text = trimRight drop text ++ cut ∧ ∀ c ∈ cut, drop c = true := by
  refine ⟨text.rtakeWhile drop, ?_, fun c => List.mem_rtakeWhile_imp⟩
  rw [trimRight_eq_rdropWhile, List.rdropWhile_append_rtakeWhile]

theorem trimRight_append (dropped : ∀ c ∈ back, drop c = true) :
    trimRight drop (text ++ back) = trimRight drop text := by
  rw [trimRight_eq_rdropWhile, trimRight_eq_rdropWhile, List.rdropWhile, List.reverse_append,
    List.dropWhile_append_of_pos (by simpa using dropped), List.rdropWhile]

theorem trim_eq_self (kept : ∀ c ∈ text, drop c = false) : trim drop text = text := by
  have front : text.dropWhile drop = text := by
    cases text with
    | nil => rfl
    | cons c rest => exact List.dropWhile_cons_of_neg (by simp [kept c (by simp)])
  rw [trim, front, trimRight_eq_self kept]

/-- What is cut off at the ends of a text is to be dropped. -/
theorem exists_append_trim_append (drop : Char → Bool) (text : Text) :
    ∃ left right, text = left ++ trim drop text ++ right ∧ (∀ c ∈ left, drop c = true) ∧
      ∀ c ∈ right, drop c = true := by
  obtain ⟨cut, split, dropped⟩ := exists_trimRight_append drop (text.dropWhile drop)
  refine ⟨text.takeWhile drop, cut, ?_, fun c => List.mem_takeWhile_imp, dropped⟩
  rw [trim, List.append_assoc, ← split, List.takeWhile_append_dropWhile]

/-- Around a text that has nothing to be dropped, all is cut off that is. -/
theorem trim_append (frontDropped : ∀ c ∈ front, drop c = true)
    (kept : ∀ c ∈ text, drop c = false) (backDropped : ∀ c ∈ back, drop c = true) :
    trim drop (front ++ text ++ back) = text := by
  rw [trim, List.append_assoc, List.dropWhile_append_of_pos frontDropped]
  cases text with
  | nil => rw [List.nil_append, List.dropWhile_eq_nil_iff.mpr backDropped, trimRight]
  | cons c rest =>
      have first : drop c = false := kept c (List.mem_cons_self ..)
      rw [List.cons_append, List.dropWhile_cons_of_neg (by simp [first]), ← List.cons_append,
        trimRight_append backDropped, trimRight_eq_self kept]

end ReversePolish.Text
