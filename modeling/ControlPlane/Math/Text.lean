/-
# Texts and their byte length

Validators written in different languages measure texts differently: some count
characters, some count the bytes of the UTF-8 encoding. On texts of seven-bit
characters the two agree. Readers also trim texts and search them from their end.
-/

import Mathlib.Data.Char
import Mathlib.Data.List.DropRight
import Mathlib.Data.UInt

namespace ControlPlane.Math

/-- A lower-case Latin letter or a digit. -/
def isLowerAlphanumeric (c : Char) : Bool :=
  (decide ('a' ≤ c) && decide (c ≤ 'z')) || (decide ('0' ≤ c) && decide (c ≤ '9'))

/-- A lower-case hexadecimal digit. -/
def isLowerHex (c : Char) : Bool :=
  (decide ('0' ≤ c) && decide (c ≤ '9')) || (decide ('a' ≤ c) && decide (c ≤ 'f'))

/-- The length of the UTF-8 encoding. -/
def byteLength (chars : List Char) : Nat :=
  (chars.map Char.utf8Size).sum

/-- Whether two neighbouring characters are both `c`. -/
def hasDouble (c : Char) : List Char → Bool
  | first :: second :: rest =>
    (decide (first = c) && decide (second = c)) || hasDouble c (second :: rest)
  | _ => false

variable {c : Char} {chars back : List Char}

theorem byteLength_of_ascii (h : ∀ c ∈ chars, c.utf8Size = 1) :
    byteLength chars = chars.length := by
  induction chars with
  | nil => rfl
  | cons c rest ih =>
    have hrest := ih fun d hd => h d (List.mem_cons_of_mem c hd)
    have hhead := h c List.mem_cons_self
    unfold byteLength at hrest ⊢
    rw [List.map_cons, List.sum_cons, hhead, hrest, List.length_cons, Nat.add_comm]

theorem utf8Size_of_le (h : c ≤ 'z') : c.utf8Size = 1 := by
  have hlast : ('z' : Char).val ≤ 0x7f := by decide
  have hval : c.val ≤ 0x7f := UInt32.le_trans (show c.val ≤ ('z' : Char).val from h) hlast
  simp [Char.utf8Size, hval]

theorem utf8Size_of_isLowerAlphanumeric (h : isLowerAlphanumeric c = true) : c.utf8Size = 1 := by
  simp only [isLowerAlphanumeric, Bool.or_eq_true, Bool.and_eq_true, decide_eq_true_eq] at h
  rcases h with ⟨-, h⟩ | ⟨-, h⟩
  · exact utf8Size_of_le h
  · exact utf8Size_of_le (le_trans h (by decide))

theorem utf8Size_of_isLowerHex (h : isLowerHex c = true) : c.utf8Size = 1 := by
  simp only [isLowerHex, Bool.or_eq_true, Bool.and_eq_true, decide_eq_true_eq] at h
  rcases h with ⟨-, h⟩ | ⟨-, h⟩
  · exact utf8Size_of_le (le_trans h (by decide))
  · exact utf8Size_of_le (le_trans h (by decide))

/-- Remove the characters of a class from both ends. -/
def trimBy (space : Char → Bool) (chars : List Char) : List Char :=
  (chars.dropWhile space).rdropWhile space

section Trim

variable {space keep : Char → Bool} (h : ∀ c, space c = true → keep c = false)

include h

theorem filter_dropWhile (chars : List Char) :
    (chars.dropWhile space).filter keep = chars.filter keep := by
  induction chars with
  | nil => rfl
  | cons c rest ih =>
    by_cases hc : space c = true
    · rw [List.dropWhile_cons_of_pos hc, ih, List.filter_cons_of_neg (by simp [h c hc])]
    · rw [List.dropWhile_cons_of_neg hc]

/-- What is not a space is not touched by trimming. -/
theorem filter_trimBy (chars : List Char) :
    (trimBy space chars).filter keep = chars.filter keep := by
  rw [trimBy, List.rdropWhile, List.filter_reverse, filter_dropWhile h, List.filter_reverse,
    List.reverse_reverse, filter_dropWhile h]

end Trim

/-- The position of the last occurrence of a character. -/
def rfind (c : Char) : List Char → Option Nat
  | [] => none
  | x :: rest =>
    match rfind c rest with
    | some position => some (position + 1)
    | none => if x = c then some 0 else none

theorem rfind_eq_none_iff : rfind c chars = none ↔ c ∉ chars := by
  induction chars with
  | nil => simp [rfind]
  | cons x rest ih =>
    rw [rfind, List.mem_cons, not_or, ← ih]
    cases rfind c rest with
    | some position => simp
    | none => simp [eq_comm]

theorem rfind_append (h : c ∉ back) (front : List Char) :
    rfind c (front ++ back) = rfind c front := by
  induction front with
  | nil => exact rfind_eq_none_iff.mpr h
  | cons x rest ih => rw [List.cons_append, rfind, rfind, ih]

theorem rfind_append_cons (h : c ∉ back) (front : List Char) :
    rfind c (front ++ c :: back) = some front.length := by
  induction front with
  | nil => simp [rfind, rfind_eq_none_iff.mpr h]
  | cons x rest ih => rw [List.cons_append, rfind, ih, List.length_cons]

theorem rfind_lt_length {position : Nat} (h : rfind c chars = some position) :
    position < chars.length := by
  induction chars generalizing position with
  | nil => cases h
  | cons x rest ih =>
    rw [rfind] at h
    split at h
    · rename_i inner hinner
      cases h
      exact Nat.succ_lt_succ (ih hinner)
    · split at h
      · cases h
        exact Nat.succ_pos _
      · cases h

end ControlPlane.Math
