/-
# Codes that can be read back

A code is unambiguous when its words can be cut off the front of a text in one way
only. Words of one length are unambiguous, and so are words put one after the other,
words behind their length, and lists of words that are not empty. Nothing has to say
how many words there are.
-/

import ControlPlane.Math.Text
import Mathlib.Data.List.Basic
import Mathlib.Logic.Function.Basic

namespace ControlPlane.Math

universe u v w

variable {α : Type u} {γ : Type v} {β : Type w}

/-- A word can be cut off the front of a text in one way only. -/
def Unambiguous (encode : α → List β) : Prop :=
  ∀ ⦃a b rest rest'⦄, encode a ++ rest = encode b ++ rest' → a = b ∧ rest = rest'

namespace Unambiguous

variable {encode : α → List β}

theorem of_length (hinj : encode.Injective) {length : Nat}
    (hlength : ∀ a, (encode a).length = length) : Unambiguous encode := by
  intro a b rest rest' heq
  obtain ⟨hword, hrest⟩ := List.append_inj heq ((hlength a).trans (hlength b).symm)
  exact ⟨hinj hword, hrest⟩

theorem comp (h : Unambiguous encode) {f : γ → α} (hf : f.Injective) :
    Unambiguous fun c => encode (f c) := by
  intro a b rest rest' heq
  obtain ⟨hword, hrest⟩ := h heq
  exact ⟨hf hword, hrest⟩

theorem append {first : α → List β} {second : γ → List β} (hfirst : Unambiguous first)
    (hsecond : Unambiguous second) :
    Unambiguous fun pair : α × γ => first pair.1 ++ second pair.2 := by
  rintro ⟨a, c⟩ ⟨b, d⟩ rest rest' heq
  simp only [List.append_assoc] at heq
  obtain ⟨rfl, htail⟩ := hfirst heq
  obtain ⟨rfl, hrest⟩ := hsecond htail
  exact ⟨rfl, hrest⟩

/-- Words behind a head of fixed size that tells their length. -/
theorem behind (head : Nat → List β) (size : Nat) (hsize : ∀ length, (head length).length = size)
    (hinj : encode.Injective)
    (hhead : ∀ a b, head (encode a).length = head (encode b).length →
      (encode a).length = (encode b).length) :
    Unambiguous fun a => head (encode a).length ++ encode a := by
  intro a b rest rest' heq
  simp only [List.append_assoc] at heq
  obtain ⟨hlength, htail⟩ := List.append_inj heq (by rw [hsize, hsize])
  obtain ⟨hword, hrest⟩ := List.append_inj htail (hhead a b hlength)
  exact ⟨hinj hword, hrest⟩

/-- An absent value is a word of its own, and no other word starts with it. -/
theorem option (h : Unambiguous encode) {absent : List β}
    (habsent : ∀ a rest rest', encode a ++ rest ≠ absent ++ rest') :
    Unambiguous fun value : Option α => value.elim absent encode := by
  intro a b rest rest' heq
  cases a with
  | none =>
    cases b with
    | none => exact ⟨rfl, List.append_cancel_left heq⟩
    | some b => exact absurd heq.symm (habsent b _ _)
  | some a =>
    cases b with
    | none => exact absurd heq (habsent a _ _)
    | some b =>
      obtain ⟨rfl, hrest⟩ := h heq
      exact ⟨rfl, hrest⟩

theorem flatMap_injective (h : Unambiguous encode)
    (hne : ∀ a, encode a ≠ []) : Function.Injective (List.flatMap encode) := by
  intro xs
  induction xs with
  | nil =>
    intro ys heq
    cases ys with
    | nil => rfl
    | cons y ys => simp [hne y] at heq
  | cons x xs ih =>
    intro ys heq
    cases ys with
    | nil => simp [hne x] at heq
    | cons y ys =>
      simp only [List.flatMap_cons] at heq
      obtain ⟨rfl, htail⟩ := h heq
      rw [ih htail]

end Unambiguous

/-! ## Bytes -/

/-- The last `count` bytes of a number, the highest first. -/
def lastBytes : Nat → Nat → List UInt8
  | 0, _ => []
  | count + 1, value => lastBytes count (value / 256) ++ [UInt8.ofNat value]

@[simp]
theorem length_lastBytes (count value : Nat) : (lastBytes count value).length = count := by
  induction count generalizing value with
  | zero => rfl
  | succ count ih => simp [lastBytes, ih]

theorem lastBytes_inj {count a b : Nat} (ha : a < 256 ^ count) (hb : b < 256 ^ count)
    (h : lastBytes count a = lastBytes count b) : a = b := by
  induction count generalizing a b with
  | zero => omega
  | succ count ih =>
    rw [Nat.pow_succ] at ha hb
    obtain ⟨hhigh, hlow⟩ := List.append_inj' h rfl
    have hquotient := ih (Nat.div_lt_of_lt_mul (by omega)) (Nat.div_lt_of_lt_mul (by omega)) hhigh
    have hbyte : UInt8.ofNat a = UInt8.ofNat b := by simpa using hlow
    have hremainder : a % 256 = b % 256 := by simpa using congrArg UInt8.toNat hbyte
    omega

/-- The UTF-8 encoding of a text. -/
def octets (text : String) : List UInt8 :=
  text.toList.flatMap String.utf8EncodeChar

theorem octets_injective : octets.Injective := by
  intro a b h
  have hbytes : a.toList.utf8Encode = b.toList.utf8Encode := congrArg List.toByteArray h
  rw [← String.toByteArray_ofList, ← String.toByteArray_ofList, String.toByteArray_inj,
    String.ofList_toList, String.ofList_toList] at hbytes
  exact hbytes

theorem length_octets (text : String) : (octets text).length = byteLength text.toList := by
  rw [octets, byteLength, List.length_flatMap]
  congr 1
  exact List.map_congr_left fun c _ => String.length_utf8EncodeChar c

end ControlPlane.Math
