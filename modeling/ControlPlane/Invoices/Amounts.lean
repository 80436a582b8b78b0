/-
# Amounts in recognised invoices

The recognition service returns an amount as the text that is printed on the page. The
reader keeps the digits, the minus sign and the two separators, takes the separator that
comes last for the decimal point, and leaves the rest to the decimal type. A separator in
the text around the number is kept as well, so an abbreviated currency can make an amount
unreadable, or a hundred times as large.
-/

import ControlPlane.Math.Json
import ControlPlane.Math.Text
import Mathlib.Data.Bool.AllAny

namespace ControlPlane.Invoices

open Math

/-! ## Decimals -/

/-- A decimal of 96 bits with at most 28 digits after the point. -/
structure Decimal where
  mantissa : Int
  scale : Nat
  bounded : mantissa.natAbs < 2 ^ 96 ∧ scale ≤ 28
  deriving DecidableEq

/-- The number that decimal digits denote. -/
def digitsValue (digits : List Char) : Nat :=
  digits.foldl (fun value c => value * 10 + (c.toNat - '0'.toNat)) 0

namespace Decimal

/-- The decimal with these digits, the last `scale` of them after the point. -/
def ofDigits (sign : Int) (digits : List Char) (scale : Nat) : Option Decimal :=
  if h : digits ≠ [] ∧ (sign * digitsValue digits).natAbs < 2 ^ 96 ∧ scale ≤ 28 then
    some ⟨sign * digitsValue digits, scale, h.2⟩
  else none

/-- A number without its sign: digits with at most one point among them. -/
def unsigned (sign : Int) (chars : List Char) : Option Decimal :=
  let whole := chars.takeWhile Char.isDigit
  match chars.dropWhile Char.isDigit with
  | [] => ofDigits sign whole 0
  | '.' :: fraction =>
    if fraction.all Char.isDigit then ofDigits sign (whole ++ fraction) fraction.length else none
  | _ => none

/-- `Decimal::from_str` on texts of digits, minus signs and points. A number that does not
fit is refused here. -/
def fromStr : List Char → Option Decimal
  | '-' :: chars => unsigned (-1) chars
  | chars => unsigned 1 chars

variable {chars rest : List Char} {sign : Int} {d : Decimal}

theorem scale_ofDigits {scale : Nat} (h : ofDigits sign chars scale = some d) :
    d.scale = scale := by
  unfold ofDigits at h
  split at h
  · cases h
    rfl
  · cases h

theorem scale_unsigned (h : unsigned sign (chars ++ ['.']) = some d) : d.scale = 0 := by
  unfold unsigned at h
  dsimp only at h
  split at h
  · exact scale_ofDigits h
  · rename_i fraction hrest
    split at h
    · rename_i hdigits
      rcases fraction.eq_nil_or_concat with rfl | ⟨front, last, rfl⟩
      · exact scale_ofDigits h
      · -- The last character is the point, which is no digit of a fraction.
        obtain ⟨before, heq⟩ := List.dropWhile_suffix (l := chars ++ ['.']) Char.isDigit
        rw [hrest, List.concat_eq_append, ← List.cons_append, ← List.append_assoc] at heq
        obtain ⟨-, hlast⟩ := List.append_inj' heq rfl
        cases hlast
        simp at hdigits
    · cases h
  · cases h

/-- A text that ends in its point has no fractional digits. -/
theorem scale_fromStr (h : fromStr (chars ++ ['.']) = some d) : d.scale = 0 := by
  unfold fromStr at h
  split at h
  · rename_i tail heq
    cases chars with
    | nil => cases heq
    | cons c front =>
      cases heq
      exact scale_unsigned h
  · exact scale_unsigned h

theorem fromStr_of_not_mem (h : '-' ∉ chars) : fromStr chars = unsigned 1 chars := by
  unfold fromStr
  split
  · simp at h
  · rfl

/-- A number with two points is none. -/
theorem fromStr_point (h : '.' ∈ rest) : fromStr ('.' :: rest) = none := by
  have hdigits : rest.all Char.isDigit = false :=
    List.all_eq_false.mpr ⟨'.', h, by decide⟩
  simp [fromStr, unsigned, hdigits]

end Decimal

/-! ## The reader -/

/-- `char::is_whitespace`. -/
def isWhitespace (c : Char) : Bool :=
  (0x9 ≤ c.toNat && c.toNat ≤ 0xD) || (0x2000 ≤ c.toNat && c.toNat ≤ 0x200A) ||
    c.toNat ∈ [0x20, 0x85, 0xA0, 0x1680, 0x2028, 0x2029, 0x202F, 0x205F, 0x3000]

/-- The characters that are kept of an amount. -/
def isNumeric (c : Char) : Bool :=
  c.isDigit || c ∈ ['-', ',', '.']

/-- One point at most should be left, where the last separator was. -/
def withPoint (numeric : List Char) : List Char :=
  match rfind ',' numeric, rfind '.' numeric with
  | some comma, some dot =>
    if dot < comma then (numeric.filter (· ≠ '.')).map fun c => if c = ',' then '.' else c
    else numeric.filter (· ≠ ',')
  | some _, none => numeric.map fun c => if c = ',' then '.' else c
  | none, _ => numeric

def contentDecimal (value : Json) : Option Decimal :=
  match (value.get "content").bind Json.asStr with
  | none => none
  | some content =>
    let numeric := (trimBy isWhitespace content.toList).filter isNumeric
    if numeric = [] then none else Decimal.fromStr (withPoint numeric)

/-- What becomes of a character when `point` is the last separator. -/
def normal (point c : Char) : Option Char :=
  if c = point then some '.' else if c = ',' ∨ c = '.' then none else some c

theorem map_filter_eq_filterMap (chars : List Char) :
    (chars.filter (· ≠ '.')).map (fun c => if c = ',' then '.' else c) =
      chars.filterMap (normal ',') := by
  rw [← List.filterMap_eq_map, List.filterMap_filter]
  refine List.filterMap_congr fun c _ => ?_
  by_cases hdot : c = '.' <;> by_cases hcomma : c = ',' <;> simp_all [normal]

theorem filter_eq_filterMap (chars : List Char) :
    chars.filter (· ≠ ',') = chars.filterMap (normal '.') := by
  rw [← List.filterMap_eq_filter]
  refine List.filterMap_congr fun c _ => ?_
  by_cases hdot : c = '.' <;> by_cases hcomma : c = ',' <;> simp_all [normal, Option.guard]

theorem filterMap_of_not_mem {point : Char} {chars : List Char}
    (h : ∀ c ∈ chars, c ≠ ',' ∧ c ≠ '.') (hpoint : point = ',' ∨ point = '.') :
    chars.filterMap (normal point) = chars := by
  conv_rhs => rw [← List.filterMap_some (l := chars)]
  refine List.filterMap_congr fun c hc => ?_
  rcases hpoint with rfl | rfl <;> simp [normal, h c hc]

theorem filter_of_not_mem {c : Char} {chars : List Char} (h : c ∉ chars) :
    chars.filter (· ≠ c) = chars :=
  List.filter_eq_self.mpr fun x hx => by simpa using fun heq : x = c => h (heq ▸ hx)

/-- The last separator becomes the point, the other kind is dropped. -/
theorem withPoint_last {point : Char} (hpoint : point = ',' ∨ point = '.') (front : List Char)
    {back : List Char} (hback : ∀ c ∈ back, c ≠ ',' ∧ c ≠ '.') :
    withPoint (front ++ point :: back) = front.filterMap (normal point) ++ '.' :: back := by
  have hcomma : ',' ∉ back := fun hc => (hback _ hc).1 rfl
  have hdot : '.' ∉ back := fun hc => (hback _ hc).2 rfl
  have hall : (front ++ point :: back).filterMap (normal point) =
      front.filterMap (normal point) ++ '.' :: back := by
    have hnormal : normal point point = some '.' := if_pos rfl
    rw [List.filterMap_append, List.filterMap_cons_some hnormal,
      filterMap_of_not_mem hback hpoint]
  rcases hpoint with rfl | rfl
  · rw [← hall, ← map_filter_eq_filterMap, withPoint, rfind_append_cons hcomma,
      rfind_append (by simp [hdot])]
    cases hfound : rfind '.' front with
    | some dot => exact if_pos (rfind_lt_length hfound)
    | none =>
      rw [filter_of_not_mem (by simp [hdot, rfind_eq_none_iff.mp hfound])]
  · rw [← hall, ← filter_eq_filterMap, withPoint, rfind_append_cons hdot,
      rfind_append (by simp [hcomma])]
    cases hfound : rfind ',' front with
    | some comma => exact if_neg (Nat.lt_asymm (rfind_lt_length hfound))
    | none =>
      exact (filter_of_not_mem (by simp [hcomma, rfind_eq_none_iff.mp hfound])).symm

/-! ## Printed amounts -/

/-- A printed amount: the sign, the whole digits with any grouping, the decimal separator
and two digits, with text on both sides. -/
structure PrintedAmount where
  before : List Char
  negative : Bool
  whole : List Char
  point : Char
  group : Char
  cents : List Char
  after : List Char
  separators : (point = ',' ∧ (group = '.' ∨ group = ' ')) ∨
    (point = '.' ∧ (group = ',' ∨ group = ' '))
  whole_digits : ∀ c ∈ whole, c.isDigit = true ∨ c = group
  cents_digits : ∀ c ∈ cents, c.isDigit = true
  two_cents : cents.length = 2
  decoration : ∀ c ∈ before ++ after, c.isDigit = false ∧ c ≠ '-'

namespace PrintedAmount

variable (amount : PrintedAmount)

def sign : List Char := if amount.negative then ['-'] else []

def text : List Char :=
  amount.before ++ amount.sign ++ amount.whole ++ amount.point :: amount.cents ++ amount.after

/-- The decimal that is printed has two fractional digits and these as its value. -/
def Denotes (d : Decimal) : Prop :=
  d.scale = 2 ∧ d.mantissa = (if amount.negative then -1 else 1) *
    (digitsValue (amount.whole.filter Char.isDigit ++ amount.cents) : Int)

/-- No separator stands behind the amount, and none like its decimal point before it. -/
def Readable : Prop :=
  amount.point ∉ amount.before ∧ ∀ c ∈ amount.after, c ≠ ',' ∧ c ≠ '.'

/-- The amount as the decimal type reads it. -/
def plain : List Char :=
  amount.sign ++ amount.whole.filter Char.isDigit ++ '.' :: amount.cents

variable {amount} {c : Char} {d : Decimal}

theorem ne_of_isDigit (h : c.isDigit = true) : c ≠ ',' ∧ c ≠ '.' := by
  constructor <;> rintro rfl <;> exact absurd h (by decide)

theorem point_cases : amount.point = ',' ∨ amount.point = '.' :=
  amount.separators.imp And.left And.left

theorem filterMap_sign : (amount.sign.filter isNumeric).filterMap (normal amount.point) =
      amount.sign := by
  unfold sign
  rcases amount.point_cases with hpoint | hpoint <;> rw [hpoint] <;> cases amount.negative <;> rfl

/-- Of the whole part the digits are left. -/
theorem filterMap_whole : (amount.whole.filter isNumeric).filterMap (normal amount.point) =
      amount.whole.filter Char.isDigit := by
  rw [List.filterMap_filter, ← List.filterMap_eq_filter]
  refine List.filterMap_congr fun c hc => ?_
  rcases amount.whole_digits c hc with hdigit | rfl
  · obtain ⟨hcomma, hdot⟩ := ne_of_isDigit hdigit
    rcases amount.point_cases with hpoint | hpoint <;>
      simp [isNumeric, normal, Option.guard, hpoint, hdigit, hcomma, hdot]
  · rcases amount.separators with ⟨hpoint, hgroup | hgroup⟩ | ⟨hpoint, hgroup | hgroup⟩ <;>
      rw [hpoint, hgroup] <;> decide

theorem cents_plain : ∀ c ∈ amount.cents, c ≠ ',' ∧ c ≠ '.' :=
  fun c hc => ne_of_isDigit (amount.cents_digits c hc)

/-- Of the text around the amount the separators are kept. -/
theorem isNumeric_iff (h : c ∈ amount.before ++ amount.after) :
    isNumeric c = true ↔ c = ',' ∨ c = '.' := by
  obtain ⟨hdigit, hminus⟩ := amount.decoration c h
  simp [isNumeric, hdigit, hminus]

theorem isNumeric_point : isNumeric amount.point = true := by
  rcases amount.point_cases with hpoint | hpoint <;> rw [hpoint] <;> decide

/-- Before the amount those like its decimal point become points, the others are dropped. -/
theorem filterMap_before : (amount.before.filter isNumeric).filterMap (normal amount.point) =
      List.replicate (amount.before.count amount.point) '.' := by
  rw [List.filterMap_filter, List.eq_replicate_iff, List.length_filterMap_eq_countP]
  have hnormal : ∀ c ∈ amount.before, (if isNumeric c then normal amount.point c else none) =
      if c = amount.point then some '.' else none := by
    intro c hc
    by_cases hpoint : c = amount.point
    · simp [hpoint, isNumeric_point, normal]
    · simp only [normal, if_neg hpoint, isNumeric_iff (List.mem_append_left _ hc)]
      split_ifs <;> rfl
  constructor
  · refine List.countP_congr fun c hc => ?_
    simp [hnormal c hc]
  · intro x hx
    obtain ⟨c, hc, hx⟩ := List.mem_filterMap.mp hx
    rw [hnormal c hc, Option.ite_none_right_eq_some] at hx
    exact (Option.some.inj hx.2).symm

theorem filter_cents : amount.cents.filter isNumeric = amount.cents :=
  List.filter_eq_self.mpr fun c hc => by rw [isNumeric, amount.cents_digits c hc, Bool.true_or]

/-- What is kept of the text. -/
theorem filter_text : amount.text.filter isNumeric =
      (amount.before ++ amount.sign ++ amount.whole).filter isNumeric ++
        amount.point :: amount.cents ++ amount.after.filter isNumeric := by
  rw [text, List.filter_append, List.filter_append, List.filter_cons_of_pos isNumeric_point,
    filter_cents]

/-- The decimal type reads back the digits and the sign. -/
theorem fromStr_plain {d : Decimal} (h : amount.Denotes d) :
    Decimal.fromStr amount.plain = some d := by
  obtain ⟨hscale, hmantissa⟩ := h
  have hdigits : ∀ c ∈ amount.whole.filter Char.isDigit, c.isDigit = true :=
    fun c hc => (List.mem_filter.mp hc).2
  have hunsigned : Decimal.unsigned (if amount.negative then -1 else 1)
      (amount.whole.filter Char.isDigit ++ '.' :: amount.cents) = some d := by
    have hdot : ¬ '.'.isDigit = true := by decide
    have hcents : amount.cents ≠ [] := List.ne_nil_of_length_pos (by rw [amount.two_cents]; decide)
    rw [Decimal.unsigned, List.dropWhile_append_of_pos hdigits,
      List.takeWhile_append_of_pos hdigits, List.dropWhile_cons_of_neg hdot,
      List.takeWhile_cons_of_neg hdot, List.append_nil]
    refine (if_pos (List.all_eq_true.mpr amount.cents_digits)).trans ?_
    rw [amount.two_cents, Decimal.ofDigits, dif_pos]
    · cases d
      cases hscale
      cases hmantissa
      rfl
    · exact ⟨by simp [hcents], by rw [← hmantissa]; exact d.bounded.1, by decide⟩
  unfold plain sign
  cases hnegative : amount.negative with
  | true =>
    rw [hnegative] at hunsigned
    exact hunsigned
  | false =>
    rw [hnegative] at hunsigned
    have hminus : '-' ∉ amount.cents := fun h => absurd (amount.cents_digits _ h) (by decide)
    exact (Decimal.fromStr_of_not_mem (by simp [hminus])).trans hunsigned

/-- A separator behind the amount is taken for its decimal point. -/
theorem fromStr_of_after (hafter : amount.after.filter isNumeric ≠ [])
    (h : Decimal.fromStr (withPoint (amount.text.filter isNumeric)) = some d) : d.scale = 0 := by
  rw [filter_text] at h
  rcases (amount.after.filter isNumeric).eq_nil_or_concat with hnil | ⟨front, last, hlast⟩
  · exact absurd hnil hafter
  have hmem : last ∈ amount.after.filter isNumeric := by simp [hlast]
  obtain ⟨hin, hnumeric⟩ := List.mem_filter.mp hmem
  have hseparator := (isNumeric_iff (List.mem_append_right _ hin)).mp hnumeric
  rw [hlast, List.concat_eq_append, ← List.append_assoc, withPoint_last hseparator _ (by simp)] at h
  exact Decimal.scale_fromStr h

/-- Without one, the text before the amount adds points to it. -/
theorem withPoint_text (hafter : amount.after.filter isNumeric = []) :
    withPoint (amount.text.filter isNumeric) =
      List.replicate (amount.before.count amount.point) '.' ++ amount.plain := by
  rw [filter_text, hafter, List.append_nil, withPoint_last amount.point_cases _ cents_plain,
    List.filter_append, List.filter_append, List.filterMap_append, List.filterMap_append,
    filterMap_before, filterMap_sign, filterMap_whole, plain]
  simp only [List.append_assoc]

theorem after_iff : amount.after.filter isNumeric = [] ↔
      ∀ c ∈ amount.after, c ≠ ',' ∧ c ≠ '.' := by
  rw [List.filter_eq_nil_iff]
  refine forall₂_congr fun c hc => ?_
  rw [isNumeric_iff (List.mem_append_right _ hc), not_or]

theorem isNumeric_of_isWhitespace (h : isWhitespace c = true) : isNumeric c = false := by
  rw [Bool.eq_false_iff]
  intro hnumeric
  have hrange : 44 ≤ c.toNat ∧ c.toNat ≤ 57 := by
    simp only [isNumeric, Char.isDigit, Bool.or_eq_true, Bool.and_eq_true, decide_eq_true_eq,
      List.mem_cons, List.not_mem_nil, or_false] at hnumeric
    rcases hnumeric with ⟨hlow, hhigh⟩ | rfl | rfl | rfl
    · exact ⟨le_trans (by decide) (UInt32.le_iff_toNat_le.mp hlow), UInt32.le_iff_toNat_le.mp hhigh⟩
    all_goals decide
  simp [isWhitespace] at h
  omega

theorem contentDecimal_text {value : Json}
    (h : value.get "content" = some (.string (String.ofList amount.text))) :
    contentDecimal value = Decimal.fromStr (withPoint (amount.text.filter isNumeric)) := by
  have hne : amount.text.filter isNumeric ≠ [] := by simp [filter_text]
  rw [contentDecimal, h]
  simp only [Option.bind_some, Json.asStr, String.toList_ofList,
    filter_trimBy fun _ => isNumeric_of_isWhitespace, if_neg hne]

/-- A debt in the continental notation. -/
def debt : PrintedAmount where
  before := "Fr. ".toList
  negative := true
  whole := "1.234".toList
  point := ','
  group := '.'
  cents := "50".toList
  after := " CHF".toList
  separators := by decide
  whole_digits := List.all_iff_forall_prop.mp (by decide)
  cents_digits := List.all_eq_true.mp (by decide)
  two_cents := by decide
  decoration := List.all_iff_forall_prop.mp (by decide)

/-- An amount with the currency abbreviated before it. -/
def francs : PrintedAmount :=
  { debt with
    negative := false
    whole := "12".toList
    point := '.'
    group := ','
    separators := by decide
    whole_digits := List.all_iff_forall_prop.mp (by decide) }

end PrintedAmount

end ControlPlane.Invoices
