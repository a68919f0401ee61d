import Mathlib.Data.Nat.Log
import Mathlib.Data.List.Induction
import Mathlib.Tactic.Ring
import Mathlib.Tactic.IntervalCases

/-!
# Decimal texts

Numbers written as ASCII bytes, and the three facts a protocol without separators
lives on:

* `value` reads a number back, and `cons_decimal_iff` says when a digit written in front
  of one number makes another number;
* texts with one digit after the point are self-delimiting (`IsTenths.append_inj`):
  the end of one is visible in whatever follows it;
* blank-padded columns of one width sort as the numbers do (`column_lt_column_iff`).
-/

namespace ArduinoProjects.Util

/-- The ASCII code of a character. -/
def ascii (c : Char) : UInt8 := c.toUInt8

/-- The ASCII code of a decimal digit. -/
def digit (d : ℕ) : UInt8 := UInt8.ofNat (48 + d)

/-- The byte is the code of a decimal digit. -/
def IsDigit (b : UInt8) : Prop := 48 ≤ b.toNat ∧ b.toNat ≤ 57

/-- A number in decimal, without leading zeros. -/
def decimal (n : ℕ) : List UInt8 := (Nat.toDigits 10 n).map ascii

/-! ## Digits -/

lemma toNat_digit {d : ℕ} (h : d < 10) : (digit d).toNat = 48 + d := by
  rw [digit, UInt8.toNat_ofNat']
  omega

lemma isDigit_digit {d : ℕ} (h : d < 10) : IsDigit (digit d) := by
  rw [IsDigit, toNat_digit h]
  omega

lemma digit_inj {d e : ℕ} (hd : d < 10) (he : e < 10) : digit d = digit e ↔ d = e := by
  constructor
  · intro h
    have := congrArg UInt8.toNat h
    rw [toNat_digit hd, toNat_digit he] at this
    omega
  · intro h
    rw [h]

lemma digit_lt_digit {d e : ℕ} (hd : d < 10) (he : e < 10) : digit d < digit e ↔ d < e := by
  rw [UInt8.lt_iff_toNat_lt, toNat_digit hd, toNat_digit he]
  omega

lemma ascii_digitChar {d : ℕ} (h : d < 10) : ascii d.digitChar = digit d := by
  interval_cases d <;> rfl

/-! ## Numbers -/

lemma decimal_of_lt {n : ℕ} (h : n < 10) : decimal n = [digit n] := by
  rw [decimal, Nat.toDigits_of_lt_base h, List.map_singleton, ascii_digitChar h]

/-- The last digit comes off the end. -/
lemma decimal_of_ge {n : ℕ} (h : 10 ≤ n) : decimal n = decimal (n / 10) ++ [digit (n % 10)] := by
  rw [decimal, Nat.toDigits_of_base_le (by norm_num) h, List.map_append, List.map_singleton,
    ascii_digitChar (Nat.mod_lt _ (by norm_num))]
  rfl

lemma decimal_ne_nil (n : ℕ) : decimal n ≠ [] := by
  rcases Nat.lt_or_ge n 10 with hn | hn
  · simp [decimal_of_lt hn]
  · simp [decimal_of_ge hn]

lemma isDigit_of_mem_decimal {n : ℕ} {b : UInt8} (h : b ∈ decimal n) : IsDigit b := by
  induction n using Nat.strong_induction_on with
  | _ n ih =>
    rcases Nat.lt_or_ge n 10 with hn | hn
    · rw [decimal_of_lt hn, List.mem_singleton] at h
      exact h ▸ isDigit_digit hn
    · rw [decimal_of_ge hn, List.mem_append, List.mem_singleton] at h
      rcases h with h | rfl
      · exact ih (n / 10) (by omega) h
      · exact isDigit_digit (Nat.mod_lt _ (by norm_num))

/-- A number has as many digits as its base-ten logarithm says. -/
lemma length_decimal (n : ℕ) : (decimal n).length = Nat.log 10 n + 1 := by
  induction n using Nat.strong_induction_on with
  | _ n ih =>
    rcases Nat.lt_or_ge n 10 with hn | hn
    · rw [decimal_of_lt hn, Nat.log_of_lt hn, List.length_singleton]
    · rw [decimal_of_ge hn, List.length_append, ih (n / 10) (by omega), List.length_singleton,
        Nat.log_of_one_lt_of_le (by norm_num) hn]

lemma length_decimal_le_iff {n k : ℕ} (hk : 0 < k) : (decimal n).length ≤ k ↔ n < 10 ^ k := by
  rw [length_decimal, Nat.succ_le_iff]
  rcases Nat.eq_zero_or_pos n with rfl | hn
  · simp [hk]
  · exact Nat.log_lt_iff_lt_pow (by norm_num) (by omega)

/-- The number a digit string denotes. -/
def value (l : List UInt8) : ℕ := l.foldl (fun v b => 10 * v + (b.toNat - 48)) 0

lemma value_append_singleton (l : List UInt8) (b : UInt8) :
    value (l ++ [b]) = 10 * value l + (b.toNat - 48) := by
  simp [value, List.foldl_append]

lemma value_decimal (n : ℕ) : value (decimal n) = n := by
  induction n using Nat.strong_induction_on with
  | _ n ih =>
    rcases Nat.lt_or_ge n 10 with hn | hn
    · rw [decimal_of_lt hn, ← List.nil_append [digit n], value_append_singleton, toNat_digit hn]
      simp [value]
    · rw [decimal_of_ge hn, value_append_singleton, ih (n / 10) (by omega),
        toNat_digit (Nat.mod_lt _ (by norm_num))]
      omega

/-- A digit in front counts for as many places as stand behind it. -/
lemma value_cons (y : ℕ) (hy : y < 10) (l : List UInt8) :
    value (digit y :: l) = y * 10 ^ l.length + value l := by
  induction l using List.reverseRecOn with
  | nil => simp [value, toNat_digit hy]
  | append_singleton l b ih =>
    rw [← List.cons_append, value_append_singleton, ih, value_append_singleton,
      List.length_append, List.length_singleton, pow_succ]
    ring

/-- A number other than zero does not begin with the digit zero. -/
lemma head_decimal_ne_zero {n : ℕ} (hn : 0 < n) (l : List UInt8) : decimal n ≠ digit 0 :: l := by
  induction n using Nat.strong_induction_on generalizing l with
  | _ n ih =>
    intro h
    rcases Nat.lt_or_ge n 10 with hn10 | hn10
    · rw [decimal_of_lt hn10] at h
      have := (digit_inj hn10 (by norm_num)).mp (List.cons.inj h).1
      omega
    · rw [decimal_of_ge hn10] at h
      rcases List.append_eq_cons_iff.mp h with ⟨hnil, -⟩ | ⟨l', hl', -⟩
      · exact decimal_ne_nil _ hnil
      · exact ih (n / 10) (by omega) (by omega) l' hl'

/-- Which numbers a leading digit turns into which. -/
theorem cons_decimal_iff {m n y : ℕ} (hy : y < 10) :
    decimal m = digit y :: decimal n ↔
      1 ≤ y ∧ m = y * 10 ^ (decimal n).length + n := by
  constructor
  · intro h
    have hval := congrArg value h
    rw [value_decimal, value_cons y hy, value_decimal] at hval
    refine ⟨?_, hval⟩
    -- a leading zero is no digit of `decimal m`
    by_contra hy0
    obtain rfl : y = 0 := by omega
    rcases Nat.eq_zero_or_pos m with rfl | hm
    · rw [decimal_of_lt (by norm_num)] at h
      exact decimal_ne_nil n (List.cons.inj h).2.symm
    · exact head_decimal_ne_zero hm _ h
  · intro ⟨hy1, hm⟩
    subst hm
    -- both sides lose their last digit at once, down to a single digit behind `y`
    induction n using Nat.strong_induction_on with
    | _ n ih =>
      rcases Nat.lt_or_ge n 10 with hn | hn
      · rw [decimal_of_lt hn, List.length_singleton, pow_one, decimal_of_ge (by omega),
          show (y * 10 + n) / 10 = y by omega, show (y * 10 + n) % 10 = n by omega,
          decimal_of_lt hy]
        rfl
      · have hsucc : (decimal n).length = (decimal (n / 10)).length + 1 := by
          rw [decimal_of_ge hn, List.length_append, List.length_singleton]
        rw [hsucc, pow_succ, ← Nat.mul_assoc]
        set k := y * 10 ^ (decimal (n / 10)).length with hk
        have hpos : 1 ≤ k := Nat.mul_pos hy1 (Nat.pow_pos (by norm_num))
        rw [decimal_of_ge (by omega), show (k * 10 + n) / 10 = k + n / 10 by omega,
          show (k * 10 + n) % 10 = n % 10 by omega, ih (n / 10) (by omega), decimal_of_ge hn]
        rfl

/-! ## Texts with a decimal point -/

/-- The last `p` decimal digits of `n`, leading zeros kept. -/
def lastDigits : ℕ → ℕ → List UInt8
  | 0, _ => []
  | p + 1, n => lastDigits p (n / 10) ++ [digit (n % 10)]

/-- `n / 10 ^ p` with `p` digits after the point, and no point when `p = 0`. -/
def fixed (n p : ℕ) : List UInt8 :=
  decimal (n / 10 ^ p) ++ if p = 0 then [] else ascii '.' :: lastDigits p n

lemma fixed_zero (n : ℕ) : fixed n 0 = decimal n := by
  simp [fixed]

lemma fixed_one (n : ℕ) : fixed n 1 = decimal (n / 10) ++ [ascii '.', digit (n % 10)] := by
  simp [fixed, lastDigits]

lemma length_fixed_one (n : ℕ) : (fixed n 1).length = (decimal (n / 10)).length + 2 := by
  simp [fixed_one]

/-- A decimal text with exactly one digit after the point, a minus sign allowed. -/
def IsTenths (l : List UInt8) : Prop :=
  ∃ sign ds d, l = sign ++ ds ++ [ascii '.', d] ∧ (sign = [] ∨ sign = [ascii '-']) ∧
    ds ≠ [] ∧ (∀ b ∈ ds, IsDigit b) ∧ IsDigit d

lemma isTenths_fixed (n : ℕ) : IsTenths (fixed n 1) :=
  ⟨[], decimal (n / 10), digit (n % 10), by rw [fixed_one]; rfl, Or.inl rfl, decimal_ne_nil _,
    fun _ hb => isDigit_of_mem_decimal hb, isDigit_digit (Nat.mod_lt _ (by norm_num))⟩

lemma isTenths_neg_fixed (n : ℕ) : IsTenths (ascii '-' :: fixed n 1) :=
  ⟨[ascii '-'], decimal (n / 10), digit (n % 10), by rw [fixed_one]; rfl, Or.inr rfl,
    decimal_ne_nil _, fun _ hb => isDigit_of_mem_decimal hb,
    isDigit_digit (Nat.mod_lt _ (by norm_num))⟩

lemma not_isDigit_point : ¬ IsDigit (ascii '.') := by
  unfold IsDigit
  decide

lemma not_isDigit_minus : ¬ IsDigit (ascii '-') := by
  unfold IsDigit
  decide

/-- The point ends a digit string, whatever follows it. -/
lemma digits_append_point_inj {ds es a b : List UInt8} (hds : ∀ x ∈ ds, IsDigit x)
    (hes : ∀ x ∈ es, IsDigit x) (h : ds ++ ascii '.' :: a = es ++ ascii '.' :: b) :
    ds = es ∧ a = b := by
  induction ds generalizing es with
  | nil =>
    cases es with
    | nil => exact ⟨rfl, (List.cons.inj h).2⟩
    | cons e es =>
      have he : ascii '.' = e := (List.cons.inj h).1
      exact absurd (he ▸ hes e (List.mem_cons_self ..)) not_isDigit_point
  | cons d ds ih =>
    cases es with
    | nil =>
      have hd : d = ascii '.' := (List.cons.inj h).1
      exact absurd (hd ▸ hds d (List.mem_cons_self ..)) not_isDigit_point
    | cons e es =>
      obtain ⟨hde, htail⟩ := List.cons.inj h
      obtain ⟨rfl, hab⟩ := ih (fun x hx => hds x (List.mem_cons_of_mem _ hx))
        (fun x hx => hes x (List.mem_cons_of_mem _ hx)) htail
      exact ⟨by rw [hde], hab⟩

/-- A text that starts with the digits of a tenths text is not a signed one. -/
lemma minus_append_ne_digits {ds a b : List UInt8} (hne : ds ≠ []) (hds : ∀ x ∈ ds, IsDigit x) :
    ascii '-' :: a ≠ ds ++ b := by
  intro h
  obtain ⟨d, ds', rfl⟩ := List.exists_cons_of_ne_nil hne
  have hd : ascii '-' = d := (List.cons.inj h).1
  exact not_isDigit_minus (hd ▸ hds d (List.mem_cons_self ..))

/-- Tenths texts delimit themselves: no separator is needed after one. -/
theorem IsTenths.append_inj {x y a b : List UInt8} (hx : IsTenths x) (hy : IsTenths y)
    (h : x ++ a = y ++ b) : x = y ∧ a = b := by
  obtain ⟨s, ds, d, rfl, hs, hne, hds, -⟩ := hx
  obtain ⟨t, es, e, rfl, ht, hne', hes, -⟩ := hy
  simp only [List.append_assoc, List.cons_append, List.nil_append] at h
  -- the signs agree, for a minus sign is no digit
  have hsame : s = t ∧ ds ++ ascii '.' :: d :: a = es ++ ascii '.' :: e :: b := by
    rcases hs with rfl | rfl <;> rcases ht with rfl | rfl
    · exact ⟨rfl, h⟩
    · rw [List.nil_append] at h
      exact absurd h.symm (minus_append_ne_digits hne hds)
    · rw [List.nil_append] at h
      exact absurd h (minus_append_ne_digits hne' hes)
    · exact ⟨rfl, (List.cons.inj h).2⟩
  obtain ⟨rfl, hbody⟩ := hsame
  obtain ⟨rfl, htail⟩ := digits_append_point_inj hds hes hbody
  obtain ⟨rfl, rfl⟩ := List.cons.inj htail
  exact ⟨rfl, rfl⟩

/-- A digit in front of an unsigned tenths text makes another one. -/
lemma IsTenths.digit_cons {y : ℕ} (hy : y < 10) (n : ℕ) : IsTenths (digit y :: fixed n 1) := by
  refine ⟨[], digit y :: decimal (n / 10), digit (n % 10), by rw [fixed_one]; rfl, Or.inl rfl,
    List.cons_ne_nil _ _, fun b hb => ?_, isDigit_digit (Nat.mod_lt _ (by norm_num))⟩
  rcases List.mem_cons.mp hb with rfl | hb
  · exact isDigit_digit hy
  · exact isDigit_of_mem_decimal hb

/-- No tenths text begins with a digit and a minus sign. -/
lemma IsTenths.append_ne_digit_minus {x : List UInt8} (hx : IsTenths x) {y : ℕ} (hy : y < 10)
    (a b : List UInt8) : x ++ a ≠ digit y :: ascii '-' :: b := by
  obtain ⟨s, ds, d, rfl, hs, hne, hds, -⟩ := hx
  obtain ⟨c, ds', rfl⟩ := List.exists_cons_of_ne_nil hne
  intro h
  rcases hs with rfl | rfl
  · -- unsigned: the byte after the first digit is a digit or the point
    have htail := (List.cons.inj h).2
    cases ds' with
    | nil => exact absurd (List.cons.inj htail).1 (by decide)
    | cons e ds'' =>
      have he : e = ascii '-' := (List.cons.inj htail).1
      exact not_isDigit_minus (he ▸ hds e (by simp))
  · exact not_isDigit_minus ((List.cons.inj h).1 ▸ isDigit_digit hy)

/-- Which tenths a leading digit turns into which. -/
theorem fixed_one_cons_iff {m n y : ℕ} (hy : y < 10) :
    fixed m 1 = digit y :: fixed n 1 ↔
      1 ≤ y ∧ m = y * 10 ^ ((decimal (n / 10)).length + 1) + n := by
  have hmod (k : ℕ) : k % 10 < 10 := Nat.mod_lt _ (by norm_num)
  have hsplit : fixed m 1 = digit y :: fixed n 1 ↔
      decimal (m / 10) = digit y :: decimal (n / 10) ∧ m % 10 = n % 10 := by
    rw [fixed_one, fixed_one, ← List.cons_append]
    constructor
    · intro h
      obtain ⟨hint, hfrac⟩ := List.append_inj' h rfl
      exact ⟨hint, (digit_inj (hmod m) (hmod n)).mp (List.cons.inj (List.cons.inj hfrac).2).1⟩
    · intro h
      rw [h.1, h.2]
  rw [hsplit, cons_decimal_iff hy, pow_succ, ← Nat.mul_assoc]
  omega

/-! ## Blank-padded columns -/

/-- A number right-aligned in `w` columns. -/
def column (w n : ℕ) : List UInt8 := (decimal n).leftpad w (ascii ' ')

lemma length_column {w n : ℕ} (hw : 0 < w) (h : n < 10 ^ w) : (column w n).length = w := by
  rw [column, List.length_leftpad]
  exact Nat.max_eq_left ((length_decimal_le_iff hw).mpr h)

/-- A column ends in the last digit of its number. -/
lemma column_eq_concat (w n : ℕ) : ∃ l, column w n = l ++ [digit (n % 10)] := by
  by_cases hn : n < 10
  · exact ⟨_, by rw [column, List.leftpad, decimal_of_lt hn, Nat.mod_eq_of_lt hn]⟩
  · exact ⟨_, by rw [column, List.leftpad, decimal_of_ge (not_lt.mp hn), ← List.append_assoc]⟩

/-- The columns in front of the last one: blank all through once the number is used up. -/
def leading : ℕ → ℕ → List UInt8
  | 0, _ => []
  | w + 1, n => leading w (n / 10) ++ [if n = 0 then ascii ' ' else digit (n % 10)]

@[simp] lemma length_leading (w n : ℕ) : (leading w n).length = w := by
  induction w generalizing n with
  | zero => rfl
  | succ w ih => rw [leading, List.length_append, ih, List.length_singleton]

lemma leading_zero_right (w : ℕ) : leading w 0 = List.replicate w (ascii ' ') := by
  induction w with
  | zero => rfl
  | succ w ih => rw [leading, Nat.zero_div, ih, if_pos rfl, List.replicate_succ']

/-- Only the last column shows a zero as a digit. -/
lemma column_succ {w n : ℕ} (h : n < 10 ^ (w + 1)) :
    column (w + 1) n = leading w (n / 10) ++ [digit (n % 10)] := by
  induction w generalizing n with
  | zero =>
    have hn : n < 10 := by simpa using h
    rw [column, decimal_of_lt hn, Nat.mod_eq_of_lt hn]
    rfl
  | succ w ih =>
    rcases Nat.lt_or_ge n 10 with hn | hn
    · rw [column, decimal_of_lt hn, Nat.div_eq_of_lt hn, leading_zero_right,
        Nat.mod_eq_of_lt hn]
      rfl
    · have hdiv : n / 10 < 10 ^ (w + 1) := by
        rw [pow_succ] at h
        omega
      have hcol : column (w + 1 + 1) n = column (w + 1) (n / 10) ++ [digit (n % 10)] := by
        rw [column, column, decimal_of_ge hn, List.leftpad, List.leftpad, List.length_append,
          List.length_singleton, Nat.add_sub_add_right, List.append_assoc]
      rw [hcol, ih hdiv, leading, if_neg (by omega)]

/-- Lists of one length compare block by block. -/
lemma append_lt_append_iff {a b c d : List UInt8} (h : a.length = c.length) :
    a ++ b < c ++ d ↔ a < c ∨ (a = c ∧ b < d) := by
  induction a generalizing c with
  | nil =>
    obtain rfl : c = [] := List.length_eq_zero_iff.mp h.symm
    simp
  | cons x a ih =>
    cases c with
    | nil => simp at h
    | cons y c =>
      simp only [List.length_cons, Nat.add_right_cancel_iff] at h
      simp only [List.cons_append, List.cons_lt_cons_iff, ih h, List.cons.injEq]
      tauto

lemma leading_lt_leading {w m n : ℕ} (h : m < n) (hn : n < 10 ^ w) :
    leading w m < leading w n := by
  induction w generalizing m n with
  | zero => simp at hn; omega
  | succ w ih =>
    rw [leading, leading, append_lt_append_iff (by simp)]
    rcases Nat.lt_or_ge (m / 10) (n / 10) with hlt | hge
    · refine Or.inl (ih hlt ?_)
      rw [pow_succ] at hn
      omega
    · -- equal up to here, so the last digits decide
      have hdiv : m / 10 = n / 10 := by omega
      refine Or.inr ⟨by rw [hdiv], ?_⟩
      rw [if_neg (show n ≠ 0 by omega), List.cons_lt_cons_iff]
      left
      split
      · rw [UInt8.lt_iff_toNat_lt, toNat_digit (Nat.mod_lt _ (by norm_num))]
        exact Nat.lt_of_lt_of_le (by decide : (ascii ' ').toNat < 48) (Nat.le_add_right _ _)
      · exact (digit_lt_digit (Nat.mod_lt _ (by norm_num)) (Nat.mod_lt _ (by norm_num))).mpr
          (by omega)

lemma column_lt_column {w m n : ℕ} (h : m < n) (hn : n < 10 ^ (w + 1)) :
    column (w + 1) m < column (w + 1) n := by
  rw [column_succ (lt_trans h hn), column_succ hn, append_lt_append_iff (by simp)]
  rcases Nat.lt_or_ge (m / 10) (n / 10) with hlt | hge
  · refine Or.inl (leading_lt_leading hlt ?_)
    rw [pow_succ] at hn
    omega
  · refine Or.inr ⟨by rw [show m / 10 = n / 10 by omega], ?_⟩
    rw [List.cons_lt_cons_iff]
    exact Or.inl ((digit_lt_digit (Nat.mod_lt _ (by norm_num)) (Nat.mod_lt _ (by norm_num))).mpr
      (by omega))

/-- Columns of one width sort as the numbers in them. -/
theorem column_lt_column_iff {w m n : ℕ} (hm : m < 10 ^ (w + 1)) (hn : n < 10 ^ (w + 1)) :
    column (w + 1) m < column (w + 1) n ↔ m < n := by
  constructor
  · intro h
    rcases lt_trichotomy m n with hlt | rfl | hgt
    · exact hlt
    · exact absurd h (List.lt_irrefl _)
    · exact absurd h (List.lt_asymm (column_lt_column hgt hm))
  · intro h
    exact column_lt_column h hn

theorem column_inj {w m n : ℕ} (hm : m < 10 ^ (w + 1)) (hn : n < 10 ^ (w + 1)) :
    column (w + 1) m = column (w + 1) n ↔ m = n := by
  constructor
  · intro h
    rcases lt_trichotomy m n with hlt | rfl | hgt
    · exact absurd (h ▸ column_lt_column hlt hn) (List.lt_irrefl _)
    · rfl
    · exact absurd (h ▸ column_lt_column hgt hm) (List.lt_irrefl _)
  · intro h
    rw [h]

/-- Two texts compare as two tuples do. -/
def Sorts (a b : List UInt8) (l l' : List ℕ) : Prop := (a < b ↔ l < l') ∧ (a = b ↔ l = l')

lemma sorts_nil (a : List UInt8) : Sorts a a [] [] :=
  ⟨iff_of_false (List.lt_irrefl a) (List.lt_irrefl []), iff_of_true rfl rfl⟩

/-- A column in front of two texts is one more component in front of the tuples. -/
theorem Sorts.column_append {w m n : ℕ} (hm : m < 10 ^ (w + 1)) (hn : n < 10 ^ (w + 1))
    {a b : List UInt8} {l l' : List ℕ} (h : Sorts a b l l') :
    Sorts (column (w + 1) m ++ a) (column (w + 1) n ++ b) (m :: l) (n :: l') := by
  have hlen : (column (w + 1) m).length = (column (w + 1) n).length :=
    (length_column (by omega) hm).trans (length_column (by omega) hn).symm
  have hsplit : column (w + 1) m ++ a = column (w + 1) n ++ b ↔
      column (w + 1) m = column (w + 1) n ∧ a = b :=
    ⟨fun heq => List.append_inj heq hlen, fun heq => by rw [heq.1, heq.2]⟩
  constructor
  · rw [append_lt_append_iff hlen, column_lt_column_iff hm hn, column_inj hm hn, h.1,
      List.cons_lt_cons_iff]
  · rw [hsplit, column_inj hm hn, h.2, List.cons.injEq]

/-- A separator changes nothing. -/
lemma Sorts.sep {a b : List UInt8} {l l' : List ℕ} (h : Sorts a b l l') (sep : UInt8) :
    Sorts (sep :: a) (sep :: b) l l' := by
  constructor
  · rw [List.cons_lt_cons_iff, h.1]
    simp
  · rw [← h.2, List.cons.injEq]
    simp

end ArduinoProjects.Util
