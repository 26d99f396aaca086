import TraceQuery.Json.Numeral
import TraceQuery.Proofs.Decimal.Magnitude
import TraceQuery.Proofs.Json.Numeral

/-!
The numbers that are read as doubles. A number is read with three roundings at most, of its leading
digits, of a power of ten and of their product, so every number is read that is below `2 ^ 1024` by
more than these may add. The largest double is closer to it than that, and so are numbers that are
not read.
-/

set_option autoImplicit false
namespace TraceQuery.Json

open Decimal
open Float.Model (UnpackedFloat Format)
open Float.Model.UnpackedFloat

/-! ## Powers of ten -/

theorem powerOfTen_eq (n : Nat) : powerOfTen n = .ofModel (.ofScientific 1 n) := by
  by_cases exact : n ≤ 22
  · have listed : ∀ n < 23, powerOfTen n = .ofModel (.ofScientific 1 n) := by decide +kernel
    exact listed n (by omega)
  · exact dif_neg (by omega)

theorem ten_pow_lt : 10 ^ 308 * (2 ^ 52 + 1) + 2 ^ 52 < 2 ^ 52 * 2 ^ 1024 := by
  decide +kernel

theorem ten_pow_add_spare_lt {n : Nat} (bound : n ≤ 308) :
    (10 : ℚ) ^ n + spare (10 ^ n) < 2 ^ 1024 := by
  have greatest : (10 : ℚ) ^ n ≤ 10 ^ 308 := pow_le_pow_right₀ (by norm_num) bound
  have limit : (10 : ℚ) ^ 308 * (2 ^ 52 + 1) + 2 ^ 52 < 2 ^ 52 * 2 ^ 1024 := by
    exact_mod_cast ten_pow_lt
  have more := spare_le greatest
  generalize (10 : ℚ) ^ 308 = ten at *
  generalize (2 : ℚ) ^ 1024 = two at *
  norm_num at *
  linarith

theorem powerOfTen_eq_round {n : Nat} (bound : n ≤ 308) :
    powerOfTen n = .ofModel (.pack (roundWithAccuracy Format.binary64 .positive
      ((1 <<< 53) * 10 ^ n) (-53) .exact)) := by
  rw [powerOfTen_eq, Float.Model.ofScientific, UnpackedFloat.ofScientific, dif_neg (by decide),
    if_neg (by norm_num; omega), if_neg (by norm_num; omega), if_pos (by omega)]
  rfl

theorem powerOfTen_full {n : Nat} (bound : n ≤ 308) :
    ∃ sign mantissa exponent positive,
      (powerOfTen n).toModel.unpack = .finite sign mantissa exponent positive ∧
      2 ^ 52 ≤ mantissa ∧ size (powerOfTen n) ≤ 10 ^ n + spare (10 ^ n) ∧
      (2 : ℚ) ^ Nat.log2 (10 ^ n) ≤ size (powerOfTen n) := by
  have value : (((1 <<< 53) * 10 ^ n : Nat) : ℚ) * 2 ^ (-53 : Int) = 10 ^ n := by
    push_cast
    norm_num
    ring
  have nonzero : (10 ^ n : Nat) ≠ 0 := (Nat.pow_pos (by decide)).ne'
  -- The power is shifted up by 53 bits, so that there are enough to round from.
  have long : ((1 <<< 53) * 10 ^ n : Nat).log2 = 53 + (10 ^ n : Nat).log2 := by
    rw [Nat.log2_eq_iff (by simp), Nat.shiftLeft_eq, Nat.one_mul, Nat.add_assoc,
      Nat.pow_add, Nat.pow_add]
    exact ⟨Nat.mul_le_mul_left _ (Nat.log2_self_le nonzero),
      Nat.mul_lt_mul_of_pos_left Nat.lt_log2_self (by decide)⟩
  have fine : (2 : ℚ) ^ (-53 : Int) ≤ spare (10 ^ n) := by
    have one : (1 : ℚ) ≤ 10 ^ n := one_le_pow₀ (by norm_num)
    have part : (2 : ℚ) ^ (-53 : Int) ≤ 10 ^ n / 2 ^ 52 := by
      norm_num
      linarith
    exact part.trans (le_add_of_nonneg_right (two_zpow_pos _).le)
  have small := ten_pow_add_spare_lt bound
  obtain ⟨room, below⟩ := room_of_spare value.le fine small
  obtain ⟨-, above⟩ := round_le_spare .positive .exact value.le fine small
  obtain ⟨sign, mantissa, exponent, positive, unpacked, full, low⟩ :=
    round_full .positive .exact (by omega) (by omega) room below
  simp only [← powerOfTen_eq_round bound] at above
  have unpacked : (powerOfTen n).toModel.unpack = .finite sign mantissa exponent positive := by
    rw [powerOfTen_eq_round bound]
    exact unpacked
  refine ⟨sign, mantissa, exponent, positive, unpacked, full, above, ?_⟩
  rw [size_finite unpacked]
  refine le_of_eq_of_le ?_ low
  rw [long, ← zpow_natCast]
  congr 1
  omega

/-! ## Scaling by a power of ten -/

theorem isInf_of_isFinite {x : Float} (finite : x.isFinite = true) : x.isInf = false := by
  have finite : x.toModel.unpack.isFinite = true := finite
  show x.toModel.unpack.isInf = false
  cases same : x.toModel.unpack with
  | infinity sign =>
    rw [same] at finite
    cases finite
  | _ => rfl

theorem div_powerOfTen_le {x : Float} {n : Nat} (positive : 1 ≤ n) (bound : n ≤ 308)
    (finite : x.isFinite = true) (small : size x ≤ 2 ^ 65) :
    (x / powerOfTen n).isFinite = true ∧ size (x / powerOfTen n) ≤ 2 ^ 65 := by
  obtain ⟨sign, mantissa, exponent, pos, unpacked, -, -, low⟩ := powerOfTen_full bound
  -- A divisor of two or more leaves room for the rounding.
  have two : 2 ≤ size (powerOfTen n) := by
    have one : 1 ≤ Nat.log2 (10 ^ n) := by
      rw [Nat.le_log2 (by simp)]
      exact (by decide : 2 ^ 1 ≤ 10 ^ 1).trans (Nat.pow_le_pow_right (by decide) positive)
    calc (2 : ℚ) = 2 ^ 1 := by norm_num
      _ ≤ 2 ^ Nat.log2 (10 ^ n) := pow_le_pow_right₀ (by norm_num) one
      _ ≤ size (powerOfTen n) := low
  have half : size x / size (powerOfTen n) ≤ 2 ^ 64 := by
    rw [div_le_iff₀ (by linarith)]
    linarith
  have total := add_spare_le half
  have limit : (2 : ℚ) ^ 65 < 2 ^ 1024 := pow_lt_pow_right₀ (by norm_num) (by norm_num)
  obtain ⟨quotient, above⟩ := div_le unpacked finite (total.trans_lt limit)
  exact ⟨quotient, above.trans total⟩

theorem shrink_le (times : Nat) {x : Float} (finite : x.isFinite = true)
    (small : size x ≤ 2 ^ 65) :
    (shrink times x).isFinite = true ∧ size (shrink times x) ≤ 2 ^ 65 := by
  induction times generalizing x with
  | zero => exact ⟨finite, small⟩
  | succ times ih =>
    rw [shrink]
    split
    · exact ⟨finite, small⟩
    · obtain ⟨quotient, below⟩ := div_powerOfTen_le (by decide) (Nat.le_refl 308) finite small
      exact ih quotient below

/-- How far below `2 ^ 1024` a number has to be, for three roundings not to reach it. -/
def readable : ℚ := 2 ^ 1024 - 2 ^ 974

theorem product_lt {digits power x y : ℚ} (digitsNonneg : 0 ≤ digits) (nonneg : 0 ≤ y)
    (few : digits ≤ 2 ^ 1024) (low : power ≤ 2 ^ 1024)
    (small : digits * power < readable) (first : x ≤ digits + spare digits)
    (second : y ≤ power + spare power) : x * y + spare (x * y) < 2 ^ 1024 := by
  have least : (2 : ℚ) ^ (-1074 : Int) * 2 ^ 1024 ≤ 1 := by
    rw [← zpow_natCast, ← zpow_add₀ (by norm_num)]
    exact zpow_le_one_of_nonpos₀ (by norm_num) (by norm_num)
  have tiny : (2 : ℚ) ^ (-1074 : Int) ≤ 1 := zpow_le_one_of_nonpos₀ (by norm_num) (by norm_num)
  have leastNonneg := (two_zpow_pos (-1074)).le
  have top : (2 : ℚ) ^ 52 ≤ 2 ^ 972 := pow_le_pow_right₀ (by norm_num) (by norm_num)
  have whole : (2 : ℚ) ^ 1024 = 2 ^ 52 * 2 ^ 972 := by rw [← pow_add]
  have four : (2 : ℚ) ^ 974 = 4 * 2 ^ 972 := by
    rw [show (4 : ℚ) = 2 ^ 2 by norm_num, ← pow_add]
  have product : x * y ≤ (digits + spare digits) * (power + spare power) :=
    mul_le_mul first second nonneg (add_nonneg digitsNonneg (spare_nonneg digitsNonneg))
  have firstTiny : digits * 2 ^ (-1074 : Int) ≤ 1 :=
    (mul_le_mul_of_nonneg_right few leastNonneg).trans ((mul_comm _ _).trans_le least)
  have secondTiny : power * 2 ^ (-1074 : Int) ≤ 1 :=
    (mul_le_mul_of_nonneg_right low leastNonneg).trans ((mul_comm _ _).trans_le least)
  have bothTiny : (2 : ℚ) ^ (-1074 : Int) * 2 ^ (-1074 : Int) ≤ 1 :=
    mul_le_one₀ tiny leastNonneg tiny
  rw [readable, four] at small
  rw [whole] at small ⊢
  clear whole four least few low first second
  unfold spare at *
  generalize (2 : ℚ) ^ (-1074 : Int) = least at *
  generalize (2 : ℚ) ^ 972 = scale at *
  generalize x * y = z at *
  have expanded : (digits + (digits / 2 ^ 52 + least)) * (power + (power / 2 ^ 52 + least)) =
      digits * power * (1 + 1 / 2 ^ 52) ^ 2 +
        (digits * least + power * least) * (1 + 1 / 2 ^ 52) + least * least := by
    ring
  -- What is multiplied here counts as one number, so that the rest is linear.
  rw [expanded] at product
  generalize digits * power = w at *
  generalize digits * least = u at *
  generalize power * least = v at *
  generalize least * least = t at *
  norm_num at *
  linarith

theorem le_ten_pow : 2 ^ 1024 ≤ 10 ^ 309 := by
  decide +kernel

theorem readable_le : readable ≤ 2 ^ 1024 :=
  sub_le_self _ (pow_nonneg (by norm_num) _)

/-- A power of ten above `10 ^ 308` is read with no digits but zeros. -/
theorem digits_eq_zero {digits : Nat} {exponent : Int} (large : 308 < exponent)
    (small : (digits : ℚ) * 10 ^ exponent < readable) : digits = 0 := by
  by_contra nonzero
  have limit : (2 : ℚ) ^ 1024 ≤ 10 ^ 309 := by exact_mod_cast le_ten_pow
  have power : (10 : ℚ) ^ 309 ≤ 10 ^ exponent := by
    rw [← zpow_natCast]
    exact zpow_le_zpow_right₀ (by norm_num) (by push_cast; omega)
  have one : (1 : ℚ) ≤ digits := by exact_mod_cast Nat.one_le_iff_ne_zero.2 nonzero
  have product : (10 : ℚ) ^ exponent ≤ digits * 10 ^ exponent :=
    le_mul_of_one_le_left (zpow_nonneg (by norm_num) _) one
  exact absurd (limit.trans (power.trans product)) (not_le.2 (small.trans_le readable_le))

theorem exists_scale? {digits : Nat} {exponent : Int} (few : digits < 2 ^ 64)
    (small : (digits : ℚ) * 10 ^ exponent < readable) :
    ∃ x, scale? (UInt64.ofNat digits).toFloat exponent = some x ∧ x.isFinite = true := by
  obtain ⟨finite, above⟩ := toFloat_le (UInt64.ofNat digits)
  have same : (UInt64.ofNat digits).toNat = digits := UInt64.toNat_ofNat_of_lt few
  rw [same] at above
  have few : (digits : ℚ) ≤ 2 ^ 64 := by exact_mod_cast few.le
  rw [scale?]
  split
  · next nonneg =>
    split
    · next bound =>
      obtain ⟨sign, mantissa, place, positive, unpacked, full, high, -⟩ :=
        powerOfTen_full (n := exponent.toNat) (by omega)
      have power : (10 : ℚ) ^ exponent = 10 ^ exponent.toNat := by
        rw [← zpow_natCast, Int.toNat_of_nonneg nonneg]
      have low : (10 : ℚ) ^ exponent.toNat ≤ 2 ^ 1024 :=
        (le_add_of_nonneg_right (spare_nonneg (by positivity))).trans
          (ten_pow_add_spare_lt (n := exponent.toNat) (by omega)).le
      have wide : (2 : ℚ) ^ 64 ≤ 2 ^ 1024 := pow_le_pow_right₀ (by norm_num) (by norm_num)
      have room := product_lt (Nat.cast_nonneg _) (size_nonneg _) (few.trans wide) low
        (power ▸ small) above high
      have product := (mul_le unpacked full finite room).1
      exact ⟨_, by simp only [isInf_of_isFinite product]; rfl, product⟩
    · next large =>
      have zero := digits_eq_zero (by omega) small
      subst zero
      exact ⟨_, if_pos (by decide +kernel), finite⟩
  · next negative =>
    obtain ⟨left, below⟩ :=
      shrink_le (((-exponent).toNat - 1) / 308) finite (above.trans (add_spare_le few))
    exact ⟨_, rfl, (div_powerOfTen_le (by omega) (by omega) left below).1⟩

/-! ## The digits that are read -/

namespace Numeral

def magnitude (n : Numeral) : ℚ :=
  Nat.ofDigitChars 10 (n.whole ++ n.fraction) 0 *
    10 ^ (n.writtenExponent - n.fraction.length)

theorem pow_mul_le_ofDigitChars (ds : List Char) (n : Nat) :
    10 ^ ds.length * n ≤ Nat.ofDigitChars 10 ds n := by
  rw [Nat.ofDigitChars_eq_ofDigitChars_zero]
  exact Nat.le_add_right _ _

theorem absorb_spec (ds : List Char) {n : Nat} (small : n < 2 ^ 64) :
    ∃ taken rest, ds = taken ++ rest ∧ absorb ds n = (Nat.ofDigitChars 10 taken n, rest) ∧
      Nat.ofDigitChars 10 taken n < 2 ^ 64 ∧
      ∀ d more, rest = d :: more →
        2 ^ 64 ≤ 10 * Nat.ofDigitChars 10 taken n + (d.toNat - '0'.toNat) := by
  induction ds generalizing n with
  | nil => exact ⟨[], [], rfl, rfl, small, nofun⟩
  | cons d ds ih =>
    by_cases next : 10 * n + (d.toNat - '0'.toNat) < UInt64.size
    · obtain ⟨taken, rest, rfl, absorbed, below, stop⟩ := ih next
      refine ⟨d :: taken, rest, rfl, ?_, ?_, ?_⟩
      · rw [absorb, if_pos next, absorbed, Nat.ofDigitChars_cons]
      · rwa [Nat.ofDigitChars_cons]
      · rwa [Nat.ofDigitChars_cons]
    · refine ⟨[], d :: ds, rfl, ?_, small, ?_⟩
      · rw [absorb, if_neg next]
        rfl
      · intro d' more same
        cases same
        exact Nat.not_lt.1 next

/-- Digits of the fraction may be absorbed where digits before the point were dropped, but then the
first of those would have been too much. -/
theorem leading_le {taken dropped more : List Char} (ignored : List Char)
    (below : Nat.ofDigitChars 10 more (Nat.ofDigitChars 10 taken 0) < 2 ^ 64)
    (stop : ∀ d rest, dropped = d :: rest →
      2 ^ 64 ≤ 10 * Nat.ofDigitChars 10 taken 0 + (d.toNat - '0'.toNat)) :
    Nat.ofDigitChars 10 more (Nat.ofDigitChars 10 taken 0) *
        10 ^ (dropped.length + ignored.length) ≤
      Nat.ofDigitChars 10 ((taken ++ dropped) ++ (more ++ ignored)) 0 := by
  simp only [Nat.ofDigitChars_append]
  generalize Nat.ofDigitChars 10 taken 0 = first at *
  have last := pow_mul_le_ofDigitChars ignored
    (Nat.ofDigitChars 10 more (Nat.ofDigitChars 10 dropped first))
  refine Nat.le_trans ?_ last
  rw [Nat.pow_add, Nat.mul_comm, Nat.mul_comm (10 ^ dropped.length), Nat.mul_assoc]
  refine Nat.mul_le_mul_left _ ?_
  cases dropped with
  | nil => simp
  | cons d rest =>
    cases more with
    | nil => exact pow_mul_le_ofDigitChars _ _
    | cons m others =>
      have large := (below.trans_le (stop d rest rfl)).le
      have ten : 10 ≤ 10 ^ (m :: others).length := Nat.le_self_pow (by simp) 10
      calc 10 ^ (d :: rest).length * Nat.ofDigitChars 10 (m :: others) first
          = 10 * (10 ^ rest.length * Nat.ofDigitChars 10 (m :: others) first) := by
            rw [List.length_cons, Nat.pow_succ']
            ring
        _ ≤ 10 * (10 ^ rest.length * (10 * first + (d.toNat - '0'.toNat))) := by gcongr
        _ ≤ 10 * Nat.ofDigitChars 10 (d :: rest) first := by
            rw [Nat.ofDigitChars_cons]
            exact Nat.mul_le_mul_left _ (pow_mul_le_ofDigitChars _ _)
        _ ≤ 10 ^ (m :: others).length * Nat.ofDigitChars 10 (d :: rest) first := by gcongr
        _ ≤ _ := pow_mul_le_ofDigitChars _ _

/-- The digits read and their power of ten are no more than all digits are: those that are left
over only count. -/
theorem significand_le (n : Numeral) : n.significand.1 < 2 ^ 64 ∧
    (n.significand.1 : ℚ) * 10 ^ n.significand.2 ≤
      Nat.ofDigitChars 10 (n.whole ++ n.fraction) 0 * 10 ^ (-(n.fraction.length : Int)) := by
  obtain ⟨taken, dropped, whole, absorbed, few, stop⟩ := absorb_spec n.whole (n := 0) (by decide)
  obtain ⟨more, ignored, fraction, further, below, -⟩ := absorb_spec n.fraction few
  have read : n.significand = (Nat.ofDigitChars 10 more (Nat.ofDigitChars 10 taken 0),
      (dropped.length : Int) - more.length) := by
    rw [significand, absorbed]
    simp only [further]
    rw [fraction, List.length_append]
    push_cast
    congr 1
    omega
  rw [read]
  refine ⟨below, ?_⟩
  have all := leading_le ignored below stop
  rw [← whole, ← fraction] at all
  have places : (dropped.length : Int) - more.length =
      (dropped.length + ignored.length : Nat) + -(n.fraction.length : Int) := by
    rw [fraction, List.length_append]
    push_cast
    omega
  rw [places, zpow_add₀ (by norm_num), zpow_natCast, ← mul_assoc]
  exact mul_le_mul_of_nonneg_right (by exact_mod_cast all) (zpow_nonneg (by norm_num) _)

theorem exists_double? {n : Numeral} (small : n.magnitude < readable) :
    ∃ x, n.double? = some x ∧ x.isFinite = true := by
  obtain ⟨few, leading⟩ := n.significand_le
  have scaled : (n.significand.1 : ℚ) * 10 ^ (n.significand.2 + n.writtenExponent) < readable := by
    refine lt_of_le_of_lt ?_ small
    rw [magnitude, sub_eq_neg_add, zpow_add₀ (by norm_num), zpow_add₀ (by norm_num), ← mul_assoc,
      ← mul_assoc]
    exact mul_le_mul_of_nonneg_right leading (zpow_nonneg (by norm_num) _)
  obtain ⟨x, read, finite⟩ := exists_scale? few scaled
  rw [double?]
  simp only [read, Option.map_some]
  split
  · exact ⟨_, rfl, isFinite_neg finite⟩
  · exact ⟨_, rfl, finite⟩

theorem exists_value? {n : Numeral} (small : n.magnitude < readable) :
    ∃ value, n.value? = some value := by
  obtain ⟨x, read, finite⟩ := exists_double? small
  have double : value?.ofDouble n.double? = some (.float x finite) :=
    ofDouble_eq_some_iff.2 ⟨x, read, finite, rfl⟩
  unfold value?
  simp only [double]
  generalize (if n.negative then -(Nat.ofDigitChars 10 n.whole 0 : Int)
    else Nat.ofDigitChars 10 n.whole 0) = integer
  split
  · split <;> exact ⟨_, rfl⟩
  · exact ⟨_, rfl⟩

end Numeral

end TraceQuery.Json
