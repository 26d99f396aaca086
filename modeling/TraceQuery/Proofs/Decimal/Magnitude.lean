import Mathlib.Algebra.Order.Field.Power
import Mathlib.Data.Nat.Cast.Order.Field
import Mathlib.Tactic.FieldSimp
import Mathlib.Tactic.Linarith
import Mathlib.Tactic.Ring
import TraceQuery.Proofs.Decimal.Finite

/-!
How large doubles are, and how much larger rounding makes them: by at most one unit of the last
digit that is kept, which is a part in `2 ^ 52` of the number, or the least double where numbers
are that small. So products, quotients and the doubles of integers are finite while this much is
left below `2 ^ 1024`.
-/

set_option autoImplicit false
namespace TraceQuery.Decimal

open Float.Model (UnpackedFloat Format)
open Float.Model.UnpackedFloat

/-- A number without its sign; what is not finite has none. -/
def magnitude : UnpackedFloat → ℚ
  | .finite _ mantissa exponent _ => mantissa * 2 ^ exponent
  | .zero _ | .infinity _ | .notANumber => 0

def size (x : Float) : ℚ :=
  magnitude x.toModel.unpack

theorem magnitude_finite {sign : Sign} {mantissa : Nat} {exponent : Int}
    {positive : 0 < mantissa} :
    magnitude (.finite sign mantissa exponent positive) = mantissa * 2 ^ exponent :=
  rfl

theorem size_finite {x : Float} {sign : Sign} {mantissa : Nat} {exponent : Int}
    {positive : 0 < mantissa}
    (unpacked : x.toModel.unpack = .finite sign mantissa exponent positive) :
    size x = mantissa * 2 ^ exponent := by
  rw [size, unpacked, magnitude_finite]

theorem two_zpow_pos (exponent : Int) : (0 : ℚ) < 2 ^ exponent :=
  zpow_pos (by norm_num) exponent

theorem magnitude_nonneg (u : UnpackedFloat) : 0 ≤ magnitude u := by
  cases u with
  | finite sign mantissa exponent positive => exact mul_nonneg (by positivity) (by positivity)
  | _ => exact le_refl _

theorem size_nonneg (x : Float) : 0 ≤ size x :=
  magnitude_nonneg _

theorem size_zero (sign : Sign) : size (.ofModel (.pack (.zero sign))) = 0 := by
  cases sign <;> rfl

theorem toNat_leadingOne {mantissa : Nat} (full : mantissa.log2 = 52) :
    (1#1 ++ BitVec.ofNat 52 mantissa).toNat = mantissa := by
  have nonzero : mantissa ≠ 0 := by
    rintro rfl
    simp at full
  have low := Nat.log2_self_le nonzero
  have high := Nat.lt_log2_self (n := mantissa)
  rw [full] at low high
  -- The bit in front is the one that the 52 bits leave out.
  rw [BitVec.toNat_append, ← Nat.shiftLeft_add_eq_or_of_lt (BitVec.isLt _), BitVec.toNat_ofNat]
  simp [Nat.shiftLeft_eq]
  omega

theorem unpack_pack_full (sign : Sign) {mantissa : Nat} {exponent : Int} (positive : 0 < mantissa)
    (full : mantissa.log2 = 52) (least : -1074 ≤ exponent) (room : exponent ≤ 971) :
    ∃ sign', (Float.Model.pack (.finite sign mantissa exponent positive)).unpack =
      .finite sign' mantissa exponent positive := by
  have packed := pack_finite sign exponent positive (by omega)
  rw [if_pos full] at packed
  have biased : (BitVec.ofNat 11 (exponent + 1075).toNat).toNat = (exponent + 1075).toNat := by
    rw [BitVec.toNat_ofNat, Nat.mod_eq_of_lt (by omega)]
  have differs {b : BitVec 11} (other : b.toNat = 0 ∨ b.toNat = 2047) :
      BitVec.ofNat 11 (exponent + 1075).toNat ≠ b := by
    rintro rfl
    rw [biased] at other
    omega
  show ∃ sign', unpack Format.binary64 (pack Format.binary64 _) = _
  rw [packed]
  obtain ⟨positive', unpacked⟩ := unpack_normal
    (b := packComponents Format.binary64 sign (.ofNat 11 (exponent + 1075).toNat)
      (.ofNat 52 mantissa))
    (by rw [unpackExponent_packComponents]; exact differs (.inr (by decide)))
    (by rw [unpackExponent_packComponents]; exact differs (.inl (by decide)))
  refine ⟨_, unpacked.trans ((UnpackedFloat.finite.injEq ..).mpr ⟨rfl, ?_, ?_⟩)⟩
  · rw [unpackMantissa_packComponents, toNat_leadingOne full]
  · rw [unpackExponent_packComponents, biased]
    omega

theorem magnitude_pack_le (sign : Sign) {mantissa : Nat} {exponent : Int}
    (positive : 0 < mantissa) (least : -1074 ≤ exponent) (room : exponent ≤ 971) :
    magnitude (Float.Model.pack (.finite sign mantissa exponent positive)).unpack ≤
      mantissa * 2 ^ exponent := by
  -- With 53 bits it is packed as it is; with fewer it may only lose digits.
  by_cases full : mantissa.log2 = 52
  · obtain ⟨sign', same⟩ := unpack_pack_full sign positive full least room
    rw [same]
    exact le_refl _
  have packed := pack_finite sign exponent positive (by omega)
  rw [if_neg full] at packed
  show magnitude (unpack Format.binary64 (pack Format.binary64 _)) ≤ _
  rw [packed]
  have zero : @unpackExponent Format.binary64
      (packComponents Format.binary64 sign 0#11 (.ofNat 52 mantissa)) = 0#_ :=
    unpackExponent_packComponents
  by_cases digits : (BitVec.ofNat 52 mantissa) = 0#_
  · rw [unpack_zero zero (unpackMantissa_packComponents.trans digits)]
    exact mul_nonneg (Nat.cast_nonneg _) (two_zpow_pos _).le
  · obtain ⟨positive', unpacked⟩ := unpack_subnormal zero
      fun same => digits (unpackMantissa_packComponents.symm.trans same)
    have kept : ((BitVec.ofNat 52 mantissa).toNat : ℚ) ≤ mantissa := by
      exact_mod_cast Nat.mod_le mantissa (2 ^ 52)
    rw [unpacked, magnitude_finite, unpackMantissa_packComponents]
    exact mul_le_mul kept (zpow_le_zpow_right₀ (by norm_num) least) (two_zpow_pos _).le
      (Nat.cast_nonneg _)

/-! ## Rounding -/

theorem targetExponent_eq (total : Int) :
    Format.binary64.targetExponent total = max (total - 53) (-1074) :=
  rfl

/-- The exponent of the last digit that is kept. -/
def lastPlace (mantissa : Nat) (exponent : Int) : Int :=
  max exponent (max (mantissa.log2 + exponent - 52) (-1074))

theorem mantissa_shiftRight (m : ExtendedMantissa) (n : Nat) :
    (m >>> n).mantissa = m.mantissa / 2 ^ n := by
  show (n.repeat ExtendedMantissa.shiftRightOne m).mantissa = m.mantissa / 2 ^ n
  induction n with
  | zero => exact (Nat.div_one _).symm
  | succ n ih =>
    show (n.repeat ExtendedMantissa.shiftRightOne m).mantissa / 2 = _
    rw [ih, Nat.div_div_eq_div_mul, Nat.pow_succ]

theorem roundToNearestEven_le (mantissa : Nat) (accuracy : Accuracy) :
    accuracy.roundToNearestEven mantissa ≤ mantissa + 1 := by
  rcases accuracy with _ | order
  · exact Nat.le_succ _
  · cases order with
    | lt => exact Nat.le_succ _
    | eq => exact Nat.add_le_add_left (Nat.le_of_lt_succ (Nat.mod_lt _ (by decide))) _
    | gt => exact Nat.le_refl _

theorem le_roundToNearestEven (mantissa : Nat) (accuracy : Accuracy) :
    mantissa ≤ accuracy.roundToNearestEven mantissa := by
  rcases accuracy with _ | order
  · exact le_refl _
  · cases order with
    | lt => exact le_refl _
    | eq => exact Nat.le_add_right _ _
    | gt => exact Nat.le_succ _

theorem shift_eq (mantissa : Nat) (exponent : Int) (accuracy : Accuracy) :
    ∃ places : Nat, exponent + (places : Int) = lastPlace mantissa exponent ∧
      (shiftToTargetExponent Format.binary64 mantissa exponent accuracy).2 =
        lastPlace mantissa exponent ∧
      (shiftToTargetExponent Format.binary64 mantissa exponent accuracy).1.mantissa =
        mantissa / 2 ^ places := by
  have start : (ExtendedMantissa.ofMantissaAndAccuracy mantissa accuracy).mantissa = mantissa := by
    rcases accuracy with _ | order
    · rfl
    · cases order <;> rfl
  have raised : exponent + ((Format.binary64.targetExponent
      (Float.Model.totalExponent mantissa exponent) - exponent).toNat : Int) =
        lastPlace mantissa exponent := by
    rw [targetExponent_eq, Float.Model.totalExponent, lastPlace]
    omega
  refine ⟨_, raised, raised, ?_⟩
  exact (mantissa_shiftRight _ _).trans (by rw [start])

/-- What rounding makes of digits: some are cut off, one is added at most, and where that makes a
digit more, digits are cut off again. -/
theorem round_eq (sign : Sign) (mantissa : Nat) (exponent : Int) (accuracy : Accuracy) :
    ∃ first second rounded : Nat,
      exponent + (first : Int) = lastPlace mantissa exponent ∧
      mantissa / 2 ^ first ≤ rounded ∧ rounded ≤ mantissa / 2 ^ first + 1 ∧
      lastPlace mantissa exponent + (second : Int) =
        lastPlace rounded (lastPlace mantissa exponent) ∧
      roundWithAccuracy Format.binary64 sign mantissa exponent accuracy =
        if h : rounded / 2 ^ second = 0 then .zero sign
        else .finite sign (rounded / 2 ^ second)
          (lastPlace rounded (lastPlace mantissa exponent)) (Nat.pos_of_ne_zero h) := by
  obtain ⟨first, raised, place, cut⟩ := shift_eq mantissa exponent accuracy
  unfold roundWithAccuracy
  generalize shiftToTargetExponent Format.binary64 mantissa exponent accuracy = shifted
    at place cut
  obtain ⟨extended, lifted⟩ := shifted
  simp only at place cut
  subst place
  obtain ⟨second, again, last, final⟩ :=
    shift_eq extended.roundedMantissa (lastPlace mantissa exponent) .exact
  refine ⟨first, second, extended.roundedMantissa, raised, ?_, ?_, again, ?_⟩
  · rw [← cut]
    exact le_roundToNearestEven _ _
  · rw [← cut]
    exact roundToNearestEven_le _ _
  · rw [← last, ← final]

theorem cut_le (mantissa places : Nat) (exponent : Int) :
    ((mantissa / 2 ^ places : Nat) : ℚ) * 2 ^ (exponent + (places : Int)) ≤
      mantissa * 2 ^ exponent := by
  calc ((mantissa / 2 ^ places : Nat) : ℚ) * 2 ^ (exponent + (places : Int))
      ≤ (mantissa / 2 ^ places : ℚ) * 2 ^ (exponent + (places : Int)) := by
        have := Nat.cast_div_le (α := ℚ) (m := mantissa) (n := 2 ^ places)
        push_cast at this
        gcongr
    _ = mantissa * 2 ^ exponent := by
        rw [zpow_add₀ (by norm_num), zpow_natCast]
        field_simp

theorem rounded_le {mantissa places rounded : Nat} (next : rounded ≤ mantissa / 2 ^ places + 1)
    (exponent : Int) : (rounded : ℚ) * 2 ^ (exponent + (places : Int)) ≤
      mantissa * 2 ^ exponent + 2 ^ (exponent + (places : Int)) := by
  calc (rounded : ℚ) * 2 ^ (exponent + (places : Int))
      ≤ ((mantissa / 2 ^ places : Nat) + 1) * 2 ^ (exponent + (places : Int)) :=
        mul_le_mul_of_nonneg_right (by exact_mod_cast next) (two_zpow_pos _).le
    _ ≤ mantissa * 2 ^ exponent + 2 ^ (exponent + (places : Int)) := by
        have cut := cut_le mantissa places exponent
        linarith

theorem lastPlace_le {mantissa : Nat} {exponent : Int} (low : exponent ≤ 971)
    (small : (mantissa : ℚ) * 2 ^ exponent < 2 ^ 1024) : lastPlace mantissa exponent ≤ 971 := by
  -- The first digit alone makes the number as large as this power.
  have high : mantissa.log2 + exponent < 1024 := by
    by_cases zero : mantissa = 0
    · subst zero
      simp
      omega
    · have power : (2 : ℚ) ^ (mantissa.log2 + exponent) < 2 ^ (1024 : Int) := by
        calc (2 : ℚ) ^ ((mantissa.log2 : Int) + exponent)
            = (2 ^ mantissa.log2 : Nat) * 2 ^ exponent := by
              rw [zpow_add₀ (by norm_num), zpow_natCast]
              push_cast
              rfl
          _ ≤ mantissa * 2 ^ exponent := by
              have := Nat.log2_self_le zero
              gcongr
          _ < 2 ^ 1024 := small
      exact (zpow_lt_zpow_iff_right₀ (by norm_num)).1 power
  unfold lastPlace
  omega

theorem least_le_lastPlace (mantissa : Nat) (exponent : Int) :
    -1074 ≤ lastPlace mantissa exponent :=
  le_max_of_le_right (le_max_right _ _)

theorem round_le (sign : Sign) (mantissa : Nat) (exponent : Int) (accuracy : Accuracy)
    (room : lastPlace mantissa exponent ≤ 971)
    (small : (mantissa : ℚ) * 2 ^ exponent + 2 ^ lastPlace mantissa exponent < 2 ^ 1024) :
    let x := Float.ofModel
      (.pack (roundWithAccuracy Format.binary64 sign mantissa exponent accuracy))
    x.isFinite = true ∧
      size x ≤ mantissa * 2 ^ exponent + 2 ^ lastPlace mantissa exponent := by
  obtain ⟨first, second, rounded, raised, -, next, again, result⟩ :=
    round_eq sign mantissa exponent accuracy
  have value := rounded_le next exponent
  rw [raised] at value
  have last := lastPlace_le room (value.trans_lt small)
  rw [result]
  by_cases zero : rounded / 2 ^ second = 0
  · rw [dif_pos zero]
    refine ⟨isFinite_pack trivial, ?_⟩
    rw [size_zero]
    exact add_nonneg (mul_nonneg (Nat.cast_nonneg _) (two_zpow_pos _).le) (two_zpow_pos _).le
  · rw [dif_neg zero]
    refine ⟨isFinite_pack ?_, ?_⟩
    · rw [hasRoom_finite]
      omega
    · have packed := magnitude_pack_le sign (Nat.pos_of_ne_zero zero)
        (least_le_lastPlace _ _) last
      have final := cut_le rounded second (lastPlace mantissa exponent)
      rw [again] at final
      exact packed.trans (final.trans value)

theorem log2_div_two_pow {mantissa places : Nat} (long : mantissa.log2 = 52 + places) :
    (mantissa / 2 ^ places).log2 = 52 := by
  have nonzero : mantissa ≠ 0 := by
    rintro rfl
    simp at long
    omega
  have low : 2 ^ 52 ≤ mantissa / 2 ^ places := by
    rw [Nat.le_div_iff_mul_le (Nat.two_pow_pos _), ← Nat.pow_add, ← long]
    exact Nat.log2_self_le nonzero
  have high : mantissa / 2 ^ places < 2 ^ 53 := by
    rw [Nat.div_lt_iff_lt_mul (Nat.two_pow_pos _), ← Nat.pow_add,
      show 53 + places = mantissa.log2 + 1 by omega]
    exact Nat.lt_log2_self
  exact (Nat.log2_eq_iff (by omega)).2 ⟨low, high⟩

theorem round_full (sign : Sign) {mantissa : Nat} {exponent : Int} (accuracy : Accuracy)
    (long : 52 ≤ mantissa.log2) (normal : -1022 ≤ mantissa.log2 + exponent)
    (room : lastPlace mantissa exponent ≤ 971)
    (small : (mantissa : ℚ) * 2 ^ exponent + 2 ^ lastPlace mantissa exponent < 2 ^ 1024) :
    ∃ sign' mantissa' exponent' positive,
      (Float.Model.pack
        (roundWithAccuracy Format.binary64 sign mantissa exponent accuracy)).unpack =
          .finite sign' mantissa' exponent' positive ∧
      2 ^ 52 ≤ mantissa' ∧ (2 : ℚ) ^ (mantissa.log2 + exponent) ≤ mantissa' * 2 ^ exponent' := by
  obtain ⟨first, second, rounded, raised, cut, next, again, result⟩ :=
    round_eq sign mantissa exponent accuracy
  have value := rounded_le next exponent
  rw [raised] at value
  have last := lastPlace_le room (value.trans_lt small)
  have place : lastPlace mantissa exponent = mantissa.log2 + exponent - 52 := by
    unfold lastPlace
    omega
  -- Cutting leaves 53 bits, and rounding takes none of them away.
  have kept : (mantissa / 2 ^ first).log2 = 52 := log2_div_two_pow (by omega)
  have full : 2 ^ 52 ≤ rounded := by
    have nonzero : mantissa / 2 ^ first ≠ 0 := fun same => by simp [same] at kept
    exact ((Nat.le_log2 nonzero).1 kept.ge).trans cut
  have longer : 52 ≤ rounded.log2 := (Nat.le_log2 (by omega)).2 full
  have least := least_le_lastPlace mantissa exponent
  have final : lastPlace rounded (lastPlace mantissa exponent) =
      rounded.log2 + lastPlace mantissa exponent - 52 := by
    unfold lastPlace at least ⊢
    omega
  have digits : (rounded / 2 ^ second).log2 = 52 := log2_div_two_pow (by omega)
  have nonzero : rounded / 2 ^ second ≠ 0 := fun same => by simp [same] at digits
  have enough : 2 ^ 52 ≤ rounded / 2 ^ second := (Nat.le_log2 nonzero).1 digits.ge
  obtain ⟨sign', unpacked⟩ := unpack_pack_full sign (Nat.pos_of_ne_zero nonzero) digits
    (least_le_lastPlace rounded (lastPlace mantissa exponent)) last
  rw [result, dif_neg nonzero]
  refine ⟨sign', _, _, _, unpacked, enough, ?_⟩
  calc (2 : ℚ) ^ ((mantissa.log2 : Int) + exponent)
      = 2 ^ 52 * 2 ^ lastPlace mantissa exponent := by
        rw [place, ← zpow_natCast, ← zpow_add₀ (by norm_num)]
        congr 1
        omega
    _ ≤ (rounded / 2 ^ second : Nat) * 2 ^ lastPlace rounded (lastPlace mantissa exponent) := by
        have wide : (2 : ℚ) ^ 52 ≤ (rounded / 2 ^ second : Nat) := by exact_mod_cast enough
        have above : (2 : ℚ) ^ lastPlace mantissa exponent ≤
            2 ^ lastPlace rounded (lastPlace mantissa exponent) :=
          zpow_le_zpow_right₀ (by norm_num) (by omega)
        exact mul_le_mul wide above (two_zpow_pos _).le (Nat.cast_nonneg _)

/-- As much as rounding may add to a number: a part in `2 ^ 52`, or the least double. -/
def spare (value : ℚ) : ℚ :=
  value / 2 ^ 52 + 2 ^ (-1074 : Int)

theorem spare_nonneg {value : ℚ} (nonneg : 0 ≤ value) : 0 ≤ spare value :=
  add_nonneg (div_nonneg nonneg (by norm_num)) (two_zpow_pos _).le

theorem spare_le {value bound : ℚ} (within : value ≤ bound) : spare value ≤ bound / 2 ^ 52 + 1 :=
  add_le_add (div_le_div_of_nonneg_right within (by norm_num))
    (zpow_le_one_of_nonpos₀ (by norm_num) (by norm_num))

theorem add_spare_le {value : ℚ} (within : value ≤ 2 ^ 64) : value + spare value ≤ 2 ^ 65 := by
  calc value + spare value ≤ 2 ^ 64 + (2 ^ 64 / 2 ^ 52 + 1) := add_le_add within (spare_le within)
    _ ≤ 2 ^ 65 := by norm_num

theorem two_pow_log2_mul_le {mantissa : Nat} (nonzero : mantissa ≠ 0) (exponent : Int) :
    (2 : ℚ) ^ (mantissa.log2 + exponent) ≤ mantissa * 2 ^ exponent := by
  have low : (2 : ℚ) ^ mantissa.log2 ≤ mantissa := by
    exact_mod_cast Nat.log2_self_le nonzero
  rw [zpow_add₀ (by norm_num), zpow_natCast]
  exact mul_le_mul_of_nonneg_right low (two_zpow_pos _).le

theorem two_pow_lastPlace_le {mantissa : Nat} {exponent : Int} {value : ℚ}
    (within : mantissa * 2 ^ exponent ≤ value) (fine : 2 ^ exponent ≤ spare value) :
    2 ^ lastPlace mantissa exponent ≤ spare value := by
  have nonneg : 0 ≤ value :=
    (mul_nonneg (Nat.cast_nonneg _) (two_zpow_pos _).le).trans within
  have digits : (2 : ℚ) ^ (mantissa.log2 + exponent - 52) ≤ spare value := by
    by_cases zero : mantissa = 0
    · subst zero
      exact (zpow_le_zpow_right₀ (by norm_num) (by simp)).trans fine
    · rw [zpow_sub₀ (by norm_num), spare]
      have := (two_pow_log2_mul_le zero exponent).trans within
      have part : (2 : ℚ) ^ (mantissa.log2 + exponent) / 2 ^ (52 : Int) ≤ value / 2 ^ 52 :=
        div_le_div_of_nonneg_right this (by norm_num)
      exact part.trans (le_add_of_nonneg_right (two_zpow_pos _).le)
  have least : (2 : ℚ) ^ (-1074 : Int) ≤ spare value :=
    le_add_of_nonneg_left (div_nonneg nonneg (by norm_num))
  unfold lastPlace
  rcases max_choice exponent (max (mantissa.log2 + exponent - 52) (-1074)) with same | same <;>
    rw [same]
  · exact fine
  · rcases max_choice ((mantissa.log2 : Int) + exponent - 52) (-1074) with same | same <;> rw [same]
    · exact digits
    · exact least

theorem spare_lt {value : ℚ} (small : value + spare value < 2 ^ 1024) : spare value < 2 ^ 972 := by
  rw [show (2 : ℚ) ^ 1024 = 2 ^ 52 * 2 ^ 972 by rw [← pow_add]] at small
  have large : (2 : ℚ) ^ 52 ≤ 2 ^ 972 := pow_le_pow_right₀ (by norm_num) (by norm_num)
  have tiny : (2 : ℚ) ^ (-1074 : Int) ≤ 1 := zpow_le_one_of_nonpos₀ (by norm_num) (by norm_num)
  unfold spare at *
  generalize (2 : ℚ) ^ 972 = top at *
  generalize (2 : ℚ) ^ (-1074 : Int) = least at *
  by_contra not
  norm_num at *
  linarith

theorem room_of_spare {mantissa : Nat} {exponent : Int} {value : ℚ}
    (within : mantissa * 2 ^ exponent ≤ value) (fine : 2 ^ exponent ≤ spare value)
    (small : value + spare value < 2 ^ 1024) :
    lastPlace mantissa exponent ≤ 971 ∧
      (mantissa : ℚ) * 2 ^ exponent + 2 ^ lastPlace mantissa exponent < 2 ^ 1024 := by
  have last := two_pow_lastPlace_le within fine
  have room : lastPlace mantissa exponent < 972 :=
    (zpow_lt_zpow_iff_right₀ (by norm_num)).1 (last.trans_lt (spare_lt small))
  exact ⟨by omega, (add_le_add within last).trans_lt small⟩

/-- Rounding a number below `2 ^ 1024` by more than it may add gives a double, that much larger at
most. -/
theorem round_le_spare (sign : Sign) {mantissa : Nat} {exponent : Int} (accuracy : Accuracy)
    {value : ℚ} (within : mantissa * 2 ^ exponent ≤ value) (fine : 2 ^ exponent ≤ spare value)
    (small : value + spare value < 2 ^ 1024) :
    let x := Float.ofModel
      (.pack (roundWithAccuracy Format.binary64 sign mantissa exponent accuracy))
    x.isFinite = true ∧ size x ≤ value + spare value := by
  obtain ⟨room, below⟩ := room_of_spare within fine small
  obtain ⟨finite, bound⟩ := round_le sign mantissa exponent accuracy room below
  exact ⟨finite, bound.trans (add_le_add within (two_pow_lastPlace_le within fine))⟩

/-! ## Products, quotients and integers -/

theorem mul_le {x y : Float} {sign : Sign} {mantissa : Nat} {exponent : Int}
    {positive : 0 < mantissa}
    (unpacked : y.toModel.unpack = .finite sign mantissa exponent positive)
    (full : 2 ^ 52 ≤ mantissa) (finite : x.isFinite = true)
    (small : size x * size y + spare (size x * size y) < 2 ^ 1024) :
    (x * y).isFinite = true ∧ size (x * y) ≤ size x * size y + spare (size x * size y) := by
  have product : x * y = .ofModel
      (.pack (UnpackedFloat.mul Format.binary64 x.toModel.unpack y.toModel.unpack)) := rfl
  have finite : x.toModel.unpack.isFinite = true := finite
  have sizeX : size x = magnitude x.toModel.unpack := rfl
  have sizeY := size_finite unpacked
  rw [product, unpacked]
  generalize x.toModel.unpack = u at *
  cases u with
  | infinity s => cases finite
  | notANumber => cases finite
  | zero s =>
    refine ⟨isFinite_pack trivial, ?_⟩
    have nonneg := mul_nonneg (size_nonneg x) (size_nonneg y)
    exact (size_zero (s * sign)).le.trans (add_nonneg nonneg (spare_nonneg nonneg))
  | finite s m e pos =>
    have value : ((m * mantissa : Nat) : ℚ) * 2 ^ (e + exponent) = size x * size y := by
      rw [sizeX, sizeY, magnitude_finite, zpow_add₀ (by norm_num)]
      push_cast
      ring
    refine round_le_spare _ .exact value.le ?_ small
    have wide : (2 : ℚ) ^ 52 ≤ (m * mantissa : Nat) := by
      exact_mod_cast full.trans (Nat.le_mul_of_pos_left _ pos)
    have part : (2 : ℚ) ^ (e + exponent) ≤ size x * size y / 2 ^ 52 := by
      rw [← value, le_div_iff₀ (by norm_num), mul_comm]
      exact mul_le_mul_of_nonneg_right wide (two_zpow_pos _).le
    exact part.trans (le_add_of_nonneg_right (two_zpow_pos _).le)

theorem toFloat_le (n : UInt64) :
    n.toFloat.isFinite = true ∧ size n.toFloat ≤ n.toNat + spare n.toNat := by
  have converted : n.toFloat =
      .ofModel (.pack (UnpackedFloat.normalize Format.binary64 (n.toNat : Int) 0 .positive)) := rfl
  rw [converted]
  unfold UnpackedFloat.normalize
  by_cases zero : n.toNat = 0
  · rw [zero]
    refine ⟨isFinite_pack trivial, ?_⟩
    exact (size_zero .positive).le.trans (add_nonneg (by norm_num) (spare_nonneg (by norm_num)))
  have sign : compare (n.toNat : Int) 0 = .gt := Int.compare_eq_gt.2 (by omega)
  -- Zeros are put behind the digits, to make 53 of them.
  obtain ⟨zeros, enough, decreased⟩ : ∃ zeros : Nat, 52 ≤ n.toNat.log2 + zeros ∧
      decreaseExponent n.toNat 0
        (Format.binary64.targetExponent (Float.Model.totalExponent n.toNat 0)) =
          (n.toNat <<< zeros, -(zeros : Int)) := by
    refine ⟨_, ?_, Prod.ext rfl (Int.zero_sub _)⟩
    rw [targetExponent_eq, Float.Model.totalExponent]
    omega
  have value : ((n.toNat <<< zeros : Nat) : ℚ) * 2 ^ (-(zeros : Int)) = n.toNat := by
    rw [Nat.shiftLeft_eq, zpow_neg, zpow_natCast]
    push_cast
    field_simp
  rw [sign]
  simp only [Int.toNat_natCast, UnpackedFloat.round, decreased]
  refine round_le_spare _ .exact value.le ?_ ?_
  · have part : (2 : ℚ) ^ (-(zeros : Int)) ≤ n.toNat / 2 ^ 52 := by
      rw [le_div_iff₀ (by norm_num), ← zpow_natCast, ← zpow_add₀ (by norm_num)]
      refine (zpow_le_zpow_right₀ (by norm_num) ?_).trans
        ((two_pow_log2_mul_le zero 0).trans (by simp))
      push_cast
      omega
    exact part.trans (le_add_of_nonneg_right (two_zpow_pos _).le)
  · have below : (n.toNat : ℚ) ≤ 2 ^ 64 := by exact_mod_cast n.toNat_lt.le
    exact (add_spare_le below).trans_lt (pow_lt_pow_right₀ (by norm_num) (by norm_num))

theorem isFinite_toFloat (n : UInt64) : n.toFloat.isFinite :=
  (toFloat_le n).1

/-- Zeros are put behind the dividend, and the quotient's last place is lowered by as many. -/
theorem divCore_eq (m : Nat) (e : Int) (mantissa : Nat) (exponent : Int) :
    ∃ (places : Nat) (target : Int), target + (places : Int) = e - exponent ∧
      divCore Format.binary64 m e mantissa exponent =
        ((m <<< places) / mantissa, target,
          accuracyOfFraction ((m <<< places) % mantissa) mantissa) ∧
      target ≤ max ((m.log2 : Int) + e - (mantissa.log2 + 1 + exponent) - 52) (-1074) := by
  refine ⟨_, _, ?_, rfl, ?_⟩
  · omega
  · rw [targetExponent_eq, Float.Model.totalExponent, Float.Model.totalExponent]
    omega

theorem quotient_le (m mantissa : Nat) {e exponent target : Int} {places : Nat}
    (lowered : target + (places : Int) = e - exponent) :
    (((m <<< places) / mantissa : Nat) : ℚ) * 2 ^ target ≤
      m * 2 ^ e / (mantissa * 2 ^ exponent) := by
  have shifted : ((m <<< places : Nat) : ℚ) = m * 2 ^ places := by
    rw [Nat.shiftLeft_eq]
    push_cast
    rfl
  have kept : (((m <<< places) / mantissa : Nat) : ℚ) ≤ m * 2 ^ places / mantissa := by
    rw [← shifted]
    exact Nat.cast_div_le
  calc (((m <<< places) / mantissa : Nat) : ℚ) * 2 ^ target
      ≤ m * 2 ^ places / mantissa * 2 ^ target :=
        mul_le_mul_of_nonneg_right kept (two_zpow_pos _).le
    _ = m * 2 ^ (target + (places : Int)) / mantissa := by
        rw [zpow_add₀ (by norm_num), zpow_natCast]
        ring
    _ = m * 2 ^ e / (mantissa * 2 ^ exponent) := by
        rw [lowered, zpow_sub₀ (by norm_num)]
        field_simp

theorem two_pow_target_le {m mantissa : Nat} {e exponent target : Int} (dividend : 0 < m)
    (divisor : 0 < mantissa)
    (low : target ≤ max ((m.log2 : Int) + e - (mantissa.log2 + 1 + exponent) - 52) (-1074)) :
    (2 : ℚ) ^ target ≤ spare (m * 2 ^ e / (mantissa * 2 ^ exponent)) := by
  have top : (2 : ℚ) ^ ((m.log2 : Int) + e) ≤ m * 2 ^ e :=
    two_pow_log2_mul_le (Nat.ne_of_gt dividend) e
  have bottom : (mantissa : ℚ) * 2 ^ exponent ≤ 2 ^ ((mantissa.log2 : Int) + 1 + exponent) := by
    have high : (mantissa : ℚ) ≤ 2 ^ (mantissa.log2 + 1) := by
      exact_mod_cast Nat.lt_log2_self.le
    rw [zpow_add₀ (by norm_num)]
    exact mul_le_mul_of_nonneg_right (by exact_mod_cast high) (two_zpow_pos _).le
  have positive : (0 : ℚ) < mantissa * 2 ^ exponent :=
    mul_pos (Nat.cast_pos.2 divisor) (two_zpow_pos _)
  have nonneg : (0 : ℚ) ≤ m * 2 ^ e := mul_nonneg (Nat.cast_nonneg m) (two_zpow_pos _).le
  -- The last place stands 52 digits behind the first one, or is that of the least double.
  rcases le_max_iff.1 low with low | low
  · have part : (2 : ℚ) ^ target ≤ m * 2 ^ e / (mantissa * 2 ^ exponent) / 2 ^ 52 := by
      calc (2 : ℚ) ^ target
          ≤ 2 ^ ((m.log2 : Int) + e - (mantissa.log2 + 1 + exponent) - 52) :=
            zpow_le_zpow_right₀ (by norm_num) low
        _ = 2 ^ ((m.log2 : Int) + e) / 2 ^ ((mantissa.log2 : Int) + 1 + exponent) / 2 ^ 52 := by
            rw [zpow_sub₀ (by norm_num), zpow_sub₀ (by norm_num)]
            rfl
        _ ≤ m * 2 ^ e / (mantissa * 2 ^ exponent) / 2 ^ 52 := by gcongr
    exact part.trans (le_add_of_nonneg_right (two_zpow_pos _).le)
  · have least : (2 : ℚ) ^ target ≤ 2 ^ (-1074 : Int) := zpow_le_zpow_right₀ (by norm_num) low
    exact least.trans (le_add_of_nonneg_left
      (div_nonneg (div_nonneg nonneg positive.le) (by norm_num)))

theorem div_le {x y : Float} {sign : Sign} {mantissa : Nat} {exponent : Int}
    {positive : 0 < mantissa}
    (unpacked : y.toModel.unpack = .finite sign mantissa exponent positive)
    (finite : x.isFinite = true) (small : size x / size y + spare (size x / size y) < 2 ^ 1024) :
    (x / y).isFinite = true ∧ size (x / y) ≤ size x / size y + spare (size x / size y) := by
  have quotient : x / y = .ofModel
      (.pack (UnpackedFloat.div Format.binary64 x.toModel.unpack y.toModel.unpack)) := rfl
  have finite : x.toModel.unpack.isFinite = true := finite
  have sizeX : size x = magnitude x.toModel.unpack := rfl
  have sizeY := size_finite unpacked
  rw [quotient, unpacked]
  generalize x.toModel.unpack = u at *
  cases u with
  | infinity s => cases finite
  | notANumber => cases finite
  | zero s =>
    refine ⟨isFinite_pack trivial, ?_⟩
    have nonneg := div_nonneg (size_nonneg x) (size_nonneg y)
    exact (size_zero (s / sign)).le.trans (add_nonneg nonneg (spare_nonneg nonneg))
  | finite s m e pos =>
    obtain ⟨places, target, lowered, divided, low⟩ := divCore_eq m e mantissa exponent
    have rounded : UnpackedFloat.div Format.binary64 (.finite s m e pos)
        (.finite sign mantissa exponent positive) =
          roundWithAccuracy Format.binary64 (s / sign) ((m <<< places) / mantissa) target
            (accuracyOfFraction ((m <<< places) % mantissa) mantissa) := by
      show (let (quotient, place, accuracy) := divCore Format.binary64 m e mantissa exponent
        roundWithAccuracy Format.binary64 (s / sign) quotient place accuracy) = _
      rw [divided]
    rw [rounded]
    rw [sizeX, sizeY, magnitude_finite] at small ⊢
    exact round_le_spare _ _ (quotient_le m mantissa lowered)
      (two_pow_target_le pos positive low) small

end TraceQuery.Decimal

theorem TraceQuery.Json.Number.isFinite_toFloat (n : Json.Number) : n.toFloat.isFinite := by
  cases n with
  | integer value inRange =>
    simp only [toFloat]
    split
    · exact Decimal.isFinite_neg (Decimal.isFinite_toFloat _)
    · exact Decimal.isFinite_toFloat _
  | float value isFinite => exact isFinite
