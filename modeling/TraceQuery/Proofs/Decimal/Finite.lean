import TraceQuery.Json.Numeral

/-!
Which doubles are finite: those whose exponent is not the greatest, so that what is packed with
room for its exponent is finite, and what is negated of a finite double is finite too.
-/

set_option autoImplicit false
namespace TraceQuery.Decimal

open Float.Model (UnpackedFloat Format)
open Float.Model.UnpackedFloat

/-- The exponents that a finite double may have, above its mantissa of 53 bits. -/
def HasRoom : UnpackedFloat → Prop
  | .zero _ => True
  | .finite _ _ exponent _ => (exponent + 1075).toNat + 1 < 2048
  | .infinity _ | .notANumber => False

theorem hasRoom_finite {sign : Sign} {mantissa : Nat} {exponent : Int} {positive : 0 < mantissa} :
    HasRoom (.finite sign mantissa exponent positive) ↔ (exponent + 1075).toNat + 1 < 2048 :=
  Iff.rfl

theorem hasRoom_neg {u : UnpackedFloat} : HasRoom u → HasRoom u.neg := by
  cases u <;> exact id

section Layout

variable {b : BitVec 64}

theorem pack_finite (sign : Sign) (exponent : Int) {mantissa : Nat} (positive : 0 < mantissa)
    (room : (exponent + 1075).toNat + 1 < 2048) :
    pack Format.binary64 (.finite sign mantissa exponent positive) =
      packComponents Format.binary64 sign
        (if mantissa.log2 = 52 then .ofNat 11 (exponent + 1075).toNat else 0#11)
        (.ofNat 52 mantissa) := by
  have bias : exponent + (1023 : Nat) + (52 : Nat) = exponent + 1075 := Int.add_assoc ..
  -- The definition with the widths and the bias of doubles put in.
  show (if 2048 ≤ (exponent + (1023 : Nat) + (52 : Nat)).toNat + 1 then _
    else if mantissa.log2 + 1 = 53 then
      packComponents Format.binary64 sign
        (.ofNat 11 (exponent + (1023 : Nat) + (52 : Nat)).toNat) (.ofNat 52 mantissa)
    else packComponents Format.binary64 sign 0#11 (.ofNat 52 mantissa)) = _
  rw [bias, if_neg (Nat.not_le.2 room)]
  by_cases full : mantissa.log2 = 52
  · rw [if_pos (congrArg Nat.succ full), if_pos full]
  · rw [if_neg fun same => full (Nat.succ.inj same), if_neg full]

theorem not_isFinite_unpack (ones : @unpackExponent Format.binary64 b = -1#_) :
    (unpack Format.binary64 b).isFinite = false := by
  have special : unpack Format.binary64 b =
      if @unpackMantissa Format.binary64 b = 0#_ then
        .infinity (.ofBitVec (@unpackSign Format.binary64 b)) else .notANumber := if_pos ones
  rw [special]
  split <;> rfl

theorem unpack_zero (exponent : @unpackExponent Format.binary64 b = 0#_)
    (mantissa : @unpackMantissa Format.binary64 b = 0#_) :
    unpack Format.binary64 b = .zero (.ofBitVec (@unpackSign Format.binary64 b)) := by
  have ones : @unpackExponent Format.binary64 b ≠ -1#_ := by rw [exponent]; decide
  exact (if_neg ones).trans ((if_pos exponent).trans (dif_pos mantissa))

theorem unpack_subnormal (exponent : @unpackExponent Format.binary64 b = 0#_)
    (mantissa : @unpackMantissa Format.binary64 b ≠ 0#_) :
    ∃ positive, unpack Format.binary64 b = .finite (.ofBitVec (@unpackSign Format.binary64 b))
      (@unpackMantissa Format.binary64 b).toNat (-1074) positive := by
  have ones : @unpackExponent Format.binary64 b ≠ -1#_ := by rw [exponent]; decide
  have least : ((@unpackExponent Format.binary64 b).toNat : Int) - 1075 + 1 = -1074 := by
    rw [exponent]
    rfl
  rw [← least]
  exact ⟨_, (if_neg ones).trans ((if_pos exponent).trans (dif_neg mantissa))⟩

theorem unpack_normal (ones : @unpackExponent Format.binary64 b ≠ -1#_)
    (exponent : @unpackExponent Format.binary64 b ≠ 0#_) :
    ∃ positive, unpack Format.binary64 b = .finite (.ofBitVec (@unpackSign Format.binary64 b))
      (1#1 ++ @unpackMantissa Format.binary64 b).toNat
      ((@unpackExponent Format.binary64 b).toNat - 1075) positive :=
  ⟨_, (if_neg ones).trans (if_neg exponent)⟩

end Layout

theorem unpackExponent_pack_ne {u : UnpackedFloat} (room : HasRoom u) :
    unpackExponent (pack Format.binary64 u) ≠ -1#_ := by
  cases u with
  | infinity sign => exact room.elim
  | notANumber => exact room.elim
  | zero sign =>
    show unpackExponent (packComponents Format.binary64 sign 0#11 0#52) ≠ -1#_
    rw [unpackExponent_packComponents]
    decide
  | finite sign mantissa exponent positive =>
    have small := hasRoom_finite.1 room
    rw [pack_finite sign exponent positive small, unpackExponent_packComponents]
    split
    · intro same
      have same := congrArg BitVec.toNat same
      rw [BitVec.toNat_ofNat] at same
      simp at same
      omega
    · decide

/-- A double whose exponent is not the greatest has room for it. -/
theorem hasRoom_unpack_of_ne {b : BitVec 64}
    (ones : @unpackExponent Format.binary64 b ≠ -1#_) : HasRoom (unpack Format.binary64 b) := by
  by_cases exponent : @unpackExponent Format.binary64 b = 0#_
  · by_cases mantissa : @unpackMantissa Format.binary64 b = 0#_
    · rw [unpack_zero exponent mantissa]
      trivial
    · obtain ⟨positive, unpacked⟩ := unpack_subnormal exponent mantissa
      rw [unpacked, hasRoom_finite]
      decide
  · obtain ⟨positive, unpacked⟩ := unpack_normal ones exponent
    have below := (@unpackExponent Format.binary64 b).isLt
    have differs : (@unpackExponent Format.binary64 b).toNat ≠ 2047 := fun same =>
      ones (BitVec.eq_of_toNat_eq same)
    rw [unpacked, hasRoom_finite]
    simp at below
    omega

theorem HasRoom.isFinite {u : UnpackedFloat} (room : HasRoom u) : u.isFinite := by
  cases u with
  | infinity sign => exact room.elim
  | notANumber => exact room.elim
  | zero sign => rfl
  | finite sign mantissa exponent positive => rfl

theorem hasRoom_unpack {b : BitVec 64} (finite : (unpack Format.binary64 b).isFinite) :
    HasRoom (unpack Format.binary64 b) :=
  hasRoom_unpack_of_ne fun ones => by
    rw [not_isFinite_unpack ones] at finite
    cases finite

theorem isFinite_pack {u : UnpackedFloat} (room : HasRoom u) : (Float.Model.pack u).isFinite :=
  (hasRoom_unpack_of_ne (unpackExponent_pack_ne room)).isFinite

theorem isFinite_neg {x : Float} (finite : x.isFinite) : (-x).isFinite :=
  isFinite_pack (hasRoom_neg (hasRoom_unpack finite))

end TraceQuery.Decimal
