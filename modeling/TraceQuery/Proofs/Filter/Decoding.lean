import TraceQuery.Proofs.Filter.Document
import TraceQuery.Proofs.Json.Range
import TraceQuery.Proofs.Query.Parameters

/-!
What the values of filters are decoded as, and what they are bound as. A scalar is told by the kind
of its JSON value alone, a list by its items in turn, and a parameter is the scalar itself but for
booleans. Of the numbers that are no integers of 64 bits every one is a double that is below
`2 ^ 1024` by more than the reader may round; between that and the largest double it is one where
the reader's product happens to stay finite.
-/

set_option autoImplicit false
namespace TraceQuery

open Json (Decoder Numeral)

/-! ## Numbers that are integers of 64 bits -/

namespace Json.Numeral

def integer (n : Numeral) : Int :=
  if n.negative then -(Nat.ofDigitChars 10 n.whole 0 : Int) else Nat.ofDigitChars 10 n.whole 0

/-- The numeral is a sign and digits, without fraction or exponent, and their integer is this one.
No integer is written as `-0`. -/
structure Writes (n : Numeral) (w : Int64) : Prop where
  fraction : n.fraction = []
  exponent : n.exponent = none
  signed : n.negative = true → w ≠ 0
  value : n.integer = w.toInt

theorem inRange_toInt (w : Int64) :
    Int64.minValue.toInt ≤ w.toInt ∧ w.toInt < UInt64.size :=
  ⟨w.le_toInt, Int.lt_trans w.toInt_lt (by decide)⟩

theorem value?_eq (n : Numeral) : n.value? =
    if h : Int64.minValue.toInt ≤ n.integer ∧ n.integer < UInt64.size then
      if n.isWhole = true ∧ (n.negative = true → n.integer ≠ 0) then some (.integer n.integer h)
      else value?.ofDouble n.double?
    else value?.ofDouble n.double? := by
  have zero : (!(n.negative && Nat.ofDigitChars 10 n.whole 0 == 0)) = true ↔
      (n.negative = true → n.integer ≠ 0) := by
    cases sign : n.negative <;> simp [integer, sign]
  unfold value?
  simp only [Bool.and_eq_true, zero]
  rfl

theorem value?_eq_integer_iff {n : Numeral} {w : Int64}
    (inRange : Int64.minValue.toInt ≤ w.toInt ∧ w.toInt < UInt64.size) :
    n.value? = some (.integer w.toInt inRange) ↔ n.Writes w := by
  have zero : w.toInt = 0 ↔ w = 0 := Int64.toInt_inj (y := 0)
  have whole : n.isWhole = true ↔ n.fraction = [] ∧ n.exponent = none := by
    simp [isWhole]
  have double (d : Option Float) : value?.ofDouble d ≠ some (.integer w.toInt inRange) := by
    intro same
    obtain ⟨x, -, isFinite, same⟩ := ofDouble_eq_some_iff.1 same
    cases same
  rw [value?_eq]
  constructor
  · intro read
    split at read
    · split at read
      · next written =>
        injection read with read
        injection read with same
        obtain ⟨fraction, exponent⟩ := whole.1 written.1
        exact ⟨fraction, exponent, fun negative vanishes =>
          written.2 negative (same.trans (zero.2 vanishes)), same⟩
      · exact absurd read (double _)
    · exact absurd read (double _)
  · intro writes
    have signed (negative : n.negative = true) : n.integer ≠ 0 := fun vanishes =>
      writes.signed negative (zero.1 (writes.value.symm.trans vanishes))
    rw [dif_pos (by rwa [writes.value]),
      if_pos ⟨whole.2 ⟨writes.fraction, writes.exponent⟩, signed⟩]
    simp only [writes.value]

theorem magnitude_eq {n : Numeral} {digits places : Nat}
    (read : Nat.ofDigitChars 10 (n.whole ++ n.fraction) 0 = digits)
    (placed : n.writtenExponent - n.fraction.length = places) :
    n.magnitude = (digits * 10 ^ places : Nat) := by
  rw [magnitude, read, placed, zpow_natCast]
  push_cast
  rfl

end Json.Numeral

namespace Scalar

inductive Spells : Json.Tree → Scalar → Prop
  | bool (b : Bool) : Spells (.bool b) (.bool b)
  | integer {n : Numeral} {w : Int64} (written : n.Writes w) : Spells (.numeral n) (.integer w)
  | float {n : Numeral} {value : Json.Number} (other : ∀ w, ¬n.Writes w)
      (read : n.value? = some value) : Spells (.numeral n) (.float value.toFloat)
  | text {pieces : List Json.Piece} {s : String} (read : Json.Piece.text? pieces = some s) :
      Spells (.text pieces) (.text s)

theorem decoder_eq_some_iff {depth : Nat} {t : Json.Tree} {s : Scalar} :
    decoder depth t = some s ↔ Spells t s := by
  constructor
  · intro read
    cases t with
    | bool b =>
      cases read
      exact .bool b
    | numeral n =>
      obtain ⟨value, number, rfl⟩ := Option.map_eq_some_iff.1 read
      obtain ⟨w, inRange, rfl, result⟩ | ⟨other, result⟩ := ofNumber_cases value
      · rw [result]
        exact .integer ((Numeral.value?_eq_integer_iff inRange).1 number)
      · rw [result]
        refine .float (fun w written => ?_) number
        have inRange := Numeral.inRange_toInt w
        have integer := (Numeral.value?_eq_integer_iff inRange).2 written
        exact other w inRange (Option.some_inj.1 (number.symm.trans integer))
    | text pieces =>
      obtain ⟨content, spelled, rfl⟩ := Option.map_eq_some_iff.1 read
      exact .text spelled
    | _ => cases read
  · intro spelled
    cases spelled with
    | bool b => rfl
    | integer written =>
      have number := (Numeral.value?_eq_integer_iff (Numeral.inRange_toInt _)).2 written
      rw [decoder, number, Option.map_some, ofNumber, Word.int64?_eq_some_iff.2 rfl]
    | @float n value other number =>
      rw [decoder, number, Option.map_some]
      obtain ⟨w, inRange, rfl, -⟩ | ⟨-, result⟩ := ofNumber_cases value
      · exact absurd ((Numeral.value?_eq_integer_iff inRange).1 number) (other w)
      · rw [result]
    | text read => rw [decoder, read, Option.map_some]

inductive BoundAs : Scalar → Sql.BindValue → Prop
  | yes : BoundAs (.bool true) (.integer 1)
  | no : BoundAs (.bool false) (.integer 0)
  | integer (n : Int64) : BoundAs (.integer n) (.integer n)
  | float (x : Float) : BoundAs (.float x) (.real x)
  | text (s : String) : BoundAs (.text s) (.text s)

theorem boundAs_bindValue (s : Scalar) : BoundAs s s.bindValue := by
  cases s with
  | bool b => cases b <;> constructor
  | _ => constructor

end Scalar

namespace FilterValue

inductive Spells : Json.Tree → FilterValue → Prop
  | scalar {t : Json.Tree} {s : Scalar} (spelled : Scalar.Spells t s) : Spells t (.scalar s)
  | list {items : List Json.Tree} {values : List Scalar}
      (each : List.Forall₂ Scalar.Spells items values) : Spells (.array items) (.list values)

theorem spells_of_decoder {depth : Nat} {t : Json.Tree} {v : FilterValue}
    (read : decoder depth t = some v) : Spells t v := by
  cases v with
  | scalar s => exact .scalar (Scalar.decoder_eq_some_iff.1 (reads_scalar read))
  | list values =>
    obtain ⟨inner, items, rfl, rfl, each⟩ := Decoder.reads_of_list (reads_list read)
    exact .list ((Decoder.mapM_eq_some_iff.1 each).imp fun _ _ => Scalar.decoder_eq_some_iff.1)

theorem decoder_eq_some_iff {depth : Nat} {t : Json.Tree} {v : FilterValue} :
    decoder (depth + 1) t = some v ↔ Spells t v := by
  refine ⟨spells_of_decoder, fun spelled => ?_⟩
  cases spelled with
  | scalar spelled =>
    have single : ∀ items, t ≠ .array items := by
      rintro items rfl
      cases spelled
    rw [decoder_scalar single, Scalar.decoder_eq_some_iff.2 spelled, Option.map_some]
  | list each =>
    rw [decoder, Decoder.list_eq_some_iff.2 (each.imp fun _ _ => Scalar.decoder_eq_some_iff.2),
      Option.map_some]

end FilterValue

theorem SearchFilter.value_of_decoder {depth : Nat} {t : Json.Tree} {f : SearchFilter}
    (read : decoder depth t = some f) :
    ∃ fields, Decoder.Fields.ofTree? ["key", "operator", "value"] depth t = some fields ∧
      (f.value = none ↔ ∀ item ∈ fields.found.lookup "value", item = .null) ∧
      ∀ v, f.value = some v → ∃ item ∈ fields.found.lookup "value", FilterValue.Spells item v := by
  obtain ⟨fields, collected, read⟩ := Option.bind_eq_some_iff.1 read
  obtain ⟨key, -, read⟩ := Option.bind_eq_some_iff.1 read
  obtain ⟨operator, -, read⟩ := Option.bind_eq_some_iff.1 read
  obtain ⟨value, given, read⟩ := Option.bind_eq_some_iff.1 read
  cases read
  refine ⟨fields, collected, ?_⟩
  rw [Decoder.Fields.defaulted] at given
  cases found : fields.found.lookup "value" with
  | none =>
    rw [found] at given
    cases given
    simp
  | some item =>
    simp only [found] at given
    simp only [Option.mem_some_iff, forall_eq', exists_eq_left']
    by_cases null : item = .null
    · subst null
      cases given
      simp
    · rw [Decoder.option_of_ne_null null] at given
      obtain ⟨v, decoded, rfl⟩ := Option.map_eq_some_iff.1 given
      refine ⟨by simp [null], ?_⟩
      rintro w ⟨⟩
      exact FilterValue.spells_of_decoder decoded

theorem Operator.valueParams_eq {o : Operator} (compared : o ≠ .contains ∧ o ≠ .notContains)
    (v : FilterValue) : o.valueParams (some v) = v.scalars.map Scalar.bindValue := by
  cases v with
  | list items => rfl
  | scalar s =>
    cases s with
    | text s => exact if_neg (not_or.2 compared)
    | _ => rfl

def Operator.comparing : List Operator :=
  [.equals, .greater, .greaterOrEqual, .less, .lessOrEqual, .isIn, .notIn]

theorem SearchFilter.bound_of_predicate {registry : Registry} {f : SearchFilter} {o : Operator}
    {p : Sql.Predicate} (named : Operator.ofName? f.operator = some o)
    (compares : o ∈ Operator.comparing) (built : f.predicate registry = .ok p) :
    ∃ v location values, f.value = some v ∧ registry.resolve f.key = .ok location ∧
      p.params = o.pathParams location ++ values ∧
      List.Forall₂ Scalar.BoundAs v.scalars values := by
  obtain ⟨other, argument, location, same, accepted, resolved, rfl⟩ := predicate_eq_ok_iff.1 built
  obtain rfl : o = other := Option.some_inj.1 (named.symm.trans same)
  have params := Operator.params_predicate accepted location
  have takes : o.arity ≠ .none ∧ o ≠ .contains ∧ o ≠ .notContains := by
    revert compares
    cases o <;> decide
  cases given : f.value with
  | none =>
    obtain ⟨shape, -⟩ | ⟨-, s, absent, -⟩ | ⟨-, s, absent, -⟩ | ⟨-, item, items, absent, -⟩ :=
      Operator.argument?_cases accepted
    · exact absurd shape takes.1
    all_goals
      rw [given] at absent
      cases absent
  | some v =>
    rw [given, Operator.valueParams_eq takes.2] at params
    refine ⟨v, location, _, rfl, resolved, params, ?_⟩
    rw [List.forall₂_map_right_iff, List.forall₂_same]
    exact fun s _ => s.boundAs_bindValue

namespace FilterValue

theorem Spells.unique {t : Json.Tree} {v other : FilterValue} (first : Spells t v)
    (second : Spells t other) : v = other := by
  have read : decoder 1 t = some v := decoder_eq_some_iff.2 first
  have again : decoder 1 t = some other := decoder_eq_some_iff.2 second
  exact Option.some_inj.1 (read.symm.trans again)

theorem decoder_array_of_mem {items : List Json.Tree} {item : Json.Tree} (member : item ∈ items)
    (other : ∀ s, ¬Scalar.Spells item s) (depth : Nat) : decoder depth (.array items) = none := by
  rw [Option.eq_none_iff_forall_ne_some]
  intro v read
  cases spells_of_decoder read with
  | scalar spelled => cases spelled
  -- A list is spelled item by item, the other one among them.
  | list each =>
    obtain ⟨place, within, rfl⟩ := List.getElem_of_mem member
    exact other _ (each.get within (each.length_eq ▸ within))

theorem Spells.float {n : Numeral} (other : ∀ w, ¬n.Writes w) {v : FilterValue}
    (spelled : Spells (.numeral n) v) :
    ∃ x : Float, x.isFinite = true ∧ v = .scalar (.float x) := by
  cases spelled with
  | scalar spelled =>
    cases spelled with
    | integer written => exact absurd written (other _)
    | @float _ value _ _ => exact ⟨_, value.isFinite_toFloat, rfl⟩

theorem exists_float {n : Numeral} (other : ∀ w, ¬n.Writes w)
    (small : n.magnitude < Json.readable) : ∃ x, Spells (.numeral n) (.scalar (.float x)) := by
  obtain ⟨value, read⟩ := Numeral.exists_value? small
  exact ⟨_, .scalar (.float other read)⟩

/--
A filter's value is decoded by one rule, by the kind of the JSON value, and bound as the scalars it
is. Numbers that are no integers of 64 bits are doubles if they are below `2 ^ 1024` by `2 ^ 974`
at least, which is eight times as much as the largest double is.
-/
theorem decoded_by_kind_and_bound :
    (∀ depth t v, decoder (depth + 1) t = some v ↔ Spells t v) ∧
    (∀ t v other, Spells t v → Spells t other → v = other) ∧
    (∀ depth, decoder depth .null = none ∧ (∀ members, decoder depth (.object members) = none) ∧
      ∀ items, (∃ item ∈ items, item = .null ∨ (∃ members, item = .object members) ∨
        ∃ inner, item = .array inner) → decoder depth (.array items) = none) ∧
    (∀ n : Numeral, (∀ w, ¬n.Writes w) →
      (∀ v, Spells (.numeral n) v → ∃ x : Float, x.isFinite = true ∧ v = .scalar (.float x)) ∧
      (n.magnitude < 2 ^ 1024 - 2 ^ 974 → ∃ x, Spells (.numeral n) (.scalar (.float x)))) ∧
    (∀ depth t f, SearchFilter.decoder depth t = some f →
      ∃ fields, Decoder.Fields.ofTree? ["key", "operator", "value"] depth t = some fields ∧
        (f.value = none ↔ ∀ item ∈ fields.found.lookup "value", item = .null) ∧
        ∀ v, f.value = some v → ∃ item ∈ fields.found.lookup "value", Spells item v) ∧
    ∀ (registry : Registry) (f : SearchFilter) o p, Operator.ofName? f.operator = some o →
      o ∈ Operator.comparing → f.predicate registry = .ok p →
      ∃ v location values, f.value = some v ∧ registry.resolve f.key = .ok location ∧
        p.params = o.pathParams location ++ values ∧
        List.Forall₂ Scalar.BoundAs v.scalars values := by
  refine ⟨fun _ _ _ => decoder_eq_some_iff, fun _ _ _ => Spells.unique, fun depth => ?_,
    fun n other => ⟨fun _ => Spells.float other, exists_float other⟩,
    fun _ _ _ => SearchFilter.value_of_decoder,
    fun _ _ _ _ => SearchFilter.bound_of_predicate⟩
  refine ⟨rfl, fun _ => rfl, ?_⟩
  rintro items ⟨item, member, kind⟩
  refine decoder_array_of_mem member ?_ depth
  obtain rfl | ⟨members, rfl⟩ | ⟨inner, rfl⟩ := kind <;> exact nofun

/-- The items of `["7",true,-0,9223372036854775808,1e300,9223372036854775807]`. -/
def sampleItems : List Json.Tree :=
  [.text (Json.Piece.ofString "7"), .bool true, .numeral ⟨true, ['0'], [], none⟩,
    .numeral ⟨false, "9223372036854775808".toList, [], none⟩,
    .numeral ⟨false, ['1'], [], some (false, "300".toList)⟩,
    .numeral ⟨false, "9223372036854775807".toList, [], none⟩]

def sampleScalars : List Scalar :=
  [.text "7", .bool true, .float (-0.0), .float 9223372036854775808.0, .float 1e300,
    .integer 9223372036854775807]

theorem decoded_by_kind_and_bound_sample :
    Spells (.array sampleItems) (.list sampleScalars) ∧
      (∃ x, Spells (.numeral ⟨false, ['1'], [], some (false, "300".toList)⟩) (.scalar (.float x))) ∧
      ∃ p values,
        SearchFilter.predicate ⟨"span.code", "in", some (.list sampleScalars)⟩ .standard = .ok p ∧
        p.params = .text "$.\"code\"" :: values ∧
        List.Forall₂ Scalar.BoundAs sampleScalars values := by
  have decoded : decoder 1 (.array sampleItems) = some (.list sampleScalars) := by decide +kernel
  refine ⟨(decoded_by_kind_and_bound.1 0 _ _).1 decoded, ?_, ?_⟩
  · refine (decoded_by_kind_and_bound.2.2.2.1 _ ?_).2 ?_
    · rintro w ⟨-, exponent, -, -⟩
      cases exponent
    · have small : 1 * 10 ^ 300 + 2 ^ 974 < 2 ^ 1024 := by decide +kernel
      have value : Numeral.magnitude ⟨false, ['1'], [], some (false, "300".toList)⟩ =
          (1 * 10 ^ 300 : Nat) := Numeral.magnitude_eq rfl rfl
      rw [value, lt_sub_iff_add_lt]
      exact_mod_cast small
  · obtain ⟨v, location, values, present, resolved, params, bound⟩ :=
      decoded_by_kind_and_bound.2.2.2.2.2 .standard ⟨"span.code", "in", some (.list sampleScalars)⟩
        .isIn _ (by decide) (by decide) rfl
    cases present
    cases resolved
    exact ⟨_, values, rfl, params, bound⟩

/-- The numeral of `1.797693134862315700e308`, where the largest double is `1.7976931348623157081…`
times that power of ten. -/
def nearLargest : Numeral :=
  ⟨false, ['1'], "797693134862315700".toList, some (false, "308".toList)⟩

/-- The reader rounds the digits and the power of ten before it multiplies them, and their product
is too large although the number is not. -/
theorem refuses_below_largest :
    Json.Tree.read? "1.797693134862315700e308" = some (.numeral nearLargest) ∧
      (∀ w, ¬nearLargest.Writes w) ∧
      (∃ x : Float, x.isFinite = true ∧ nearLargest.magnitude < Decimal.size x) ∧
      decoder.read? "1.797693134862315700e308" = none ∧ ∀ v, ¬Spells (.numeral nearLargest) v := by
  refine ⟨rfl, ?_, ?_, by decide +kernel, fun v spelled => ?_⟩
  · rintro w ⟨-, exponent, -, -⟩
    cases exponent
  · have largest : Decimal.size (.ofBits 0x7FEFFFFFFFFFFFFF) =
        ((2 ^ 53 - 1 : Nat) : ℚ) * 2 ^ 971 := rfl
    have value : nearLargest.magnitude = (1797693134862315700 * 10 ^ 290 : Nat) :=
      Numeral.magnitude_eq rfl rfl
    have below : 1797693134862315700 * 10 ^ 290 < (2 ^ 53 - 1) * 2 ^ 971 := by decide +kernel
    refine ⟨.ofBits 0x7FEFFFFFFFFFFFFF, by decide +kernel, ?_⟩
    rw [largest, value]
    exact_mod_cast below
  · have refused : decoder 1 (.numeral nearLargest) = none := by decide +kernel
    rw [decoder_eq_some_iff.2 spelled] at refused
    cases refused

end FilterValue

end TraceQuery
