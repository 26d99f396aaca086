import TraceQuery.Proofs.Json.Reread

/-!
Filters and requests are read again from where they are written.
-/

set_option autoImplicit false
namespace TraceQuery

open Json (Decoder)
open Json.Decoder (Fields rereads_string rereads_uint32 rereads_uint64 rereads_oneOf record_null)

namespace Scalar

theorem isNullFree_toJson (s : Scalar) :
    s.toJson.isNullFree = true ↔ ∀ x, s = .float x → x.isFinite = true := by
  cases s with
  | float x =>
    by_cases finite : x.isFinite = true <;>
      simp [toJson, Json.ofFloat, Json.isNullFree, finite]
  | _ => simp [toJson, Json.ofInt64, Json.isNullFree]

theorem ofNumber_cases (value : Json.Number) :
    (∃ w inRange, value = .integer (Int64.toInt w) inRange ∧ ofNumber value = .integer w) ∨
      (∀ w inRange, value ≠ .integer (Int64.toInt w) inRange) ∧
        ofNumber value = .float value.toFloat := by
  cases value with
  | float x finite => exact .inr ⟨nofun, rfl⟩
  | integer m inRange =>
    cases word : Word.int64? m with
    | some w =>
      obtain rfl := Word.int64?_eq_some_iff.1 word
      exact .inl ⟨w, inRange, rfl, by rw [ofNumber, word]⟩
    | none =>
      refine .inr ⟨?_, ?_⟩
      · intro w _ same
        injection same with same
        rw [Word.int64?_eq_some_iff.2 same.symm] at word
        cases word
      -- What is too large for 64 signed bits is not negative.
      · have large : ¬m < 0 := by
          intro negative
          rw [Word.int64?, if_pos ⟨inRange.1, negative.le.trans (by decide)⟩] at word
          cases word
        have same : m.toNat = m.natAbs := by omega
        rw [ofNumber, word, Json.Number.toFloat, if_neg large, same]

theorem isNullFree_of_reads {s : Scalar} (reads : decoder.Reads s) :
    s.toJson.isNullFree = true := by
  rw [isNullFree_toJson]
  rintro x rfl
  obtain ⟨depth, t, read⟩ := reads
  cases t with
  | numeral n =>
    obtain ⟨value, -, same⟩ := Option.map_eq_some_iff.1 read
    obtain ⟨w, inRange, -, result⟩ | ⟨-, result⟩ := ofNumber_cases value <;> rw [result] at same
    · cases same
    · cases same
      exact value.isFinite_toFloat
  | text pieces =>
    obtain ⟨s, -, same⟩ := Option.map_eq_some_iff.1 read
    cases same
  | _ => cases read

/-- A number beyond 64 signed bits is a double, and stays one where it is written. -/
theorem decoder_toTree_iff {s : Scalar} {depth : Nat} :
    decoder depth s.toJson.toTree = some s ↔ s.toJson.IsLossless := by
  cases s with
  | bool b => exact iff_of_true rfl (Json.isLossless_bool b)
  | integer n =>
    have read := Json.Number.readsBack_integer ⟨n.le_toInt, Int.lt_trans n.toInt_lt (by decide)⟩
    rw [Json.Number.ReadsBack] at read
    refine iff_of_true ?_ (Json.isLossless_integer _)
    rw [toJson, Json.ofInt64, Json.toTree, decoder, read, Option.map_some, ofNumber,
      Word.int64?_eq_some_iff.2 rfl]
  | float x =>
    rw [toJson, Json.ofFloat]
    split
    · next finite =>
      rw [Json.toTree, decoder, Json.isLossless_float, ← Json.Number.readsBack_float_iff finite,
        Json.Number.ReadsBack]
      constructor
      · intro read
        obtain ⟨n, value, same⟩ := Option.map_eq_some_iff.1 read
        obtain ⟨y, isFinite, rfl⟩ := Decimal.value?_numeral value
        cases same
        exact value
      · intro value
        rw [value]
        rfl
    · exact iff_of_false (by simp [Json.toTree, decoder]) Json.not_isLossless_null
  | text s =>
    refine iff_of_true ?_ (Json.isLossless_string s)
    rw [toJson, Json.toTree, decoder, Json.Piece.text?_ofString, Option.map_some]

theorem rereads (height : Nat) : decoder.Rereads toJson height := by
  refine .of_scalar (fun s _ => ?_) fun {s} reads doubles depth => ?_
  · cases s with
    | float x => exact Json.Decoder.nesting_ofFloat x
    | _ => rfl
  · exact decoder_toTree_iff.2 ⟨isNullFree_of_reads reads, doubles⟩

end Scalar

namespace FilterValue

theorem decoder_scalar {t : Json.Tree} (single : ∀ items, t ≠ .array items) (depth : Nat) :
    decoder depth t = (Scalar.decoder depth t).map .scalar := by
  cases t with
  | array items => exact absurd rfl (single items)
  | _ => rfl

theorem toTree_scalar_ne (s : Scalar) (items : List Json.Tree) :
    s.toJson.toTree ≠ .array items := by
  cases s with
  | float x =>
    rw [Scalar.toJson, Json.ofFloat]
    split <;> simp [Json.toTree]
  | _ => simp [Scalar.toJson, Json.ofInt64, Json.toTree]

theorem reads_list {depth : Nat} {t : Json.Tree} {values : List Scalar}
    (read : decoder depth t = some (.list values)) :
    Decoder.list Scalar.decoder depth t = some values := by
  cases t with
  | array items =>
    obtain ⟨others, readItems, same⟩ := Option.map_eq_some_iff.1 read
    cases same
    exact readItems
  | _ =>
    rw [decoder_scalar (by simp)] at read
    obtain ⟨s, -, same⟩ := Option.map_eq_some_iff.1 read
    cases same

theorem reads_scalar {depth : Nat} {t : Json.Tree} {s : Scalar}
    (read : decoder depth t = some (.scalar s)) : Scalar.decoder depth t = some s := by
  cases t with
  | array items =>
    obtain ⟨values, -, same⟩ := Option.map_eq_some_iff.1 read
    cases same
  | _ =>
    rw [decoder_scalar (by simp)] at read
    obtain ⟨other, readScalar, same⟩ := Option.map_eq_some_iff.1 read
    cases same
    exact readScalar

/-- A list of one value stays a list, and a value alone stays alone. -/
theorem rereads : decoder.Rereads toJson 1 where
  again {v} reads doubles depth shallow := by
    obtain ⟨inner, t, read⟩ := reads
    cases v with
    | list values =>
      have again : Decoder.list Scalar.decoder depth _ = some values :=
        (Scalar.rereads 0).list.again ⟨inner, t, reads_list read⟩ doubles shallow
      exact congrArg (Option.map FilterValue.list) again
    | scalar s =>
      have again : Scalar.decoder depth s.toJson.toTree = some s :=
        (Scalar.rereads 0).again ⟨inner, t, reads_scalar read⟩ doubles shallow
      rw [toJson, decoder_scalar (toTree_scalar_ne s), again, Option.map_some]
  shallow {depth t v} literal read := by
    cases v with
    | list values => exact (Scalar.rereads 0).list.shallow literal (reads_list read)
    | scalar s => exact (Scalar.rereads 1).shallow literal (reads_scalar read)

end FilterValue

namespace SearchFilter

theorem rereads : decoder.Rereads toJson 2 := by
  refine .record (fun _ => rfl) (by decide) (fun f => ?_) fun f a read => ?_
  · cases f.value <;> simp
  obtain ⟨key, keyFound, read⟩ := Fields.step_required (rereads_string 1) read
  obtain ⟨operator, operatorFound, read⟩ := Fields.step_required (rereads_string 1) read
  obtain ⟨value, valueFound, read⟩ :=
    Fields.step_optional FilterValue.rereads (fun _ => rfl) read
  cases read
  refine ⟨fun g holds => ?_, fun literal => ?_⟩
  · have valueAgain := valueFound.optional holds (fun v same => by simp [same])
      fun same => by simp [same]
    rw [keyFound.required holds (by simp), operatorFound.required holds (by simp), valueAgain]
    rfl
  · cases value with
    | none =>
      simp only [Option.map_none, Option.toList_none, List.append_nil, List.forall_mem_cons]
      exact ⟨keyFound.shallow literal, operatorFound.shallow literal, nofun⟩
    | some v =>
      simp only [Option.map_some, Option.toList_some, List.cons_append, List.nil_append,
        List.forall_mem_cons]
      exact ⟨keyFound.shallow literal, operatorFound.shallow literal, valueFound.shallow literal,
        nofun⟩

end SearchFilter

namespace Timeframe

theorem rereads : decoder.Rereads toJson 1 := by
  refine .record (fun _ => rfl) (by decide) (fun _ => .refl _) fun f a read => ?_
  obtain ⟨start, startFound, read⟩ := Fields.step_optional (rereads_uint64 0) (fun _ => rfl) read
  obtain ⟨stop, stopFound, read⟩ := Fields.step_optional (rereads_uint64 0) (fun _ => rfl) read
  cases read
  refine ⟨fun g holds => ?_, fun literal => ?_⟩
  · rw [startFound.defaulted holds (by simp), stopFound.defaulted holds (by simp)]
    rfl
  · simp only [List.forall_mem_cons]
    exact ⟨startFound.shallow literal, stopFound.shallow literal, nofun⟩

end Timeframe

theorem SortDirection.ofName?_name (direction : SortDirection) :
    SortDirection.ofName? direction.name = some direction := by
  cases direction <;> rfl

theorem SortDirection.rereads (height : Nat) :
    decoder.Rereads (fun direction => .string direction.name) height :=
  rereads_oneOf height ofName?_name

theorem SortDirection.readsWithin_standard (height : Nat) : decoder.ReadsWithin height standard :=
  ⟨0, .text (Json.Piece.ofString standard.name), Nat.zero_le _, rfl, rfl⟩

namespace SortSpec

theorem rereads : decoder.Rereads toJson 1 := by
  refine .record (fun _ => rfl) (by decide) (fun _ => .refl _) fun f a read => ?_
  obtain ⟨field, fieldFound, read⟩ := Fields.step_required (rereads_string 0) read
  obtain ⟨direction, directionFound, read⟩ :=
    Fields.step_defaulted (SortDirection.rereads 0) (SortDirection.readsWithin_standard 0) read
  cases read
  refine ⟨fun g holds => ?_, fun literal => ?_⟩
  · rw [fieldFound.required holds (by simp), directionFound.defaulted holds (by simp)]
    rfl
  · simp only [List.forall_mem_cons]
    exact ⟨fieldFound.shallow literal, directionFound.shallow literal, nofun⟩

end SortSpec

theorem PageToken.rereads (height : Nat) : decoder.Rereads toJson height :=
  .of_scalar (fun _ _ => rfl) fun {t} _ _ _ =>
    congrArg (Option.map PageToken.mk) (Json.Piece.text?_ofString t.text)

theorem readsWithin_nil {α : Type} (d : Decoder α) (height : Nat) :
    (Decoder.list d).ReadsWithin (height + 1) [] :=
  ⟨1, .array [], by omega, rfl, rfl⟩

namespace SearchRequest

theorem rereads : decoder.Rereads toJson 4 := by
  refine .record (fun _ => rfl) (by decide) (fun _ => .refl _) fun f a read => ?_
  obtain ⟨filters, filtersFound, read⟩ :=
    Fields.step_defaulted SearchFilter.rereads.list (readsWithin_nil _ 2) read
  obtain ⟨timeframe, timeframeFound, read⟩ :=
    Fields.step_optional (Timeframe.rereads.mono (by decide : 1 ≤ 3)) (record_null _ _) read
  obtain ⟨sort, sortFound, read⟩ :=
    Fields.step_optional (SortSpec.rereads.mono (by decide : 1 ≤ 3)) (record_null _ _) read
  obtain ⟨token, tokenFound, read⟩ :=
    Fields.step_optional (PageToken.rereads 3) (fun _ => rfl) read
  obtain ⟨limit, limitFound, read⟩ := Fields.step_optional (rereads_uint32 3) (fun _ => rfl) read
  cases read
  refine ⟨fun g holds => ?_, fun literal => ?_⟩
  · rw [filtersFound.defaulted holds (by simp), timeframeFound.defaulted holds (by simp),
      sortFound.defaulted holds (by simp), tokenFound.defaulted holds (by simp),
      limitFound.defaulted holds (by simp)]
    rfl
  · simp only [List.forall_mem_cons]
    exact ⟨filtersFound.shallow literal, timeframeFound.shallow literal,
      sortFound.shallow literal, tokenFound.shallow literal, limitFound.shallow literal, nofun⟩

end SearchRequest

namespace TagValuesRequest

theorem rereads : decoder.Rereads toJson 4 := by
  refine .record (fun _ => rfl) (by decide) (fun _ => .refl _) fun f a read => ?_
  obtain ⟨filters, filtersFound, read⟩ :=
    Fields.step_defaulted SearchFilter.rereads.list (readsWithin_nil _ 2) read
  obtain ⟨timeframe, timeframeFound, read⟩ :=
    Fields.step_optional (Timeframe.rereads.mono (by decide : 1 ≤ 3)) (record_null _ _) read
  cases read
  refine ⟨fun g holds => ?_, fun literal => ?_⟩
  · rw [filtersFound.defaulted holds (by simp), timeframeFound.defaulted holds (by simp)]
    rfl
  · simp only [List.forall_mem_cons]
    exact ⟨filtersFound.shallow literal, timeframeFound.shallow literal, nofun⟩

end TagValuesRequest

namespace TagStatisticsRequest

theorem rereads : decoder.Rereads toJson 4 := by
  refine .record (fun _ => rfl) (by decide) (fun _ => .refl _) fun f a read => ?_
  obtain ⟨filters, filtersFound, read⟩ :=
    Fields.step_defaulted SearchFilter.rereads.list (readsWithin_nil _ 2) read
  obtain ⟨timeframe, timeframeFound, read⟩ :=
    Fields.step_optional (Timeframe.rereads.mono (by decide : 1 ≤ 3)) (record_null _ _) read
  obtain ⟨desired, desiredFound, read⟩ :=
    Fields.step_defaulted (rereads_string 2).list (readsWithin_nil _ 2) read
  cases read
  refine ⟨fun g holds => ?_, fun literal => ?_⟩
  · rw [filtersFound.defaulted holds (by simp), timeframeFound.defaulted holds (by simp),
      desiredFound.defaulted holds (by simp)]
    rfl
  · simp only [List.forall_mem_cons]
    exact ⟨filtersFound.shallow literal, timeframeFound.shallow literal,
      desiredFound.shallow literal, nofun⟩

end TagStatisticsRequest

end TraceQuery
