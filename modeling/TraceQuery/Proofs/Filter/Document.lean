import Mathlib.Data.List.Forall2
import TraceQuery.Filter.Document
import TraceQuery.Proofs.Text.Scalars
import TraceQuery.Proofs.Wire.Request

/-!
Documents of filters. A list of filters is read again from the text it is written as, unless that
has too many bytes or the list too many filters; and of any text the size is looked at first, then
the form, and the number of filters last.
-/

set_option autoImplicit false
namespace TraceQuery

open Json (Decoder)

/-! ## Filters, read where they are written -/

def Scalar.floats : Scalar → List Float
  | .float x => [x]
  | .bool _ | .integer _ | .text _ => []

def FilterValue.scalars : FilterValue → List Scalar
  | .list items => items
  | .scalar s => [s]

def SearchFilter.floats (f : SearchFilter) : List Float :=
  f.value.toList.flatMap fun v => v.scalars.flatMap Scalar.floats

theorem Scalar.isLossless_toJson {s : Scalar} (finite : ∀ x ∈ s.floats, x.isFinite = true)
    (reads : ∀ x ∈ s.floats, Decimal.ReadsBack x) : s.toJson.IsLossless := by
  cases s with
  | bool b => exact Json.isLossless_bool b
  | integer n => exact Json.isLossless_integer _
  | float x =>
    have written : toJson (.float x) = .number (.float x (finite x (by simp [floats]))) :=
      dif_pos _
    rw [written, Json.isLossless_float]
    exact reads x (by simp [floats])
  | text s => exact Json.isLossless_string s

theorem Scalar.nesting_toJson (s : Scalar) : s.toJson.nesting = 0 := by
  cases s with
  | float x => exact Decoder.nesting_ofFloat x
  | _ => rfl

theorem FilterValue.nesting_toJson_le (v : FilterValue) : v.toJson.nesting ≤ 1 := by
  cases v with
  | list items =>
    refine Nat.succ_le_succ (Json.itemsNesting_le_iff.2 fun item member => ?_)
    obtain ⟨s, -, rfl⟩ := List.mem_map.1 member
    exact s.nesting_toJson.le
  | scalar s => exact s.nesting_toJson.le.trans (Nat.zero_le 1)

theorem FilterValue.isLossless_toJson {v : FilterValue}
    (each : ∀ s ∈ v.scalars, s.toJson.IsLossless) : v.toJson.IsLossless := by
  cases v with
  | list items =>
    refine Json.isLossless_array.2 fun item member => ?_
    obtain ⟨s, among, rfl⟩ := List.mem_map.1 member
    exact each s among
  | scalar s => exact each s (by simp [scalars])

theorem FilterValue.decoder_toTree {v : FilterValue} (lossless : v.toJson.IsLossless) {depth : Nat}
    (shallow : v.toJson.nesting ≤ depth) : decoder depth v.toJson.toTree = some v := by
  cases v with
  | list items =>
    cases depth with
    | zero => cases shallow
    | succ depth =>
      have each : ∀ s ∈ items, s.toJson.IsLossless := fun s member =>
        Json.isLossless_array.1 lossless _ (List.mem_map_of_mem member)
      have read : Decoder.list Scalar.decoder (depth + 1) (toJson (.list items)).toTree =
          some items :=
        Decoder.list_toTree_iff.2 fun s member => Scalar.decoder_toTree_iff.2 (each s member)
      exact congrArg (Option.map FilterValue.list) read
  | scalar s =>
    have read : Scalar.decoder depth s.toJson.toTree = some s :=
      Scalar.decoder_toTree_iff.2 lossless
    rw [toJson, decoder_scalar (toTree_scalar_ne s), read, Option.map_some]

/-- A value is present where it is read, since null is none. -/
theorem FilterValue.option_toTree {v : FilterValue} (lossless : v.toJson.IsLossless) {depth : Nat}
    (shallow : v.toJson.nesting ≤ depth) :
    Decoder.option decoder depth v.toJson.toTree = some (some v) := by
  have read := decoder_toTree lossless shallow
  have present : v.toJson.toTree ≠ .null := by
    intro same
    rw [same] at read
    cases read
  rw [Decoder.option_of_ne_null present, read, Option.map_some]

namespace SearchFilter

theorem nesting_toJson_le (f : SearchFilter) : f.toJson.nesting ≤ 2 := by
  refine Nat.succ_le_succ (Json.membersNesting_le_iff.2 ?_)
  cases f.value with
  | none => simp [Json.nesting]
  | some v => simpa [Json.nesting] using v.nesting_toJson_le

theorem isLossless_value {f : SearchFilter} (finite : ∀ x ∈ f.floats, x.isFinite = true)
    (reads : ∀ x ∈ f.floats, Decimal.ReadsBack x) {v : FilterValue} (present : f.value = some v) :
    v.toJson.IsLossless := by
  refine FilterValue.isLossless_toJson fun s member => ?_
  have among : ∀ x ∈ s.floats, x ∈ f.floats := by
    intro x mem
    rw [floats, present]
    exact List.mem_flatMap.2 ⟨v, by simp, List.mem_flatMap.2 ⟨s, member, mem⟩⟩
  exact Scalar.isLossless_toJson (fun x mem => finite x (among x mem))
    fun x mem => reads x (among x mem)

theorem isLossless_toJson {f : SearchFilter} (value : ∀ v ∈ f.value, v.toJson.IsLossless) :
    f.toJson.IsLossless := by
  refine Json.isLossless_object.2 ?_
  cases present : f.value with
  | none => simp [Json.isLossless_string]
  | some v => simpa [Json.isLossless_string] using value v present

theorem decoder_toTree {f : SearchFilter} (lossless : ∀ v ∈ f.value, v.toJson.IsLossless)
    {depth : Nat} (room : 2 ≤ depth) : decoder depth f.toJson.toTree = some f := by
  have shallow := f.nesting_toJson_le.trans room
  refine Decoder.record_toTree ?_ (by decide) shallow (isLossless_toJson lossless).doubles
    fun g holds => ?_
  · cases f.value <;> simp
  have key : g.required "key" .string = some f.key := by
    rw [Decoder.Fields.required, holds.found (v := .string f.key) (by simp)]
    exact Decoder.string_toTree _ f.key
  have operator : g.required "operator" .string = some f.operator := by
    rw [Decoder.Fields.required, holds.found (v := .string f.operator) (by simp)]
    exact Decoder.string_toTree _ f.operator
  have value : g.defaulted "value" (.option FilterValue.decoder) none = some f.value := by
    cases present : f.value with
    | none => rw [Decoder.Fields.defaulted, holds.absent (by simp [present])]
    | some v =>
      have member : ("value", v.toJson) ∈ [("key", Json.string f.key),
          ("operator", Json.string f.operator)] ++
            (f.value.map fun v => ("value", v.toJson)).toList := by simp [present]
      rw [Decoder.Fields.defaulted, holds.found member]
      exact FilterValue.option_toTree (lossless v present) (holds.shallow _ member)
  -- Each field is found as it was written, the value also where it is left out.
  rw [key, operator, value]
  rfl

end SearchFilter

/-! ## Documents -/

namespace FilterDocument

def render (filters : List SearchFilter) : String :=
  (Json.array (filters.map SearchFilter.toJson)).render

def byteCount (text : String) : Nat :=
  (text.toList.map Char.utf8Size).sum

def Lists (text : String) (filters : List SearchFilter) : Prop :=
  ∃ items, Json.Tree.read? text = some (.array items) ∧
    List.Forall₂ (fun item f => SearchFilter.decoder (Json.nestingLimit - 1) item = some f)
      items filters

theorem utf8ByteSize_eq (text : String) : text.utf8ByteSize = byteCount text := by
  have counted (cs : List Char) : cs.utf8Encode.size = (cs.map Char.utf8Size).sum := by
    induction cs with
    | nil => rfl
    | cons c rest ih => rw [Utf8.size_utf8Encode_cons, ih, List.map_cons, List.sum_cons]
  rw [byteCount, ← counted, String.utf8Encode_toList]
  rfl

theorem read?_eq_some_iff {text : String} {filters : List SearchFilter} :
    (Decoder.list SearchFilter.decoder).read? text = some filters ↔ Lists text filters := by
  constructor
  · intro read
    obtain ⟨t, parsed, decoded⟩ := Option.bind_eq_some_iff.1 read
    obtain ⟨inner, items, room, rfl, each⟩ := Decoder.reads_of_list decoded
    cases room
    exact ⟨items, parsed, Decoder.mapM_eq_some_iff.1 each⟩
  · rintro ⟨items, parsed, each⟩
    exact Option.bind_eq_some_iff.2 ⟨_, parsed, Decoder.list_eq_some_iff.2 each⟩

theorem lists_render {filters : List SearchFilter}
    (lossless : ∀ f ∈ filters, ∀ v ∈ f.value, v.toJson.IsLossless) :
    Lists (render filters) filters := by
  rw [← read?_eq_some_iff, Decoder.read?, render, Json.read?_render, Option.bind_some]
  exact Decoder.list_toTree_iff.2 fun f member =>
    SearchFilter.decoder_toTree (lossless f member) (by decide)

/-! The size is looked at first, then the form, and the number of filters last. -/

theorem read_of_large {text : String} (large : maxBytes < byteCount text) :
    read text = .error .tooLarge := by
  rw [read, utf8ByteSize_eq, if_pos large]

theorem read_of_malformed {text : String} (small : byteCount text ≤ maxBytes)
    (malformed : ∀ filters, ¬Lists text filters) : read text = .error .invalidJson := by
  have unread : (Decoder.list SearchFilter.decoder).read? text = none :=
    Option.eq_none_iff_forall_ne_some.2 fun filters decoded =>
      malformed filters (read?_eq_some_iff.1 decoded)
  rw [read, utf8ByteSize_eq, if_neg (Nat.not_lt.2 small), unread]

theorem read_of_lists {text : String} (small : byteCount text ≤ maxBytes)
    {filters : List SearchFilter} (listed : Lists text filters) :
    read text = if maxFilters < filters.length then .error (.tooMany filters.length)
      else .ok filters := by
  rw [read, utf8ByteSize_eq, if_neg (Nat.not_lt.2 small), read?_eq_some_iff.2 listed]

/-- A text that is not too large lists some filters, or is malformed. -/
theorem read_cases (text : String) :
    (maxBytes < byteCount text ∧ read text = .error .tooLarge) ∨
    (byteCount text ≤ maxBytes ∧ (∀ filters, ¬Lists text filters) ∧
      read text = .error .invalidJson) ∨
    (byteCount text ≤ maxBytes ∧ ∃ filters, (∀ others, Lists text others ↔ others = filters) ∧
      ((maxFilters < filters.length ∧ read text = .error (.tooMany filters.length)) ∨
        filters.length ≤ maxFilters ∧ read text = .ok filters)) := by
  rcases Nat.lt_or_ge maxBytes (byteCount text) with large | small
  · exact .inl ⟨large, read_of_large large⟩
  refine .inr ?_
  by_cases malformed : ∀ filters, ¬Lists text filters
  · exact .inl ⟨small, malformed, read_of_malformed small malformed⟩
  obtain ⟨filters, listed⟩ := not_forall_not.1 malformed
  have only (others : List SearchFilter) : Lists text others ↔ others = filters := by
    rw [← read?_eq_some_iff, read?_eq_some_iff.2 listed, Option.some_inj, eq_comm]
  refine .inr ⟨small, filters, only, ?_⟩
  have result := read_of_lists small listed
  split at result
  · next many => exact .inl ⟨many, result⟩
  · next few => exact .inr ⟨Nat.not_lt.1 few, result⟩

/--
The filters of a text are read by three rules, in this order: a text of more than 65536 bytes is
too large, one that does not list filters is invalid, and one that lists more than 50 has too
many. So a list of filters is read again, in its order, from the text it is written as, unless
that is too large or the list too long.
-/
theorem read_render_and_limits :
    (∀ filters : List SearchFilter, (∀ f ∈ filters, ∀ x ∈ f.floats, x.isFinite = true) →
      (∀ f ∈ filters, ∀ x ∈ f.floats, Decimal.ReadsBack x) →
      read (render filters) =
        if 65536 < byteCount (render filters) then .error .tooLarge
        else if 50 < filters.length then .error (.tooMany filters.length)
        else .ok filters) ∧
    ∀ text : String,
      (read text = .error .tooLarge ↔ 65536 < byteCount text) ∧
      (read text = .error .invalidJson ↔
        byteCount text ≤ 65536 ∧ ∀ filters, ¬Lists text filters) ∧
      (∀ n, read text = .error (.tooMany n) ↔
        byteCount text ≤ 65536 ∧ ∃ filters, Lists text filters ∧ filters.length = n ∧ 50 < n) ∧
      ∀ filters, read text = .ok filters ↔
        byteCount text ≤ 65536 ∧ Lists text filters ∧ filters.length ≤ 50 := by
  refine ⟨fun filters finite reads => ?_, fun text => ?_⟩
  · have listed : Lists (render filters) filters := lists_render fun f member v present =>
      SearchFilter.isLossless_value (finite f member) (reads f member) present
    split
    · next large => exact read_of_large large
    · next small => exact read_of_lists (Nat.not_lt.1 small) listed
  · obtain ⟨large, result⟩ | ⟨small, malformed, result⟩ |
      ⟨small, filters, only, ⟨many, result⟩ | ⟨few, result⟩⟩ := read_cases text
    all_goals simp only [maxBytes, maxFilters] at *
    · simp [result, large]
    · simp [result, small, malformed]
    · simp [result, small, only, many]
    · have same (others : List SearchFilter) :
          filters = others ↔ others = filters ∧ others.length ≤ 50 :=
        ⟨fun equal => ⟨equal.symm, equal ▸ few⟩, fun equal => equal.1.symm⟩
      simp [result, small, only, few, same]

/-- Filters on a key with characters of two bytes: one with values of every kind, one with none. -/
def sampleFilters : List SearchFilter :=
  [⟨"größe", "in", some (.list [.bool true, .integer (-7), .float 7, .text "7"])⟩,
    ⟨"größe", "exists", none⟩]

theorem read_render_and_limits_sample :
    (∀ f ∈ sampleFilters, ∀ x ∈ f.floats, x.isFinite = true ∧ Decimal.ReadsBack x) ∧
      render sampleFilters = "[\x7b\"key\":\"größe\",\"operator\":\"in\"," ++
        "\"value\":[true,-7,7.0,\"7\"]\x7d,\x7b\"key\":\"größe\",\"operator\":\"exists\"\x7d]" ∧
      byteCount (render sampleFilters) = (render sampleFilters).length + 4 ∧
      read (render sampleFilters) = .ok sampleFilters ∧
      Lists (render sampleFilters) sampleFilters := by
  have doubles : ∀ f ∈ sampleFilters, ∀ x ∈ f.floats,
      x.isFinite = true ∧ Decimal.ReadsBack x := by decide +kernel
  have small : ¬65536 < byteCount (render sampleFilters) := by decide +kernel
  have few : ¬50 < sampleFilters.length := by decide
  have result : read (render sampleFilters) = .ok sampleFilters := by
    rw [read_render_and_limits.1 sampleFilters
      (fun f member x among => (doubles f member x among).1)
      (fun f member x among => (doubles f member x among).2), if_neg small, if_neg few]
  refine ⟨doubles, by decide +kernel, by decide +kernel, result, ?_⟩
  exact (((read_render_and_limits.2 _).2.2.2 _).1 result).2.1

end FilterDocument

end TraceQuery
