import TraceQuery.Proofs.Wire.Span
import TraceQuery.Proofs.Wire.Tag

/-!
The round trip of everything that is sent or received: what has been read of a text is read again,
as the same, of the text it is written as. The one thing that can stand in the way is depth, and
only where a text holds another one in place of a value: the value is as deep as the text inside
allows, counted from that text's own beginning, and is written out in full.
-/

set_option autoImplicit false
namespace TraceQuery

open Json (Decoder)
open Json.Decoder (Fields)

theorem Json.Decoder.Rereads.read?_render {α : Type} {d : Decoder α} {toJson : α → Json}
    {height : Nat} (h : d.Rereads toJson height) {text : String} {a : α}
    (read : d.read? text = some a) (doubles : ∀ x ∈ (toJson a).doubles, Decimal.ReadsBack x)
    (shallow : (toJson a).nesting ≤ nestingLimit) : d.read? (toJson a).render = some a := by
  obtain ⟨t, -, decoded⟩ := Option.bind_eq_some_iff.1 read
  rw [Decoder.read?, Json.read?_render, Option.bind_some]
  exact h.again ⟨_, t, decoded⟩ doubles shallow

/-- A text in which no object stands for another value is read as a value that is no deeper. -/
theorem Json.Decoder.Rereads.nesting_le {α : Type} {d : Decoder α} {toJson : α → Json}
    {height : Nat} (h : d.Rereads toJson height) (within : height ≤ nestingLimit) {text : String}
    {a : α} (read : d.read? text = some a)
    (literal : ∀ t, Tree.read? text = some t → t.isLiteral = true) :
    (toJson a).nesting ≤ nestingLimit := by
  obtain ⟨t, parsed, decoded⟩ := Option.bind_eq_some_iff.1 read
  exact (h.shallow (literal t parsed) decoded).trans (max_le (Nat.le_refl _) within)

inductive WireType
  | scalar
  | filterValue
  | searchFilter
  | timeframe
  | sortSpec
  | searchRequest
  | searchResponse
  | span
  | spanEvent
  | spanLink
  | tagInfo
  | tagValueInfo
  | tagValuesRequest
  | tagStatisticsRequest
  | tagStatisticsResponse
  deriving DecidableEq, Repr

namespace WireType

def Value : WireType → Type
  | .scalar => Scalar
  | .filterValue => FilterValue
  | .searchFilter => SearchFilter
  | .timeframe => Timeframe
  | .sortSpec => SortSpec
  | .searchRequest => SearchRequest
  | .searchResponse => SpanPage
  | .span => Span
  | .spanEvent => SpanEvent
  | .spanLink => SpanLink
  | .tagInfo => TagInfo
  | .tagValueInfo => TagValueInfo
  | .tagValuesRequest => TagValuesRequest
  | .tagStatisticsRequest => TagStatisticsRequest
  | .tagStatisticsResponse => TagStatistics

def decoder : (type : WireType) → Decoder type.Value
  | .scalar => Scalar.decoder
  | .filterValue => FilterValue.decoder
  | .searchFilter => SearchFilter.decoder
  | .timeframe => Timeframe.decoder
  | .sortSpec => SortSpec.decoder
  | .searchRequest => SearchRequest.decoder
  | .searchResponse => SpanPage.decoder
  | .span => Span.decoder
  | .spanEvent => SpanEvent.decoder
  | .spanLink => SpanLink.decoder
  | .tagInfo => TagInfo.decoder
  | .tagValueInfo => TagValueInfo.decoder
  | .tagValuesRequest => TagValuesRequest.decoder
  | .tagStatisticsRequest => TagStatisticsRequest.decoder
  | .tagStatisticsResponse => TagStatistics.decoder

def toJson : (type : WireType) → type.Value → Json
  | .scalar => Scalar.toJson
  | .filterValue => FilterValue.toJson
  | .searchFilter => SearchFilter.toJson
  | .timeframe => Timeframe.toJson
  | .sortSpec => SortSpec.toJson
  | .searchRequest => SearchRequest.toJson
  | .searchResponse => SpanPage.toJson
  | .span => Span.toJson
  | .spanEvent => SpanEvent.toJson
  | .spanLink => SpanLink.toJson
  | .tagInfo => TagInfo.toJson
  | .tagValueInfo => TagValueInfo.toJson
  | .tagValuesRequest => TagValuesRequest.toJson
  | .tagStatisticsRequest => TagStatisticsRequest.toJson
  | .tagStatisticsResponse => TagStatistics.toJson

theorem rereads (type : WireType) : type.decoder.Rereads type.toJson 6 := by
  cases type with
  | scalar => exact Scalar.rereads 6
  | filterValue => exact FilterValue.rereads.mono (by decide)
  | searchFilter => exact SearchFilter.rereads.mono (by decide)
  | timeframe => exact Timeframe.rereads.mono (by decide)
  | sortSpec => exact SortSpec.rereads.mono (by decide)
  | searchRequest => exact SearchRequest.rereads.mono (by decide)
  | searchResponse => exact SpanPage.rereads
  | span => exact Span.rereads.mono (by decide)
  | spanEvent => exact SpanEvent.rereads.mono (by decide)
  | spanLink => exact SpanLink.rereads.mono (by decide)
  | tagInfo => exact TagInfo.rereads.mono (by decide)
  | tagValueInfo => exact TagValueInfo.rereads.mono (by decide)
  | tagValuesRequest => exact TagValuesRequest.rereads.mono (by decide)
  | tagStatisticsRequest => exact TagStatisticsRequest.rereads.mono (by decide)
  | tagStatisticsResponse => exact TagStatistics.rereads.mono (by decide)

/--
A value that has been read of a text is read of the text it is written as, where its doubles read
back and the written text nests no more containers than may be nested. The latter holds of every
value whose text had no object that stands for another value.
-/
theorem read?_render_of_read? (type : WireType) (text : String) (v : type.Value)
    (read : type.decoder.read? text = some v)
    (doubles : ∀ x ∈ (type.toJson v).doubles, Decimal.ReadsBack x)
    (shallow : (type.toJson v).nesting ≤ Json.nestingLimit ∨
      ∀ t, Json.Tree.read? text = some t → t.isLiteral = true) :
    type.decoder.read? (type.toJson v).render = some v := by
  have shallow : (type.toJson v).nesting ≤ Json.nestingLimit :=
    shallow.elim id (type.rereads.nesting_le (by decide) read)
  exact type.rereads.read?_render read doubles shallow

def mixedFilter : SearchFilter :=
  ⟨"k", "in",
    some (.list [.bool true, .integer 7, .float 7, .text "7", .float 18446744073709551615])⟩

def mixedFilterText : String :=
  "\x7b\"value\": [true, 7, 7e0, \"7\", 18446744073709551616], " ++
    "\"key\": \"k\", \"operator\": \"in\"\x7d"

theorem read?_render_of_read?_mixed :
    searchFilter.decoder.read? mixedFilterText = some mixedFilter ∧
      (searchFilter.toJson mixedFilter).render =
        "\x7b\"key\":\"k\",\"operator\":\"in\"," ++
          "\"value\":[true,7,7.0,\"7\",1.8446744073709552e+19]\x7d" ∧
      searchFilter.decoder.read? (searchFilter.toJson mixedFilter).render = some mixedFilter := by
  have read : SearchFilter.decoder.read? mixedFilterText = some mixedFilter := by decide +kernel
  refine ⟨read, by decide +kernel, ?_⟩
  exact read?_render_of_read? .searchFilter mixedFilterText mixedFilter read (by decide +kernel)
    (.inl (by decide +kernel))

end WireType

/-! ## Where a value is deeper than its text -/

def Json.lists : Nat → Json
  | 0 => .null
  | n + 1 => .array [lists n]

theorem Json.nesting_lists (n : Nat) : (lists n).nesting = n := by
  induction n with
  | zero => rfl
  | succ n ih => simp [lists, nesting, itemsNesting, ih]

theorem Json.doubles_lists (n : Nat) : (lists n).doubles = [] := by
  induction n with
  | zero => rfl
  | succ n ih => simp [lists, doubles, itemsDoubles, ih]

theorem Json.isPlain_lists (n : Nat) : (lists n).IsPlain := by
  induction n with
  | zero => trivial
  | succ n ih => exact ⟨ih, trivial⟩

namespace SpanEvent

def deep (n : Nat) : SpanEvent :=
  ⟨0, "", [("a", .lists n)], 0⟩

def deepAttributes (n : Nat) : Json :=
  .object [("a", .object [(Json.embeddedKey, .string (Json.lists n).render)])]

/-- However deep the attribute, its text stands in an object, and only that counts. -/
theorem read?_deepAttributes {n : Nat} (shallow : n ≤ Json.nestingLimit) :
    decoder.read? (Json.object [("attributes", deepAttributes n)]).render = some (deep n) := by
  have attributes : Decoder.members 126 (deepAttributes n).toTree = some [("a", .lists n)] :=
    Json.members_embedding (Json.isPlain_lists n) (by rwa [Json.nesting_lists])
      (by simp [Json.doubles_lists]) "a" 124
  rw [Decoder.read?, Json.read?_render, Option.bind_some, Decoder.decode?, decoder,
    Decoder.record, Json.nestingLimit]
  simp [Json.toTree, Json.memberTrees, Fields.ofTree?, Fields.collect?, Fields.defaulted,
    lookup_cons_ite, attributes, deep]

end SpanEvent

/-- An event is read whose attribute nests 126 lists, which its text holds as a text; what is
written nests 128 containers, and is not read. -/
theorem WireType.deep_event_not_read_again :
    spanEvent.decoder.read? (Json.object [("attributes", SpanEvent.deepAttributes 126)]).render =
        some (SpanEvent.deep 126) ∧
      (spanEvent.toJson (SpanEvent.deep 126)).doubles = [] ∧
      spanEvent.decoder.read? (spanEvent.toJson (SpanEvent.deep 126)).render = none := by
  refine ⟨SpanEvent.read?_deepAttributes (by decide), by decide +kernel, ?_⟩
  rw [Decoder.read?, Json.read?_render, Option.bind_some]
  exact Option.isNone_iff_eq_none.1 (by decide +kernel)

end TraceQuery
