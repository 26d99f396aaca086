import TraceQuery.Proofs.Span.Validity
import TraceQuery.Proofs.Text.Scalars
import TraceQuery.Proofs.Wire.Span

/-!
A row that stores a span is read as the span again. Each field stands in the column that is named
for it, wherever the column is listed, and a JSON column may hold its text or the text's bytes. Only
an object that stands for another value is not read as it was written.
-/

set_option autoImplicit false
namespace TraceQuery

open Json (Decoder Tree nestingLimit)
open Json.Decoder (Fields)

/-! ## What is stored -/

inductive JsonForm
  | text
  | bytes
  deriving DecidableEq, Repr

namespace ColumnValue

def ofUInt64 (w : UInt64) : ColumnValue := .integer (Int64.ofInt w.toNat)

def ofUInt32 (w : UInt32) : ColumnValue := .integer (Int64.ofInt w.toNat)

def ofInt32 (w : Int32) : ColumnValue := .integer (Int64.ofInt w.toInt)

def ofText? : Option String → ColumnValue
  | none => .null
  | some s => .text s

def ofJson (v : Json) : JsonForm → ColumnValue
  | .text => .text v.render
  | .bytes => .blob v.render.toUTF8

end ColumnValue

namespace Span

def eventsJson (s : Span) : Json := .array (s.events.map SpanEvent.toJson)

def linksJson (s : Span) : Json := .array (s.links.map SpanLink.toJson)

/-- What a column of the span table holds of a span, with a form for each JSON column. -/
def stored (s : Span) (form : String → JsonForm) (column : String) : ColumnValue :=
  match column with
  | "spans.trace_id" => .text s.traceId
  | "spans.span_id" => .text s.spanId
  | "spans.trace_state" => .ofText? s.traceState
  | "spans.parent_span_id" => .ofText? s.parentSpanId
  | "spans.name" => .text s.name
  | "spans.kind" => .ofInt32 s.kind
  | "spans.status_code" => .ofInt32 s.status.code
  | "spans.status_message" => .ofText? s.status.message
  | "spans.start_time_unix_nano" => .ofUInt64 s.startTimeUnixNano
  | "spans.end_time_unix_nano" => .ofUInt64 s.endTimeUnixNano
  | "spans.duration_nano" => .ofUInt64 s.durationNano
  | "spans.ingestion_time_unix_nano" => .ofUInt64 s.ingestionTimeUnixNano
  | "spans.span_attributes" => .ofJson s.attributes.toJson (form column)
  | "spans.dropped_attributes_count" => .ofUInt32 s.droppedAttributesCount
  | "spans.events" => .ofJson s.eventsJson (form column)
  | "spans.dropped_events_count" => .ofUInt32 s.droppedEventsCount
  | "spans.links" => .ofJson s.linksJson (form column)
  | "spans.dropped_links_count" => .ofUInt32 s.droppedLinksCount
  | "spans.scope_name" => .ofText? s.scope.name
  | "spans.scope_version" => .ofText? s.scope.version
  | "spans.scope_attributes" => .ofJson s.scope.attributes.toJson (form column)
  | "spans.scope_dropped_attributes_count" => .ofUInt32 s.scope.droppedAttributesCount
  | "spans.resource_attributes" => .ofJson s.resource.attributes.toJson (form column)
  | "spans.resource_dropped_attributes_count" => .ofUInt32 s.resource.droppedAttributesCount
  | _ => .null

def toRow (s : Span) (form : String → JsonForm) : Row :=
  ⟨spanColumns.map (s.stored form)⟩

def documents (s : Span) : List Json :=
  [s.attributes.toJson, s.eventsJson, s.linksJson, s.scope.attributes.toJson,
    s.resource.attributes.toJson]

def attributeMaps (s : Span) : List Attributes :=
  [s.attributes, s.scope.attributes, s.resource.attributes] ++
    s.events.map SpanEvent.attributes ++ s.links.map SpanLink.attributes

def times (s : Span) : List UInt64 :=
  [s.startTimeUnixNano, s.endTimeUnixNano, s.durationNano, s.ingestionTimeUnixNano]

/-- The times fit the integers that are stored, and no JSON text nests deeper than is read. -/
structure Fits (s : Span) : Prop where
  times : ∀ t ∈ s.times, t.toNat < 2 ^ 63
  shallow : ∀ v ∈ s.documents, v.nesting ≤ nestingLimit

def ReadsBack (s : Span) : Prop :=
  ∀ v ∈ s.documents, ∀ x ∈ v.doubles, Decimal.ReadsBack x

/-- No key of a map comes twice, and no object in a map stands for another value. -/
def IsLiteral (s : Span) : Prop :=
  ∀ a ∈ s.attributeMaps, Json.MembersPlain a

end Span

/-! ## Values that are read again -/

namespace ColumnValue

theorem isTime_ofUInt64 {w : UInt64} (fits : w.toNat < 2 ^ 63) : (ofUInt64 w).IsTime w :=
  (Int64.toInt_ofInt_of_le (by omega) (by omega)).symm

theorem isDuration_ofUInt64 {w : UInt64} (fits : w.toNat < 2 ^ 63) (start stop : UInt64) :
    (ofUInt64 w).IsDuration start stop w :=
  isTime_ofUInt64 fits

theorem isCounter_ofUInt32 (w : UInt32) : (ofUInt32 w).IsCounter w := by
  have bound := w.toNat_lt
  exact (Int64.toInt_ofInt_of_le (by omega) (by omega)).symm

theorem isInt32_ofInt32 (w : Int32) : (ofInt32 w).IsInt32 w := by
  have least := w.le_toInt
  have greatest := w.toInt_lt
  exact (Int64.toInt_ofInt_of_le (by omega) (by omega)).symm

theorem isOptionalText_ofText? (t : Option String) : (ofText? t).IsOptionalText t := by
  cases t <;> rfl

end ColumnValue

/-! ## Documents that are read again -/

theorem Json.isPlain_ofFloat (x : Float) : (ofFloat x).IsPlain := by
  unfold ofFloat
  split <;> trivial

theorem Json.render_ne_empty (v : Json) : v.render ≠ "" := by
  intro empty
  have parsed := Json.read?_render v
  rw [empty] at parsed
  cases parsed

theorem ColumnValue.isJson_ofJson {α : Type} {d : Decoder α} {v : Json} {a : α}
    (read : d nestingLimit v.toTree = some a) (empty : α) (form : JsonForm) :
    (ofJson v form).IsJson d empty a := by
  have parsed : (Tree.read? v.render).bind d.decode? = some a := by
    rw [Json.read?_render]
    exact read
  cases form with
  | text =>
    -- An empty text is read as the default, but no value is written as one.
    rw [ofJson, IsJson, if_neg v.render_ne_empty]
    exact parsed
  | bytes =>
    rw [ofJson, IsJson, Utf8.scalars_toUTF8]
    exact parsed

theorem Attributes.members_toTree {a : Attributes} (plain : Json.MembersPlain a) {depth : Nat}
    (shallow : a.toJson.nesting ≤ depth) (doubles : ∀ x ∈ a.toJson.doubles, Decimal.ReadsBack x) :
    Decoder.members depth a.toJson.toTree = some a := by
  cases depth with
  | zero => cases shallow
  | succ depth => exact Json.members?_memberTrees plain (Nat.le_of_succ_le_succ shallow) doubles

theorem Json.Decoder.Fields.Holds.defaulted {α : Type} {d : Decoder α} {f : Fields}
    {members : List (String × Json)} (holds : f.Holds members) {name : String} {v : Json}
    (member : (name, v) ∈ members) {absent a : α} (read : d f.depth v.toTree = some a) :
    f.defaulted name d absent = some a := by
  rw [Fields.defaulted, holds.found member]
  exact read

theorem SpanEvent.decoder_toTree {e : SpanEvent} (plain : Json.MembersPlain e.attributes)
    {depth : Nat} (shallow : e.toJson.nesting ≤ depth)
    (doubles : ∀ x ∈ e.toJson.doubles, Decimal.ReadsBack x) :
    decoder depth e.toJson.toTree = some e := by
  refine Decoder.record_toTree (by exact .refl _) (by decide) shallow doubles fun f holds => ?_
  have attributes := Attributes.members_toTree plain
    (holds.shallow ("attributes", e.attributes.toJson) (by simp))
    (holds.doubles ("attributes", e.attributes.toJson) (by simp))
  rw [holds.defaulted (by simp) (Decoder.uint64_toTree _ e.timeUnixNano),
    holds.defaulted (by simp) (Decoder.string_toTree _ e.name),
    holds.defaulted (by simp) attributes,
    holds.defaulted (by simp) (Decoder.uint32_toTree _ e.droppedAttributesCount)]
  rfl

theorem SpanLink.decoder_toTree {l : SpanLink} (plain : Json.MembersPlain l.attributes)
    {depth : Nat} (shallow : l.toJson.nesting ≤ depth)
    (doubles : ∀ x ∈ l.toJson.doubles, Decimal.ReadsBack x) :
    decoder depth l.toJson.toTree = some l := by
  refine Decoder.record_toTree (by exact .refl _) (by decide) shallow doubles fun f holds => ?_
  have attributes := Attributes.members_toTree plain
    (holds.shallow ("attributes", l.attributes.toJson) (by simp))
    (holds.doubles ("attributes", l.attributes.toJson) (by simp))
  have traceState : Decoder.option .string f.depth (Json.ofOption .string l.traceState).toTree =
      some l.traceState := by
    cases l.traceState with
    | none => rfl
    | some t => exact congrArg (Option.map some) (Decoder.string_toTree f.depth t)
  rw [holds.defaulted (by simp) (Decoder.string_toTree _ l.traceId),
    holds.defaulted (by simp) (Decoder.string_toTree _ l.spanId),
    holds.defaulted (by simp) traceState,
    holds.defaulted (by simp) attributes,
    holds.defaulted (by simp) (Decoder.uint32_toTree _ l.droppedAttributesCount)]
  rfl

theorem Json.Decoder.list_toTree {α : Type} {d : Decoder α} {toJson : α → Json} {items : List α}
    {depth : Nat} (shallow : (Json.array (items.map toJson)).nesting ≤ depth)
    (doubles : ∀ x ∈ (Json.array (items.map toJson)).doubles, Decimal.ReadsBack x)
    (each : ∀ a ∈ items, ∀ {depth : Nat}, (toJson a).nesting ≤ depth →
      (∀ x ∈ (toJson a).doubles, Decimal.ReadsBack x) → d depth (toJson a).toTree = some a) :
    Decoder.list d depth (Json.array (items.map toJson)).toTree = some items := by
  cases depth with
  | zero => simp [nesting] at shallow
  | succ depth =>
    have shallow := itemsNesting_le_iff.1 (Nat.le_of_succ_le_succ shallow)
    rw [Json.doubles, itemsDoubles_eq] at doubles
    refine list_toTree_iff.2 fun a member => ?_
    refine each a member (shallow _ (List.mem_map_of_mem member)) fun x among => ?_
    exact doubles x (List.mem_flatMap.2 ⟨_, List.mem_map_of_mem member, among⟩)

/-! ## Rows that store spans -/

namespace Span

variable {s : Span} {form : String → JsonForm}

theorem value_toRow (s : Span) (form : String → JsonForm) {column : String}
    (listed : column ∈ spanColumns) : (s.toRow form).value column = s.stored form column := by
  rw [Row.value, toRow, List.getElem?_map, List.getElem?_idxOf listed]
  rfl

theorem decoder_eventsJson (fits : s.Fits) (reads : s.ReadsBack) (literal : s.IsLiteral) :
    Decoder.list SpanEvent.decoder nestingLimit s.eventsJson.toTree = some s.events := by
  have listed : s.eventsJson ∈ s.documents := by simp [documents]
  refine Decoder.list_toTree (fits.shallow _ listed) (reads _ listed) fun e member {_} => ?_
  refine SpanEvent.decoder_toTree (literal e.attributes ?_)
  simp only [attributeMaps, List.mem_append]
  exact .inl (.inr (List.mem_map_of_mem member))

theorem decoder_linksJson (fits : s.Fits) (reads : s.ReadsBack) (literal : s.IsLiteral) :
    Decoder.list SpanLink.decoder nestingLimit s.linksJson.toTree = some s.links := by
  have listed : s.linksJson ∈ s.documents := by simp [documents]
  refine Decoder.list_toTree (fits.shallow _ listed) (reads _ listed) fun l member {_} => ?_
  refine SpanLink.decoder_toTree (literal l.attributes ?_)
  simp only [attributeMaps, List.mem_append]
  exact .inr (List.mem_map_of_mem member)

/-- What is read of a row that stores a span is what is read of its JSON texts. -/
theorem ofRow_toRow_of_decoded {a : Attributes}
    (times : ∀ t ∈ s.times, t.toNat < 2 ^ 63)
    (attributes : Decoder.members nestingLimit s.attributes.toJson.toTree = some a)
    (scope : Decoder.members nestingLimit s.scope.attributes.toJson.toTree =
      some s.scope.attributes)
    (resource : Decoder.members nestingLimit s.resource.attributes.toJson.toTree =
      some s.resource.attributes)
    (events : Decoder.list SpanEvent.decoder nestingLimit s.eventsJson.toTree = some s.events)
    (links : Decoder.list SpanLink.decoder nestingLimit s.linksJson.toTree = some s.links) :
    Span.ofRow (s.toRow form) = .ok { s with attributes := a } := by
  -- One fact for each kind of column, that the columns of this kind share.
  have text {column t : String} (listed : column ∈ spanColumns)
      (stores : s.stored form column = .text t) : ((s.toRow form).value column).IsText t := by
    rw [value_toRow s form listed, stores]
    rfl
  have optionalText {column : String} {t : Option String} (listed : column ∈ spanColumns)
      (stores : s.stored form column = .ofText? t) :
      ((s.toRow form).value column).IsOptionalText t := by
    rw [value_toRow s form listed, stores]
    exact ColumnValue.isOptionalText_ofText? t
  have int32 {column : String} {w : Int32} (listed : column ∈ spanColumns)
      (stores : s.stored form column = .ofInt32 w) : ((s.toRow form).value column).IsInt32 w := by
    rw [value_toRow s form listed, stores]
    exact ColumnValue.isInt32_ofInt32 w
  have counter {column : String} {w : UInt32} (listed : column ∈ spanColumns)
      (stores : s.stored form column = .ofUInt32 w) :
      ((s.toRow form).value column).IsCounter w := by
    rw [value_toRow s form listed, stores]
    exact ColumnValue.isCounter_ofUInt32 w
  have time {column : String} {w : UInt64} (listed : column ∈ spanColumns)
      (stores : s.stored form column = .ofUInt64 w) (among : w ∈ s.times) :
      ((s.toRow form).value column).IsTime w := by
    rw [value_toRow s form listed, stores]
    exact ColumnValue.isTime_ofUInt64 (times w among)
  have duration : ((s.toRow form).value "spans.duration_nano").IsDuration s.startTimeUnixNano
      s.endTimeUnixNano s.durationNano := by
    rw [value_toRow s form (by decide)]
    exact ColumnValue.isDuration_ofUInt64 (times _ (by simp [Span.times])) _ _
  have document {α : Type} {d : Decoder α} {empty a : α} {v : Json} {column : String}
      (listed : column ∈ spanColumns) (stores : s.stored form column = .ofJson v (form column))
      (read : d nestingLimit v.toTree = some a) :
      ((s.toRow form).value column).IsJson d empty a := by
    rw [value_toRow s form listed, stores]
    exact ColumnValue.isJson_ofJson read empty (form column)
  have whole : (s.toRow form).columns.length = spanColumns.length := List.length_map _
  refine ofRow_eq_ok_iff.2 (Row.holds_iff.2 ⟨whole, ?_⟩)
  exact {
    spanId := text (by decide) rfl
    traceId := text (by decide) rfl
    traceState := optionalText (by decide) rfl
    parentSpanId := optionalText (by decide) rfl
    name := text (by decide) rfl
    kind := int32 (by decide) rfl
    startTime := time (by decide) rfl (by simp [Span.times])
    endTime := time (by decide) rfl (by simp [Span.times])
    droppedAttributes := counter (by decide) rfl
    statusMessage := optionalText (by decide) rfl
    statusCode := int32 (by decide) rfl
    droppedEvents := counter (by decide) rfl
    droppedLinks := counter (by decide) rfl
    duration := duration
    ingestionTime := time (by decide) rfl (by simp [Span.times])
    attributes := document (by decide) rfl attributes
    scopeName := optionalText (by decide) rfl
    scopeVersion := optionalText (by decide) rfl
    scopeDroppedAttributes := counter (by decide) rfl
    scopeAttributes := document (by decide) rfl scope
    resourceDroppedAttributes := counter (by decide) rfl
    resourceAttributes := document (by decide) rfl resource
    events := document (by decide) rfl events
    links := document (by decide) rfl links
  }

/-- A row that stores a span is read as that span, its attributes in the order they were in. -/
theorem ofRow_toRow (s : Span) (form : String → JsonForm) (fits : s.Fits) (reads : s.ReadsBack)
    (literal : s.IsLiteral) : Span.ofRow (s.toRow form) = .ok s := by
  have attributes {a : Attributes} (map : a ∈ s.attributeMaps) (stored : a.toJson ∈ s.documents) :
      Decoder.members nestingLimit a.toJson.toTree = some a :=
    Attributes.members_toTree (literal a map) (fits.shallow _ stored) (reads _ stored)
  exact ofRow_toRow_of_decoded fits.times
    (attributes (by simp [attributeMaps]) (by simp [documents]))
    (attributes (by simp [attributeMaps]) (by simp [documents]))
    (attributes (by simp [attributeMaps]) (by simp [documents]))
    (decoder_eventsJson fits reads literal) (decoder_linksJson fits reads literal)

def nested : Span where
  spanId := "s"
  traceId := "t"
  traceState := none
  parentSpanId := some "p"
  name := "GET /orders"
  kind := -2
  status := ⟨2, some "late"⟩
  startTimeUnixNano := 10
  endTimeUnixNano := 9223372036854775807
  durationNano := 0
  ingestionTimeUnixNano := 11
  attributes :=
    [ ("b", .object [("x", .array [.ofFloat 2.5, .null]), ("a", .ofUInt64 18446744073709551615)])
    , ("a", .string "\"\n") ]
  droppedAttributesCount := 4294967295
  events := [⟨18446744073709551615, "retry", [("n", .ofInt64 (-7))], 1⟩]
  droppedEventsCount := 0
  links := [⟨"u", "v", some "w", [], 0⟩, ⟨"", "", none, [(Json.embeddedKey, .string "1")], 0⟩]
  droppedLinksCount := 3
  scope := ⟨some "", none, [("k", .bool true)], 0⟩
  resource := ⟨[], 5⟩

/-- The events are stored as bytes, and everything else as texts. -/
theorem ofRow_toRow_nested :
    nested.Fits ∧ nested.ReadsBack ∧ nested.IsLiteral ∧
      Span.ofRow (nested.toRow fun column => if column = "spans.events" then .bytes else .text) =
        .ok nested := by
  have fits : nested.Fits := ⟨by simp [times, nested], by decide +kernel⟩
  have reads : nested.ReadsBack := by
    unfold ReadsBack
    decide +kernel
  have literal : nested.IsLiteral := by
    simp [IsLiteral, attributeMaps, nested, Json.MembersPlain, Json.IsPlain, Json.ItemsPlain,
      Json.isPlain_ofFloat, Json.ofUInt64, Json.ofInt64, Json.embeddedKey]
  exact ⟨fits, reads, literal, ofRow_toRow nested _ fits reads literal⟩

def attributed (v : Json) : Span where
  spanId := "s"
  traceId := "t"
  traceState := none
  parentSpanId := none
  name := "n"
  kind := 1
  status := ⟨0, none⟩
  startTimeUnixNano := 10
  endTimeUnixNano := 30
  durationNano := 20
  ingestionTimeUnixNano := 40
  attributes := [("a", v)]
  droppedAttributesCount := 0
  events := []
  droppedEventsCount := 0
  links := []
  droppedLinksCount := 0
  scope := ⟨none, none, [], 0⟩
  resource := ⟨[], 0⟩

/-- An object that stands for a value is read as that value, and not as the object. -/
theorem ofRow_toRow_embedding {v : Json} (plain : v.IsPlain) (shallow : v.nesting ≤ nestingLimit)
    (doubles : ∀ x ∈ v.doubles, Decimal.ReadsBack x) (form : String → JsonForm) :
    Span.ofRow ((attributed (.object [(Json.embeddedKey, .string v.render)])).toRow form) =
      .ok (attributed v) := by
  have attributes := Json.members_embedding plain shallow doubles "a" 125
  exact ofRow_toRow_of_decoded (by simp [times, attributed]) attributes rfl rfl rfl rfl

def embedded : Json := .object [(Json.embeddedKey, .string "1")]

theorem embedded_attribute_not_read_back :
    (attributed embedded).Fits ∧ (attributed embedded).ReadsBack ∧
      Span.ofRow ((attributed embedded).toRow fun _ => .text) = .ok (attributed (.ofUInt64 1)) ∧
      attributed (.ofUInt64 1) ≠ attributed embedded := by
  have text : (Json.ofUInt64 1).render = "1" := by decide +kernel
  have doubles : (Json.ofUInt64 1).doubles = [] := rfl
  have read := ofRow_toRow_embedding (v := .ofUInt64 1) trivial (by decide) (by simp [doubles])
    fun _ => .text
  rw [text] at read
  refine ⟨⟨by simp [times, attributed], by decide +kernel⟩, ?_, read, fun same => ?_⟩
  · unfold ReadsBack
    decide +kernel
  · cases congrArg Span.attributes same

end Span

end TraceQuery
