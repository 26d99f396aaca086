import Mathlib.Data.List.TakeWhile
import TraceQuery.Proofs.Tag.Catalog
import TraceQuery.Tag.Location

/-!
Where a listed tag leads when it is asked for. The key of a source has no dot, so the first dot of
a qualified name stands between the source and the attribute's own name, whatever that is.
-/

set_option autoImplicit false
namespace TraceQuery

variable {σ : Type} {source : AttributeSource} {field : String}

namespace AttributeSource

theorem ofKey?_key (source : AttributeSource) : ofKey? source.key = some source := by
  cases source <;> decide

theorem dot_not_mem_key (source : AttributeSource) : '.' ∉ source.key.toList := by
  cases source <;> decide

theorem quote_not_mem_key (source : AttributeSource) : '"' ∉ source.key.toList := by
  cases source <;> decide

theorem toList_qualified (source : AttributeSource) (field : String) :
    (source.key ++ "." ++ field).toList = source.key.toList ++ '.' :: field.toList := by
  simp

theorem ofTag_qualified (source : AttributeSource) (field : String) :
    ofTag (source.key ++ "." ++ field) = (source, field) := by
  have before : ∀ c ∈ source.key.toList, (c != '.') = true := by
    intro c member
    have : c ≠ '.' := fun same => source.dot_not_mem_key (same ▸ member)
    simpa using this
  rw [ofTag, toList_qualified, List.dropWhile_append_of_pos before,
    List.takeWhile_append_of_pos before]
  simp [ofKey?_key]

theorem qualified_inj {source' : AttributeSource} {field' : String}
    (same : source.key ++ "." ++ field = source'.key ++ "." ++ field') :
    source = source' ∧ field = field' := by
  have read := ofTag_qualified source field
  rw [same, ofTag_qualified] at read
  exact Prod.mk.inj read.symm

end AttributeSource

theorem Registry.resolve_qualified {registry : Registry} (named : field ≠ "")
    (dynamic : registry.get? (source.key ++ "." ++ field) = none) :
    registry.resolve (source.key ++ "." ++ field) =
      if '"' ∈ field.toList then
        .error (.malformedKey (source.key ++ "." ++ field) .doubleQuote)
      else .ok (source.location field) := by
  -- The source and the dot bring in no quote of their own.
  have quoted : '"' ∈ (source.key ++ "." ++ field).toList ↔ '"' ∈ field.toList := by
    rw [AttributeSource.toList_qualified]
    simp [source.quote_not_mem_key]
  have nonempty : source.key ++ "." ++ field ≠ "" := by
    intro empty
    have chars := AttributeSource.toList_qualified source field
    rw [empty] at chars
    simp at chars
  rw [resolve, dynamic]
  simp only [if_neg nonempty, quoted, AttributeSource.ofTag_qualified, if_neg named]

namespace SpanReader

/--
A listed tag is asked for at its column if it is registered, and else at the one place where it
occurs: in the column of its source, under a path that ends with its key. Only where the key has a
double quote is the tag listed and then refused.
-/
theorem listed_tag_resolves (r : SpanReader) (executor : Executor σ) (s after : Session σ)
    (tags : List TagInfo) (returned : r.tags executor s = (.ok tags, after)) (rows : List Row)
    (given : (executor.fetch s.store Discovery.statement).1.rows = rows)
    (known : ∀ t : DiscoveredTag, t.Occurs rows →
      ∃ source : AttributeSource, t.source = source.key) :
    ∀ info ∈ tags,
      (∀ tag, r.registry.get? info.name = some tag →
        r.registry.resolve info.name = .ok (.column tag.column)) ∧
      (r.registry.get? info.name = none →
        ∃ (source : AttributeSource) (key : String), info.name = source.key ++ "." ++ key ∧
          (∃ t : DiscoveredTag, t.Occurs rows ∧ t.source = source.key ∧ t.key = key) ∧
          (∀ t : DiscoveredTag, t.Occurs rows → t.qualifiedName = info.name →
            t.source = source.key ∧ t.key = key) ∧
          ('"' ∉ key.toList → r.registry.resolve info.name =
            .ok (if source.isNested then
                .element source.column ("$.attributes.\"" ++ key ++ "\"")
              else .attribute source.column ("$.\"" ++ key ++ "\""))) ∧
          ('"' ∈ key.toList → r.registry.resolve info.name =
            .error (.malformedKey info.name .doubleQuote))) := by
  intro info listed
  rw [tags_eq_ok returned, given] at listed
  have described := Catalog.describes_ofRows r.registry rows
  refine ⟨fun tag registered => by rw [Registry.resolve, registered], fun dynamic => ?_⟩
  obtain registered | ⟨t, occurs, named⟩ := (described.names info.name).1 ⟨info, listed, rfl⟩
  · simp [NameMap.contains, dynamic] at registered
  obtain ⟨source, atSource⟩ := known t occurs
  have name : info.name = source.key ++ "." ++ t.key := by
    rw [← named, DiscoveredTag.qualifiedName, atSource]
  have resolved := Registry.resolve_qualified occurs.2.2 (name ▸ dynamic)
  rw [← name] at resolved
  refine ⟨source, t.key, name, ⟨t, occurs, atSource, rfl⟩, ?_, ?_, ?_⟩
  · intro other also sameName
    obtain ⟨source', atOther⟩ := known other also
    rw [DiscoveredTag.qualifiedName, atOther, name] at sameName
    obtain ⟨rfl, sameKey⟩ := AttributeSource.qualified_inj sameName
    exact ⟨atOther, sameKey⟩
  · intro plain
    rw [resolved, if_neg plain, AttributeSource.location, AttributeSource.path]
    cases source.isNested <;> rfl
  · intro quoted
    rw [resolved, if_pos quoted]

theorem listed_tag_resolves_event :
    let r : SpanReader := ⟨NameMap.empty.insert "link.a" ⟨.number, "spans.a"⟩, .standard⟩
    let rows : List Row := [⟨[.text "event", .text "link.a", .text "string"]⟩]
    let tags : List TagInfo := [⟨"event.link.a", .string⟩, ⟨"link.a", .number⟩]
    (∃ after, r.tags .scripted (.start [⟨rows, .complete, false⟩] .fresh 0) = (.ok tags, after)) ∧
      r.registry.resolve "link.a" = .ok (.column "spans.a") ∧
      r.registry.resolve "event.link.a" =
        .ok (.element "spans.events" "$.attributes.\"link.a\"") := by
  intro r rows tags
  let s : Session (List Execution) := .start [⟨rows, .complete, false⟩] .fresh 0
  have answer : Executor.scripted.fetch s.store Discovery.statement =
      (⟨rows, .complete, false⟩, []) := rfl
  obtain ⟨after, returned⟩ := tags_of_complete (r := r) rfl (by decide) answer
  have shown : Catalog.ofRows r.registry rows = tags := by decide +kernel
  rw [shown] at returned
  have known (t : DiscoveredTag) (occurs : t.Occurs rows) :
      ∃ source : AttributeSource, t.source = source.key := by
    have event : t.source = "event" := by
      have row := occurs.1
      simp only [DiscoveredTag.row, rows] at row
      grind
    exact ⟨.event, event⟩
  have resolves := listed_tag_resolves r .scripted s after tags returned rows rfl known
  refine ⟨⟨after, returned⟩, ?_, ?_⟩
  · exact (resolves ⟨"link.a", .number⟩ (by decide)).1 ⟨.number, "spans.a"⟩ (by decide)
  · obtain ⟨source, key, name, -, -, plain, -⟩ :=
      (resolves ⟨"event.link.a", .string⟩ (by decide)).2 (by decide)
    have qualified : "event.link.a" = AttributeSource.event.key ++ "." ++ "link.a" := by decide
    obtain ⟨rfl, rfl⟩ := AttributeSource.qualified_inj (name.symm.trans qualified)
    exact plain (by decide)

/-- The attribute is listed with its name and type, and no call can ask for it. -/
theorem quoted_tag_listed_and_refused :
    let r : SpanReader := ⟨.empty, .standard⟩
    let rows : List Row := [⟨[.text "span", .text "a\"b", .text "string"]⟩]
    (∃ after, r.tags .scripted (.start [⟨rows, .complete, false⟩] .fresh 0) =
        (.ok [⟨"span.a\"b", .string⟩], after)) ∧
      r.registry.resolve "span.a\"b" = .error (.malformedKey "span.a\"b" .doubleQuote) := by
  intro r rows
  let s : Session (List Execution) := .start [⟨rows, .complete, false⟩] .fresh 0
  have answer : Executor.scripted.fetch s.store Discovery.statement =
      (⟨rows, .complete, false⟩, []) := rfl
  obtain ⟨after, returned⟩ := tags_of_complete (r := r) rfl (by decide) answer
  have shown : Catalog.ofRows r.registry rows = [⟨"span.a\"b", .string⟩] := by decide +kernel
  exact ⟨⟨after, shown ▸ returned⟩, by decide +kernel⟩

end SpanReader

end TraceQuery
