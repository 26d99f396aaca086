import TraceQuery.Proofs.Reader.Batch
import TraceQuery.Proofs.Span.OfRow
import TraceQuery.Proofs.Wire.Tag

/-!
The values of tags from the rows of the store to the text that is sent. A null in a row is no
value, so that none is sent for it; but a stored infinity is a value, and is written as null. What
is sent is read as the same values just when there is none.
-/

set_option autoImplicit false
namespace TraceQuery

namespace TagValue

def isFinite : TagValue → Bool
  | .real x => x.isFinite
  | .integer _ | .text _ => true

theorem toJson_of_isFinite {v : TagValue} (finite : v.isFinite = true) :
    (∃ n, v.toJson = .number n) ∨ ∃ s, v.toJson = .string s := by
  cases v with
  | integer n => exact .inl ⟨_, rfl⟩
  | real x => exact .inl ⟨_, dif_pos finite⟩
  | text s => exact .inr ⟨s, rfl⟩

theorem toJson_of_not_isFinite {v : TagValue} (infinite : v.isFinite = false) :
    v.toJson = .null := by
  cases v with
  | real x => exact dif_neg (Bool.eq_false_iff.1 infinite)
  | _ => cases infinite

theorem isNullFree_toJson (v : TagValue) : v.toJson.isNullFree = v.isFinite := by
  cases finite : v.isFinite with
  | true =>
    rcases toJson_of_isFinite finite with ⟨_, written⟩ | ⟨_, written⟩ <;>
      simp [written, Json.isNullFree]
  | false => simp [toJson_of_not_isFinite finite, Json.isNullFree]

def column : TagValue → ColumnValue
  | .integer n => .integer n
  | .real x => .real x
  | .text s => .text s

end TagValue

theorem TagValues.isNullFree_toJson_iff {v : TagValues} :
    v.toJson.isNullFree = true ↔ ∀ info ∈ v.values, info.value.isFinite = true := by
  simp [TagValues.toJson, TagValueInfo.toJson, Json.isNullFree, Json.membersAreNullFree,
    Json.areNullFree_iff, TagValue.isNullFree_toJson, Json.ofUInt64]

theorem TagValues.isNullFree_membersToJson_iff {members : List (String × TagValues)} :
    (NameMap.membersToJson toJson members).isNullFree = true ↔
      ∀ e ∈ members, e.2.toJson.isNullFree = true := by
  rw [NameMap.membersToJson, Json.isNullFree, Json.membersAreNullFree_iff, List.forall_mem_map]

/-! ## What is sent and read -/

theorem TagValues.read?_render_iff {v : TagValues} :
    decoder.read? v.toJson.render = some v ↔ v.toJson.IsLossless := by
  rw [Json.Decoder.read?, Json.read?_render, Option.bind_some]
  exact decoder_toTree_iff

theorem TagValues.read?_render_members_iff {batch : NameMap TagValues}
    {members : List (String × TagValues)} (perm : members.Perm batch.entries) :
    (NameMap.decoder decoder).read? (NameMap.membersToJson toJson members).render = some batch ↔
      (NameMap.membersToJson toJson members).IsLossless := by
  -- The map is one of the 127 containers that a text may nest.
  have values : (∀ e ∈ batch.entries, decoder 126 e.2.toJson.toTree = some e.2) ↔
      ∀ e ∈ members, e.2.toJson.IsLossless := by
    simp only [decoder_toTree_iff, perm.mem_iff]
  rw [Json.Decoder.read?, Json.read?_render, Option.bind_some, NameMap.isLossless_membersToJson,
    ← values]
  exact NameMap.decoder_members_iff perm

/-! ## From rows to values -/

theorem TagValueInfo.ofRow_eq_some_iff {row : Row} {info : TagValueInfo} :
    ofRow row = .ok (some info) ↔ ∃ n, row.columns = [info.value.column, .integer n] ∧
      (info.count.toNat : Int) = n.toInt := by
  -- All values but null go on to read their count.
  have counted (value : TagValue) : (do return some ⟨value, ← row.uint64 1⟩) =
      (.ok (some info) : Except RowError (Option TagValueInfo)) ↔
        info.value = value ∧ row.uint64 1 = .ok info.count := by
    obtain ⟨stored, count⟩ := info
    simp [bind_eq_ok, pure, Except.pure, and_comm, eq_comm (a := stored)]
  unfold ofRow
  simp only [bind_eq_ok, Row.expectColumns_eq_ok_iff, Row.get_eq_ok_iff]
  constructor
  · rintro ⟨-, two, v, first, read⟩
    obtain ⟨a, b, columns⟩ := List.length_eq_two.1 two
    simp only [columns, List.getElem?_cons_zero, Option.some.injEq] at first
    subst first
    have value : info.value.column = a ∧ row.uint64 1 = .ok info.count := by
      cases a with
      | null => cases read
      | blob bytes => cases read
      | _ =>
        obtain ⟨same, count⟩ := (counted _).1 read
        exact ⟨congrArg TagValue.column same, count⟩
    obtain ⟨n, second, count⟩ := Row.uint64_eq_ok_iff.1 value.2
    simp only [columns, List.getElem?_cons_succ, List.getElem?_cons_zero, Option.some.injEq]
      at second
    exact ⟨n, by rw [columns, value.1, second], count⟩
  · rintro ⟨n, columns, count⟩
    have second : row.uint64 1 = .ok info.count :=
      Row.uint64_eq_ok_iff.2 ⟨n, by simp [columns], count⟩
    refine ⟨(), by simp [columns], info.value.column, by simp [columns], ?_⟩
    cases stored : info.value <;> exact (counted _).2 ⟨stored, second⟩

def Row.CountsNonFinite (row : Row) : Prop :=
  ∃ x n, row.columns = [.real x, .integer n] ∧ 0 ≤ n.toInt ∧ x.isFinite = false

/-- The values as they are sent: each is a number or a string, or a null for an infinity, and there
is a null just where a row counts one. -/
structure TagValues.WrittenFrom (v : TagValues) (rows : List Row) : Prop where
  values : ∀ info ∈ v.values,
    if info.value.isFinite then
      (∃ n, info.value.toJson = .number n) ∨ ∃ s, info.value.toJson = .string s
    else info.value.toJson = .null
  nulls : v.toJson.isNullFree = true ↔ ∀ row ∈ rows, ¬row.CountsNonFinite

namespace SpanReader

theorem mem_ranked_iff {rows : List Row} {info : TagValueInfo} :
    info ∈ (ranked rows).values ↔ ∃ row ∈ rows, TagValueInfo.ofRow row = .ok (some info) := by
  have read (row : Row) : (TagValueInfo.ofRow row).toOption = some (some info) ↔
      TagValueInfo.ofRow row = .ok (some info) := by
    cases TagValueInfo.ofRow row <;> simp [Except.toOption]
  simp [ranked, successes, read]

theorem isNullFree_ranked_iff {rows : List Row} :
    (ranked rows).toJson.isNullFree = true ↔ ∀ row ∈ rows, ¬row.CountsNonFinite := by
  rw [TagValues.isNullFree_toJson_iff]
  constructor
  · -- A row that counts an infinity is read as one, and so it is among the values.
    rintro finite row member ⟨x, n, columns, counts, infinite⟩
    obtain ⟨count, same⟩ : ∃ count : UInt64, (count.toNat : Int) = n.toInt := by
      refine ⟨.ofNat n.toInt.toNat, ?_⟩
      have small := n.toInt_lt
      rw [UInt64.toNat_ofNat_of_lt' (by rw [UInt64.size]; omega)]
      omega
    have read : TagValueInfo.ofRow row = .ok (some ⟨.real x, count⟩) :=
      TagValueInfo.ofRow_eq_some_iff.2 ⟨n, columns, same⟩
    have ranked := mem_ranked_iff.2 ⟨row, member, read⟩
    exact Bool.false_ne_true (infinite.symm.trans (finite _ ranked))
  · intro finite info member
    obtain ⟨row, among, read⟩ := mem_ranked_iff.1 member
    obtain ⟨n, columns, count⟩ := TagValueInfo.ofRow_eq_some_iff.1 read
    obtain ⟨value, _⟩ := info
    cases value with
    | real x =>
      by_contra infinite
      exact finite row among
        ⟨x, n, columns, count ▸ Int.natCast_nonneg _, Bool.eq_false_iff.2 infinite⟩
    | _ => rfl

theorem ranked_writtenFrom (rows : List Row) : (ranked rows).WrittenFrom rows where
  values info _ := by
    split
    · next finite => exact TagValue.toJson_of_isFinite finite
    · next infinite => exact TagValue.toJson_of_not_isFinite (Bool.eq_false_iff.2 infinite)
  nulls := isNullFree_ranked_iff

section
variable {σ : Type} {r : SpanReader} {executor : Executor σ} {deadline : Option Nat}
  {request : TagValuesRequest} {tag : String} {s after : Session σ} {values : TagValues}

theorem valuesUnder_eq_ok
    (returned : (r.valuesUnder executor deadline request tag s).1 = .ok values) :
    ∃ plan, request.plan tag r.registry r.settings.maxTagValues = .ok plan ∧
      values = ranked (executor.fetch s.store plan.statement).1.rows := by
  generalize call : r.valuesUnder executor deadline request tag s = result at returned
  obtain ⟨outcome, after⟩ := result
  subst returned
  cases built : request.plan tag r.registry r.settings.maxTagValues with
  | error e =>
    rw [valuesUnder_of_error built] at call
    cases call
  | ok plan =>
    obtain ⟨warnings, called⟩ := valuesUnder_of_plan built executor deadline s
    rw [called] at call
    obtain ⟨rows, between, fetched, shown⟩ := Session.andThen_eq_ok call
    obtain ⟨-, -, rfl⟩ := Session.fetch_eq_ok fetched
    cases shown
    exact ⟨plan, rfl, rfl⟩

theorem tagValues_eq_ok (returned : r.tagValues executor request tag s = (.ok values, after)) :
    ∃ deadline, (r.valuesUnder executor deadline request tag s).1 = .ok values := by
  rw [tagValues] at returned
  split at returned
  · cases returned
  · next deadline _ => exact ⟨deadline, congrArg Prod.fst returned⟩

theorem tagsValues_eq_ok {tags : List String} {batch : NameMap TagValues}
    (returned : r.tagsValues executor request tags s = (.ok batch, after)) :
    ∃ deadline, r.scoped? s = some deadline ∧
      r.batchUnder executor deadline request tags .empty s = (.ok batch, after) := by
  rw [tagsValues] at returned
  split at returned
  · cases returned
  · next deadline timed => exact ⟨deadline, timed, returned⟩

end

/--
What is sent for a tag, or for several, has a null just for each infinity that a row of the store
counts. It is read as the same values just when it has none and its doubles read back.
-/
theorem nulls_stand_for_infinities {σ : Type} (r : SpanReader) (executor : Executor σ)
    (request : TagValuesRequest) (s : Session σ) :
    (∀ tag values after, r.tagValues executor request tag s = (.ok values, after) →
      (∃ plan, request.plan tag r.registry r.settings.maxTagValues = .ok plan ∧
        values.WrittenFrom (executor.fetch s.store plan.statement).1.rows) ∧
      (TagValues.decoder.read? values.toJson.render = some values ↔
        values.toJson.isNullFree = true ∧ ∀ x ∈ values.toJson.doubles, Decimal.ReadsBack x)) ∧
    ∀ tags batch after, r.tagsValues executor request tags s = (.ok batch, after) →
      (∃ deadline, r.scoped? s = some deadline ∧ ∀ e ∈ batch.entries, ∃ before rest plan,
        tags = before ++ e.1 :: rest ∧
        request.plan e.1 r.registry r.settings.maxTagValues = .ok plan ∧
        e.2.WrittenFrom (executor.fetch (r.singles executor deadline request before s).2.store
          plan.statement).1.rows) ∧
      ∀ members, members.Perm batch.entries →
        let sent := NameMap.membersToJson TagValues.toJson members
        (sent.isNullFree = true ↔ ∀ e ∈ batch.entries, e.2.toJson.isNullFree = true) ∧
        ((NameMap.decoder TagValues.decoder).read? sent.render = some batch ↔
          sent.isNullFree = true ∧ ∀ x ∈ sent.doubles, Decimal.ReadsBack x) := by
  refine ⟨fun tag values after returned => ⟨?_, ?_⟩, fun tags batch after returned => ⟨?_, ?_⟩⟩
  · obtain ⟨deadline, called⟩ := tagValues_eq_ok returned
    obtain ⟨plan, built, rfl⟩ := valuesUnder_eq_ok called
    exact ⟨plan, built, ranked_writtenFrom _⟩
  · rw [TagValues.read?_render_iff, Json.isLossless_iff]
  · obtain ⟨deadline, timed, called⟩ := tagsValues_eq_ok returned
    refine ⟨deadline, timed, fun e member => ?_⟩
    obtain ⟨before, rest, split, single⟩ := exists_single_of_batchUnder called member
    obtain ⟨plan, built, same⟩ := valuesUnder_eq_ok single
    exact ⟨before, rest, plan, split, built, same ▸ ranked_writtenFrom _⟩
  · intro members perm sent
    refine ⟨?_, ?_⟩
    · simp only [sent, TagValues.isNullFree_membersToJson_iff, perm.mem_iff]
    · rw [TagValues.read?_render_members_iff perm, Json.isLossless_iff]

/-- A half is sent as a number, a null in a row is left out, and both calls are read again. -/
theorem nulls_stand_for_infinities_half :
    let r : SpanReader := ⟨.empty, .standard⟩
    let row : Row := ⟨[.real 0.5, .integer 2]⟩
    let s := Session.start [⟨[⟨[.null, .integer 5]⟩, row], .complete, false⟩] .fresh 0
    let values : TagValues := ⟨[⟨.real 0.5, 2⟩]⟩
    let batch : NameMap TagValues := NameMap.empty.insert "span.a" values
    ((∃ after, r.tagValues .scripted .standard "span.a" s = (.ok values, after)) ∧
      TagValues.decoder.read? values.toJson.render = some values) ∧
    (∃ after, r.tagsValues .scripted .standard ["span.a"] s = (.ok batch, after)) ∧
      (NameMap.decoder TagValues.decoder).read? (TagValues.mapToJson batch).render =
        some batch := by
  intro r row s values batch
  have sorted : ranked [⟨[.null, .integer 5]⟩, row] = values :=
    congrArg TagValues.mk (List.mergeSort_singleton _)
  have timed : r.scoped? s = some (some 30000000000) := by decide +kernel
  have single : ∃ after, r.tagValues .scripted .standard "span.a" s = (.ok values, after) := by
    rw [tagValues, timed, ← sorted]
    exact ⟨_, rfl⟩
  have several : ∃ after, r.tagsValues .scripted .standard ["span.a"] s = (.ok batch, after) := by
    unfold batch
    rw [tagsValues, timed, ← sorted]
    exact ⟨_, rfl⟩
  obtain ⟨first, second⟩ := nulls_stand_for_infinities r .scripted .standard s
  refine ⟨⟨single, ?_⟩, several, ?_⟩
  · obtain ⟨after, returned⟩ := single
    exact (first _ _ _ returned).2.2 (by decide +kernel)
  · obtain ⟨after, returned⟩ := several
    exact ((second _ _ _ returned).2 batch.entries (.refl _)).2.2 (by decide +kernel)

/-- An infinity that a row counts is returned as a value, and nothing is read of what is sent. -/
theorem infinity_sent_as_null :
    let r : SpanReader := ⟨.standard, .standard⟩
    let s := Session.start [⟨[⟨[.real (1 / 0), .integer 1]⟩], .complete, false⟩] .fresh 0
    let values : TagValues := ⟨[⟨.real (1 / 0), 1⟩]⟩
    (∃ after, r.tagValues .scripted .standard "http.method" s = (.ok values, after)) ∧
      values.toJson.render = "\x7b\"values\":[\x7b\"value\":null,\"count\":1\x7d]\x7d" ∧
      TagValues.decoder.read? values.toJson.render = none := by
  intro r s values
  have sorted : ranked [⟨[.real (1 / 0), .integer 1]⟩] = values :=
    congrArg TagValues.mk (List.mergeSort_singleton _)
  refine ⟨?_, by decide +kernel, by decide +kernel⟩
  have exists_plan :
      (TagValuesRequest.standard.plan "http.method" .standard none).toOption.isSome = true := by
    decide +kernel
  cases built : TagValuesRequest.standard.plan "http.method" .standard none with
  | error e => simp [built, Except.toOption] at exists_plan
  | ok plan =>
    rw [← sorted]
    exact tagValues_of_complete rfl (by decide +kernel) built rfl

end SpanReader

end TraceQuery
