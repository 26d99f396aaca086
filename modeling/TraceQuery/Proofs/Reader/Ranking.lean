import TraceQuery.Proofs.Reader.Rows
import TraceQuery.Proofs.Reader.TagValues

/-!
The order in which the values of a tag are returned. It is the only one in which the counts descend
and values that are counted equally often stand as their rows do, so that rows which count nothing
have no part in it.
-/

set_option autoImplicit false
namespace TraceQuery

namespace Row

def counted? (row : Row) : Option TagValueInfo :=
  (TagValueInfo.ofRow row).toOption.join

theorem counted?_eq_some_iff {row : Row} {info : TagValueInfo} :
    row.counted? = some info ↔ ∃ n, row.columns = [info.value.column, .integer n] ∧
      (info.count.toNat : Int) = n.toInt := by
  rw [← TagValueInfo.ofRow_eq_some_iff, counted?]
  cases TagValueInfo.ofRow row <;> simp [Except.toOption]

theorem isSome_counted?_iff {row : Row} :
    row.counted?.isSome ↔ ∃ value n, row.columns = [TagValue.column value, .integer n] ∧
      0 ≤ n.toInt := by
  simp only [Option.isSome_iff_exists, counted?_eq_some_iff]
  constructor
  · rintro ⟨info, n, columns, count⟩
    exact ⟨info.value, n, columns, count ▸ Int.natCast_nonneg _⟩
  · rintro ⟨value, n, columns, positive⟩
    have small := n.toInt_lt
    refine ⟨⟨value, .ofNat n.toInt.toNat⟩, n, columns, ?_⟩
    rw [UInt64.toNat_ofNat_of_lt' (by rw [UInt64.size]; omega)]
    exact Int.toNat_of_nonneg positive

def CountsNothing (row : Row) : Prop :=
  row.counted? = none

end Row

/-- The values that the rows count, the most frequent first; ties keep the order of the rows. -/
structure TagValues.Ranks (v : TagValues) (rows : List Row) : Prop where
  each : v.values.Perm (rows.filterMap Row.counted?)
  descending : v.values.Pairwise fun a b => b.count ≤ a.count
  stable : ∀ n, v.values.filter (·.count = n) = (rows.filterMap Row.counted?).filter (·.count = n)

theorem eq_of_stable {l m : List TagValueInfo} (perm : l.Perm m)
    (first : l.Pairwise fun a b => b.count ≤ a.count)
    (second : m.Pairwise fun a b => b.count ≤ a.count)
    (stable : ∀ n, l.filter (·.count = n) = m.filter (·.count = n)) : l = m := by
  induction l generalizing m with
  | nil => exact perm.nil_eq
  | cons a l ih =>
    cases m with
    | nil => exact absurd perm.symm (List.not_perm_nil_cons _ _)
    | cons b m =>
      obtain ⟨below, rest⟩ := List.pairwise_cons.1 first
      obtain ⟨under, others⟩ := List.pairwise_cons.1 second
      -- Both begin with a greatest count of the same values.
      have counts : a.count = b.count := by
        apply UInt64.le_antisymm
        · rcases List.mem_cons.1 (perm.subset List.mem_cons_self) with rfl | member
          · exact UInt64.le_refl _
          · exact under a member
        · rcases List.mem_cons.1 (perm.symm.subset List.mem_cons_self) with rfl | member
          · exact UInt64.le_refl _
          · exact below b member
      have heads := stable a.count
      rw [List.filter_cons_of_pos (by simp), List.filter_cons_of_pos (by simp [counts])] at heads
      obtain rfl : a = b := (List.cons.inj heads).1
      refine congrArg (a :: ·) (ih (perm.cons_inv) rest others fun n => ?_)
      have tails := stable n
      by_cases same : a.count = n
      · rw [List.filter_cons_of_pos (by simp [same]), List.filter_cons_of_pos (by simp [same])]
          at tails
        exact (List.cons.inj tails).2
      · rw [List.filter_cons_of_neg (by simp [same]), List.filter_cons_of_neg (by simp [same])]
          at tails
        exact tails

namespace TagValues.Ranks

variable {v w : TagValues} {less rows : List Row}

theorem unique (first : v.Ranks rows) (second : w.Ranks rows) : v = w := by
  obtain ⟨values⟩ := v
  obtain ⟨others⟩ := w
  refine congrArg TagValues.mk (eq_of_stable (first.each.trans second.each.symm) first.descending
    second.descending fun n => ?_)
  rw [first.stable, second.stable]

theorem iff_of_thinned (thinned : Thinned Row.CountsNothing less rows) :
    v.Ranks less ↔ v.Ranks rows := by
  have same := thinned.filterMap_eq (f := Row.counted?) fun _ => id
  constructor
  · rintro ⟨each, descending, stable⟩
    exact ⟨same ▸ each, descending, same ▸ stable⟩
  · rintro ⟨each, descending, stable⟩
    exact ⟨same ▸ each, descending, same ▸ stable⟩

theorem of_descending
    (descending : (rows.filterMap Row.counted?).Pairwise fun a b => b.count ≤ a.count) :
    Ranks ⟨rows.filterMap Row.counted?⟩ rows :=
  ⟨.refl _, descending, fun _ => rfl⟩

end TagValues.Ranks

namespace SpanReader

theorem values_ranked (rows : List Row) :
    (ranked rows).values =
      (rows.filterMap Row.counted?).mergeSort fun a b => b.count ≤ a.count := by
  rw [ranked, successes, List.filterMap_filterMap]
  rfl

theorem ranked_ranks (rows : List Row) : (ranked rows).Ranks rows := by
  have trans (a b c : TagValueInfo) : decide (b.count ≤ a.count) = true →
      decide (c.count ≤ b.count) = true → decide (c.count ≤ a.count) = true := by
    simpa using fun first second => UInt64.le_trans second first
  have total (a b : TagValueInfo) :
      (decide (b.count ≤ a.count) || decide (a.count ≤ b.count)) = true := by
    simpa using UInt64.le_total b.count a.count
  constructor
  · rw [values_ranked]
    exact List.mergeSort_perm _ _
  · rw [values_ranked]
    simpa using List.pairwise_mergeSort trans total (rows.filterMap Row.counted?)
  · intro n
    rw [values_ranked]
    generalize rows.filterMap Row.counted? = counted
    -- Equal counts are in order already, and sorting leaves alone what is in order.
    have ties : (counted.filter (·.count = n)).Pairwise
        fun a b => decide (b.count ≤ a.count) = true := by
      refine List.pairwise_of_forall_mem_list fun a first b second => ?_
      have left : a.count = n := by simpa using (List.mem_filter.1 first).2
      have right : b.count = n := by simpa using (List.mem_filter.1 second).2
      rw [left, right]
      exact decide_eq_true (UInt64.le_refl n)
    have kept := (List.sublist_mergeSort trans total ties List.filter_sublist).filter
      fun info => decide (info.count = n)
    simp only [List.filter_filter, Bool.and_self] at kept
    exact (kept.eq_of_length ((List.mergeSort_perm counted _).filter _).length_eq.symm).symm

section
variable {σ : Type} {r : SpanReader} {request : TagValuesRequest} {tag : String}
  {plan : TagValuesPlan} {values : TagValues}

theorem valuesUnder_eq_ok_iff
    (built : request.plan tag r.registry r.settings.maxTagValues = .ok plan)
    (executor : Executor σ) (deadline : Option Nat) (s : Session σ) :
    (r.valuesUnder executor deadline request tag s).1 = .ok values ↔
      s.context.cancelled = false ∧ (executor.fetch s.store plan.statement).1.ending = .complete ∧
        values.Ranks (executor.fetch s.store plan.statement).1.rows := by
  obtain ⟨warnings, called⟩ := valuesUnder_of_plan built executor deadline s
  constructor
  · generalize r.valuesUnder executor deadline request tag s = result at called ⊢
    obtain ⟨outcome, after⟩ := result
    rintro rfl
    obtain ⟨rows, between, fetched, shown⟩ := Session.andThen_eq_ok called.symm
    obtain ⟨active, complete, rfl⟩ := Session.fetch_eq_ok fetched
    cases shown
    exact ⟨active, complete, ranked_ranks _⟩
  · rintro ⟨active, complete, ranks⟩
    rw [called, Session.outcome_andThen (fun _ _ => rfl), Session.fetch_outcome_of_active active,
      Execution.outcome_of_complete complete]
    exact congrArg Outcome.ok ((ranked_ranks _).unique ranks)

end

/--
A row counts a value if it has two columns, an integer, a double or a text and a count that is not
negative. The values of a tag are returned if the store ends its answer to a caller who has not
cancelled; then they are those that its rows count, one for each such row, in the one order in which
the counts descend and ties stand as their rows do. If the counts of the rows descend already, this
is the order of the rows; and whichever rows that count nothing are added to the answer or taken
away from it, the same is returned.
-/
theorem values_rank_counted_rows {σ : Type} (r : SpanReader) (executor : Executor σ)
    (deadline : Option Nat) (request : TagValuesRequest) (tag : String) (s : Session σ) :
    (∀ row, (Row.counted? row).isSome ↔
      ∃ value n, row.columns = [TagValue.column value, .integer n] ∧ 0 ≤ n.toInt) ∧
    (∀ row info, Row.counted? row = some info →
      ∃ n, row.columns = [info.value.column, .integer n] ∧ (info.count.toNat : Int) = n.toInt) ∧
    ∀ plan, request.plan tag r.registry r.settings.maxTagValues = .ok plan →
      let answer := (executor.fetch s.store plan.statement).1
      let counted := answer.rows.filterMap Row.counted?
      (∃! values, TagValues.Ranks values answer.rows) ∧
      (∀ values, (r.valuesUnder executor deadline request tag s).1 = .ok values ↔
        s.context.cancelled = false ∧ answer.ending = .complete ∧ values.Ranks answer.rows) ∧
      ∀ values, (r.valuesUnder executor deadline request tag s).1 = .ok values →
        ((counted.Pairwise fun a b => b.count ≤ a.count) → values.values = counted) ∧
        ∀ {τ : Type} (store : Executor τ) (other : Option Nat) (t : Session τ),
          let given := (store.fetch t.store plan.statement).1
          t.context.cancelled = false → given.ending = .complete →
            Thinned Row.CountsNothing given.rows answer.rows ∨
              Thinned Row.CountsNothing answer.rows given.rows →
            (r.valuesUnder store other request tag t).1 = .ok values := by
  refine ⟨fun _ => Row.isSome_counted?_iff, fun _ _ => Row.counted?_eq_some_iff.1,
    fun plan built => ?_⟩
  intro answer counted
  refine ⟨⟨ranked answer.rows, ranked_ranks _, fun _ ranks => ranks.unique (ranked_ranks _)⟩,
    fun _ => valuesUnder_eq_ok_iff built executor deadline s, fun values returned => ?_⟩
  obtain ⟨-, -, ranks⟩ := (valuesUnder_eq_ok_iff built executor deadline s).1 returned
  refine ⟨fun descending => ?_, ?_⟩
  · exact congrArg TagValues.values (ranks.unique (.of_descending descending))
  · intro τ store other t given active complete thinned
    refine (valuesUnder_eq_ok_iff built store other t).2 ⟨active, complete, ?_⟩
    rcases thinned with fewer | more
    · exact (TagValues.Ranks.iff_of_thinned fewer).2 ranks
    · exact (TagValues.Ranks.iff_of_thinned more).1 ranks

/-- Ties around a more frequent value, with a null and a negative count between them. -/
theorem values_rank_counted_rows_tied :
    let r : SpanReader := ⟨.empty, .standard⟩
    let ties : List Row := [⟨[.text "b", .integer 1]⟩, ⟨[.integer 7, .integer 2]⟩,
      ⟨[.text "a", .integer 1]⟩]
    let rows : List Row := [⟨[.text "b", .integer 1]⟩, ⟨[.null, .integer 9]⟩,
      ⟨[.integer 7, .integer 2]⟩, ⟨[.real 0.5, .integer (-3)]⟩, ⟨[.text "a", .integer 1]⟩]
    let s (rows : List Row) := Session.start [⟨rows, .complete, false⟩] .fresh 0
    let values : TagValues := ⟨[⟨.integer 7, 2⟩, ⟨.text "b", 1⟩, ⟨.text "a", 1⟩]⟩
    (r.valuesUnder .scripted none .standard "span.a" (s rows)).1 = .ok values ∧
      (r.valuesUnder .scripted none .standard "span.a" (s ties)).1 = .ok values := by
  intro r ties rows s values
  obtain ⟨plan, built⟩ : ∃ plan,
      TagValuesRequest.standard.plan "span.a" r.registry r.settings.maxTagValues = .ok plan :=
    ⟨_, rfl⟩
  obtain ⟨-, -, answered⟩ :=
    values_rank_counted_rows r .scripted none .standard "span.a" (s rows)
  obtain ⟨-, returned, stable⟩ := answered plan built
  have counted : rows.filterMap Row.counted? =
      [⟨.text "b", 1⟩, ⟨.integer 7, 2⟩, ⟨.text "a", 1⟩] := by decide +kernel
  have ranks : values.Ranks rows := by
    refine ⟨?_, by decide +kernel, fun n => ?_⟩
    · rw [counted]
      decide +kernel
    · rw [counted]
      rcases eq_or_ne 1 n with rfl | one
      · decide +kernel
      rcases eq_or_ne 2 n with rfl | two
      · decide +kernel
      simp [values, one, two]
  have whole := (returned values).2 ⟨rfl, rfl, ranks⟩
  refine ⟨whole, (stable values whole).2 .scripted none (s ties) rfl rfl (.inl ?_)⟩
  exact .keep _ (.drop rfl (.keep _ (.drop rfl (.keep _ .nil))))

end SpanReader

end TraceQuery
