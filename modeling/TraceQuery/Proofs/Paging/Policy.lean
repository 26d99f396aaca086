import TraceQuery.Proofs.Paging.Skipped

/-!
The two rules on when a page has a token. A page with fewer rows than it may have is the last one
under one rule; under the other it is followed by a page without spans, and by no more.
-/

set_option autoImplicit false
namespace TraceQuery

namespace Pager

variable {α : Type} (p : Pager α)

def eager : Pager α := { p with offers := fun _ => true }

def thrifty : Pager α := { p with offers := fun fetched => p.size ≤ fetched }

variable {p} {rows : List α}

theorem next?_thrifty_of_full (full : p.size ≤ (p.part rows).length) :
    p.thrifty.next? rows = p.eager.next? rows := by
  have offered : p.thrifty.offers (p.thrifty.part rows).length = true := decide_eq_true full
  rw [next?, if_pos offered]
  rfl

theorem next?_thrifty_of_short (short : (p.part rows).length < p.size) :
    p.thrifty.next? rows = none := by
  have refused : p.thrifty.offers (p.thrifty.part rows).length = false :=
    decide_eq_false (Nat.not_le.2 short)
  simp [next?, refused]

theorem next?_thrifty_of_none (last : p.eager.next? rows = none) : p.thrifty.next? rows = none := by
  rcases Nat.lt_or_ge (p.part rows).length p.size with short | full
  · exact next?_thrifty_of_short short
  · rw [next?_thrifty_of_full full, last]

theorem mark?_eq_none_of_bad (bad : ∀ row ∈ rows, p.good row = false) : p.mark? rows = none := by
  rw [mark?, List.getLast?_eq_none_iff, List.filter_eq_nil_iff]
  intro row member
  simp [bad row (List.mem_of_mem_take member)]

theorem walk_of_bad (bad : ∀ row ∈ rows, p.good row = false) : p.walk rows = [p.part rows] := by
  apply p.walk_of_none
  simp [next?, mark?_eq_none_of_bad bad]

theorem bad_beyond_of_short {mark : α}
    (order : rows.Pairwise fun x y => ¬p.direction.Past (p.key x) (p.key y))
    (short : (p.part rows).length < p.size) (marked : p.mark? rows = some mark) :
    ∀ row ∈ p.beyond mark rows, p.good row = false := by
  obtain ⟨front, back, split, -, bad⟩ := exists_append_of_mark? marked
  have whole : p.part rows = rows := by
    rw [part, List.length_take] at short
    exact List.take_of_length_le (by omega)
  rw [whole] at split
  subst split
  intro row member
  obtain ⟨among, past⟩ := p.mem_beyond_iff.1 member
  obtain ⟨-, -, across⟩ := List.pairwise_append.1 order
  -- Nothing up to the mark is past it, and nothing behind it in the part is good.
  rcases List.mem_append.1 among with before | behind
  · exact absurd past (across row before mark List.mem_cons_self)
  rcases List.mem_cons.1 behind with rfl | after
  · exact absurd past SortDirection.Past.irrefl
  · simpa using List.filter_eq_nil_iff.1 bad row after

-- Both walks take the same parts up to a short one, which only the eager walk leaves once more.
/-- The eager walk is the thrifty one, or has one part more and nothing good in it. -/
theorem walk_eager (order : rows.Pairwise fun x y => ¬p.direction.Past (p.key x) (p.key y)) :
    p.eager.walk rows = p.thrifty.walk rows ∨
      ∃ extra, p.eager.walk rows = p.thrifty.walk rows ++ [extra] ∧
        ∀ row ∈ extra, p.good row = false := by
  induction rows using walk.induct p.eager with
  | case1 rows last =>
    left
    rw [p.eager.walk_of_none last, p.thrifty.walk_of_none (next?_thrifty_of_none last)]
    rfl
  | case2 rows rest next ih =>
    obtain ⟨-, mark, marked, beyond⟩ := p.eager.next?_eq_some_iff.1 next
    rw [p.eager.walk_of_some next]
    rcases Nat.lt_or_ge (p.part rows).length p.size with short | full
    · have bad : ∀ row ∈ rest, p.good row = false := by
        rw [← beyond]
        exact bad_beyond_of_short order short marked
      right
      refine ⟨p.part rest, ?_, fun row member => bad row (List.mem_of_mem_take member)⟩
      rw [p.thrifty.walk_of_none (next?_thrifty_of_short short),
        walk_of_bad (p := p.eager) bad]
      rfl
    · have follows : p.thrifty.next? rows = some rest := by rw [next?_thrifty_of_full full, next]
      have fewer : rest.Sublist rows := by
        rw [← beyond]
        exact p.eager.beyond_sublist mark rows
      rw [p.thrifty.walk_of_some follows]
      rcases ih (order.sublist fewer) with same | ⟨extra, more, bad⟩
      · left
        rw [same]
        rfl
      · right
        refine ⟨extra, ?_, bad⟩
        rw [more]
        rfl

end Pager

namespace SpanReader

variable {σ : Type} {executor : Executor σ} {e : Engine} {rows : σ → List Row}
  {request : SearchRequest} {first plan : SearchPlan} {s : Session σ}

def withPolicy (r : SpanReader) (policy : CursorPolicy) : SpanReader :=
  { r with settings := { r.settings with cursorPolicy := policy } }

theorem Steady.withPolicy {r : SpanReader} (steady : r.Steady executor e rows request first s)
    (policy : CursorPolicy) : (r.withPolicy policy).Steady executor e rows request first s :=
  ⟨steady.fresh, steady.built, steady.served, ⟨steady.ready.active, steady.ready.timed⟩,
    steady.keyed⟩

theorem successes_of_bad {r : SpanReader} {part : List Row}
    (bad : ∀ row ∈ part, (r.pager plan).good row = false) : successes Span.ofRow part = [] := by
  rw [← successes_filter_good r plan, List.filter_eq_nil_iff.2 (by simpa using bad)]
  rfl

theorem Steady.exists_rest {r : SpanReader}
    (steady : r.Steady executor e rows { request with nextToken := none } first s)
    (built : r.plan request = .ok plan) :
    ∃ rest, rest.Sublist (first.select.ordered e (rows s.store)) ∧
      ∀ policy pages, (r.withPolicy policy).Traversal executor request s pages ↔
        pages = (((r.withPolicy policy).pager first).walk rest).map
          ((r.withPolicy policy).page first) := by
  obtain ⟨filters, timeframe, sort, token, limit⟩ := request
  cases token with
  | none =>
    exact ⟨_, List.Sublist.refl _, fun policy pages => (steady.withPolicy policy).traversal_iff⟩
  | some token =>
    obtain ⟨b, bounded, -⟩ := plan_eq_ok_iff.1 built
    cases boundary : token.boundary? with
    | none => simp [SpanReader.boundary, boundary] at bounded
    | some b =>
      refine ⟨(first.select.ordered e (rows s.store)).filter fun row =>
        first.direction.Past (row.key first.sort.column) b.toInt, List.filter_sublist, ?_⟩
      intro policy pages
      have moved := steady.withPolicy policy
      exact (Stage.of_boundary moved.fresh moved.built moved.keyed boundary).traversal_iff moved

/--
A search from any page on returns the same spans under both rules on tokens, over a store that does
not change. Where every page with a span has a token, the traversal is as long as under the other
rule, or longer by a last page without spans.
-/
theorem policies_show_same_spans (r : SpanReader) (executor : Executor σ) (e : Engine)
    (rows : σ → List Row) (request : SearchRequest) (first plan : SearchPlan) (s : Session σ)
    (steady : r.Steady executor e rows { request with nextToken := none } first s)
    (built : r.plan request = .ok plan) :
    (∀ policy, ∃ pages, (r.withPolicy policy).Traversal executor request s pages) ∧
      ∀ full any, (r.withPolicy .fullPage).Traversal executor request s full →
        (r.withPolicy .anyRows).Traversal executor request s any →
          full.flatMap (·.spans) = any.flatMap (·.spans) ∧
          (any.length = full.length ∨
            any.length = full.length + 1 ∧
              ∃ extra, any.getLast? = some extra ∧ extra.spans = []) := by
  obtain ⟨rest, fewer, pages⟩ := steady.exists_rest built
  refine ⟨fun policy => ⟨_, (pages policy _).2 rfl⟩, ?_⟩
  intro full any short long
  have order := (pairwise_key_ordered steady.keyed).sublist fewer
  have shown (policy : CursorPolicy) (parts : List (List Row)) :
      (parts.map ((r.withPolicy policy).page first)).flatMap (·.spans) =
        parts.flatMap (successes Span.ofRow) := List.flatMap_map ..
  rw [(pages _ _).1 short, (pages _ _).1 long, shown, shown]
  have fullParts : (r.withPolicy .fullPage).pager first = (r.pager first).thrifty := rfl
  have anyParts : (r.withPolicy .anyRows).pager first = (r.pager first).eager := rfl
  rw [fullParts, anyParts]
  rcases Pager.walk_eager (p := r.pager first) order with same | ⟨extra, more, bad⟩
  · rw [same]
    exact ⟨rfl, .inl (by simp)⟩
  · have nothing : successes Span.ofRow extra = [] := successes_of_bad bad
    rw [more]
    refine ⟨by simp [nothing], .inr ⟨by simp, ?_⟩⟩
    exact ⟨(r.withPolicy .anyRows).page first extra, by simp, nothing⟩

/-- The last row of a page that is not full is no span, and only one rule asks for it again. -/
theorem policies_show_same_spans_skipped :
    let r : SpanReader := ⟨.empty, .standard⟩
    let request : SearchRequest := ⟨[], none, none, some ⟨"101"⟩, some 3⟩
    let first : SearchPlan := ⟨[], .startTime, .descending, 3⟩
    let stored := [Row.timed "a" 100 5, Row.timed "b" 99 (-1), Row.timed "c" 200 1]
    let s : Session (List Row) := .start stored .fresh 0
    r.Steady (.plain first) .plain id { request with nextToken := none } first s ∧
      r.plan request = .ok (first.from 101) ∧
      (∀ policy, ∃ pages, (r.withPolicy policy).Traversal (.plain first) request s pages) ∧
      ∀ full any, (r.withPolicy .fullPage).Traversal (.plain first) request s full →
        (r.withPolicy .anyRows).Traversal (.plain first) request s any →
          full.flatMap (·.spans) = any.flatMap (·.spans) := by
  intro r request first stored s
  have sorted : first.select.ordered .plain stored =
      [Row.timed "c" 200 1, Row.timed "a" 100 5, Row.timed "b" 99 (-1)] := rfl
  have keyed : Row.Keyed first.sort.column (first.select.ordered .plain stored) := by
    simp [Row.Keyed, sorted, first, Row.value_timed]
  have steady : r.Steady (.plain first) .plain id { request with nextToken := none } first s :=
    .plain rfl rfl rfl ⟨rfl, by decide⟩ keyed
  have built : r.plan request = .ok (first.from 101) := rfl
  have shown := policies_show_same_spans r (.plain first) .plain id request first _ s steady built
  refine ⟨steady, built, shown.1, ?_⟩
  intro full any short long
  exact (shown.2 full any short long).1

end SpanReader

end TraceQuery
