import TraceQuery.Proofs.Paging.Traversal

/-!
What a traversal shows when some matching rows are no spans. Such rows are left out of their pages
and nothing else is, up to a page that has no span: it carries no token, and the traversal ends.
-/

set_option autoImplicit false
namespace TraceQuery

namespace Pager

variable {α : Type} (p : Pager α)

/-- The list begins with so many bad elements that they fill a part. -/
def isBarren (rows : List α) : Bool :=
  p.size ≤ rows.length && (p.part rows).all fun row => !p.good row

def beforeBarren : List α → List α
  | [] => []
  | row :: rest => if p.isBarren (row :: rest) then [] else row :: beforeBarren rest

/-- Bad elements that fill a part stand in a row before a good one. -/
def Hides (rows : List α) : Prop :=
  ∃ front run back, rows = front ++ run ++ back ∧ run.length = p.size ∧
    (∀ row ∈ run, p.good row = false) ∧ ∃ row ∈ back, p.good row

variable {p} {rows : List α}

theorem isBarren_iff :
    p.isBarren rows ↔ p.size ≤ rows.length ∧ ∀ row ∈ p.part rows, p.good row = false := by
  simp [isBarren]

theorem beforeBarren_isPrefix (rows : List α) : p.beforeBarren rows <+: rows := by
  induction rows with
  | nil => exact List.prefix_refl _
  | cons row rest ih =>
    rw [beforeBarren]
    split
    · exact List.nil_prefix
    · exact (List.prefix_cons_inj row).2 ih

theorem beforeBarren_of_short (short : rows.length < p.size) : p.beforeBarren rows = rows := by
  induction rows with
  | nil => rfl
  | cons row rest ih =>
    have fruitful : ¬p.isBarren (row :: rest) := by
      rw [isBarren_iff]
      omega
    rw [beforeBarren, if_neg fruitful, ih (by rw [List.length_cons] at short; omega)]

theorem not_isBarren (front rest : List α) {mark : α} (short : front.length < p.size)
    (good : p.good mark) : ¬p.isBarren (front ++ mark :: rest) := by
  rw [isBarren_iff]
  rintro ⟨-, bad⟩
  have inside : mark ∈ p.part (front ++ mark :: rest) := by
    apply List.mem_take_iff_getElem.2
    refine ⟨front.length, ?_, by simp⟩
    rw [List.length_append, List.length_cons]
    omega
  simp [bad mark inside] at good

theorem beforeBarren_append {front rest : List α} {mark : α} (short : front.length < p.size)
    (good : p.good mark) :
    p.beforeBarren (front ++ mark :: rest) = front ++ mark :: p.beforeBarren rest := by
  induction front with
  | nil =>
    have fruitful : ¬p.isBarren (mark :: rest) := not_isBarren [] rest short good
    rw [List.nil_append, beforeBarren, if_neg fruitful, List.nil_append]
  | cons row front ih =>
    -- Counted from any element before it, the mark comes too early for a barren part.
    have fruitful := not_isBarren (row :: front) rest short good
    rw [List.length_cons] at short
    rw [List.cons_append] at fruitful ⊢
    rw [beforeBarren, if_neg fruitful, ih (by omega), List.cons_append]

theorem exists_append_of_mark? {mark : α} (marked : p.mark? rows = some mark) :
    ∃ front back, p.part rows = front ++ mark :: back ∧ p.good mark ∧ back.filter p.good = [] := by
  obtain ⟨earlier, shown⟩ := List.getLast?_eq_some_iff.1 marked
  obtain ⟨front, others, split, -, last⟩ := List.filter_eq_append_iff.1 shown
  obtain ⟨between, back, rfl, -, good, bad⟩ := List.filter_eq_cons_iff.1 last
  exact ⟨front ++ between, back, by rw [split, List.append_assoc], good, bad⟩

theorem beyond_of_pairwise {front rest : List α} {mark : α}
    (order : (front ++ mark :: rest).Pairwise fun x y => p.direction.Past (p.key y) (p.key x)) :
    p.beyond mark (front ++ mark :: rest) = rest := by
  obtain ⟨-, behind, across⟩ := List.pairwise_append.1 order
  obtain ⟨past, -⟩ := List.pairwise_cons.1 behind
  -- What stands before the mark would be past itself.
  have before : p.beyond mark front = [] := by
    apply List.eq_nil_iff_forall_not_mem.2
    intro row kept
    obtain ⟨member, further⟩ := p.mem_beyond_iff.1 kept
    have back := across row member mark List.mem_cons_self
    exact SortDirection.Past.irrefl (back.trans further)
  have after : p.beyond mark rest = rest := by
    apply List.filter_eq_self.2
    intro row member
    exact decide_eq_true (past row member)
  have self : p.beyond mark [mark] = [] := by simp [beyond, SortDirection.Past.irrefl]
  have split : mark :: rest = [mark] ++ rest := rfl
  rw [beyond_append, before, split, beyond_append, self, after]
  rfl

theorem filter_flatten_walk (full : ∀ n, p.size ≤ n → p.offers n)
    (order : rows.Pairwise fun x y => p.direction.Past (p.key y) (p.key x)) :
    (p.walk rows).flatten.filter p.good = (p.beforeBarren rows).filter p.good := by
  induction rows using walk.induct p with
  | case1 rows last =>
    rw [p.walk_of_none last, List.flatten_singleton]
    by_cases short : rows.length < p.size
    · rw [beforeBarren_of_short short, part, List.take_of_length_le (Nat.le_of_lt short)]
    -- A full part is offered a successor, so what it lacks is a good element.
    · have unmarked := p.mark?_eq_none_of_full full (Nat.not_lt.1 short) last
      have bad : (p.part rows).filter p.good = [] := List.getLast?_eq_none_iff.1 unmarked
      have barren : p.isBarren rows := by
        rw [isBarren_iff]
        refine ⟨by omega, ?_⟩
        intro row member
        simpa using List.filter_eq_nil_iff.1 bad row member
      rw [bad]
      cases rows with
      | nil => rfl
      | cons row rest => rw [beforeBarren, if_pos barren, List.filter_nil]
  | case2 rows rest next ih =>
    obtain ⟨-, mark, marked, rfl⟩ := p.next?_eq_some_iff.1 next
    -- Behind the mark the part has bad elements only, which the rest begins with once more.
    obtain ⟨front, back, split, good, bad⟩ := exists_append_of_mark? marked
    have whole : rows = front ++ mark :: (back ++ rows.drop p.size) := by
      conv_lhs => rw [← List.take_append_drop p.size rows, ← part, split]
      rw [List.append_assoc, List.cons_append]
    have short : front.length < p.size := by
      have bound : (p.part rows).length ≤ p.size := List.length_take_le _ _
      rw [split, List.length_append, List.length_cons] at bound
      omega
    have rest : p.beyond mark rows = back ++ rows.drop p.size := by
      rw [whole] at order
      conv_lhs => rw [whole]
      exact beyond_of_pairwise order
    have later := ih (order.sublist (p.beyond_sublist mark rows))
    rw [p.walk_of_some next, List.flatten_cons, List.filter_append, later, rest, split]
    conv_rhs => rw [whole, beforeBarren_append short good]
    simp [List.filter_append, good, bad]

theorem hides_of_isBarren (barren : p.isBarren rows) : p.Hides rows ↔ ∃ row ∈ rows, p.good row := by
  obtain ⟨size, bad⟩ := isBarren_iff.1 barren
  constructor
  · rintro ⟨front, run, back, rfl, -, -, row, member, good⟩
    exact ⟨row, List.mem_append_right _ member, good⟩
  · rintro ⟨row, member, good⟩
    refine ⟨[], p.part rows, rows.drop p.size, (List.take_append_drop _ _).symm, ?_, bad, row, ?_,
      good⟩
    · rw [part, List.length_take]
      omega
    · rw [← List.take_append_drop p.size rows, List.mem_append] at member
      refine member.resolve_left ?_
      intro inside
      simp [bad row inside] at good

theorem hides_cons_iff {row : α} (fruitful : ¬p.isBarren (row :: rows)) :
    p.Hides (row :: rows) ↔ p.Hides rows := by
  constructor
  · rintro ⟨front, run, back, split, length, bad, behind⟩
    cases front with
    | nil =>
      refine absurd (isBarren_iff.2 ?_) fruitful
      rw [split, List.nil_append, part, ← length, List.take_left, List.length_append]
      exact ⟨Nat.le_add_right _ _, bad⟩
    | cons first front =>
      cases split
      exact ⟨front, run, back, rfl, length, bad, behind⟩
  · rintro ⟨front, run, back, rfl, rest⟩
    exact ⟨row :: front, run, back, rfl, rest⟩

theorem filter_beforeBarren_eq_iff :
    (p.beforeBarren rows).filter p.good = rows.filter p.good ↔ ¬p.Hides rows := by
  induction rows with
  | nil =>
    refine ⟨fun _ => ?_, fun _ => rfl⟩
    rintro ⟨front, run, back, split, -, -, row, member, -⟩
    rw [(List.append_eq_nil_iff.1 split.symm).2] at member
    exact List.not_mem_nil member
  | cons row rest ih =>
    by_cases barren : p.isBarren (row :: rest)
    · rw [beforeBarren, if_pos barren, hides_of_isBarren barren, List.filter_nil, eq_comm,
        List.filter_eq_nil_iff]
      simp
    · rw [beforeBarren, if_neg barren, hides_cons_iff barren, ← ih]
      cases good : p.good row <;> simp [good]

end Pager

namespace SpanReader

variable {σ : Type}

theorem successes_filter_good (r : SpanReader) (plan : SearchPlan) (rows : List Row) :
    successes Span.ofRow (rows.filter (r.pager plan).good) = successes Span.ofRow rows := by
  induction rows with
  | nil => rfl
  | cons row rest ih =>
    cases read : (Span.ofRow row).toOption <;>
      simp [successes, pager, read] at ih ⊢ <;> exact ih

theorem successes_beforeBarren_eq_iff {r : SpanReader} {plan : SearchPlan} {rows : List Row} :
    successes Span.ofRow ((r.pager plan).beforeBarren rows) = successes Span.ofRow rows ↔
      ¬(r.pager plan).Hides rows := by
  rw [← Pager.filter_beforeBarren_eq_iff]
  constructor
  -- What lies behind the beginning adds no span, so no row of it is one.
  · intro same
    obtain ⟨behind, split⟩ := (r.pager plan).beforeBarren_isPrefix rows
    have nothing : successes Span.ofRow behind = [] := by
      conv_rhs at same => rw [← split, successes, List.filterMap_append]
      exact List.self_eq_append_right.1 same
    have bad : behind.filter (r.pager plan).good = [] := by
      apply List.filter_eq_nil_iff.2
      intro row member good
      obtain ⟨span, read⟩ := Option.isSome_iff_exists.1 good
      have shown := mem_successes.2 ⟨row, member, toOption_eq_some_iff.1 read⟩
      rw [nothing] at shown
      exact List.not_mem_nil shown
    conv_rhs => rw [← split, List.filter_append, bad, List.append_nil]
  · intro same
    rw [← successes_filter_good r plan, same, successes_filter_good]

theorem pairwise_past_ordered {plan : SearchPlan} {e : Engine} {stored : List Row}
    (keyed : Row.Keyed plan.sort.column (plan.select.ordered e stored))
    (distinct : ((plan.select.ordered e stored).map (Row.key plan.sort.column)).Nodup) :
    (plan.select.ordered e stored).Pairwise fun x y =>
      plan.direction.Past (y.key plan.sort.column) (x.key plan.sort.column) := by
  apply ((pairwise_key_ordered keyed).and (List.pairwise_map.1 distinct)).imp
  rintro x y ⟨before, other⟩
  exact SortDirection.past_of_ne before other

/--
Over rows with different sort values, a traversal returns spans in order and each of them once. It
returns all of them unless rows that are no spans fill a page and hide one; where every page with a
span has a token, it returns those before such a page.
-/
theorem traversal_stops_at_barren (r : SpanReader) (executor : Executor σ) (e : Engine)
    (rows : σ → List Row) (request : SearchRequest) (plan : SearchPlan) (s : Session σ)
    (steady : r.Steady executor e rows request plan s)
    (distinct : ((plan.select.ordered e (rows s.store)).map (Row.key plan.sort.column)).Nodup) :
    let sorted := plan.select.ordered e (rows s.store)
    (∃ pages, r.Traversal executor request s pages) ∧
      ∀ pages, r.Traversal executor request s pages →
        pages.flatMap (·.spans) <+: successes Span.ofRow sorted ∧
        (¬(r.pager plan).Hides sorted →
          pages.flatMap (·.spans) = successes Span.ofRow sorted) ∧
        (r.settings.cursorPolicy = .anyRows →
          pages.flatMap (·.spans) = successes Span.ofRow ((r.pager plan).beforeBarren sorted) ∧
          ((r.pager plan).Hides sorted →
            pages.flatMap (·.spans) ≠ successes Span.ofRow sorted)) := by
  intro sorted
  refine ⟨steady.exists_traversal, ?_⟩
  intro pages traversal
  have order := pairwise_past_ordered steady.keyed distinct
  have shown : pages.flatMap (·.spans) =
      successes Span.ofRow ((r.pager plan).beforeBarren sorted) := by
    have flat : pages.flatMap (·.spans) =
        successes Span.ofRow ((r.pager plan).walk sorted).flatten := by
      rw [steady.traversal_iff.1 traversal, List.flatMap_map, successes,
        List.filterMap_flatten]
      rfl
    rw [flat, ← successes_filter_good r plan, Pager.filter_flatten_walk (r.pager_full plan) order,
      successes_filter_good]
  rw [shown]
  refine ⟨?_, successes_beforeBarren_eq_iff.2, fun _ => ⟨rfl, ?_⟩⟩
  · exact ((r.pager plan).beforeBarren_isPrefix sorted).filterMap _
  · exact fun hides same => successes_beforeBarren_eq_iff.1 same hides

/-- A row that is no span stands between two that are, on pages of two rows. -/
theorem traversal_stops_at_barren_between :
    let r : SpanReader := ⟨.empty, .standard⟩
    let request : SearchRequest := ⟨[], none, none, none, some 2⟩
    let plan : SearchPlan := ⟨[], .startTime, .descending, 2⟩
    let stored := [Row.timed "a" 100 5, Row.timed "b" 99 (-1), Row.timed "c" 98 1]
    let s : Session (List Row) := .start stored .fresh 0
    r.Steady (.plain plan) .plain id request plan s ∧
      ((plan.select.ordered .plain stored).map (Row.key plan.sort.column)).Nodup ∧
      (∃ pages, r.Traversal (.plain plan) request s pages) ∧
      ∀ pages, r.Traversal (.plain plan) request s pages →
        pages.flatMap (·.spans) = successes Span.ofRow (plan.select.ordered .plain stored) := by
  intro r request plan stored s
  have sorted : plan.select.ordered .plain stored = stored := rfl
  have keyed : Row.Keyed plan.sort.column (plan.select.ordered .plain stored) := by
    simp [Row.Keyed, sorted, stored, plan, Row.value_timed]
  have steady : r.Steady (.plain plan) .plain id request plan s :=
    .plain rfl rfl rfl ⟨rfl, by decide⟩ keyed
  have keys : (plan.select.ordered .plain stored).map (Row.key plan.sort.column) = [100, 99, 98] :=
    rfl
  have distinct : ((plan.select.ordered .plain stored).map (Row.key plan.sort.column)).Nodup := by
    rw [keys]
    decide
  have shown := traversal_stops_at_barren r (.plain plan) .plain id request plan s steady distinct
  refine ⟨steady, distinct, shown.1, ?_⟩
  intro pages traversal
  exact ((shown.2 pages traversal).2.2 rfl).1.trans rfl

/-- The only row of the first page is no span, and the span behind it is never returned. -/
theorem barren_page_hides_span :
    let r : SpanReader := ⟨.empty, .standard⟩
    let request : SearchRequest := ⟨[], none, none, none, some 1⟩
    let plan : SearchPlan := ⟨[], .startTime, .descending, 1⟩
    let stored := [Row.timed "a" 100 (-1), Row.timed "b" 99 1]
    let s : Session (List Row) := .start stored .fresh 0
    r.Steady (.plain plan) .plain id request plan s ∧
      ((plan.select.ordered .plain stored).map (Row.key plan.sort.column)).Nodup ∧
      (∃ pages, r.Traversal (.plain plan) request s pages) ∧
      ∃ row ∈ plan.select.ordered .plain stored, ∃ span, Span.ofRow row = .ok span ∧
        ∀ pages, r.Traversal (.plain plan) request s pages → span ∉ pages.flatMap (·.spans) := by
  intro r request plan stored s
  have sorted : plan.select.ordered .plain stored = stored := rfl
  have keyed : Row.Keyed plan.sort.column (plan.select.ordered .plain stored) := by
    simp [Row.Keyed, sorted, stored, plan, Row.value_timed]
  have steady : r.Steady (.plain plan) .plain id request plan s :=
    .plain rfl rfl rfl ⟨rfl, by decide⟩ keyed
  have keys : (plan.select.ordered .plain stored).map (Row.key plan.sort.column) = [100, 99] := rfl
  have distinct : ((plan.select.ordered .plain stored).map (Row.key plan.sort.column)).Nodup := by
    rw [keys]
    decide
  have last : (r.pager plan).next? (plan.select.ordered .plain stored) = none := rfl
  have parts : (r.pager plan).walk (plan.select.ordered .plain (id s.store)) =
      [[Row.timed "a" 100 (-1)]] := Pager.walk_of_none _ last
  have only : ∀ pages, r.Traversal (.plain plan) request s pages ↔
      pages = [r.page plan [Row.timed "a" 100 (-1)]] := by
    intro pages
    rw [steady.traversal_iff, parts]
    rfl
  refine ⟨steady, distinct, ⟨_, (only _).2 rfl⟩, Row.timed "b" 99 1, ?_, _, rfl, ?_⟩
  · rw [sorted]
    exact .tail _ (.head _)
  · intro pages traversal
    rw [(only pages).1 traversal]
    exact List.not_mem_nil

end SpanReader

end TraceQuery
