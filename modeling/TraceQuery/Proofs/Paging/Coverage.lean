import Mathlib.Data.List.Enum
import Mathlib.Data.List.Forall2
import TraceQuery.Proofs.Paging.Traversal

/-!
What a traversal shows when every matching row is a span: all rows in order, except for those that
tie with the last row of a page and stand behind it.
-/

set_option autoImplicit false
namespace TraceQuery

namespace Pager

variable {α : Type} (p : Pager α) (place : α → Nat)

def InOrder (rows : List α) : Prop :=
  rows.Pairwise fun x y => place x < place y ∧ ¬p.direction.Past (p.key x) (p.key y)

/-- The element ties with the last one of some part, and stands behind it. -/
def Cut (parts : List (List α)) (row : α) : Prop :=
  ∃ part ∈ parts, ∃ last, part.getLast? = some last ∧ p.key row = p.key last ∧
    place last < place row

variable {p place} {rows : List α}

theorem InOrder.of_getLast? {part : List α} {last row : α} (order : p.InOrder place part)
    (found : part.getLast? = some last) (member : row ∈ part) :
    place row ≤ place last ∧ ¬p.direction.Past (p.key row) (p.key last) := by
  obtain ⟨front, rfl⟩ := List.getLast?_eq_some_iff.1 found
  rcases List.mem_append.1 member with member | member
  · have both := (List.pairwise_append.1 order).2.2 row member last List.mem_cons_self
    exact ⟨Nat.le_of_lt both.1, both.2⟩
  · rw [List.mem_singleton.1 member]
    exact ⟨Nat.le_refl _, SortDirection.Past.irrefl⟩

theorem InOrder.take (order : p.InOrder place rows) : p.InOrder place (p.part rows) :=
  order.sublist (List.take_sublist _ _)

theorem InOrder.of_mem_drop {last row : α} (order : p.InOrder place rows)
    (found : last ∈ p.part rows) (member : row ∈ rows.drop p.size) :
    place last < place row ∧ ¬p.direction.Past (p.key last) (p.key row) := by
  rw [InOrder, ← List.take_append_drop p.size rows] at order
  exact (List.pairwise_append.1 order).2.2 last found row member

theorem InOrder.beyond_eq {mark : α} (order : p.InOrder place rows)
    (found : (p.part rows).getLast? = some mark) :
    p.beyond mark rows = p.beyond mark (rows.drop p.size) := by
  have nothing : p.beyond mark (p.part rows) = [] := by
    apply List.eq_nil_iff_forall_not_mem.2
    intro row member
    obtain ⟨inPart, past⟩ := p.mem_beyond_iff.1 member
    exact (order.take.of_getLast? found inPart).2 past
  have split := p.beyond_append mark (p.part rows) (rows.drop p.size)
  rwa [nothing, List.nil_append, part, List.take_append_drop] at split

theorem filter_part (good : ∀ row ∈ rows, p.good row) :
    (p.part rows).filter p.good = p.part rows := by
  apply List.filter_eq_self.2
  intro row member
  exact good row (List.mem_of_mem_take member)

theorem part_of_next?_eq_none (positive : 0 < p.size) (full : ∀ n, p.size ≤ n → p.offers n)
    (good : ∀ row ∈ rows, p.good row) (last : p.next? rows = none) : p.part rows = rows := by
  by_cases short : rows.length < p.size
  · exact List.take_of_length_le (Nat.le_of_lt short)
  · have unmarked := p.mark?_eq_none_of_full full (Nat.not_lt.1 short) last
    rw [mark?, filter_part good, List.getLast?_eq_none_iff, part, List.take_eq_nil_iff] at unmarked
    have empty : rows = [] := unmarked.resolve_left (Nat.ne_of_gt positive)
    rw [empty, part, List.take_nil]

theorem getLast?_of_next?_eq_some {rest : List α} (good : ∀ row ∈ rows, p.good row)
    (next : p.next? rows = some rest) :
    ∃ mark, (p.part rows).getLast? = some mark ∧ p.beyond mark rows = rest := by
  obtain ⟨-, mark, marked, beyond⟩ := p.next?_eq_some_iff.1 next
  rw [mark?, filter_part good] at marked
  exact ⟨mark, marked, beyond⟩

theorem flatten_walk_subset (rows : List α) : (p.walk rows).flatten ⊆ rows := by
  induction rows using walk.induct p with
  | case1 rows last =>
    rw [p.walk_of_none last, List.flatten_singleton]
    exact List.take_subset _ _
  | case2 rows rest next ih =>
    obtain ⟨-, mark, -, rfl⟩ := p.next?_eq_some_iff.1 next
    rw [p.walk_of_some next, List.flatten_cons, List.append_subset]
    exact ⟨List.take_subset _ _, List.Subset.trans ih (p.beyond_sublist mark rows).subset⟩

theorem InOrder.not_cut {mark row : α} (order : p.InOrder place rows)
    (found : (p.part rows).getLast? = some mark) (member : row ∈ p.part rows) :
    ¬p.Cut place (p.part rows :: p.walk (p.beyond mark rows)) row := by
  obtain ⟨before, notPast⟩ := order.take.of_getLast? found member
  rintro ⟨part, among, last, lastFound, tie, after⟩
  rcases List.mem_cons.1 among with rfl | among
  · rw [found] at lastFound
    cases lastFound
    omega
  -- A later part is past the mark, and what ties with its last element would be past it too.
  · have later : last ∈ p.beyond mark rows := by
      apply flatten_walk_subset
      exact List.mem_flatten.2 ⟨part, among, List.mem_of_getLast? lastFound⟩
    have past := (p.mem_beyond_iff.1 later).2
    rw [← tie] at past
    exact notPast past

theorem cut_cons_iff_of_past {part : List α} {parts : List (List α)} {mark row : α}
    (found : part.getLast? = some mark) (past : p.direction.Past (p.key row) (p.key mark)) :
    p.Cut place (part :: parts) row ↔ p.Cut place parts row := by
  constructor
  · rintro ⟨part, among, last, lastFound, tie, after⟩
    rcases List.mem_cons.1 among with rfl | among
    · rw [found] at lastFound
      cases lastFound
      rw [tie] at past
      exact absurd past SortDirection.Past.irrefl
    · exact ⟨part, among, last, lastFound, tie, after⟩
  · rintro ⟨part, among, rest⟩
    exact ⟨part, .tail _ among, rest⟩

/-- A walk over good elements in order leaves out those that are cut off, and shows the others in
their order. -/
theorem walk_covers (positive : 0 < p.size) (full : ∀ n, p.size ≤ n → p.offers n)
    (good : ∀ row ∈ rows, p.good row) (order : p.InOrder place rows) :
    (p.walk rows).flatten.Sublist rows ∧
      ∀ row ∈ rows, row ∉ (p.walk rows).flatten ↔ p.Cut place (p.walk rows) row := by
  induction rows using walk.induct p with
  | case1 rows last =>
    have whole := part_of_next?_eq_none positive full good last
    rw [p.walk_of_none last, whole, List.flatten_singleton]
    refine ⟨List.Sublist.refl _, ?_⟩
    intro row member
    refine ⟨fun missing => absurd member missing, ?_⟩
    rintro ⟨part, only, final, found, -, behind⟩
    rw [List.mem_singleton.1 only] at found
    exact absurd (order.of_getLast? found member).1 (Nat.not_le.2 behind)
  | case2 rows rest next ih =>
    obtain ⟨mark, found, rfl⟩ := getLast?_of_next?_eq_some good next
    have fewer := p.beyond_sublist mark rows
    obtain ⟨sublist, covered⟩ := ih (fun row member => good row (fewer.subset member))
      (order.sublist fewer)
    rw [p.walk_of_some next, List.flatten_cons]
    constructor
    · have behind : (p.beyond mark rows).Sublist (rows.drop p.size) := by
        rw [order.beyond_eq found]
        exact p.beyond_sublist _ _
      have both := (List.Sublist.refl (p.part rows)).append (sublist.trans behind)
      rwa [part, List.take_append_drop] at both
    intro row member
    rw [List.mem_append, not_or]
    -- A row is in the part, or past its last row, or ties with that row behind it.
    by_cases inPart : row ∈ p.part rows
    · refine ⟨fun missing => absurd inPart missing.1, ?_⟩
      exact fun cut => absurd cut (order.not_cut found inPart)
    have behind : row ∈ rows.drop p.size := by
      rw [← List.take_append_drop p.size rows, List.mem_append] at member
      exact member.resolve_left inPart
    obtain ⟨after, ordered⟩ := order.of_mem_drop (List.mem_of_getLast? found) behind
    by_cases past : p.direction.Past (p.key row) (p.key mark)
    · have kept : row ∈ p.beyond mark rows := p.mem_beyond_iff.2 ⟨member, past⟩
      rw [cut_cons_iff_of_past found past, ← covered row kept]
      exact ⟨And.right, fun missing => ⟨inPart, missing⟩⟩
    · have tie : p.key row = p.key mark := SortDirection.eq_of_not_past past ordered
      refine ⟨fun _ => ⟨_, .head _, mark, found, tie, after⟩, fun _ => ⟨inPart, ?_⟩⟩
      intro shown
      exact past (p.mem_beyond_iff.1 (flatten_walk_subset _ shown)).2

theorem flatten_walk_of_nodup (positive : 0 < p.size) (full : ∀ n, p.size ≤ n → p.offers n)
    (good : ∀ row ∈ rows, p.good row) (order : p.InOrder place rows)
    (distinct : (rows.map p.key).Nodup) : (p.walk rows).flatten = rows := by
  obtain ⟨sublist, covered⟩ := walk_covers positive full good order
  have nodup : rows.Nodup := distinct.of_map p.key
  have shown : ∀ row ∈ rows, row ∈ (p.walk rows).flatten := by
    intro row member
    by_contra missing
    obtain ⟨part, among, last, found, tie, behind⟩ := (covered row member).1 missing
    have lastMember : last ∈ rows :=
      sublist.subset (List.mem_flatten.2 ⟨part, among, List.mem_of_getLast? found⟩)
    rw [List.inj_on_of_nodup_map distinct member lastMember tie] at behind
    exact Nat.lt_irrefl _ behind
  apply sublist.eq_of_length
  apply List.Perm.length_eq
  exact (List.perm_ext_iff_of_nodup (nodup.sublist sublist) nodup).2 fun row =>
    ⟨fun member => sublist.subset member, shown row⟩

theorem inOrder_zipIdx
    (order : rows.Pairwise fun x y => ¬p.direction.Past (p.key x) (p.key y)) :
    (p.comap Prod.fst).InOrder Prod.snd rows.zipIdx := by
  have places : (rows.zipIdx.map Prod.snd).Pairwise (· < ·) := by
    rw [List.zipIdx_map_snd]
    exact List.pairwise_lt_range'
  have keys : (rows.zipIdx.map Prod.fst).Pairwise fun x y =>
      ¬p.direction.Past (p.key x) (p.key y) := by
    rwa [List.zipIdx_map_fst]
  exact (List.pairwise_map.1 places).and (List.pairwise_map.1 keys)

theorem walk_zipIdx (p : Pager α) (rows : List α) :
    ((p.comap Prod.fst).walk rows.zipIdx).map (List.map Prod.fst) = p.walk rows := by
  have walked := p.walk_comap Prod.fst rows.zipIdx
  rwa [List.zipIdx_map_fst] at walked

theorem good_of_mem_zipIdx (good : ∀ row ∈ rows, p.good row) :
    ∀ entry ∈ rows.zipIdx, (p.comap Prod.fst).good entry :=
  fun entry member => good entry.1 (List.fst_mem_of_mem_zipIdx member)

theorem flatten_walk_of_keys_nodup (positive : 0 < p.size)
    (full : ∀ n, p.size ≤ n → p.offers n) (good : ∀ row ∈ rows, p.good row)
    (order : rows.Pairwise fun x y => ¬p.direction.Past (p.key x) (p.key y))
    (distinct : (rows.map p.key).Nodup) : (p.walk rows).flatten = rows := by
  have keys : rows.zipIdx.map (p.comap Prod.fst).key = rows.map p.key := by
    calc rows.zipIdx.map (p.key ∘ Prod.fst) = (rows.zipIdx.map Prod.fst).map p.key :=
          List.map_map.symm
      _ = rows.map p.key := by rw [List.zipIdx_map_fst]
  rw [← keys] at distinct
  have shown := flatten_walk_of_nodup (p := p.comap Prod.fst) positive full
    (good_of_mem_zipIdx good) (inOrder_zipIdx order) distinct
  rw [← p.walk_zipIdx, ← List.map_flatten, shown, List.zipIdx_map_fst]

end Pager

namespace SpanReader

variable {σ : Type}

theorem pageSize_pos {r : SpanReader} {request : SearchRequest} {plan : SearchPlan}
    (positive : 0 < r.settings.defaultPageSize ∧ 0 < r.settings.maxPageSize)
    (built : r.plan request = .ok plan) : 0 < plan.pageSize := by
  obtain ⟨b, -, planned⟩ := plan_eq_ok_iff.1 built
  exact SearchRequest.pageSize_pos positive planned

theorem forall₂_successes {α : Type} {ofRow : Row → Except RowError α} {rows : List Row}
    (decoded : ∀ row ∈ rows, ∃ a, ofRow row = .ok a) :
    List.Forall₂ (fun row a => ofRow row = .ok a) rows (successes ofRow rows) := by
  induction rows with
  | nil => exact .nil
  | cons row rows ih =>
    obtain ⟨a, read⟩ := decoded row List.mem_cons_self
    have first : successes ofRow (row :: rows) = a :: successes ofRow rows := by
      simp [successes, read, Except.toOption]
    rw [first]
    exact .cons read (ih fun other member => decoded other (.tail _ member))

theorem flatMap_spans (r : SpanReader) (plan : SearchPlan) (parts : List (List Row)) :
    (parts.map (r.page plan)).flatMap (·.spans) = successes Span.ofRow parts.flatten := by
  rw [List.flatMap_map, successes, List.filterMap_flatten]
  rfl

/--
Over rows that are all spans, a traversal ends after at most one search more than there are sort
values. It shows the rows in order, without those that tie with the last row of a page and stand
behind it; so it shows all of them, whatever the page size, where no two sort values are the same.
-/
theorem traversal_covers (r : SpanReader) (executor : Executor σ) (e : Engine)
    (rows : σ → List Row) (request : SearchRequest) (plan : SearchPlan) (s : Session σ)
    (steady : r.Steady executor e rows request plan s)
    (positive : 0 < r.settings.defaultPageSize ∧ 0 < r.settings.maxPageSize)
    (decoded : ∀ row ∈ plan.select.ordered e (rows s.store), ∃ span, Span.ofRow row = .ok span) :
    let sorted := plan.select.ordered e (rows s.store)
    let keys := sorted.map (Row.key plan.sort.column)
    (∃ pages, r.Traversal executor request s pages) ∧
      ∀ pages, r.Traversal executor request s pages →
        pages.length ≤ keys.dedup.length + 1 ∧
        (∃ parts : List (List (Row × Nat)),
          List.Forall₂ (fun part page =>
            List.Forall₂ (fun entry span => Span.ofRow entry.1 = .ok span) part page.spans)
            parts pages ∧
          parts.flatten.Sublist sorted.zipIdx ∧
          ∀ entry ∈ sorted.zipIdx, entry ∉ parts.flatten ↔
            ∃ part ∈ parts, ∃ last, part.getLast? = some last ∧
              entry.1.key plan.sort.column = last.1.key plan.sort.column ∧ last.2 < entry.2) ∧
        (keys.Nodup →
          List.Forall₂ (fun row span => Span.ofRow row = .ok span) sorted
            (pages.flatMap (·.spans))) := by
  intro sorted keys
  have size : 0 < (r.pager plan).size :=
    UInt32.lt_iff_toNat_lt.1 (pageSize_pos positive steady.built)
  have order := pairwise_key_ordered steady.keyed
  have good : ∀ row ∈ sorted, (r.pager plan).good row := by
    intro row member
    obtain ⟨span, read⟩ := decoded row member
    exact Option.isSome_iff_exists.2 ⟨span, toOption_eq_some_iff.2 read⟩
  refine ⟨steady.exists_traversal, ?_⟩
  intro pages traversal
  rw [steady.traversal_iff.1 traversal]
  -- Equal rows may be stored more than once, so the walk is over rows with their places.
  refine ⟨?_, ⟨((r.pager plan).comap Prod.fst).walk sorted.zipIdx, ?_, ?_⟩, ?_⟩
  · rw [List.length_map]
    exact (r.pager plan).length_walk_le sorted
  · rw [← (r.pager plan).walk_zipIdx, List.map_map, List.forall₂_map_right_iff, List.forall₂_same]
    intro part among
    have read : ∀ row ∈ part.map Prod.fst, ∃ span, Span.ofRow row = .ok span := by
      intro row member
      obtain ⟨entry, inPart, rfl⟩ := List.mem_map.1 member
      have inRows := Pager.flatten_walk_subset _ (List.mem_flatten_of_mem among inPart)
      exact decoded entry.1 (List.fst_mem_of_mem_zipIdx inRows)
    exact List.forall₂_map_left_iff.1 (forall₂_successes read)
  · exact Pager.walk_covers size (r.pager_full plan) (Pager.good_of_mem_zipIdx good)
      (Pager.inOrder_zipIdx order)
  · intro distinct
    have shown := Pager.flatten_walk_of_keys_nodup size (r.pager_full plan) good order distinct
    rw [flatMap_spans, shown]
    exact forall₂_successes decoded

/-- Two spans start together, and pages of one span show one of them. -/
theorem traversal_covers_tied :
    let r : SpanReader := ⟨.empty, .standard⟩
    let request : SearchRequest := ⟨[], none, none, none, some 1⟩
    let plan : SearchPlan := ⟨[], .startTime, .descending, 1⟩
    let stored := [Row.timed "a" 100 5, Row.timed "b" 100 3, Row.timed "c" 90 1]
    let s : Session (List Row) := .start stored .fresh 0
    r.Steady (.plain plan) .plain id request plan s ∧
      (0 < r.settings.defaultPageSize ∧ 0 < r.settings.maxPageSize) ∧
      (∀ row ∈ plan.select.ordered .plain stored, ∃ span, Span.ofRow row = .ok span) ∧
      (∃ pages, r.Traversal (.plain plan) request s pages) ∧
      ∀ pages, r.Traversal (.plain plan) request s pages →
        pages.length ≤ 3 ∧ pages.map (·.spans.map (·.spanId)) = [["b"], ["c"], []] := by
  intro r request plan stored s
  have positive : 0 < r.settings.defaultPageSize ∧ 0 < r.settings.maxPageSize := by decide
  have sorted : plan.select.ordered .plain stored =
      [Row.timed "b" 100 3, Row.timed "a" 100 5, Row.timed "c" 90 1] := rfl
  have keyed : Row.Keyed plan.sort.column (plan.select.ordered .plain stored) := by
    simp [Row.Keyed, sorted, plan, Row.value_timed]
  have steady : r.Steady (.plain plan) .plain id request plan s :=
    .plain rfl rfl rfl ⟨rfl, by decide⟩ keyed
  have decoded : ∀ row ∈ plan.select.ordered .plain stored, ∃ span, Span.ofRow row = .ok span := by
    rw [sorted]
    intro row member
    simp only [List.mem_cons, List.not_mem_nil, or_false] at member
    rcases member with rfl | rfl | rfl <;> exact ⟨_, rfl⟩
  obtain ⟨ends, covers⟩ := traversal_covers r (.plain plan) .plain id request plan s steady
    positive decoded
  have two : ((plan.select.ordered .plain stored).map
      (Row.key plan.sort.column)).dedup.length = 2 := by decide +kernel
  refine ⟨steady, positive, decoded, ends, ?_⟩
  intro pages traversal
  have short := (covers pages traversal).1
  refine ⟨Nat.le_trans short (Nat.succ_le_succ (Nat.le_of_eq two)), ?_⟩
  -- What is past "b" leaves "a" out, which starts at the same time.
  have first : (r.pager plan).next? (plan.select.ordered .plain (id s.store)) =
      some [Row.timed "c" 90 1] := rfl
  have second : (r.pager plan).next? [Row.timed "c" 90 1] = some [] := rfl
  have last : (r.pager plan).next? [] = none := rfl
  rw [steady.traversal_iff.1 traversal, Pager.walk_of_some _ first, Pager.walk_of_some _ second,
    Pager.walk_of_none _ last]
  rfl

end SpanReader

end TraceQuery
