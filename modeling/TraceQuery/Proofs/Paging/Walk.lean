import Mathlib.Data.List.Dedup
import Mathlib.Data.List.Perm.Subperm
import TraceQuery.Proofs.Query.Select

/-!
A list read in parts. What comes next is what lies past the last good element of a part, so
elements that tie with it are passed over, and bad ones behind it are met again. A part without a
good element is the last.
-/

set_option autoImplicit false
namespace TraceQuery

structure Pager (α : Type) where
  good : α → Bool
  key : α → Int
  direction : SortDirection
  size : Nat
  /-- Whether a part with so many elements may be followed by another. -/
  offers : Nat → Bool

namespace Pager

variable {α β : Type} (p : Pager α)

def part (rows : List α) : List α :=
  rows.take p.size

def mark? (rows : List α) : Option α :=
  ((p.part rows).filter p.good).getLast?

def beyond (mark : α) (rows : List α) : List α :=
  rows.filter fun row => p.direction.Past (p.key row) (p.key mark)

def next? (rows : List α) : Option (List α) :=
  if p.offers (p.part rows).length then (p.mark? rows).map (p.beyond · rows) else none

theorem next?_eq_some_iff {rows rest : List α} :
    p.next? rows = some rest ↔
      p.offers (p.part rows).length ∧
        ∃ mark, p.mark? rows = some mark ∧ p.beyond mark rows = rest := by
  unfold next?
  cases p.offers (p.part rows).length <;> simp

theorem mem_part_of_mark? {rows : List α} {mark : α} (marked : p.mark? rows = some mark) :
    mark ∈ p.part rows ∧ p.good mark :=
  List.mem_filter.1 (List.mem_of_getLast? marked)

theorem mem_of_mark? {rows : List α} {mark : α} (marked : p.mark? rows = some mark) :
    mark ∈ rows :=
  List.mem_of_mem_take (p.mem_part_of_mark? marked).1

theorem mem_beyond_iff {mark row : α} {rows : List α} :
    row ∈ p.beyond mark rows ↔ row ∈ rows ∧ p.direction.Past (p.key row) (p.key mark) := by
  rw [beyond, List.mem_filter, decide_eq_true_eq]

theorem beyond_sublist (mark : α) (rows : List α) : (p.beyond mark rows).Sublist rows :=
  List.filter_sublist

theorem beyond_append (mark : α) (front back : List α) :
    p.beyond mark (front ++ back) = p.beyond mark front ++ p.beyond mark back :=
  List.filter_append front back

theorem length_lt_of_next? {rows rest : List α} (next : p.next? rows = some rest) :
    rest.length < rows.length := by
  obtain ⟨-, mark, marked, rfl⟩ := p.next?_eq_some_iff.1 next
  apply Nat.lt_of_le_of_ne (List.length_filter_le _ _)
  intro same
  -- If nothing were left out, the mark would be past itself.
  have kept := (p.beyond_sublist mark rows).eq_of_length same
  have member := p.mem_of_mark? marked
  rw [← kept] at member
  exact SortDirection.Past.irrefl (p.mem_beyond_iff.1 member).2

theorem mark?_eq_none_of_full {rows : List α} (full : ∀ n, p.size ≤ n → p.offers n)
    (enough : p.size ≤ rows.length) (last : p.next? rows = none) : p.mark? rows = none := by
  have length : (p.part rows).length = p.size := by
    rw [part, List.length_take]
    omega
  have offered := full (p.part rows).length (Nat.le_of_eq length.symm)
  simpa [next?, offered] using last

/-- The parts, from the first to one that nothing follows. -/
def walk (rows : List α) : List (List α) :=
  match _ : p.next? rows with
  | none => [p.part rows]
  | some rest => p.part rows :: walk rest
termination_by rows.length
decreasing_by exact p.length_lt_of_next? (by assumption)

theorem walk_of_none {rows : List α} (last : p.next? rows = none) :
    p.walk rows = [p.part rows] := by
  rw [walk]
  split <;> simp_all

theorem walk_of_some {rows rest : List α} (next : p.next? rows = some rest) :
    p.walk rows = p.part rows :: p.walk rest := by
  rw [walk]
  split <;> simp_all

/-- Each part but the last takes a key away. -/
theorem length_walk_le (rows : List α) :
    (p.walk rows).length ≤ (rows.map p.key).dedup.length + 1 := by
  induction rows using walk.induct p with
  | case1 rows last => simp [p.walk_of_none last]
  | case2 rows rest next ih =>
    rw [p.walk_of_some next, List.length_cons]
    apply Nat.succ_le_succ
    obtain ⟨-, mark, marked, rfl⟩ := p.next?_eq_some_iff.1 next
    -- The mark's key is among those of the rows and no longer among those past it.
    have fresh : p.key mark ∉ (p.beyond mark rows).map p.key := by
      intro member
      obtain ⟨row, among, same⟩ := List.mem_map.1 member
      have past := (p.mem_beyond_iff.1 among).2
      exact SortDirection.Past.irrefl (same ▸ past)
    have inside : p.key mark :: (p.beyond mark rows).map p.key ⊆ rows.map p.key := by
      intro key member
      rcases List.mem_cons.1 member with rfl | member
      · exact List.mem_map_of_mem (p.mem_of_mark? marked)
      · obtain ⟨row, among, rfl⟩ := List.mem_map.1 member
        exact List.mem_map_of_mem (p.mem_beyond_iff.1 among).1
    have fewer : (p.key mark :: (p.beyond mark rows).map p.key).dedup ⊆ (rows.map p.key).dedup := by
      intro key member
      exact List.mem_dedup.2 (inside (List.mem_dedup.1 member))
    have count := (List.subperm_of_subset (List.nodup_dedup _) fewer).length_le
    rw [List.dedup_cons_of_notMem fresh, List.length_cons] at count
    exact Nat.le_trans ih count

/-! ## Walks over what a function makes elements of -/

def comap (f : β → α) : Pager β :=
  ⟨p.good ∘ f, p.key ∘ f, p.direction, p.size, p.offers⟩

theorem part_comap (f : β → α) (rows : List β) :
    ((p.comap f).part rows).map f = p.part (rows.map f) := by
  simp [part, comap]

theorem mark?_comap (f : β → α) (rows : List β) :
    ((p.comap f).mark? rows).map f = p.mark? (rows.map f) := by
  rw [mark?, mark?, ← part_comap, List.filter_map, List.getLast?_map]
  rfl

theorem beyond_comap (f : β → α) (mark : β) (rows : List β) :
    ((p.comap f).beyond mark rows).map f = p.beyond (f mark) (rows.map f) := by
  rw [beyond, beyond, List.filter_map]
  rfl

theorem next?_comap (f : β → α) (rows : List β) :
    ((p.comap f).next? rows).map (List.map f) = p.next? (rows.map f) := by
  have count : ((p.comap f).part rows).length = (p.part (rows.map f)).length := by
    rw [← part_comap, List.length_map]
  have offer : (p.comap f).offers = p.offers := rfl
  unfold next?
  rw [count, offer, ← mark?_comap]
  cases p.offers (p.part (rows.map f)).length with
  | false => rfl
  | true =>
    cases (p.comap f).mark? rows with
    | none => rfl
    | some mark => simp [beyond_comap]

theorem walk_comap (f : β → α) (rows : List β) :
    ((p.comap f).walk rows).map (List.map f) = p.walk (rows.map f) := by
  induction rows using walk.induct (p.comap f) with
  | case1 rows last =>
    have same : p.next? (rows.map f) = none := by rw [← next?_comap, last, Option.map_none]
    rw [walk_of_none _ last, walk_of_none _ same, List.map_singleton, part_comap]
  | case2 rows rest next ih =>
    have same : p.next? (rows.map f) = some (rest.map f) := by
      rw [← next?_comap, next, Option.map_some]
    rw [walk_of_some _ next, walk_of_some _ same, List.map_cons, part_comap, ih]

end Pager

end TraceQuery
