import Mathlib.Data.List.Induction
import TraceQuery.Proofs.Reader.Search

/-!
Rows that are read one by one. The values of those that can be read and the errors of the others,
put back at their positions, make one outcome for each row; and rows that give nothing can be taken
away from among the others.
-/

set_option autoImplicit false
namespace TraceQuery

/-- The same rows in the same order, less some idle ones. -/
inductive Thinned (idle : Row → Prop) : List Row → List Row → Prop
  | nil : Thinned idle [] []
  | keep {less rows : List Row} (row : Row) :
    Thinned idle less rows → Thinned idle (row :: less) (row :: rows)
  | drop {less rows : List Row} {row : Row} :
    idle row → Thinned idle less rows → Thinned idle less (row :: rows)

theorem Thinned.filterMap_eq {β : Type} {idle : Row → Prop} {less rows : List Row}
    {f : Row → Option β} (thinned : Thinned idle less rows)
    (silent : ∀ row, idle row → f row = none) :
    less.filterMap f = rows.filterMap f := by
  induction thinned with
  | nil => rfl
  | keep row _ ih => rw [List.filterMap_cons, List.filterMap_cons, ih]
  | drop idle _ ih => rw [List.filterMap_cons, silent _ idle, ih]

theorem insertIdx_length_append {α : Type} (before after : List α) (a : α) :
    (before ++ after).insertIdx before.length a = before ++ a :: after := by
  induction before with
  | nil => rfl
  | cons b rest ih => simp [ih]

namespace SpanReader

variable {α : Type} {ofRow : Row → Except RowError α}

theorem mem_failures_iff {rows : List Row} {index : Nat} {e : RowError} :
    (index, e) ∈ failures ofRow rows ↔ ∃ row, rows[index]? = some row ∧ ofRow row = .error e := by
  simp only [failures, List.mem_filterMap, List.mem_zipIdx_iff_getElem?]
  constructor
  · rintro ⟨⟨row, position⟩, found, failed⟩
    cases read : ofRow row with
    | ok a => simp [read] at failed
    | error other =>
      simp only [read, Option.some.injEq, Prod.mk.injEq] at failed
      obtain ⟨rfl, rfl⟩ := failed
      exact ⟨row, found, read⟩
  · rintro ⟨row, found, failed⟩
    exact ⟨(row, index), found, by simp [failed]⟩

theorem failures_concat (rows : List Row) (row : Row) :
    failures ofRow (rows ++ [row]) = failures ofRow rows ++
      match ofRow row with
      | .ok _ => []
      | .error e => [(rows.length, e)] := by
  rw [failures, List.zipIdx_append, List.filterMap_append]
  cases read : ofRow row <;> simp [failures, read]

theorem pairwise_failures (ofRow : Row → Except RowError α) (rows : List Row) :
    (failures ofRow rows).Pairwise (·.1 < ·.1) := by
  induction rows using List.reverseRecOn with
  | nil => exact .nil
  | append_singleton rows row ih =>
    rw [failures_concat]
    cases read : ofRow row with
    | ok a => simpa using ih
    | error e =>
      -- The new failure stands behind all rows, and the others at rows.
      refine List.pairwise_append.2 ⟨ih, List.pairwise_singleton _ _, fun f before g last => ?_⟩
      obtain ⟨_, found, -⟩ := mem_failures_iff.1 before
      obtain rfl := List.mem_singleton.1 last
      exact (List.getElem?_eq_some_iff.1 found).1

theorem successes_concat (rows : List Row) (row : Row) :
    successes ofRow (rows ++ [row]) = successes ofRow rows ++ (ofRow row).toOption.toList := by
  rw [successes, List.filterMap_append]
  cases read : ofRow row <;> simp [successes, read, Except.toOption]

/-- The errors are put back at their positions among the values of the other rows. -/
def outcomes (values : List α) (failed : List (Nat × RowError)) : List (Except RowError α) :=
  failed.foldl (fun found f => found.insertIdx f.1 (.error f.2)) (values.map .ok)

theorem insert_failures (ofRow : Row → Except RowError α) (rows : List Row)
    (rest : List (Except RowError α)) :
    (failures ofRow rows).foldl (fun found f => found.insertIdx f.1 (.error f.2))
      ((successes ofRow rows).map .ok ++ rest) = rows.map ofRow ++ rest := by
  induction rows using List.reverseRecOn generalizing rest with
  | nil => rfl
  | append_singleton rows row ih =>
    rw [failures_concat, successes_concat, List.foldl_append, List.map_append, List.map_append,
      List.append_assoc, ih, List.append_assoc]
    cases read : ofRow row with
    | ok a => simp [read, Except.toOption]
    -- All rows before the failed one have their outcomes, so it is put right behind them.
    | error e =>
      have length : rows.length = (rows.map ofRow).length := (List.length_map _).symm
      simp only [read, Except.toOption, Option.toList_none, List.map_nil, List.nil_append,
        List.foldl_cons, List.foldl_nil, List.map_cons, List.singleton_append]
      rw [length, insertIdx_length_append]

theorem outcomes_eq (ofRow : Row → Except RowError α) (rows : List Row) :
    outcomes (successes ofRow rows) (failures ofRow rows) = rows.map ofRow := by
  have inserted := insert_failures ofRow rows []
  rwa [List.append_nil, List.append_nil] at inserted

end SpanReader

end TraceQuery
