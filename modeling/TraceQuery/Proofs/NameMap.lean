import Mathlib.Data.List.Nodup
import TraceQuery.NameMap

/-! What a map from names holds: the entries of its list, each found under its name. -/

set_option autoImplicit false
namespace TraceQuery

variable {α : Type}

theorem lookup_cons_ite (name n : String) (v : α) (rest : List (String × α)) :
    ((n, v) :: rest).lookup name = if name = n then some v else rest.lookup name := by
  rw [List.lookup_cons]
  by_cases same : name = n
  · simp [same]
  · simp [same, beq_eq_false_iff_ne.2 same]

theorem lookup_insertEntry (name : String) (value : α) (entries : List (String × α))
    (other : String) :
    (insertEntry name value entries).lookup other =
      if other = name then some value else entries.lookup other := by
  induction entries with
  | nil => rw [insertEntry, lookup_cons_ite]
  | cons head rest ih =>
    obtain ⟨n, v⟩ := head
    rw [insertEntry]
    split
    · rw [lookup_cons_ite]
    · split
      · next equal => by_cases same : other = name <;> simp [lookup_cons_ite, ← equal, same]
      · next differs =>
        rw [lookup_cons_ite, lookup_cons_ite, ih]
        by_cases first : other = n
        · simp [first, Ne.symm differs]
        · simp [first]

theorem lookup_of_mem {name : String} {value : α} {entries : List (String × α)}
    (sorted : entries.Pairwise (·.1 < ·.1)) (member : (name, value) ∈ entries) :
    entries.lookup name = some value := by
  induction entries with
  | nil => cases member
  | cons head rest ih =>
    obtain ⟨n, v⟩ := head
    obtain ⟨least, sorted⟩ := List.pairwise_cons.1 sorted
    rw [lookup_cons_ite]
    rcases List.mem_cons.1 member with same | member
    · cases same
      exact if_pos rfl
    · -- A later entry has a greater name, so the first one does not hide it.
      have later : n < name := least (name, value) member
      have differs : name ≠ n := by
        rintro rfl
        exact String.lt_irrefl _ later
      rw [if_neg differs]
      exact ih sorted member

theorem mem_of_lookup {name : String} {value : α} {entries : List (String × α)}
    (found : entries.lookup name = some value) : (name, value) ∈ entries := by
  obtain ⟨before, after, rfl, -⟩ := List.lookup_eq_some_iff.1 found
  simp

namespace NameMap

variable {m : NameMap α} {name : String}

@[simp]
theorem get?_empty (name : String) : (empty : NameMap α).get? name = none :=
  rfl

@[simp]
theorem get?_insert (m : NameMap α) (name : String) (value : α) (other : String) :
    (m.insert name value).get? other = if other = name then some value else m.get? other :=
  lookup_insertEntry name value m.entries other

theorem mem_entries_iff {value : α} : (name, value) ∈ m.entries ↔ m.get? name = some value :=
  ⟨lookup_of_mem m.sorted, mem_of_lookup⟩

theorem nodup_names (m : NameMap α) : (m.entries.map (·.1)).Nodup := by
  refine List.pairwise_map.2 (m.sorted.imp fun {a b} less same => ?_)
  exact String.lt_irrefl _ (same ▸ less)

/-- A map is determined by what is found in it. -/
theorem ext_get? {n : NameMap α} (same : ∀ name, m.get? name = n.get? name) : m = n := by
  have nodup (m : NameMap α) : m.entries.Nodup := List.Nodup.of_map _ m.nodup_names
  have perm : m.entries.Perm n.entries := by
    refine (List.perm_ext_iff_of_nodup (nodup m) (nodup n)).2 fun e => ?_
    rw [mem_entries_iff, mem_entries_iff, same]
  have entries : m.entries = n.entries := by
    refine perm.eq_of_pairwise (fun a b _ _ less more => ?_) m.sorted n.sorted
    exact absurd less (String.lt_asymm more)
  exact NameMap.mk.injEq .. ▸ entries

end NameMap

end TraceQuery
