/-!
The integers that words of 32 and 64 bits hold. Each function here gives the word that stands for
an integer, if there is one.
-/

set_option autoImplicit false
namespace TraceQuery.Word

def int32? (n : Int) : Option Int32 :=
  if Int32.minValue.toInt ≤ n ∧ n ≤ Int32.maxValue.toInt then some (Int32.ofInt n) else none

def int64? (n : Int) : Option Int64 :=
  if Int64.minValue.toInt ≤ n ∧ n ≤ Int64.maxValue.toInt then some (Int64.ofInt n) else none

def uint32? (n : Int) : Option UInt32 :=
  if 0 ≤ n ∧ n < UInt32.size then some (UInt32.ofNat n.toNat) else none

def uint64? (n : Int) : Option UInt64 :=
  if 0 ≤ n ∧ n < UInt64.size then some (UInt64.ofNat n.toNat) else none

theorem int32?_eq_some_iff {n : Int} {w : Int32} : int32? n = some w ↔ w.toInt = n := by
  unfold int32?
  split
  · next h =>
    have hn : (Int32.ofInt n).toInt = n :=
      Int32.toInt_ofInt_of_le h.1 (Int.lt_of_le_of_lt h.2 (by decide))
    rw [Option.some.injEq, ← Int32.toInt_inj, hn]
    exact eq_comm
  · next h =>
    refine ⟨fun hw => absurd hw (by simp), fun hw => absurd ⟨?_, ?_⟩ h⟩
    · exact hw ▸ w.le_toInt
    · exact hw ▸ Int.le_of_lt_add_one w.toInt_lt

theorem int64?_eq_some_iff {n : Int} {w : Int64} : int64? n = some w ↔ w.toInt = n := by
  unfold int64?
  split
  · next h =>
    have hn : (Int64.ofInt n).toInt = n :=
      Int64.toInt_ofInt_of_le h.1 (Int.lt_of_le_of_lt h.2 (by decide))
    rw [Option.some.injEq, ← Int64.toInt_inj, hn]
    exact eq_comm
  · next h =>
    refine ⟨fun hw => absurd hw (by simp), fun hw => absurd ⟨?_, ?_⟩ h⟩
    · exact hw ▸ w.le_toInt
    · exact hw ▸ Int.le_of_lt_add_one w.toInt_lt

theorem uint32?_eq_some_iff {n : Int} {w : UInt32} : uint32? n = some w ↔ w.toNat = n := by
  unfold uint32?
  split
  · next h =>
    have hn : (UInt32.ofNat n.toNat).toNat = n.toNat :=
      UInt32.toNat_ofNat_of_lt' ((Int.toNat_lt h.1).2 h.2)
    rw [Option.some.injEq, ← UInt32.toNat_inj, hn]
    omega
  · next h =>
    refine ⟨fun hw => absurd hw (by simp), fun hw => absurd ?_ h⟩
    have := w.toNat_lt
    rw [UInt32.size]
    omega

theorem uint64?_eq_some_iff {n : Int} {w : UInt64} : uint64? n = some w ↔ w.toNat = n := by
  unfold uint64?
  split
  · next h =>
    have hn : (UInt64.ofNat n.toNat).toNat = n.toNat :=
      UInt64.toNat_ofNat_of_lt' ((Int.toNat_lt h.1).2 h.2)
    rw [Option.some.injEq, ← UInt64.toNat_inj, hn]
    omega
  · next h =>
    refine ⟨fun hw => absurd hw (by simp), fun hw => absurd ?_ h⟩
    have := w.toNat_lt
    rw [UInt64.size]
    omega

end TraceQuery.Word
