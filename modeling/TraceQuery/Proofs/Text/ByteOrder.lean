import Mathlib.Data.List.Lex

/-!
The order of texts by their characters is the order of their UTF-8 bytes: a greater character has
the greater bytes, whatever follows.
-/

set_option autoImplicit false
namespace TraceQuery.Utf8

def bytes (s : String) : List UInt8 :=
  s.toUTF8.data.toList

theorem bytes_eq_flatMap (s : String) : bytes s = s.toList.flatMap String.utf8EncodeChar := by
  rw [bytes, String.toUTF8_eq_toByteArray, ← String.utf8Encode_toList]
  simp [List.utf8Encode]

/-- The first byte decides, or else what follows it. -/
theorem cons_lt_cons {m n : Nat} {xs ys : List UInt8} (least : m ≤ n) (bound : n < 256)
    (next : m = n → xs < ys) : UInt8.ofNat m :: xs < UInt8.ofNat n :: ys := by
  rw [List.cons_lt_cons_iff]
  rcases Nat.lt_or_eq_of_le least with less | same
  · left
    rw [UInt8.lt_iff_toNat_lt, UInt8.toNat_ofNat', UInt8.toNat_ofNat', Nat.mod_eq_of_lt bound,
      Nat.mod_eq_of_lt (Nat.lt_trans less bound)]
    exact less
  · exact .inr ⟨congrArg UInt8.ofNat same, next same⟩

theorem toNat_le (c : Char) : c.val.toNat ≤ 0x10ffff := by
  have valid := c.valid
  simp only [UInt32.isValidChar, Nat.isValidChar] at valid
  omega

theorem encode_append_lt {c d : Char} (less : c < d) (xs ys : List UInt8) :
    String.utf8EncodeChar c ++ xs < String.utf8EncodeChar d ++ ys := by
  have bound := toNat_le d
  have less : c.val.toNat < d.val.toNat := less
  generalize cv : c.val.toNat = v at less
  generalize dw : d.val.toNat = w at less bound
  simp only [String.utf8EncodeChar, cv, dw]
  split_ifs
  all_goals try omega
  all_goals simp only [List.cons_append, List.nil_append]
  -- Of two lengths, the first byte tells which is the longer.
  all_goals refine cons_lt_cons (by omega) (by omega) fun first => ?_
  all_goals try omega
  all_goals refine cons_lt_cons (by omega) (by omega) fun second => ?_
  all_goals try omega
  all_goals refine cons_lt_cons (by omega) (by omega) fun third => ?_
  all_goals try omega
  exact cons_lt_cons (by omega) (by omega) fun fourth => by omega

theorem flatMap_encode_lt {s t : List Char} (less : s < t) :
    s.flatMap String.utf8EncodeChar < t.flatMap String.utf8EncodeChar := by
  induction s generalizing t with
  | nil =>
    cases t with
    | nil => exact absurd less (List.lt_irrefl [])
    | cons d t =>
      obtain ⟨b, bs, encoded⟩ := List.exists_cons_of_ne_nil (String.utf8EncodeChar_ne_nil (c := d))
      simp [encoded]
  | cons c s ih =>
    cases t with
    | nil => cases less
    | cons d t =>
      rw [List.flatMap_cons, List.flatMap_cons]
      rcases List.cons_lt_cons_iff.1 less with less | ⟨rfl, later⟩
      · exact encode_append_lt less _ _
      · exact List.append_left_lt (ih later)

theorem bytes_lt_bytes {s t : String} (less : s < t) : bytes s < bytes t := by
  rw [bytes_eq_flatMap, bytes_eq_flatMap]
  exact flatMap_encode_lt less

end TraceQuery.Utf8
