import TraceQuery.Text.Utf8

/-! The bytes of a text are read as its characters, and none of them is left over. -/

set_option autoImplicit false
namespace TraceQuery.Utf8

theorem size_utf8Encode_singleton (c : Char) : [c].utf8Encode.size = c.utf8Size := by
  rw [List.utf8Encode_singleton, List.size_toByteArray, String.length_utf8EncodeChar]

theorem size_utf8Encode_cons (c : Char) (rest : List Char) :
    (c :: rest).utf8Encode.size = c.utf8Size + rest.utf8Encode.size := by
  rw [List.utf8Encode_cons, ByteArray.size_append, size_utf8Encode_singleton]

theorem length_le_size_utf8Encode (text : List Char) : text.length ≤ text.utf8Encode.size := by
  induction text with
  | nil => exact Nat.zero_le _
  | cons c rest ih =>
    have := c.utf8Size_pos
    rw [size_utf8Encode_cons, List.length_cons]
    omega

theorem utf8DecodeChar?_utf8Encode_append (front rest : List Char) (c : Char) :
    (front ++ c :: rest).utf8Encode.utf8DecodeChar? front.utf8Encode.size = some c := by
  rw [ByteArray.utf8DecodeChar?_eq_utf8DecodeChar?_extract, List.utf8Encode_append]
  simp [ByteArray.extract_append_eq_right]

/-- Behind some characters, as many steps as there are characters left are enough for these. -/
theorem scalarsFrom_utf8Encode (front rest : List Char) (steps : Nat) (done : List (Option Char))
    (enough : rest.length ≤ steps) :
    scalarsFrom (front ++ rest).utf8Encode steps front.utf8Encode.size done =
      done.reverse ++ rest.map some := by
  induction rest generalizing front steps done with
  | nil => cases steps <;> simp [scalarsFrom]
  | cons c rest ih =>
    obtain ⟨steps, rfl⟩ := Nat.exists_eq_succ_of_ne_zero (Nat.ne_zero_of_lt enough)
    have inside : front.utf8Encode.size < (front ++ c :: rest).utf8Encode.size := by
      have := c.utf8Size_pos
      rw [List.utf8Encode_append, ByteArray.size_append, size_utf8Encode_cons]
      omega
    have next : front.utf8Encode.size + c.utf8Size = (front ++ [c]).utf8Encode.size := by
      rw [List.utf8Encode_append, ByteArray.size_append, size_utf8Encode_singleton]
    have others := ih (front ++ [c]) steps (some c :: done) (Nat.le_of_succ_le_succ enough)
    rw [List.append_assoc, List.singleton_append] at others
    rw [scalarsFrom, if_pos inside, utf8DecodeChar?_utf8Encode_append]
    simp only [next, others, List.reverse_cons, List.append_assoc, List.singleton_append,
      List.map_cons]

theorem scalars_toUTF8 (s : String) : scalars s.toUTF8 = s.toList.map some := by
  have encoded : s.toUTF8 = s.toList.utf8Encode := by
    rw [String.toUTF8_eq_toByteArray, String.utf8Encode_toList]
  rw [encoded, scalars]
  exact scalarsFrom_utf8Encode [] s.toList _ [] (length_le_size_utf8Encode s.toList)

end TraceQuery.Utf8
