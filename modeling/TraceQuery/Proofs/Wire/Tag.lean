import TraceQuery.Proofs.Wire.Request
import TraceQuery.Wire.Tag

/-!
Tags, their values and their statistics are read again from where they are written. The values of a
tag are so just when nothing of them is lost there.
-/

set_option autoImplicit false
namespace TraceQuery

open Json (Decoder)
open Json.Decoder (Fields rereads_string rereads_uint64 rereads_float rereads_oneOf)

theorem TagType.ofName?_name (type : TagType) : TagType.ofName? type.name = some type := by
  cases type <;> rfl

namespace TagInfo

theorem rereads : decoder.Rereads toJson 1 := by
  refine .record (fun _ => rfl) (by decide) (fun _ => .refl _) fun f a read => ?_
  obtain ⟨name, nameFound, read⟩ := Fields.step_required (rereads_string 0) read
  obtain ⟨type, typeFound, read⟩ :=
    Fields.step_required (rereads_oneOf 0 TagType.ofName?_name) read
  cases read
  refine ⟨fun g holds => ?_, fun literal => ?_⟩
  · rw [nameFound.required holds (by simp), typeFound.required holds (by simp)]
    rfl
  · simp only [List.forall_mem_cons]
    exact ⟨nameFound.shallow literal, typeFound.shallow literal, nofun⟩

end TagInfo

namespace TagValue

def toScalar : TagValue → Scalar
  | .integer n => .integer n
  | .real x => .float x
  | .text s => .text s

theorem toJson_toScalar (v : TagValue) : v.toScalar.toJson = v.toJson := by
  cases v <;> rfl

theorem decoder_eq_some_iff {depth : Nat} {t : Json.Tree} {v : TagValue} :
    decoder depth t = some v ↔ Scalar.decoder depth t = some v.toScalar := by
  rw [decoder]
  cases Scalar.decoder depth t with
  | none => simp
  | some s => cases s <;> cases v <;> simp [toScalar]

theorem decoder_toTree_iff {v : TagValue} {depth : Nat} :
    decoder depth v.toJson.toTree = some v ↔ v.toJson.IsLossless := by
  rw [decoder_eq_some_iff, ← toJson_toScalar]
  exact Scalar.decoder_toTree_iff

theorem rereads (height : Nat) : decoder.Rereads toJson height where
  again {v} reads doubles depth shallow := by
    obtain ⟨inner, t, read⟩ := reads
    rw [← toJson_toScalar] at doubles shallow ⊢
    exact decoder_eq_some_iff.2
      ((Scalar.rereads height).again ⟨inner, t, decoder_eq_some_iff.1 read⟩ doubles shallow)
  shallow {depth t v} literal read := by
    rw [← toJson_toScalar]
    exact (Scalar.rereads height).shallow literal (decoder_eq_some_iff.1 read)

end TagValue

namespace TagValueInfo

theorem rereads : decoder.Rereads toJson 1 := by
  refine .record (fun _ => rfl) (by decide) (fun _ => .refl _) fun f a read => ?_
  obtain ⟨value, valueFound, read⟩ := Fields.step_required (TagValue.rereads 0) read
  obtain ⟨count, countFound, read⟩ := Fields.step_required (rereads_uint64 0) read
  cases read
  refine ⟨fun g holds => ?_, fun literal => ?_⟩
  · rw [valueFound.required holds (by simp), countFound.required holds (by simp)]
    rfl
  · simp only [List.forall_mem_cons]
    exact ⟨valueFound.shallow literal, countFound.shallow literal, nofun⟩

theorem isLossless_toJson {v : TagValueInfo} :
    v.toJson.IsLossless ↔ v.value.toJson.IsLossless := by
  have count : (Json.ofUInt64 v.count).IsLossless := Json.isLossless_integer _
  simp [toJson, Json.isLossless_object, count]

theorem decoder_toTree_iff {v : TagValueInfo} {depth : Nat} :
    decoder (depth + 1) v.toJson.toTree = some v ↔ v.toJson.IsLossless := by
  obtain ⟨value, count⟩ := v
  have decoded : decoder (depth + 1) (toJson ⟨value, count⟩).toTree =
      (TagValue.decoder depth value.toJson.toTree).map (⟨·, count⟩) := by
    simp [decoder, Json.Decoder.record, toJson, Json.toTree, Json.memberTrees, Fields.ofTree?,
      Fields.collect?, Fields.required, lookup_cons_ite, Json.Decoder.uint64_toTree,
      Option.map_eq_bind]
  rw [decoded, isLossless_toJson, ← @TagValue.decoder_toTree_iff value depth]
  simp

end TagValueInfo

namespace TagValues

theorem isLossless_toJson {v : TagValues} :
    v.toJson.IsLossless ↔ ∀ info ∈ v.values, info.toJson.IsLossless := by
  simp [toJson, Json.isLossless_object, Json.isLossless_array]

theorem decoder_toTree_iff {v : TagValues} {depth : Nat} :
    decoder (depth + 3) v.toJson.toTree = some v ↔ v.toJson.IsLossless := by
  obtain ⟨values⟩ := v
  have decoded : decoder (depth + 3) (toJson ⟨values⟩).toTree =
      (Decoder.list TagValueInfo.decoder (depth + 2)
        (Json.array (values.map TagValueInfo.toJson)).toTree).map TagValues.mk := by
    simp [decoder, Json.Decoder.record, toJson, Json.toTree, Json.memberTrees, Fields.ofTree?,
      Fields.collect?, Fields.required, Option.map_eq_bind]
  rw [decoded, isLossless_toJson, Option.map_eq_some_iff]
  simp [Json.Decoder.list_toTree_iff, TagValueInfo.decoder_toTree_iff]

end TagValues

namespace NameMap

variable {α : Type} {d : Decoder α} {toJson : α → Json} {depth height : Nat}

theorem mem_of_ofMembers? {ms : List (List Json.Piece × Json.Tree)} {done m : NameMap α}
    (read : ofMembers? d depth done ms = some m) {e : String × α} (member : e ∈ m.entries) :
    e ∈ done.entries ∨ ∃ field ∈ ms, d depth field.2 = some e.2 := by
  induction ms generalizing done with
  | nil =>
    cases read
    exact .inl member
  | cons first rest ih =>
    obtain ⟨key, t⟩ := first
    rw [ofMembers?] at read
    split at read
    · next name a text value =>
      rcases ih read with earlier | ⟨field, among, later⟩
      · rcases mem_insertEntry earlier with rfl | earlier
        · exact .inr ⟨_, List.mem_cons_self, value⟩
        · exact .inl earlier
      · exact .inr ⟨field, List.mem_cons_of_mem _ among, later⟩
    · cases read

theorem reads_of_decoder {t : Json.Tree} {m : NameMap α} (read : decoder d depth t = some m) :
    ∃ inner ms, depth = inner + 1 ∧ t = .object ms ∧
      ∀ e ∈ m.entries, ∃ field ∈ ms, d inner field.2 = some e.2 := by
  cases depth with
  | zero => cases read
  | succ inner =>
    cases t with
    | object ms =>
      refine ⟨inner, ms, rfl, rfl, fun e member => ?_⟩
      exact (mem_of_ofMembers? read member).resolve_left (by simp [NameMap.empty])
    | _ => cases read

section Written

variable {members : List (String × Json)} {done m : NameMap α}

theorem exists_ofMembers? (read : ∀ e ∈ members, ∃ a, d depth e.2.toTree = some a)
    (done : NameMap α) : ∃ m, ofMembers? d depth done (Json.memberTrees members) = some m := by
  induction members generalizing done with
  | nil => exact ⟨done, rfl⟩
  | cons first rest ih =>
    obtain ⟨name, v⟩ := first
    obtain ⟨⟨a, value⟩, others⟩ := List.forall_mem_cons.1 read
    simp only [Json.memberTrees, ofMembers?, Json.Piece.text?_ofString, value]
    exact ih others (done.insert name a)

/-- Where no name comes twice, each is found with what its value is read as. -/
theorem get?_of_ofMembers? (distinct : (members.map (·.1)).Nodup)
    (read : ofMembers? d depth done (Json.memberTrees members) = some m) :
    (∀ e ∈ members, m.get? e.1 = d depth e.2.toTree) ∧
      ∀ name ∉ members.map (·.1), m.get? name = done.get? name := by
  induction members generalizing done with
  | nil =>
    cases read
    exact ⟨nofun, fun _ _ => rfl⟩
  | cons first rest ih =>
    obtain ⟨name, v⟩ := first
    rw [List.map_cons, List.nodup_cons] at distinct
    rw [Json.memberTrees, ofMembers?, Json.Piece.text?_ofString] at read
    cases value : d depth v.toTree with
    | none =>
      rw [value] at read
      cases read
    | some a =>
      rw [value] at read
      obtain ⟨found, kept⟩ := ih distinct.2 read
      refine ⟨List.forall_mem_cons.2 ⟨?_, found⟩, fun other new => ?_⟩
      · rw [kept name distinct.1, get?_insert, if_pos rfl, value]
      · rw [List.map_cons, List.mem_cons, not_or] at new
        rw [kept other new.2, get?_insert, if_neg new.1]

end Written

/-- A map is read where it is written, in whatever order, just when each of its values is. -/
theorem decoder_members_iff {m : NameMap α} {members : List (String × α)}
    (perm : members.Perm m.entries) :
    decoder d (depth + 1) (membersToJson toJson members).toTree = some m ↔
      ∀ e ∈ m.entries, d depth (toJson e.2).toTree = some e.2 := by
  have names : (members.map fun e => (e.1, toJson e.2)).map (·.1) = members.map (·.1) := by
    simp [Function.comp_def]
  have distinct : (members.map (·.1)).Nodup := (perm.map _).nodup_iff.2 m.nodup_names
  rw [membersToJson, Json.toTree, decoder]
  constructor
  · intro read e member
    have found := (get?_of_ofMembers? (names ▸ distinct) read).1 (e.1, toJson e.2)
      (List.mem_map.2 ⟨e, perm.mem_iff.2 member, rfl⟩)
    exact found.symm.trans (mem_entries_iff.1 member)
  · intro read
    have reads (e : String × Json) (member : e ∈ members.map fun e => (e.1, toJson e.2)) :
        ∃ a, (e.1, a) ∈ m.entries ∧ d depth e.2.toTree = some a := by
      obtain ⟨e, among, rfl⟩ := List.mem_map.1 member
      exact ⟨e.2, perm.mem_iff.1 among, read e (perm.mem_iff.1 among)⟩
    obtain ⟨n, result⟩ := exists_ofMembers?
      (fun e member => (reads e member).imp fun _ => And.right) (.empty : NameMap α)
    -- What is read of all members is the map, for it has the same value under every name.
    obtain ⟨found, kept⟩ := get?_of_ofMembers? (names ▸ distinct) result
    rw [result]
    refine congrArg some (ext_get? fun name => ?_)
    by_cases known : name ∈ members.map (·.1)
    · obtain ⟨e, among, rfl⟩ := List.mem_map.1 known
      have member := perm.mem_iff.1 among
      rw [mem_entries_iff.1 member, ← read e member]
      exact found _ (List.mem_map_of_mem among)
    · rw [kept name (names ▸ known), get?_empty]
      refine (Option.eq_none_iff_forall_ne_some.2 fun a there => known ?_).symm
      exact List.mem_map.2 ⟨(name, a), perm.mem_iff.2 (mem_entries_iff.2 there), rfl⟩

theorem isLossless_membersToJson {members : List (String × α)} :
    (membersToJson toJson members).IsLossless ↔ ∀ e ∈ members, (toJson e.2).IsLossless := by
  rw [membersToJson, Json.isLossless_object, List.forall_mem_map]

theorem rereads (h : d.Rereads toJson height) :
    (decoder d).Rereads (NameMap.toJson toJson) (height + 1) where
  again {m} reads doubles depth shallow := by
    obtain ⟨_, t, read⟩ := reads
    obtain ⟨inner, ms, -, -, values⟩ := reads_of_decoder read
    rw [NameMap.toJson, membersToJson] at doubles shallow
    cases depth with
    | zero => simp [Json.nesting] at shallow
    | succ depth =>
      have shallow := Json.membersNesting_le_iff.1 (Nat.le_of_succ_le_succ shallow)
      rw [Json.doubles, Json.membersDoubles_eq] at doubles
      refine (decoder_members_iff (.refl _)).2 fun e member => ?_
      have written := List.mem_map_of_mem (f := fun e => (e.1, toJson e.2)) member
      obtain ⟨field, -, value⟩ := values e member
      exact h.again ⟨inner, field.2, value⟩
        (fun x among => doubles x (List.mem_flatMap.2 ⟨_, written, among⟩)) (shallow _ written)
  shallow {depth t m} literal read := by
    obtain ⟨inner, ms, rfl, rfl, values⟩ := reads_of_decoder read
    rw [Json.Tree.isLiteral, Bool.and_eq_true] at literal
    have members_literal := Json.Tree.membersAreLiteral_iff.1 literal.2
    have members_shallow : Json.membersNesting
        (m.entries.map fun e => (e.1, toJson e.2)) ≤ max inner height := by
      refine Json.membersNesting_le_iff.2 fun v member => ?_
      obtain ⟨e, among, rfl⟩ := List.mem_map.1 member
      obtain ⟨field, there, value⟩ := values e among
      exact h.shallow (members_literal field there) value
    exact (Nat.succ_le_succ members_shallow).trans (by omega)

end NameMap

namespace TagStatistics

theorem rereads : decoder.Rereads toJson 2 := by
  refine .record (fun _ => rfl) (by decide) (fun _ => .refl _) fun f a read => ?_
  obtain ⟨statistics, statisticsFound, read⟩ :=
    Fields.step_required (NameMap.rereads (rereads_float 0)) read
  cases read
  refine ⟨fun g holds => ?_, fun literal => ?_⟩
  · rw [statisticsFound.required holds List.mem_cons_self]
    rfl
  · simp only [List.forall_mem_cons]
    exact ⟨statisticsFound.shallow literal, nofun⟩

end TagStatistics

end TraceQuery
