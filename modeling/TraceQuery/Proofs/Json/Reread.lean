import Mathlib.Data.List.Forall2
import Mathlib.Data.List.Nodup
import TraceQuery.Proofs.Json.Value
import TraceQuery.Proofs.NameMap
import TraceQuery.Wire.Request

/-!
Decoders that read a value again from where it is written. Whether they do is settled field by
field: what a record's field was read as is read as that again, and a field that was left out is
either left out again or written with a value that reads as the one it stands for.
-/

set_option autoImplicit false
namespace TraceQuery.Json

/-! ## Decoders and writers -/

namespace Decoder

variable {α β : Type} {d : Decoder α} {toJson : α → Json} {height : Nat}

def Reads (d : Decoder α) (a : α) : Prop :=
  ∃ depth t, d depth t = some a

/-- Some literal tree that nests no deeper is read as the value. -/
def ReadsWithin (d : Decoder α) (height : Nat) (a : α) : Prop :=
  ∃ depth t, depth ≤ height ∧ t.isLiteral = true ∧ d depth t = some a

/--
What is read of any tree is read again where it is written, if that nests no deeper than allowed
and its doubles read back. What is read of a literal tree nests no deeper than the tree may, or
than the type's own containers do.
-/
structure Rereads (d : Decoder α) (toJson : α → Json) (height : Nat) : Prop where
  again : ∀ {a : α}, d.Reads a → (∀ x ∈ (toJson a).doubles, Decimal.ReadsBack x) →
    ∀ {depth : Nat}, (toJson a).nesting ≤ depth → d depth (toJson a).toTree = some a
  shallow : ∀ {depth : Nat} {t : Tree} {a : α}, t.isLiteral = true → d depth t = some a →
    (toJson a).nesting ≤ max depth height

theorem Rereads.mono (h : d.Rereads toJson height) {higher : Nat} (le : height ≤ higher) :
    d.Rereads toJson higher where
  again := h.again
  shallow literal read := (h.shallow literal read).trans (max_le_max_left _ le)

theorem Rereads.of_scalar (nesting : ∀ a, d.Reads a → (toJson a).nesting = 0)
    (again : ∀ {a : α}, d.Reads a → (∀ x ∈ (toJson a).doubles, Decimal.ReadsBack x) →
      ∀ {depth : Nat}, d depth (toJson a).toTree = some a) :
    d.Rereads toJson height where
  again reads doubles _ _ := again reads doubles
  shallow _ read := by
    rw [nesting _ ⟨_, _, read⟩]
    exact Nat.zero_le _

theorem string_toTree (depth : Nat) (s : String) : string depth (toTree (.string s)) = some s :=
  Piece.text?_ofString s

theorem rereads_string (height : Nat) : Decoder.string.Rereads .string height :=
  .of_scalar (fun _ _ => rfl) fun {a} _ _ depth => string_toTree depth a

theorem int_number (depth : Nat) {value : Int}
    (inRange : Int64.minValue.toInt ≤ value ∧ value < UInt64.size) :
    int depth (toTree (.number (.integer value inRange))) = some value := by
  have read := Number.readsBack_integer inRange
  rw [Number.ReadsBack] at read
  rw [toTree, int, read]

theorem uint32_toTree (depth : Nat) (n : UInt32) : uint32 depth (ofUInt32 n).toTree = some n := by
  rw [uint32, ofUInt32, int_number, Option.bind_some, Word.uint32?_eq_some_iff]

theorem rereads_uint32 (height : Nat) : Decoder.uint32.Rereads .ofUInt32 height :=
  .of_scalar (fun _ _ => rfl) fun {a} _ _ depth => uint32_toTree depth a

theorem uint64_toTree (depth : Nat) (n : UInt64) : uint64 depth (ofUInt64 n).toTree = some n := by
  rw [uint64, ofUInt64, int_number, Option.bind_some, Word.uint64?_eq_some_iff]

theorem rereads_uint64 (height : Nat) : Decoder.uint64.Rereads .ofUInt64 height :=
  .of_scalar (fun _ _ => rfl) fun {a} _ _ depth => uint64_toTree depth a

theorem rereads_int32 (height : Nat) : Decoder.int32.Rereads .ofInt32 height :=
  .of_scalar (fun _ _ => rfl) fun {a} _ _ depth => by
    rw [int32, ofInt32, int_number, Option.bind_some, Word.int32?_eq_some_iff]

theorem isFinite_of_reads_float {x : Float} (reads : Decoder.float.Reads x) :
    x.isFinite = true := by
  obtain ⟨depth, t, read⟩ := reads
  cases t with
  | numeral n =>
    obtain ⟨value, -, rfl⟩ := Option.map_eq_some_iff.1 read
    exact value.isFinite_toFloat
  | _ => cases read

theorem nesting_ofFloat (x : Float) : (ofFloat x).nesting = 0 := by
  unfold ofFloat
  split <;> rfl

theorem float_toTree {x : Float} (finite : x.isFinite = true)
    (doubles : ∀ y ∈ (ofFloat x).doubles, Decimal.ReadsBack y) (depth : Nat) :
    float depth (ofFloat x).toTree = some x := by
  rw [ofFloat, dif_pos finite] at doubles ⊢
  have value := (Number.readsBack_float_iff finite).2 (doubles x (by simp [Json.doubles]))
  rw [Number.ReadsBack] at value
  rw [toTree, float, value]
  rfl

theorem rereads_float (height : Nat) : Decoder.float.Rereads .ofFloat height :=
  .of_scalar (fun x _ => nesting_ofFloat x) fun {_} reads doubles depth =>
    float_toTree (isFinite_of_reads_float reads) doubles depth

theorem rereads_oneOf (height : Nat) {name? : String → Option α} {name : α → String}
    (named : ∀ a, name? (name a) = some a) :
    (oneOf name?).Rereads (fun a => .string (name a)) height :=
  .of_scalar (fun _ _ => rfl) fun {a} _ _ depth => by
    show (Piece.text? (Piece.ofString (name a))).bind name? = some a
    rw [Piece.text?_ofString, Option.bind_some, named]

theorem option_of_ne_null {t : Tree} (other : t ≠ .null) (depth : Nat) :
    option d depth t = (d depth t).map some := by
  cases t with
  | null => exact absurd rfl other
  | _ => rfl

theorem reads_of_option {depth : Nat} {t : Tree} {a : α} (read : option d depth t = some (some a)) :
    t ≠ .null ∧ d depth t = some a := by
  cases t with
  | null => cases read
  | _ =>
    obtain ⟨b, read, same⟩ := Option.map_eq_some_iff.1 read
    cases same
    exact ⟨nofun, read⟩

/-- A value that is never written as null may be absent, which is. -/
theorem Rereads.option (h : d.Rereads toJson height) (null : ∀ depth, d depth .null = none) :
    (option d).Rereads (ofOption toJson) height where
  again {a} reads doubles depth shallow := by
    cases a with
    | none => rfl
    | some b =>
      obtain ⟨_, t, read⟩ := reads
      have again : d depth (toJson b).toTree = some b :=
        h.again ⟨_, t, (reads_of_option read).2⟩ doubles shallow
      -- Had the value been written as null, it would be read as absent.
      have other : (toJson b).toTree ≠ .null := by
        intro same
        rw [same, null] at again
        cases again
      rw [ofOption, option_of_ne_null other, again, Option.map_some]
  shallow {depth t a} literal read := by
    cases a with
    | none => exact Nat.zero_le _
    | some b => exact h.shallow literal (reads_of_option read).2

theorem exists_of_mem_mapM {f : Tree → Option α} {items : List Tree} {values : List α}
    (read : items.mapM f = some values) {a : α} (member : a ∈ values) :
    ∃ t ∈ items, f t = some a := by
  induction items generalizing values with
  | nil =>
    cases read
    cases member
  | cons t rest ih =>
    rw [List.mapM_cons] at read
    obtain ⟨b, first, read⟩ := Option.bind_eq_some_iff.1 read
    obtain ⟨others, readRest, same⟩ := Option.bind_eq_some_iff.1 read
    cases same
    rcases List.mem_cons.1 member with rfl | member
    · exact ⟨t, List.mem_cons_self, first⟩
    · obtain ⟨t, among, item⟩ := ih readRest member
      exact ⟨t, List.mem_cons_of_mem _ among, item⟩

theorem mapM_eq_some_iff {f : Tree → Option α} {items : List Tree} {values : List α} :
    items.mapM f = some values ↔ List.Forall₂ (fun t a => f t = some a) items values := by
  induction items generalizing values with
  | nil =>
    rw [List.mapM_nil, List.forall₂_nil_left_iff]
    exact Option.some_inj.trans eq_comm
  | cons t rest ih =>
    rw [List.mapM_cons, List.forall₂_cons_left_iff]
    constructor
    · intro read
      obtain ⟨a, first, read⟩ := Option.bind_eq_some_iff.1 read
      obtain ⟨others, later, same⟩ := Option.bind_eq_some_iff.1 read
      cases same
      exact ⟨a, others, first, ih.1 later, rfl⟩
    · rintro ⟨a, others, first, later, rfl⟩
      rw [first, ih.2 later]
      rfl

theorem mapM_map_iff {f : Tree → Option α} {write : α → Tree} {values : List α} :
    (values.map write).mapM f = some values ↔ ∀ a ∈ values, f (write a) = some a := by
  rw [mapM_eq_some_iff, List.forall₂_map_left_iff, List.forall₂_same]

theorem list_eq_some_iff {depth : Nat} {items : List Tree} {values : List α} :
    list d (depth + 1) (.array items) = some values ↔
      List.Forall₂ (fun t a => d depth t = some a) items values :=
  mapM_eq_some_iff

theorem list_toTree_iff {depth : Nat} {values : List α} :
    list d (depth + 1) (toTree (.array (values.map toJson))) = some values ↔
      ∀ a ∈ values, d depth (toJson a).toTree = some a := by
  rw [toTree, itemTrees_eq_map, List.map_map]
  exact mapM_map_iff

theorem reads_of_list {depth : Nat} {t : Tree} {values : List α}
    (read : list d depth t = some values) :
    ∃ inner items, depth = inner + 1 ∧ t = .array items ∧ items.mapM (d inner) = some values := by
  cases depth with
  | zero => cases read
  | succ inner =>
    cases t with
    | array items => exact ⟨inner, items, rfl, rfl, read⟩
    | _ => cases read

theorem Rereads.list (h : d.Rereads toJson height) :
    (list d).Rereads (fun values => .array (values.map toJson)) (height + 1) where
  again {values} reads doubles depth shallow := by
    obtain ⟨_, t, read⟩ := reads
    obtain ⟨inner, items, -, -, read⟩ := reads_of_list read
    rw [Json.doubles, itemsDoubles_eq] at doubles
    cases depth with
    | zero => simp [nesting] at shallow
    | succ depth =>
      have shallow := itemsNesting_le_iff.1 (Nat.le_of_succ_le_succ shallow)
      refine list_toTree_iff.2 fun a member => ?_
      obtain ⟨t, -, item⟩ := exists_of_mem_mapM read member
      refine h.again ⟨inner, t, item⟩ (fun x among => doubles x ?_)
        (shallow _ (List.mem_map_of_mem member))
      exact List.mem_flatMap.2 ⟨_, List.mem_map_of_mem member, among⟩
  shallow {depth t values} literal read := by
    obtain ⟨inner, items, rfl, rfl, read⟩ := reads_of_list read
    have items_literal := Tree.areLiteral_iff.1 literal
    have items_shallow : itemsNesting (values.map toJson) ≤ max inner height := by
      refine itemsNesting_le_iff.2 fun v member => ?_
      obtain ⟨a, among, rfl⟩ := List.mem_map.1 member
      obtain ⟨t, member, item⟩ := exists_of_mem_mapM read among
      exact h.shallow (items_literal t member) item
    rw [nesting]
    omega

theorem reads_of_members {depth : Nat} {t : Tree} {values : List (String × Json)}
    (read : members depth t = some values) :
    ∃ inner ms, depth = inner + 1 ∧ t = .object ms ∧ Tree.members? inner ms = some values := by
  cases depth with
  | zero => cases read
  | succ inner =>
    cases t with
    | object ms => exact ⟨inner, ms, rfl, rfl, read⟩
    | _ => cases read

theorem rereads_members (height : Nat) : Decoder.members.Rereads .object (height + 1) where
  again {values} reads doubles depth shallow := by
    obtain ⟨_, t, read⟩ := reads
    obtain ⟨inner, ms, -, -, read⟩ := reads_of_members read
    cases depth with
    | zero => simp [nesting] at shallow
    | succ depth =>
      exact members?_memberTrees (membersPlain_of_members? read) (Nat.le_of_succ_le_succ shallow)
        doubles
  shallow {depth t values} literal read := by
    obtain ⟨inner, ms, rfl, rfl, read⟩ := reads_of_members read
    rw [Tree.isLiteral, Bool.and_eq_true] at literal
    have members_shallow := membersNesting_le_of_membersWith? ms inner [] values literal.2
      (Nat.zero_le _) read
    rw [nesting]
    omega

end Decoder

/-! ## The fields of a record -/

namespace Decoder.Fields

variable {α : Type} {d : Decoder α} {toJson : α → Json} {height : Nat}

def IsLiteral (f : Fields) : Prop :=
  ∀ e ∈ f.found, e.2.isLiteral = true

/-- A field that has been read as a value, whether it was written out or not. -/
structure Found (f : Fields) (name : String) (d : Decoder α) (toJson : α → Json) (height : Nat)
    (a : α) : Prop where
  rereads : d.Rereads toJson height
  reads : d.Reads a
  shallow : f.IsLiteral → (toJson a).nesting ≤ max f.depth height

/-- A written record, whose members nest within what is allowed and whose doubles read back. -/
structure Holds (f : Fields) (members : List (String × Json)) : Prop where
  object : f.positional = false
  found : ∀ {name : String} {v : Json}, (name, v) ∈ members → f.found.lookup name = some v.toTree
  absent : ∀ {name : String}, (∀ m ∈ members, m.1 ≠ name) → f.found.lookup name = none
  shallow : ∀ m ∈ members, m.2.nesting ≤ f.depth
  doubles : ∀ m ∈ members, ∀ x ∈ m.2.doubles, Decimal.ReadsBack x

theorem isLiteral_of_lookup {f : Fields} (literal : f.IsLiteral) {name : String} {t : Tree}
    (found : f.found.lookup name = some t) : t.isLiteral = true := by
  obtain ⟨before, after, same, -⟩ := List.lookup_eq_some_iff.1 found
  exact literal (name, t) (by simp [same])

variable {f g : Fields} {name : String} {members : List (String × Json)} {a : α}

theorem Found.of_decode (h : d.Rereads toJson height) {t : Tree}
    (found : f.found.lookup name = some t) (read : d f.depth t = some a) :
    f.Found name d toJson height a :=
  ⟨h, ⟨_, t, read⟩, fun literal => h.shallow (isLiteral_of_lookup literal found) read⟩

section Steps

variable {β : Type} {b : β}

/-! Each step reads one field of a record and leaves the reading of the others. -/

theorem step_required (h : d.Rereads toJson height) {rest : α → Option β}
    (read : (f.required name d >>= rest) = some b) :
    ∃ a, f.Found name d toJson height a ∧ rest a = some b := by
  obtain ⟨a, first, read⟩ := Option.bind_eq_some_iff.1 read
  refine ⟨a, ?_, read⟩
  unfold Fields.required at first
  split at first
  · next t found => exact .of_decode h found first
  · cases first

theorem step_defaulted (h : d.Rereads toJson height) {absent : α}
    (within : d.ReadsWithin height absent) {rest : α → Option β}
    (read : (f.defaulted name d absent >>= rest) = some b) :
    ∃ a, f.Found name d toJson height a ∧ rest a = some b := by
  obtain ⟨a, first, read⟩ := Option.bind_eq_some_iff.1 read
  refine ⟨a, ?_, read⟩
  unfold Fields.defaulted at first
  split at first
  · next t found => exact .of_decode h found first
  · cases first
    -- What stands for a field that was left out could have been written.
    obtain ⟨depth, t, shallow, literal, written⟩ := within
    refine ⟨h, ⟨depth, t, written⟩, fun _ => ?_⟩
    have := h.shallow literal written
    omega

theorem step_optional (h : d.Rereads toJson height) (null : ∀ depth, d depth .null = none)
    {rest : Option α → Option β}
    (read : (f.defaulted name (option d) none >>= rest) = some b) :
    ∃ a, f.Found name (option d) (ofOption toJson) height a ∧ rest a = some b :=
  step_defaulted (h.option null) ⟨0, .null, Nat.zero_le _, rfl, rfl⟩ read

theorem step_nullable (h : d.Rereads toJson height) (null : ∀ depth, d depth .null = none)
    {rest : Option α → Option β} (read : (f.nullable name d >>= rest) = some b) :
    ∃ a, f.Found name (option d) (ofOption toJson) height a ∧ rest a = some b := by
  obtain ⟨a, first, read⟩ := Option.bind_eq_some_iff.1 read
  refine ⟨a, ?_, read⟩
  unfold Fields.nullable at first
  split at first
  · next t found => exact .of_decode (h.option null) found first
  · split at first
    · cases first
    · cases first
      exact ⟨h.option null, ⟨0, .null, rfl⟩, fun _ => Nat.zero_le _⟩

end Steps

/-- What a field was read as is read of a record that has the field written out. -/
theorem Found.decode (found : f.Found name d toJson height a) (holds : g.Holds members)
    (member : (name, toJson a) ∈ members) : d g.depth (toJson a).toTree = some a :=
  found.rereads.again found.reads (holds.doubles _ member) (holds.shallow _ member)

theorem Found.required (found : f.Found name d toJson height a) (holds : g.Holds members)
    (member : (name, toJson a) ∈ members) : g.required name d = some a := by
  rw [Fields.required, holds.found member]
  exact found.decode holds member

theorem Found.defaulted (found : f.Found name d toJson height a) (holds : g.Holds members)
    {absent : α} (member : (name, toJson a) ∈ members) : g.defaulted name d absent = some a := by
  rw [Fields.defaulted, holds.found member]
  exact found.decode holds member

theorem Found.nullable {a : Option α} (found : f.Found name (option d) (ofOption toJson) height a)
    (holds : g.Holds members) (member : (name, ofOption toJson a) ∈ members) :
    g.nullable name d = some a := by
  rw [Fields.nullable, holds.found member]
  exact found.decode holds member

theorem Found.optional {a : Option α} (found : f.Found name (option d) (ofOption toJson) height a)
    (holds : g.Holds members) (present : ∀ b, a = some b → (name, toJson b) ∈ members)
    (left : a = none → ∀ m ∈ members, m.1 ≠ name) : g.defaulted name (option d) none = some a := by
  cases a with
  | none => rw [Fields.defaulted, holds.absent (left rfl)]
  | some b => exact found.defaulted holds (present b rfl)

/-! ## Records -/

theorem collect?_memberTrees {names : List String} {members : List (String × Json)}
    {found : List (String × Tree)} (known : ∀ m ∈ members, m.1 ∈ names)
    (distinct : (members.map (·.1)).Nodup) (new : ∀ m ∈ members, found.lookup m.1 = none) :
    collect? names found (memberTrees members) =
      some ((members.map fun m => (m.1, m.2.toTree)).reverse ++ found) := by
  induction members generalizing found with
  | nil => rfl
  | cons m rest ih =>
    obtain ⟨key, value⟩ := m
    rw [List.map_cons, List.nodup_cons] at distinct
    -- No name comes twice, so the rest finds none of its names among those collected before.
    have fresh : found.lookup key = none := new (key, value) List.mem_cons_self
    have others_new : ∀ m ∈ rest, ((key, value.toTree) :: found).lookup m.1 = none := by
      intro m member
      have differs : m.1 ≠ key := fun same => distinct.1 (List.mem_map.2 ⟨m, member, same⟩)
      rw [lookup_cons_ite, if_neg differs]
      exact new m (List.mem_cons_of_mem _ member)
    have others :=
      ih (fun m member => known m (List.mem_cons_of_mem _ member)) distinct.2 others_new
    simp only [memberTrees, collect?, Piece.text?_ofString, if_pos (known _ List.mem_cons_self),
      fresh, others]
    simp

theorem lookup_of_nodup {α : Type} {entries : List (String × α)} {name : String} {a : α}
    (distinct : (entries.map (·.1)).Nodup) (member : (name, a) ∈ entries) :
    entries.lookup name = some a := by
  induction entries with
  | nil => cases member
  | cons e rest ih =>
    obtain ⟨n, b⟩ := e
    rw [List.map_cons, List.nodup_cons] at distinct
    rw [lookup_cons_ite]
    rcases List.mem_cons.1 member with same | member
    · cases same
      exact if_pos rfl
    · have differs : name ≠ n := fun same =>
        distinct.1 (List.mem_map.2 ⟨(name, a), member, same⟩)
      rw [if_neg differs]
      exact ih distinct.2 member

theorem exists_ofTree?_toTree {names : List String} {members : List (String × Json)} {depth : Nat}
    (known : (members.map (·.1)).Sublist names) (distinct : names.Nodup)
    (shallow : membersNesting members ≤ depth)
    (doubles : ∀ x ∈ membersDoubles members, Decimal.ReadsBack x) :
    ∃ g, ofTree? names (depth + 1) (toTree (.object members)) = some g ∧ g.Holds members := by
  have keys := distinct.sublist known
  have collected : collect? names [] (memberTrees members) = _ :=
    collect?_memberTrees (fun m member => known.subset (List.mem_map_of_mem member)) keys
      fun _ _ => rfl
  refine ⟨⟨false, depth, _⟩, by rw [toTree, ofTree?, collected]; rfl, rfl, ?_, ?_, ?_, ?_⟩
  · intro name v member
    refine lookup_of_nodup ?_ ?_
    · simpa [List.map_reverse, Function.comp_def, List.nodup_reverse] using keys
    · simp only [List.append_nil, List.mem_reverse, List.mem_map]
      exact ⟨_, member, rfl⟩
  · intro name left
    rw [List.append_nil, List.lookup_eq_none_iff]
    intro e member
    obtain ⟨m, among, rfl⟩ := List.mem_map.1 (List.mem_reverse.1 member)
    simpa using (left m among).symm
  · exact membersNesting_le_iff.1 shallow
  · intro m member x among
    rw [membersDoubles_eq] at doubles
    exact doubles x (List.mem_flatMap.2 ⟨m, member, among⟩)

theorem isLiteral_of_collect? {names : List String} {ms : List (List Piece × Tree)}
    {found all : List (String × Tree)} (literal : ∀ m ∈ ms, m.2.isLiteral = true)
    (before : ∀ e ∈ found, e.2.isLiteral = true) (read : collect? names found ms = some all) :
    ∀ e ∈ all, e.2.isLiteral = true := by
  induction ms generalizing found with
  | nil =>
    cases read
    exact before
  | cons m rest ih =>
    obtain ⟨key, t⟩ := m
    have others := fun m member => literal m (List.mem_cons_of_mem _ member)
    rw [collect?] at read
    split at read
    · cases read
    · split at read
      · split at read
        · cases read
        · refine ih others (fun e member => ?_) read
          rcases List.mem_cons.1 member with rfl | member
          · exact literal (key, t) List.mem_cons_self
          · exact before e member
      · exact ih others before read

/-- The fields of a record nest one level less deep, and are literal where the record is. -/
theorem ofTree?_eq_some {names : List String} {depth : Nat} {t : Tree} {f : Fields}
    (read : ofTree? names depth t = some f) :
    depth = f.depth + 1 ∧ (t.isLiteral = true → f.IsLiteral) := by
  cases depth with
  | zero => cases read
  | succ inner =>
    cases t with
    | object ms =>
      obtain ⟨found, collected, rfl⟩ := Option.map_eq_some_iff.1 read
      refine ⟨rfl, fun literal => ?_⟩
      rw [Tree.isLiteral, Bool.and_eq_true] at literal
      exact isLiteral_of_collect? (Tree.membersAreLiteral_iff.1 literal.2) (by simp) collected
    | array items =>
      rw [ofTree?] at read
      split at read
      · cases read
        refine ⟨rfl, fun literal e member => ?_⟩
        exact Tree.areLiteral_iff.1 literal _ (List.of_mem_zip member).2
      · cases read
    | _ => cases read

end Decoder.Fields

open Decoder in
theorem Decoder.record_toTree {α : Type} {names : List String} {build : Fields → Option α}
    {members : List (String × Json)} (known : (members.map (·.1)).Sublist names)
    (distinct : names.Nodup) {depth : Nat} (shallow : (object members).nesting ≤ depth)
    (doubles : ∀ x ∈ (object members).doubles, Decimal.ReadsBack x) {a : α}
    (built : ∀ f : Fields, f.Holds members → build f = some a) :
    record names build depth (toTree (.object members)) = some a := by
  cases depth with
  | zero => simp [nesting] at shallow
  | succ depth =>
    obtain ⟨f, collected, holds⟩ :=
      Fields.exists_ofTree?_toTree known distinct (Nat.le_of_succ_le_succ shallow) doubles
    rw [record, collected, Option.bind_some]
    exact built f holds

open Decoder in
theorem Decoder.Rereads.record {α : Type} {names : List String} {build : Fields → Option α}
    {toJson : α → Json} {members : α → List (String × Json)} {height : Nat}
    (written : ∀ a, toJson a = .object (members a)) (distinct : names.Nodup)
    (known : ∀ a, ((members a).map (·.1)).Sublist names)
    (fields : ∀ f a, build f = some a →
      (∀ g : Fields, g.Holds (members a) → build g = some a) ∧
        (f.IsLiteral → ∀ m ∈ members a, m.2.nesting ≤ max f.depth height)) :
    (Decoder.record names build).Rereads toJson (height + 1) where
  again {a} reads doubles depth shallow := by
    obtain ⟨_, t, read⟩ := reads
    obtain ⟨f, -, built⟩ := Option.bind_eq_some_iff.1 read
    rw [written] at doubles shallow ⊢
    exact record_toTree (known a) distinct shallow doubles (fields f a built).1
  shallow {depth t a} literal read := by
    obtain ⟨f, collected, built⟩ := Option.bind_eq_some_iff.1 read
    obtain ⟨rfl, fields_literal⟩ := Fields.ofTree?_eq_some collected
    have members_shallow :=
      membersNesting_le_iff.2 ((fields f a built).2 (fields_literal literal))
    rw [written, nesting]
    omega

theorem Decoder.record_null {α : Type} (names : List String) (build : Fields → Option α)
    (depth : Nat) : record names build depth .null = none := by
  cases depth <;> rfl

end TraceQuery.Json
