import TraceQuery.Proofs.Decimal.Magnitude
import TraceQuery.Proofs.Json.Tree

/-!
What is read of a written value. The value of a value's own tree is the value again, where it does
not nest too deep, its doubles read back, and no object in it stands for another value; what is
read of any text meets the last condition, since an object with the key that marks such an object
is never kept.
-/

set_option autoImplicit false
namespace TraceQuery

def Decimal.ReadsBack (x : Float) : Prop :=
  Json.Decoder.float.read? (String.ofList (number x)) = some x

instance (x : Float) : Decidable (Decimal.ReadsBack x) :=
  inferInstanceAs (Decidable (_ = _))

namespace Json

open Json.Tree

theorem Number.readsBack_float_iff {x : Float} (isFinite : x.isFinite = true) :
    (Number.float x isFinite).ReadsBack ↔ Decimal.ReadsBack x := by
  have text : Tree.read? (String.ofList (Decimal.number x)) = some (.numeral (Decimal.numeral x)) :=
    read?_render (.number (.float x isFinite))
  -- The text of the double is its numeral, so both sides ask for the value of that.
  rw [Decimal.ReadsBack, Decoder.read?, text, Option.bind_some, Number.ReadsBack]
  constructor
  · intro value
    exact Option.map_eq_some_iff.2 ⟨_, value, rfl⟩
  · intro reads
    obtain ⟨n, value, same⟩ := Option.map_eq_some_iff.1 reads
    obtain ⟨y, finite, rfl⟩ := Decimal.value?_numeral value
    cases same
    exact value

mutual

def nesting : Json → Nat
  | .array items => itemsNesting items + 1
  | .object members => membersNesting members + 1
  | .null | .bool _ | .number _ | .string _ => 0

def itemsNesting : List Json → Nat
  | [] => 0
  | item :: rest => max item.nesting (itemsNesting rest)

def membersNesting : List (String × Json) → Nat
  | [] => 0
  | (_, value) :: rest => max value.nesting (membersNesting rest)

end

mutual

def doubles : Json → List Float
  | .number (.float x _) => [x]
  | .array items => itemsDoubles items
  | .object members => membersDoubles members
  | .null | .bool _ | .number (.integer _ _) | .string _ => []

def itemsDoubles : List Json → List Float
  | [] => []
  | item :: rest => item.doubles ++ itemsDoubles rest

def membersDoubles : List (String × Json) → List Float
  | [] => []
  | (_, value) :: rest => value.doubles ++ membersDoubles rest

end

theorem itemsNesting_le_iff {items : List Json} {n : Nat} :
    itemsNesting items ≤ n ↔ ∀ item ∈ items, item.nesting ≤ n := by
  induction items with
  | nil => simp [itemsNesting]
  | cons item rest ih => simp [itemsNesting, ih]

theorem membersNesting_le_iff {members : List (String × Json)} {n : Nat} :
    membersNesting members ≤ n ↔ ∀ m ∈ members, m.2.nesting ≤ n := by
  induction members with
  | nil => simp [membersNesting]
  | cons m rest ih => simp [membersNesting, ih]

theorem itemsDoubles_eq (items : List Json) : itemsDoubles items = items.flatMap doubles := by
  induction items with
  | nil => rfl
  | cons item rest ih => rw [itemsDoubles, ih, List.flatMap_cons]

theorem membersDoubles_eq (members : List (String × Json)) :
    membersDoubles members = members.flatMap (·.2.doubles) := by
  induction members with
  | nil => rfl
  | cons m rest ih => rw [membersDoubles, ih, List.flatMap_cons]

mutual

def isNullFree : Json → Bool
  | .null => false
  | .array items => areNullFree items
  | .object members => membersAreNullFree members
  | .bool _ | .number _ | .string _ => true

def areNullFree : List Json → Bool
  | [] => true
  | item :: rest => item.isNullFree && areNullFree rest

def membersAreNullFree : List (String × Json) → Bool
  | [] => true
  | (_, value) :: rest => value.isNullFree && membersAreNullFree rest

end

theorem areNullFree_iff {items : List Json} :
    areNullFree items = true ↔ ∀ item ∈ items, item.isNullFree = true := by
  induction items with
  | nil => simp [areNullFree]
  | cons item rest ih => simp [areNullFree, ih]

theorem membersAreNullFree_iff {members : List (String × Json)} :
    membersAreNullFree members = true ↔ ∀ m ∈ members, m.2.isNullFree = true := by
  induction members with
  | nil => simp [membersAreNullFree]
  | cons m rest ih => simp [membersAreNullFree, ih]

/-- Nothing of the value is lost where it is written: it has no null in place of a number, and its
doubles read back. -/
@[mk_iff]
structure IsLossless (v : Json) : Prop where
  nullFree : v.isNullFree = true
  doubles : ∀ x ∈ v.doubles, Decimal.ReadsBack x

theorem not_isLossless_null : ¬null.IsLossless := by
  simp [isLossless_iff, isNullFree]

theorem isLossless_bool (b : Bool) : (bool b).IsLossless := by
  simp [isLossless_iff, isNullFree, doubles]

theorem isLossless_string (s : String) : (string s).IsLossless := by
  simp [isLossless_iff, isNullFree, doubles]

theorem isLossless_integer {value : Int}
    (inRange : Int64.minValue.toInt ≤ value ∧ value < UInt64.size) :
    (number (.integer value inRange)).IsLossless := by
  simp [isLossless_iff, isNullFree, doubles]

theorem isLossless_float {x : Float} {isFinite : x.isFinite = true} :
    (number (.float x isFinite)).IsLossless ↔ Decimal.ReadsBack x := by
  simp [isLossless_iff, isNullFree, doubles]

theorem isLossless_array {items : List Json} :
    (array items).IsLossless ↔ ∀ item ∈ items, item.IsLossless := by
  simp only [isLossless_iff, isNullFree, areNullFree_iff, doubles, itemsDoubles_eq,
    List.mem_flatMap]
  constructor
  · rintro ⟨nullFree, doubles⟩ item member
    exact ⟨nullFree item member, fun x among => doubles x ⟨item, member, among⟩⟩
  · intro lossless
    refine ⟨fun item member => (lossless item member).1, ?_⟩
    rintro x ⟨item, member, among⟩
    exact (lossless item member).2 x among

theorem isLossless_object {members : List (String × Json)} :
    (object members).IsLossless ↔ ∀ m ∈ members, m.2.IsLossless := by
  simp only [isLossless_iff, isNullFree, membersAreNullFree_iff, doubles, membersDoubles_eq,
    List.mem_flatMap]
  constructor
  · rintro ⟨nullFree, doubles⟩ m member
    exact ⟨nullFree m member, fun x among => doubles x ⟨m, member, among⟩⟩
  · intro lossless
    refine ⟨fun m member => (lossless m member).1, ?_⟩
    rintro x ⟨m, member, among⟩
    exact (lossless m member).2 x among

mutual

/-- No object in the value stands for another value, and no key comes twice. -/
def IsPlain : Json → Prop
  | .array items => ItemsPlain items
  | .object members => (∀ m ∈ members.head?, m.1 ≠ embeddedKey) ∧ MembersPlain members
  | .null | .bool _ | .number _ | .string _ => True

def ItemsPlain : List Json → Prop
  | [] => True
  | item :: rest => item.IsPlain ∧ ItemsPlain rest

def MembersPlain : List (String × Json) → Prop
  | [] => True
  | (key, value) :: rest => (∀ m ∈ rest, m.1 ≠ key) ∧ value.IsPlain ∧ MembersPlain rest

end

/-! ## The value of a value's tree -/

theorem insert_of_new {members : List (String × Json)} {key : String} {value : Json}
    (new : ∀ m ∈ members, m.1 ≠ key) : insert members key value = members ++ [(key, value)] := by
  induction members with
  | nil => rfl
  | cons m rest ih =>
    have differs := new m List.mem_cons_self
    obtain ⟨k, v⟩ := m
    rw [insert, if_neg differs, ih fun m member => new m (List.mem_cons_of_mem _ member)]
    rfl

theorem isEmbedding_memberTrees (members : List (String × Json)) :
    isEmbedding (memberTrees members) = true ↔ ∃ m ∈ members.head?, m.1 = embeddedKey := by
  cases members <;> simp [memberTrees, isEmbedding]

variable {read? : String → Option Json}

mutual

theorem valueWith?_toTree : ∀ (v : Json) (depth : Nat), v.IsPlain → v.nesting ≤ depth →
    (∀ x ∈ v.doubles, Decimal.ReadsBack x) → valueWith? read? depth v.toTree = some v
  | .null, _, _, _, _ => rfl
  | .bool _, _, _, _, _ => rfl
  | .number (.integer n h), _, _, _, _ => by
    rw [toTree, valueWith?, Number.readsBack_integer h, Option.map_some]
  | .number (.float x h), _, _, _, doubles => by
    rw [toTree, valueWith?, (Number.readsBack_float_iff h).2 (doubles x (by simp [Json.doubles])),
      Option.map_some]
  | .string s, _, _, _, _ => by rw [toTree, valueWith?, Piece.text?_ofString, Option.map_some]
  | .array items, 0, _, deep, _ => by simp [nesting] at deep
  | .array items, depth + 1, plain, deep, doubles => by
    rw [toTree, valueWith?, itemsWith?_itemTrees items depth plain (Nat.le_of_succ_le_succ deep)
      doubles, Option.map_some]
  | .object members, 0, _, deep, _ => by simp [nesting] at deep
  | .object members, depth + 1, plain, deep, doubles => by
    -- The first key is not the one of an object that stands for another value.
    have itself : ¬ isEmbedding (memberTrees members) = true := by
      rw [isEmbedding_memberTrees]
      rintro ⟨m, first, same⟩
      exact plain.1 m first same
    have read := membersWith?_memberTrees members depth [] plain.2 (by simp)
      (Nat.le_of_succ_le_succ deep) doubles
    rw [toTree, valueWith?, if_neg itself, read]
    rfl

theorem itemsWith?_itemTrees : ∀ (items : List Json) (depth : Nat), ItemsPlain items →
    itemsNesting items ≤ depth → (∀ x ∈ itemsDoubles items, Decimal.ReadsBack x) →
    itemsWith? read? depth (itemTrees items) = some items
  | [], _, _, _, _ => rfl
  | item :: rest, depth, plain, deep, doubles => by
    have first := valueWith?_toTree item depth plain.1 (le_of_max_le_left deep)
      fun x member => doubles x (List.mem_append_left _ member)
    have others := itemsWith?_itemTrees rest depth plain.2 (le_of_max_le_right deep)
      fun x member => doubles x (List.mem_append_right _ member)
    simp only [itemTrees, itemsWith?, first, others, Option.map_some]

theorem membersWith?_memberTrees : ∀ (members : List (String × Json)) (depth : Nat)
    (done : List (String × Json)), MembersPlain members →
    (∀ m ∈ members, ∀ d ∈ done, d.1 ≠ m.1) → membersNesting members ≤ depth →
    (∀ x ∈ membersDoubles members, Decimal.ReadsBack x) →
    membersWith? read? depth done (memberTrees members) = some (done ++ members)
  | [], _, _, _, _, _, _ => by simp [memberTrees, membersWith?]
  | (key, value) :: rest, depth, done, plain, new, deep, doubles => by
    have first := valueWith?_toTree value depth plain.2.1 (le_of_max_le_left deep)
      fun x member => doubles x (List.mem_append_left _ member)
    have others := membersWith?_memberTrees rest depth (done ++ [(key, value)]) plain.2.2
      (fun m member d earlier => by
        rcases List.mem_append.1 earlier with earlier | earlier
        · exact new m (List.mem_cons_of_mem _ member) d earlier
        · rw [List.mem_singleton.1 earlier]
          exact (plain.1 m member).symm)
      (le_of_max_le_right deep)
      fun x member => doubles x (List.mem_append_right _ member)
    simp only [memberTrees, membersWith?, Piece.text?_ofString, first,
      insert_of_new (new (key, value) List.mem_cons_self), others, List.append_assoc,
      List.singleton_append]

end

/-! ## What is read of any tree -/

theorem mem_insert {members : List (String × Json)} {key : String} {value : Json}
    {m : String × Json} (member : m ∈ insert members key value) :
    m = (key, value) ∨ m ∈ members := by
  induction members with
  | nil => exact .inl (List.mem_singleton.1 member)
  | cons first rest ih =>
    obtain ⟨k, v⟩ := first
    rw [insert] at member
    split at member
    · exact (List.mem_cons.1 member).imp_right (List.mem_cons_of_mem _)
    · rcases List.mem_cons.1 member with rfl | member
      · exact .inr List.mem_cons_self
      · exact (ih member).imp_right (List.mem_cons_of_mem _)

theorem membersPlain_insert {members : List (String × Json)} {key : String} {value : Json}
    (plain : MembersPlain members) (value_plain : value.IsPlain) :
    MembersPlain (insert members key value) := by
  induction members with
  | nil => exact ⟨by simp, value_plain, trivial⟩
  | cons first rest ih =>
    obtain ⟨k, v⟩ := first
    obtain ⟨new, v_plain, rest_plain⟩ := plain
    rw [insert]
    split
    · next same => exact ⟨same ▸ new, value_plain, rest_plain⟩
    · next differs =>
      refine ⟨fun m member => ?_, v_plain, ih rest_plain⟩
      rcases mem_insert member with rfl | member
      · exact Ne.symm differs
      · exact new m member

theorem key_head?_insert (members : List (String × Json)) (key : String) (value : Json) :
    (insert members key value).head?.map (·.1) = some ((members.head?.map (·.1)).getD key) := by
  cases members with
  | nil => rfl
  | cons first rest =>
    obtain ⟨k, v⟩ := first
    rw [insert]
    split
    · next same => simp [same]
    · rfl

/-- The first key of an object stays the first one, whatever follows. -/
theorem key_head?_membersWith? {depth : Nat} {ms : List (List Piece × Tree)}
    {done members : List (String × Json)} {key : String}
    (first : done.head?.map (·.1) = some key)
    (read : membersWith? read? depth done ms = some members) :
    members.head?.map (·.1) = some key := by
  induction ms generalizing done with
  | nil =>
    cases read
    exact first
  | cons m rest ih =>
    rw [membersWith?] at read
    split at read
    · exact ih (by rw [key_head?_insert, first]; rfl) read
    · cases read

theorem ne_embeddedKey_of_membersWith? {depth : Nat} {ms : List (List Piece × Tree)}
    {members : List (String × Json)} (itself : ¬ isEmbedding ms = true)
    (read : membersWith? read? depth [] ms = some members) :
    ∀ m ∈ members.head?, m.1 ≠ embeddedKey := by
  cases ms with
  | nil =>
    cases read
    simp
  | cons first rest =>
    obtain ⟨key, item⟩ := first
    rw [membersWith?] at read
    split at read
    · next k v text value =>
      have named : members.head?.map (·.1) = some k := key_head?_membersWith? rfl read
      intro m first same
      rw [Option.mem_def.1 first, Option.map_some, same] at named
      exact itself (by simpa [isEmbedding, text] using named.symm)
    · cases read

def ReadsPlain (read? : String → Option Json) : Prop :=
  ∀ text v, read? text = some v → v.IsPlain

mutual

theorem isPlain_of_valueWith? (embedded : ReadsPlain read?) : ∀ (t : Tree) (depth : Nat) (v : Json),
    valueWith? read? depth t = some v → v.IsPlain
  | .null, _, _, read => by
    cases read
    trivial
  | .bool _, _, _, read => by
    cases read
    trivial
  | .numeral n, _, _, read => by
    obtain ⟨value, -, rfl⟩ := Option.map_eq_some_iff.1 read
    trivial
  | .text pieces, _, _, read => by
    obtain ⟨value, -, rfl⟩ := Option.map_eq_some_iff.1 read
    trivial
  | .array _, 0, _, read => by cases read
  | .array items, depth + 1, _, read => by
    obtain ⟨values, readItems, rfl⟩ := Option.map_eq_some_iff.1 read
    exact itemsPlain_of_itemsWith? embedded items depth values readItems
  | .object _, 0, _, read => by cases read
  | .object members, depth + 1, v, read => by
    rw [valueWith?] at read
    split at read
    · obtain ⟨text, -, read⟩ := Option.bind_eq_some_iff.1 read
      exact embedded text v read
    · next itself =>
      obtain ⟨values, readMembers, rfl⟩ := Option.map_eq_some_iff.1 read
      exact ⟨ne_embeddedKey_of_membersWith? itself readMembers,
        membersPlain_of_membersWith? embedded members depth [] values trivial readMembers⟩

theorem itemsPlain_of_itemsWith? (embedded : ReadsPlain read?) : ∀ (items : List Tree)
    (depth : Nat) (values : List Json),
    itemsWith? read? depth items = some values → ItemsPlain values
  | [], _, _, read => by
    cases read
    trivial
  | item :: rest, depth, values, read => by
    rw [itemsWith?] at read
    split at read
    · cases read
    · next v value =>
      obtain ⟨others, readRest, rfl⟩ := Option.map_eq_some_iff.1 read
      exact ⟨isPlain_of_valueWith? embedded item depth v value,
        itemsPlain_of_itemsWith? embedded rest depth others readRest⟩

theorem membersPlain_of_membersWith? (embedded : ReadsPlain read?) :
    ∀ (ms : List (List Piece × Tree)) (depth : Nat) (done members : List (String × Json)),
    MembersPlain done → membersWith? read? depth done ms = some members → MembersPlain members
  | [], _, _, _, plain, read => by
    cases read
    exact plain
  | (key, item) :: rest, depth, done, members, plain, read => by
    rw [membersWith?] at read
    split at read
    · next k v text value =>
      have item_plain := isPlain_of_valueWith? embedded item depth v value
      exact membersPlain_of_membersWith? embedded rest depth _ members
        (membersPlain_insert plain item_plain) read
    · cases read

end

/-- Also what stands in an object as a text is plain, however many texts stand one in the other. -/
theorem isPlain_of_embeddedWithin? (layers : Nat) :
    ReadsPlain (embeddedWithin? layers) := by
  induction layers with
  | zero =>
    intro text v read
    cases read
  | succ layers ih =>
    intro text v read
    obtain ⟨t, -, value⟩ := Option.bind_eq_some_iff.1 read
    exact isPlain_of_valueWith? ih t nestingLimit v value

theorem membersPlain_of_members? {depth : Nat} {ms : List (List Piece × Tree)}
    {members : List (String × Json)} (read : members? depth ms = some members) :
    MembersPlain members :=
  membersPlain_of_membersWith? (fun text => isPlain_of_embeddedWithin? text.length text) ms depth []
    members trivial read

theorem members?_memberTrees {depth : Nat} {members : List (String × Json)}
    (plain : MembersPlain members) (deep : membersNesting members ≤ depth)
    (doubles : ∀ x ∈ membersDoubles members, Decimal.ReadsBack x) :
    members? depth (memberTrees members) = some members :=
  membersWith?_memberTrees members depth [] plain (by simp) deep doubles

/-- An object may hold a value's text in its place, however little nesting is left for it. -/
theorem value?_embedding {v : Json} (plain : v.IsPlain) (shallow : v.nesting ≤ nestingLimit)
    (doubles : ∀ x ∈ v.doubles, Decimal.ReadsBack x) (depth : Nat) :
    value? (depth + 1) (toTree (.object [(embeddedKey, .string v.render)])) = some v := by
  have embeds : isEmbedding (memberTrees [(embeddedKey, .string v.render)]) = true :=
    (isEmbedding_memberTrees _).2 ⟨_, rfl, rfl⟩
  -- The text has a character, so that it may hold another text.
  obtain ⟨layers, length⟩ : ∃ layers, v.render.length = layers + 1 := by
    refine Nat.exists_eq_succ_of_ne_zero fun empty => ?_
    have parsed := read?_render v
    rw [String.length_eq_zero_iff.1 empty] at parsed
    cases parsed
  rw [value?, toTree, valueWith?, if_pos embeds, memberTrees, toTree, memberTrees, embeddedText?,
    Piece.text?_ofString, Option.bind_some, embedded?, length, embeddedWithin?, read?_render,
    Option.bind_some]
  exact valueWith?_toTree v nestingLimit plain shallow doubles

theorem members_embedding {v : Json} (plain : v.IsPlain) (shallow : v.nesting ≤ nestingLimit)
    (doubles : ∀ x ∈ v.doubles, Decimal.ReadsBack x) (key : String) (depth : Nat) :
    Decoder.members (depth + 2)
      (toTree (.object [(key, .object [(embeddedKey, .string v.render)])])) = some [(key, v)] := by
  rw [toTree, memberTrees, memberTrees, Decoder.members, members?, membersWith?,
    Piece.text?_ofString, ← value?, value?_embedding plain shallow doubles depth]
  rfl

/-! ## How deep what is read of a literal tree nests -/

namespace Tree

mutual

def isLiteral : Tree → Bool
  | .null | .bool _ | .numeral _ | .text _ => true
  | .array items => areLiteral items
  | .object members => !isEmbedding members && membersAreLiteral members

def areLiteral : List Tree → Bool
  | [] => true
  | item :: rest => item.isLiteral && areLiteral rest

def membersAreLiteral : List (List Piece × Tree) → Bool
  | [] => true
  | (_, item) :: rest => item.isLiteral && membersAreLiteral rest

end

theorem areLiteral_iff {items : List Tree} :
    areLiteral items = true ↔ ∀ item ∈ items, item.isLiteral = true := by
  induction items with
  | nil => simp [areLiteral]
  | cons item rest ih => simp [areLiteral, ih]

theorem membersAreLiteral_iff {members : List (List Piece × Tree)} :
    membersAreLiteral members = true ↔ ∀ m ∈ members, m.2.isLiteral = true := by
  induction members with
  | nil => simp [membersAreLiteral]
  | cons m rest ih => simp [membersAreLiteral, ih]

end Tree

mutual

/-- A literal tree is as deep as its value, so that the value nests no deeper than was allowed. -/
theorem nesting_le_of_valueWith? : ∀ (t : Tree) (depth : Nat) (v : Json), t.isLiteral = true →
    valueWith? read? depth t = some v → v.nesting ≤ depth
  | .null, _, _, _, read => by
    cases read
    exact Nat.zero_le _
  | .bool _, _, _, _, read => by
    cases read
    exact Nat.zero_le _
  | .numeral n, _, _, _, read => by
    obtain ⟨value, -, rfl⟩ := Option.map_eq_some_iff.1 read
    exact Nat.zero_le _
  | .text pieces, _, _, _, read => by
    obtain ⟨value, -, rfl⟩ := Option.map_eq_some_iff.1 read
    exact Nat.zero_le _
  | .array _, 0, _, _, read => by cases read
  | .array items, depth + 1, _, literal, read => by
    obtain ⟨values, readItems, rfl⟩ := Option.map_eq_some_iff.1 read
    exact Nat.succ_le_succ (itemsNesting_le_of_itemsWith? items depth values literal readItems)
  | .object _, 0, _, _, read => by cases read
  | .object members, depth + 1, v, literal, read => by
    rw [isLiteral, Bool.and_eq_true, Bool.not_eq_true'] at literal
    rw [valueWith?, literal.1, if_neg Bool.false_ne_true] at read
    obtain ⟨values, readMembers, rfl⟩ := Option.map_eq_some_iff.1 read
    exact Nat.succ_le_succ (membersNesting_le_of_membersWith? members depth [] values literal.2
      (Nat.zero_le _) readMembers)

theorem itemsNesting_le_of_itemsWith? : ∀ (items : List Tree) (depth : Nat) (values : List Json),
    areLiteral items = true → itemsWith? read? depth items = some values →
    itemsNesting values ≤ depth
  | [], _, _, _, read => by
    cases read
    exact Nat.zero_le _
  | item :: rest, depth, values, literal, read => by
    rw [areLiteral, Bool.and_eq_true] at literal
    rw [itemsWith?] at read
    split at read
    · cases read
    · next v value =>
      obtain ⟨others, readRest, rfl⟩ := Option.map_eq_some_iff.1 read
      exact max_le (nesting_le_of_valueWith? item depth v literal.1 value)
        (itemsNesting_le_of_itemsWith? rest depth others literal.2 readRest)

theorem membersNesting_le_of_membersWith? : ∀ (ms : List (List Piece × Tree)) (depth : Nat)
    (done members : List (String × Json)), membersAreLiteral ms = true →
    membersNesting done ≤ depth → membersWith? read? depth done ms = some members →
    membersNesting members ≤ depth
  | [], _, _, _, _, shallow, read => by
    cases read
    exact shallow
  | (key, item) :: rest, depth, done, members, literal, shallow, read => by
    rw [membersAreLiteral, Bool.and_eq_true] at literal
    rw [membersWith?] at read
    split at read
    · next k v text value =>
      have item_shallow := nesting_le_of_valueWith? item depth v literal.1 value
      refine membersNesting_le_of_membersWith? rest depth _ members literal.2 ?_ read
      refine membersNesting_le_iff.2 fun m member => ?_
      rcases mem_insert member with rfl | member
      · exact item_shallow
      · exact membersNesting_le_iff.1 shallow m member
    · cases read

end

end Json

end TraceQuery
