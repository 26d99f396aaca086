import TraceQuery.Proofs.Sql.Filled

/-!
Names that a text does not have in it. A text of fixed pieces with columns between them has a name
in it only if a piece or a column has, because no piece begins or ends with a letter of the name.
-/

set_option autoImplicit false
namespace TraceQuery.Sql

def Lacks (name s : String) : Prop :=
  ¬name.toList <:+: s.toList

def isPart (letters : List Char) : List Char → Bool
  | [] => letters.isEmpty
  | c :: rest => letters.isPrefixOf (c :: rest) || isPart letters rest

theorem isPart_iff {letters text : List Char} : isPart letters text = true ↔ letters <:+: text := by
  induction text with
  | nil => simp [isPart]
  | cons c rest ih => simp [isPart, ih, List.infix_cons_iff]

instance (name s : String) : Decidable (Lacks name s) :=
  decidable_of_iff (isPart name.toList s.toList = false) (by simp [Lacks, ← isPart_iff])

/-- The text does not end with the beginning of the name either. -/
structure Ends (name s : String) : Prop where
  lacks : Lacks name s
  last : s.toList.getLast?.any (· ∉ name.toList)

/-- The text does not begin with the end of the name either. -/
structure Parts (name s : String) : Prop extends Ends name s where
  first : s.toList.head?.any (· ∉ name.toList)

instance (name s : String) : Decidable (Parts name s) :=
  decidable_of_iff (Lacks name s ∧ s.toList.getLast?.any (· ∉ name.toList) ∧
      s.toList.head?.any (· ∉ name.toList))
    ⟨fun ⟨lacks, last, first⟩ => ⟨⟨lacks, last⟩, first⟩,
      fun parts => ⟨parts.lacks, parts.last, parts.first⟩⟩

variable {name s t : String}

theorem lacks_append (left : Lacks name s) (right : Lacks name t)
    (apart : s.toList.getLast?.any (· ∉ name.toList) ∨ t.toList.head?.any (· ∉ name.toList)) :
    Lacks name (s ++ t) := by
  rintro ⟨before, after, whole⟩
  rw [String.toList_append, List.append_assoc] at whole
  unfold Lacks at left right
  generalize name.toList = letters at *
  generalize s.toList = s at *
  generalize t.toList = t at *
  rcases List.append_eq_append_iff.1 whole with ⟨inside, rfl, rest⟩ | ⟨inside, rfl, rfl⟩
  · rcases List.append_eq_append_iff.1 rest with ⟨others, rfl, rfl⟩ | ⟨others, rfl, rfl⟩
    · exact left ⟨before, others, by simp⟩
    -- The name begins in the one text and ends in the other, unless one of them has it all.
    · rcases apart with last | first
      · rcases List.eq_nil_or_concat inside with rfl | ⟨start, d, rfl⟩
        · exact right ⟨[], after, rfl⟩
        · simp_all
      · cases others with
        | nil => exact left ⟨before, [], by simp⟩
        | cons d others => simp_all
  · exact right ⟨inside, after, by simp⟩

theorem Ends.append (left : Ends name s) (right : Lacks name t) : Lacks name (s ++ t) :=
  lacks_append left.lacks right (.inl left.last)

theorem Lacks.append (left : Lacks name s) (right : Parts name t) : Ends name (s ++ t) := by
  refine ⟨lacks_append left right.lacks (.inr right.first), ?_⟩
  have last := right.last
  rw [String.toList_append, List.getLast?_append]
  cases ends : t.toList.getLast? with
  | none => simp [ends] at last
  | some c => rwa [ends] at last

/-! ## The names that a count of tag values introduces -/

/-- The element that has the tag, its value there, and how often that occurs. -/
def countNames : List String := ["tag_item", "tag_value", "tag_count"]

theorem Parts.of_all (among : name ∈ countNames) (all : ∀ n ∈ countNames, Parts n s) :
    Parts name s :=
  all name among

/-- No letter of the text is a letter of these names. -/
def Foreign (s : String) : Prop :=
  ∀ n ∈ countNames, s.toList.all (· ∉ n.toList)

instance (s : String) : Decidable (Foreign s) :=
  inferInstanceAs (Decidable (∀ n ∈ countNames, s.toList.all (· ∉ n.toList)))

theorem Foreign.append (left : Foreign s) (right : Foreign t) : Foreign (s ++ t) := by
  intro n among
  rw [String.toList_append, List.all_append, left n among, right n among]
  rfl

theorem Foreign.lacks (foreign : Foreign s) (among : name ∈ countNames) : Lacks name s := by
  have letters : ∀ n ∈ countNames, 't' ∈ n.toList := by decide
  intro part
  have apart := List.all_eq_true.1 (foreign name among) 't' (part.subset (letters name among))
  exact of_decide_eq_true apart (letters name among)

theorem Operand.lacks_call {function document : String}
    (among : name ∈ countNames) (named : Parts name function) (lacks : Lacks name document) :
    Lacks name (function ++ document ++ ", ?)") :=
  ((named.append lacks).append (.of_all among (by decide))).lacks

theorem Operand.lacks_value {o : Operand} (among : name ∈ countNames)
    (lacks : Lacks name o.source) : Lacks name o.value := by
  cases o with
  | column column => exact lacks
  | member document path => exact lacks_call among (.of_all among (by decide)) lacks

theorem Operand.lacks_presence {o : Operand} (among : name ∈ countNames)
    (lacks : Lacks name o.source) : Lacks name o.presence := by
  cases o with
  | column column => exact lacks
  | member document path => exact lacks_call among (.of_all among (by decide)) lacks

theorem Condition.foreign_marks (values : List BindValue) : Foreign (marks values) := by
  refine joined_of (by decide) Foreign.append (by decide) fun s member => ?_
  obtain ⟨_, -, rfl⟩ := List.mem_map.1 member
  decide

theorem Condition.lacks_text {o : Operand} (among : name ∈ countNames)
    (lacks : Lacks name o.source) (c : Condition) : Lacks name (c.text o) := by
  have value := Operand.lacks_value among lacks
  have presence := Operand.lacks_presence among lacks
  have opened : Parts name "(" := .of_all among (by decide)
  have orNot : Parts name " IS NULL OR " := .of_all among (by decide)
  have either := (((opened.append value).append orNot).append value)
  cases c with
  | compare comparison v =>
    have blank : Parts name " " := .of_all among (by decide)
    have symbol : Parts name comparison.symbol := .of_all among (by cases comparison <;> decide)
    have mark : Parts name " ?" := .of_all among (by decide)
    exact (((value.append blank).append symbol.lacks).append mark).lacks
  | isIn values =>
    have list : Parts name " IN (" := .of_all among (by decide)
    have closed : Parts name ")" := .of_all among (by decide)
    exact (((value.append list).append ((foreign_marks values).lacks among)).append closed).lacks
  | notIn values =>
    have list : Parts name " NOT IN (" := .of_all among (by decide)
    have closed : Parts name "))" := .of_all among (by decide)
    exact (((either.append list).append ((foreign_marks values).lacks among)).append closed).lacks
  | like pattern =>
    have matching : Parts name " LIKE ? ESCAPE '\\'" := .of_all among (by decide)
    exact (value.append matching).lacks
  | notLike pattern =>
    have matching : Parts name " NOT LIKE ? ESCAPE '\\')" := .of_all among (by decide)
    exact (either.append matching).lacks
  | present =>
    have asked : Parts name " IS NOT NULL" := .of_all among (by decide)
    exact (presence.append asked).lacks
  | absent =>
    have asked : Parts name " IS NULL" := .of_all among (by decide)
    exact (presence.append asked).lacks
  | never =>
    have fixed : Parts name "0=1" := .of_all among (by decide)
    exact fixed.lacks

theorem Predicate.lacks_existsText {column path : String} (among : name ∈ countNames)
    (lacks : Lacks name column) (c : Condition) : Lacks name (existsText column path c) := by
  have opened : Parts name "EXISTS (SELECT 1 FROM json_each(" := .of_all among (by decide)
  have each : Parts name ") AS nested_item WHERE " := .of_all among (by decide)
  have item : ∀ n ∈ countNames, Lacks n (element path).source := by
    have fixed : ∀ n ∈ countNames, Lacks n "nested_item.value" := by decide
    exact fixed
  have asked := Condition.lacks_text among (item name among) c
  have closed : Parts name ")" := .of_all among (by decide)
  exact ((((opened.append lacks).append each).append asked).append closed).lacks

/-- A predicate has none of these names in it that its column does not have. -/
theorem Predicate.lacks_text {p : Predicate} (among : name ∈ countNames)
    (lacks : Lacks name p.source) : Lacks name p.text := by
  cases p with
  | test operand condition => exact Condition.lacks_text among lacks condition
  | someElement column path condition => exact lacks_existsText among lacks condition
  | noElement column path condition =>
    have negated : Parts name "NOT " := .of_all among (by decide)
    exact negated.append (lacks_existsText among lacks condition)

end TraceQuery.Sql
