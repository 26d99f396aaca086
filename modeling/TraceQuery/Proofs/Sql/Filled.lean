import Mathlib.Data.List.Basic
import TraceQuery.Sql.Predicate

/-!
Texts whose placeholders have been given their parameters. A text with its parameters apart is
read like a store reads it, from left to right, and each predicate is found to fill in as it
says itself: its path inside the JSON function, its values behind the comparison.
-/

set_option autoImplicit false
namespace TraceQuery.Sql

/-- A text in which each parameter stands in its place. -/
abbrev Filled := List (Char ⊕ BindValue)

def literal (s : String) : Filled :=
  s.toList.map .inl

/-- Gives each question mark the next parameter; nothing if one of them is left over. -/
def fill : List Char → List BindValue → Option Filled
  | [], values => if values.isEmpty then some [] else none
  | c :: text, values =>
    if c = '?' then values.head?.bind fun v => (fill text values.tail).map (.inr v :: ·)
    else (fill text values).map (.inl c :: ·)

def Statement.filled? (s : Statement) : Option Filled :=
  fill s.sql.toList s.params

def IsPlain (s : String) : Prop := '?' ∉ s.toList

instance (s : String) : Decidable (IsPlain s) :=
  inferInstanceAs (Decidable ('?' ∉ s.toList))

theorem not_mem_append {c : Char} {s t : String} (left : c ∉ s.toList) (right : c ∉ t.toList) :
    c ∉ (s ++ t).toList := by
  rw [String.toList_append, List.mem_append]
  exact fun either => either.elim left right

theorem IsPlain.append {s t : String} (left : IsPlain s) (right : IsPlain t) :
    IsPlain (s ++ t) :=
  not_mem_append left right

/-- What passes on to a longer text passes on from the parts to the whole. -/
theorem joined_of {P : String → Prop} (empty : P "")
    (append : ∀ {s t : String}, P s → P t → P (s ++ t)) {separator : String} (between : P separator)
    {texts : List String} (each : ∀ s ∈ texts, P s) : P (joined separator texts) := by
  induction texts with
  | nil => exact empty
  | cons s rest ih =>
    have first := each s List.mem_cons_self
    cases rest with
    | nil => exact first
    | cons t rest =>
      exact append (append first between) (ih fun u member => each u (.tail s member))

theorem IsPlain.joined {separator : String} (plain : IsPlain separator) {texts : List String}
    (each : ∀ s ∈ texts, IsPlain s) : IsPlain (Sql.joined separator texts) :=
  joined_of (by decide) IsPlain.append plain each

/-- The text takes these parameters and becomes this. -/
def Fills (s : String) (values : List BindValue) (filled : Filled) : Prop :=
  fill s.toList values = some filled

theorem fill_append {s t : List Char} {values rest : List BindValue} {x y : Filled}
    (left : fill s values = some x) (right : fill t rest = some y) :
    fill (s ++ t) (values ++ rest) = some (x ++ y) := by
  -- Each placeholder of the first text takes a parameter, so none is left when the second begins.
  induction s generalizing values x with
  | nil =>
    cases values with
    | nil => cases left; exact right
    | cons v values => cases left
  | cons c s ih =>
    rw [List.cons_append, fill]
    rw [fill] at left
    by_cases mark : c = '?'
    · rw [if_pos mark] at left ⊢
      cases values with
      | nil => simp at left
      | cons v values =>
        obtain ⟨z, found, rfl⟩ := Option.map_eq_some_iff.1 left
        have tail : fill s values = some z := found
        simp [ih tail]
    · rw [if_neg mark] at left ⊢
      obtain ⟨z, found, rfl⟩ := Option.map_eq_some_iff.1 left
      simp [ih found]

theorem Fills.append {s t : String} {values rest : List BindValue} {x y : Filled}
    (left : Fills s values x) (right : Fills t rest y) :
    Fills (s ++ t) (values ++ rest) (x ++ y) := by
  rw [Fills, String.toList_append]
  exact fill_append left right

theorem fill_of_plain {s : List Char} (plain : '?' ∉ s) : fill s [] = some (s.map .inl) := by
  induction s with
  | nil => rfl
  | cons c s ih =>
    have other : c ≠ '?' := fun same => plain (same ▸ List.mem_cons_self)
    have tail := ih fun member => plain (List.mem_cons_of_mem c member)
    simp [fill, other, tail]

theorem Fills.literal {s : String} (plain : IsPlain s) : Fills s [] (Sql.literal s) :=
  fill_of_plain plain

theorem Fills.mark (v : BindValue) : Fills "?" [v] [.inr v] := rfl

theorem length_of_fill {s : List Char} {values : List BindValue} {x : Filled}
    (filled : fill s values = some x) : s.count '?' = values.length := by
  induction s generalizing values x with
  | nil =>
    cases values with
    | nil => rfl
    | cons v values => cases filled
  | cons c s ih =>
    rw [fill] at filled
    by_cases mark : c = '?'
    · rw [if_pos mark] at filled
      cases values with
      | nil => simp at filled
      | cons v values =>
        obtain ⟨z, found, -⟩ := Option.map_eq_some_iff.1 filled
        have tail : fill s values = some z := found
        rw [mark, List.count_cons_self, ih tail, List.length_cons]
    · rw [if_neg mark] at filled
      obtain ⟨z, found, -⟩ := Option.map_eq_some_iff.1 filled
      rw [List.count_cons_of_ne mark, ih found]

theorem Statement.placeholders_of_filled {s : Statement} {x : Filled}
    (filled : s.filled? = some x) : placeholders s.sql = s.params.length :=
  length_of_fill filled

/-! ## Texts with separators -/

def separated (separator : String) : List Filled → Filled
  | [] => []
  | [x] => x
  | x :: rest => x ++ literal separator ++ separated separator rest

theorem Fills.joined {α : Type} {separator : String} (plain : IsPlain separator)
    (text : α → String) (values : α → List BindValue) (filled : α → Filled) (items : List α)
    (each : ∀ a ∈ items, Fills (text a) (values a) (filled a)) :
    Fills (Sql.joined separator (items.map text)) (items.flatMap values)
      (separated separator (items.map filled)) := by
  induction items with
  | nil => rfl
  | cons a rest ih =>
    have first := each a List.mem_cons_self
    have others := ih fun b member => each b (List.mem_cons_of_mem a member)
    cases rest with
    | nil => simpa [Sql.joined, separated] using first
    | cons b rest =>
      simpa [Sql.joined, separated] using (first.append (.literal plain)).append others

/-! ## Predicates -/

namespace Operand

def source : Operand → String
  | .column name => name
  | .member document _ => document

def filledCall (function document path : String) : Filled :=
  literal function ++ literal document ++ (literal ", " ++ [.inr (.text path)] ++ literal ")")

theorem fills_call {function document : String} (path : String) (named : IsPlain function)
    (plain : IsPlain document) :
    Fills (function ++ document ++ ", ?)") [.text path] (filledCall function document path) := by
  have closing : Fills ", ?)" [.text path] (literal ", " ++ [.inr (.text path)] ++ literal ")") :=
    rfl
  exact ((Fills.literal named).append (.literal plain)).append closing

def filledValue : Operand → Filled
  | .column name => literal name
  | .member document path => filledCall "json_extract(" document path

def filledPresence : Operand → Filled
  | .column name => literal name
  | .member document path => filledCall "json_type(" document path

theorem fills_value {o : Operand} (plain : IsPlain o.source) :
    Fills o.value o.params o.filledValue := by
  cases o with
  | column name => exact .literal plain
  | member document path => exact fills_call path (by decide) plain

theorem fills_presence {o : Operand} (plain : IsPlain o.source) :
    Fills o.presence o.params o.filledPresence := by
  cases o with
  | column name => exact .literal plain
  | member document path => exact fills_call path (by decide) plain

end Operand

namespace Condition

def filledMarks (values : List BindValue) : Filled :=
  separated ", " (values.map fun v => [.inr v])

def filled (o : Operand) : Condition → Filled
  | .compare comparison value =>
    o.filledValue ++ literal " " ++ literal comparison.symbol ++ (literal " " ++ [.inr value])
  | .isIn values => o.filledValue ++ literal " IN (" ++ filledMarks values ++ literal ")"
  | .notIn values =>
    literal "(" ++ o.filledValue ++ literal " IS NULL OR " ++ o.filledValue ++
      literal " NOT IN (" ++ filledMarks values ++ literal "))"
  | .like pattern =>
    o.filledValue ++ (literal " LIKE " ++ [.inr (.text pattern)] ++ literal " ESCAPE '\\'")
  | .notLike pattern =>
    literal "(" ++ o.filledValue ++ literal " IS NULL OR " ++ o.filledValue ++
      (literal " NOT LIKE " ++ [.inr (.text pattern)] ++ literal " ESCAPE '\\')")
  | .present => o.filledPresence ++ literal " IS NOT NULL"
  | .absent => o.filledPresence ++ literal " IS NULL"
  | .never => literal "0=1"

theorem fills_marks (values : List BindValue) :
    Fills (marks values) values (filledMarks values) := by
  have comma : IsPlain ", " := by decide
  have each := Fills.joined comma (fun _ => "?") (fun v => [v]) (fun v => [.inr v]) values
    fun v _ => .mark v
  simpa [marks, filledMarks] using each

theorem isPlain_symbol (comparison : Comparison) : IsPlain comparison.symbol := by
  cases comparison <;> decide

theorem fills_text {o : Operand} (plain : IsPlain o.source) (c : Condition) :
    Fills (c.text o) (c.params o) (c.filled o) := by
  have value := Operand.fills_value plain
  have presence := Operand.fills_presence plain
  have fixed (s : String) (plain : IsPlain s) := Fills.literal plain
  cases c with
  | compare comparison v =>
    have last : Fills " ?" [v] (literal " " ++ [.inr v]) := rfl
    have blank := value.append (fixed " " (by decide))
    have symbol := blank.append (.literal (isPlain_symbol comparison))
    simpa [text, params, filled] using symbol.append last
  | isIn values =>
    have opened := value.append (fixed " IN (" (by decide))
    have listed := opened.append (fills_marks values)
    simpa [text, params, filled] using listed.append (fixed ")" (by decide))
  | notIn values =>
    have absent := (fixed "(" (by decide)).append value
    have either := (absent.append (fixed " IS NULL OR " (by decide))).append value
    have opened := either.append (fixed " NOT IN (" (by decide))
    have listed := opened.append (fills_marks values)
    simpa [text, params, filled] using listed.append (fixed "))" (by decide))
  | like pattern =>
    have last : Fills " LIKE ? ESCAPE '\\'" [.text pattern]
        (literal " LIKE " ++ [.inr (.text pattern)] ++ literal " ESCAPE '\\'") := rfl
    exact value.append last
  | notLike pattern =>
    have absent := (fixed "(" (by decide)).append value
    have either := (absent.append (fixed " IS NULL OR " (by decide))).append value
    have last : Fills " NOT LIKE ? ESCAPE '\\')" [.text pattern]
        (literal " NOT LIKE " ++ [.inr (.text pattern)] ++ literal " ESCAPE '\\')") := rfl
    simpa [text, params, filled] using either.append last
  | present =>
    have asked := presence.append (fixed " IS NOT NULL" (by decide))
    simpa [text, params, filled] using asked
  | absent =>
    have asked := presence.append (fixed " IS NULL" (by decide))
    simpa [text, params, filled] using asked
  | never => exact fixed "0=1" (by decide)

end Condition

namespace Predicate

def source : Predicate → String
  | .test operand _ => operand.source
  | .someElement column _ _ | .noElement column _ _ => column

def filledExists (column path : String) (condition : Condition) : Filled :=
  literal "EXISTS (SELECT 1 FROM json_each(" ++ literal column ++
    literal ") AS nested_item WHERE " ++ condition.filled (element path) ++ literal ")"

def filled : Predicate → Filled
  | .test operand condition => condition.filled operand
  | .someElement column path condition => filledExists column path condition
  | .noElement column path condition => literal "NOT " ++ filledExists column path condition

theorem fills_existsText {column path : String} (plain : IsPlain column) (c : Condition) :
    Fills (existsText column path c) (c.params (element path)) (filledExists column path c) := by
  -- The condition asks about the element, and the column is only named by what lists them.
  have inside : IsPlain (element path).source := by
    have plain : IsPlain "nested_item.value" := by decide
    exact plain
  have opened := (Fills.literal (s := "EXISTS (SELECT 1 FROM json_each(") (by decide)).append
    (.literal plain)
  have each := opened.append (.literal (s := ") AS nested_item WHERE ") (by decide))
  have asked := each.append (Condition.fills_text inside c)
  have closing := Fills.literal (s := ")") (by decide)
  have all := asked.append closing
  simp only [List.nil_append, List.append_nil] at all
  exact all

theorem fills_text {p : Predicate} (plain : IsPlain p.source) : Fills p.text p.params p.filled := by
  cases p with
  | test operand condition => exact Condition.fills_text plain condition
  | someElement column path condition => exact fills_existsText plain condition
  | noElement column path condition =>
    exact (Fills.literal (s := "NOT ") (by decide)).append (fills_existsText plain condition)

end Predicate

def filledWhere (predicates : List Predicate) : Filled :=
  if predicates.isEmpty then []
  else literal " WHERE " ++ separated " AND " (predicates.map Predicate.filled)

theorem whereParams_append (ps qs : List Predicate) :
    whereParams (ps ++ qs) = whereParams ps ++ whereParams qs :=
  List.flatMap_append

theorem fills_whereText {predicates : List Predicate}
    (plain : ∀ p ∈ predicates, IsPlain p.source) :
    Fills (whereText predicates) (whereParams predicates) (filledWhere predicates) := by
  cases predicates with
  | nil => rfl
  | cons p rest =>
    have conjunction : IsPlain " AND " := by decide
    have all := Fills.joined conjunction Predicate.text Predicate.params Predicate.filled
      (p :: rest) fun q member => Predicate.fills_text (plain q member)
    exact (Fills.literal (s := " WHERE ") (by decide)).append all

end TraceQuery.Sql
