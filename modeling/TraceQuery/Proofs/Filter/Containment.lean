import TraceQuery.Proofs.Filter.Complement

/-!
A filter that asks for a text finds the texts that contain it, up to the case of ASCII letters. No
character of the text asked for has a meaning of its own.
-/

set_option autoImplicit false
namespace TraceQuery

open Sql (Operand Predicate Primitives Record)
open Sql.Like (Item containing escape isMeta items?)

def Sql.Primitives.MatchesTexts (p : Primitives) : Prop :=
  ∀ s pattern : String,
    p.resembles (.text s) pattern = Sql.Like.resembles false pattern.toList s.toList

theorem Sql.Primitives.matchesTexts_ofTexts : ofTexts.MatchesTexts :=
  fun _ _ => rfl

theorem Operator.truth?_contains {p : Primitives} (texts : p.MatchesTexts) {r : Record}
    {x : Operand} {s : String} {presence : ColumnValue} (reads : x.Reads p r (.text s) presence)
    (t : String) :
    (Predicate.test x (contains.condition (.text t))).truth? p r =
        some (.ofBool (Sql.Like.resembles false (containing t).toList s.toList)) ∧
      (Predicate.test x (notContains.condition (.text t))).truth? p r =
        some (.ofBool !Sql.Like.resembles false (containing t).toList s.toList) := by
  rw [reads.truth?, reads.truth?, ← texts]
  have known : p.like (.text s) (containing t) = .ofBool (p.resembles (.text s) (containing t)) :=
    rfl
  simp only [condition, Sql.Condition.verdict, known, ColumnValue.isNull]
  cases p.resembles (.text s) (containing t) <;> simp [Truth.ofBool, Truth.not, Truth.or]

/--
The pattern for a text matches a string exactly if the text stands in it. Its items are the
characters of the text between two wildcards, so no escape dangles. To escape one special character
after the other is to escape each of them once, and no two texts have one pattern. So the filter
`contains` is true of a text that the text asked for stands in, and `not_contains` of every other.
-/
theorem contains_finds_substrings :
    (∀ t s : String, Sql.Like.resembles false (containing t).toList s.toList = true ↔
      t.toList.map Char.toLower <:+: s.toList.map Char.toLower) ∧
    (∀ t : String, items? false (containing t).toList =
      some (.anyText :: (t.toList.map .exactly ++ [.anyText]))) ∧
    (∀ text : List Char, escape text = text.flatMap fun c => if isMeta c then ['\\', c] else [c]) ∧
    Function.Injective containing ∧
    ∀ (p : Primitives) (r : Record) (x : Operand) (t s : String) (presence : ColumnValue),
      p.MatchesTexts → x.Reads p r (.text s) presence →
        ((Predicate.test x (Operator.contains.condition (.text t))).truth? p r = some .true ↔
          t.toList.map Char.toLower <:+: s.toList.map Char.toLower) ∧
        ((Predicate.test x (Operator.notContains.condition (.text t))).truth? p r = some .true ↔
          ¬t.toList.map Char.toLower <:+: s.toList.map Char.toLower) := by
  refine ⟨Sql.Like.resembles_containing_iff, Sql.Like.items?_containing,
    Sql.Like.escape_eq_flatMap, Sql.Like.containing_injective, ?_⟩
  intro p r x t s presence texts reads
  obtain ⟨asked, denied⟩ := Operator.truth?_contains texts reads t
  rw [asked, denied, ← Sql.Like.resembles_containing_iff]
  simp

theorem contains_finds_substrings_special :
    let r : Record := ⟨fun _ => .text "Was 50%_OFF\\", fun _ => none⟩
    let x : Operand := .column "spans.name"
    Primitives.ofTexts.MatchesTexts ∧
      x.Reads .ofTexts r (.text "Was 50%_OFF\\") (.text "Was 50%_OFF\\") ∧
      (Predicate.test x (Operator.contains.condition (.text "%_off\\"))).truth? .ofTexts r =
        some .true ∧
      (Predicate.test x (Operator.notContains.condition (.text "5_%"))).truth? .ofTexts r =
        some .true := by
  intro r x
  have texts := Primitives.matchesTexts_ofTexts
  have reads : x.Reads .ofTexts r (.text "Was 50%_OFF\\") (.text "Was 50%_OFF\\") :=
    Operand.reads_column "spans.name"
  obtain ⟨-, -, -, -, filters⟩ := contains_finds_substrings
  have found := (filters .ofTexts r x "%_off\\" _ _ texts reads).1
  have missed := (filters .ofTexts r x "5_%" _ _ texts reads).2
  exact ⟨texts, reads, found.2 (by decide), missed.2 (by decide)⟩

end TraceQuery
