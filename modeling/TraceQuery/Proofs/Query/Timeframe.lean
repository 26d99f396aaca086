import TraceQuery.Proofs.Query.Plan
import TraceQuery.Proofs.Sql.Truth

/-!
Which spans a timeframe lets in. A bound beyond all stored integers is bound as the greatest of
them. An upper one lets every span in then, as it should. A lower one should keep every span out,
and lets in those that start at the greatest stored time.
-/

set_option autoImplicit false
namespace TraceQuery

open Sql (Comparison Predicate Primitives Record conjunction?)

namespace Sql

def Comparison.Holds : Comparison → Int → Int → Prop
  | .equal, m, n => m = n
  | .greater, m, n => n < m
  | .greaterOrEqual, m, n => n ≤ m
  | .less, m, n => m < n
  | .lessOrEqual, m, n => m ≤ n

instance (c : Comparison) (m n : Int) : Decidable (c.Holds m n) := by
  cases c <;> unfold Comparison.Holds <;> infer_instance

/-- Stored integers are compared with bound ones as numbers. -/
def Primitives.ComparesIntegers (p : Primitives) : Prop :=
  ∀ (c : Comparison) (m n : Int64),
    p.compares c (.integer m) (.integer n) = decide (c.Holds m.toInt n.toInt)

def Primitives.ofIntegers : Primitives where
  member? _ _ := none
  plain _ := .null
  compares c v b :=
    match v, b with
    | .integer m, .integer n => c.Holds m.toInt n.toInt
    | _, _ => false
  resembles _ _ := false

theorem Primitives.comparesIntegers_ofIntegers : ofIntegers.ComparesIntegers :=
  fun _ _ _ => rfl

variable {p : Primitives} {r : Record}

theorem truth?_compare_integer (numeric : p.ComparesIntegers) {column : String} {m : Int64}
    (stored : r.value column = .integer m) (c : Comparison) (n : Int64) :
    (Predicate.test (.column column) (.compare c (.integer n))).truth? p r =
      some (.ofBool (decide (c.Holds m.toInt n.toInt))) := by
  rw [← numeric]
  simp [Predicate.truth?, Predicate.expression, Condition.expression, Expression.truth?,
    Operand.valueTerm, Term.value?, stored, Primitives.compared, ColumnValue.isNull]

theorem conjunction?_of_known {qs : List Predicate} (known : ∀ q ∈ qs, ∃ t, q.truth? p r = some t) :
    ∃ t, conjunction? p r qs = some t ∧ (t = .true ↔ ∀ q ∈ qs, q.truth? p r = some .true) := by
  induction qs with
  | nil => exact ⟨.true, rfl, by simp⟩
  | cons q rest ih =>
    obtain ⟨s, first⟩ := known q List.mem_cons_self
    obtain ⟨t, others, all⟩ := ih fun q member => known q (.tail _ member)
    exact ⟨s.and t, by simp [conjunction?, first, others], by simp [first, all]⟩

end Sql

/-! ## Bounds as parameters -/

theorem toInt_saturated (n : UInt64) :
    (saturated n).toInt = min (n.toNat : Int) Int64.maxValue.toInt := by
  have least : Int64.minValue.toInt ≤ (n.toNat : Int) :=
    Int.le_trans (by decide) (Int.natCast_nonneg n.toNat)
  unfold saturated
  cases stored : Word.int64? n.toNat with
  | some w =>
    have value := Word.int64?_eq_some_iff.1 stored
    have greatest := w.toInt_le
    rw [Option.getD_some]
    omega
  | none =>
    -- No word is below the least integer, so this one is beyond the greatest.
    have beyond : ¬(n.toNat : Int) ≤ Int64.maxValue.toInt := fun within => by
      rw [Word.int64?, if_pos ⟨least, within⟩] at stored
      cases stored
    rw [Option.getD_none]
    omega

theorem le_saturated_iff {n : UInt64} {m : Int64} :
    m.toInt ≤ (saturated n).toInt ↔ m.toInt ≤ n.toNat := by
  have greatest := m.toInt_le
  rw [toInt_saturated]
  omega

theorem saturated_le_iff {n : UInt64} {m : Int64} :
    (saturated n).toInt ≤ m.toInt ↔ (n.toNat : Int) ≤ m.toInt ∨ m = Int64.maxValue := by
  have greatest := m.toInt_le
  rw [toInt_saturated, ← Int64.toInt_inj]
  omega

/-! ## Spans within bounds -/

structure Timeframe.Admits (t : Timeframe) (start stop : Int) : Prop where
  start (n : UInt64) : t.start = some n → (n.toNat : Int) ≤ start
  stop (n : UInt64) : t.stop = some n → stop ≤ (n.toNat : Int)

structure Sql.Record.Lasts (r : Record) (start stop : Int64) : Prop where
  start : r.value "spans.start_time_unix_nano" = .integer start
  stop : r.value "spans.end_time_unix_nano" = .integer stop

section Bounds

variable {p : Primitives} {r : Record} {start stop : Int64}

theorem truth?_startBound (numeric : p.ComparesIntegers) (lasts : r.Lasts start stop)
    (n : UInt64) :
    (startBound n).truth? p r =
      some (.ofBool (decide ((n.toNat : Int) ≤ start.toInt ∨ start = Int64.maxValue))) := by
  rw [startBound, Sql.truth?_compare_integer numeric lasts.start]
  exact congrArg (some ∘ Truth.ofBool) (decide_eq_decide.2 saturated_le_iff)

theorem truth?_stopBound (numeric : p.ComparesIntegers) (lasts : r.Lasts start stop)
    (n : UInt64) :
    (stopBound n).truth? p r = some (.ofBool (decide (stop.toInt ≤ (n.toNat : Int)))) := by
  rw [stopBound, Sql.truth?_compare_integer numeric lasts.stop]
  exact congrArg (some ∘ Truth.ofBool) (decide_eq_decide.2 le_saturated_iff)

theorem known_timeframePredicates (numeric : p.ComparesIntegers) (lasts : r.Lasts start stop)
    (timeframe : Option Timeframe) :
    ∀ q ∈ timeframePredicates timeframe, ∃ t, q.truth? p r = some t := by
  intro q member
  obtain ⟨f, -, ⟨n, -, rfl⟩ | ⟨n, -, rfl⟩⟩ := mem_timeframePredicates.1 member
  · exact ⟨_, truth?_startBound numeric lasts n⟩
  · exact ⟨_, truth?_stopBound numeric lasts n⟩

theorem timeframePredicates_true_iff (numeric : p.ComparesIntegers) (lasts : r.Lasts start stop)
    (timeframe : Option Timeframe) :
    (∀ q ∈ timeframePredicates timeframe, q.truth? p r = some .true) ↔ ∀ f, timeframe = some f →
      (∀ n, f.start = some n → (n.toNat : Int) ≤ start.toInt ∨ start = Int64.maxValue) ∧
      ∀ n, f.stop = some n → stop.toInt ≤ (n.toNat : Int) := by
  constructor
  · refine fun all f given => ⟨fun n bound => ?_, fun n bound => ?_⟩
    · have first := all _ (mem_timeframePredicates.2 ⟨f, given, .inl ⟨n, bound, rfl⟩⟩)
      simpa [truth?_startBound numeric lasts] using first
    · have last := all _ (mem_timeframePredicates.2 ⟨f, given, .inr ⟨n, bound, rfl⟩⟩)
      simpa [truth?_stopBound numeric lasts] using last
  · intro within q member
    obtain ⟨f, given, ⟨n, bound, rfl⟩ | ⟨n, bound, rfl⟩⟩ := mem_timeframePredicates.1 member
    · simpa [truth?_startBound numeric lasts] using (within f given).1 n bound
    · simpa [truth?_stopBound numeric lasts] using (within f given).2 n bound

end Bounds

/--
The predicates of a timeframe, as they are written and with the parameters they bind, are decided
of every span. They are true exactly if the span is within both bounds, where a span that starts at
the greatest stored time is within every lower bound. So they mean what the bounds say, unless the
span starts then and the lower bound is beyond.
-/
theorem timeframe_lets_in {p : Primitives} (numeric : p.ComparesIntegers) {r : Record}
    {start stop : Int64} (lasts : r.Lasts start stop) (timeframe : Option Timeframe) :
    (∀ q ∈ timeframePredicates timeframe,
      q.expression.text = q.text ∧ q.expression.params = q.params) ∧
    ∃ t, conjunction? p r (timeframePredicates timeframe) = some t ∧
      (t = .true ↔ ∀ f, timeframe = some f →
        (∀ n, f.start = some n → (n.toNat : Int) ≤ start.toInt ∨ start = Int64.maxValue) ∧
        ∀ n, f.stop = some n → stop.toInt ≤ (n.toNat : Int)) ∧
      ((start = Int64.maxValue → ∀ f n, timeframe = some f → f.start = some n →
          (n.toNat : Int) ≤ Int64.maxValue.toInt) →
        (t = .true ↔ ∀ f, timeframe = some f → f.Admits start.toInt stop.toInt)) := by
  obtain ⟨t, shown, all⟩ :=
    Sql.conjunction?_of_known (known_timeframePredicates numeric lasts timeframe)
  have bounds := all.trans (timeframePredicates_true_iff numeric lasts timeframe)
  refine ⟨fun q _ => ⟨q.text_expression, q.params_expression⟩, t, shown, bounds, fun near => ?_⟩
  rw [bounds]
  refine forall₂_congr fun f given => ⟨fun within => ⟨fun n bound => ?_, within.2⟩, fun admits =>
    ⟨fun n bound => .inl (admits.start n bound), admits.stop⟩⟩
  rcases within.1 n bound with before | greatest
  · exact before
  · exact greatest ▸ near greatest f n given bound

/-- The last span that can be stored, within the narrowest bounds around it. -/
theorem timeframe_lets_in_last :
    let greatest := Int64.maxValue
    let r : Record := ⟨fun _ => .integer greatest, fun _ => none⟩
    let f : Timeframe := ⟨some 9223372036854775807, some 9223372036854775808⟩
    Primitives.ofIntegers.ComparesIntegers ∧ r.Lasts greatest greatest ∧
      conjunction? .ofIntegers r (timeframePredicates (some f)) = some .true := by
  intro greatest r f
  have numeric := Primitives.comparesIntegers_ofIntegers
  have lasts : r.Lasts greatest greatest := ⟨rfl, rfl⟩
  obtain ⟨-, t, shown, bounds, -⟩ := timeframe_lets_in numeric lasts (some f)
  have holds : t = .true := by
    refine bounds.2 fun _ given => ?_
    cases given
    exact ⟨fun _ _ => .inr rfl, fun n bound => by cases bound; decide⟩
  exact ⟨numeric, lasts, by rw [shown, holds]⟩

/-- The last span that can be stored starts before the lower bound, and is let in all the same. -/
theorem timeframe_lets_in_too_early :
    let greatest := Int64.maxValue
    let r : Record := ⟨fun _ => .integer greatest, fun _ => none⟩
    let f : Timeframe := ⟨some 9223372036854775808, none⟩
    r.Lasts greatest greatest ∧
      conjunction? .ofIntegers r (timeframePredicates (some f)) = some .true ∧
      ¬f.Admits greatest.toInt greatest.toInt := by
  intro greatest r f
  refine ⟨⟨rfl, rfl⟩, by decide +kernel, fun admits => ?_⟩
  exact absurd (admits.start 9223372036854775808 rfl) (by decide)

end TraceQuery
