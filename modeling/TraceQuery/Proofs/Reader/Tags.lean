import TraceQuery.Proofs.Reader.Fetch
import TraceQuery.Reader.Basic

/-!
What the calls about tags do with their statements. Beside what they return they only warn, of
rows that they leave out and of names that collide.
-/

set_option autoImplicit false
namespace TraceQuery

variable {σ : Type}

def Catalog.ofRows (registry : Registry) (rows : List Row) : List TagInfo :=
  merge registry ((SpanReader.successes DiscoveredTag.ofRow rows).filterMap id)

namespace SpanReader

section
variable {r : SpanReader} {s : Session σ} {deadline : Option Nat}

theorem tags_of_noDeadline (untimed : r.scoped? s = none) (executor : Executor σ) :
    r.tags executor s = (.noDeadline, s) := by
  rw [tags, untimed]

theorem tags_of_timed (timed : r.scoped? s = some deadline) (executor : Executor σ) :
    ∃ warnings : List Row → List Warning, r.tags executor s =
      Session.andThen (s.fetch executor deadline .listTags Discovery.statement) fun rows t =>
        (.ok (Catalog.ofRows r.registry rows), t.warn (warnings rows)) := by
  rw [tags, timed]
  exact ⟨_, rfl⟩

theorem tags_eq_ok {executor : Executor σ} {tags : List TagInfo} {after : Session σ}
    (returned : r.tags executor s = (.ok tags, after)) :
    tags = Catalog.ofRows r.registry (executor.fetch s.store Discovery.statement).1.rows := by
  cases timed : r.scoped? s with
  | none =>
    rw [tags_of_noDeadline timed] at returned
    cases returned
  | some deadline =>
    obtain ⟨warnings, called⟩ := tags_of_timed timed executor
    rw [called] at returned
    obtain ⟨rows, between, fetched, shown⟩ := Session.andThen_eq_ok returned
    obtain ⟨-, -, rfl⟩ := Session.fetch_eq_ok fetched
    cases shown
    rfl

theorem tags_of_complete {executor : Executor σ} {rows : List Row} {cancels : Bool} {store : σ}
    (active : s.context.cancelled = false) (timed : (r.scoped? s).isSome)
    (answer : executor.fetch s.store Discovery.statement = (⟨rows, .complete, cancels⟩, store)) :
    ∃ after, r.tags executor s = (.ok (Catalog.ofRows r.registry rows), after) := by
  obtain ⟨deadline, timed⟩ := Option.isSome_iff_exists.1 timed
  obtain ⟨warnings, called⟩ := tags_of_timed timed executor
  rw [called, Session.fetch_of_complete active answer]
  exact ⟨_, rfl⟩

variable {request : TagValuesRequest} {tag : String}

theorem valuesUnder_of_error {e : BuildError}
    (failed : request.plan tag r.registry r.settings.maxTagValues = .error e)
    (executor : Executor σ) (deadline : Option Nat) (s : Session σ) :
    r.valuesUnder executor deadline request tag s = (.error (.build e), s) := by
  rw [valuesUnder, failed]

theorem valuesUnder_of_plan {plan : TagValuesPlan}
    (built : request.plan tag r.registry r.settings.maxTagValues = .ok plan)
    (executor : Executor σ) (deadline : Option Nat) (s : Session σ) :
    ∃ warnings : List Row → List Warning, r.valuesUnder executor deadline request tag s =
      Session.andThen (s.fetch executor deadline .tagValues plan.statement) fun rows t =>
        (.ok (ranked rows), t.warn (warnings rows)) := by
  rw [valuesUnder, built]
  exact ⟨_, rfl⟩

theorem tagValues_of_complete {plan : TagValuesPlan} {executor : Executor σ} {rows : List Row}
    {cancels : Bool} {store : σ} (active : s.context.cancelled = false)
    (timed : (r.scoped? s).isSome)
    (built : request.plan tag r.registry r.settings.maxTagValues = .ok plan)
    (answer : executor.fetch s.store plan.statement = (⟨rows, .complete, cancels⟩, store)) :
    ∃ after, r.tagValues executor request tag s = (.ok (ranked rows), after) := by
  obtain ⟨deadline, timed⟩ := Option.isSome_iff_exists.1 timed
  obtain ⟨warnings, called⟩ := valuesUnder_of_plan built executor deadline s
  rw [tagValues, timed]
  simp only
  rw [called, Session.fetch_of_complete active answer]
  exact ⟨_, rfl⟩

end

end SpanReader

end TraceQuery
