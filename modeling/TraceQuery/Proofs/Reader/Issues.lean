import TraceQuery.Proofs.Reader.Batch
import TraceQuery.Proofs.Reader.Outcome

/-!
The statements that a call issues. Each is issued before anybody has cancelled, and what the call
leaves of its session, apart from the clock and the warnings, is what the store makes of them.
-/

set_option autoImplicit false
namespace TraceQuery

open Sql (Statement)

variable {σ α β : Type}

def Executor.answers (executor : Executor σ) : σ → List Statement → List Execution
  | _, [] => []
  | store, statement :: statements =>
    let (execution, after) := executor.fetch store statement
    execution :: answers executor after statements

namespace Session

/-! ## Sessions and the statements between them -/

/-- A session apart from its clock and its warnings. -/
def lasting (s : Session σ) : Session σ :=
  { s with now := 0, warnings := [] }

def issue (s : Session σ) (executor : Executor σ) (statement : Statement) : Session σ :=
  { s with
    store := (executor.fetch s.store statement).2
    context := { s.context with cancelled := (executor.fetch s.store statement).1.cancels }
    issued := s.issued ++ [statement] }

/-- The statements, issued in order and each before anybody has cancelled, lead from one session
to the other. -/
inductive Issues (executor : Executor σ) : Session σ → List Statement → Session σ → Prop
  | none {s t : Session σ} (same : t.lasting = s.lasting) : Issues executor s [] t
  | next {s t : Session σ} {statement : Statement} {statements : List Statement}
      (active : s.context.cancelled = false)
      (rest : Issues executor (s.issue executor statement) statements t) :
      Issues executor s (statement :: statements) t

theorem lasting_eq_iff {s t : Session σ} :
    t.lasting = s.lasting ↔ t.store = s.store ∧ t.context = s.context ∧ t.issued = s.issued := by
  simp [lasting]

theorem context_of_lasting {s t : Session σ} (same : t.lasting = s.lasting) :
    t.context = s.context :=
  (lasting_eq_iff.1 same).2.1

theorem lasting_of_unwarned {s t : Session σ} (same : t.unwarned = s.unwarned) :
    t.lasting = s.lasting :=
  congrArg (fun u : Session σ => { u with now := 0 }) same

theorem lasting_issue {s t : Session σ} (same : t.lasting = s.lasting) (executor : Executor σ)
    (statement : Statement) :
    (t.issue executor statement).lasting = (s.issue executor statement).lasting := by
  obtain ⟨store, context, now, issued, warnings⟩ := s
  obtain ⟨store', context', now', issued', warnings'⟩ := t
  cases same
  rfl

namespace Issues

variable {executor : Executor σ} {s t u : Session σ} {first second statements : List Statement}

theorem of_lasting (issues : Issues executor s statements u) (same : t.lasting = s.lasting) :
    Issues executor t statements u := by
  induction issues generalizing t with
  | none left => exact .none (left.trans same.symm)
  | @next s u statement statements active rest ih =>
    exact .next (context_of_lasting same ▸ active) (ih (lasting_issue same executor statement))

theorem trans (before : Issues executor s first t) (after : Issues executor t second u) :
    Issues executor s (first ++ second) u := by
  induction before with
  | none same => exact after.of_lasting same.symm
  | next active _ ih => exact .next active (ih after)

theorem of_cancelled (issues : Issues executor s statements t)
    (cancelled : s.context.cancelled = true) : statements = [] ∧ t.lasting = s.lasting := by
  cases issues with
  | none same => exact ⟨rfl, same⟩
  | next active _ => simp [cancelled] at active

theorem issued (issues : Issues executor s statements t) : t.issued = s.issued ++ statements := by
  induction issues with
  | none same => rw [(lasting_eq_iff.1 same).2.2, List.append_nil]
  | next _ _ ih => simpa [issue] using ih

/-- The context is cancelled by the store alone, and only while the last statement is issued. -/
theorem cancelled (issues : Issues executor s statements t) :
    t.context.cancelled =
        (s.context.cancelled || (executor.answers s.store statements).any (·.cancels)) ∧
      ∀ e ∈ (executor.answers s.store statements).dropLast, e.cancels = false := by
  induction issues with
  | none same => simp [context_of_lasting same, Executor.answers]
  | @next s t statement statements active rest ih =>
    obtain ⟨context, last⟩ := ih
    refine ⟨?_, ?_⟩
    · simpa [active, Executor.answers, issue] using context
    · -- A statement after the first one is issued only if the first one has not cancelled.
      cases statements with
      | nil => simp [Executor.answers]
      | cons second statements =>
        have quiet : (executor.fetch s.store statement).1.cancels = false := by
          cases rest with
          | next active _ => exact active
        exact List.forall_mem_cons.2 ⟨quiet, last⟩

end Issues

/-! ## The statements of each call -/

theorem issues_fetch (s : Session σ) (executor : Executor σ) (deadline : Option Nat)
    (stage : QueryStage) (statement : Statement) :
    ∃ statements, Issues executor s statements
      (s.fetch executor deadline stage statement).2 := by
  cases active : s.context.cancelled with
  | true =>
    rw [fetch_of_cancelled active]
    exact ⟨[], .none rfl⟩
  | false =>
    refine ⟨[statement], .next active (.none ?_)⟩
    have alone : ({ s.context with deadline } : Context).cancelled = false := active
    simp only [fetch, Context.run_of_active alone, if_true, lasting, issue, Execution.work]

theorem issues_andThen {executor : Executor σ} {s : Session σ} {call : Outcome α × Session σ}
    {next : α → Session σ → Outcome β × Session σ} {statements : List Statement}
    (issues : Issues executor s statements call.2)
    (kept : ∀ a t, (next a t).2.lasting = t.lasting) :
    Issues executor s statements (andThen call next).2 := by
  have same := kept_andThen lasting kept call
  simpa using issues.trans (.none same)

end Session

namespace SpanReader

section
variable (r : SpanReader) (executor : Executor σ) (s : Session σ)

theorem issues_search (request : SearchRequest) :
    ∃ statements, Session.Issues executor s statements (r.search executor request s).2 := by
  cases built : r.plan request with
  | error e =>
    rw [search_of_error built]
    exact ⟨[], .none rfl⟩
  | ok plan =>
    cases timed : r.scoped? s with
    | none =>
      rw [search_of_noDeadline built timed]
      exact ⟨[], .none rfl⟩
    | some deadline =>
      obtain ⟨statements, issues⟩ := s.issues_fetch executor deadline .search plan.statement
      rw [search_of_timed built timed]
      exact ⟨statements, Session.issues_andThen issues fun _ _ => rfl⟩

theorem issues_tags :
    ∃ statements, Session.Issues executor s statements (r.tags executor s).2 := by
  cases timed : r.scoped? s with
  | none =>
    rw [tags_of_noDeadline timed]
    exact ⟨[], .none rfl⟩
  | some deadline =>
    obtain ⟨warnings, called⟩ := tags_of_timed timed executor
    obtain ⟨statements, issues⟩ := s.issues_fetch executor deadline .listTags Discovery.statement
    rw [called]
    exact ⟨statements, Session.issues_andThen issues fun _ _ => rfl⟩

variable (deadline : Option Nat) (request : TagValuesRequest)

theorem issues_valuesUnder (tag : String) :
    ∃ statements, Session.Issues executor s statements
      (r.valuesUnder executor deadline request tag s).2 := by
  cases built : request.plan tag r.registry r.settings.maxTagValues with
  | error e =>
    rw [valuesUnder_of_error built]
    exact ⟨[], .none rfl⟩
  | ok plan =>
    obtain ⟨warnings, called⟩ := valuesUnder_of_plan built executor deadline s
    obtain ⟨statements, issues⟩ := s.issues_fetch executor deadline .tagValues plan.statement
    rw [called]
    exact ⟨statements, Session.issues_andThen issues fun _ _ => rfl⟩

theorem issues_batchUnder (tags : List String) (done : NameMap TagValues) :
    ∃ statements, Session.Issues executor s statements
      (r.batchUnder executor deadline request tags done s).2 := by
  induction tags generalizing s done with
  | nil => exact ⟨[], .none rfl⟩
  | cons tag rest ih =>
    obtain ⟨first, single⟩ := r.issues_valuesUnder executor s deadline request tag
    cases halts : (r.valuesUnder executor deadline request tag s).1.halts with
    | true =>
      rcases batchUnder_cons_of_halts halts done rest with
        ⟨e, u, -, called, ended⟩ | ⟨u, called, ended⟩ <;>
      · rw [called] at single
        rw [ended]
        exact ⟨first, single⟩
    | false =>
      obtain ⟨u, left, batch⟩ := batchUnder_cons_of_passed halts done
      obtain ⟨second, others⟩ := ih u _
      rw [batch]
      -- Between two tags nothing but warnings is added.
      have between : Session.Issues executor s first u :=
        List.append_nil first ▸ single.trans (.none (Session.lasting_of_unwarned left))
      exact ⟨first ++ second, between.trans others⟩

end

end SpanReader

end TraceQuery
