import Mathlib.Algebra.Group.Nat.Defs
import TraceQuery.Proofs.Config.Layering
import TraceQuery.Proofs.Reader.Cancellation
import TraceQuery.Proofs.Reader.Context

/-!
The deadlines of calls under loaded settings, which may have any timeout. As long as the timeout of
a call ends before the clock does, the call has the deadline that it should have. From the first
call on whose timeout does not, no call that needs a deadline gets one, and nothing is issued.
-/

set_option autoImplicit false
namespace TraceQuery

variable {σ α β : Type}

theorem Context.add_le_lastInstant_iff {now secs : Nat} :
    now + secs * nanosPerSecond ≤ lastInstant ↔ now / nanosPerSecond + secs < 2 ^ 63 := by
  unfold lastInstant nanosPerSecond
  omega

/-! ## The deadline of a call -/

namespace Call

/-- The call has to end by this instant: the caller's deadline, or the end of its own timeout. -/
def Limit (c : Call) (s : Session σ) (e : Nat) : Prop :=
  s.context.deadline = some e ∨
    ∃ timeout, c.reader.settings.timeout = some timeout ∧ c.now + timeout = e

section
variable {c d : Call} {s : Session σ}

theorem timed_iff : c.Timed ↔ c.reader.settings.timeoutSecs = 0 ∨
    c.now / Context.nanosPerSecond + c.reader.settings.timeoutSecs.toNat < 2 ^ 63 := by
  by_cases unlimited : c.reader.settings.timeoutSecs = 0
  · simp [Timed, QuerySettings.timeout, unlimited]
  · simp [Timed, QuerySettings.timeout, unlimited, Context.add_le_lastInstant_iff]

theorem Timed.of_le (timed : d.Timed) (same : c.reader.settings = d.reader.settings)
    (le : c.now ≤ d.now) : c.Timed := by
  intro timeout set
  have told := timed timeout (same ▸ set)
  omega

theorem told_iff :
    (∀ e ∈ Context.ends [(c.now, c.reader.settings.timeout)], e ≤ Context.lastInstant) ↔
      c.Timed := by
  simp [Context.mem_ends_iff, Timed, eq_comm (a := some _)]

theorem limit_iff {e : Nat} : c.Limit s e ↔
    e ∈ s.context.deadline.toList ++ Context.ends [(c.now, c.reader.settings.timeout)] := by
  simp [Limit, Context.mem_ends_iff, eq_comm (a := some _)]

theorem scoped?_enter (c : Call) (s : Session σ) : c.reader.scoped? (c.enter s) =
    ((c.enter s).context.withTimeouts? [(c.now, c.reader.settings.timeout)]).map (·.deadline) := by
  simp [SpanReader.scoped?, Context.withTimeouts?, enter]

theorem scoped?_of_not_timed (untimed : ¬c.Timed) (s : Session σ) :
    c.reader.scoped? (c.enter s) = none := by
  rw [scoped?_enter, Context.withTimeouts?_eq, if_neg (mt told_iff.1 untimed), Option.map_none]

/-- The deadline is the first of the limits; there is none only where there is no limit. -/
theorem Timed.exists_deadline (timed : c.Timed) (s : Session σ) :
    ∃ deadline, c.reader.scoped? (c.enter s) = some deadline ∧
      ∀ e, deadline = some e ↔ IsLeast {limit | c.Limit s limit} e := by
  -- The configured timeout is set last, on a context that may have a deadline already.
  rw [scoped?_enter, Context.withTimeouts?_eq, if_pos (told_iff.2 timed)]
  refine ⟨_, rfl, fun e => ?_⟩
  rw [List.min?_eq_some_iff]
  exact and_congr limit_iff.symm (forall_congr' fun limit => imp_congr_left limit_iff.symm)

end

end Call

/-! ## Calls with a deadline and without -/

def Outcome.isTimed : Outcome α → Bool
  | .noDeadline => false
  | .returned _ | .unending => true

def Reply.isTimed : Reply → Bool
  | .search outcome => outcome.isTimed
  | .tags outcome => outcome.isTimed
  | .tagValues outcome => outcome.isTimed
  | .tagsValues outcome => outcome.isTimed

theorem Outcome.isTimed_of_ne {outcome : Outcome α} (ne : outcome ≠ .noDeadline) :
    outcome.isTimed = true := by
  cases outcome with
  | noDeadline => exact absurd rfl ne
  | returned _ => rfl
  | unending => rfl

theorem Outcome.isTimed_map (f : α → β) (outcome : Outcome α) :
    (outcome.map f).isTimed = outcome.isTimed := by
  cases outcome with
  | returned result => cases result <;> rfl
  | unending => rfl
  | noDeadline => rfl

theorem Session.isTimed_fetch (s : Session σ) (executor : Executor σ) (deadline : Option Nat)
    (stage : QueryStage) (statement : Sql.Statement) :
    (s.fetch executor deadline stage statement).1.isTimed = true := by
  rw [fetch_outcome]
  split <;> rfl

theorem Session.isTimed_andThen {next : α → Session σ → Outcome β × Session σ} {f : α → β}
    (shown : ∀ a t, (next a t).1 = .ok (f a)) (call : Outcome α × Session σ) :
    (andThen call next).1.isTimed = call.1.isTimed := by
  rw [outcome_andThen shown, Outcome.isTimed_map]

namespace SpanReader

/-- The reply to a call that finds no deadline. What is wrong with a search is told before. -/
def stopped (r : SpanReader) : Operation → Reply
  | .search request =>
    .search (match r.plan request with
      | .error e => .error e
      | .ok _ => .noDeadline)
  | .tags => .tags .noDeadline
  | .tagValues _ _ => .tagValues .noDeadline
  | .tagsValues _ _ => .tagsValues .noDeadline

section
variable {r : SpanReader} {s : Session σ} {deadline : Option Nat}

theorem perform_of_noDeadline (untimed : r.scoped? s = none) (executor : Executor σ)
    (operation : Operation) : r.perform executor operation s = (r.stopped operation, s) := by
  cases operation with
  | search request =>
    rw [perform, stopped]
    cases built : r.plan request with
    | error e => rw [search_of_error built]; rfl
    | ok plan => rw [search_of_noDeadline built untimed]; rfl
  | tags => rw [perform, tags_of_noDeadline untimed]; rfl
  | tagValues request tag => rw [perform, tagValues, untimed]; rfl
  | tagsValues request tags => rw [perform, tagsValues, untimed]; rfl

theorem isTimed_search (timed : r.scoped? s = some deadline) (executor : Executor σ)
    (request : SearchRequest) : (r.search executor request s).1.isTimed = true := by
  cases built : r.plan request with
  | error e => rw [search_of_error built]; rfl
  | ok plan =>
    rw [search_of_timed built timed, Session.isTimed_andThen (fun _ _ => rfl),
      Session.isTimed_fetch]

theorem isTimed_tags (timed : r.scoped? s = some deadline) (executor : Executor σ) :
    (r.tags executor s).1.isTimed = true := by
  obtain ⟨warnings, called⟩ := tags_of_timed timed executor
  rw [called, Session.isTimed_andThen (fun _ _ => rfl), Session.isTimed_fetch]

theorem isTimed_batchUnder (r : SpanReader) (executor : Executor σ) (deadline : Option Nat)
    (request : TagValuesRequest) (tags : List String) (s : Session σ) :
    (r.batchUnder executor deadline request tags .empty s).1.isTimed = true := by
  rcases outcome_batchUnder r executor deadline request tags s with
    ⟨-, done, ended, -⟩ | ⟨tag, e, -, -, ended⟩ | ⟨tag, -, ended⟩ <;>
  · rw [ended]
    rfl

theorem isTimed_perform (timed : r.scoped? s = some deadline) (executor : Executor σ)
    (operation : Operation) : (r.perform executor operation s).1.isTimed = true := by
  cases operation with
  | search request => exact isTimed_search timed executor request
  | tags => exact isTimed_tags timed executor
  | tagValues request tag =>
    rw [perform, tagValues, timed]
    exact Outcome.isTimed_of_ne (r.valuesUnder_ne_noDeadline executor deadline request tag s)
  | tagsValues request tags =>
    rw [perform, tagsValues, timed]
    exact r.isTimed_batchUnder executor deadline request tags s

end

end SpanReader

/-! ## Runs of calls -/

namespace Call

def stopped (c : Call) : Reply :=
  c.reader.stopped c.operation

theorem make_of_not_timed {c : Call} (untimed : ¬c.Timed) (executor : Executor σ)
    (s : Session σ) : c.make executor s = (c.stopped, c.enter s) :=
  SpanReader.perform_of_noDeadline (scoped?_of_not_timed untimed s) executor c.operation

theorem isTimed_make {c : Call} (timed : c.Timed) (executor : Executor σ) (s : Session σ) :
    (c.make executor s).1.isTimed = true := by
  obtain ⟨deadline, timed⟩ := timed.scoped? s
  exact SpanReader.isTimed_perform timed executor c.operation

theorem isTimed_run {calls : List Call} (timed : ∀ c ∈ calls, c.Timed) (executor : Executor σ)
    (s : Session σ) : ∀ reply ∈ (run executor calls s).1, reply.isTimed = true := by
  induction calls generalizing s with
  | nil => simp [run]
  | cons c rest ih =>
    obtain ⟨first, others⟩ := List.forall_mem_cons.1 timed
    exact List.forall_mem_cons.2 ⟨isTimed_make first executor s, ih others _⟩

theorem run_of_not_timed {calls : List Call} (untimed : ∀ c ∈ calls, ¬c.Timed)
    (executor : Executor σ) (s : Session σ) :
    let whole := run executor calls s
    whole.1 = calls.map stopped ∧ whole.2.issued = s.issued ∧ whole.2.store = s.store ∧
      whole.2.warnings = s.warnings := by
  induction calls generalizing s with
  | nil => exact ⟨rfl, rfl, rfl, rfl⟩
  | cons c rest ih =>
    obtain ⟨first, others⟩ := List.forall_mem_cons.1 untimed
    obtain ⟨replies, kept⟩ := ih others (c.enter s)
    have made : run executor (c :: rest) s =
        ((c :: rest).map stopped, (run executor rest (c.enter s)).2) := by
      simp only [run, make_of_not_timed first, replies, List.map_cons]
    rw [made]
    exact ⟨rfl, kept⟩

end Call

/-! ## Loaded timeouts -/

namespace Config

theorem load_withTimeout {dirs : Path.Directories} {files : String → File} {o : Overrides}
    {settings : Settings} (loaded : (load dirs files o).result = .ok settings) (secs : UInt64) :
    (load dirs files { o with timeoutSecs := some secs }).result =
      .ok { settings with query := { settings.query with timeoutSecs := secs } } := by
  obtain ⟨profile, overlay, lower, upper, rfl, valid⟩ := load_eq_ok_iff.1 loaded
  -- None of the checks asks for the timeout.
  exact load_eq_ok_iff.2 ⟨profile, overlay, lower, upper, rfl,
    ⟨valid.connections, valid.page, valid.defaultPage, valid.default_le_max, valid.tagValues⟩⟩

/--
Any timeout can be loaded. A call is timed if it has no timeout, or one that ends in one of the
2 ^ 63 seconds that the clock counts. Its deadline is then the first of its limits, and it does not
fail for want of one. A call that needs a deadline and is not timed fails before anything is done,
also where the caller's deadline is earlier. In a run of calls whose clock does not go back, nothing
is done from the first call on that is not timed.
-/
theorem loaded_timeouts_set_deadlines {dirs : Path.Directories} {files : String → File}
    {o : Overrides} {settings : Settings} (loaded : (load dirs files o).result = .ok settings) :
    (∀ secs : UInt64, (load dirs files { o with timeoutSecs := some secs }).result =
      .ok { settings with query := { settings.query with timeoutSecs := secs } }) ∧
    ∀ {σ : Type} (executor : Executor σ) (s : Session σ) (c : Call),
      c.reader.settings = settings.query →
        (c.Timed ↔ settings.query.timeoutSecs = 0 ∨
          c.now / Context.nanosPerSecond + settings.query.timeoutSecs.toNat < 2 ^ 63) ∧
        (c.Timed → (c.make executor s).1.isTimed = true ∧
          ∃ deadline, c.reader.scoped? (c.enter s) = some deadline ∧
            ∀ e, deadline = some e ↔ IsLeast {limit | c.Limit s limit} e) ∧
        (¬c.Timed → c.reader.scoped? (c.enter s) = none ∧
          c.make executor s = (c.stopped, c.enter s)) ∧
        ∀ earlier later, (∀ call ∈ later, call.reader.settings = settings.query) →
          (∀ call ∈ earlier, call.Timed) → ¬c.Timed → (∀ call ∈ later, c.now ≤ call.now) →
            let before := Call.run executor earlier s
            let whole := Call.run executor (earlier ++ c :: later) s
            (∀ reply ∈ before.1, reply.isTimed = true) ∧
            whole.1 = before.1 ++ (c :: later).map Call.stopped ∧
            whole.2.issued = before.2.issued ∧ whole.2.store = before.2.store ∧
            whole.2.warnings = before.2.warnings := by
  refine ⟨load_withTimeout loaded, fun executor s c same => ?_⟩
  refine ⟨same ▸ Call.timed_iff, fun timed => ?_, fun untimed => ?_, ?_⟩
  · exact ⟨Call.isTimed_make timed executor s, timed.exists_deadline s⟩
  · exact ⟨Call.scoped?_of_not_timed untimed s, Call.make_of_not_timed untimed executor s⟩
  · intro earlier later others timed untimed order before whole
    -- The settings are the same for all, so what is too long once stays too long.
    have late : ∀ call ∈ c :: later, ¬call.Timed := by
      intro call member
      obtain rfl | behind := List.mem_cons.1 member
      · exact untimed
      · have alike := same.trans (others call behind).symm
        exact fun timed => untimed (timed.of_le alike (order call behind))
    obtain ⟨replies, kept⟩ := Call.run_of_not_timed late executor before.2
    simp only [whole, Call.run_append]
    exact ⟨Call.isTimed_run timed executor s, congrArg _ replies, kept⟩

/-- A timeout that ends with the last instant of the clock, and a nanosecond later is too long. -/
theorem loaded_timeouts_set_deadlines_last :
    let q := { QuerySettings.standard with timeoutSecs := 9223372036854775806 }
    let settings : Settings := ⟨⟨"/home/.spanquery/spans.db", 4, 5⟩, q⟩
    let o := { Overrides.none with timeoutSecs := some 9223372036854775806 }
    let r : SpanReader := ⟨.standard, q⟩
    let s := Session.start [Execution.noRows] ⟨false, some 5000000000⟩ 0
    let first : Call := ⟨r, .tags, 1999999999, false⟩
    let second : Call := ⟨r, .tagValues .standard "span.name", 2000000000, false⟩
    let whole := Call.run .scripted [first, second] s
    (load ⟨"/home", "/cwd"⟩ (fun _ => .absent) o).result = .ok settings ∧
      r.scoped? (first.enter s) = some (some 5000000000) ∧
      (∃ listed, whole.1 = [listed, .tagValues .noDeadline] ∧ listed.isTimed = true) ∧
      whole.2.issued.length = 1 := by
  intro q settings o r s first second whole
  have loaded : (load ⟨"/home", "/cwd"⟩ (fun _ => .absent) o).result = .ok settings := rfl
  obtain ⟨-, called⟩ := loaded_timeouts_set_deadlines loaded
  obtain ⟨before, timed, -⟩ := called .scripted s first rfl
  obtain ⟨behind, -, -, ran⟩ := called .scripted s second rfl
  have inTime : first.Timed := before.2 (by decide)
  have late : ¬second.Timed := mt behind.1 (by decide)
  obtain ⟨-, deadline, set, least⟩ := timed inTime
  have earliest : IsLeast {limit | first.Limit s limit} 5000000000 := by
    refine ⟨.inl rfl, ?_⟩
    rintro e (given | ⟨timeout, limited, rfl⟩)
    · cases given
      exact Nat.le_refl _
    · cases limited
      decide
  obtain ⟨listed, replies, issued, -⟩ := ran [first] [] (by simp) (by simpa using inTime) late
    (by simp)
  have made : (Call.run .scripted [first] s).1 = [(first.make .scripted s).1] := by
    simp only [Call.run]
  rw [made] at listed
  rw [made, List.singleton_append] at replies
  rw [List.singleton_append] at issued
  refine ⟨loaded, ?_, ⟨_, replies, listed _ List.mem_cons_self⟩, ?_⟩
  · rw [set, (least _).2 earliest]
  · have one : (Call.run .scripted [first] s).2.issued.length = 1 := by decide +kernel
    rw [issued, one]

/-- The shortest timeout that ends behind the clock at whatever instant it is set. -/
theorem loaded_timeout_outlasts_clock :
    let q := { QuerySettings.standard with timeoutSecs := 9223372036854775808 }
    let settings : Settings := ⟨⟨"/home/.spanquery/spans.db", 4, 5⟩, q⟩
    let o := { Overrides.none with timeoutSecs := some 9223372036854775808 }
    let c : Call := ⟨⟨.standard, q⟩, .tags, 0, false⟩
    let s := Session.start [Execution.noRows] .fresh 0
    (load ⟨"/home", "/cwd"⟩ (fun _ => .absent) o).result = .ok settings ∧
      c.reader.scoped? (c.enter s) = none ∧ c.make .scripted s = (.tags .noDeadline, s) := by
  intro q settings o c s
  have untimed : ¬c.Timed := mt Call.timed_iff.1 (by decide)
  exact ⟨rfl, Call.scoped?_of_not_timed untimed s, Call.make_of_not_timed untimed .scripted s⟩

end Config

end TraceQuery
