import TraceQuery.Proofs.Reader.Issues

/-!
Calls of readers that share one context. The caller cancels it between two calls, or the store
while a statement is issued. From then on no statement is issued, and what each call returns is
told by its request alone.
-/

set_option autoImplicit false
namespace TraceQuery

variable {σ α : Type}

inductive Operation
  | search (request : SearchRequest)
  | tags
  | tagValues (request : TagValuesRequest) (tag : String)
  | tagsValues (request : TagValuesRequest) (tags : List String)

inductive Reply
  | search (outcome : Outcome SpanPage)
  | tags (outcome : Outcome (List TagInfo))
  | tagValues (outcome : Outcome TagValues)
  | tagsValues (outcome : Outcome (NameMap TagValues))

def Outcome.error? : Outcome α → Option QueryError
  | .returned (.error e) => some e
  | .returned (.ok _) | .unending | .noDeadline => none

def Reply.error? : Reply → Option QueryError
  | .search outcome => outcome.error?
  | .tags outcome => outcome.error?
  | .tagValues outcome => outcome.error?
  | .tagsValues outcome => outcome.error?

namespace SpanReader

/-! ## One call -/

def perform (r : SpanReader) (executor : Executor σ) : Operation → Session σ → Reply × Session σ
  | .search request, s => (r.search executor request s).map .search id
  | .tags, s => (r.tags executor s).map .tags id
  | .tagValues request tag, s => (r.tagValues executor request tag s).map .tagValues id
  | .tagsValues request tags, s => (r.tagsValues executor request tags s).map .tagsValues id

def builds (r : SpanReader) (request : TagValuesRequest) (tag : String) : Bool :=
  (request.plan tag r.registry r.settings.maxTagValues).isOk

def searchRefusal (r : SpanReader) (request : SearchRequest) : QueryError :=
  match r.plan request with
  | .error e => e
  | .ok _ => .cancelled .search .requested

def valuesRefusal (r : SpanReader) (request : TagValuesRequest) (tag : String) : QueryError :=
  match request.plan tag r.registry r.settings.maxTagValues with
  | .error e => .build e
  | .ok _ => .cancelled .tagValues .requested

/-- The reply to a caller who has cancelled. What is wrong with the request is told first. -/
def refusal (r : SpanReader) : Operation → Reply
  | .search request => .search (.error (r.searchRefusal request))
  | .tags => .tags (.error (.cancelled .listTags .requested))
  | .tagValues request tag => .tagValues (.error (r.valuesRefusal request tag))
  | .tagsValues request tags =>
    .tagsValues (if tags.any (r.builds request) then .error (.cancelled .tagValues .requested)
      else .ok .empty)

theorem boundary_eq_error {request : SearchRequest} {e : QueryError}
    (failed : boundary request = .error e) : ∃ token, e = .invalidCursor token := by
  unfold boundary at failed
  cases given : request.nextToken with
  | none => simp [given] at failed
  | some token =>
    cases read : token.boundary? with
    | none => exact ⟨token, by simpa [given, read, eq_comm] using failed⟩
    | some b => simp [given, read] at failed

theorem plan_eq_error {r : SpanReader} {request : SearchRequest} {e : QueryError}
    (failed : r.plan request = .error e) :
    (∃ token, e = .invalidCursor token) ∨ ∃ unbuilt, e = .build unbuilt := by
  unfold plan at failed
  cases bounded : boundary request with
  | error found =>
    rw [bounded] at failed
    cases failed
    exact .inl (boundary_eq_error bounded)
  | ok b =>
    rw [bounded] at failed
    cases built : request.plan b r.registry r.settings.limits with
    | error unbuilt =>
      simp only [built] at failed
      cases failed
      exact .inr ⟨unbuilt, rfl⟩
    | ok plan =>
      simp only [built] at failed
      cases failed

section
variable {r : SpanReader} {executor : Executor σ} {s : Session σ} {deadline : Option Nat}
  {request : TagValuesRequest}

theorem issues_perform (r : SpanReader) (executor : Executor σ) (s : Session σ)
    (operation : Operation) :
    ∃ statements, Session.Issues executor s statements (r.perform executor operation s).2 := by
  cases operation with
  | search request => exact r.issues_search executor s request
  | tags => exact r.issues_tags executor s
  | tagValues request tag =>
    simp only [perform, tagValues]
    cases r.scoped? s with
    | none => exact ⟨[], .none rfl⟩
    | some deadline => exact r.issues_valuesUnder executor s deadline request tag
  | tagsValues request tags =>
    simp only [perform, tagsValues]
    cases r.scoped? s with
    | none => exact ⟨[], .none rfl⟩
    | some deadline => exact r.issues_batchUnder executor s deadline request tags .empty

theorem valuesUnder_of_cancelled (cancelled : s.context.cancelled = true) (tag : String) :
    r.valuesUnder executor deadline request tag s = (.error (r.valuesRefusal request tag), s) := by
  cases built : request.plan tag r.registry r.settings.maxTagValues with
  | error e => rw [valuesUnder_of_error built, valuesRefusal, built]
  | ok plan =>
    obtain ⟨warnings, called⟩ := valuesUnder_of_plan built executor deadline s
    rw [called, Session.fetch_of_cancelled cancelled, valuesRefusal, built]
    rfl

theorem batchUnder_of_cancelled (cancelled : s.context.cancelled = true)
    (executor : Executor σ) (tags : List String) (done : NameMap TagValues) :
    (r.batchUnder executor deadline request tags done s).1 =
      if tags.any (r.builds request) then .error (.cancelled .tagValues .requested)
      else .ok done := by
  induction tags generalizing s with
  | nil => rfl
  | cons tag rest ih =>
    rw [batchUnder, valuesUnder_of_cancelled cancelled, List.any_cons, builds, valuesRefusal]
    cases request.plan tag r.registry r.settings.maxTagValues with
    | error e => exact ih cancelled
    | ok plan => rfl

theorem batchUnder_of_error {first : List String} {tag : String} {e : QueryError}
    (passed : ∀ call ∈ (r.singles executor deadline request first s).1, call.2.halts = false)
    (failed : (r.valuesUnder executor deadline request tag
      (r.singles executor deadline request first s).2).1 = .error e)
    (cancelled : e.isCancelled = true) (rest : List String) :
    (r.batchUnder executor deadline request (first ++ tag :: rest) .empty s).1 = .error e := by
  have halted : Outcome.halts (.error e : Outcome TagValues) = true := cancelled
  rcases (batchUnder_of_halts passed (failed ▸ halted) rest).2 with
    ⟨other, -, single, ended⟩ | ⟨single, -⟩
  · rw [failed] at single
    cases single
    exact ended
  · rw [failed] at single
    cases single

theorem batchUnder_of_cancelled_midway {first : List String}
    (passed : ∀ call ∈ (r.singles executor deadline request first s).1, call.2.halts = false)
    (cancelled : (r.singles executor deadline request first s).2.context.cancelled = true)
    (rest : List String) :
    let batch := r.batchUnder executor deadline request (first ++ rest) .empty s
    let singles := r.singles executor deadline request first s
    batch.2.lasting = singles.2.lasting ∧
      (rest.any (r.builds request) = true →
        batch.1 = .error (.cancelled .tagValues .requested)) ∧
      (rest.any (r.builds request) = false →
        ∃ done, batch.1 = .ok done ∧ ∀ tag, done.get? tag = lastValues tag singles.1) := by
  intro batch singles
  obtain ⟨done, u, left, entries, continued⟩ := exists_batchUnder_append first passed rfl .empty
  have reached : batch = r.batchUnder executor deadline request rest done u := continued rest
  have same := Session.lasting_of_unwarned left
  have still : u.context.cancelled = true := Session.context_of_lasting same ▸ cancelled
  obtain ⟨statements, issues⟩ := r.issues_batchUnder executor u deadline request rest done
  have ended : batch.1 = _ :=
    congrArg Prod.fst reached |>.trans (batchUnder_of_cancelled still executor rest done)
  -- From here on the first query that builds is refused, and until then nothing is issued.
  refine ⟨?_, fun builds => ?_, fun unbuilt => ⟨done, ?_, fun tag => ?_⟩⟩
  · rw [reached]
    exact (issues.of_cancelled still).2.trans same
  · rw [ended, if_pos builds]
  · rw [ended, if_neg (by simp [unbuilt])]
  · simpa using entries tag

theorem perform_of_cancelled (cancelled : s.context.cancelled = true)
    (timed : r.scoped? s = some deadline) (executor : Executor σ) (operation : Operation) :
    (r.perform executor operation s).1 = r.refusal operation := by
  cases operation with
  | search request =>
    rw [perform, refusal, searchRefusal]
    cases built : r.plan request with
    | error e => rw [search_of_error built]; rfl
    | ok plan => rw [search_of_cancelled built timed cancelled]; rfl
  | tags =>
    obtain ⟨warnings, called⟩ := tags_of_timed timed executor
    rw [perform, called, Session.fetch_of_cancelled cancelled]
    rfl
  | tagValues request tag =>
    rw [perform, tagValues, timed]
    exact congrArg (Reply.tagValues ·.1) (valuesUnder_of_cancelled cancelled tag)
  | tagsValues request tags =>
    rw [perform, tagsValues, timed]
    exact congrArg Reply.tagsValues (batchUnder_of_cancelled cancelled executor tags .empty)

theorem refusal_not_exceeded (r : SpanReader) (operation : Operation) (stage : QueryStage) :
    (r.refusal operation).error? ≠ some (.cancelled stage .deadlineExceeded) := by
  cases operation with
  | search request =>
    rw [refusal, searchRefusal]
    cases built : r.plan request with
    | error e => rcases plan_eq_error built with ⟨token, rfl⟩ | ⟨unbuilt, rfl⟩ <;> nofun
    | ok plan => nofun
  | tags => nofun
  | tagValues request tag =>
    rw [refusal, valuesRefusal]
    split <;> nofun
  | tagsValues request tags =>
    rw [refusal]
    split <;> nofun

/-- The deadline ends only a call whose caller has not cancelled before. -/
theorem active_of_exceeded {operation : Operation} {stage : QueryStage}
    (exceeded : (r.perform executor operation s).1.error? =
      some (.cancelled stage .deadlineExceeded)) :
    s.context.cancelled = false := by
  by_contra cancelled
  rw [Bool.not_eq_false] at cancelled
  cases timed : r.scoped? s with
  | some deadline =>
    rw [perform_of_cancelled cancelled timed] at exceeded
    exact r.refusal_not_exceeded operation stage exceeded
  -- Where no deadline can be told, the call stops before any statement.
  | none =>
    cases operation with
    | search request =>
      rw [perform] at exceeded
      cases built : r.plan request with
      | error e =>
        rw [search_of_error built] at exceeded
        rcases plan_eq_error built with ⟨token, rfl⟩ | ⟨unbuilt, rfl⟩ <;> cases exceeded
      | ok plan =>
        rw [search_of_noDeadline built timed] at exceeded
        cases exceeded
    | tags =>
      rw [perform, tags_of_noDeadline timed] at exceeded
      cases exceeded
    | tagValues request tag =>
      rw [perform, tagValues, timed] at exceeded
      cases exceeded
    | tagsValues request tags =>
      rw [perform, tagsValues, timed] at exceeded
      cases exceeded

end

end SpanReader

/-! ## Runs of calls -/

/-- A call that is made at some instant, by a caller who may cancel before. -/
structure Call where
  reader : SpanReader
  operation : Operation
  now : Nat
  cancels : Bool

namespace Call

def enter (c : Call) (s : Session σ) : Session σ :=
  { s with
    now := c.now
    context := { s.context with cancelled := s.context.cancelled || c.cancels } }

def make (c : Call) (executor : Executor σ) (s : Session σ) : Reply × Session σ :=
  c.reader.perform executor c.operation (c.enter s)

/-- The calls in order, each with the context, the store and the records that the last one left. -/
def run (executor : Executor σ) : List Call → Session σ → List Reply × Session σ
  | [], s => ([], s)
  | c :: rest, s =>
    let (reply, t) := c.make executor s
    let (replies, u) := run executor rest t
    (reply :: replies, u)

def refused (c : Call) : Reply :=
  c.reader.refusal c.operation

/-- The clock can tell when the call has to end. -/
def Timed (c : Call) : Prop :=
  ∀ timeout, c.reader.settings.timeout = some timeout → c.now + timeout ≤ Context.lastInstant

variable {c : Call} {executor : Executor σ} {s : Session σ}

theorem Timed.scoped? (timed : c.Timed) (s : Session σ) :
    ∃ deadline, c.reader.scoped? (c.enter s) = some deadline := by
  unfold SpanReader.scoped? Context.withTimeout?
  cases limit : c.reader.settings.timeout with
  | none => exact ⟨_, rfl⟩
  | some timeout =>
    have told : (c.enter s).now + timeout ≤ Context.lastInstant := timed timeout limit
    simp only [if_pos told, Option.map_some]
    exact ⟨_, rfl⟩

theorem make_tagsValues {request : TagValuesRequest} {tags : List String}
    {deadline : Option Nat} (batch : c.operation = .tagsValues request tags)
    (timed : c.reader.scoped? (c.enter s) = some deadline) (executor : Executor σ) :
    c.make executor s =
      (c.reader.batchUnder executor deadline request tags .empty (c.enter s)).map
        .tagsValues id := by
  rw [make, batch, SpanReader.perform, SpanReader.tagsValues, timed]

theorem lasting_enter_of_cancelled (c : Call) (cancelled : s.context.cancelled = true) :
    (c.enter s).lasting = s.lasting := by
  have kept : (s.context.cancelled || c.cancels) = s.context.cancelled := by simp [cancelled]
  simp only [enter, kept]
  rfl

theorem lasting_make_of_cancelled (cancelled : (c.enter s).context.cancelled = true)
    (executor : Executor σ) : (c.make executor s).2.lasting = (c.enter s).lasting := by
  obtain ⟨statements, issues⟩ := c.reader.issues_perform executor (c.enter s) c.operation
  exact (issues.of_cancelled cancelled).2

theorem run_append (executor : Executor σ) (first second : List Call) (s : Session σ) :
    run executor (first ++ second) s =
      ((run executor first s).1 ++ (run executor second (run executor first s).2).1,
        (run executor second (run executor first s).2).2) := by
  induction first generalizing s with
  | nil => rfl
  | cons c rest ih => simp [run, ih]

theorem run_of_cancelled (cancelled : (c.enter s).context.cancelled = true) (later : List Call) :
    (run executor (c :: later) s).2.lasting = (c.enter s).lasting ∧
      ((∀ call ∈ c :: later, call.Timed) →
        (run executor (c :: later) s).1 = (c :: later).map refused) := by
  induction later generalizing c s with
  | nil =>
    refine ⟨lasting_make_of_cancelled cancelled executor, fun timed => ?_⟩
    obtain ⟨deadline, timed⟩ := (timed c List.mem_cons_self).scoped? s
    exact congrArg (fun reply => [reply])
      (SpanReader.perform_of_cancelled cancelled timed executor c.operation)
  | cons d rest ih =>
    -- The call leaves the context as it found it, so the next one finds it cancelled too.
    have kept := lasting_make_of_cancelled cancelled executor
    have still : (c.make executor s).2.context.cancelled = true :=
      Session.context_of_lasting kept ▸ cancelled
    have entered : (d.enter (c.make executor s).2).context.cancelled = true := by
      simp [enter, still]
    obtain ⟨left, replies⟩ := ih entered
    refine ⟨left.trans ((lasting_enter_of_cancelled d still).trans kept), fun timed => ?_⟩
    obtain ⟨first, others⟩ := List.forall_mem_cons.1 timed
    obtain ⟨deadline, timed⟩ := first.scoped? s
    exact congrArg₂ List.cons
      (SpanReader.perform_of_cancelled cancelled timed executor c.operation) (replies others)

/--
In a run of calls that share a context, a call issues statements only while nobody has cancelled,
and cancels the context only by way of the store; the deadline does not. From the first call on
that finds the context cancelled, nothing is issued and every call is refused. A batch that is
cancelled between two of its tags is refused as a whole if there is still a query to issue.
-/
theorem nothing_issued_once_cancelled (executor : Executor σ) (s : Session σ)
    (earlier later : List Call) (c : Call) :
    let before := (run executor earlier s).2
    let entered := c.enter before
    let made := c.make executor before
    let whole := run executor (earlier ++ c :: later) s
    (∃ statements,
      let answers := executor.answers before.store statements
      made.2.issued = before.issued ++ statements ∧
      (entered.context.cancelled = true → statements = []) ∧
      (∀ e ∈ answers.dropLast, e.cancels = false) ∧
      made.2.context.cancelled = (entered.context.cancelled || answers.any (·.cancels)) ∧
      ∀ stage, made.1.error? = some (.cancelled stage .deadlineExceeded) →
        entered.context.cancelled = false ∧
          made.2.context.cancelled = answers.any (·.cancels)) ∧
    (entered.context.cancelled = true →
      whole.2.issued = before.issued ∧ whole.2.store = before.store ∧
        whole.2.context.cancelled = true ∧
        ((∀ call ∈ c :: later, call.Timed) →
          whole.1 = (run executor earlier s).1 ++ (c :: later).map refused)) ∧
    ∀ deadline request first rest, c.operation = .tagsValues request (first ++ rest) →
      c.reader.scoped? entered = some deadline →
      let singles := c.reader.singles executor deadline request first entered
      (∀ call ∈ singles.1, call.2.halts = false) →
      (∀ tag others e, rest = tag :: others → e.isCancelled = true →
        (c.reader.valuesUnder executor deadline request tag singles.2).1 = .error e →
          made.1 = .tagsValues (.error e)) ∧
      (singles.2.context.cancelled = true →
        made.2.issued = singles.2.issued ∧
          (rest.any (c.reader.builds request) = true →
            made.1 = .tagsValues (.error (.cancelled .tagValues .requested))) ∧
          (rest.any (c.reader.builds request) = false →
            ∃ done, made.1 = .tagsValues (.ok done) ∧
              ∀ tag, done.get? tag = lastValues tag singles.1)) := by
  intro before entered made whole
  refine ⟨?_, fun cancelled => ?_, ?_⟩
  · obtain ⟨statements, issues⟩ := c.reader.issues_perform executor entered c.operation
    obtain ⟨context, last⟩ := issues.cancelled
    refine ⟨statements, issues.issued, fun cancelled => (issues.of_cancelled cancelled).1, last,
      context, fun stage exceeded => ?_⟩
    have active : entered.context.cancelled = false := SpanReader.active_of_exceeded exceeded
    rw [active, Bool.false_or] at context
    exact ⟨active, context⟩
  · obtain ⟨kept, replies⟩ := run_of_cancelled cancelled later
    obtain ⟨store, context, issued⟩ := Session.lasting_eq_iff.1 kept
    simp only [whole, run_append]
    exact ⟨issued, store, context ▸ cancelled, fun timed => by rw [replies timed]⟩
  · intro deadline request first rest batch timed singles passed
    have performed : made = _ := make_tagsValues batch timed executor
    rw [performed]
    refine ⟨fun tag others e next cancelled failed => ?_, fun cancelled => ?_⟩
    · subst next
      exact congrArg Reply.tagsValues
        (SpanReader.batchUnder_of_error passed failed cancelled others)
    · obtain ⟨kept, builds, unbuilt⟩ :=
        SpanReader.batchUnder_of_cancelled_midway passed cancelled rest
      refine ⟨(Session.lasting_eq_iff.1 kept).2.2, fun built => ?_, fun refused => ?_⟩
      · exact congrArg Reply.tagsValues (builds built)
      · obtain ⟨done, ended, entries⟩ := unbuilt refused
        exact ⟨done, congrArg Reply.tagsValues ended, entries⟩

/-- The store cancels between the two tags of a batch, and a search follows. -/
theorem nothing_issued_once_cancelled_midway :
    let r : SpanReader := ⟨.empty, .standard⟩
    let batch : Call := ⟨r, .tagsValues .standard ["span.a", "span.b"], 0, false⟩
    let search : Call := ⟨r, .search .standard, 1, false⟩
    let s := Session.start [⟨[⟨[.text "x", .integer 2]⟩], .complete, true⟩] .fresh 0
    let whole := run .scripted [batch, search] s
    whole.1 = [.tagsValues (.error (.cancelled .tagValues .requested)),
        .search (.error (.cancelled .search .requested))] ∧
      whole.2.issued.length = 1 := by
  intro r batch search s whole
  have quiet : ∀ call ∈ (r.singles .scripted (some 30000000000) .standard ["span.a"]
      (batch.enter s)).1, call.2.halts = false := by
    have calls : (r.singles .scripted (some 30000000000) .standard ["span.a"] (batch.enter s)).1 =
      [("span.a", .ok (SpanReader.ranked [⟨[.text "x", .integer 2]⟩]))] := rfl
    simp [calls, Outcome.halts, Outcome.ok]
  obtain ⟨-, refused, -⟩ :=
    ((nothing_issued_once_cancelled .scripted s [] [] batch).2.2 (some 30000000000) .standard
      ["span.a"] ["span.b"] rfl (by decide +kernel) quiet).2 rfl
  obtain ⟨issued, -, -, replies⟩ :=
    (nothing_issued_once_cancelled .scripted s [batch] [] search).2.1 (by decide +kernel)
  have timed : ∀ call ∈ [search], call.Timed := by
    intro call member timeout limit
    obtain rfl := List.mem_singleton.1 member
    cases limit
    decide
  constructor
  · have first : (run .scripted [batch] s).1 = [(batch.make .scripted s).1] := by simp only [run]
    have refused : (batch.make .scripted s).1 = _ := refused (by decide +kernel)
    obtain ⟨plan, built⟩ : ∃ plan, r.plan .standard = .ok plan := ⟨_, rfl⟩
    have refusal : search.refused = .search (.error (.cancelled .search .requested)) := by
      simp only [Call.refused, SpanReader.refusal, SpanReader.searchRefusal, search, built]
    rw [first, refused, List.map_singleton, refusal] at replies
    exact replies timed
  · have one : (run .scripted [batch] s).2.issued.length = 1 := by decide +kernel
    rw [List.singleton_append] at issued
    rw [issued, one]

/-- Of a timeout this long no deadline can be told, and a call that is not timed is not refused. -/
theorem cancelled_search_of_greatest_timeout :
    let settings := { QuerySettings.standard with timeoutSecs := 18446744073709551615 }
    let c : Call := ⟨⟨.standard, settings⟩, .search .standard, 0, true⟩
    let s := Session.start [Execution.noRows] .fresh 0
    (c.enter s).context.cancelled = true ∧ (c.make .scripted s).1 = .search .noDeadline ∧
      c.refused = .search (.error (.cancelled .search .requested)) := by
  intro settings c s
  obtain ⟨plan, built⟩ : ∃ plan, c.reader.plan .standard = .ok plan := ⟨_, rfl⟩
  refine ⟨rfl, ?_, ?_⟩
  · have ended := SpanReader.search_of_noDeadline built (s := c.enter s) (by cbv) .scripted
    simp only [make, SpanReader.perform, c] at ended ⊢
    rw [ended]
    rfl
  · simp only [refused, SpanReader.refusal, SpanReader.searchRefusal, c, built]

end Call

end TraceQuery
