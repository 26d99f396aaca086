import Mathlib.Order.Bounds.Defs
import TraceQuery.Proofs.Reader.Outcome

/-!
Timeouts that are set on a context one after another, and the work that is run under it. The
earliest deadline is the one that counts. A run is looked at again and again until it has ended, and
how it ends does not depend on when that is: a caller who has cancelled is told so before the work
is looked at, work that is done is returned, and only work that waits is ended by the clock.
-/

set_option autoImplicit false
namespace TraceQuery

variable {α : Type}

namespace Context

/-! ## Deadlines -/

/-- The timeouts are set one after another, each from an instant of its own. -/
def withTimeouts? (c : Context) : List (Nat × Option Nat) → Option Context
  | [] => some c
  | (now, timeout) :: rest => (c.withTimeout? now timeout).bind (·.withTimeouts? rest)

def ends (calls : List (Nat × Option Nat)) : List Nat :=
  calls.filterMap fun (now, timeout) => timeout.map (now + ·)

theorem mem_ends_iff {calls : List (Nat × Option Nat)} {e : Nat} :
    e ∈ ends calls ↔ ∃ now timeout, (now, some timeout) ∈ calls ∧ now + timeout = e := by
  simp only [ends, List.mem_filterMap, Option.map_eq_some_iff, Prod.exists]
  constructor
  · rintro ⟨now, _, member, timeout, rfl, same⟩
    exact ⟨now, timeout, member, same⟩
  · rintro ⟨now, timeout, member, same⟩
    exact ⟨now, some timeout, member, timeout, rfl, same⟩

theorem min?_tighten (deadline : Option Nat) (e : Nat) (rest : List Nat) :
    (tighten deadline e :: rest).min? = (deadline.toList ++ e :: rest).min? := by
  cases deadline with
  | none => rfl
  | some d =>
    simp only [tighten, Option.toList_some, List.singleton_append, List.min?_cons',
      List.foldl_cons]

theorem withTimeouts?_eq (c : Context) (calls : List (Nat × Option Nat)) :
    c.withTimeouts? calls = if ∀ e ∈ ends calls, e ≤ lastInstant then
      some { c with deadline := (c.deadline.toList ++ ends calls).min? } else none := by
  induction calls generalizing c with
  | nil =>
    obtain ⟨cancelled, deadline⟩ := c
    cases deadline <;> simp [withTimeouts?, ends]
  | cons call rest ih =>
    obtain ⟨now, timeout⟩ := call
    cases timeout with
    | none => exact ih c
    | some timeout =>
      have first : ends ((now, some timeout) :: rest) = (now + timeout) :: ends rest := rfl
      simp only [withTimeouts?, withTimeout?, first, List.forall_mem_cons]
      -- The clock has to tell every end, also those that come too late to count.
      by_cases told : now + timeout ≤ lastInstant
      · simp only [told, if_true, Option.bind_some, ih, true_and, Option.toList_some,
          List.singleton_append, min?_tighten]
      · simp only [told, if_false, Option.bind_none, false_and]

theorem exists_withTimeouts? (cancelled : Bool) {calls : List (Nat × Option Nat)}
    (told : ∀ now timeout, (now, some timeout) ∈ calls → now + timeout ≤ lastInstant) :
    (Context.mk cancelled none).withTimeouts? calls = some ⟨cancelled, (ends calls).min?⟩ := by
  have within : ∀ e ∈ ends calls, e ≤ lastInstant := by
    intro e member
    obtain ⟨now, timeout, call, rfl⟩ := mem_ends_iff.1 member
    exact told now timeout call
  rw [withTimeouts?_eq, if_pos within]
  rfl

theorem isSome_min?_ends {calls : List (Nat × Option Nat)} :
    (ends calls).min?.isSome ↔ ∃ now timeout, (now, some timeout) ∈ calls := by
  constructor
  · intro limited
    obtain ⟨e, member⟩ := List.exists_mem_of_ne_nil _ (List.isSome_min?_iff.1 limited)
    obtain ⟨now, timeout, call, -⟩ := mem_ends_iff.1 member
    exact ⟨now, timeout, call⟩
  · rintro ⟨now, timeout, call⟩
    exact List.isSome_min?_of_mem (mem_ends_iff.2 ⟨now, timeout, call, rfl⟩)

theorem isLeast_of_min?_ends {calls : List (Nat × Option Nat)} {d : Nat}
    (least : (ends calls).min? = some d) :
    IsLeast {e | ∃ now timeout, (now, some timeout) ∈ calls ∧ now + timeout = e} d := by
  obtain ⟨member, lower⟩ := List.min?_eq_some_iff.1 least
  exact ⟨mem_ends_iff.1 member, fun e call => lower e (mem_ends_iff.2 call)⟩

theorem deadline_of_withTimeout? {c tighter : Context} {now d : Nat} {timeout : Option Nat}
    (set : c.withTimeout? now timeout = some tighter) (had : c.deadline = some d) :
    ∃ e ≤ d, tighter.deadline = some e := by
  unfold withTimeout? at set
  cases timeout with
  | none =>
    cases set
    exact ⟨d, Nat.le_refl d, had⟩
  | some timeout =>
    simp only at set
    split at set
    · cases set
      exact ⟨min d (now + timeout), Nat.min_le_left _ _, by simp only [tighten, had]⟩
    · cases set

theorem deadline_of_withTimeouts? {c tighter : Context} {d : Nat}
    {calls : List (Nat × Option Nat)} (set : c.withTimeouts? calls = some tighter)
    (had : c.deadline = some d) : ∃ e ≤ d, tighter.deadline = some e := by
  induction calls generalizing c d with
  | nil =>
    cases set
    exact ⟨d, Nat.le_refl d, had⟩
  | cons call rest ih =>
    obtain ⟨between, first, others⟩ := Option.bind_eq_some_iff.1 set
    obtain ⟨e, before, kept⟩ := deadline_of_withTimeout? first had
    obtain ⟨f, earlier, left⟩ := ih others kept
    exact ⟨f, Nat.le_trans earlier before, left⟩

end Context

theorem SpanReader.scoped?_le {σ : Type} {r : SpanReader} {s : Session σ} {deadline : Option Nat}
    {d : Nat} (timed : r.scoped? s = some deadline) (had : s.context.deadline = some d) :
    ∃ e ≤ d, deadline = some e := by
  obtain ⟨tighter, set, rfl⟩ := Option.map_eq_some_iff.1 timed
  exact Context.deadline_of_withTimeout? set had

/-! ## One run, look by look -/

structure Waiting where
  cancelled : Bool
  started : Bool

namespace Waiting

/-- The cancellation is looked at before the work, which cancels when it is looked at first. -/
def select (w : Waiting) (stage : QueryStage) (work : Work α) :
    Option (Except QueryError α) × Waiting :=
  if w.cancelled then (some (.error (.cancelled stage .requested)), w)
  else (work.result, ⟨!w.started && work.cancels, true⟩)

/-- The clock is looked at last, and only if there is nothing to return. -/
def look (w : Waiting) (deadline : Option Nat) (stage : QueryStage) (work : Work α) (now : Nat) :
    Option (Except QueryError α) × Waiting :=
  match w.select stage work with
  | (some result, after) => (some result, after)
  | (none, after) =>
    if deadline.any (· < now) then (some (.error (.cancelled stage .deadlineExceeded)), after)
    else (none, after)

def looks (deadline : Option Nat) (stage : QueryStage) (work : Work α) :
    List Nat → Waiting → Option (Except QueryError α) × Waiting
  | [], w => (none, w)
  | now :: later, w =>
    match w.look deadline stage work now with
    | (some result, after) => (some result, after)
    | (none, after) => looks deadline stage work later after

/-- A run is looked at again when the work has cancelled, and when the deadline has passed. -/
structure Wakes (deadline : Option Nat) (work : Work α) (now : Nat) (later : List Nat) : Prop where
  cancelled : work.cancels = true → later ≠ []
  passed : ∀ d, deadline = some d → ∃ instant ∈ now :: later, d < instant

variable {deadline : Option Nat} {stage : QueryStage} {work : Work α}

theorem looks_of_cancelled (started : Bool) (now : Nat) (later : List Nat) :
    looks deadline stage work (now :: later) ⟨true, started⟩ =
      (some (.error (.cancelled stage .requested)), ⟨true, started⟩) :=
  rfl

theorem looks_of_unending (waits : work.result = none) (instants : List Nat) :
    looks deadline stage work instants ⟨false, true⟩ =
      (if ∃ instant ∈ instants, deadline.any (· < instant) then
        some (.error (.cancelled stage .deadlineExceeded)) else none, ⟨false, true⟩) := by
  induction instants with
  | nil => simp [looks]
  | cons now later ih =>
    rw [looks, look, select, waits]
    by_cases passed : deadline.any (· < now) = true
    · simp [passed]
    · simp only [Bool.false_eq_true, if_false, Bool.not_true, Bool.false_and, passed, ih,
        List.exists_mem_cons_iff, false_or]

theorem looks_of_waiting (waits : work.result = none) (now : Nat) (later : List Nat) :
    looks deadline stage work (now :: later) ⟨false, false⟩ =
      if deadline.any (· < now) then
        (some (.error (.cancelled stage .deadlineExceeded)), ⟨work.cancels, true⟩)
      else looks deadline stage work later ⟨work.cancels, true⟩ := by
  rw [looks, look, select, waits]
  by_cases passed : deadline.any (· < now) = true
  · simp [passed]
  · simp [passed]

/-- Whenever a run is looked at, it ends as one that is only told of the instant of its start. -/
theorem looks_eq_run (c : Context) {now : Nat} {later : List Nat}
    (wakes : Wakes c.deadline work now later) :
    looks c.deadline stage work (now :: later) ⟨c.cancelled, false⟩ =
      let run := c.run now stage work
      (run.result, ⟨run.context.cancelled, run.started⟩) := by
  obtain ⟨cancelled, deadline⟩ := c
  obtain ⟨result, cancels⟩ := work
  cases cancelled with
  | true => rfl
  | false =>
    cases result with
    | some result => rfl
    | none =>
      simp only at wakes ⊢
      rw [looks_of_waiting rfl]
      cases cancels with
      | true =>
        -- The next look finds the context cancelled, before it gets to the clock.
        obtain ⟨next, others, rfl⟩ := List.exists_cons_of_ne_nil (wakes.cancelled rfl)
        rw [looks_of_cancelled]
        cases deadline with
        | none => rfl
        | some d =>
          by_cases before : now ≤ d
          · simp [Context.run, before]
          · simp [Context.run, before]
      | false =>
        rw [looks_of_unending rfl]
        cases deadline with
        | none => simp [Context.run]
        | some d =>
          obtain ⟨instant, looked, passed⟩ := wakes.passed d rfl
          by_cases late : d < now
          · simp [Context.run, late]
          · have later_passed : ∃ instant ∈ later, d < instant := by
              obtain rfl | looked := List.mem_cons.1 looked
              · exact absurd passed late
              · exact ⟨instant, looked, passed⟩
            simp [Context.run, late, later_passed]

end Waiting

/-! ## Runs that share a context -/

structure Errand (α : Type) where
  stage : QueryStage
  work : Work α
  now : Nat
  cancels : Bool

namespace Errand

def enter (e : Errand α) (c : Context) : Context :=
  { c with cancelled := c.cancelled || e.cancels }

def run (e : Errand α) (c : Context) : Run α :=
  (e.enter c).run e.now e.stage e.work

def cancelling (e : Errand α) : Bool := e.cancels || e.work.cancels

def runs : List (Errand α) → Context → List (Run α)
  | [], _ => []
  | e :: later, c =>
    match (e.run c).result with
    | none => [e.run c]
    | some _ => e.run c :: runs later (e.run c).context

inductive Ends (e : Errand α) (c : Context) : Option (Except QueryError α) → Bool → Prop
  | refused (cancelled : c.cancelled = true) :
      Ends e c (some (.error (.cancelled e.stage .requested))) false
  | finished {result : Except QueryError α} (active : c.cancelled = false)
      (done : e.work.result = some result) : Ends e c (some result) true
  | requested (active : c.cancelled = false) (waits : e.work.result = none)
      (cancels : e.work.cancels = true) (before : ∀ d, c.deadline = some d → e.now ≤ d) :
      Ends e c (some (.error (.cancelled e.stage .requested))) true
  | exceeded {d : Nat} (active : c.cancelled = false) (waits : e.work.result = none)
      (limited : c.deadline = some d) (late : e.work.cancels = true → d < e.now) :
      Ends e c (some (.error (.cancelled e.stage .deadlineExceeded))) true
  | unending (active : c.cancelled = false) (waits : e.work.result = none)
      (patient : e.work.cancels = false) (unlimited : c.deadline = none) : Ends e c none true

variable {e : Errand α} {c : Context}

theorem exists_ends (e : Errand α) (c : Context) :
    ∃ result started, e.Ends c result started := by
  cases cancelled : c.cancelled with
  | true => exact ⟨_, _, .refused cancelled⟩
  | false =>
    cases done : e.work.result with
    | some result => exact ⟨_, _, .finished cancelled done⟩
    | none =>
      cases limit : c.deadline with
      | none =>
        cases cancels : e.work.cancels with
        | true => exact ⟨_, _, .requested cancelled done cancels (by simp [limit])⟩
        | false => exact ⟨_, _, .unending cancelled done cancels limit⟩
      | some d =>
        by_cases before : e.work.cancels = true ∧ e.now ≤ d
        · exact ⟨_, _, .requested cancelled done before.1 (by simpa [limit] using before.2)⟩
        · exact ⟨_, _, .exceeded cancelled done limit (by simpa using before)⟩

theorem run_of_ends {result : Option (Except QueryError α)} {started : Bool}
    (ends : e.Ends (e.enter c) result started) :
    (e.run c).result = result ∧ (e.run c).started = started := by
  cases ends with
  | refused cancelled => simp [run, Context.run, cancelled]
  | finished active done => simp [run, Context.run, active, done]
  | requested active waits cancels before =>
    cases limit : (e.enter c).deadline with
    | none => simp [run, Context.run, active, waits, cancels, limit]
    | some d => simp [run, Context.run, active, waits, cancels, limit, before d limit]
  | @exceeded d active waits limited late =>
    have missed : ¬(e.work.cancels = true ∧ e.now ≤ d) := by simpa using late
    simp [run, Context.run, active, waits, limited, missed]
  | unending active waits patient unlimited =>
    simp [run, Context.run, active, waits, patient, unlimited]

theorem ends_iff {result : Option (Except QueryError α)} {started : Bool} :
    e.Ends (e.enter c) result started ↔
      (e.run c).result = result ∧ (e.run c).started = started := by
  constructor
  · exact run_of_ends
  · rintro ⟨rfl, rfl⟩
    obtain ⟨result, started, ends⟩ := e.exists_ends (e.enter c)
    obtain ⟨rfl, rfl⟩ := run_of_ends ends
    exact ends

theorem context_run (e : Errand α) (c : Context) :
    (e.run c).context = { c with cancelled := c.cancelled || e.cancelling } := by
  rw [cancelling, ← Bool.or_assoc]
  cases cancelled : (e.enter c).cancelled with
  | true =>
    have found : (c.cancelled || e.cancels) = true := cancelled
    have kept : (e.run c).context = e.enter c := by rw [run, Context.run, if_pos cancelled]
    rw [kept, enter, found, Bool.true_or]
  | false =>
    have found : (c.cancelled || e.cancels) = false := cancelled
    rw [run, (Context.run_of_active cancelled e.now e.stage e.work).2, enter, found,
      Bool.false_or]

theorem runs_cons (e : Errand α) (later : List (Errand α)) (c : Context) :
    runs (e :: later) c =
      e.run c :: if (e.run c).result.isSome then runs later (e.run c).context else [] := by
  rw [runs]
  cases (e.run c).result <;> rfl

theorem runs_append {earlier : List (Errand α)}
    (returned : ∀ run ∈ runs earlier c, run.result.isSome) (later : List (Errand α)) :
    runs (earlier ++ later) c = runs earlier c ++
      runs later { c with cancelled := c.cancelled || earlier.any cancelling } := by
  induction earlier generalizing c with
  | nil => simp [runs]
  | cons e rest ih =>
    rw [runs_cons, List.forall_mem_cons] at returned
    obtain ⟨first, others⟩ := returned
    rw [if_pos first] at others
    -- The first errand has cancelled, or one of the others may.
    rw [List.cons_append, runs_cons, if_pos first, runs_cons, if_pos first, List.cons_append,
      ih others, context_run, List.any_cons, Bool.or_assoc]

theorem runs_next {earlier : List (Errand α)}
    (returned : ∀ run ∈ runs earlier c, run.result.isSome) (e : Errand α)
    (later : List (Errand α)) :
    let left : Context := { c with cancelled := c.cancelled || earlier.any cancelling }
    ∃ after, runs (earlier ++ e :: later) c = runs earlier c ++ e.run left :: after := by
  intro left
  exact ⟨_, (runs_append returned (e :: later)).trans (by rw [runs_cons])⟩

/--
The deadline is when the first of the timeouts ends that were set, and no timeout that is set
later, the reader's own among them, moves it back. Of the errands that are run under it one after
another, each finds the context as its forerunners have left it, and ends as that context has it,
whenever it is looked at.
-/
theorem runs_under_timeouts (cancelled : Bool) {calls : List (Nat × Option Nat)}
    (told : ∀ now timeout, (now, some timeout) ∈ calls → now + timeout ≤ Context.lastInstant) :
    ∃ c, (Context.mk cancelled none).withTimeouts? calls = some c ∧ c.cancelled = cancelled ∧
      (c.deadline.isSome ↔ ∃ now timeout, (now, some timeout) ∈ calls) ∧
      (∀ d, c.deadline = some d →
        IsLeast {e | ∃ now timeout, (now, some timeout) ∈ calls ∧ now + timeout = e} d ∧
        (∀ others tighter, c.withTimeouts? others = some tighter →
          ∃ e ≤ d, tighter.deadline = some e) ∧
        ∀ (σ : Type) (r : SpanReader) (s : Session σ) deadline, s.context = c →
          r.scoped? s = some deadline → ∃ e ≤ d, deadline = some e) ∧
      ∀ (earlier later : List (Errand α)) (e : Errand α),
        (∀ run ∈ runs earlier c, run.result.isSome) →
        let before := cancelled || earlier.any cancelling
        let found : Context := ⟨before || e.cancels, c.deadline⟩
        ∃ run after, runs (earlier ++ e :: later) c = runs earlier c ++ run :: after ∧
          (∀ result started, e.Ends found result started ↔
            run.result = result ∧ run.started = started) ∧
          run.context = ⟨before || e.cancelling, c.deadline⟩ ∧
          ∀ instants, Waiting.Wakes c.deadline e.work e.now instants →
            Waiting.looks c.deadline e.stage e.work (e.now :: instants) ⟨found.cancelled, false⟩ =
              (run.result, ⟨run.context.cancelled, run.started⟩) := by
  refine ⟨_, Context.exists_withTimeouts? cancelled told, rfl, Context.isSome_min?_ends,
    fun d limited => ⟨Context.isLeast_of_min?_ends limited,
      fun others tighter set => Context.deadline_of_withTimeouts? set limited,
      fun σ r s deadline shared timed => SpanReader.scoped?_le timed (shared ▸ limited)⟩, ?_⟩
  intro earlier later e returned before found
  obtain ⟨after, next⟩ := runs_next returned e later
  exact ⟨_, after, next, fun result started => ends_iff (c := ⟨before, _⟩), context_run e _,
    fun instants wakes => Waiting.looks_eq_run found wakes⟩

/-- Work that is done is returned after the deadline, but not after a cancellation. -/
theorem runs_under_timeouts_late :
    let late : Errand Nat := ⟨.search, ⟨some (.ok 7), true⟩, 10, false⟩
    let refused : Errand Nat := ⟨.listTags, ⟨some (.ok 8), false⟩, 11, false⟩
    ∃ c, Context.fresh.withTimeouts? [(0, some 5), (1, none), (2, some 1)] = some c ∧
      c.deadline = some 3 ∧
      ∃ first second rest, runs [late, refused] c = first :: second :: rest ∧
        first.result = some (.ok 7) ∧
        second.result = some (.error (.cancelled .listTags .requested)) ∧
        Waiting.looks c.deadline .search late.work [10, 11] ⟨false, false⟩ =
          (some (.ok 7), ⟨true, true⟩) := by
  intro late refused
  have told (now timeout : Nat)
      (call : (now, some timeout) ∈ [(0, some 5), (1, none), (2, some 1)]) :
      now + timeout ≤ Context.lastInstant := by
    obtain ⟨rfl, rfl⟩ | ⟨rfl, rfl⟩ : now = 0 ∧ timeout = 5 ∨ now = 2 ∧ timeout = 1 := by
      simpa using call
    · decide
    · decide
  obtain ⟨c, set, -, -, -, following⟩ := @runs_under_timeouts Nat false _ told
  obtain rfl : ⟨false, some 3⟩ = c := Option.some.inj ((by cbv : some _ = _).trans set)
  obtain ⟨first, after, same, finishes, context, looked⟩ :=
    following [] [refused] late (by decide)
  obtain ⟨second, rest, both, refuses, -⟩ := following [late] [] refused (by decide)
  obtain rfl : first = late.run ⟨false, some 3⟩ := (List.cons.inj (same.symm.trans both)).1
  have finished := (finishes _ _).1 (.finished rfl rfl)
  have wakes : Waiting.Wakes (some 3) late.work 10 [11] :=
    ⟨fun _ => List.cons_ne_nil _ _, fun _ limited => ⟨10, List.mem_cons_self, by
      cases limited
      decide⟩⟩
  refine ⟨_, set, rfl, _, second, rest, both, finished.1, ((refuses _ _).1 (.refused rfl)).1, ?_⟩
  refine (looked [11] wakes).trans ?_
  rw [finished.1, finished.2, context]
  rfl

/-- An end that the clock cannot tell is not passed over for a deadline that is earlier. -/
theorem untimed_of_greatest_timeout :
    let r : SpanReader := ⟨.standard, { QuerySettings.standard with
      timeoutSecs := 18446744073709551615 }⟩
    let s := Session.start [Execution.noRows] ⟨false, some 60000000000⟩ 0
    Context.fresh.withTimeouts? [(0, some 60000000000)] = some s.context ∧
      Context.fresh.withTimeouts? [(0, some 60000000000), (0, r.settings.timeout)] = none ∧
      r.search .scripted .standard s = (.noDeadline, s) := by
  intro r s
  have ⟨plan, built⟩ : ∃ plan, r.plan .standard = .ok plan := ⟨_, rfl⟩
  exact ⟨by cbv, by cbv, SpanReader.search_of_noDeadline built (by cbv) .scripted⟩

end Errand

end TraceQuery
