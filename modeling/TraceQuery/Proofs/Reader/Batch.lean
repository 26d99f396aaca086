import TraceQuery.Proofs.NameMap
import TraceQuery.Proofs.Reader.Tags

/-!
A batch of tags against the single calls for them, made one after another on the same store. The
batch is those calls up to the first one that is cancelled or never returns.
-/

set_option autoImplicit false
namespace TraceQuery

variable {σ α : Type}

namespace Outcome

def halts : Outcome α → Bool
  | .returned (.ok _) => false
  | .returned (.error e) => e.isCancelled
  | .unending | .noDeadline => true

def value? : Outcome α → Option α
  | .returned (.ok a) => some a
  | .returned (.error _) | .unending | .noDeadline => none

end Outcome

/-- What the last call for a tag returned that returned something. -/
def lastValues (tag : String) (calls : List (String × Outcome TagValues)) : Option TagValues :=
  ((calls.filter (·.1 = tag)).filterMap (·.2.value?)).getLast?

theorem lastValues_cons (tag name : String) (outcome : Outcome TagValues)
    (calls : List (String × Outcome TagValues)) :
    lastValues tag ((name, outcome) :: calls) =
      (lastValues tag calls).or (if name = tag then outcome.value? else none) := by
  unfold lastValues
  by_cases named : name = tag
  · cases value : outcome.value? with
    | none => simp [named, value]
    | some values => simp [named, value, List.getLast?_cons, Option.or_some]
  · simp [named]

theorem isSome_lastValues {tag : String} {calls : List (String × Outcome TagValues)} :
    (lastValues tag calls).isSome = true ↔ ∃ values, (tag, .ok values) ∈ calls := by
  induction calls with
  | nil => simp [lastValues]
  | cons call rest ih =>
    obtain ⟨name, outcome⟩ := call
    rw [lastValues_cons, Option.isSome_or, Bool.or_eq_true, ih]
    by_cases named : name = tag
    · subst named
      cases outcome with
      | returned result =>
        cases result with
        | ok values => simp [Outcome.value?, Outcome.ok]
        | error e => simp [Outcome.value?, Outcome.ok]
      | unending => simp [Outcome.value?, Outcome.ok]
      | noDeadline => simp [Outcome.value?, Outcome.ok]
    · simp [named, Ne.symm named]

theorem mem_of_lastValues {tag : String} {calls : List (String × Outcome TagValues)}
    {values : TagValues} (last : lastValues tag calls = some values) :
    (tag, .ok values) ∈ calls := by
  have listed := List.mem_of_getLast? last
  simp only [List.mem_filterMap, List.mem_filter, decide_eq_true_eq] at listed
  obtain ⟨⟨name, outcome⟩, ⟨member, rfl⟩, value⟩ := listed
  cases outcome with
  | returned result =>
    cases result with
    | ok found =>
      cases value
      exact member
    | error e => cases value
  | unending => cases value
  | noDeadline => cases value

namespace SpanReader

/-! ## Single calls -/

section
variable (r : SpanReader) (executor : Executor σ) (deadline : Option Nat)
  (request : TagValuesRequest)

/-- The single calls for the tags in order, each with how it ended, and what they leave behind. -/
def singles : List String → Session σ → List (String × Outcome TagValues) × Session σ
  | [], s => ([], s)
  | tag :: rest, s =>
    let (outcome, t) := r.valuesUnder executor deadline request tag s
    let (calls, u) := singles rest t
    ((tag, outcome) :: calls, u)

theorem singles_cons (tag : String) (rest : List String) (s : Session σ) :
    r.singles executor deadline request (tag :: rest) s =
      let single := r.valuesUnder executor deadline request tag s
      let others := r.singles executor deadline request rest single.2
      ((tag, single.1) :: others.1, others.2) :=
  rfl

theorem singles_append (first second : List String) (s : Session σ) :
    r.singles executor deadline request (first ++ second) s =
      let before := r.singles executor deadline request first s
      let after := r.singles executor deadline request second before.2
      (before.1 ++ after.1, after.2) := by
  induction first generalizing s with
  | nil => rfl
  | cons tag rest ih => simp [singles_cons, ih]

theorem length_singles (tags : List String) (s : Session σ) :
    (r.singles executor deadline request tags s).1.length = tags.length := by
  induction tags generalizing s with
  | nil => rfl
  | cons tag rest ih => simp [singles_cons, ih]

end

section
variable {r : SpanReader} {executor : Executor σ} {deadline : Option Nat}
  {request : TagValuesRequest} {tag : String} {s t : Session σ} {done : NameMap TagValues}

theorem exists_of_mem_singles {tags : List String} {call : String × Outcome TagValues}
    (made : call ∈ (r.singles executor deadline request tags s).1) :
    ∃ before rest, tags = before ++ call.1 :: rest ∧
      call.2 = (r.valuesUnder executor deadline request call.1
        (r.singles executor deadline request before s).2).1 := by
  induction tags generalizing s with
  | nil => cases made
  | cons tag rest ih =>
    rw [singles_cons] at made
    rcases List.mem_cons.1 made with rfl | later
    · exact ⟨[], rest, rfl, rfl⟩
    · obtain ⟨before, others, rfl, single⟩ := ih later
      exact ⟨tag :: before, others, rfl, single⟩

theorem valuesUnder_of_unwarned (r : SpanReader) (executor : Executor σ) (deadline : Option Nat)
    (request : TagValuesRequest) (tag : String) (same : s.unwarned = t.unwarned) :
    (r.valuesUnder executor deadline request tag s).1 =
        (r.valuesUnder executor deadline request tag t).1 ∧
      (r.valuesUnder executor deadline request tag s).2.unwarned =
        (r.valuesUnder executor deadline request tag t).2.unwarned := by
  cases built : request.plan tag r.registry r.settings.maxTagValues with
  | error e =>
    rw [valuesUnder_of_error built, valuesUnder_of_error built]
    exact ⟨rfl, same⟩
  | ok plan =>
    obtain ⟨warnings, first⟩ := valuesUnder_of_plan built executor deadline s
    obtain ⟨warnings', second⟩ := valuesUnder_of_plan built executor deadline t
    obtain ⟨outcome, left⟩ :=
      Session.fetch_of_unwarned same executor deadline .tagValues plan.statement
    rw [first, second, Session.outcome_andThen fun _ _ => rfl,
      Session.outcome_andThen fun _ _ => rfl,
      Session.kept_andThen Session.unwarned fun _ _ => rfl,
      Session.kept_andThen Session.unwarned fun _ _ => rfl]
    exact ⟨congrArg _ outcome, left⟩

theorem valuesUnder_ne_noDeadline (r : SpanReader) (executor : Executor σ)
    (deadline : Option Nat) (request : TagValuesRequest) (tag : String) (s : Session σ) :
    (r.valuesUnder executor deadline request tag s).1 ≠ .noDeadline := by
  cases built : request.plan tag r.registry r.settings.maxTagValues with
  | error e => simp [valuesUnder_of_error built, Outcome.error]
  | ok plan =>
    obtain ⟨warnings, called⟩ := valuesUnder_of_plan built executor deadline s
    rw [called, Session.outcome_andThen fun _ _ => rfl, Session.fetch_outcome]
    split
    · simp [Outcome.map]
    · next result _ => cases result <;> simp [Outcome.map, Outcome.ok, Outcome.error]

/-! ## The batch, one tag after another -/

def noted (tag : String) (outcome : Outcome TagValues) (done : NameMap TagValues) :
    NameMap TagValues :=
  match outcome.value? with
  | none => done
  | some values => done.insert tag values

theorem get?_noted (tag : String) (outcome : Outcome TagValues) (done : NameMap TagValues)
    (name : String) :
    (noted tag outcome done).get? name =
      (if tag = name then outcome.value? else none).or (done.get? name) := by
  unfold noted
  cases outcome.value? with
  | none => simp
  | some values => by_cases same : tag = name <;> simp [same, eq_comm]

theorem batchUnder_cons_of_passed
    (passed : (r.valuesUnder executor deadline request tag s).1.halts = false)
    (done : NameMap TagValues) :
    ∃ u, u.unwarned = (r.valuesUnder executor deadline request tag s).2.unwarned ∧
      ∀ rest, r.batchUnder executor deadline request (tag :: rest) done s =
        r.batchUnder executor deadline request rest
          (noted tag (r.valuesUnder executor deadline request tag s).1 done) u := by
  simp only [batchUnder]
  generalize r.valuesUnder executor deadline request tag s = single at passed
  obtain ⟨outcome, u⟩ := single
  cases outcome with
  | returned result =>
    cases result with
    | ok values => exact ⟨u, rfl, fun _ => rfl⟩
    | error e =>
      -- A failure that is no cancellation leaves a warning, and the batch goes on.
      have goesOn : ¬e.isCancelled = true := by simpa [Outcome.halts] using passed
      exact ⟨u.warn [.omittedTag tag e], rfl, fun _ => if_neg goesOn⟩
  | unending => cases passed
  | noDeadline => cases passed

theorem batchUnder_cons_of_halts
    (halted : (r.valuesUnder executor deadline request tag s).1.halts = true)
    (done : NameMap TagValues) (rest : List String) :
    (∃ e u, e.isCancelled = true ∧
      r.valuesUnder executor deadline request tag s = (.error e, u) ∧
      r.batchUnder executor deadline request (tag :: rest) done s = (.error e, u)) ∨
    ∃ u, r.valuesUnder executor deadline request tag s = (.unending, u) ∧
      r.batchUnder executor deadline request (tag :: rest) done s = (.unending, u) := by
  have timed := valuesUnder_ne_noDeadline r executor deadline request tag s
  rw [batchUnder]
  generalize r.valuesUnder executor deadline request tag s = single at halted timed
  obtain ⟨outcome, u⟩ := single
  cases outcome with
  | returned result =>
    cases result with
    | ok values => cases halted
    | error e => exact .inl ⟨e, u, halted, rfl, if_pos halted⟩
  | unending => exact .inr ⟨u, rfl, rfl⟩
  | noDeadline => exact absurd rfl timed

/-- Over the first tags a batch does what the single calls do, and notes what they return. -/
theorem exists_batchUnder_append (before : List String)
    (passed : ∀ call ∈ (r.singles executor deadline request before s).1, call.2.halts = false)
    (same : s.unwarned = t.unwarned) (done : NameMap TagValues) :
    ∃ after u, u.unwarned = (r.singles executor deadline request before s).2.unwarned ∧
      (∀ name, after.get? name =
        (lastValues name (r.singles executor deadline request before s).1).or (done.get? name)) ∧
      ∀ rest, r.batchUnder executor deadline request (before ++ rest) done t =
        r.batchUnder executor deadline request rest after u := by
  induction before generalizing s t done with
  | nil => exact ⟨done, t, same.symm, fun _ => by simp [singles, lastValues], fun _ => rfl⟩
  | cons tag before ih =>
    rw [singles_cons] at passed ⊢
    obtain ⟨first, passed⟩ := List.forall_mem_cons.1 passed
    -- The batch warns of a tag that it leaves out, so the sessions are the same but for that.
    obtain ⟨outcome, left⟩ := valuesUnder_of_unwarned r executor deadline request tag same
    obtain ⟨v, kept, batch⟩ := batchUnder_cons_of_passed (outcome ▸ first) done
    obtain ⟨after, u, leaves, entries, rests⟩ :=
      ih passed (left.trans kept.symm) (noted tag _ done)
    refine ⟨after, u, leaves, ?_, fun rest => (batch (before ++ rest)).trans (rests rest)⟩
    intro name
    rw [entries, get?_noted, lastValues_cons, Option.or_assoc, outcome]

/-! ## The call that ends the batch -/

theorem exists_first_halt (r : SpanReader) (executor : Executor σ) (deadline : Option Nat)
    (request : TagValuesRequest) (tags : List String) (s : Session σ) :
    (∀ call ∈ (r.singles executor deadline request tags s).1, call.2.halts = false) ∨
    ∃ before tag rest, tags = before ++ tag :: rest ∧
      (∀ call ∈ (r.singles executor deadline request before s).1, call.2.halts = false) ∧
      (r.valuesUnder executor deadline request tag
        (r.singles executor deadline request before s).2).1.halts = true := by
  induction tags generalizing s with
  | nil => exact .inl (by simp [singles])
  | cons tag rest ih =>
    cases first : (r.valuesUnder executor deadline request tag s).1.halts with
    | true => exact .inr ⟨[], tag, rest, rfl, by simp [singles], first⟩
    | false =>
      rcases ih (r.valuesUnder executor deadline request tag s).2 with passed | later
      · exact .inl (List.forall_mem_cons.2 ⟨first, passed⟩)
      · obtain ⟨before, name, others, rfl, passed, halted⟩ := later
        exact .inr ⟨tag :: before, name, others, rfl, List.forall_mem_cons.2 ⟨first, passed⟩,
          halted⟩

section
variable {tags before : List String}

theorem batchUnder_of_passed
    (passed : ∀ call ∈ (r.singles executor deadline request tags s).1, call.2.halts = false) :
    ∃ done u, r.batchUnder executor deadline request tags .empty s = (.ok done, u) ∧
      u.unwarned = (r.singles executor deadline request tags s).2.unwarned ∧
      ∀ name, done.get? name = lastValues name (r.singles executor deadline request tags s).1 := by
  obtain ⟨done, u, left, entries, batch⟩ := exists_batchUnder_append tags passed rfl .empty
  refine ⟨done, u, ?_, left, fun name => by simpa using entries name⟩
  simpa [batchUnder] using batch []

theorem batchUnder_of_halts
    (passed : ∀ call ∈ (r.singles executor deadline request before s).1, call.2.halts = false)
    (halted : (r.valuesUnder executor deadline request tag
      (r.singles executor deadline request before s).2).1.halts = true) (rest : List String) :
    let single := r.valuesUnder executor deadline request tag
      (r.singles executor deadline request before s).2
    let batch := r.batchUnder executor deadline request (before ++ tag :: rest) .empty s
    batch.2.unwarned = single.2.unwarned ∧
      ((∃ e, e.isCancelled = true ∧ single.1 = .error e ∧ batch.1 = .error e) ∨
        (single.1 = .unending ∧ batch.1 = .unending)) := by
  intro single batch
  obtain ⟨done, u, left, -, continued⟩ := exists_batchUnder_append before passed rfl .empty
  obtain ⟨outcome, leaves⟩ := valuesUnder_of_unwarned r executor deadline request tag left
  have reached : batch = r.batchUnder executor deadline request (tag :: rest) done u :=
    continued (tag :: rest)
  rw [reached, ← outcome, ← leaves]
  rcases batchUnder_cons_of_halts (outcome ▸ halted) done rest with
    ⟨e, v, cancelled, called, ended⟩ | ⟨v, called, ended⟩
  · rw [called, ended]
    exact ⟨rfl, .inl ⟨e, cancelled, rfl, rfl⟩⟩
  · rw [called, ended]
    exact ⟨rfl, .inr ⟨rfl, rfl⟩⟩

theorem find?_singles_of_passed
    (passed : ∀ call ∈ (r.singles executor deadline request tags s).1, call.2.halts = false) :
    let calls := (r.singles executor deadline request tags s).1
    calls.find? (·.2.halts) = none ∧ calls.findIdx (·.2.halts) = tags.length := by
  refine ⟨List.find?_eq_none.2 fun call member => by simp [passed call member], ?_⟩
  rw [List.findIdx_eq_length_of_false passed, length_singles]

theorem find?_singles_of_halts
    (passed : ∀ call ∈ (r.singles executor deadline request before s).1, call.2.halts = false)
    (halted : (r.valuesUnder executor deadline request tag
      (r.singles executor deadline request before s).2).1.halts = true) (rest : List String) :
    let calls := (r.singles executor deadline request (before ++ tag :: rest) s).1
    calls.find? (·.2.halts) = some (tag, (r.valuesUnder executor deadline request tag
        (r.singles executor deadline request before s).2).1) ∧
      calls.findIdx (·.2.halts) = before.length := by
  obtain ⟨unfound, all⟩ := find?_singles_of_passed passed
  simp [singles_append, singles_cons, List.find?_append, List.findIdx_append, List.findIdx_cons,
    unfound, all, halted, length_singles]

end

theorem outcome_batchUnder (r : SpanReader) (executor : Executor σ) (deadline : Option Nat)
    (request : TagValuesRequest) (tags : List String) (s : Session σ) :
    let outcome := (r.batchUnder executor deadline request tags .empty s).1
    let calls := (r.singles executor deadline request tags s).1
    let first := calls.find? (·.2.halts)
    (first = none ∧ ∃ done, outcome = .ok done ∧ ∀ tag, done.get? tag = lastValues tag calls) ∨
    (∃ tag e, first = some (tag, .error e) ∧ e.isCancelled = true ∧ outcome = .error e) ∨
    ∃ tag, first = some (tag, .unending) ∧ outcome = .unending := by
  intro outcome calls first
  rcases exists_first_halt r executor deadline request tags s with passed | halting
  · obtain ⟨done, u, ended, -, entries⟩ := batchUnder_of_passed passed
    exact .inl ⟨(find?_singles_of_passed passed).1, done, congrArg Prod.fst ended, entries⟩
  · obtain ⟨before, tag, rest, rfl, passed, halted⟩ := halting
    have found := (find?_singles_of_halts passed halted rest).1
    rcases (batchUnder_of_halts passed halted rest).2 with
      ⟨e, cancelled, single, ended⟩ | ⟨single, ended⟩
    · exact .inr (.inl ⟨tag, e, single ▸ found, cancelled, ended⟩)
    · exact .inr (.inr ⟨tag, single ▸ found, ended⟩)

/-- What a batch holds for a tag is what a call for the tag returned, behind those before it. -/
theorem exists_single_of_batchUnder {tags : List String} {batch : NameMap TagValues}
    (returned : r.batchUnder executor deadline request tags .empty s = (.ok batch, t))
    {e : String × TagValues} (member : e ∈ batch.entries) :
    ∃ before rest, tags = before ++ e.1 :: rest ∧
      (r.valuesUnder executor deadline request e.1
        (r.singles executor deadline request before s).2).1 = .ok e.2 := by
  have outcome := outcome_batchUnder r executor deadline request tags s
  rw [returned] at outcome
  rcases outcome with ⟨-, done, same, entries⟩ | ⟨tag, error, -, -, same⟩ | ⟨tag, -, same⟩
  · cases same
    have last := (entries e.1).symm.trans (NameMap.mem_entries_iff.1 member)
    obtain ⟨before, rest, split, single⟩ := exists_of_mem_singles (mem_of_lastValues last)
    exact ⟨before, rest, split, single.symm⟩
  · cases same
  · cases same

theorem unwarned_batchUnder (r : SpanReader) (executor : Executor σ) (deadline : Option Nat)
    (request : TagValuesRequest) (tags : List String) (s : Session σ) :
    let calls := (r.singles executor deadline request tags s).1
    let made := tags.take (calls.findIdx (·.2.halts) + 1)
    (r.batchUnder executor deadline request tags .empty s).2.unwarned =
      (r.singles executor deadline request made s).2.unwarned := by
  intro calls made
  rcases exists_first_halt r executor deadline request tags s with passed | halting
  · obtain ⟨done, u, ended, left, -⟩ := batchUnder_of_passed passed
    have all : made = tags := by
      have index : calls.findIdx (·.2.halts) = tags.length := (find?_singles_of_passed passed).2
      exact List.take_of_length_le (by omega)
    rw [ended, all]
    exact left
  · obtain ⟨before, tag, rest, rfl, passed, halted⟩ := halting
    have upTo : made = before ++ [tag] := by
      have index : calls.findIdx (·.2.halts) = before.length :=
        (find?_singles_of_halts passed halted rest).2
      simp [made, index, List.take_append, List.take_of_length_le]
    rw [upTo, singles_append]
    exact (batchUnder_of_halts passed halted rest).1

theorem plan_of_valuesUnder_build {e : BuildError}
    (failed : (r.valuesUnder executor deadline request tag s).1 = .error (.build e)) :
    request.plan tag r.registry r.settings.maxTagValues = .error e := by
  cases built : request.plan tag r.registry r.settings.maxTagValues with
  | error found =>
    rw [valuesUnder_of_error built] at failed
    cases failed
    rfl
  | ok plan =>
    obtain ⟨warnings, called⟩ := valuesUnder_of_plan built executor deadline s
    rw [called, Session.outcome_andThen fun _ _ => rfl, Outcome.map_eq_error_iff] at failed
    -- A statement that is issued fails in execution or is cancelled.
    rcases Session.fetch_eq_error failed with ⟨cause, other⟩ | ⟨reason, other⟩ <;> cases other

end

/--
A batch is the single calls for its tags, in order and on the same store, up to the first of them
that is cancelled or does not return. If there is one, it decides how the batch ends, and no
statement is issued after it. If there is none, the batch returns what each tag's last call
returned that returned something.
-/
theorem batchUnder_folds_singles (r : SpanReader) (executor : Executor σ) (deadline : Option Nat)
    (request : TagValuesRequest) (tags : List String) (s : Session σ) :
    let batch := r.batchUnder executor deadline request tags .empty s
    let calls := (r.singles executor deadline request tags s).1
    let first := calls.find? (·.2.halts)
    let made := tags.take (calls.findIdx (·.2.halts) + 1)
    (∀ e, batch.1 = .error e ↔ e.isCancelled = true ∧ ∃ tag, first = some (tag, .error e)) ∧
    (batch.1 = .unending ↔ ∃ tag, first = some (tag, .unending)) ∧
    ((∃ done, batch.1 = .ok done) ↔ ∀ call ∈ calls, call.2.halts = false) ∧
    (∀ done, batch.1 = .ok done → ∀ tag,
      (done.contains tag = true ↔ ∃ values, (tag, .ok values) ∈ calls) ∧
        done.get? tag = lastValues tag calls) ∧
    batch.2.unwarned = (r.singles executor deadline request made s).2.unwarned ∧
    ∀ tag t e, (r.valuesUnder executor deadline request tag t).1 = .error (.build e) →
      (r.valuesUnder executor deadline request tag t).2 = t := by
  intro batch calls first made
  rw [← and_assoc, ← and_assoc, ← and_assoc]
  refine ⟨?_, unwarned_batchUnder r executor deadline request tags s, fun tag t e failed => ?_⟩
  · have none_iff : first = none ↔ ∀ call ∈ calls, call.2.halts = false := by
      simp [first, List.find?_eq_none]
    obtain ⟨unfound, done, ended, entries⟩ | ⟨tag, e, found, cancelled, ended⟩ | ⟨tag, found, ended⟩ :
        (first = none ∧ ∃ done, batch.1 = .ok done ∧ ∀ tag, done.get? tag = lastValues tag calls) ∨
        (∃ tag e, first = some (tag, .error e) ∧ e.isCancelled = true ∧ batch.1 = .error e) ∨
        ∃ tag, first = some (tag, .unending) ∧ batch.1 = .unending :=
      outcome_batchUnder r executor deadline request tags s
    · refine ⟨⟨⟨?_, ?_⟩, iff_of_true ⟨done, ended⟩ (none_iff.1 unfound)⟩, fun found returned tag => ?_⟩
      · simp [ended, unfound, Outcome.ok, Outcome.error]
      · simp [ended, unfound, Outcome.ok]
      · obtain rfl : done = found := by simpa [ended, Outcome.ok] using returned
        rw [NameMap.contains, entries, isSome_lastValues]
        exact ⟨Iff.rfl, rfl⟩
    · have halted : ¬∀ call ∈ calls, call.2.halts = false := fun passed => by
        simp [none_iff.2 passed] at found
      refine ⟨⟨⟨fun other => ?_, ?_⟩, iff_of_false ?_ halted⟩, fun done returned => ?_⟩
      · have same : e = other → other.isCancelled = true := fun same => same ▸ cancelled
        simpa [ended, found, Outcome.error] using same
      · simp [ended, found, Outcome.error]
      · simp [ended, Outcome.ok, Outcome.error]
      · simp [ended, Outcome.ok, Outcome.error] at returned
    · have halted : ¬∀ call ∈ calls, call.2.halts = false := fun passed => by
        simp [none_iff.2 passed] at found
      refine ⟨⟨⟨?_, ?_⟩, iff_of_false ?_ halted⟩, fun done returned => ?_⟩
      · simp [ended, found, Outcome.error]
      · simp [ended, found]
      · simp [ended, Outcome.ok]
      · simp [ended, Outcome.ok] at returned
  · rw [valuesUnder_of_error (plan_of_valuesUnder_build failed)]

/-- The last call for a tag fails, so that its first one counts; or it is cancelled. -/
theorem batchUnder_folds_singles_repeated :
    let r : SpanReader := ⟨.empty, .standard⟩
    let row : Row := ⟨[.text "x", .integer 2]⟩
    let tags := ["span.a", "span.", "span.a"]
    let s (last : Execution) := Session.start [⟨[row], .complete, false⟩, last] .fresh 0
    let batch (last : Execution) :=
      (r.batchUnder .scripted none .standard tags .empty (s last)).1
    (∃ done, batch ⟨[], .failed "disk I/O error", false⟩ = .ok done ∧
      done.get? "span.a" = some ⟨[⟨.text "x", 2⟩]⟩ ∧ done.contains "span." = false) ∧
    batch ⟨[], .unending, true⟩ = .error (.cancelled .tagValues .requested) := by
  intro r row tags s batch
  have values : ranked [row] = ⟨[⟨.text "x", 2⟩]⟩ :=
    congrArg TagValues.mk (List.mergeSort_singleton _)
  constructor
  · let last : Execution := ⟨[], .failed "disk I/O error", false⟩
    have calls : (r.singles .scripted none .standard tags (s last)).1 =
        [("span.a", .ok (ranked [row])), ("span.", .error (.build (.malformedKey "span." .noName))),
          ("span.a", .error (.execution .tagValues "disk I/O error"))] := rfl
    obtain ⟨-, -, returns, entries, -⟩ :=
      batchUnder_folds_singles r .scripted none .standard tags (s last)
    rw [calls] at returns entries
    obtain ⟨done, ended⟩ := returns.2 (by simp [Outcome.halts, Outcome.ok, Outcome.error,
      QueryError.isCancelled])
    refine ⟨done, ended, ?_, ?_⟩
    · rw [(entries done ended "span.a").2, ← values]
      rfl
    · rw [NameMap.contains, (entries done ended "span.").2]
      rfl
  · let last : Execution := ⟨[], .unending, true⟩
    have calls : (r.singles .scripted none .standard tags (s last)).1 =
        [("span.a", .ok (ranked [row])), ("span.", .error (.build (.malformedKey "span." .noName))),
          ("span.a", .error (.cancelled .tagValues .requested))] := rfl
    obtain ⟨fails, -⟩ := batchUnder_folds_singles r .scripted none .standard tags (s last)
    rw [calls] at fails
    exact (fails _).2 ⟨rfl, "span.a", rfl⟩

end SpanReader

end TraceQuery
