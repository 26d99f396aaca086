import TraceQuery.Proofs.Tag.Location

/-!
Which keys are resolved, and where each leads. A key that is not registered leads to one attribute
of one source, as its path is read as the label of that attribute and as nothing else. Two keys
lead to one attribute only if they are one, once every key without a source is given that of spans.
-/

set_option autoImplicit false
namespace TraceQuery

/-! ## Paths -/

inductive PathStep
  | member (label : String)
  | element (index : String)
  deriving DecidableEq, Repr

namespace PathStep

def cut? (mark : Char) (text : List Char) : Option (String × List Char) :=
  match text.dropWhile (· != mark) with
  | [] => none
  | _ :: rest => some (String.ofList (text.takeWhile (· != mark)), rest)

def isBare (c : Char) : Bool :=
  c != '.' && c != '['

/-- The first step and what is left. A label in quotes ends at the next quote, and any other one
where another step begins. -/
def first? : List Char → Option (PathStep × List Char)
  | '.' :: '"' :: text => (cut? '"' text).map fun (label, rest) => (.member label, rest)
  | '.' :: text =>
    match text.takeWhile isBare with
    | [] => none
    | label => some (.member (String.ofList label), text.dropWhile isBare)
  | '[' :: text => (cut? ']' text).map fun (index, rest) => (.element index, rest)
  | _ => none

inductive AreRead : List PathStep → List Char → Prop
  | nil : AreRead [] []
  | cons {step : PathStep} {text rest : List Char} {steps : List PathStep} :
    first? text = some (step, rest) → AreRead steps rest → AreRead (step :: steps) text

def Reads (path : String) (steps : List PathStep) : Prop :=
  ∃ text, path.toList = '$' :: text ∧ AreRead steps text

variable {steps : List PathStep} {step : PathStep} {text rest : List Char}

theorem areRead_nil_iff : AreRead steps [] ↔ steps = [] := by
  constructor
  · intro read
    cases read with
    | nil => rfl
    | cons first _ => cases first
  · rintro rfl
    exact .nil

theorem areRead_iff_of_first? (first : first? text = some (step, rest)) :
    AreRead steps text ↔ ∃ others, steps = step :: others ∧ AreRead others rest := by
  constructor
  · intro read
    cases read with
    | nil => cases first
    | cons one others =>
      rw [first] at one
      cases one
      exact ⟨_, rfl, others⟩
  · rintro ⟨others, rfl, read⟩
    exact .cons first read

theorem cut?_append {mark : Char} {text : List Char} (plain : mark ∉ text) (rest : List Char) :
    cut? mark (text ++ mark :: rest) = some (String.ofList text, rest) := by
  have before : ∀ c ∈ text, (c != mark) = true := by
    intro c member
    have : c ≠ mark := fun same => plain (same ▸ member)
    simpa using this
  rw [cut?, List.dropWhile_append_of_pos before, List.takeWhile_append_of_pos before]
  simp

theorem first?_quoted {field : String} (plain : '"' ∉ field.toList) (rest : List Char) :
    first? ('.' :: '"' :: (field.toList ++ '"' :: rest)) = some (.member field, rest) := by
  rw [first?, cut?_append plain]
  simp

end PathStep

/-- The column that the values of an attribute are in, and the path that leads to them. -/
def TagLocation.address? : TagLocation → Option (String × String)
  | .column _ => none
  | .attribute c path | .element c path => some (c, path)

namespace AttributeSource

variable {source : AttributeSource} {field : String}

def steps (source : AttributeSource) (field : String) : List PathStep :=
  if source.isNested then [.member "attributes", .member field] else [.member field]

theorem reads_path_iff (plain : '"' ∉ field.toList) {steps : List PathStep} :
    PathStep.Reads (source.path field) steps ↔ steps = source.steps field := by
  have label : PathStep.first? ('.' :: '"' :: (field.toList ++ ['"'])) = some (.member field, []) :=
    PathStep.first?_quoted plain []
  unfold path AttributeSource.steps
  cases source.isNested with
  | false =>
    simp [PathStep.Reads, PathStep.areRead_iff_of_first? label, PathStep.areRead_nil_iff]
  | true =>
    -- This label has no quotes, and ends at the dot of the one behind it.
    have attributes : PathStep.first?
        ('.' :: 'a' :: 't' :: 't' :: 'r' :: 'i' :: 'b' :: 'u' :: 't' :: 'e' :: 's' ::
          '.' :: '"' :: (field.toList ++ ['"'])) =
        some (.member "attributes", '.' :: '"' :: (field.toList ++ ['"'])) := rfl
    simp [PathStep.Reads, PathStep.areRead_iff_of_first? attributes,
      PathStep.areRead_iff_of_first? label, PathStep.areRead_nil_iff]

/-! ## Keys with their source -/

/-- A key that does not begin with a source and a dot is one of the attributes of spans. -/
def qualified (key : String) : String :=
  if all.any fun source => (source.key ++ ".").toList.isPrefixOf key.toList then key
  else "span." ++ key

theorem any_isPrefixOf_iff {key : String} :
    (all.any fun source => (source.key ++ ".").toList.isPrefixOf key.toList) = true ↔
      ∃ (source : AttributeSource) (field : String), key = source.key ++ "." ++ field := by
  have listed (source : AttributeSource) : source ∈ all := by cases source <;> decide
  simp only [List.any_eq_true, listed, true_and, List.isPrefixOf_iff_prefix]
  refine exists_congr fun source => ⟨?_, ?_⟩
  · rintro ⟨rest, chars⟩
    exact ⟨String.ofList rest, String.toList_inj.1 (by simp [← chars])⟩
  · rintro ⟨field, rfl⟩
    exact ⟨field.toList, by simp⟩

theorem ofKey?_eq_some {key : String} (found : ofKey? key = some source) : source.key = key := by
  simpa using List.find?_some found

theorem ofTag_cases (key : String) :
    (∃ source field, key = source.key ++ "." ++ field ∧ ofTag key = (source, field)) ∨
      (∀ source field, key ≠ AttributeSource.key source ++ "." ++ field) ∧
        ofTag key = (.span, key) := by
  by_cases named : ∃ (source : AttributeSource) (field : String), key = source.key ++ "." ++ field
  · obtain ⟨source, field, rfl⟩ := named
    exact .inl ⟨source, field, rfl, ofTag_qualified source field⟩
  refine .inr ⟨fun source field same => named ⟨source, field, same⟩, ?_⟩
  have parts := List.takeWhile_append_dropWhile (p := (· != '.')) (l := key.toList)
  have dot := List.head?_dropWhile_not (· != '.') key.toList
  unfold ofTag
  cases behind : key.toList.dropWhile (· != '.') with
  | nil => rfl
  | cons c field =>
    cases found : ofKey? (String.ofList (key.toList.takeWhile (· != '.'))) with
    | none => rfl
    | some source =>
      -- What stands before the first dot is the key of a source after all.
      obtain rfl : c = '.' := by simpa [behind] using dot
      rw [behind] at parts
      refine absurd ⟨source, String.ofList field, String.toList_inj.1 ?_⟩ named
      rw [ofKey?_eq_some found]
      simp [parts]

theorem qualified_eq (key : String) :
    qualified key = (ofTag key).1.key ++ "." ++ (ofTag key).2 := by
  rcases ofTag_cases key with ⟨source, field, rfl, read⟩ | ⟨bare, read⟩
  · rw [qualified, if_pos (any_isPrefixOf_iff.2 ⟨source, field, rfl⟩), read]
  · rw [qualified, if_neg fun named => ?_, read]
    · rfl
    · obtain ⟨source, field, same⟩ := any_isPrefixOf_iff.1 named
      exact bare source field same

theorem ofTag_snd_eq_empty_iff {key : String} (nonempty : key ≠ "") :
    (ofTag key).2 = "" ↔ ∃ source : AttributeSource, key = source.key ++ "." := by
  rcases ofTag_cases key with ⟨source, field, rfl, read⟩ | ⟨bare, read⟩
  · rw [read]
    constructor
    · rintro rfl
      exact ⟨source, String.append_empty⟩
    · rintro ⟨other, same⟩
      exact (qualified_inj (same.trans String.append_empty.symm)).2
  · rw [read]
    refine ⟨fun empty => absurd empty nonempty, ?_⟩
    rintro ⟨source, same⟩
    exact absurd (same.trans String.append_empty.symm) (bare source "")

theorem column_inj {source source' : AttributeSource} (same : source.column = source'.column) :
    source = source' := by
  cases source <;> cases source' <;> first | rfl | exact absurd same (by decide)

theorem path_inj {field field' : String} (same : source.path field = source.path field') :
    field = field' := by
  unfold path at same
  cases nested : source.isNested <;> simpa [nested, ← String.toList_inj] using same

theorem address?_location (source : AttributeSource) (field : String) :
    (source.location field).address? = some (source.column, source.path field) := by
  unfold location
  split <;> rfl

theorem address?_location_inj {source' : AttributeSource} {field field' : String} :
    (source.location field).address? = (source'.location field').address? ↔
      source = source' ∧ field = field' := by
  rw [address?_location, address?_location, Option.some.injEq, Prod.mk.injEq]
  constructor
  · rintro ⟨column, path⟩
    obtain rfl := column_inj column
    exact ⟨rfl, path_inj path⟩
  · rintro ⟨rfl, rfl⟩
    exact ⟨rfl, rfl⟩

theorem address?_ofTag_iff (key key' : String) :
    ((ofTag key).1.location (ofTag key).2).address? =
        ((ofTag key').1.location (ofTag key').2).address? ↔
      qualified key = qualified key' := by
  rw [address?_location_inj, qualified_eq, qualified_eq]
  constructor
  · rintro ⟨source, field⟩
    rw [source, field]
  · exact qualified_inj

end AttributeSource

/-! ## Keys that resolve -/

namespace Registry

variable {registry : Registry} {key : String} {location : TagLocation}

theorem resolve_eq_ok_iff (dynamic : registry.get? key = none) :
    registry.resolve key = .ok location ↔
      key ≠ "" ∧ '"' ∉ key.toList ∧ (AttributeSource.ofTag key).2 ≠ "" ∧
        (AttributeSource.ofTag key).1.location (AttributeSource.ofTag key).2 = location := by
  rw [resolve, dynamic]
  by_cases empty : key = ""
  · simp [empty]
  by_cases quoted : '"' ∈ key.toList
  · simp [empty, quoted]
  by_cases unnamed : (AttributeSource.ofTag key).2 = ""
  · simp [empty, quoted, unnamed]
  · simp [empty, quoted, unnamed]

theorem exists_resolve_iff (dynamic : registry.get? key = none) :
    (∃ location, registry.resolve key = .ok location) ↔
      key ≠ "" ∧ '"' ∉ key.toList ∧ ∀ source : AttributeSource, key ≠ source.key ++ "." := by
  simp only [resolve_eq_ok_iff dynamic]
  constructor
  · rintro ⟨location, nonempty, plain, named, -⟩
    exact ⟨nonempty, plain, fun source same =>
      named ((AttributeSource.ofTag_snd_eq_empty_iff nonempty).2 ⟨source, same⟩)⟩
  · rintro ⟨nonempty, plain, named⟩
    refine ⟨_, nonempty, plain, fun empty => ?_, rfl⟩
    obtain ⟨source, same⟩ := (AttributeSource.ofTag_snd_eq_empty_iff nonempty).1 empty
    exact named source same

theorem quote_not_mem_field (plain : '"' ∉ key.toList) :
    '"' ∉ (AttributeSource.ofTag key).2.toList := by
  rcases AttributeSource.ofTag_cases key with ⟨source, field, rfl, read⟩ | ⟨-, read⟩
  · rw [AttributeSource.toList_qualified, List.mem_append, not_or, List.mem_cons, not_or] at plain
    rw [read]
    exact plain.2.2
  · rw [read]
    exact plain

/--
A registered key leads to its column. Any other resolves exactly if it is not empty, has no double
quote and is not just a source and a dot, and then it leads to the column of its source under a
path that is read as the label of the attribute alone. Two keys lead to one column and path exactly
if they are one once they have their source.
-/
theorem resolve_separates_keys (registry : Registry) :
    (∀ key tag, registry.get? key = some tag → registry.resolve key = .ok (.column tag.column)) ∧
    (∀ key, registry.get? key = none →
      ((∃ location, registry.resolve key = .ok location) ↔
        key ≠ "" ∧ '"' ∉ key.toList ∧ ∀ source : AttributeSource, key ≠ source.key ++ ".") ∧
      ∀ location, registry.resolve key = .ok location →
        ∃ (source : AttributeSource) (field path : String),
          AttributeSource.qualified key = source.key ++ "." ++ field ∧ field ≠ "" ∧
            (∀ steps, PathStep.Reads path steps ↔ steps =
              if source.isNested then [.member "attributes", .member field] else [.member field]) ∧
            location = if source.isNested then .element source.column path
              else .attribute source.column path) ∧
    ∀ key key' location location', registry.get? key = none → registry.get? key' = none →
      registry.resolve key = .ok location → registry.resolve key' = .ok location' →
        (location.address? = location'.address? ↔
          AttributeSource.qualified key = AttributeSource.qualified key') ∧
        (location = location' ↔
          AttributeSource.qualified key = AttributeSource.qualified key') := by
  refine ⟨fun key tag known => by rw [resolve, known],
    fun key dynamic => ⟨exists_resolve_iff dynamic, ?placed⟩,
    fun key key' location location' dynamic dynamic' resolved resolved' => ?apart⟩
  case placed =>
    intro location resolved
    obtain ⟨-, plain, named, rfl⟩ := (resolve_eq_ok_iff dynamic).1 resolved
    have field := quote_not_mem_field plain
    exact ⟨_, _, _, AttributeSource.qualified_eq key, named,
      fun _ => AttributeSource.reads_path_iff field, rfl⟩
  case apart =>
    obtain ⟨-, -, -, rfl⟩ := (resolve_eq_ok_iff dynamic).1 resolved
    obtain ⟨-, -, -, rfl⟩ := (resolve_eq_ok_iff dynamic').1 resolved'
    have address := AttributeSource.address?_ofTag_iff key key'
    refine ⟨address, fun same => address.1 (congrArg TagLocation.address? same), fun same => ?_⟩
    obtain ⟨source, field⟩ := AttributeSource.address?_location_inj.1 (address.2 same)
    rw [source, field]

/-- Keys that look like other keys, like paths, and like sources without an attribute. -/
theorem resolve_separates_keys_alike :
    let registry : Registry := NameMap.empty.insert "link." ⟨.number, "spans.a"⟩
    registry.get? "link." = some ⟨.number, "spans.a"⟩ ∧
      registry.resolve "link." = .ok (.column "spans.a") ∧
      registry.get? "event.x[0]" = none ∧ registry.get? "span.event.x[0]" = none ∧
      (∃ location location', registry.resolve "event.x[0]" = .ok location ∧
        registry.resolve "span.event.x[0]" = .ok location' ∧
        location.address? ≠ location'.address?) ∧
      registry.get? "events." = none ∧ registry.get? "span.events." = none ∧
      ∃ location, registry.resolve "events." = .ok location ∧
        registry.resolve "span.events." = .ok location := by
  intro registry
  have registered : registry.get? "link." = some ⟨.number, "spans.a"⟩ := by decide
  have event : registry.get? "event.x[0]" = none := by decide
  have spanEvent : registry.get? "span.event.x[0]" = none := by decide
  have events : registry.get? "events." = none := by decide
  have spanEvents : registry.get? "span.events." = none := by decide
  obtain ⟨columns, dynamic, apart⟩ := resolve_separates_keys registry
  obtain ⟨first, atFirst⟩ := (dynamic "event.x[0]" event).1.2
    ⟨by decide, by decide, fun source => by cases source <;> decide⟩
  obtain ⟨second, atSecond⟩ := (dynamic "span.event.x[0]" spanEvent).1.2
    ⟨by decide, by decide, fun source => by cases source <;> decide⟩
  obtain ⟨third, atThird⟩ := (dynamic "events." events).1.2
    ⟨by decide, by decide, fun source => by cases source <;> decide⟩
  obtain ⟨fourth, atFourth⟩ := (dynamic "span.events." spanEvents).1.2
    ⟨by decide, by decide, fun source => by cases source <;> decide⟩
  have other := (apart _ _ first second event spanEvent atFirst atSecond).1.not.2 (by decide +kernel)
  obtain rfl := (apart _ _ third fourth events spanEvents atThird atFourth).2.2 (by decide +kernel)
  exact ⟨registered, columns _ _ registered, event, spanEvent,
    ⟨first, second, atFirst, atSecond, other⟩, events, spanEvents, third, atThird, atFourth⟩

end Registry

end TraceQuery
