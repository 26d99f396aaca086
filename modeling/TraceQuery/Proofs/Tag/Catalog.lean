import TraceQuery.Proofs.NameMap
import TraceQuery.Proofs.Reader.Search
import TraceQuery.Proofs.Reader.Tags
import TraceQuery.Proofs.Span.OfRow
import TraceQuery.Proofs.Text.ByteOrder

/-!
The catalog of tags says which attributes occur and nothing about how their rows came: it lists
every name once, in order, with a type that all occurrences of the name agree on or with `string`.
-/

set_option autoImplicit false
namespace TraceQuery

variable {σ : Type}

theorem TagType.ofName?_eq_some_iff {name : String} {type : TagType} :
    ofName? name = some type ↔ name = type.name := by
  constructor
  · intro named
    unfold ofName? at named
    split at named <;> cases named <;> rfl
  · rintro rfl
    cases type <;> rfl

namespace Row

theorem text_eq_ok_iff {r : Row} {index : Nat} {s : String} :
    r.text index = .ok s ↔ r.columns[index]? = some (.text s) := by
  unfold text get
  cases r.columns[index]? with
  | none => simp [bind, Except.bind]
  | some v => cases v <;> simp [bind, Except.bind, mismatch]

theorem text?_eq_some_iff {r : Row} {index : Nat} {s : String} :
    r.text? index = .ok (some s) ↔ r.columns[index]? = some (.text s) := by
  unfold text? get
  cases r.columns[index]? with
  | none => simp [bind, Except.bind]
  | some v => cases v <;> simp [bind, Except.bind, mismatch]

end Row

namespace DiscoveredTag

def row (t : DiscoveredTag) : Row :=
  ⟨[.text t.source, .text t.key, .text t.type.name]⟩

def Occurs (t : DiscoveredTag) (rows : List Row) : Prop :=
  t.row ∈ rows ∧ t.source ≠ "" ∧ t.key ≠ ""

theorem ofRow_eq_some_iff {r : Row} {t : DiscoveredTag} :
    ofRow r = .ok (some t) ↔ r = t.row ∧ t.source ≠ "" ∧ t.key ≠ "" := by
  constructor
  · intro read
    unfold ofRow at read
    simp only [bind_eq_ok, Row.expectColumns_eq_ok_iff] at read
    obtain ⟨-, count, source?, first, key?, second, read⟩ := read
    split at read
    · cases read
    next named =>
    obtain ⟨typeName, third, read⟩ := bind_eq_ok.1 read
    obtain ⟨source, key⟩ := not_or.1 named
    -- Null reads as the empty text, so what is named by both is text in both columns.
    cases source? with
    | none => exact absurd rfl source
    | some source? =>
    cases key? with
    | none => exact absurd rfl key
    | some key? =>
    split at read
    · next type known =>
      cases read
      obtain ⟨columns⟩ := r
      obtain ⟨a, b, c, rfl⟩ := List.length_eq_three.1 count
      obtain rfl : a = .text source? := by simpa using Row.text?_eq_some_iff.1 first
      obtain rfl : b = .text key? := by simpa using Row.text?_eq_some_iff.1 second
      obtain rfl : c = .text typeName := by simpa using Row.text_eq_ok_iff.1 third
      obtain rfl := TagType.ofName?_eq_some_iff.1 known
      exact ⟨rfl, source, key⟩
    · cases read
  · rintro ⟨rfl, source, key⟩
    simp [ofRow, row, Row.expectColumns, Row.text?, Row.text, Row.get, source, key, bind,
      Except.bind, pure, Except.pure, TagType.ofName?_eq_some_iff.2 rfl]

end DiscoveredTag

/-! ## Types of names -/

/-- The type of a name that has occurred, if it has, and now occurs with this type. -/
def TagType.joined (known : Option TagType) (type : TagType) : Option TagType :=
  match known with
  | none => some type
  | some k => if k = type then some k else some .string

theorem TagType.foldl_joined (type : TagType) (types : List TagType) :
    types.foldl joined (some type) =
      some (if ∀ other ∈ types, other = type then type else .string) := by
  induction types generalizing type with
  | nil => simp
  | cons other rest ih =>
    rw [List.foldl_cons]
    by_cases same : type = other
    · subst same
      simp [joined, ih]
    · have differs : ¬∀ o ∈ other :: rest, o = type := fun all =>
        same (all other List.mem_cons_self).symm
      rw [if_neg differs]
      -- From here on the type is a string, and stays one.
      simp [joined, same, ih]

namespace Catalog

variable {registry : Registry} {name : String}

def typesOf (name : String) (discovered : List DiscoveredTag) : List TagType :=
  (discovered.filter (·.qualifiedName = name)).map (·.type)

theorem mem_typesOf {type : TagType} {discovered : List DiscoveredTag} :
    type ∈ typesOf name discovered ↔
      ∃ t ∈ discovered, t.qualifiedName = name ∧ t.type = type := by
  simp [typesOf, and_assoc]

theorem get?_add (types : NameMap TagType) (t : DiscoveredTag) :
    (add registry types t).get? name =
      if registry.contains name = false ∧ t.qualifiedName = name then
        TagType.joined (types.get? name) t.type
      else types.get? name := by
  unfold add
  by_cases named : t.qualifiedName = name
  · subst named
    cases known : registry.contains t.qualifiedName with
    | true => simp
    | false =>
      cases kept : types.get? t.qualifiedName with
      | none => simp [TagType.joined]
      | some type => by_cases same : type = t.type <;> simp [TagType.joined, kept, same]
  · cases registry.contains t.qualifiedName with
    | true => simp [named]
    | false =>
      cases types.get? t.qualifiedName with
      | none => simp [named, Ne.symm named]
      | some type => by_cases same : type = t.type <;> simp [named, Ne.symm named, same]

/-- A registered name keeps its type, and any other has what its occurrences join to. -/
theorem get?_foldl_add (types : NameMap TagType) (discovered : List DiscoveredTag) :
    (discovered.foldl (add registry) types).get? name =
      if registry.contains name then types.get? name
      else (typesOf name discovered).foldl TagType.joined (types.get? name) := by
  induction discovered generalizing types with
  | nil => simp [typesOf]
  | cons t rest ih =>
    rw [List.foldl_cons, ih, get?_add]
    cases registry.contains name with
    | true => simp
    | false =>
      by_cases named : t.qualifiedName = name <;> simp [typesOf, named]

theorem get?_foldl_insert (entries : List (String × StaticTag))
    (sorted : entries.Pairwise (·.1 < ·.1)) (types : NameMap TagType) :
    (entries.foldl (fun types (name, tag) => types.insert name tag.type) types).get? name =
      ((entries.lookup name).map (·.type)).or (types.get? name) := by
  induction entries generalizing types with
  | nil => simp
  | cons head rest ih =>
    obtain ⟨n, tag⟩ := head
    obtain ⟨least, sorted⟩ := List.pairwise_cons.1 sorted
    rw [List.foldl_cons, ih sorted, lookup_cons_ite, NameMap.get?_insert]
    split
    · next same =>
      subst same
      have absent : rest.lookup name = none := by
        rw [List.lookup_eq_none_iff]
        intro entry later
        have differs : name ≠ entry.1 := fun same =>
          String.lt_irrefl entry.1 (same ▸ least entry later)
        simpa using differs
      simp [absent]
    · rfl

theorem get?_registered (registry : Registry) (name : String) :
    (registered registry).get? name = (registry.get? name).map (·.type) := by
  rw [registered, get?_foldl_insert _ registry.sorted, NameMap.get?_empty, Option.or_none]
  rfl

def type? (registry : Registry) (discovered : List DiscoveredTag) (name : String) :
    Option TagType :=
  match registry.get? name with
  | some tag => some tag.type
  | none => (typesOf name discovered).foldl TagType.joined none

theorem mem_merge_iff {discovered : List DiscoveredTag} {info : TagInfo} :
    info ∈ merge registry discovered ↔ type? registry discovered info.name = some info.type := by
  have found (name : String) :
      (discovered.foldl (add registry) (registered registry)).get? name =
        type? registry discovered name := by
    rw [get?_foldl_add, get?_registered, NameMap.contains, type?]
    cases registry.get? name <;> rfl
  obtain ⟨name, type⟩ := info
  rw [← found, ← NameMap.mem_entries_iff, merge]
  simp

theorem type?_of_dynamic {discovered : List DiscoveredTag} (dynamic : registry.get? name = none) :
    type? registry discovered name =
      match typesOf name discovered with
      | [] => none
      | type :: rest => some (if ∀ other ∈ rest, other = type then type else .string) := by
  rw [type?, dynamic]
  cases typesOf name discovered with
  | nil => rfl
  | cons type rest => exact TagType.foldl_joined type rest

theorem isSome_type? {discovered : List DiscoveredTag} :
    (type? registry discovered name).isSome = true ↔
      registry.contains name = true ∨ ∃ t ∈ discovered, t.qualifiedName = name := by
  cases known : registry.get? name with
  | some tag => simp [type?, NameMap.contains, known]
  | none =>
    have occurs : (∃ t ∈ discovered, t.qualifiedName = name) ↔ typesOf name discovered ≠ [] := by
      simp [typesOf]
    rw [type?_of_dynamic known, occurs]
    cases typesOf name discovered <;> simp [NameMap.contains, known]

/-! ## What a catalog says -/

/-- A list that names, in the order of UTF-8, the registered tags and the attributes that occur,
each once; an attribute has the type of all its occurrences, or is a string if they differ. -/
structure Describes (registry : Registry) (occurs : DiscoveredTag → Prop) (tags : List TagInfo) :
    Prop where
  ascending : tags.Pairwise fun a b => Utf8.bytes a.name < Utf8.bytes b.name
  names : ∀ name, (∃ info ∈ tags, info.name = name) ↔
    registry.contains name = true ∨ ∃ t, occurs t ∧ t.qualifiedName = name
  registered : ∀ info ∈ tags, ∀ tag, registry.get? info.name = some tag → info.type = tag.type
  agreed : ∀ info ∈ tags, registry.get? info.name = none → ∀ type,
    (∀ t, occurs t → t.qualifiedName = info.name → t.type = type) → info.type = type
  mixed : ∀ info ∈ tags, registry.get? info.name = none →
    (∀ type, ∃ t, occurs t ∧ t.qualifiedName = info.name ∧ t.type ≠ type) → info.type = .string

theorem describes_merge (registry : Registry) (discovered : List DiscoveredTag) :
    Describes registry (· ∈ discovered) (merge registry discovered) where
  ascending := by
    rw [merge, List.pairwise_map]
    exact (NameMap.sorted _).imp Utf8.bytes_lt_bytes
  names := by
    intro name
    rw [← isSome_type?, Option.isSome_iff_exists]
    constructor
    · rintro ⟨info, listed, rfl⟩
      exact ⟨info.type, mem_merge_iff.1 listed⟩
    · rintro ⟨type, found⟩
      exact ⟨⟨name, type⟩, mem_merge_iff.2 found, rfl⟩
  registered := by
    intro info listed tag known
    rw [mem_merge_iff, type?, known] at listed
    exact (Option.some.inj listed).symm
  agreed := by
    intro info listed dynamic type all
    rw [mem_merge_iff, type?_of_dynamic dynamic] at listed
    have each : ∀ other ∈ typesOf info.name discovered, other = type := by
      intro other member
      obtain ⟨t, among, named, rfl⟩ := mem_typesOf.1 member
      exact all t among named
    cases types : typesOf info.name discovered with
    | nil => simp [types] at listed
    | cons first rest =>
      rw [types] at listed each
      obtain ⟨rfl, each⟩ := List.forall_mem_cons.1 each
      exact ((if_pos each).symm.trans (Option.some.inj listed)).symm
  mixed := by
    intro info listed dynamic differ
    rw [mem_merge_iff, type?_of_dynamic dynamic] at listed
    cases types : typesOf info.name discovered with
    | nil => simp [types] at listed
    | cons first rest =>
      obtain ⟨t, among, named, other⟩ := differ first
      have member : t.type ∈ first :: rest := types ▸ mem_typesOf.2 ⟨t, among, named, rfl⟩
      have later : t.type ∈ rest := (List.mem_cons.1 member).resolve_left other
      have differs : ¬∀ other ∈ rest, other = first := fun all => other (all t.type later)
      rw [types] at listed
      exact ((if_neg differs).symm.trans (Option.some.inj listed)).symm

section
variable {occurs : DiscoveredTag → Prop} {xs ys : List TagInfo}

theorem Describes.subset (first : Describes registry occurs xs)
    (second : Describes registry occurs ys) : xs ⊆ ys := by
  intro info listed
  obtain ⟨other, found, same⟩ := (second.names info.name).2 ((first.names _).1 ⟨info, listed, rfl⟩)
  have types : other.type = info.type := by
    cases known : registry.get? info.name with
    | some tag =>
      rw [first.registered info listed tag known, second.registered other found tag (same ▸ known)]
    | none =>
      have dynamic : registry.get? other.name = none := same ▸ known
      by_cases agreed : ∃ type, ∀ t, occurs t → t.qualifiedName = info.name → t.type = type
      · obtain ⟨type, all⟩ := agreed
        rw [first.agreed info listed known type all,
          second.agreed other found dynamic type (same ▸ all)]
      · have differ : ∀ type, ∃ t, occurs t ∧ t.qualifiedName = info.name ∧ t.type ≠ type := by
          simpa using agreed
        rw [first.mixed info listed known differ, second.mixed other found dynamic (same ▸ differ)]
  have equal : other = info := by
    obtain ⟨name, type⟩ := other
    obtain ⟨name', type'⟩ := info
    cases same
    cases types
    rfl
  exact equal ▸ found

theorem Describes.unique (first : Describes registry occurs xs)
    (second : Describes registry occurs ys) : xs = ys := by
  have distinct {tags : List TagInfo} (described : Describes registry occurs tags) :
      tags.Nodup := by
    apply described.ascending.imp
    rintro a _ before rfl
    exact List.lt_irrefl _ before
  -- Both lists are sorted and have the same members, each once.
  have perm := (List.perm_ext_iff_of_nodup (distinct first) (distinct second)).2 fun info =>
    ⟨fun listed => first.subset second listed, fun listed => second.subset first listed⟩
  exact perm.eq_of_pairwise (fun a b _ _ before after => absurd after (List.lt_asymm before))
    first.ascending second.ascending

end

theorem mem_discovered_iff {rows : List Row} {t : DiscoveredTag} :
    t ∈ (SpanReader.successes DiscoveredTag.ofRow rows).filterMap id ↔ t.Occurs rows := by
  simp only [List.mem_filterMap, id_eq, exists_eq_right, SpanReader.mem_successes,
    DiscoveredTag.ofRow_eq_some_iff]
  constructor
  · rintro ⟨row, among, rfl, named⟩
    exact ⟨among, named⟩
  · rintro ⟨among, named⟩
    exact ⟨_, among, rfl, named⟩

theorem describes_ofRows (registry : Registry) (rows : List Row) :
    Describes registry (·.Occurs rows) (ofRows registry rows) := by
  have occurs : (· ∈ (SpanReader.successes DiscoveredTag.ofRow rows).filterMap id) =
      (·.Occurs rows) := funext fun t => propext mem_discovered_iff
  rw [← occurs]
  exact describes_merge registry _

end Catalog

namespace SpanReader

/--
A listing returns, whatever rows the store gives for it, and its list is the catalog of the
attributes that occur in them. So is that of any other listing: where the same attributes occur,
in whatever order, however often and among whatever other rows, the list is the same.
-/
theorem catalog_of_occurrences (r : SpanReader) (executor : Executor σ) (s : Session σ)
    (rows : List Row) (cancels : Bool) (store : σ) (active : s.context.cancelled = false)
    (timed : (r.scoped? s).isSome)
    (answer : executor.fetch s.store Discovery.statement = (⟨rows, .complete, cancels⟩, store)) :
    ∃ tags after, r.tags executor s = (.ok tags, after) ∧
      Catalog.Describes r.registry (·.Occurs rows) tags ∧
      ∀ (other : Executor σ) (t later : Session σ) (others : List TagInfo),
        r.tags other t = (.ok others, later) →
        (∀ tag : DiscoveredTag,
          tag.Occurs (other.fetch t.store Discovery.statement).1.rows ↔ tag.Occurs rows) →
        others = tags := by
  obtain ⟨after, returned⟩ := tags_of_complete active timed answer
  refine ⟨_, after, returned, Catalog.describes_ofRows r.registry rows, ?_⟩
  intro other t later others listed same
  have described := Catalog.describes_ofRows r.registry
    (other.fetch t.store Discovery.statement).1.rows
  rw [← tags_eq_ok listed, funext fun tag => propext (same tag)] at described
  exact described.unique (Catalog.describes_ofRows r.registry rows)

/-- The second listing finds the rows turned round, one of them twice, and others between. -/
theorem catalog_of_occurrences_again :
    let r : SpanReader := ⟨NameMap.empty.insert "span.b" ⟨.number, "spans.b"⟩, .standard⟩
    let row (source key type : String) : Row := ⟨[.text source, .text key, .text type]⟩
    let rows := [row "span" "b" "string", row "link" "a.c" "number", row "link.a" "c" "boolean"]
    let others := [⟨[]⟩, row "link.a" "c" "boolean", row "" "d" "string", row "link" "a.c" "number",
      row "span" "b" "string", row "link" "a.c" "number", row "span" "d" "object"]
    let s (rows : List Row) : Session (List Execution) := .start [⟨rows, .complete, false⟩] .fresh 0
    let tags : List TagInfo := [⟨"link.a.c", .string⟩, ⟨"span.b", .number⟩]
    (∃ after, r.tags .scripted (s rows) = (.ok tags, after)) ∧
      ∃ after, r.tags .scripted (s others) = (.ok tags, after) := by
  intro r row rows others s tags
  obtain ⟨listed, after, returned, -, same⟩ :=
    catalog_of_occurrences r .scripted (s rows) rows false [] rfl (by decide) rfl
  have shown : listed = tags := by
    rw [tags_eq_ok returned]
    decide +kernel
  have answer : Executor.scripted.fetch (s others).store Discovery.statement =
      (⟨others, .complete, false⟩, []) := rfl
  obtain ⟨later, again⟩ := tags_of_complete (r := r) rfl (by decide) answer
  have occurs (t : DiscoveredTag) : t.Occurs others ↔ t.Occurs rows := by
    have known : t.type.name ≠ "object" := by cases t.type <;> decide
    simp only [DiscoveredTag.Occurs, DiscoveredTag.row, others, rows, row]
    grind
  refine ⟨⟨after, shown ▸ returned⟩, later, ?_⟩
  rw [again, same .scripted (s others) later _ again occurs, shown]

end SpanReader

end TraceQuery
