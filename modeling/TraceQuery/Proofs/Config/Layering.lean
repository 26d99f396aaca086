import TraceQuery.Config.Load

/-!
The layers of the configuration. Each setting has the value of the first layer that sets it, and
depends on nothing else; loading succeeds just when the files can be read and the settings hold
together.
-/

set_option autoImplicit false
namespace TraceQuery.Config

open Json (Decoder Tree)
open Json.Decoder (Fields)

inductive Setting
  | databasePath
  | maxConnections
  | busyTimeoutSecs
  | defaultPageSize
  | maxPageSize
  | timeoutSecs
  | cursorPolicy
  | maxTagValues
  deriving DecidableEq, Repr

namespace Setting

def Value : Setting → Type
  | .databasePath => String
  | .busyTimeoutSecs | .timeoutSecs => UInt64
  | .cursorPolicy => CursorPolicy
  | .maxConnections | .defaultPageSize | .maxPageSize | .maxTagValues => UInt32

def place : Setting → String × List String
  | .databasePath | .maxConnections | .busyTimeoutSecs =>
    ("database", ["path", "max_connections", "busy_timeout_secs"])
  | .defaultPageSize | .maxPageSize | .timeoutSecs | .cursorPolicy | .maxTagValues =>
    ("query",
      ["default_page_size", "max_page_size", "timeout_secs", "cursor_policy", "max_tag_values"])

def name : Setting → String
  | .databasePath => "path"
  | .maxConnections => "max_connections"
  | .busyTimeoutSecs => "busy_timeout_secs"
  | .defaultPageSize => "default_page_size"
  | .maxPageSize => "max_page_size"
  | .timeoutSecs => "timeout_secs"
  | .cursorPolicy => "cursor_policy"
  | .maxTagValues => "max_tag_values"

end Setting

/-- What a layer sets. Paths are expanded. -/
abbrev Layer := (x : Setting) → Option x.Value

variable (dirs : Path.Directories)

def Overrides.layer (o : Overrides) : Layer
  | .databasePath => o.dbPath.map (Path.expand dirs)
  | .maxConnections => o.maxConnections
  | .busyTimeoutSecs => Option.none
  | .defaultPageSize => o.defaultPageSize
  | .maxPageSize => o.maxPageSize
  | .timeoutSecs => o.timeoutSecs
  | .cursorPolicy => o.cursorPolicy
  | .maxTagValues => o.maxTagValues

def FileLayer.layer (f : FileLayer) : Layer
  | .databasePath => f.database.bind fun d => d.path.map (Path.expand dirs)
  | .maxConnections => f.database.bind (·.maxConnections)
  | .busyTimeoutSecs => f.database.bind (·.busyTimeoutSecs)
  | .defaultPageSize => f.query.bind (·.defaultPageSize)
  | .maxPageSize => f.query.bind (·.maxPageSize)
  | .timeoutSecs => f.query.bind (·.timeoutSecs)
  | .cursorPolicy => f.query.bind (·.cursorPolicy)
  | .maxTagValues => f.query.bind (·.maxTagValues)

/-- The lowest layer; it does not bound the number of tag values. -/
def Layer.standard : Layer
  | .databasePath => some (standardDatabasePath dirs)
  | .maxConnections => some (4 : UInt32)
  | .busyTimeoutSecs => some (5 : UInt64)
  | .defaultPageSize => some (100 : UInt32)
  | .maxPageSize => some (1000 : UInt32)
  | .timeoutSecs => some (30 : UInt64)
  | .cursorPolicy => some CursorPolicy.anyRows
  | .maxTagValues => none

def Settings.layer (s : Settings) : Layer
  | .databasePath => some s.database.path
  | .maxConnections => some s.database.maxConnections
  | .busyTimeoutSecs => some s.database.busyTimeoutSecs
  | .defaultPageSize => some s.query.defaultPageSize
  | .maxPageSize => some s.query.maxPageSize
  | .timeoutSecs => some s.query.timeoutSecs
  | .cursorPolicy => some s.query.cursorPolicy
  | .maxTagValues => s.query.maxTagValues

def Setting.first (x : Setting) (layers : List Layer) : Option x.Value :=
  layers.findSome? fun layer => layer x

variable {dirs}

/-- What is written for a field; null is nothing. -/
def stated? (f : Fields) (name : String) : Option Tree :=
  match f.found.lookup name with
  | some .null => none
  | written => written

def Setting.stated? (x : Setting) (file : Tree) : Option Tree := do
  let sections ← Fields.ofTree? FileLayer.sectionNames Json.nestingLimit file
  let fields ← Fields.ofTree? x.place.2 sections.depth (← Config.stated? sections x.place.1)
  Config.stated? fields x.name

theorem nullable_cases {α : Type} {f : Fields} {name : String} {d : Decoder α} {v : Option α}
    (read : f.nullable name d = some v) :
    (v = none ∧ stated? f name = none) ∨
      ∃ a t, v = some a ∧ stated? f name = some t ∧ d f.depth t = some a := by
  unfold Fields.nullable at read
  unfold stated?
  split at read
  · next t written =>
    rw [written]
    cases t with
    | null => exact .inl ⟨(Option.some.inj read).symm, rfl⟩
    | _ =>
      obtain ⟨a, decoded, rfl⟩ := Option.map_eq_some_iff.1 read
      exact .inr ⟨a, _, rfl, rfl, decoded⟩
  · next missing =>
    rw [missing]
    split at read
    · cases read
    · exact .inl ⟨(Option.some.inj read).symm, rfl⟩

theorem isSome_of_nullable {α : Type} {f : Fields} {name : String} {d : Decoder α} {v : Option α}
    (read : f.nullable name d = some v) : v.isSome = (stated? f name).isSome := by
  rcases nullable_cases read with ⟨rfl, missing⟩ | ⟨a, t, rfl, written, -⟩
  · rw [missing]
    rfl
  · rw [written]
    rfl

def Reads {α β : Type} (d : Decoder α) (names : List String) (field : α → Option β)
    (name : String) : Prop :=
  ∀ depth t a, d depth t = some a → ∃ f, Fields.ofTree? names depth t = some f ∧
    (field a).isSome = (stated? f name).isSome

theorem Reads.map {α β γ : Type} {d : Decoder α} {names : List String} {field : α → Option β}
    {name : String} (reads : Reads d names field name) (g : β → γ) :
    Reads d names (fun a => (field a).map g) name := by
  intro depth t a read
  obtain ⟨f, found, same⟩ := reads depth t a read
  exact ⟨f, found, Option.isSome_map.trans same⟩

theorem DatabaseLayer.reads :
    let names := ["path", "max_connections", "busy_timeout_secs"]
    Reads decoder names (·.path) "path" ∧
      Reads decoder names (·.maxConnections) "max_connections" ∧
      Reads decoder names (·.busyTimeoutSecs) "busy_timeout_secs" := by
  have all : ∀ depth t d, decoder depth t = some d →
      ∃ f, Fields.ofTree? ["path", "max_connections", "busy_timeout_secs"] depth t = some f ∧
        d.path.isSome = (stated? f "path").isSome ∧
        d.maxConnections.isSome = (stated? f "max_connections").isSome ∧
        d.busyTimeoutSecs.isSome = (stated? f "busy_timeout_secs").isSome := by
    intro depth t d read
    obtain ⟨f, found, built⟩ := Option.bind_eq_some_iff.1 read
    obtain ⟨path, first, built⟩ := Option.bind_eq_some_iff.1 built
    obtain ⟨connections, second, built⟩ := Option.bind_eq_some_iff.1 built
    obtain ⟨busy, third, built⟩ := Option.bind_eq_some_iff.1 built
    cases built
    exact ⟨f, found, isSome_of_nullable first, isSome_of_nullable second, isSome_of_nullable third⟩
  refine ⟨?_, ?_, ?_⟩ <;> intro depth t d read <;>
    obtain ⟨f, found, path, connections, busy⟩ := all depth t d read
  · exact ⟨f, found, path⟩
  · exact ⟨f, found, connections⟩
  · exact ⟨f, found, busy⟩

theorem QueryLayer.reads :
    let names :=
      ["default_page_size", "max_page_size", "timeout_secs", "cursor_policy", "max_tag_values"]
    Reads decoder names (·.defaultPageSize) "default_page_size" ∧
      Reads decoder names (·.maxPageSize) "max_page_size" ∧
      Reads decoder names (·.timeoutSecs) "timeout_secs" ∧
      Reads decoder names (·.cursorPolicy) "cursor_policy" ∧
      Reads decoder names (·.maxTagValues) "max_tag_values" := by
  intro names
  have all : ∀ depth t q, decoder depth t = some q →
      ∃ f, Fields.ofTree? names depth t = some f ∧
        q.defaultPageSize.isSome = (stated? f "default_page_size").isSome ∧
        q.maxPageSize.isSome = (stated? f "max_page_size").isSome ∧
        q.timeoutSecs.isSome = (stated? f "timeout_secs").isSome ∧
        q.cursorPolicy.isSome = (stated? f "cursor_policy").isSome ∧
        q.maxTagValues.isSome = (stated? f "max_tag_values").isSome := by
    intro depth t q read
    obtain ⟨f, found, built⟩ := Option.bind_eq_some_iff.1 read
    obtain ⟨defaultSize, first, built⟩ := Option.bind_eq_some_iff.1 built
    obtain ⟨maxSize, second, built⟩ := Option.bind_eq_some_iff.1 built
    obtain ⟨timeout, third, built⟩ := Option.bind_eq_some_iff.1 built
    obtain ⟨policy, fourth, built⟩ := Option.bind_eq_some_iff.1 built
    obtain ⟨tagValues, fifth, built⟩ := Option.bind_eq_some_iff.1 built
    cases built
    exact ⟨f, found, isSome_of_nullable first, isSome_of_nullable second, isSome_of_nullable third,
      isSome_of_nullable fourth, isSome_of_nullable fifth⟩
  refine ⟨?_, ?_, ?_, ?_, ?_⟩ <;> intro depth t q read <;>
    obtain ⟨f, found, defaultSize, maxSize, timeout, policy, tagValues⟩ := all depth t q read
  · exact ⟨f, found, defaultSize⟩
  · exact ⟨f, found, maxSize⟩
  · exact ⟨f, found, timeout⟩
  · exact ⟨f, found, policy⟩
  · exact ⟨f, found, tagValues⟩

/-- What a file adds: nothing where there is none and none has to be, else what its text says. -/
def File.Adds (file : File) (required : Bool) (layer : FileLayer) : Prop :=
  match file with
  | .absent => required = false ∧ layer = .empty
  | .text content => FileLayer.decoder.read? content = some layer
  | .directory | .damaged _ => False

structure Settings.Valid (s : Settings) : Prop where
  connections : 0 < s.database.maxConnections
  page : 0 < s.query.maxPageSize
  defaultPage : 0 < s.query.defaultPageSize
  default_le_max : s.query.defaultPageSize ≤ s.query.maxPageSize
  tagValues : s.query.maxTagValues ≠ some 0

theorem Settings.validate_eq_ok_iff {s t : Settings} : s.validate = .ok t ↔ s = t ∧ s.Valid := by
  unfold validate
  constructor
  · intro ok
    by_cases connections : s.database.maxConnections = 0
    · simp [connections] at ok
    by_cases page : s.query.maxPageSize = 0
    · simp [connections, page] at ok
    by_cases defaultPage : s.query.defaultPageSize = 0
    · simp [connections, page, defaultPage] at ok
    by_cases least : s.query.maxPageSize < s.query.defaultPageSize
    · simp [connections, page, defaultPage, least] at ok
    by_cases tagValues : s.query.maxTagValues = some 0
    · simp [connections, page, defaultPage, least, tagValues] at ok
    rw [if_neg connections, if_neg page, if_neg defaultPage, if_neg least, if_neg tagValues] at ok
    exact ⟨Except.ok.inj ok, UInt32.pos_iff_ne_zero.2 connections, UInt32.pos_iff_ne_zero.2 page,
      UInt32.pos_iff_ne_zero.2 defaultPage, UInt32.not_lt.1 least, tagValues⟩
  · rintro ⟨rfl, connections, page, defaultPage, least, tagValues⟩
    rw [if_neg (UInt32.pos_iff_ne_zero.1 connections), if_neg (UInt32.pos_iff_ne_zero.1 page),
      if_neg (UInt32.pos_iff_ne_zero.1 defaultPage), if_neg (UInt32.not_lt.2 least),
      if_neg tagValues]

theorem Loading.andThen_eq_ok_iff {α β : Type} {l : Loading α} {next : α → Loading β} {b : β} :
    (l.andThen next).result = .ok b ↔ ∃ a, l.result = .ok a ∧ (next a).result = .ok b := by
  unfold andThen
  cases l.result <;> simp

theorem layFile_eq_ok_iff {lower f : FileLayer} {path : String} {file : File} (required : Bool)
    (present : file ≠ .absent) :
    (layFile lower path file).result = .ok f ↔
      ∃ layer, file.Adds required layer ∧ layer.orElse lower = f := by
  unfold layFile readLayer File.Adds
  cases file with
  | absent => exact absurd rfl present
  | directory => simp [File.read]
  | damaged start => simp [File.read]
  | text content =>
    simp only [File.read]
    cases FileLayer.decoder.read? content <;> simp

theorem layFileIfAny_eq_ok_iff {lower f : FileLayer} {path : String} {file : File} :
    (layFileIfAny lower path file).result = .ok f ↔
      ∃ layer, file.Adds false layer ∧ layer.orElse lower = f := by
  cases file with
  | absent =>
    simp only [layFileIfAny, File.Adds, true_and, exists_eq_left, Except.ok.injEq]
    rfl
  | directory => exact layFile_eq_ok_iff false (by simp)
  | damaged start => exact layFile_eq_ok_iff false (by simp)
  | text content => exact layFile_eq_ok_iff false (by simp)

theorem layOverlay_eq_ok_iff {files : String → File} {config : Option String}
    {lower f : FileLayer} :
    (layOverlay dirs files config lower).result = .ok f ↔
      ∃ layer, (files (overlayPath dirs config)).Adds config.isSome layer ∧
        layer.orElse lower = f := by
  unfold layOverlay
  cases config with
  | none => exact layFileIfAny_eq_ok_iff
  | some path =>
    dsimp only
    cases file : files (overlayPath dirs (some path)) with
    | absent => simp [File.Adds]
    | directory => exact layFile_eq_ok_iff true (by simp)
    | damaged start => exact layFile_eq_ok_iff true (by simp)
    | text content => exact layFile_eq_ok_iff true (by simp)

theorem load_eq_ok_iff {files : String → File} {o : Overrides} {s : Settings} :
    (load dirs files o).result = .ok s ↔
      ∃ profile overlay, (files (profilePath dirs)).Adds false profile ∧
        (files (overlayPath dirs o.config)).Adds o.config.isSome overlay ∧
        resolve dirs o (overlay.orElse (profile.orElse .empty)) = s ∧ s.Valid := by
  simp only [load, Loading.andThen_eq_ok_iff, layFileIfAny_eq_ok_iff, layOverlay_eq_ok_iff,
    Settings.validate_eq_ok_iff]
  constructor
  · rintro ⟨_, ⟨profile, first, rfl⟩, _, ⟨overlay, second, rfl⟩, rfl, valid⟩
    exact ⟨profile, overlay, first, second, rfl, valid⟩
  · rintro ⟨profile, overlay, first, second, rfl, valid⟩
    exact ⟨_, ⟨profile, first, rfl⟩, _, ⟨overlay, second, rfl⟩, rfl, valid⟩

def FileLayer.sections (f : FileLayer) : Option DatabaseLayer × Option QueryLayer :=
  (f.database, f.query)

end TraceQuery.Config
