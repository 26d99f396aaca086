import TraceQuery.Row
import TraceQuery.Tag.Basic

/-!
All tags that can be queried: the registered ones, and the attributes that occur. A registered tag
keeps its type; an attribute that occurs with several types is a string.
-/

set_option autoImplicit false
namespace TraceQuery

structure DiscoveredTag where
  source : String
  key : String
  type : TagType
  deriving DecidableEq, Repr

namespace DiscoveredTag

def qualifiedName (t : DiscoveredTag) : String :=
  t.source ++ "." ++ t.key

/-- A row without a source or a key tells of no attribute. -/
def ofRow (r : Row) : Except RowError (Option DiscoveredTag) := do
  r.expectColumns 3
  let source := (← r.text? 0).getD ""
  let key := (← r.text? 1).getD ""
  if source = "" ∨ key = "" then return none
  let typeName ← r.text 2
  match TagType.ofName? typeName with
  | some type => return some { source, key, type }
  | none => .error (.unknownTagType 2 typeName)

end DiscoveredTag

structure TypeCollision where
  name : String
  registered : TagType
  discovered : TagType
  deriving DecidableEq, Repr

namespace Catalog

def collision? (registry : Registry) (t : DiscoveredTag) : Option TypeCollision :=
  match registry.get? t.qualifiedName with
  | none => none
  | some tag => if tag.type = t.type then none else some ⟨t.qualifiedName, tag.type, t.type⟩

def collisions (registry : Registry) (discovered : List DiscoveredTag) : List TypeCollision :=
  discovered.filterMap (collision? registry)

/-- Takes an attribute up, unless its name is a registered one. -/
def add (registry : Registry) (types : NameMap TagType) (t : DiscoveredTag) : NameMap TagType :=
  if registry.contains t.qualifiedName then types
  else
    match types.get? t.qualifiedName with
    | none => types.insert t.qualifiedName t.type
    | some type => if type = t.type then types else types.insert t.qualifiedName .string

def registered (registry : Registry) : NameMap TagType :=
  registry.entries.foldl (fun types (name, tag) => types.insert name tag.type) .empty

def merge (registry : Registry) (discovered : List DiscoveredTag) : List TagInfo :=
  let types := discovered.foldl (add registry) (registered registry)
  types.entries.map fun (name, type) => { name, type }

end Catalog

end TraceQuery
