import TraceQuery.Proofs.Json.Scan

/-!
The tree of a written value. A text that has been written is read as the value's own tree, however
deep it is.
-/

set_option autoImplicit false
namespace TraceQuery.Json

mutual

def toTree : Json → Tree
  | .null => .null
  | .bool b => .bool b
  | .number n => .numeral n.numeral
  | .string s => .text (Piece.ofString s)
  | .array items => .array (itemTrees items)
  | .object members => .object (memberTrees members)

def itemTrees : List Json → List Tree
  | [] => []
  | item :: rest => item.toTree :: itemTrees rest

def memberTrees : List (String × Json) → List (List Piece × Tree)
  | [] => []
  | (key, value) :: rest => (Piece.ofString key, value.toTree) :: memberTrees rest

end

theorem itemTrees_eq_map (items : List Json) : itemTrees items = items.map toTree := by
  induction items with
  | nil => rfl
  | cons item rest ih => rw [itemTrees, ih, List.map_cons]

namespace Parse

theorem run_append (p : Parse) (front back : List Token) :
    p.run (front ++ back) = (p.run front).bind (·.run back) := by
  induction front generalizing p with
  | nil => rfl
  | cons t rest ih =>
    simp only [List.cons_append, run]
    cases p.step t with
    | none => rfl
    | some next => exact ih next

theorem run_append_of {p middle : Parse} {front : List Token} (h : p.run front = some middle)
    (back : List Token) : p.run (front ++ back) = middle.run back := by
  rw [run_append, h]
  rfl

/-- Behind a left bracket the first item is read as any other is. -/
theorem run_firstItem (frames : List Frame) {items : List Json} (nonempty : items ≠ [])
    (back : List Token) :
    run (.firstItem frames) (itemTokens items ++ back) =
      run (.value (.array [] :: frames)) (itemTokens items ++ back) := by
  obtain ⟨item, rest, rfl⟩ := List.exists_cons_of_ne_nil nonempty
  cases rest <;> cases item <;> rfl

theorem run_firstKey (frames : List Frame) {members : List (String × Json)}
    (nonempty : members ≠ []) (back : List Token) :
    run (.firstKey frames) (memberTokens members ++ back) =
      run (.key [] frames) (memberTokens members ++ back) := by
  obtain ⟨member, rest, rfl⟩ := List.exists_cons_of_ne_nil nonempty
  cases rest <;> rfl

theorem run_named (name : String) (done : List (List Piece × Tree)) (frames : List Frame)
    (back : List Token) :
    run (.key done frames) (.text (Piece.ofString name) :: .colon :: back) =
      run (.value (.object done (Piece.ofString name) :: frames)) back :=
  rfl

mutual

/-- A value's tokens are read as the value's tree, inside whatever containers are open. -/
theorem run_tokens : ∀ (v : Json) (frames : List Frame),
    run (.value frames) v.tokens = some (.after v.toTree frames)
  | .null, _ => rfl
  | .bool _, _ => rfl
  | .number _, _ => rfl
  | .string _, _ => rfl
  | .array items, frames => by
    by_cases empty : items = []
    · subst empty
      rfl
    · exact (run_firstItem frames empty _).trans (run_itemTokens items empty [] frames)
  | .object members, frames => by
    by_cases empty : members = []
    · subst empty
      rfl
    · exact (run_firstKey frames empty _).trans (run_memberTokens members empty [] frames)

theorem run_itemTokens : ∀ items : List Json, items ≠ [] → ∀ (done : List Tree)
    (frames : List Frame),
    run (.value (.array done :: frames)) (itemTokens items ++ [.rightBracket]) =
      some (.after (.array (done.reverse ++ itemTrees items)) frames)
  | [], nonempty, _, _ => absurd rfl nonempty
  | [item], _, done, frames => by
    rw [itemTokens, run_append_of (run_tokens item _)]
    simp [run, step, itemTrees]
  | item :: next :: rest, _, done, frames => by
    have tail := run_itemTokens (next :: rest) (by simp) (item.toTree :: done) frames
    have comma (back : List Token) :
        run (.after item.toTree (.array done :: frames)) (.comma :: back) =
          run (.value (.array (item.toTree :: done) :: frames)) back := rfl
    rw [itemTokens, List.append_assoc, run_append_of (run_tokens item _), List.cons_append, comma,
      tail]
    · simp [itemTrees]
    · simp

theorem run_memberTokens : ∀ members : List (String × Json), members ≠ [] →
    ∀ (done : List (List Piece × Tree)) (frames : List Frame),
    run (.key done frames) (memberTokens members ++ [.rightBrace]) =
      some (.after (.object (done.reverse ++ memberTrees members)) frames)
  | [], nonempty, _, _ => absurd rfl nonempty
  | [(name, v)], _, done, frames => by
    rw [memberTokens, List.cons_append, List.cons_append, run_named, run_append_of (run_tokens v _)]
    simp [run, step, memberTrees]
  | (name, v) :: next :: rest, _, done, frames => by
    have tail := run_memberTokens (next :: rest) (by simp) ((Piece.ofString name, v.toTree) :: done)
      frames
    have comma (back : List Token) :
        run (.after v.toTree (.object done (Piece.ofString name) :: frames)) (.comma :: back) =
          run (.key ((Piece.ofString name, v.toTree) :: done) frames) back := rfl
    rw [memberTokens, List.cons_append, List.cons_append, run_named, List.append_assoc,
      run_append_of (run_tokens v _), List.cons_append, comma, tail]
    · simp [memberTrees]
    · simp

end

end Parse

theorem read?_render (v : Json) : Tree.read? v.render = some v.toTree := by
  rw [Tree.read?, render, String.toList_ofList, Tree.ofScalars?, tokens?_chars, Option.bind_some,
    Tree.ofTokens?, Parse.start, Parse.run_tokens]
  rfl

end TraceQuery.Json
