import Mathlib.Data.List.Infix
import TraceQuery.Sql.Like

/-!
What a pattern of `LIKE` matches. A pattern is read as a list of items, each of which says what a
part of the string is, and the pattern for a text is read as the text between two wildcards. So it
matches the strings in which the text stands, whatever characters the text has.
-/

set_option autoImplicit false
namespace TraceQuery.Sql.Like

/-- Case is ignored in ASCII letters only. -/
def resembles : (escaped : Bool) → (pattern text : List Char) → Bool
  | _, [], text => text.isEmpty
  | escaped, c :: rest, text =>
    if c = '\\' ∧ escaped = false then resembles true rest text
    else if c = '%' ∧ escaped = false then text.tails.any (resembles false rest)
    else
      match text with
      | [] => false
      | d :: others =>
        (c == '_' && !escaped || c.toLower == d.toLower) && resembles false rest others

/-! ## Patterns as items -/

inductive Item
  | anyText
  | anyChar
  | exactly (c : Char)
  deriving DecidableEq

def Item.ofChar (c : Char) : Item :=
  if c = '%' then .anyText else if c = '_' then .anyChar else .exactly c

/-- Nothing where the last backslash has no character to escape. -/
def items? : (escaped : Bool) → List Char → Option (List Item)
  | false, [] => some []
  | true, [] => none
  | false, c :: rest =>
    if c = '\\' then items? true rest else (items? false rest).map (.ofChar c :: ·)
  | true, c :: rest => (items? false rest).map (.exactly c :: ·)

inductive Matches : List Item → List Char → Prop
  | nil : Matches [] []
  | anyText {items : List Item} {text : List Char} (skipped : List Char) :
    Matches items text → Matches (.anyText :: items) (skipped ++ text)
  | anyChar {items : List Item} {text : List Char} (d : Char) :
    Matches items text → Matches (.anyChar :: items) (d :: text)
  | exactly {items : List Item} {text : List Char} {c d : Char} :
    c.toLower = d.toLower → Matches items text → Matches (.exactly c :: items) (d :: text)

variable {items : List Item} {text : List Char}

theorem matches_nil_iff : Matches [] text ↔ text = [] := by
  constructor
  · intro whole
    cases whole with
    | nil => rfl
  · rintro rfl
    exact .nil

theorem matches_anyText_iff :
    Matches (.anyText :: items) text ↔ ∃ rest, rest <:+ text ∧ Matches items rest := by
  constructor
  · intro whole
    cases whole with
    | anyText skipped others => exact ⟨_, List.suffix_append skipped _, others⟩
  · rintro ⟨rest, ⟨skipped, rfl⟩, others⟩
    exact .anyText skipped others

theorem matches_anyChar_iff :
    Matches (.anyChar :: items) text ↔ ∃ d rest, text = d :: rest ∧ Matches items rest := by
  constructor
  · intro whole
    cases whole with
    | anyChar d others => exact ⟨d, _, rfl, others⟩
  · rintro ⟨d, rest, rfl, others⟩
    exact .anyChar d others

theorem matches_exactly_iff {c : Char} :
    Matches (.exactly c :: items) text ↔
      ∃ d rest, text = d :: rest ∧ c.toLower = d.toLower ∧ Matches items rest := by
  constructor
  · intro whole
    cases whole with
    | exactly same others => exact ⟨_, _, rfl, same, others⟩
  · rintro ⟨d, rest, rfl, same, others⟩
    exact .exactly same others

/-- The matcher tries every way to cut the text, and finds one if there is one. -/
theorem resembles_iff {escaped : Bool} {pattern : List Char}
    (read : items? escaped pattern = some items) (text : List Char) :
    resembles escaped pattern text = true ↔ Matches items text := by
  -- On the pattern, for every text: behind a wildcard each suffix of the text is tried.
  induction pattern generalizing escaped items text with
  | nil =>
    cases escaped with
    | true => cases read
    | false =>
      cases read
      rw [matches_nil_iff, resembles, List.isEmpty_iff]
  | cons c rest ih =>
    cases escaped with
    | true =>
      obtain ⟨others, following, rfl⟩ := Option.map_eq_some_iff.1 read
      cases text with
      | nil => simp [resembles, matches_exactly_iff]
      | cons d text => simp [resembles, matches_exactly_iff, ih following]
    | false =>
      rw [items?] at read
      by_cases backslash : c = '\\'
      · rw [if_pos backslash] at read
        rw [resembles.eq_def]
        simpa [backslash] using ih read text
      rw [if_neg backslash] at read
      obtain ⟨others, following, rfl⟩ := Option.map_eq_some_iff.1 read
      rw [resembles.eq_def]
      simp only [backslash, false_and, if_false]
      by_cases percent : c = '%'
      · rw [if_pos ⟨percent, trivial⟩, Item.ofChar, if_pos percent, matches_anyText_iff]
        simp [ih following]
      rw [if_neg fun both => percent both.1, Item.ofChar, if_neg percent]
      by_cases underscore : c = '_'
      · rw [if_pos underscore, matches_anyChar_iff]
        cases text <;> simp [underscore, ih following]
      · rw [if_neg underscore, matches_exactly_iff]
        cases text <;> simp [underscore, ih following]

theorem matches_exactly_append_iff {t : List Char} :
    Matches (t.map .exactly ++ items) text ↔
      ∃ found rest, text = found ++ rest ∧ found.map Char.toLower = t.map Char.toLower ∧
        Matches items rest := by
  induction t generalizing text with
  | nil => simp
  | cons c t ih =>
    simp only [List.map_cons, List.cons_append, matches_exactly_iff, ih]
    constructor
    · rintro ⟨d, -, rfl, same, found, rest, rfl, lower, others⟩
      exact ⟨d :: found, rest, rfl, by rw [List.map_cons, lower, same], others⟩
    -- The first character found is the one that matches the first of the pattern.
    · rintro ⟨found, rest, rfl, lower, others⟩
      obtain ⟨d, found, rfl, same, lower⟩ := List.map_eq_cons_iff.1 lower
      exact ⟨d, found ++ rest, rfl, same.symm, found, rest, rfl, lower, others⟩

theorem matches_between_iff {t : List Char} :
    Matches (.anyText :: (t.map .exactly ++ [.anyText])) text ↔
      t.map Char.toLower <:+: text.map Char.toLower := by
  have anything (rest : List Char) : Matches [.anyText] rest :=
    matches_anyText_iff.2 ⟨[], List.nil_suffix, .nil⟩
  simp only [matches_anyText_iff, matches_exactly_append_iff, anything, and_true]
  constructor
  · rintro ⟨-, ⟨before, rfl⟩, found, rest, rfl, lower⟩
    exact ⟨before.map Char.toLower, rest.map Char.toLower, by simp [lower]⟩
  · rintro ⟨before, rest, cut⟩
    -- Lower case keeps each character in its place, so what is cut there is cut in the text too.
    obtain ⟨upTo, behind, rfl, front, -⟩ := List.map_eq_append_iff.1 cut.symm
    obtain ⟨skipped, found, rfl, -, lower⟩ := List.map_eq_append_iff.1 front
    rw [List.append_assoc]
    exact ⟨found ++ behind, List.suffix_append skipped _, found, behind, rfl, lower⟩

/-! ## Escaping -/

def isMeta (c : Char) : Bool :=
  c == '\\' || c == '%' || c == '_'

/-- No escape adds a character that one after it escapes again. -/
theorem escape_eq_flatMap (text : List Char) :
    escape text = text.flatMap fun c => if isMeta c then ['\\', c] else [c] := by
  simp only [escape, escapeEach, List.flatMap_assoc]
  congr 1
  funext c
  by_cases backslash : c = '\\'
  · subst backslash
    rfl
  by_cases percent : c = '%'
  · subst percent
    rfl
  by_cases underscore : c = '_'
  · subst underscore
    rfl
  simp [isMeta, backslash, percent, underscore]

theorem items?_escape_append (t rest : List Char) :
    items? false (escape t ++ rest) = (items? false rest).map (t.map .exactly ++ ·) := by
  rw [escape_eq_flatMap]
  induction t with
  | nil => simp
  | cons c t ih =>
    rw [List.flatMap_cons, List.append_assoc]
    by_cases special : isMeta c = true
    · simp [special, items?, ih, Function.comp_def]
    · have plain : c ≠ '\\' ∧ c ≠ '%' ∧ c ≠ '_' := by simpa [isMeta, and_assoc] using special
      simp [special, items?, plain, Item.ofChar, ih, Function.comp_def]

theorem items?_containing (t : String) :
    items? false (containing t).toList =
      some (.anyText :: (t.toList.map .exactly ++ [.anyText])) := by
  have first : Item.ofChar '%' = .anyText := rfl
  simp [containing, items?, items?_escape_append, first]

theorem resembles_containing_iff (t s : String) :
    resembles false (containing t).toList s.toList = true ↔
      t.toList.map Char.toLower <:+: s.toList.map Char.toLower :=
  (resembles_iff (items?_containing t) s.toList).trans matches_between_iff

theorem containing_injective : Function.Injective containing := by
  intro t u same
  have read := items?_containing t
  rw [same, items?_containing u] at read
  have chars : u.toList = t.toList := by
    have items := (List.cons.inj (Option.some.inj read)).2
    exact (List.map_injective_iff.2 fun _ _ => Item.exactly.inj) (List.append_cancel_right items)
  exact (String.toList_inj.1 chars).symm

end TraceQuery.Sql.Like
