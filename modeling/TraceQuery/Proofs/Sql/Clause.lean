import TraceQuery.Proofs.Sql.Filled

/-!
Where a word stands alone in a text of SQL: between blanks, and neither in parentheses nor in a
literal. A predicate closes what it opens, and none of its blanks outside is followed by a letter
that AND, OR or WHERE begins with, so that a text of predicates is cut at the words between them.
-/

set_option autoImplicit false
namespace TraceQuery.Sql

/-! ## Places in a text -/

/-- How many parentheses are open, and whether a literal is. -/
structure Place where
  depth : Nat
  quoted : Bool
  deriving DecidableEq, Repr

namespace Place

def outside : Place := ⟨0, false⟩

def deeper (p : Place) : Place := { p with depth := p.depth + 1 }

def next? (p : Place) (c : Char) : Option Place :=
  if c = '\x27' then some { p with quoted := !p.quoted }
  else if p.quoted then some p
  else if c = '(' then some p.deeper
  else if c = ')' then if p.depth = 0 then none else some { p with depth := p.depth - 1 }
  else some p

theorem next?_deeper {p q : Place} {c : Char} (read : p.next? c = some q) :
    p.deeper.next? c = some q.deeper := by
  unfold next? deeper at *
  grind

end Place

def Balanced (text : List Char) : Prop :=
  text.foldlM Place.next? .outside = some .outside

instance (text : List Char) : Decidable (Balanced text) :=
  inferInstanceAs (Decidable (_ = _))

/-! ## Cutting a text at a word -/

def spaced (word : String) : List Char :=
  ' ' :: (word.toList ++ [' '])

/-- What stands before and after the first word of this kind outside. -/
def cut? (word : String) : Option Place → List Char → Option (List Char × List Char)
  | _, [] => none
  | place, c :: rest =>
    if place = some .outside ∧ spaced word <+: c :: rest then
      some ([], (c :: rest).drop (spaced word).length)
    else (cut? word (place.bind (·.next? c)) rest).map fun (before, after) => (c :: before, after)

theorem length_lt_of_cut? {word : String} {place : Option Place} {text before after : List Char}
    (found : cut? word place text = some (before, after)) : after.length < text.length := by
  induction text generalizing place before with
  | nil => cases found
  | cons c rest ih =>
    rw [cut?] at found
    split at found
    · cases found
      rw [List.length_drop, spaced]
      simp only [List.length_cons]
      omega
    · obtain ⟨⟨before, after⟩, further, same⟩ := Option.map_eq_some_iff.1 found
      cases same
      exact Nat.lt_succ_of_lt (ih further)

def split (word : String) (text : List Char) : List (List Char) :=
  match _found : cut? word (some .outside) text with
  | none => [text]
  | some (before, after) => before :: split word after
termination_by text.length
decreasing_by exact length_lt_of_cut? _found

theorem split_of_uncut {word : String} {text : List Char}
    (uncut : cut? word (some .outside) text = none) : split word text = [text] := by
  rw [split]
  split
  · rfl
  · next found => simp [uncut] at found

theorem split_of_cut {word : String} {text before after : List Char}
    (cut : cut? word (some .outside) text = some (before, after)) :
    split word text = before :: split word after := by
  rw [split]
  split
  · next uncut => simp [cut] at uncut
  · next found =>
    rw [cut] at found
    cases found
    rfl

/-- What stands before the last word of this kind, wherever that is. -/
def beforeLast? (word : String) : List Char → Option (List Char)
  | [] => none
  | c :: rest =>
    match beforeLast? word rest with
    | some before => some (c :: before)
    | none => if spaced word <+: c :: rest then some [] else none

/-- What stands between the first WHERE outside and the last ORDER BY. -/
def clause? (sql : List Char) : Option (List Char) :=
  (cut? "WHERE" (some .outside) sql).bind fun (_, after) => beforeLast? "ORDER BY" after

theorem cut?_spaced (word : String) (rest : List Char) :
    cut? word (some .outside) (spaced word ++ rest) = some ([], rest) := by
  have here : spaced word <+: ' ' :: (word.toList ++ [' '] ++ rest) := List.prefix_append _ rest
  have behind : (spaced word ++ rest).drop (spaced word).length = rest := List.drop_left
  rw [spaced, List.cons_append, cut?, if_pos ⟨rfl, here⟩]
  exact congrArg (fun after => some ([], after)) behind

theorem beforeLast?_append {word : String} {rest : List Char}
    (last : beforeLast? word (spaced word ++ rest).tail = none) (text : List Char) :
    beforeLast? word (text ++ (spaced word ++ rest)) = some text := by
  induction text with
  | nil =>
    have here : spaced word <+: ' ' :: (word.toList ++ [' '] ++ rest) := List.prefix_append _ rest
    have last : beforeLast? word (word.toList ++ [' '] ++ rest) = none := last
    rw [List.nil_append, spaced, List.cons_append, beforeLast?, last]
    exact if_pos here
  | cons c text ih => rw [List.cons_append, beforeLast?, ih]

/-! ## Texts in which no word stands alone -/

/-- What was read last: the place, and whether a blank outside leads there. -/
structure Reading where
  place : Place
  blank : Bool
  deriving DecidableEq, Repr

def initials : List Char := ['A', 'O', 'W']

def HasInitial (word : String) : Prop :=
  ∃ c ∈ initials, ∃ letters, word.toList = c :: letters

theorem hasInitial_and : HasInitial "AND" := ⟨'A', by decide, _, rfl⟩

theorem hasInitial_or : HasInitial "OR" := ⟨'O', by decide, _, rfl⟩

theorem hasInitial_where : HasInitial "WHERE" := ⟨'W', by decide, _, rfl⟩

namespace Reading

/-- No word may begin after a blank outside. -/
def next? (r : Reading) (c : Char) : Option Reading :=
  if r.blank ∧ c ∈ initials then none
  else (r.place.next? c).map fun place => ⟨place, r.place = .outside ∧ c = ' '⟩

def within (depth : Nat) : Reading := ⟨⟨depth, false⟩, false⟩

theorem next?_eq_some_iff {r q : Reading} {c : Char} :
    r.next? c = some q ↔ ¬(r.blank ∧ c ∈ initials) ∧ r.place.next? c = some q.place ∧
      q.blank = decide (r.place = .outside ∧ c = ' ') := by
  obtain ⟨place, blank⟩ := q
  unfold next?
  split
  · next begins => simp [begins]
  · next free =>
    simp only [free, not_false_iff, true_and, Option.map_eq_some_iff, mk.injEq]
    constructor
    · rintro ⟨_, read, rfl, rfl⟩
      exact ⟨read, rfl⟩
    · rintro ⟨read, rfl⟩
      exact ⟨place, read, rfl, rfl⟩

end Reading

def Leads (r : Reading) (s : String) (q : Reading) : Prop :=
  s.toList.foldlM Reading.next? r = some q

instance (r q : Reading) (s : String) : Decidable (Leads r s q) :=
  inferInstanceAs (Decidable (_ = _))

open Reading (within)

namespace Leads

variable {p q r : Reading} {s t : String}

theorem append (first : Leads p s q) (second : Leads q t r) : Leads p (s ++ t) r := by
  rw [Leads, String.toList_append, List.foldlM_append, first]
  exact second

theorem joined {separator : String} (between : Leads q separator p) {texts : List String}
    (nonempty : texts ≠ []) (each : ∀ s ∈ texts, Leads p s q) :
    Leads p (joined separator texts) q := by
  induction texts with
  | nil => exact absurd rfl nonempty
  | cons s rest ih =>
    have first := each s List.mem_cons_self
    cases rest with
    | nil => exact first
    | cons t rest =>
      have others := ih (by simp) fun u member => each u (List.mem_cons_of_mem s member)
      exact (first.append between).append others

theorem deeper {m n : Nat} (leads : Leads (within m) s (within n)) :
    Leads (within (m + 1)) s (within (n + 1)) := by
  have inside {text : List Char} {p q : Reading} (read : text.foldlM Reading.next? p = some q) :
      text.foldlM Reading.next? ⟨p.place.deeper, false⟩ = some ⟨q.place.deeper, false⟩ := by
    induction text generalizing p with
    | nil =>
      cases read
      rfl
    | cons c rest ih =>
      obtain ⟨o, first, others⟩ := Option.bind_eq_some_iff.1 read
      -- No place in a parenthesis is outside, so that no blank is noted there.
      have further : Reading.next? ⟨p.place.deeper, false⟩ c = some ⟨o.place.deeper, false⟩ := by
        refine Reading.next?_eq_some_iff.2 ⟨by simp, ?_, ?_⟩
        · exact Place.next?_deeper (Reading.next?_eq_some_iff.1 first).2.1
        · simp [Place.deeper, Place.outside]
      rw [List.foldlM_cons, further]
      exact ih others
  exact inside leads

theorem place (leads : Leads p s q) : s.toList.foldlM Place.next? p.place = some q.place := by
  unfold Leads at leads
  generalize s.toList = text at *
  induction text generalizing p with
  | nil =>
    cases leads
    rfl
  | cons c rest ih =>
    obtain ⟨o, first, others⟩ := Option.bind_eq_some_iff.1 leads
    rw [List.foldlM_cons, (Reading.next?_eq_some_iff.1 first).2.1]
    exact ih others

theorem balanced (leads : Leads (within 0) s (within 0)) : Balanced s.toList :=
  leads.place

/-- A word that stands alone is not met before the end of the text, whatever follows there. -/
theorem cut?_append {word : String} (initial : HasInitial word)
    (leads : Leads p s q) (free : q.blank = false) (rest : List Char) :
    cut? word (some p.place) (s.toList ++ rest) =
      (cut? word (some q.place) rest).map fun (before, after) => (s.toList ++ before, after) := by
  unfold Leads at leads
  generalize s.toList = text at *
  induction text generalizing p with
  | nil =>
    cases leads
    simp
  | cons c text ih =>
    obtain ⟨o, first, others⟩ := Option.bind_eq_some_iff.1 leads
    obtain ⟨-, read, blank⟩ := Reading.next?_eq_some_iff.1 first
    have elsewhere : ¬(some p.place = some .outside ∧ spaced word <+: c :: (text ++ rest)) := by
      rintro ⟨outside, begins⟩
      obtain ⟨letter, among, w, letters⟩ := initial
      rw [spaced, letters, List.cons_append, List.cons_prefix_cons] at begins
      obtain ⟨rfl, begins⟩ := begins
      -- The blank is noted, so that the letter that follows it is not read.
      have noted : o.blank = true := by simp [blank, Option.some.inj outside]
      cases text with
      | nil =>
        cases others
        rw [noted] at free
        cases free
      | cons d text =>
        rw [List.cons_append, List.cons_prefix_cons] at begins
        obtain ⟨rfl, -⟩ := begins
        obtain ⟨n, second, -⟩ := Option.bind_eq_some_iff.1 others
        exact (Reading.next?_eq_some_iff.1 second).1 ⟨noted, among⟩
    rw [List.cons_append, cut?, if_neg elsewhere, Option.bind_some, read, ih others]
    cases cut? word (some q.place) rest <;> rfl

theorem cut?_spaced {word : String} (initial : HasInitial word)
    (leads : Leads (within 0) s (within 0)) (rest : List Char) :
    cut? word (some .outside) (s.toList ++ (spaced word ++ rest)) = some (s.toList, rest) := by
  have cut := leads.cut?_append initial rfl (spaced word ++ rest)
  rw [show (within 0).place = .outside from rfl, Sql.cut?_spaced] at cut
  simpa using cut

theorem split_eq {word : String} (initial : HasInitial word)
    (leads : Leads (within 0) s (within 0)) : split word s.toList = [s.toList] := by
  have uncut : cut? word (some .outside) s.toList = none := by
    have cut := leads.cut?_append initial rfl []
    rwa [List.append_nil, cut?] at cut
  exact split_of_uncut uncut

end Leads

theorem split_joined {texts : List String} (nonempty : texts ≠ [])
    (closed : ∀ s ∈ texts, Leads (within 0) s (within 0)) :
    split "AND" (joined " AND " texts).toList = texts.map String.toList := by
  induction texts with
  | nil => exact absurd rfl nonempty
  | cons s rest ih =>
    have first := closed s List.mem_cons_self
    cases rest with
    | nil => exact first.split_eq hasInitial_and
    | cons t rest =>
      have others := ih (by simp) fun u member => closed u (List.mem_cons_of_mem s member)
      have text : (joined " AND " (s :: t :: rest)).toList =
          s.toList ++ (spaced "AND" ++ (joined " AND " (t :: rest)).toList) := by
        rw [joined, String.toList_append, String.toList_append, List.append_assoc]
        · rfl
        · simp
      -- The first text ends at the first AND outside, as the text itself has none.
      rw [text, split_of_cut (first.cut?_spaced hasInitial_and _), others]
      rfl

/-! ## Predicates -/

def IsUnbroken (s : String) : Prop :=
  ∀ c ∈ s.toList, c ∉ [' ', '(', ')', '\x27']

-- Deciding over the letters of the text, and not over all characters.
instance (s : String) : Decidable (IsUnbroken s) :=
  List.decidableBAll (· ∉ [' ', '(', ')', '\x27']) s.toList

theorem leads_unbroken {s : String} (unbroken : IsUnbroken s) (depth : Nat) :
    Leads (within depth) s (within depth) := by
  unfold Leads
  unfold IsUnbroken at unbroken
  generalize s.toList = text at *
  induction text with
  | nil => rfl
  | cons c rest ih =>
    have other := unbroken c List.mem_cons_self
    simp only [List.mem_cons, List.not_mem_nil, or_false, not_or] at other
    have read : (within depth).next? c = some (within depth) := by
      simp [Reading.next?, Place.next?, within, other]
    rw [List.foldlM_cons, read]
    exact ih fun d member => unbroken d (List.mem_cons_of_mem c member)

namespace Operand

variable {o : Operand}

theorem leads_value (unbroken : IsUnbroken o.source) : Leads (within 0) o.value (within 0) := by
  cases o with
  | column name => exact leads_unbroken unbroken 0
  | member document path =>
    have opened : Leads (within 0) "json_extract(" (within 1) := by decide
    have closed : Leads (within 1) ", ?)" (within 0) := by decide
    exact (opened.append (leads_unbroken unbroken 1)).append closed

theorem leads_presence (unbroken : IsUnbroken o.source) :
    Leads (within 0) o.presence (within 0) := by
  cases o with
  | column name => exact leads_unbroken unbroken 0
  | member document path =>
    have opened : Leads (within 0) "json_type(" (within 1) := by decide
    have closed : Leads (within 1) ", ?)" (within 0) := by decide
    exact (opened.append (leads_unbroken unbroken 1)).append closed

end Operand

namespace Condition

theorem leads_marks (values : List BindValue) : Leads (within 1) (marks values) (within 1) := by
  have comma : Leads (within 1) ", " (within 1) := by decide
  refine joined_of (P := (Leads (within 1) · (within 1))) rfl Leads.append comma fun s member => ?_
  obtain ⟨_, -, rfl⟩ := List.mem_map.1 member
  decide

theorem leads_text {o : Operand} (unbroken : IsUnbroken o.source) (c : Condition) :
    Leads (within 0) (c.text o) (within 0) := by
  have value := Operand.leads_value unbroken
  have presence := Operand.leads_presence unbroken
  -- Where the value may be null it stands twice, and in parentheses.
  have opened : Leads (within 0) "(" (within 1) := by decide
  have orNot : Leads (within 1) " IS NULL OR " (within 1) := by decide
  have either := ((opened.append value.deeper).append orNot).append value.deeper
  cases c with
  | compare comparison v =>
    have symbol : Leads ⟨.outside, true⟩ comparison.symbol (within 0) := by
      cases comparison <;> decide
    have blank : Leads (within 0) " " ⟨.outside, true⟩ := by decide
    have mark : Leads (within 0) " ?" (within 0) := by decide
    exact ((value.append blank).append symbol).append mark
  | isIn values =>
    have list : Leads (within 0) " IN (" (within 1) := by decide
    have closed : Leads (within 1) ")" (within 0) := by decide
    exact ((value.append list).append (leads_marks values)).append closed
  | notIn values =>
    have list : Leads (within 1) " NOT IN (" (within 2) := by decide
    have closed : Leads (within 2) "))" (within 0) := by decide
    exact ((either.append list).append (leads_marks values).deeper).append closed
  | like pattern =>
    have matching : Leads (within 0) " LIKE ? ESCAPE '\\'" (within 0) := by decide
    exact value.append matching
  | notLike pattern =>
    have matching : Leads (within 1) " NOT LIKE ? ESCAPE '\\')" (within 0) := by decide
    exact either.append matching
  | present =>
    have asked : Leads (within 0) " IS NOT NULL" (within 0) := by decide
    exact presence.append asked
  | absent =>
    have asked : Leads (within 0) " IS NULL" (within 0) := by decide
    exact presence.append asked
  | never =>
    have fixed : Leads (within 0) "0=1" (within 0) := by decide
    exact fixed

end Condition

namespace Predicate

theorem leads_existsText {column path : String} (unbroken : IsUnbroken column) (c : Condition)
    (blank : Bool) : Leads ⟨.outside, blank⟩ (existsText column path c) (within 0) := by
  have opened : Leads ⟨.outside, blank⟩ "EXISTS (SELECT 1 FROM json_each(" (within 2) := by
    cases blank <;> decide
  have each : Leads (within 2) ") AS nested_item WHERE " (within 1) := by decide
  have item : IsUnbroken (element path).source := by
    have fixed : IsUnbroken "nested_item.value" := by decide
    exact fixed
  have asked := (Condition.leads_text item c).deeper
  have closed : Leads (within 1) ")" (within 0) := by decide
  exact (((opened.append (leads_unbroken unbroken 2)).append each).append asked).append closed

theorem leads_text {p : Predicate} (unbroken : IsUnbroken p.source) :
    Leads (within 0) p.text (within 0) := by
  cases p with
  | test operand condition => exact Condition.leads_text unbroken condition
  | someElement column path condition => exact leads_existsText unbroken condition false
  | noElement column path condition =>
    have negated : Leads (within 0) "NOT " ⟨.outside, true⟩ := by decide
    exact negated.append (leads_existsText unbroken condition true)

end Predicate

end TraceQuery.Sql
