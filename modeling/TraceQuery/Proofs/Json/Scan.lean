import TraceQuery.Json.Decode
import TraceQuery.Proofs.Json.Numeral

/-!
The tokens of a written value. A value's text is read into the value's own tokens, whatever stands
before it; behind a number the reading is not over until something follows that cannot belong to
the number, or nothing does.
-/

set_option autoImplicit false
namespace TraceQuery.Json

def Stage.AfterWhole (stage : Stage) : Prop :=
  stage = .zero ∨ stage = .whole

def Stage.BeforeExponent (stage : Stage) : Prop :=
  stage = .zero ∨ stage = .whole ∨ stage = .fraction

def Draft.ofNumeral (n : Numeral) : Draft :=
  ⟨n.negative, n.whole.reverse, n.fraction.reverse, n.exponent.map fun (s, ds) => (s, ds.reverse)⟩

theorem Draft.toNumeral_ofNumeral (n : Numeral) : (Draft.ofNumeral n).toNumeral = n := by
  obtain ⟨negative, whole, fraction, exponent⟩ := n
  cases exponent <;> simp [Draft.ofNumeral, Draft.toNumeral]

/-- How a character is kept that has been written: a control as a code, unless it has a letter. -/
def Piece.ofChar (c : Char) : Piece :=
  if c < ' ' ∧ c ∉ ['\x08', '\x0c', '\n', '\r', '\t'] then .unit c.toNat else .char c

def Piece.ofString (s : String) : List Piece :=
  s.toList.map ofChar

namespace Scan

variable {s : Scan} {ts : List Token}

theorem run_cons {next : Scan} {c : Option Char} (h : s.step c = some next)
    (rest : List (Option Char)) : s.run (c :: rest) = next.run rest := by
  simp [run, h]

theorem run_append (s : Scan) (front back : List (Option Char)) :
    s.run (front ++ back) = (s.run front).bind (·.run back) := by
  induction front generalizing s with
  | nil => rfl
  | cons c rest ih =>
    simp only [List.cons_append, run]
    cases s.step c with
    | none => rfl
    | some next => exact ih next

theorem run_append_of {middle : Scan} {front back : List Char}
    (h : s.run (front.map some) = some middle) :
    s.run ((front ++ back).map some) = middle.run (back.map some) := by
  rw [List.map_append, run_append, h]
  rfl

/-! ## Numbers -/

theorem run_digits {stage : Stage} {push : Draft → Char → Draft}
    (takes : ∀ d c, c.isDigit → advance? stage d c = some (stage, push d c)) {ds : List Char}
    (digits : ∀ c ∈ ds, c.isDigit) (d : Draft) :
    run ⟨.number stage d, ts⟩ (ds.map some) = some ⟨.number stage (ds.foldl push d), ts⟩ := by
  induction ds generalizing d with
  | nil => rfl
  | cons c rest ih =>
    have first : step ⟨.number stage d, ts⟩ (some c) = some ⟨.number stage (push d c), ts⟩ := by
      simp [step, takes d c (digits c List.mem_cons_self)]
    rw [List.map_cons, run_cons first]
    exact ih (fun c member => digits c (List.mem_cons_of_mem _ member)) _

theorem foldl_pushWhole (ds : List Char) (d : Draft) :
    ds.foldl Draft.pushWhole d = { d with whole := ds.reverse ++ d.whole } := by
  induction ds generalizing d with
  | nil => rfl
  | cons c rest ih => simp [ih, Draft.pushWhole]

theorem foldl_pushFraction (ds : List Char) (d : Draft) :
    ds.foldl Draft.pushFraction d = { d with fraction := ds.reverse ++ d.fraction } := by
  induction ds generalizing d with
  | nil => rfl
  | cons c rest ih => simp [ih, Draft.pushFraction]

theorem foldl_pushExponent (ds : List Char) (d : Draft) {sign : Bool} {seen : List Char}
    (h : d.exponent = some (sign, seen)) :
    ds.foldl Draft.pushExponent d = { d with exponent := some (sign, ds.reverse ++ seen) } := by
  induction ds generalizing d seen with
  | nil =>
    obtain ⟨negative, whole, fraction, exponent⟩ := d
    rw [show exponent = some (sign, seen) from h]
    rfl
  | cons c rest ih =>
    have pushed : d.pushExponent c = { d with exponent := some (sign, c :: seen) } := by
      simp [Draft.pushExponent, h]
    rw [List.foldl_cons, @ih _ (c :: seen) (by rw [pushed]), pushed]
    simp

theorem ne_of_isDigit {c d : Char} (digit : c.isDigit) (other : d.isDigit = false) : c ≠ d := by
  rintro rfl
  simp [other] at digit

theorem between_digit {c : Char} (digit : c.isDigit) (leading : c ≠ '0') (ts : List Token) :
    between ts c = some ⟨.number .whole ⟨false, [c], [], none⟩, ts⟩ := by
  have other {d : Char} (h : d.isDigit = false) : c ≠ d := ne_of_isDigit digit h
  simp [between, isSpace, leading, digit, other]

theorem run_whole (negative : Bool) {ds : List Char} (whole : IsWhole ds) (ts : List Token) :
    ∃ stage, Stage.AfterWhole stage ∧
      run ⟨.between, ts⟩ (((if negative then ['-'] else []) ++ ds).map some) =
        some ⟨.number stage ⟨negative, ds.reverse, [], none⟩, ts⟩ := by
  have takes (d : Draft) (c : Char) (digit : c.isDigit) :
      advance? .whole d c = some (.whole, d.pushWhole c) := by
    simp [advance?, digit]
  obtain rfl | leading := whole.leading
  · -- A zero is all that there may be before the point.
    refine ⟨.zero, .inl rfl, ?_⟩
    cases negative <;> rfl
  obtain ⟨c, rest, rfl⟩ := List.exists_cons_of_ne_nil whole.nonempty
  have leading : c ≠ '0' := by simpa using leading
  have digit : c.isDigit := whole.digits c List.mem_cons_self
  have digits (c : Char) (member : c ∈ rest) : c.isDigit :=
    whole.digits c (List.mem_cons_of_mem _ member)
  have first : run ⟨.between, ts⟩ (((if negative then ['-'] else []) ++ [c]).map some) =
      some ⟨.number .whole ⟨negative, [c], [], none⟩, ts⟩ := by
    cases negative with
    | false => simp [run, step, between_digit digit leading]
    | true => simp [run, step, between, isSpace, advance?, leading, digit, Draft.pushWhole]
  refine ⟨.whole, .inr rfl, ?_⟩
  rw [show c :: rest = [c] ++ rest from rfl, ← List.append_assoc, run_append_of first,
    run_digits takes digits, foldl_pushWhole]
  simp

/-- A stage that any digit leads into one that takes all of them. -/
theorem run_first_digits {entry stage : Stage} {push : Draft → Char → Draft}
    (enters : ∀ d c, c.isDigit → advance? entry d c = some (stage, push d c))
    (takes : ∀ d c, c.isDigit → advance? stage d c = some (stage, push d c)) {ds : List Char}
    (nonempty : ds ≠ []) (digits : ∀ c ∈ ds, c.isDigit) (d : Draft) :
    run ⟨.number entry d, ts⟩ (ds.map some) = some ⟨.number stage (ds.foldl push d), ts⟩ := by
  obtain ⟨c, rest, rfl⟩ := List.exists_cons_of_ne_nil nonempty
  have first : step ⟨.number entry d, ts⟩ (some c) = some ⟨.number stage (push d c), ts⟩ := by
    simp [step, enters d c (digits c List.mem_cons_self)]
  rw [List.map_cons, run_cons first]
  exact run_digits takes (fun c member => digits c (List.mem_cons_of_mem _ member)) _

theorem run_fraction {stage : Stage} (after : Stage.AfterWhole stage) {ds : List Char}
    (digits : ∀ c ∈ ds, c.isDigit) {d : Draft} (empty : d.fraction = []) (ts : List Token) :
    ∃ last, Stage.BeforeExponent last ∧
      run ⟨.number stage d, ts⟩ ((Numeral.fractionChars ds).map some) =
        some ⟨.number last { d with fraction := ds.reverse }, ts⟩ := by
  by_cases whole : ds = []
  · subst whole
    refine ⟨stage, after.elim .inl fun h => .inr (.inl h), ?_⟩
    rw [show ([] : List Char).reverse = d.fraction from empty.symm]
    rfl
  have point : step ⟨.number stage d, ts⟩ (some '.') = some ⟨.number .point d, ts⟩ := by
    rcases after with rfl | rfl <;> rfl
  have enters (d : Draft) (c : Char) (digit : c.isDigit) :
      advance? .point d c = some (.fraction, d.pushFraction c) := by
    simp [advance?, digit]
  have takes (d : Draft) (c : Char) (digit : c.isDigit) :
      advance? .fraction d c = some (.fraction, d.pushFraction c) := by
    simp [advance?, digit]
  refine ⟨.fraction, .inr (.inr rfl), ?_⟩
  rw [Decimal.fractionChars_of_ne_nil whole, List.map_cons, run_cons point,
    run_first_digits enters takes whole digits, foldl_pushFraction, empty, List.append_nil]

theorem run_exponent {stage : Stage} (before : Stage.BeforeExponent stage)
    {exponent : Option (Bool × List Char)}
    (digits : ∀ sign ds, exponent = some (sign, ds) → ds ≠ [] ∧ ∀ c ∈ ds, c.isDigit) {d : Draft}
    (empty : d.exponent = none) (ts : List Token) :
    ∃ last, complete last ∧
      run ⟨.number stage d, ts⟩ ((Numeral.exponentChars exponent).map some) =
        some ⟨.number last { d with exponent := exponent.map fun (s, ds) => (s, ds.reverse) },
          ts⟩ := by
  cases exponent with
  | none =>
    refine ⟨stage, by rcases before with rfl | rfl | rfl <;> rfl, ?_⟩
    obtain ⟨negative, whole, fraction, exponent⟩ := d
    rw [show exponent = none from empty]
    rfl
  | some parts =>
    obtain ⟨sign, ds⟩ := parts
    obtain ⟨nonempty, digits⟩ := digits sign ds rfl
    have mark : step ⟨.number stage d, ts⟩ (some 'e') = some ⟨.number .mark d, ts⟩ := by
      rcases before with rfl | rfl | rfl <;> rfl
    have signed : step ⟨.number .mark d, ts⟩ (some (if sign then '-' else '+')) =
        some ⟨.number .exponentSign { d with exponent := some (sign, []) }, ts⟩ := by
      cases sign <;> rfl
    have enters (d : Draft) (c : Char) (digit : c.isDigit) :
        advance? .exponentSign d c = some (.exponent, d.pushExponent c) := by
      simp [advance?, digit]
    have takes (d : Draft) (c : Char) (digit : c.isDigit) :
        advance? .exponent d c = some (.exponent, d.pushExponent c) := by
      simp [advance?, digit]
    refine ⟨.exponent, rfl, ?_⟩
    rw [Numeral.exponentChars, List.map_cons, run_cons mark, List.map_cons, run_cons signed,
      run_first_digits enters takes nonempty digits, @foldl_pushExponent ds _ _ [] rfl]
    simp

theorem run_numeral {n : Numeral} (formed : n.WellFormed) (ts : List Token) :
    ∃ stage, complete stage ∧
      run ⟨.between, ts⟩ (n.chars.map some) = some ⟨.number stage (Draft.ofNumeral n), ts⟩ := by
  obtain ⟨stage, after, whole⟩ := run_whole n.negative formed.whole ts
  obtain ⟨stage, before, fraction⟩ := run_fraction after formed.fraction
    (d := ⟨n.negative, n.whole.reverse, [], none⟩) rfl ts
  obtain ⟨stage, ends, exponent⟩ := run_exponent before formed.exponent
    (d := ⟨n.negative, n.whole.reverse, n.fraction.reverse, none⟩) rfl ts
  refine ⟨stage, ends, ?_⟩
  rw [Numeral.chars, ← List.append_assoc, run_append_of whole, run_append_of fraction, exponent]
  rfl

/-! ## Strings -/

theorem hexDigit?_hexDigit : ∀ n < 16, hexDigit? (hexDigit n) = some n := by
  decide

theorem run_escape (c : Char) (seen : List Piece) :
    run ⟨.string seen, ts⟩ ((escape c).map some) = some ⟨.string (Piece.ofChar c :: seen), ts⟩ := by
  unfold escape
  -- First the seven characters that have an escape of their own.
  split
  · subst_vars; rfl
  split
  · subst_vars; rfl
  split
  · subst_vars; rfl
  split
  · subst_vars; rfl
  split
  · subst_vars; rfl
  split
  · subst_vars; rfl
  split
  · subst_vars; rfl
  next quote backslash b f n r t =>
  have unnamed : c ∉ ['\x08', '\x0c', '\n', '\r', '\t'] := by simp [b, f, n, r, t]
  split
  · next control =>
    -- Any other control is written by its code, of which two hexadecimal digits are enough.
    have small : c.toNat < 32 := control
    have high := hexDigit?_hexDigit (c.toNat / 16) (by omega)
    have low := hexDigit?_hexDigit (c.toNat % 16) (by omega)
    have code : 16 * (c.toNat / 16) + c.toNat % 16 = c.toNat := Nat.div_add_mod _ _
    have zero : hexDigit? '0' = some 0 := rfl
    simp [run, step, high, low, zero, code, Piece.ofChar, control, unnamed]
  · next control => simp [run, step, quote, backslash, control, Piece.ofChar]

theorem run_escapes (cs : List Char) (seen : List Piece) :
    run ⟨.string seen, ts⟩ ((cs.flatMap escape).map some) =
      some ⟨.string ((cs.map Piece.ofChar).reverse ++ seen), ts⟩ := by
  induction cs generalizing seen with
  | nil => rfl
  | cons c rest ih =>
    rw [List.flatMap_cons, run_append_of (run_escape c seen), ih]
    simp

theorem run_quote (s : String) (ts : List Token) :
    run ⟨.between, ts⟩ ((quote s).map some) = some ⟨.between, .text (Piece.ofString s) :: ts⟩ := by
  have opening : step ⟨.between, ts⟩ (some '"') = some ⟨.string [], ts⟩ := rfl
  have closing : run ⟨.string ((s.toList.map Piece.ofChar).reverse ++ []), ts⟩ (['"'].map some) =
      some ⟨.between, .text (Piece.ofString s) :: ts⟩ := by
    simp [run, step, emit, Piece.ofString]
  rw [quote, List.map_cons, run_cons opening, run_append_of (run_escapes _ _), closing]

end Scan

namespace Piece

theorem chars?_map_ofChar (cs done : List Char) :
    chars? done (cs.map ofChar) = some (done.reverse ++ cs) := by
  induction cs generalizing done with
  | nil => simp [chars?]
  | cons c rest ih =>
    by_cases control : c < ' ' ∧ c ∉ ['\x08', '\x0c', '\n', '\r', '\t']
    · -- A control's code is no surrogate, whatever follows.
      have small : c.toNat < 32 := control.1
      have high : isHighSurrogate c.toNat = false := by simp [isHighSurrogate]; omega
      have low : isLowSurrogate c.toNat = false := by simp [isLowSurrogate]; omega
      rw [List.map_cons, ofChar, if_pos control]
      cases rest with
      | nil => simp [chars?, high, low]
      | cons next rest =>
        rw [List.map_cons, chars?.eq_def]
        simpa [high, low] using ih (c :: done)
    · rw [List.map_cons, ofChar, if_neg control, chars?, ih]
      simp

@[simp]
theorem text?_ofString (s : String) : text? (ofString s) = some s := by
  simp [text?, ofString, chars?_map_ofChar]

end Piece

/-! ## Values -/

mutual

def tokens : Json → List Token
  | .null => [.null]
  | .bool b => [.bool b]
  | .number n => [.numeral n.numeral]
  | .string s => [.text (Piece.ofString s)]
  | .array items => .leftBracket :: (itemTokens items ++ [.rightBracket])
  | .object members => .leftBrace :: (memberTokens members ++ [.rightBrace])

def itemTokens : List Json → List Token
  | [] => []
  | [item] => item.tokens
  | item :: rest => item.tokens ++ .comma :: itemTokens rest

def memberTokens : List (String × Json) → List Token
  | [] => []
  | [(key, value)] => .text (Piece.ofString key) :: .colon :: value.tokens
  | (key, value) :: rest =>
    .text (Piece.ofString key) :: .colon :: (value.tokens ++ .comma :: memberTokens rest)

end

namespace Scan

/-- So many tokens have been read where the text ends, or where a value's text may be followed. -/
structure Settles (s : Scan) (ts : List Token) : Prop where
  finish : s.finish? = some ts.reverse
  step : ∀ c ∈ [',', ']', '}'], s.step (some c) = between ts c

theorem settles_between (ts : List Token) : Settles ⟨.between, ts⟩ ts :=
  ⟨rfl, fun _ _ => rfl⟩

theorem settles_number {stage : Stage} (ends : complete stage) (n : Numeral) (ts : List Token) :
    Settles ⟨.number stage (Draft.ofNumeral n), ts⟩ (.numeral n :: ts) where
  finish := by simp [finish?, ends, Draft.toNumeral_ofNumeral]
  step c delimiter := by
    have stops (d : Draft) : advance? stage d c = none := by
      simp only [List.mem_cons, List.not_mem_nil, or_false] at delimiter
      rcases delimiter with rfl | rfl | rfl <;> cases stage <;> rfl
    simp [Scan.step, stops, ends, Draft.toNumeral_ofNumeral]

theorem run_key (key : String) (back : List Char) (ts : List Token) :
    run ⟨.between, ts⟩ ((quote key ++ ':' :: back).map some) =
      run ⟨.between, .colon :: .text (Piece.ofString key) :: ts⟩ (back.map some) := by
  rw [run_append_of (run_quote key ts)]
  rfl

mutual

/-- Behind a value's text, the value's tokens have been read. -/
theorem run_chars : ∀ (v : Json) (ts : List Token),
    ∃ s, run ⟨.between, ts⟩ (v.chars.map some) = some s ∧ s.Settles (v.tokens.reverse ++ ts)
  | .null, ts => ⟨_, rfl, settles_between _⟩
  | .bool true, ts => ⟨_, rfl, settles_between _⟩
  | .bool false, ts => ⟨_, rfl, settles_between _⟩
  | .number n, ts => by
    -- Nothing in a number says that it ends, so it is only a token with what follows it.
    obtain ⟨stage, ends, read⟩ := run_numeral n.wellFormed_numeral ts
    rw [chars, ← n.chars_numeral]
    exact ⟨_, read, settles_number ends _ ts⟩
  | .string s, ts => ⟨_, run_quote s ts, settles_between _⟩
  | .array items, ts => by
    obtain ⟨s, read, settles⟩ := run_itemChars items (.leftBracket :: ts)
    have opening : step ⟨.between, ts⟩ (some '[') = some ⟨.between, .leftBracket :: ts⟩ := rfl
    have closing := settles.step ']' (by simp)
    refine ⟨_, ?_, settles_between _⟩
    rw [chars, List.map_cons, run_cons opening, run_append_of read, List.map_singleton,
      run_cons closing]
    simp [Json.tokens, run]
  | .object members, ts => by
    obtain ⟨s, read, settles⟩ := run_memberChars members (.leftBrace :: ts)
    have opening : step ⟨.between, ts⟩ (some '{') = some ⟨.between, .leftBrace :: ts⟩ := rfl
    have closing := settles.step '}' (by simp)
    refine ⟨_, ?_, settles_between _⟩
    rw [chars, List.map_cons, run_cons opening, run_append_of read, List.map_singleton,
      run_cons closing]
    simp [Json.tokens, run]

theorem run_itemChars : ∀ (items : List Json) (ts : List Token),
    ∃ s, run ⟨.between, ts⟩ ((itemChars items).map some) = some s ∧
      s.Settles ((itemTokens items).reverse ++ ts)
  | [], ts => ⟨_, rfl, settles_between _⟩
  | [item], ts => run_chars item ts
  | item :: next :: rest, ts => by
    obtain ⟨s, read, settles⟩ := run_chars item ts
    have comma := settles.step ',' (by simp)
    obtain ⟨last, readRest, ends⟩ :=
      run_itemChars (next :: rest) (.comma :: (item.tokens.reverse ++ ts))
    refine ⟨last, ?_, by simpa [itemTokens] using ends⟩
    rw [itemChars, run_append_of read, List.map_cons, run_cons comma]
    · exact readRest
    · simp

theorem run_memberChars : ∀ (members : List (String × Json)) (ts : List Token),
    ∃ s, run ⟨.between, ts⟩ ((memberChars members).map some) = some s ∧
      s.Settles ((memberTokens members).reverse ++ ts)
  | [], ts => ⟨_, rfl, settles_between _⟩
  | [(key, value)], ts => by
    obtain ⟨s, read, settles⟩ := run_chars value (.colon :: .text (Piece.ofString key) :: ts)
    refine ⟨s, ?_, by simpa [memberTokens] using settles⟩
    rw [memberChars, run_key, read]
  | (key, value) :: next :: rest, ts => by
    obtain ⟨s, read, settles⟩ := run_chars value (.colon :: .text (Piece.ofString key) :: ts)
    have comma := settles.step ',' (by simp)
    obtain ⟨last, readRest, ends⟩ := run_memberChars (next :: rest)
      (.comma :: (value.tokens.reverse ++ .colon :: .text (Piece.ofString key) :: ts))
    refine ⟨last, ?_, by simpa [memberTokens] using ends⟩
    rw [memberChars, run_key, run_append_of read, List.map_cons, run_cons comma]
    · exact readRest
    · simp

end

end Scan

theorem tokens?_chars (v : Json) : tokens? (v.chars.map some) = some v.tokens := by
  obtain ⟨s, read, settles⟩ := Scan.run_chars v []
  rw [tokens?, Scan.start, read, Option.bind_some, settles.finish]
  simp

end TraceQuery.Json
