import SdkGen.Proofs.Go.Lexeme

/-!
# Literals where they stand

* `TextLiteral`: the string literals, by their pieces.
* `length_text`, `stands_text`: a string literal is read to its end.
* `IsDecimal`: the digits of a decimal number.
* `length_number`, `stands_number`: a number before a closing bracket is read to its end.
-/

namespace SdkGen.Go

variable {r : List Char} {c : Char}

/-! ## String literals -/

/-- The quotes of string literals. -/
def isQuote (c : Char) : Bool := c = '"' || c = '\x60'

theorem stands_quote (hc : isQuote c = true) : Stands .quote (c :: r) := by
  simp only [isQuote, Bool.or_eq_true, decide_eq_true_eq] at hc
  refine ⟨?_, fun t ht => length_zero ?_ r, fun b _ => ?_, fun b _ => ?_⟩
  · rcases hc with rfl | rfl <;> rfl
  · rcases hc with rfl | rfl <;> cases t <;> first | rfl | cases ht
  · rcases hc with rfl | rfl <;> cases b <;> simp [Bracket.opening]
  · rcases hc with rfl | rfl <;> cases b <;> simp [Bracket.closing]

/-- A piece of an interpreted string literal. -/
inductive TextPiece
  | char (c : Char)
  /-- A backslash and a character other than `x`, `u` and `U`. -/
  | escape (c : Char)
  /-- A backslash, a letter and as many digits of base sixteen as the letter wants. -/
  | code (letter : Char) (digits : List Char)

namespace TextPiece

/-- How many digits a letter after a backslash wants. -/
def digitsOf : List (Char × Nat) := [('x', 2), ('u', 4), ('U', 8)]

/-- Whether a piece may stand in an interpreted string literal. -/
def IsSound : TextPiece → Prop
  | char c => c ≠ '"' ∧ c ≠ '\\' ∧ c ≠ '\n'
  | escape c => c ∉ digitsOf.map Prod.fst
  | code letter digits => (letter, digits.length) ∈ digitsOf ∧ ∀ d ∈ digits, isHexDigit d = true

/-- A piece as written. -/
def written : TextPiece → List Char
  | char c => [c]
  | escape c => ['\\', c]
  | code letter digits => '\\' :: letter :: digits

end TextPiece

theorem textTail_chars {u : List Char} (hu : ∀ c ∈ u, c ≠ '"' ∧ c ≠ '\\' ∧ c ≠ '\n') :
    textTail (u ++ r) = (textTail r).map (u.length + ·) := by
  induction u with
  | nil => simp
  | cons c u ih =>
    obtain ⟨h1, h2, h3⟩ := hu c (by simp)
    have hstep : textTail (c :: (u ++ r)) = (textTail (u ++ r)).map (1 + ·) := by
      rw [textTail.eq_def]
      split
      · rename_i h; cases h
      · rename_i h; exact absurd (List.cons.inj h).1 h1
      · rename_i h; exact absurd (List.cons.inj h).1 h2
      · rename_i h; exact absurd (List.cons.inj h).1 h2
      · rename_i h
        obtain ⟨rfl, rfl⟩ := List.cons.inj h
        rw [if_neg h3]
    rw [List.cons_append, hstep, ih fun d hd => hu d (by simp [hd]), Option.map_map]
    congr 1
    funext n
    simp only [Function.comp, List.length_cons]
    omega

theorem hex_plain {d : Char} (hd : isHexDigit d = true) : d ≠ '"' ∧ d ≠ '\\' ∧ d ≠ '\n' := by
  refine ⟨?_, ?_, ?_⟩ <;> (rintro rfl; revert hd; decide)

theorem textTail_piece {t : TextPiece} (ht : t.IsSound) :
    textTail (t.written ++ r) = (textTail r).map (t.written.length + ·) := by
  cases t with
  | char c =>
    refine textTail_chars fun d hd => ?_
    rw [List.mem_singleton.1 hd]
    exact ht
  | escape c =>
    have hescape : escapes (c :: r) = true := by
      simp [TextPiece.IsSound, TextPiece.digitsOf] at ht
      simp [escapes, ht]
    simp [TextPiece.written, textTail, hescape]
  | code letter digits =>
    obtain ⟨hletter, hdigits⟩ := ht
    have hexact : exactDigits digits.length isHexDigit (digits ++ r) = digits.length := by
      have hall : digits.all isHexDigit = true := List.all_eq_true.2 hdigits
      simp [exactDigits, hall]
    have hescape : escapes (letter :: (digits ++ r)) = true := by
      simp [TextPiece.digitsOf] at hletter
      rcases hletter with ⟨rfl, h⟩ | ⟨rfl, h⟩ | ⟨rfl, h⟩ <;>
        (rw [h] at hexact; simp [escapes, hexact])
    have htail := textTail_chars (r := r) fun d hd => hex_plain (hdigits d hd)
    simp only [TextPiece.written, List.cons_append, textTail, hescape, if_true, htail,
      Option.map_map, List.length_cons]
    congr 1
    funext n
    simp only [Function.comp]
    omega

/-- A string literal, raw or interpreted. -/
inductive TextLiteral
  | raw (content : List Char)
  | interpreted (pieces : List TextPiece)

namespace TextLiteral

/-- Whether a literal is well formed. -/
def IsSound : TextLiteral → Prop
  | raw content => ∀ c ∈ content, c ≠ '\x60'
  | interpreted pieces => ∀ t ∈ pieces, t.IsSound

/-- A literal as written, with its quotes. -/
def written : TextLiteral → List Char
  | raw content => '\x60' :: (content ++ ['\x60'])
  | interpreted pieces => '"' :: (pieces.flatMap TextPiece.written ++ ['"'])

end TextLiteral

theorem textTail_pieces {ts : List TextPiece} (hts : ∀ t ∈ ts, t.IsSound) :
    textTail (ts.flatMap TextPiece.written ++ '"' :: r) =
      some ((ts.flatMap TextPiece.written).length + 1) := by
  induction ts with
  | nil => simp [textTail]
  | cons t ts ih =>
    rw [List.flatMap_cons, List.append_assoc, textTail_piece (hts t (by simp)),
      ih fun t' ht' => hts t' (by simp [ht']), Option.map_some, List.length_append, Nat.add_assoc]

theorem length_text {l : TextLiteral} (hl : l.IsSound) :
    Terminal.text.length (l.written ++ r) = l.written.length := by
  cases l with
  | raw content =>
    have htake : (content ++ '\x60' :: r).takeWhile (· ≠ '\x60') = content := by
      rw [List.takeWhile_append_of_pos fun c hc => decide_eq_true (hl c hc)]
      simp
    have hraw : rawTextLength ('\x60' :: (content ++ '\x60' :: r)) = content.length + 2 := by
      simp only [rawTextLength, htake]
      simp
    simp [Terminal.length, TextLiteral.written, textLength, hraw]
  | interpreted pieces =>
    have htext := textTail_pieces (r := r) hl
    simp [Terminal.length, TextLiteral.written, textLength, htext, rawTextLength]
    omega

theorem stands_text (l : TextLiteral) : Stands .quote (l.written ++ r) := by
  cases l with
  | raw content => exact stands_quote (by decide)
  | interpreted pieces => exact stands_quote (by decide)

/-! ## Numbers -/

/-- The digits of a decimal number. -/
structure IsDecimal (ds : List Char) : Prop where
  digits : ∀ d ∈ ds, d.isDigit = true
  ne_nil : ds ≠ []
  noLeadingZero : ds.head? = some '0' → ds = ['0']

theorem joinedDigits_end {digit : Char → Bool} (h : digit ']' = false) :
    joinedDigits digit (']' :: r) = 0 := by
  cases r <;> simp [joinedDigits, h]

theorem joinedDigits_digits {ds : List Char} (hds : ∀ d ∈ ds, d.isDigit = true) :
    joinedDigits Char.isDigit (ds ++ ']' :: r) = ds.length := by
  induction ds with
  | nil => exact joinedDigits_end (by decide)
  | cons d ds ih =>
    have ih := ih fun e he => hds e (by simp [he])
    have hd : d.isDigit = true := hds d (by simp)
    obtain ⟨e, u, hu⟩ : ∃ e u, ds ++ ']' :: r = e :: u := by cases ds <;> exact ⟨_, _, rfl⟩
    rw [List.cons_append, hu, joinedDigits, if_pos hd, ← hu, ih, List.length_cons, Nat.add_comm]

theorem digit_bounds {d : Char} (hd : d.isDigit = true) : 48 ≤ d.toNat ∧ d.toNat ≤ 57 := by
  simp only [Char.isDigit, Bool.and_eq_true, decide_eq_true_eq] at hd
  exact hd

theorem markedDigits_digits {ds : List Char} (hds : ∀ d ∈ ds, d.isDigit = true) :
    markedDigits Char.isDigit (ds ++ ']' :: r) = ds.length := by
  cases ds with
  | nil => simp [markedDigits, digitsLength]
  | cons d ds =>
    have hd : d.isDigit = true := hds d (by simp)
    have hne : d ≠ '_' := by rintro rfl; revert hd; decide
    rw [List.cons_append, markedDigits, digitsLength, if_pos hd,
      joinedDigits_digits fun e he => hds e (by simp [he]), List.length_cons, Nat.add_comm]
    simp [hne]

/-- Behind the first of some digits no letter marks a base. -/
theorem baseMark_digits {d lower upper : Char} {ds : List Char}
    (hds : ∀ e ∈ ds, e.isDigit = true) (hlower : lower ≠ ']' ∧ ¬ lower.isDigit)
    (hupper : upper ≠ ']' ∧ ¬ upper.isDigit) :
    baseMark lower upper (d :: (ds ++ ']' :: r)) = 0 := by
  have hnot : ∀ e u, ds ++ ']' :: r = e :: u → e ≠ lower ∧ e ≠ upper := by
    intro e u heq
    cases ds with
    | nil =>
      obtain rfl : ']' = e := (List.cons.inj heq).1
      exact ⟨hlower.1.symm, hupper.1.symm⟩
    | cons f ds =>
      obtain rfl : f = e := (List.cons.inj heq).1
      have hf : f.isDigit = true := hds f List.mem_cons_self
      exact ⟨fun h => hlower.2 (h ▸ hf), fun h => hupper.2 (h ▸ hf)⟩
  unfold baseMark
  split
  next e u heq =>
    obtain ⟨hne, hne'⟩ := hnot e u (List.cons.inj heq).2
    rw [if_neg (by simp [hne, hne'])]
  · rfl

/-- Digits before a bracket are an integer. -/
theorem integerLength_digits {d : Char} {ds : List Char} (hds : IsDecimal (d :: ds)) :
    integerLength (d :: (ds ++ ']' :: r)) = ds.length + 1 := by
  obtain ⟨hdigits, -, hzero⟩ := hds
  obtain ⟨hd, htail⟩ := List.forall_mem_cons.1 hdigits
  have hdrop : (d :: (ds ++ ']' :: r)).drop 1 = ds ++ ']' :: r := rfl
  simp only [integerLength, baseMark_digits htail (by decide : 'b' ≠ ']' ∧ _)
      (by decide : 'B' ≠ ']' ∧ _),
    baseMark_digits htail (by decide : 'x' ≠ ']' ∧ _) (by decide : 'X' ≠ ']' ∧ _),
    baseMark_digits htail (by decide : 'o' ≠ ']' ∧ _) (by decide : 'O' ≠ ']' ∧ _)]
  by_cases hd0 : d = '0'
  · subst hd0
    obtain rfl : ds = [] := (List.cons.inj (hzero rfl)).2
    simp [andThen, andMaybe, charLength, markedDigits, digitsLength, isOctalDigit]
  · have hrange : ('1' ≤ d && d ≤ '9') = true := by
      have hb := digit_bounds hd
      have h0 : d.toNat ≠ 48 := fun h => hd0 (Char.toNat_inj.1 h)
      simp only [Bool.and_eq_true, decide_eq_true_eq]
      exact ⟨show 49 ≤ d.toNat by omega, show d.toNat ≤ 57 from hb.2⟩
    have hdecimal : andMaybe (charLength (fun c => '1' ≤ c && c ≤ '9') (d :: (ds ++ ']' :: r)))
        (markedDigits Char.isDigit) (d :: (ds ++ ']' :: r)) = ds.length + 1 := by
      simp only [charLength, hrange, if_true, andMaybe, hdrop, markedDigits_digits htail]
      omega
    rw [hdecimal]
    simp [andThen, charLength, hd0]

/-- Digits before a bracket are a number. -/
theorem length_number {ds : List Char} (hds : IsDecimal ds) :
    Terminal.number.length (ds ++ ']' :: r) = ds.length := by
  obtain ⟨d, ds, rfl⟩ := List.exists_cons_of_ne_nil hds.ne_nil
  have hinteger := integerLength_digits hds (r := r)
  obtain ⟨hd, htail⟩ := List.forall_mem_cons.1 hds.digits
  have hdot : d ≠ '.' := by rintro rfl; revert hd; decide
  have hwhole : digitsLength Char.isDigit (d :: (ds ++ ']' :: r)) = ds.length + 1 := by
    rw [digitsLength, if_pos hd, joinedDigits_digits htail, Nat.add_comm]
  -- behind the digits stands neither a point nor a letter
  have hend : (d :: (ds ++ ']' :: r)).drop (ds.length + 1) = ']' :: r := by simp
  have hexponent : exponentLength 'e' 'E' (']' :: r) = 0 := by simp [exponentLength]
  have hfloat : floatLength (d :: (ds ++ ']' :: r)) = 0 := by
    simp only [floatLength, hwhole, hexponent, hend, andThen,
      baseMark_digits htail (by decide : 'x' ≠ ']' ∧ _) (by decide : 'X' ≠ ']' ∧ _)]
    simp [charLength, andMaybe, hdot]
  have himaginary : andThen (ds.length + 1) (charLength (· = 'i')) (d :: (ds ++ ']' :: r)) = 0 := by
    simp [andThen, hend, charLength]
  simp only [Terminal.length, List.cons_append, numberLength, hinteger, hfloat, hwhole]
  simp [himaginary]

theorem stands_number {ds : List Char} (hds : IsDecimal ds) : Stands .number (ds ++ r) := by
  obtain ⟨hdigits, hne, -⟩ := hds
  obtain ⟨d, ds, rfl⟩ := List.exists_cons_of_ne_nil hne
  have hd : d.isDigit = true := hdigits d (by simp)
  have hb := digit_bounds hd
  have hother : ∀ c, (c.toNat < 48 ∨ 57 < c.toNat) → d ≠ c := by
    rintro c hc rfl
    omega
  refine ⟨?_, fun t ht => length_zero ?_ _, fun b _ => ?_, fun b _ => ?_⟩
  · have hspace : isSpace d = false := by
      rw [← Bool.not_eq_true]
      simp only [isSpace, Bool.or_eq_true, Bool.and_eq_true, decide_eq_true_eq]
      rintro (⟨-, h⟩ | h)
      · exact absurd (show d.toNat ≤ 13 from h) (by omega)
      · exact hother ' ' (by decide) h
    have := hother '/' (by decide)
    simp [startsToken, hspace, this]
  · have hword : isWordStart d = false := by
      rw [← Bool.not_eq_true]
      intro h
      have := wordStart_ge h
      omega
    have hmarks : (markHeads.all fun m => !m.isDigit) = true := by decide
    cases t with
    | word => exact hword
    | keyword w => exact hword
    | mark wanted =>
      rw [← Bool.not_eq_true]
      simp only [mayStart, List.contains_iff_mem]
      intro h
      have hnot := List.all_eq_true.1 hmarks d h
      rw [hd] at hnot
      cases hnot
    | number => cases ht
    | rune => simpa [mayStart] using hother '\'' (by decide)
    | text => simp [mayStart, hother '"' (by decide), hother '\x60' (by decide)]
    | terminator =>
      simp [mayStart, hother '\n' (by decide), hother ';' (by decide), hother '\x00' (by decide)]
  · cases b <;> simpa [Bracket.opening] using hother _ (by decide)
  · cases b <;> simpa [Bracket.closing] using hother _ (by decide)

end SdkGen.Go
