import SdkGen.Proofs.Go.PlainTypes

/-!
# Brackets behind the first name of a field

In a field the brackets behind the first name hold the length of an array, or the arguments of an
embedded type. They hold a length if an operand comes first in them.

* `NoOperand`: no operand comes first at a cursor.
* `noOperand_type`: nor in a type, unless it starts with a word that is an operand.
* `runs_noLength` and so on: where no such brackets stand, no length is ahead.
-/

namespace SdkGen.Go

open Rule

variable {p : Position} {bs u r : List Char}

/-! ## Operands that come first -/

/-- An operand, or a part between parentheses that starts with one. -/
def operandOnly : GoRule :=
  ownOperand <|> .enclosed .round (.look true (.phrase .operandFirst) >> innerType)

/-- No operand comes first at a cursor, behind its stars. -/
def NoOperand (c : Cursor) : Prop :=
  ∃ ts d, Runs grammar (.many (mark "*")) c (.matched ts d) ∧ Runs grammar operandOnly d .absent

theorem runs_noOperandFirst {c : Cursor} (h : NoOperand c) :
    Runs grammar (.look true (.phrase .operandFirst)) c .absent := by
  obtain ⟨ts, d, hstars, honly⟩ := h
  have hfirst : Runs grammar (.phrase .operandFirst) c (Outcome.absent.after ts) :=
    .phrase (.second hstars honly)
  have := Runs.look (p := true) hfirst
  cases ts <;> exact this

/-- The tokens that neither a star nor an operand starts with. -/
def otherStarts : List Next :=
  [.opening .square, .closing .square, .number, .reserved "struct", .reserved "interface",
    .reserved "map", .reserved "chan", .reserved "func"]

theorem noOperand_of_stands {m : Next} (hm : m ∈ otherStarts) (h : Stands m u) :
    NoOperand ⟨u, p⟩ := by
  have hstars : ∀ m ∈ otherStarts, (.many (mark "*") : GoRule).peek m true
      (peekPhrase grammar m true 3) = some true := by decide
  have honly : ∀ m ∈ otherStarts, operandOnly.peek m true (peekPhrase grammar m true 3) =
      some false := by decide
  exact ⟨[], _, runs_nothing (before_start h) 3 (hstars m hm),
    runs_absent (before_start h) 3 (honly m hm)⟩

theorem noOperand_reserved {k : String} (hk : IsWord k.toList) (hmem : k ∈ keywords)
    (hm : .reserved k ∈ otherStarts) (hr : endsWord r = true) : NoOperand ⟨k.toList ++ r, p⟩ :=
  noOperand_of_stands hm (stands_reserved hk hmem hr)

theorem noOperand_name (n : Name) (hn : operandWords.contains n.text = false)
    (hr : endsWord r = true) : NoOperand ⟨n.chars ++ r, p⟩ := by
  have hbefore : Before .name true ⟨n.chars ++ r, p⟩ := before_name n (passed_none _) hr
  have hword : ∀ k ∈ operandWords, Runs grammar (keyword k) ⟨n.chars ++ r, p⟩ .absent := by
    intro k hk
    have hne : n.chars ≠ k.toList := by
      intro heq
      rw [String.toList_inj.1 heq, List.contains_iff_mem.2 hk] at hn
      cases hn
    have hread : (Terminal.keyword k).read ⟨[] ++ (n.chars ++ r), p⟩ = .absent :=
      terminal_absent rfl (stands_name n.isName hr).start
        (length_otherWord (wordLength_word n.isName.toIsWord hr) hne)
    exact runs_terminal hread
  have hoperand : Runs grammar ownOperand ⟨n.chars ++ r, p⟩ .absent :=
    runs_other (runs_other (hword "new" (by decide)) (hword "make" (by decide)))
      (runs_other (hword "nil" (by decide)) (runs_other (hword "true" (by decide))
        (runs_other (hword "false" (by decide)) (hword "iota" (by decide)))))
  exact ⟨[], _, runs_nothing hbefore 3 (by decide),
    runs_other hoperand (runs_absent hbefore 3 (by decide))⟩

theorem noOperand_star (hu : u.head? ≠ some '=') (h : NoOperand ⟨u, p.afterAll ['*']⟩) :
    NoOperand ⟨'*' :: u, p⟩ := by
  obtain ⟨ts, d, hstars, honly⟩ := h
  have hmark := longestMark_star hu
  have hstar : Runs grammar (mark "*") ⟨'*' :: u, p⟩
      (.matched [.leaf "*" p] ⟨u, p.afterAll ['*']⟩) :=
    runs_token (u := ['*']) (passed_none _) (by simp [Terminal.length, hmark]; decide) (by decide)
  exact ⟨_, d, .again hstar hstars, honly⟩

/-- A type that a name starts is that name and what stands behind it. -/
theorem written_qualified (q n : Name) (depth : Nat) :
    (PlainType.qualified q n).written depth ++ r = q.chars ++ '.' :: (n.chars ++ r) :=
  List.append_assoc ..

theorem written_generic (base : Name) (t : PlainType) (depth : Nat) :
    (PlainType.generic base t).written depth ++ r =
      base.chars ++ '[' :: (t.written depth ++ [']'] ++ r) :=
  List.append_assoc ..

/-- No type starts with an equals sign. -/
theorem written_head_ne : ∀ (t : PlainType) (depth : Nat), (t.written depth ++ r).head? ≠ some '='
  | .name n, _ => n.head_ne (r := r) (by decide)
  | .qualified q n, depth => written_qualified q n depth ▸ q.head_ne (by decide)
  | .generic base t, depth => written_generic base t depth ▸ base.head_ne (by decide)
  | .pointer _, _ | .slice _, _ | .array _ _, _ | .map, _ | .channel, _ | .function, _
  | .interface, _ | .struct _, _ => fun h => absurd (Option.some.inj h) (by decide)

/-- **In a type that does not start with an operand, none comes first.** -/
theorem noOperand_type : ∀ (t : PlainType), t.startsOperand = false → ∀ (depth : Nat)
    {p : Position}, endsWord r = true → NoOperand ⟨t.written depth ++ r, p⟩
  | .name n, ht, _, _, hr => noOperand_name n ht hr
  | .qualified q n, ht, depth, _, _ =>
    written_qualified q n depth ▸ noOperand_name q ht (endsWord_cons (by decide))
  | .pointer t, ht, depth, _, hr =>
    noOperand_star (written_head_ne t depth) (noOperand_type t ht depth hr)
  | .generic base t, ht, depth, _, _ =>
    written_generic base t depth ▸ noOperand_name base ht (endsWord_cons (by decide))
  | .slice _, _, _, _, _ | .array _ _, _, _, _, _ =>
    noOperand_of_stands (m := .opening .square) (by decide) (stands_opening .square)
  | .map, _, _, _, _ =>
    noOperand_reserved (k := "map") (by decide) (by decide) (by decide) (endsWord_cons (by decide))
  | .channel, _, _, _, _ =>
    noOperand_reserved (k := "chan") (by decide) (by decide) (by decide) (endsWord_cons (by decide))
  | .function, _, _, _, _ =>
    noOperand_reserved (k := "func") (by decide) (by decide) (by decide) (endsWord_cons (by decide))
  | .interface, _, _, _, _ =>
    noOperand_reserved (k := "interface") (by decide) (by decide) (by decide)
      (endsWord_cons (by decide))
  | .struct _, _, _, _, _ =>
    noOperand_reserved (k := "struct") (by decide) (by decide) (by decide)
      (endsWord_cons (by decide))

/-! ## Lengths -/

/-- Brackets that start with an operand. -/
def lengthBrackets : GoRule :=
  continued true (.enclosed .square (.look true (.phrase .operandFirst) >> typeElements))

/-- Behind a name no length is ahead where no such brackets stand. -/
theorem runs_noLength (n : Name) {o : Outcome} (hbs : isPassed true bs = true)
    (hr : endsWord r = true) (h : Runs grammar lengthBrackets ⟨r, p.afterAll (bs ++ n.chars)⟩ o)
    (ho : o.isMatched = false) : Runs grammar (.look false (lengthAhead true))
      ⟨bs ++ (n.chars ++ r), p⟩ (.matched [] ⟨bs ++ (n.chars ++ r), p⟩) := by
  have hahead : Runs grammar (lengthAhead true) ⟨bs ++ (n.chars ++ r), p⟩ _ :=
    .second (runs_word n hbs hr) h
  have := Runs.look (p := false) hahead
  cases o <;> first | exact this | cases ho

/-- No length is ahead where the brackets do not start with an operand. -/
theorem runs_noLengthIn (n : Name) {bs' v : List Char} (hbs : isPassed true bs = true)
    (hbs' : isPassed false bs' = true) (hr : endsWord (bs' ++ '[' :: v) = true)
    (hv : ∀ p, NoOperand ⟨v, p⟩) :
    Runs grammar (.look false (lengthAhead true)) ⟨bs ++ (n.chars ++ (bs' ++ '[' :: v)), p⟩
      (.matched [] ⟨bs ++ (n.chars ++ (bs' ++ '[' :: v)), p⟩) := by
  have hopen := bracket_read (c := Bracket.square.opening) (r := v)
    (p := p.afterAll (bs ++ n.chars)) (isPassed_lines hbs') (by decide)
  exact runs_noLength n hbs hr (runs_continued (sameLine_token hbs' rfl)
    (.enclosed hopen (.first (runs_noOperandFirst (hv _)) rfl))) rfl

theorem nameWritten_head_ne (package : Option Name) (n : Name) {c : Char}
    (hc : isWordStart c = false) : (nameWritten package n ++ r).head? ≠ some c := by
  cases package with
  | none => exact n.head_ne hc
  | some q =>
    simp only [nameWritten, List.append_assoc]
    exact q.head_ne hc

/-- Behind a star no length is ahead. -/
theorem runs_noLengthStar (package : Option Name) (n : Name) (hbs : isPassed true bs = true) :
    Runs grammar (.look false (lengthAhead true)) ⟨bs ++ '*' :: (nameWritten package n ++ r), p⟩
      (.matched [] ⟨bs ++ '*' :: (nameWritten package n ++ r), p⟩) := by
  have hstands := stands_star (nameWritten_head_ne (r := r) package n (c := '=') (by decide))
  obtain ⟨onLine, hbefore⟩ := before_passed (p := p) hstands hbs
  exact runs_nothing hbefore 3 (by cases onLine <;> decide)

/-- Nor is one behind a name, of a package or not, that ends the field. -/
theorem runs_noLengthBare (package : Option Name) (n : Name) (hbs : isPassed true bs = true)
    (hr : Follows true r) : Runs grammar (.look false (lengthAhead true))
      ⟨bs ++ (nameWritten package n ++ r), p⟩
      (.matched [] ⟨bs ++ (nameWritten package n ++ r), p⟩) := by
  cases package with
  | none =>
    have hnone : Runs grammar lengthBrackets ⟨r, p.afterAll (bs ++ n.chars)⟩ .absent :=
      runs_follows (m := false) hr (by decide)
    exact runs_noLength n hbs hr.endsWord hnone rfl
  | some q =>
    have hdot : (skipBlanks true ⟨'.' :: (n.chars ++ r), p.afterAll (bs ++ q.chars)⟩).rest.head? ≠
        some Bracket.square.opening := by
      have hskip := skipBlanks_token (c := '.') (r := n.chars ++ r)
        (p := p.afterAll (bs ++ q.chars)) (passed_none true) (by decide)
      rw [List.nil_append] at hskip
      simp [hskip, Bracket.opening]
    have hnone : Runs grammar lengthBrackets
        ⟨'.' :: (n.chars ++ r), p.afterAll (bs ++ q.chars)⟩ .absent :=
      runs_continued (sameLine_token (passed_none _) rfl) (.unopened (readBracket_absent hdot))
    have := runs_noLength q hbs (endsWord_cons (by decide)) hnone rfl
    simpa [nameWritten] using this

end SdkGen.Go
