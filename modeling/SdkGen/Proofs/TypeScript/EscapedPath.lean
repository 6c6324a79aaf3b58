import SdkGen.Proofs.Text.Occurrence
import SdkGen.TypeScript.Path

/-!
# Escapes and parameters of a path

The text of a template literal is escaped in three steps, and only then searched for parameters. No
escape comes in the way of a parameter and none is taken for one, so that the pieces of the path as
it is given may as well be written one after the other.

* `splitFrom_cons`, `split_induction`: a path starts with a character or with a parameter.
* `escapeTemplate_cons`: what the three steps make of one character.
* `substituted_escapeTemplate`: the pieces of the escaped text are those of the path, escaped.
* `pathExpression_template`, `pathExpression_quoted`: the expression of a path by its pieces.
-/

namespace SdkGen.TypeScript

open Occurrence (replace replace_single replace_append replace_cons_of_not)

variable {cs r name after : List Char} {c : Char} {path : String}

/-! ## Pieces -/

/-- A word that names something. -/
def isName (word : List Char) : Bool := word.head?.any isNameStart && word.all isNameChar

theorem isNameChar_of_start (h : isNameStart c = true) : isNameChar c = true := by
  unfold isNameStart at h
  unfold isNameChar Char.isAlphanum
  rw [Bool.or_eq_true] at h ⊢
  rcases h with h | h
  · exact .inl (by rw [h, Bool.true_or])
  · exact .inr h

theorem splitFrom_drop (k : Nat) (cs : List Char) :
    PathPiece.splitFrom k cs = PathPiece.splitFrom 0 (cs.drop k) := by
  induction cs generalizing k with
  | nil => cases k <;> rfl
  | cons c r ih =>
    cases k with
    | zero => rfl
    | succ k => exact ih k

theorem splitFrom_zero (c : Char) (r : List Char) :
    PathPiece.splitFrom 0 (c :: r) =
      if c = ':' && (r.takeWhile isNameChar).head?.any isNameStart then
        .param (r.takeWhile isNameChar) ::
          PathPiece.splitFrom (r.takeWhile isNameChar).length r
      else .char c :: PathPiece.splitFrom 0 r := rfl

/-- A name is taken as far as it goes. -/
theorem splitFrom_param (hname : isName name = true)
    (hafter : after.head?.any isNameChar = false) :
    PathPiece.splitFrom 0 (':' :: (name ++ after)) = .param name :: PathPiece.splitFrom 0 after := by
  obtain ⟨hstart, hchars⟩ := Bool.and_eq_true_iff.1 hname
  have htake : (name ++ after).takeWhile isNameChar = name := by
    rw [List.takeWhile_append_of_pos (List.all_eq_true.1 hchars)]
    cases after with
    | nil => exact List.append_nil name
    | cons c after =>
      have hc : ¬ isNameChar c = true := by simpa using hafter
      rw [List.takeWhile_cons_of_neg hc, List.append_nil]
  rw [splitFrom_zero, htake, hstart]
  show PathPiece.param name :: _ = _
  rw [splitFrom_drop, List.drop_left]

theorem splitFrom_char (h : c ≠ ':' ∨ r.head?.any isNameStart = false) :
    PathPiece.splitFrom 0 (c :: r) = .char c :: PathPiece.splitFrom 0 r := by
  have hnot : ¬ (c = ':' && (r.takeWhile isNameChar).head?.any isNameStart) = true := by
    rw [Bool.and_eq_true, decide_eq_true_eq]
    rintro ⟨hcolon, hstart⟩
    rcases h with h | h
    · exact h hcolon
    · cases r with
      | nil => cases hstart
      | cons d r =>
        rw [List.takeWhile_cons] at hstart
        split at hstart
        · rw [List.head?_cons] at h hstart
          rw [h] at hstart
          cases hstart
        · cases hstart
  rw [splitFrom_zero, if_neg hnot]

/-- A path starts with a character or with a parameter. -/
theorem splitFrom_cons (c : Char) (r : List Char) :
    (∃ name after, c = ':' ∧ r = name ++ after ∧ isName name ∧
        after.head?.any isNameChar = false ∧
        PathPiece.splitFrom 0 (c :: r) = .param name :: PathPiece.splitFrom 0 after) ∨
      (c ≠ ':' ∨ r.head?.any isNameStart = false) ∧
        PathPiece.splitFrom 0 (c :: r) = .char c :: PathPiece.splitFrom 0 r := by
  by_cases hparam : c = ':' ∧ r.head?.any isNameStart = true
  · left
    obtain ⟨rfl, hstart⟩ := hparam
    have hname : isName (r.takeWhile isNameChar) = true := by
      unfold isName
      rw [Bool.and_eq_true]
      refine ⟨?_, List.all_takeWhile⟩
      cases r with
      | nil => cases hstart
      | cons d r =>
        have hd : isNameStart d = true := hstart
        rw [List.takeWhile_cons_of_pos (isNameChar_of_start hd)]
        exact hd
    have hafter : (r.dropWhile isNameChar).head?.any isNameChar = false := by
      have hhead := List.head?_dropWhile_not isNameChar r
      cases hd : (r.dropWhile isNameChar).head? with
      | none => rfl
      | some d =>
        rw [hd] at hhead
        simpa using hhead
    have hparts : r = r.takeWhile isNameChar ++ r.dropWhile isNameChar :=
      List.takeWhile_append_dropWhile.symm
    refine ⟨_, _, rfl, hparts, hname, hafter, ?_⟩
    have hsplit := splitFrom_param hname hafter
    rwa [← hparts] at hsplit
  · have hchar : c ≠ ':' ∨ r.head?.any isNameStart = false := by
      rw [Decidable.not_and_iff_or_not, Bool.not_eq_true] at hparam
      exact hparam
    exact .inr ⟨hchar, splitFrom_char hchar⟩

/-- Induction along the pieces of a path: a parameter is passed as a whole. -/
@[elab_as_elim]
theorem split_induction {motive : List Char → Prop} (nil : motive [])
    (param : ∀ name after, isName name → after.head?.any isNameChar = false →
      PathPiece.splitFrom 0 (':' :: (name ++ after)) = .param name :: PathPiece.splitFrom 0 after →
      motive after → motive (':' :: (name ++ after)))
    (char : ∀ c r, (c ≠ ':' ∨ r.head?.any isNameStart = false) →
      PathPiece.splitFrom 0 (c :: r) = .char c :: PathPiece.splitFrom 0 r → motive r → motive (c :: r))
    (cs : List Char) : motive cs := by
  induction hlength : cs.length using Nat.strongRecOn generalizing cs with
  | ind n ih =>
    cases cs with
    | nil => exact nil
    | cons c r =>
      rw [List.length_cons] at hlength
      obtain ⟨name, after, rfl, rfl, hname, hafter, hsplit⟩ | ⟨hchar, hsplit⟩ := splitFrom_cons c r
      · rw [List.length_append] at hlength
        exact param name after hname hafter hsplit (ih after.length (by omega) after rfl)
      · exact char c r hchar hsplit (ih r.length (by omega) r rfl)

/-- Which character a path starts with is known from its first piece. -/
theorem head?_splitFrom (hc : c ≠ ':') (cs : List Char) :
    (PathPiece.splitFrom 0 cs).head? = some (.char c) ↔ cs.head? = some c := by
  cases cs with
  | nil => exact iff_of_false nofun nofun
  | cons d r =>
    obtain ⟨name, after, rfl, rfl, -, -, hsplit⟩ | ⟨-, hsplit⟩ := splitFrom_cons d r
    · rw [hsplit]
      exact iff_of_false nofun fun h => hc (Option.some.inj h).symm
    · rw [hsplit]
      simp

/-! ## Escapes -/

/-- A character is escaped before the rest of a text: a backslash, a backquote, and a dollar before
an opening brace. -/
def IsEscaped (c : Char) (r : List Char) : Prop :=
  c = '\\' ∨ c = '\x60' ∨ (c = '$' ∧ r.head? = some '{')

instance (c : Char) (r : List Char) : Decidable (IsEscaped c r) :=
  inferInstanceAs (Decidable (_ ∨ _))

/-- A character in a template literal before the rest of a text. -/
def templateChar (c : Char) (r : List Char) : List Char :=
  if IsEscaped c r then ['\\', c] else [c]

/-- The first two steps escape backslashes and backquotes wherever they stand. -/
def escapeMarks (cs : List Char) : List Char :=
  replace ['\x60'] ['\\', '\x60'] (replace ['\\'] ['\\', '\\'] cs)

theorem escapeMarks_cons (c : Char) (r : List Char) : escapeMarks (c :: r) =
    (if c = '\\' ∨ c = '\x60' then ['\\', c] else [c]) ++ escapeMarks r := by
  unfold escapeMarks
  simp only [replace_single, List.flatMap_cons, List.flatMap_append]
  congr 1
  by_cases hbackslash : c = '\\'
  · subst hbackslash
    decide
  · by_cases hquote : c = '\x60'
    · subst hquote
      decide
    · rw [if_neg hbackslash, if_neg (not_or.2 ⟨hbackslash, hquote⟩), List.flatMap_singleton,
        if_neg hquote]

/-- An opening brace is where it was. -/
theorem head?_escapeMarks (r : List Char) :
    (escapeMarks r).head? = some '{' ↔ r.head? = some '{' := by
  cases r with
  | nil => exact Iff.rfl
  | cons c r =>
    rw [escapeMarks_cons]
    split
    · next h =>
      refine iff_of_false (by simp) ?_
      intro hbrace
      cases hbrace
      revert h
      decide
    · exact Iff.rfl

/-- **What the three steps make of one character.** -/
theorem escapeTemplate_cons (c : Char) (r : List Char) :
    escapeTemplate (c :: r) = templateChar c r ++ escapeTemplate r := by
  have hplain : ∀ {c : Char} {r : List Char}, ¬ (c = '$' ∧ r.head? = some '{') →
      replace ['$', '{'] ['\\', '$', '{'] (c :: r) =
        c :: replace ['$', '{'] ['\\', '$', '{'] r := by
    intro c r hnot
    apply replace_cons_of_not
    rintro ⟨rest, hrest⟩
    cases hrest
    exact hnot ⟨rfl, rfl⟩
  have hsteps : ∀ cs, escapeTemplate cs = replace ['$', '{'] ['\\', '$', '{'] (escapeMarks cs) :=
    fun _ => rfl
  rw [hsteps, hsteps, escapeMarks_cons]
  unfold templateChar
  by_cases hmark : c = '\\' ∨ c = '\x60'
  · have hescaped : IsEscaped c r := hmark.imp_right .inl
    have hdollar : c ≠ '$' := by
      rcases hmark with rfl | rfl <;> decide
    rw [if_pos hmark, if_pos hescaped, List.cons_append, List.cons_append, List.nil_append,
      hplain (by simp), hplain fun h => hdollar h.1]
    rfl
  · rw [if_neg hmark, List.singleton_append]
    by_cases hdollar : c = '$' ∧ r.head? = some '{'
    · -- the brace goes into the step with the dollar, and stays as it is
      obtain ⟨rfl, hbrace⟩ := hdollar
      obtain ⟨r, rfl⟩ := List.head?_eq_some_iff.1 hbrace
      have hescaped : IsEscaped '$' ('{' :: r) := .inr (.inr ⟨rfl, rfl⟩)
      have hboth : '$' :: escapeMarks ('{' :: r) = ['$', '{'] ++ escapeMarks r := by
        rw [escapeMarks_cons]
        rfl
      have hrest : escapeMarks ('{' :: r) = '{' :: escapeMarks r := by
        rw [escapeMarks_cons]
        rfl
      rw [if_pos hescaped, hboth, replace_append (List.cons_ne_nil _ _), hrest,
        hplain (by simp)]
      rfl
    · have hnot : ¬ IsEscaped c r := by
        rintro (h | h | h)
        · exact hmark (.inl h)
        · exact hmark (.inr h)
        · exact hdollar h
      rw [if_neg hnot, hplain fun h => hdollar ⟨h.1, (head?_escapeMarks r).1 h.2⟩]
      rfl

/-- A text of characters that are not escaped is kept. -/
theorem escapeTemplate_append (hname : name.all isNameChar = true) (r : List Char) :
    escapeTemplate (name ++ r) = name ++ escapeTemplate r := by
  induction name with
  | nil => rfl
  | cons c name ih =>
    rw [List.all_cons, Bool.and_eq_true] at hname
    have hnot : ¬ IsEscaped c (name ++ r) := by
      rintro (rfl | rfl | ⟨rfl, -⟩) <;> exact absurd hname.1 (by decide)
    rw [List.cons_append, escapeTemplate_cons, templateChar, if_neg hnot, ih hname.2,
      List.singleton_append, List.cons_append]

/-- An escaped text starts as the text does, or with a backslash. -/
theorem head?_escapeTemplate {P : Char → Bool} (hP : P '\\' = false) (h : r.head?.any P = false) :
    (escapeTemplate r).head?.any P = false := by
  cases r with
  | nil => rfl
  | cons c r =>
    rw [escapeTemplate_cons, templateChar]
    split
    · exact hP
    · exact h

/-! ## One pass -/

/-- The text of pieces inside a template literal: characters are escaped, and parameters are
substituted. -/
def templateText : List PathPiece → List Char
  | [] => []
  | .param name :: ps => interpolation name ++ templateText ps
  | .char c :: ps =>
    if c = '\\' || c = '\x60' then '\\' :: c :: templateText ps
    else if c = '$' && ps.head? = some (.char '{') then '\\' :: c :: templateText ps
    else c :: templateText ps

theorem templateText_char (c : Char) (r : List Char) :
    templateText (.char c :: PathPiece.splitFrom 0 r) =
      templateChar c r ++ templateText (PathPiece.splitFrom 0 r) := by
  have hbrace := head?_splitFrom (c := '{') (by decide) r
  rw [templateText]
  unfold templateChar IsEscaped
  simp only [hbrace, Bool.or_eq_true, Bool.and_eq_true, decide_eq_true_eq]
  by_cases hbackslash : c = '\\' <;> by_cases hquote : c = '\x60' <;>
    by_cases hdollar : c = '$' ∧ r.head? = some '{' <;> simp [hbackslash, hquote, hdollar]

/-- **The pieces of the escaped text are those of the path,** with the characters among them
escaped. -/
theorem substituted_escapeTemplate (cs : List Char) :
    (PathPiece.splitFrom 0 (escapeTemplate cs)).flatMap PathPiece.substituted =
      templateText (PathPiece.splitFrom 0 cs) := by
  induction cs using split_induction with
  | nil => rfl
  | param name after hname hafter hsplit ih =>
    have hchars : name.all isNameChar = true := (Bool.and_eq_true_iff.1 hname).2
    have hcolon : ¬ IsEscaped ':' (name ++ after) := by
      rintro (h | h | ⟨h, -⟩) <;> exact absurd h (by decide)
    have hescaped : escapeTemplate (':' :: (name ++ after)) =
        ':' :: (name ++ escapeTemplate after) := by
      rw [escapeTemplate_cons, templateChar, if_neg hcolon, escapeTemplate_append hchars]
      rfl
    rw [hescaped, splitFrom_param hname (head?_escapeTemplate (by decide) hafter), hsplit,
      List.flatMap_cons, ih]
    rfl
  | char c r hchar hsplit ih =>
    rw [hsplit, templateText_char, escapeTemplate_cons, ← ih]
    unfold templateChar
    split
    · next hescaped =>
      have hc : c ≠ ':' := by
        rintro rfl
        rcases hescaped with h | h | ⟨h, -⟩ <;> exact absurd h (by decide)
      rw [List.cons_append, List.singleton_append, splitFrom_char (.inl (by decide)),
        splitFrom_char (.inl hc)]
      rfl
    · rw [List.singleton_append, splitFrom_char (hchar.imp_right (head?_escapeTemplate (by decide)))]
      rfl

/-! ## The expression of a path -/

theorem any_param_iff : ((PathPiece.split path).any fun p => p.name?.isSome) = true ↔
    pathParams path ≠ [] := by
  unfold pathParams
  rw [List.any_eq_true, ne_eq, List.filterMap_eq_nil_iff]
  simp [Option.isSome_iff_ne_none]

/-- Without parameters, the expression is a literal in single quotes. -/
theorem pathExpression_quoted (h : pathParams path = []) :
    pathExpression path = stringLiteral path := by
  unfold pathExpression
  exact if_neg fun hany => any_param_iff.1 hany h

/-- **With parameters, it is a template literal of the pieces of the path.** -/
theorem pathExpression_template (h : pathParams path ≠ []) : pathExpression path =
    String.ofList ('\x60' :: templateText (PathPiece.split path) ++ ['\x60']) := by
  unfold pathExpression
  rw [if_pos (any_param_iff.2 h)]
  dsimp only
  rw [substituted_escapeTemplate]
  rfl

end SdkGen.TypeScript
