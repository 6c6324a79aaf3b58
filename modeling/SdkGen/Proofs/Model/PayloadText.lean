import SdkGen.Model.Payload
import SdkGen.Proofs.Text.Blank
import SdkGen.Proofs.Text.Occurrence

/-!
# The text of a payload

A payload that was read from a text has that text, without the blanks around it, and is read from
it again. So nothing is lost of a configured type but blanks, and the text alone tells the type
that a payload refers to.

* `PayloadType.ReadAs`, `parse_eq_iff`: what a text is read as, case by case.
* `PayloadType.Configures`, `text_parse_eq_iff`: the type that a text stands for is the text of the
  payload.
* `parse_text_parse`: a payload is read from its own text again.
* `PayloadType.Unbracketed`, `ReadAs.importName_eq_none_iff`, `ReadAs.importName_eq_some_iff`:
  what a payload refers to, by its text.
-/

namespace SdkGen.PayloadType

open Blank (Tight IsCore)

/-- What a text without blanks around it is read as. A name is none of the words, and has no brackets
at its end. -/
inductive ReadAs : String → PayloadType → Prop
  | void : ReadAs "void" void
  | any : ReadAs "any" any
  | nothing : ReadAs "" any
  | arrayOf (element : String) : ReadAs (element ++ "[]") (arrayOf element)
  | named {name : String} (hempty : name ≠ "") (hvoid : name ≠ "void") (hany : name ≠ "any")
      (hbrackets : ∀ element, name ≠ element ++ "[]") : ReadAs name (named name)

/-- A configured text stands for a type: for what is left without the blanks around it, or for `any`
where nothing is left. -/
def Configures (s type : String) : Prop :=
  ∃ core, IsCore s core ∧ type = if core = "" then "any" else core

/-- A type without the brackets at its end: without one pair of them if there are more, and as it is
if there are none. -/
def Unbracketed (type element : String) : Prop :=
  type = element ++ "[]" ∨ type = element ∧ ∀ e, type ≠ e ++ "[]"

variable {p : PayloadType} {s t type n : String}

/-! ## Brackets -/

/-- What stands before the brackets at the end of a text. -/
theorem dropBrackets_eq_some {element : List Char} :
    Occurrence.dropSuffix ['[', ']'] t.toList = some element ↔
      t = String.ofList element ++ "[]" := by
  rw [Occurrence.dropSuffix_eq_some, ← String.toList_inj, String.toList_append,
    String.toList_ofList]
  rfl

theorem dropBrackets_eq_none :
    Occurrence.dropSuffix ['[', ']'] t.toList = none ↔ ∀ element, t ≠ element ++ "[]" := by
  rw [Option.eq_none_iff_forall_ne_some]
  constructor
  · rintro hnone element rfl
    apply hnone element.toList
    rw [dropBrackets_eq_some, String.ofList_toList]
  · intro hnot element hsome
    exact hnot _ (dropBrackets_eq_some.1 hsome)

/-- No type with brackets at its end is a word. -/
theorem array_ne_word (element : String) :
    element ++ "[]" ≠ "" ∧ element ++ "[]" ≠ "void" ∧ element ++ "[]" ≠ "any" := by
  have hword : ∀ word ∈ ["", "void", "any"],
      Occurrence.dropSuffix ['[', ']'] word.toList = none := by decide
  have hne : ∀ word ∈ ["", "void", "any"], element ++ "[]" ≠ word := fun word hmem =>
    (dropBrackets_eq_none.1 (hword word hmem) element).symm
  simpa using hne

/-! ## Reading -/

theorem readAs_parse (s : String) : ReadAs (Blank.trim s) (parse s) := by
  unfold parse
  generalize Blank.trim s = t
  dsimp only
  split
  next hvoid =>
    rw [hvoid]
    exact .void
  next hvoid =>
    split
    next hany =>
      rw [Bool.or_eq_true, decide_eq_true_eq, decide_eq_true_eq] at hany
      rcases hany with rfl | rfl
      · exact .any
      · exact .nothing
    next hany =>
      rw [Bool.or_eq_true, decide_eq_true_eq, decide_eq_true_eq, not_or] at hany
      obtain ⟨hany, hempty⟩ := hany
      split
      next element hsome =>
        rw [dropBrackets_eq_some.1 hsome]
        exact .arrayOf _
      next hnone => exact .named hempty hvoid hany (dropBrackets_eq_none.1 hnone)

/-- **What a text is read as** is told by the text without the blanks around it. -/
theorem parse_eq_iff : parse s = p ↔ ReadAs (Blank.trim s) p := by
  constructor
  · rintro rfl
    exact readAs_parse s
  · intro hread
    -- in each case the tests before the one that applies fail
    unfold parse
    generalize Blank.trim s = t at hread ⊢
    cases hread with
    | void | any | nothing => rfl
    | arrayOf element =>
      obtain ⟨hempty, hvoid, hany⟩ := array_ne_word element
      have hbrackets : Occurrence.dropSuffix ['[', ']'] (element ++ "[]").toList =
          some element.toList := by
        rw [dropBrackets_eq_some, String.ofList_toList]
      dsimp only
      rw [if_neg hvoid, if_neg (by simp [hany, hempty]), hbrackets]
      dsimp only
      rw [String.ofList_toList]
    | named hempty hvoid hany hbrackets =>
      dsimp only
      rw [if_neg hvoid, if_neg (by simp [hany, hempty]), dropBrackets_eq_none.2 hbrackets]

/-- The text of a payload is what it was read from, or `any` where this is nothing. -/
theorem ReadAs.text_eq (h : ReadAs t p) : p.text = if t = "" then "any" else t := by
  cases h with
  | void | any | nothing => rfl
  | arrayOf element => exact (if_neg (array_ne_word element).1).symm
  | named hempty _ _ _ => exact (if_neg hempty).symm

/-- A payload is read from its own text. -/
theorem ReadAs.again (h : ReadAs t p) : ReadAs p.text p := by
  cases h with
  | void => exact .void
  | any | nothing => exact .any
  | arrayOf element => exact .arrayOf element
  | named hempty hvoid hany hbrackets => exact .named hempty hvoid hany hbrackets

/-- **The text of the payload is the type that its text stands for,** and there is no other one. -/
theorem text_parse_eq_iff : (parse s).text = type ↔ Configures s type := by
  rw [(readAs_parse s).text_eq]
  constructor
  · rintro rfl
    exact ⟨_, Blank.isCore_trim s, rfl⟩
  · rintro ⟨core, hcore, rfl⟩
    rw [Blank.trim_eq_iff.2 hcore]

theorem trim_text_parse (s : String) : Blank.trim (parse s).text = (parse s).text := by
  rw [(readAs_parse s).text_eq]
  split
  · rfl
  · exact Blank.trim_eq_iff.2 (Blank.isCore_trim s).tight.isCore

/-- **A payload is read from its own text again.** -/
theorem parse_text_parse (s : String) : parse (parse s).text = parse s := by
  rw [parse_eq_iff, trim_text_parse]
  exact (readAs_parse s).again

/-! ## References -/

/-- Nothing but `void` has this text. -/
theorem ReadAs.eq_void_iff (h : ReadAs t p) : p = .void ↔ p.text = "void" := by
  cases h with
  | void => exact iff_of_true rfl rfl
  | any | nothing => exact iff_of_false nofun (by decide)
  | arrayOf element => exact iff_of_false nofun (array_ne_word element).2.1
  | named _ hvoid _ _ => exact iff_of_false nofun hvoid

/-- **A payload refers to nothing if and only if its text is one of the two words.** -/
theorem ReadAs.importName_eq_none_iff (h : ReadAs t p) :
    p.importName = none ↔ p.text = "void" ∨ p.text = "any" := by
  cases h with
  | void => exact iff_of_true rfl (.inl rfl)
  | any | nothing => exact iff_of_true rfl (.inr rfl)
  | arrayOf element => exact iff_of_false nofun (not_or.2 (array_ne_word element).2)
  | named _ hvoid hany _ => exact iff_of_false nofun (not_or.2 ⟨hvoid, hany⟩)

/-- **A payload of any other text refers to this text without the brackets at its end.** -/
theorem ReadAs.importName_eq_some_iff (h : ReadAs t p) : p.importName = some n ↔
    (p.text ≠ "void" ∧ p.text ≠ "any") ∧ Unbracketed p.text n := by
  have hsome : p.text ≠ "void" ∧ p.text ≠ "any" ↔ p.importName ≠ none := by
    rw [ne_eq, ne_eq, ← not_or, ne_eq, h.importName_eq_none_iff]
  rw [hsome]
  -- brackets at the end are those of an array, and a name has none
  cases h with
  | void | any | nothing => exact iff_of_false nofun fun hboth => hboth.1 rfl
  | arrayOf element =>
    constructor
    · intro hn
      cases hn
      exact ⟨nofun, .inl rfl⟩
    · rintro ⟨-, heq | ⟨-, hnot⟩⟩
      · exact congrArg some ((String.append_left_inj _).1 heq)
      · exact absurd rfl (hnot element)
  | named _ _ _ hbrackets =>
    constructor
    · intro hn
      cases hn
      exact ⟨nofun, .inr ⟨rfl, hbrackets⟩⟩
    · rintro ⟨-, heq | ⟨heq, -⟩⟩
      · exact absurd heq (hbrackets n)
      · exact congrArg some heq

end SdkGen.PayloadType
