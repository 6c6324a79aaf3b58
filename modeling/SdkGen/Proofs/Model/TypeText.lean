import SdkGen.Proofs.Go.Lexeme
import SdkGen.Proofs.Text.Keyed
import SdkGen.TypeScript.TypeTable

/-!
# The text of a type

The text of a type tells its shape, as long as its names are identifiers: the marks in front can be
taken off one by one, and a dot parts a package from a name. Only a type of the name `any` and a type
that is not told apart have one text.

* `TypeExpr.Named`: the names in a type are identifiers.
* `TypeExpr.merged`: the type with `any` for each name `any` in it.
* `TypeExpr.ofChars`: reads a text, with `ofChars_text`.
* `text_eq_iff`: which types have one text, and what an entry of a type table applies to.
-/

namespace SdkGen.TypeExpr

open Go (IsWord)
open TypeScript (TypeTable)

/-- The names and packages in a type are identifiers. -/
def Named : TypeExpr → Prop
  | named name => IsWord name.toList
  | pointer target => target.Named
  | array element => element.Named
  | qualified package name => IsWord package.toList ∧ IsWord name.toList
  | unsupported => True

instance decidableNamed : (t : TypeExpr) → Decidable t.Named
  | named name => inferInstanceAs (Decidable (IsWord name.toList))
  | pointer target => decidableNamed target
  | array element => decidableNamed element
  | qualified package name =>
    inferInstanceAs (Decidable (IsWord package.toList ∧ IsWord name.toList))
  | unsupported => .isTrue trivial

/-- The type with each name `any` in it taken for a type that is not told apart. -/
def merged : TypeExpr → TypeExpr
  | named name => if name = "any" then unsupported else named name
  | pointer target => pointer target.merged
  | array element => array element.merged
  | qualified package name => qualified package name
  | unsupported => unsupported

/-- Reads a name, behind a package if there is a dot. -/
def ofName (cs : List Char) : TypeExpr :=
  match cs.dropWhile (· ≠ '.') with
  | _ :: name => qualified (String.ofList (cs.takeWhile (· ≠ '.'))) (String.ofList name)
  | [] => (named (String.ofList cs)).merged

/-- Reads the text of a type. -/
def ofChars : List Char → TypeExpr
  | '*' :: target => pointer (ofChars target)
  | '[' :: ']' :: element => array (ofChars element)
  | cs => ofName cs

variable {t u : TypeExpr} {cs : List Char} {c : Char}

/-- The characters that no word has. -/
def marks : List Char := ['*', '[', ']', '.', '\n']

theorem not_word_marks : ∀ c ∈ marks, Go.isWordStart c = false ∧
    Identifier.isContinue c = false := by
  intro c hc
  simp only [marks, List.mem_cons, List.not_mem_nil, or_false] at hc
  rcases hc with rfl | rfl | rfl | rfl | rfl <;> decide

theorem not_mem_word (hcs : IsWord cs) (hc : c ∈ marks) : c ∉ cs := by
  obtain ⟨hstart, htail⟩ := hcs
  obtain ⟨hnot, hnot'⟩ := not_word_marks c hc
  cases cs with
  | nil => cases hstart
  | cons d r =>
    intro hmem
    rcases List.mem_cons.1 hmem with rfl | hmem
    · exact Bool.false_ne_true (hnot.symm.trans hstart)
    · exact Bool.false_ne_true (hnot'.symm.trans (htail c hmem))

/-- A text that starts with a word is that of a name. -/
theorem ofChars_word (hcs : IsWord cs) (r : List Char) : ofChars (cs ++ r) = ofName (cs ++ r) := by
  have hhead : ∀ c ∈ marks, ∀ s, cs ++ r ≠ c :: s := by
    intro c hc s heq
    cases cs with
    | nil => cases hcs.start
    | cons d w =>
      obtain rfl : d = c := (List.cons.inj heq).1
      exact not_mem_word hcs hc List.mem_cons_self
  rw [ofChars.eq_def]
  split
  · next s heq => exact absurd heq (hhead _ (by decide) _)
  · next s heq => exact absurd heq (hhead _ (by decide) _)
  · rfl

/-- **The text of a type is read as the type**, up to the name `any`. -/
theorem ofChars_text (ht : t.Named) : ofChars t.text.toList = t.merged := by
  have hdot : ∀ {cs : List Char}, IsWord cs → ∀ c ∈ cs, (decide (c ≠ '.')) = true := by
    intro cs hcs c hc
    have hne : c ≠ '.' := fun h => not_mem_word hcs (c := '.') (by decide) (h ▸ hc)
    simpa using hne
  -- a mark in front is none of a word, so a text shows what it starts with
  induction t with
  | named name =>
    have hname : IsWord name.toList := ht
    have hread := ofChars_word hname []
    rw [List.append_nil] at hread
    rw [text, hread, ofName, List.dropWhile_eq_nil_iff.2 (hdot hname)]
    dsimp only
    rw [String.ofList_toList]
  | pointer target ih =>
    have htext : (pointer target).text.toList = '*' :: target.text.toList := by simp [text]
    rw [htext, ofChars, ih ht, merged]
  | array element ih =>
    have htext : (array element).text.toList = '[' :: ']' :: element.text.toList := by simp [text]
    rw [htext, ofChars, ih ht, merged]
  | qualified package name =>
    obtain ⟨hpackage, -⟩ := ht
    have htext : (qualified package name).text.toList = package.toList ++ '.' :: name.toList := by
      simp [text]
    rw [htext, ofChars_word hpackage, ofName, List.dropWhile_append_of_pos (hdot hpackage),
      List.takeWhile_append_of_pos (hdot hpackage)]
    simp [merged]
  | unsupported => rfl

theorem text_merged (t : TypeExpr) : t.merged.text = t.text := by
  induction t with
  | named name =>
    rw [merged]
    split
    · next h => rw [h]; rfl
    · rfl
  | pointer target ih => rw [merged, text, ih, text]
  | array element ih => rw [merged, text, ih, text]
  | qualified package name => rfl
  | unsupported => rfl

/-- A type is none that it is the target or the element of. -/
theorem merged_ne (t : TypeExpr) : t.merged ≠ (pointer t).merged ∧
    t.merged ≠ (array t).merged := by
  constructor <;>
  · intro h
    have hsize := congrArg sizeOf h
    simp [merged] at hsize

theorem merged_eq_of_text (ht : t.Named) (hu : u.Named) (h : t.text = u.text) :
    t.merged = u.merged := by
  rw [← ofChars_text ht, ← ofChars_text hu, h]

/-- **Two types have one text if and only if they are equal up to the name `any`.** Hence an entry
under the text of a type applies to the types that are equal to it in this sense and to no others:
not to a pointer to it, an array of it, or a type of its name in a package. -/
theorem text_eq_iff (ht : t.Named) (hu : u.Named) :
    (t.text = u.text ↔ t.merged = u.merged) ∧
      ∀ (table : TypeTable) (s : String),
        (table.set t.text s).lookup u.text =
            (if t.merged = u.merged then some s else table.lookup u.text) ∧
          (table.set t.text s).lookup (pointer t).text = table.lookup (pointer t).text ∧
          (table.set t.text s).lookup (array t).text = table.lookup (array t).text ∧
          ∀ package name, t = named name → IsWord package.toList →
            (table.set t.text s).lookup (qualified package name).text =
              table.lookup (qualified package name).text := by
  have hiff : ∀ {u : TypeExpr}, u.Named → (t.text = u.text ↔ t.merged = u.merged) := by
    intro u hu
    refine ⟨merged_eq_of_text ht hu, fun h => ?_⟩
    rw [← text_merged t, h, text_merged]
  have hentry : ∀ (table : TypeTable) (s : String) {u : TypeExpr}, u.Named →
      (table.set t.text s).lookup u.text =
        if t.merged = u.merged then some s else table.lookup u.text := by
    intro table s u hu
    rw [← if_congr (hiff hu) rfl rfl]
    exact Keyed.lookup_insert t.text u.text s table.entries
  have hpointer : (pointer t).Named := ht
  have harray : (array t).Named := ht
  refine ⟨hiff hu, fun table s => ⟨hentry table s hu, ?_, ?_, ?_⟩⟩
  · rw [hentry table s hpointer, if_neg (merged_ne t).1]
  · rw [hentry table s harray, if_neg (merged_ne t).2]
  · rintro package name rfl hpackage
    have hqualified : (qualified package name).Named := ⟨hpackage, ht⟩
    have hne : (named name).merged ≠ (qualified package name).merged := by
      rw [merged]
      split <;> simp [merged]
    rw [hentry table s hqualified, if_neg hne]

/-- A slice of pointers to a name `any` has the text of a slice of pointers to a type that is not told
apart, so that an entry for the one applies to the other. -/
theorem text_eq_any : (array (pointer (named "any"))).text = (array (pointer unsupported)).text ∧
    (TypeTable.builtin.set "[]*any" "unknown[]").lookup (array (pointer unsupported)).text =
      some "unknown[]" ∧
    (TypeTable.builtin.set "[]*any" "unknown[]").lookup (array (array (pointer (named "any")))).text =
      TypeTable.builtin.lookup (array (array (pointer (named "any")))).text := by
  obtain ⟨hiff, hentry⟩ := text_eq_iff (t := array (pointer (named "any")))
    (u := array (pointer unsupported)) (by decide) (by decide)
  obtain ⟨happlies, -, harray, -⟩ := hentry TypeTable.builtin "unknown[]"
  exact ⟨hiff.2 rfl, happlies, harray⟩

end SdkGen.TypeExpr
