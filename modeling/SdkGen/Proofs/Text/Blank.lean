import Mathlib.Data.List.DropRight
import SdkGen.Text.Blank

/-!
# Texts without the blanks around them

Every text is a core with blanks before and behind it, and there is one such core only.

* `Blank.Tight`: a text that neither starts nor ends with a blank.
* `Blank.IsCore`: a text without the blanks around another one.
* `trimEndChars_append_cons`: blanks are taken off up to a character that shows.
* `trim_eq_iff`: trimming gives the core.
-/

namespace SdkGen.Blank

/-- A text neither starts nor ends with a blank. -/
structure Tight (s : String) : Prop where
  start : ∀ c ∈ s.toList.head?, isBlank c = false
  stop : ∀ c ∈ s.toList.getLast?, isBlank c = false

/-- A text is another one without the blanks around it. -/
structure IsCore (s core : String) : Prop where
  around : ∃ before after, s = before ++ core ++ after ∧
    (∀ c ∈ before.toList, isBlank c = true) ∧ ∀ c ∈ after.toList, isBlank c = true
  tight : Tight core

variable {s core : String} {cs before after : List Char}

/-! ## Blanks at the end -/

/-- Blanks are taken off up to a character that shows. -/
theorem trimEndChars_append_cons {c : Char} (hc : isBlank c = false) (cs r : List Char) :
    trimEndChars (cs ++ c :: r) = cs ++ c :: trimEndChars r := by
  change (cs ++ c :: r).rdropWhile isBlank = cs ++ c :: r.rdropWhile isBlank
  -- blanks go one by one from the end, and the character stops them
  induction r using List.reverseRecOn with
  | nil => rw [List.rdropWhile_concat_neg _ _ _ (by rw [hc]; exact Bool.false_ne_true),
      List.rdropWhile_nil]
  | append_singleton r d ih =>
    rw [← List.cons_append, ← List.append_assoc, List.rdropWhile_concat, List.rdropWhile_concat]
    split
    · exact ih
    · rw [← List.cons_append, List.append_assoc]

/-- Behind a text that does not end with a blank, all blanks go. -/
theorem trimEndChars_append (hstop : ∀ c ∈ cs.getLast?, isBlank c = false)
    (hafter : ∀ c ∈ after, isBlank c = true) : trimEndChars (cs ++ after) = cs := by
  have hnone : trimEndChars after = [] := List.rdropWhile_eq_nil_iff.2 hafter
  rcases List.eq_nil_or_concat' cs with rfl | ⟨front, d, rfl⟩
  · exact hnone
  · have hd : isBlank d = false := hstop d List.getLast?_concat
    rw [List.append_assoc, List.singleton_append, trimEndChars_append_cons hd, hnone]

/-! ## Blanks at both ends -/

/-- The text with the blanks that are taken off it. -/
theorem trimChars_around (cs : List Char) : ∃ before after, cs = before ++ trimChars cs ++ after ∧
    (∀ c ∈ before, isBlank c = true) ∧ ∀ c ∈ after, isBlank c = true := by
  refine ⟨cs.takeWhile isBlank, (cs.dropWhile isBlank).rtakeWhile isBlank, ?_,
    fun c => List.mem_takeWhile_imp, fun c => List.mem_rtakeWhile_imp⟩
  -- the front goes first, so the blanks at the end are those of what is left
  change cs = _ ++ (cs.dropWhile isBlank).rdropWhile isBlank ++ _
  rw [List.append_assoc, List.rdropWhile_append_rtakeWhile, List.takeWhile_append_dropWhile]

theorem trimChars_start (cs : List Char) : ∀ c ∈ (trimChars cs).head?, isBlank c = false := by
  intro c hc
  -- taking off the end leaves the start as it is
  obtain ⟨rest, hrest⟩ : trimChars cs <+: cs.dropWhile isBlank := List.rdropWhile_prefix _ _
  have hhead : (cs.dropWhile isBlank).head? = some c := by
    rw [← hrest]
    exact List.mem_head?_append_of_mem_head? hc
  have hnot := List.head?_dropWhile_not isBlank cs
  rw [hhead] at hnot
  exact hnot

theorem trimChars_stop (cs : List Char) : ∀ c ∈ (trimChars cs).getLast?, isBlank c = false := by
  intro c hc
  have hne : trimChars cs ≠ [] := by
    rintro hnil
    rw [hnil] at hc
    cases hc
  have hlast : (trimChars cs).getLast hne = c :=
    Option.some.inj ((List.getLast?_eq_some_getLast hne).symm.trans hc)
  have hnot : ¬ isBlank ((trimChars cs).getLast hne) = true := List.rdropWhile_last_not _ _ hne
  rw [hlast] at hnot
  exact Bool.eq_false_iff.2 hnot

/-- A text that neither starts nor ends with a blank is left by its surroundings. -/
theorem trimChars_append (hbefore : ∀ c ∈ before, isBlank c = true)
    (hafter : ∀ c ∈ after, isBlank c = true) (hstart : ∀ c ∈ cs.head?, isBlank c = false)
    (hstop : ∀ c ∈ cs.getLast?, isBlank c = false) : trimChars (before ++ cs ++ after) = cs := by
  unfold trimChars
  rw [List.append_assoc, List.dropWhile_append_of_pos hbefore]
  cases cs with
  | nil =>
    -- there are blanks only, which all go from the front
    rw [List.nil_append, List.dropWhile_eq_nil_iff.2 hafter]
    rfl
  | cons c r =>
    have hc : isBlank c = false := hstart c rfl
    rw [List.cons_append, List.dropWhile_cons_of_neg (by rw [hc]; exact Bool.false_ne_true),
      ← List.cons_append, trimEndChars_append hstop hafter]

/-! ## Cores -/

theorem isCore_trim (s : String) : IsCore s (trim s) := by
  have htrim : (trim s).toList = trimChars s.toList := String.toList_ofList
  obtain ⟨before, after, hs, hbefore, hafter⟩ := trimChars_around s.toList
  refine ⟨⟨String.ofList before, String.ofList after, ?_, ?_, ?_⟩, ?_, ?_⟩
  · apply String.toList_inj.1
    rw [String.toList_append, String.toList_append, String.toList_ofList, String.toList_ofList,
      htrim]
    exact hs
  · rw [String.toList_ofList]
    exact hbefore
  · rw [String.toList_ofList]
    exact hafter
  · rw [htrim]
    exact trimChars_start _
  · rw [htrim]
    exact trimChars_stop _

/-- **Trimming gives the core of a text**, and a text has no other one. -/
theorem trim_eq_iff : trim s = core ↔ IsCore s core := by
  constructor
  · rintro rfl
    exact isCore_trim s
  · rintro ⟨⟨before, after, rfl, hbefore, hafter⟩, hstart, hstop⟩
    apply String.toList_inj.1
    rw [trim, String.toList_ofList, String.toList_append, String.toList_append]
    exact trimChars_append hbefore hafter hstart hstop

/-- A text that neither starts nor ends with a blank is its own core. -/
theorem Tight.isCore (h : Tight s) : IsCore s s := by
  refine ⟨⟨"", "", ?_, nofun, nofun⟩, h⟩
  rw [String.empty_append, String.append_empty]

end SdkGen.Blank
