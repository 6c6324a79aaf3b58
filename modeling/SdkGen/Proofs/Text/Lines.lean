import Mathlib.Data.List.ModifyLast
import SdkGen.Proofs.Text.Blank

/-!
# Lines

A text that is made of rows, each with a line feed behind it, is split at its line feeds into these
rows, if none of them has a line feed in it.

* `Lines.split`: a text split at its line feeds; `Lines.shown`: its lines, of which the empty text
  has none.
* `Lines.ended`: some rows, each with a line feed behind it.
* `split_ended_append`: a text that starts with such rows.
* `split_ended_iff`: such rows are the lines of their text if and only if none has a line feed.
* `shown_trimEnd_ended`: of the lines of such a text without the blanks at its end.
-/

namespace SdkGen.Lines

/-- A text split at its line feeds; behind the last one there may be nothing. -/
def split (s : String) : List String := (s.toList.splitOn '\n').map String.ofList

/-- The lines of a text; the empty text has none. -/
def shown (s : String) : List String := if s = "" then [] else split s

/-- Some rows, each with a line feed behind it. -/
def ended (rows : List String) : String := String.join (rows.map (· ++ "\n"))

variable {row s : String} {rows : List String}

theorem ended_cons (row : String) (rows : List String) :
    ended (row :: rows) = row ++ "\n" ++ ended rows := by
  apply String.toList_inj.1
  simp [ended]

theorem ended_append (rows rows' : List String) :
    ended (rows ++ rows') = ended rows ++ ended rows' := by
  apply String.toList_inj.1
  simp [ended]

/-- A text without line feeds is not split. -/
theorem split_eq_singleton (h : '\n' ∉ s.toList) : split s = [s] := by
  rw [split, List.splitOn_eq_singleton h, List.map_singleton, String.ofList_toList]

theorem split_ne_nil (s : String) : split s ≠ [] := by
  rw [split, ne_eq, List.map_eq_nil_iff]
  exact List.splitOn_ne_nil _ _

/-- What stands before a line feed and what stands behind it are split for themselves. -/
theorem split_append (row s : String) : split (row ++ "\n" ++ s) = split row ++ split s := by
  have hfeed : (row ++ "\n" ++ s).toList = row.toList ++ '\n' :: s.toList := by simp
  rw [split, hfeed, List.splitOn_append_cons_self, List.map_append]
  rfl

/-- A text is split if and only if it has a line feed. -/
theorem split_length_one_iff : (split s).length = 1 ↔ '\n' ∉ s.toList := by
  constructor
  · intro hlength hmem
    obtain ⟨before, after, heq⟩ := List.append_of_mem hmem
    have htext : s = String.ofList before ++ "\n" ++ String.ofList after := by
      apply String.toList_inj.1
      simp [heq]
    rw [htext, split_append, List.length_append] at hlength
    have hbefore := List.length_pos_iff.2 (split_ne_nil (String.ofList before))
    have hafter := List.length_pos_iff.2 (split_ne_nil (String.ofList after))
    omega
  · intro h
    rw [split_eq_singleton h]
    rfl

/-- **A text that starts with rows is split row by row.** -/
theorem split_ended_append (rows : List String) (s : String) :
    split (ended rows ++ s) = rows.flatMap split ++ split s := by
  induction rows with
  | nil => rw [show ended [] = "" from rfl, String.empty_append, List.flatMap_nil, List.nil_append]
  | cons row rows ih =>
    rw [ended_cons, String.append_assoc, split_append, ih, List.flatMap_cons, List.append_assoc]

theorem split_ended (rows : List String) : split (ended rows) = rows.flatMap split ++ [""] := by
  have hsplit := split_ended_append rows ""
  rw [String.append_empty] at hsplit
  exact hsplit

/-- There are at least as many lines as rows. -/
theorem length_le_flatMap_split (rows : List String) : rows.length ≤ (rows.flatMap split).length := by
  induction rows with
  | nil => exact Nat.le_refl _
  | cons row rows ih =>
    have hpos := List.length_pos_iff.2 (split_ne_nil row)
    rw [List.flatMap_cons, List.length_append, List.length_cons]
    omega

theorem flatMap_split_eq_iff : rows.flatMap split = rows ↔ ∀ row ∈ rows, '\n' ∉ row.toList := by
  induction rows with
  | nil => exact ⟨fun _ => nofun, fun _ => rfl⟩
  | cons row rows ih =>
    rw [List.forall_mem_cons, ← ih, List.flatMap_cons]
    constructor
    · intro h
      -- the first row gives one line, since the others give one each at least
      have hlength := congrArg List.length h
      have hle := length_le_flatMap_split rows
      have hpos := List.length_pos_iff.2 (split_ne_nil row)
      rw [List.length_append, List.length_cons] at hlength
      have hrow : '\n' ∉ row.toList := split_length_one_iff.1 (by omega)
      rw [split_eq_singleton hrow, List.singleton_append] at h
      exact ⟨hrow, (List.cons.inj h).2⟩
    · rintro ⟨hrow, hrows⟩
      rw [split_eq_singleton hrow, hrows, List.singleton_append]

/-- **Rows are the lines of their text** if and only if none of them has a line feed. -/
theorem split_ended_iff :
    split (ended rows) = rows ++ [""] ↔ ∀ row ∈ rows, '\n' ∉ row.toList := by
  rw [split_ended, List.append_left_inj, flatMap_split_eq_iff]

/-! ## Blanks at the end -/

/-- Some character of the text shows. -/
def Shows (s : String) : Prop := ∃ c ∈ s.toList, Blank.isBlank c = false

theorem trimEnd_append (s : String) (h : Shows row) :
    Blank.trimEnd (s ++ row) = s ++ Blank.trimEnd row := by
  obtain ⟨c, hmem, hc⟩ := h
  obtain ⟨before, after, heq⟩ := List.append_of_mem hmem
  apply String.toList_inj.1
  rw [Blank.trimEnd, Blank.trimEnd, String.toList_append, heq, ← List.append_assoc,
    Blank.trimEndChars_append_cons hc, Blank.trimEndChars_append_cons hc]
  simp

theorem trimEnd_feed (s : String) : Blank.trimEnd (s ++ "\n") = Blank.trimEnd s := by
  have hfeed : (s ++ "\n").toList = s.toList ++ ['\n'] := by simp
  rw [Blank.trimEnd, hfeed, Blank.trimEnd]
  exact congrArg String.ofList (List.rdropWhile_concat_pos _ _ _ (by decide))

theorem start_of_trimEnd (s : String) : (Blank.trimEnd s).toList <+: s.toList := by
  rw [Blank.trimEnd, String.toList_ofList]
  exact List.rdropWhile_prefix _ _

theorem trimEnd_ne_empty (h : Shows row) : Blank.trimEnd row ≠ "" := by
  obtain ⟨c, hmem, hc⟩ := h
  intro hempty
  rw [Blank.trimEnd, String.ofList_eq_empty_iff] at hempty
  have hblank := List.rdropWhile_eq_nil_iff.1 hempty c hmem
  rw [hc] at hblank
  cases hblank

/-- **Only the last line loses the blanks at its end**, if each row is one line and has something to
show. -/
theorem shown_trimEnd_ended (hlines : ∀ row ∈ rows, '\n' ∉ row.toList)
    (hshows : ∀ row ∈ rows, Shows row) :
    shown (Blank.trimEnd (ended rows)) = rows.modifyLast Blank.trimEnd := by
  rcases List.eq_nil_or_concat' rows with rfl | ⟨rows, row, rfl⟩
  · rfl
  · obtain ⟨hfront, hrow⟩ := List.forall_mem_append.1 hlines
    have hshow : Shows row := hshows row (List.mem_append_right _ List.mem_cons_self)
    have hlast : '\n' ∉ (Blank.trimEnd row).toList :=
      fun hmem => hrow row List.mem_cons_self ((start_of_trimEnd row).subset hmem)
    have htext : Blank.trimEnd (ended (rows ++ [row])) = ended rows ++ Blank.trimEnd row := by
      rw [ended_append, ended_cons, show ended [] = "" from rfl, String.append_empty,
        ← String.append_assoc, trimEnd_feed, trimEnd_append _ hshow]
    have hne : ended rows ++ Blank.trimEnd row ≠ "" :=
      fun hempty => trimEnd_ne_empty hshow (String.append_eq_empty_iff.1 hempty).2
    rw [htext, shown, if_neg hne, split_ended_append, flatMap_split_eq_iff.2 hfront,
      split_eq_singleton hlast, List.modifyLast_concat]

end SdkGen.Lines
