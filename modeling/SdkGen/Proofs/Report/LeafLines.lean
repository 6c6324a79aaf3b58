import Mathlib.Data.List.Forall2
import SdkGen.Proofs.Json.Places
import SdkGen.Proofs.Report.Flat
import SdkGen.Report.OutputFormat

/-!
# The lines of leaves

Flat text has a line for each scalar of a value, in document order, and no other lines. Each line
starts with the place of its scalar, and different places are written differently.

* `placeText`, `leafRow`: a place with dots between its steps, and the row of a scalar there.
* `entries_eq`: what the lines of a value say is what its scalars are, one by one.
* `lines_eq_ended`: the lines are the rows of the scalars.
* `lines_of_leaves`: the lines of a text report.
-/

namespace SdkGen.Report

open Json (Before Leaf Place Step Value isScalar itemScalars memberScalars partAt? scalars)

/-- A step as it stands in a path. -/
def stepText : Step → String
  | .key k => k
  | .index i => toString i

/-- The path of a place. -/
def placeText (p : Place) : String := dotted (p.map stepText)

/-- The row of a scalar at a place. -/
def leafRow (l : Leaf) : String := placeText l.1 ++ " = " ++ scalarText l.2

/-- What the line of a scalar says. -/
def said (l : Leaf) : Entry := (l.1.map stepText, scalarText l.2)

variable {v : Value} {l m : Leaf} {p q : Place}

theorem under_said (step : Step) (ls : List Leaf) :
    under (stepText step) (ls.map said) = (Leaf.behind step ls).map said := by
  rw [under, Leaf.behind, List.map_map, List.map_map]
  rfl

mutual

/-- **The lines of a value say what its scalars are**, one by one. -/
theorem entries_eq (v : Value) : entries v = (scalars v).map said := by
  cases v with
  | array items => exact itemEntries_eq 0 items
  | object members => exact memberEntries_eq members
  | null => rfl
  | bool b => rfl
  | number n => rfl
  | string s => rfl

theorem itemEntries_eq (i : Nat) (vs : List Value) :
    itemEntries i vs = (itemScalars i vs).map said := by
  cases vs with
  | nil => rfl
  | cons v vs =>
    rw [itemEntries, itemScalars, List.map_append, ← under_said, ← entries_eq, itemEntries_eq]
    rfl

theorem memberEntries_eq (ms : List (String × Value)) :
    memberEntries ms = (memberScalars ms).map said := by
  match ms with
  | [] => rfl
  | (k, v) :: ms =>
    rw [memberEntries, memberScalars, List.map_append, ← under_said, ← entries_eq,
      memberEntries_eq]
    rfl

end

/-! ## Rows -/

theorem toList_leafRow (l : Leaf) : (leafRow l).toList = entryLine (said l) := by
  simp [leafRow, entryLine, said, placeText]

/-- The lines of a value are the rows of its scalars. -/
theorem lines_eq_ended (h : ∀ l ∈ scalars v, ∀ k ∈ (said l).1, k ≠ "") :
    String.join ((leaves "" v).map leafLine) = Lines.ended ((scalars v).map leafRow) := by
  have hentries : ∀ e ∈ entries v, ∀ k ∈ e.1, k ≠ "" := by
    rw [entries_eq]
    exact List.forall_mem_map.2 h
  apply String.toList_inj.1
  rw [toList_lines hentries, entries_eq, Lines.ended, String.toList_join]
  simp [List.flatMap_map, toList_leafRow]

/-- Before the end of a row there is something that shows: the sign behind the path. -/
theorem shows_leafRow (l : Leaf) : Lines.Shows (leafRow l) := by
  refine ⟨'=', ?_, by decide⟩
  rw [toList_leafRow, entryLine]
  simp

theorem not_mem_leafRow (h : Plain IsKey (said l)) : '\n' ∉ (leafRow l).toList := by
  rw [toList_leafRow]
  exact not_newline_entryLine h

/-- A row keeps its path and the sign behind it, whatever blanks are taken off its end. -/
theorem starts_with_path (l : Leaf) :
    (placeText l.1 ++ " =").toList <+: (Blank.trimEnd (leafRow l)).toList := by
  have hrow : (leafRow l).toList =
      ((placeText l.1).toList ++ [' ']) ++ '=' :: ' ' :: (scalarText l.2).toList := by
    simp [leafRow]
  rw [Blank.trimEnd, hrow, Blank.trimEndChars_append_cons (by decide), String.toList_ofList]
  refine ⟨Blank.trimEndChars (' ' :: (scalarText l.2).toList), ?_⟩
  simp

/-- So does each line, whether it is the last one or not. -/
theorem lines_start_with_paths (ls : List Leaf) :
    List.Forall₂ (fun line l => (placeText l.1 ++ " =").toList <+: line.toList)
      ((ls.map leafRow).modifyLast Blank.trimEnd) ls := by
  rcases List.eq_nil_or_concat' ls with rfl | ⟨ls, l, rfl⟩
  · exact .nil
  · rw [List.map_append, List.map_singleton, List.modifyLast_concat]
    refine List.rel_append ?_ (.cons (starts_with_path l) .nil)
    rw [List.forall₂_map_left_iff, List.forall₂_same]
    exact fun l _ => (starts_with_path l).trans (Lines.start_of_trimEnd _)

/-! ## Places -/

theorem stepText_ne {step step' : Step} (h : step.Precedes step') :
    stepText step ≠ stepText step' := by
  cases step with
  | key k =>
    cases step' with
    | key k' =>
      intro heq
      obtain rfl : k = k' := heq
      exact List.lt_irrefl (ByteOrder.bytes k) h
    | index j => cases h
  | index i =>
    cases step' with
    | key k' => cases h
    | index j =>
      intro heq
      exact Nat.ne_of_lt h (index_inj heq)

theorem steps_ne (h : Before p q) : p.map stepText ≠ q.map stepText := by
  induction h with
  | here hstep => exact fun heq => stepText_ne hstep (List.cons.inj heq).1
  | behind _ ih => exact fun heq => ih (List.cons.inj heq).2

/-- **Different places are written differently**, if their keys stay apart. -/
theorem placeText_ne (hp : ∀ k ∈ p.map stepText, IsKey k) (hq : ∀ k ∈ q.map stepText, IsKey k)
    (h : Before p q) : placeText p ≠ placeText q :=
  fun heq => steps_ne h (dotted_inj hp hq heq)

/-! ## Reports -/

/-- The entries of a sorted value are plain if the keys and strings of the value are. -/
theorem plain_scalars (hkeys : ∀ k ∈ v.keys, IsKey k) (htexts : ∀ s ∈ v.texts, '\n' ∉ s.toList) :
    ∀ l ∈ scalars v.sorted, Plain IsKey (said l) := by
  have hentries := plain_entries isKey_index v.sorted (fun k hk => hkeys k (Value.keys_sorted v k hk))
    fun s hs => htexts s (Value.texts_sorted v s hs)
  rw [entries_eq] at hentries
  exact List.forall_mem_map.1 hentries

/-- **A text report has one line for each scalar, and no others.** The lines are those of the leaves
in document order; the last one may lose blanks at its end. Each line starts with the path of its
leaf and a sign, and no two leaves have one path. -/
theorem lines_of_leaves (colored : Bool) (hkeys : ∀ k ∈ v.keys, IsKey k)
    (htexts : ∀ s ∈ v.texts, '\n' ∉ s.toList) :
    ∃ ls : List Leaf,
      (∀ p s, (p, s) ∈ ls ↔ partAt? p v = some s ∧ isScalar s = true) ∧
      ls.Pairwise (fun l m => Before l.1 m.1) ∧
      (ls.map fun l => placeText l.1).Nodup ∧
      Lines.shown (OutputFormat.text.write colored v) =
        (ls.map leafRow).modifyLast Blank.trimEnd ∧
      List.Forall₂ (fun line l => (placeText l.1 ++ " =").toList <+: line.toList)
        (Lines.shown (OutputFormat.text.write colored v)) ls := by
  have hplain := plain_scalars hkeys htexts
  have hordered := Json.ordered_scalars v
  have hlines : Lines.shown (OutputFormat.text.write colored v) =
      ((scalars v.sorted).map leafRow).modifyLast Blank.trimEnd := by
    have hne : ∀ l ∈ scalars v.sorted, ∀ k ∈ (said l).1, k ≠ "" :=
      fun l hl k hk => ((hplain l hl).1 k hk).nonempty
    change Lines.shown (flatText v.sorted) = _
    rw [flatText, lines_eq_ended hne]
    exact Lines.shown_trimEnd_ended (List.forall_mem_map.2 fun l hl => not_mem_leafRow (hplain l hl))
      (List.forall_mem_map.2 fun l _ => shows_leafRow l)
  have hpaths : ((scalars v.sorted).map fun l => placeText l.1).Nodup := by
    refine List.pairwise_map.2 (List.Pairwise.imp_of_mem ?_ hordered)
    exact fun hl hm hbefore => placeText_ne (hplain _ hl).1 (hplain _ hm).1 hbefore
  exact ⟨scalars v.sorted, fun p s => Json.mem_scalars, hordered, hpaths, hlines,
    hlines ▸ lines_start_with_paths _⟩

/-- An object with an array that holds an object, an empty array and a blank text. -/
def nestedReport : Value :=
  .object [("b", .array [.object [("c", .string "x ")], .array [], .string " "]), ("a", .nat 1)]

/-- Its text has three lines, the last without its blanks; the empty array has none. -/
theorem lines_of_leaves_nested : ∃ ls : List Leaf,
    (∀ p s, (p, s) ∈ ls ↔ partAt? p nestedReport = some s ∧ isScalar s = true) ∧
      Lines.shown (OutputFormat.text.write false nestedReport) =
        (ls.map leafRow).modifyLast Blank.trimEnd ∧
      Lines.shown (OutputFormat.text.write false nestedReport) =
        ["a = 1", "b.0.c = x ", "b.2 ="] := by
  obtain ⟨ls, hmem, -, -, hlines, -⟩ :=
    lines_of_leaves (v := nestedReport) false (by decide) (by decide)
  exact ⟨ls, hmem, hlines, by decide⟩

end SdkGen.Report
