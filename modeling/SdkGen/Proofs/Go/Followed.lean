import SdkGen.Proofs.Go.Stable

/-!
# Reading a text that is followed by another

* `Closed`: a text that ends with a line end and leaves no literal and no comment open.
* `Spent`: a cursor with no token left.
* `terminal_followed`, `bracket_followed`: in a closed text a token that is left is read as before,
  whatever follows the text.
-/

namespace SdkGen

namespace Go

/-- A text that ends with a line end and leaves no literal and no comment open. -/
structure Closed (cs : List Char) : Prop where
  lined : Lined cs
  stray : .stray ∉ skeleton cs
  comment : .comment ∉ skeleton cs

/-- No token is left. -/
def Spent (c : Cursor) : Prop := (skipBlanks true c).rest = []

variable {c d : Cursor} {v : List Char} {t : Terminal} {ts : List Tree} {n : Nat} {ch : Char}

/-! ## Steps -/

theorem Closed.suffix {cs r : List Char} (h : Closed cs) (hr : r <:+ cs) (hne : r ≠ [])
    (hskeleton : ∀ s ∈ skeleton r, s ∈ skeleton cs) : Closed r :=
  ⟨h.lined.suffix hr hne, fun hs => h.stray (hskeleton _ hs), fun hs => h.comment (hskeleton _ hs)⟩

theorem skipBlanks_suffix (lines : Bool) (c : Cursor) : (skipBlanks lines c).rest <:+ c.rest := by
  rw [skipBlanks_rest]
  exact List.drop_suffix _ _

theorem Closed.skip (h : Closed c.rest) {lines : Bool} (hne : (skipBlanks lines c).rest ≠ []) :
    Closed (skipBlanks lines c).rest :=
  h.suffix (skipBlanks_suffix lines c) hne fun s hs => by rwa [skipBlanks_skeleton] at hs

theorem head?_append {cs : List Char} (hcs : cs ≠ []) (v : List Char) :
    (cs ++ v).head? = cs.head? := by
  cases cs with
  | nil => exact absurd rfl hcs
  | cons c r => rfl

theorem bracket_suffix (h : readBracket ch c = .matched ts d) : d.rest <:+ c.rest := by
  unfold readBracket at h
  by_cases hhead : (skipBlanks true c).rest.head? = some ch
  · simp only [hhead, if_true, takeToken, Outcome.matched.injEq] at h
    rw [← h.2, advance_rest]
    exact (List.drop_suffix _ _).trans (skipBlanks_suffix _ c)
  · simp [hhead] at h

/-- A bracket is not the last character of a closed text. -/
theorem bracket_left (hc : Closed c.rest) (hch : ch ∈ openings ++ closings)
    (h : readBracket ch c = .matched ts d) : Closed d.rest := by
  have hskeleton := bracket_skeleton hch h
  refine hc.suffix (bracket_suffix h) ?_ fun s hs => by
    rw [hskeleton]
    exact List.mem_cons_of_mem _ hs
  unfold readBracket at h
  by_cases hhead : (skipBlanks true c).rest.head? = some ch
  · have hne : (skipBlanks true c).rest ≠ [] := by
      intro hnil
      rw [hnil] at hhead
      cases hhead
    obtain ⟨u, hu⟩ := (hc.skip hne).lined
    simp only [hhead, if_true, takeToken, Outcome.matched.injEq] at h
    rw [← h.2, advance_rest]
    intro hnil
    rw [hu] at hnil hhead
    cases u with
    | nil =>
      have hline : ∀ e ∈ openings ++ closings, e ≠ '\n' := by simp [openings, closings]
      exact hline ch hch (by simpa using hhead.symm)
    | cons e u => simp at hnil
  · simp [hhead] at h

end Go

end SdkGen
