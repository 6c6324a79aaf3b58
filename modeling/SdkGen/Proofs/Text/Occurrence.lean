import SdkGen.Text.Occurrence

/-!
# Occurrences of a text in another

* `dropPrefix_eq_some`, `dropSuffix_eq_some`: what is left is what stands behind the text at the
  start, or before the text at the end.
* `splitFirst_eq_some`: a text is what stands before and behind an occurrence, with it between.
* `splitFirst_eq_none`: none is found only where there is none.
* `splitFirst_before`, `splitFirst_behind`: an occurrence does not reach over a character that is
  not in the sought text, so what stands before such a character and what stands behind it are
  searched one after the other.
* `replace_append`, `replace_cons_of_not`: a text is replaced from its start on.
-/

namespace SdkGen.Occurrence

theorem dropPrefix_eq_some {start cs rest : List Char} :
    dropPrefix start cs = some rest ↔ cs = start ++ rest := by
  induction start generalizing cs with
  | nil => simp [dropPrefix]
  | cons p ps ih =>
    cases cs with
    | nil => simp [dropPrefix]
    | cons c cs =>
      by_cases hp : p = c
      · simp [dropPrefix, hp, ih]
      · have hc : c ≠ p := fun h => hp h.symm
        simp [dropPrefix, hp, hc]

theorem dropSuffix_eq_some {suffix cs rest : List Char} :
    dropSuffix suffix cs = some rest ↔ cs = rest ++ suffix := by
  unfold dropSuffix
  rw [Option.map_eq_some_iff]
  constructor
  · rintro ⟨front, hfront, rfl⟩
    rw [← List.reverse_inj, dropPrefix_eq_some.1 hfront]
    simp
  · rintro rfl
    exact ⟨rest.reverse, dropPrefix_eq_some.2 (List.reverse_append ..), List.reverse_reverse _⟩

theorem splitFirst_nil (sought : List Char) :
    splitFirst sought [] = (dropPrefix sought []).map fun rest => ([], rest) := rfl

theorem splitFirst_cons (sought : List Char) (c : Char) (cs : List Char) :
    splitFirst sought (c :: cs) =
      match dropPrefix sought (c :: cs) with
      | some rest => some ([], rest)
      | none => (splitFirst sought cs).map fun (before, after) => (c :: before, after) := rfl

/-- The parts before and after an occurrence make up the text with it. -/
theorem splitFirst_eq_some {sought cs before after : List Char}
    (h : splitFirst sought cs = some (before, after)) :
    cs = before ++ (sought ++ after) := by
  induction cs generalizing before with
  | nil =>
    obtain ⟨rest, hrest, hparts⟩ := Option.map_eq_some_iff.1 h
    cases hparts
    rw [List.nil_append]
    exact dropPrefix_eq_some.1 hrest
  | cons c cs ih =>
    rw [splitFirst_cons] at h
    cases hhere : dropPrefix sought (c :: cs) with
    | some rest =>
      rw [hhere] at h
      cases h
      rw [List.nil_append]
      exact dropPrefix_eq_some.1 hhere
    | none =>
      rw [hhere] at h
      obtain ⟨⟨front, back⟩, hlater, hparts⟩ := Option.map_eq_some_iff.1 h
      cases hparts
      rw [ih hlater, List.cons_append]

/-- None is found only where there is none. -/
theorem splitFirst_eq_none {sought cs : List Char} :
    splitFirst sought cs = none ↔ ¬ sought <:+: cs := by
  induction cs with
  | nil =>
    have hstart : dropPrefix sought [] = none ↔ sought ≠ [] := by
      cases sought <;> simp [dropPrefix]
    simp only [splitFirst_nil, Option.map_eq_none_iff, hstart, List.infix_nil, ne_eq]
  | cons c cs ih =>
    rw [List.infix_cons_iff, not_or, ← ih, splitFirst_cons]
    cases hhere : dropPrefix sought (c :: cs) with
    | some rest =>
      have hstart : sought <+: c :: cs := ⟨rest, (dropPrefix_eq_some.1 hhere).symm⟩
      simp [hstart]
    | none =>
      have hstart : ¬ sought <+: c :: cs := by
        rintro ⟨rest, hrest⟩
        rw [dropPrefix_eq_some.2 hrest.symm] at hhere
        cases hhere
      simp [hstart]

section

variable {sought front back before after : List Char} {q : Char}

/-- A text at the start does not reach over a character that is not in it. -/
theorem dropPrefix_over (hq : q ∉ sought) :
    dropPrefix sought (front ++ q :: back) =
      (dropPrefix sought front).map fun rest => rest ++ q :: back := by
  induction sought generalizing front with
  | nil => rfl
  | cons p ps ih =>
    rw [List.mem_cons, not_or] at hq
    obtain ⟨hp, hps⟩ := hq
    cases front with
    | nil =>
      have hne : p ≠ q := fun h => hp h.symm
      simp [dropPrefix, hne]
    | cons c front =>
      rw [List.cons_append, dropPrefix, dropPrefix]
      split
      · exact ih hps
      · rfl

/-- An occurrence before such a character is the first one. -/
theorem splitFirst_before (hq : q ∉ sought) (h : splitFirst sought front = some (before, after)) :
    splitFirst sought (front ++ q :: back) = some (before, after ++ q :: back) := by
  induction front generalizing before with
  | nil =>
    -- only the empty text occurs in nothing
    obtain ⟨rest, hrest, hparts⟩ := Option.map_eq_some_iff.1 h
    cases hparts
    have hempty : sought = [] :=
      (List.append_eq_nil_iff.1 (dropPrefix_eq_some.1 hrest).symm).1
    subst hempty
    cases hrest
    rfl
  | cons c front ih =>
    rw [List.cons_append, splitFirst_cons, ← List.cons_append, dropPrefix_over hq]
    rw [splitFirst_cons] at h
    cases hhere : dropPrefix sought (c :: front) with
    | some rest =>
      rw [hhere] at h
      cases h
      rfl
    | none =>
      rw [hhere] at h
      obtain ⟨⟨start, rest⟩, hlater, hparts⟩ := Option.map_eq_some_iff.1 h
      cases hparts
      simp only [Option.map_none, ih hlater, Option.map_some]

/-- Where there is none before such a character, the first one is behind it. -/
theorem splitFirst_behind (hq : q ∉ sought) (hsought : sought ≠ [])
    (h : splitFirst sought front = none) :
    splitFirst sought (front ++ q :: back) =
      (splitFirst sought back).map fun parts => (front ++ q :: parts.1, parts.2) := by
  induction front with
  | nil =>
    have hstart : dropPrefix sought (q :: back) = none := by
      have hover : dropPrefix sought ([] ++ q :: back) = _ := dropPrefix_over hq
      cases sought with
      | nil => exact absurd rfl hsought
      | cons p ps => exact hover
    rw [List.nil_append, splitFirst_cons, hstart]
    rfl
  | cons c front ih =>
    rw [splitFirst_cons] at h
    rw [List.cons_append, splitFirst_cons, ← List.cons_append, dropPrefix_over hq]
    cases hhere : dropPrefix sought (c :: front) with
    | some rest =>
      rw [hhere] at h
      cases h
    | none =>
      rw [hhere] at h
      have hrest : splitFirst sought front = none := Option.map_eq_none_iff.1 h
      simp only [Option.map_none, ih hrest, Option.map_map]
      rfl

end

/-! ## Replacing -/

section

variable {sought new cs r : List Char} {c : Char}

theorem replaceFrom_drop (k : Nat) (cs : List Char) :
    replaceFrom sought new k cs = replace sought new (cs.drop k) := by
  induction cs generalizing k with
  | nil => cases k <;> rfl
  | cons c r ih =>
    cases k with
    | zero => rfl
    | succ k => exact ih k

theorem replace_cons_of_not (h : ¬ sought <+: c :: r) :
    replace sought new (c :: r) = c :: replace sought new r := by
  have hnone : dropPrefix sought (c :: r) = none := by
    cases hdrop : dropPrefix sought (c :: r) with
    | none => rfl
    | some rest => exact absurd ⟨rest, (dropPrefix_eq_some.1 hdrop).symm⟩ h
  rw [replace, replaceFrom, hnone]
  rfl

theorem replace_append (h : sought ≠ []) (r : List Char) :
    replace sought new (sought ++ r) = new ++ replace sought new r := by
  cases sought with
  | nil => exact absurd rfl h
  | cons q sought =>
    have hsome : dropPrefix (q :: sought) (q :: (sought ++ r)) = some r :=
      dropPrefix_eq_some.2 rfl
    rw [List.cons_append, replace, replaceFrom, hsome]
    dsimp only
    rw [replaceFrom_drop, List.length_cons, Nat.add_sub_cancel, List.drop_left]

/-- A single character is replaced wherever it stands. -/
theorem replace_single (q : Char) (new cs : List Char) :
    replace [q] new cs = cs.flatMap fun c => if c = q then new else [c] := by
  induction cs with
  | nil => rfl
  | cons c r ih =>
    rw [List.flatMap_cons, ← ih]
    by_cases hc : c = q
    · rw [if_pos hc, hc]
      exact replace_append (List.cons_ne_nil _ _) r
    · have hnot : ¬ [q] <+: c :: r := by
        rintro ⟨rest, hrest⟩
        exact hc (List.cons.inj hrest).1.symm
      rw [if_neg hc, replace_cons_of_not hnot, List.singleton_append]

end

end SdkGen.Occurrence
