import SdkGen.Proofs.Files.Writing

/-!
# Paths that go up only at first

Such a path leads up from the working directory and then only down. What is in the way of it is
told by its place alone: whatever stands at the places above.

* `ClimbsFirst`, `Climbs`: paths and trails that go up only at first.
* `locate_suffix`: the places on the way are above the place, or above the working directory.
* `way_by_place`: what is in the way, by the place.
* `makeAbove_open`: a directory is made unless a file is in the way.
-/

namespace SdkGen

namespace Path

variable {path piece : String} {ps up before : List String}

/-- Whether `..` stands only in front: behind nothing but other `..` and idle pieces. -/
def ClimbsFirst (path : String) : Prop :=
  (pieces path).Pairwise fun before piece => piece = ".." → isIdle before = true ∨ before = ".."

instance (path : String) : Decidable (ClimbsFirst path) := by
  unfold ClimbsFirst
  infer_instance

/-- The same of a trail, in which the last piece comes first. -/
def Climbs (ps : List String) : Prop :=
  ps.Pairwise fun piece before => piece = ".." → isIdle before = true ∨ before = ".."

theorem ClimbsFirst.trail (h : ClimbsFirst path) : Climbs (trail path) :=
  List.pairwise_reverse.2 h

theorem Climbs.suffix (h : Climbs ps) (hup : up <:+ ps) : Climbs up :=
  List.Pairwise.sublist hup.sublist h

/-- Pieces that lead nowhere or up. -/
def Up (ps : List String) : Prop := ∀ p ∈ ps, isIdle p = true ∨ p = ".."

/-- A trail leads up altogether, or its last piece is idle, or it is a name. -/
theorem Climbs.cases (h : Climbs (piece :: before)) : Up (piece :: before) ∨
    (isIdle piece = true ∧ before ≠ []) ∨ (piece ≠ "" ∧ piece ≠ "." ∧ piece ≠ "..") := by
  obtain ⟨hlast, -⟩ := List.pairwise_cons.1 h
  by_cases hdots : piece = ".."
  · left
    intro p hp
    rcases List.mem_cons.1 hp with rfl | hp
    · exact .inr hdots
    · exact hlast p hp hdots
  · cases hidle : isIdle piece with
    | true =>
      by_cases hbefore : before = []
      · subst hbefore
        left
        intro p hp
        rw [List.mem_singleton.1 hp]
        exact .inl hidle
      · exact .inr (.inl ⟨rfl, hbefore⟩)
    | false =>
      have hnot : piece ≠ "" ∧ piece ≠ "." := by simpa [isIdle] using hidle
      exact .inr (.inr ⟨hnot.1, hnot.2, hdots⟩)

end Path

namespace FileSystem

open SdkGen.Path (trail isIdle trimmed Climbs Up Clean Slashless Ends)

variable {fs fs' : FileSystem} {path name piece : String} {place q r : List String}
  {ps s before : List String} {bytes : ByteArray}

/-! ## Where trails lead that go up only at first -/

/-- Above the working directory are directories. -/
theorem Settled.directory (hsettled : fs.Settled) (hq : q <+: fs.here) :
    fs.occupant? q = some .directory := by
  by_cases hne : q = fs.here
  · rw [hne]
    exact hsettled
  · exact directory_above hq hne (hsettled.trans_ne (Option.some_ne_none _))

theorem locate_up (h : Up ps) : fs.locate ps <+: fs.here := by
  induction ps with
  | nil => exact List.prefix_refl _
  | cons piece before ih =>
    have hbefore := ih fun p hp => h p (List.mem_cons_of_mem _ hp)
    rw [locate_cons]
    split
    · exact List.nil_prefix
    · rcases h piece List.mem_cons_self with hidle | rfl
      · rw [move, if_pos hidle]
        exact hbefore
      · exact (List.dropLast_prefix _).trans hbefore

theorem way_up (hsettled : fs.Settled) (h : Up ps) : fs.way ps = .clear := by
  induction ps with
  | nil => exact hsettled.way_nil
  | cons piece before ih =>
    rw [way_cons_clear (ih fun p hp => h p (List.mem_cons_of_mem _ hp))]
    exact Way.of_eq_clear_iff.2 (hsettled.directory (locate_up h))

/-- A name leads down. -/
theorem locate_down (fs : FileSystem) (before : List String)
    (hpiece : piece ≠ "" ∧ piece ≠ "." ∧ piece ≠ "..") :
    fs.locate (piece :: before) = fs.locate before ++ [piece] :=
  locate_name (by simp [isLink, hpiece.2.1, hpiece.2.2]) hpiece.1

/-- **The places on the way are above the place, or above the working directory.** -/
theorem locate_suffix (fs : FileSystem) (h : Climbs ps) (hs : s <:+ ps) :
    fs.locate s <+: fs.locate ps ∨ fs.locate s <+: fs.here := by
  induction ps with
  | nil =>
    rw [List.suffix_nil.1 hs]
    exact .inl (List.prefix_refl _)
  | cons piece before ih =>
    rcases List.suffix_cons_iff.1 hs with rfl | hs'
    · exact .inl (List.prefix_refl _)
    · have hbefore := ih (h.suffix (List.suffix_cons piece before)) hs'
      rcases h.cases with hup | ⟨hidle, hne⟩ | hpiece
      · exact .inr (locate_up fun p hp => hup p (hs.subset hp))
      · rw [locate_idle hidle hne]
        exact hbefore
      · rw [locate_down fs _ hpiece]
        exact hbefore.imp_left fun hprefix => hprefix.trans (List.prefix_append _ _)

/-! ## What is in the way -/

/-- Above a directory are directories. -/
theorem directory_upto (h : fs.occupant? place = some .directory) (hr : r <+: place) :
    fs.occupant? r = some .directory := by
  by_cases hne : r = place
  · rw [hne]
    exact h
  · exact directory_above hr hne (h.trans_ne (Option.some_ne_none _))

/-- What is in the way to a name is told by the way before it and by what stands there. -/
theorem way_down (hpiece : piece ≠ "" ∧ piece ≠ "." ∧ piece ≠ "..")
    (hclear : fs.way before = .clear ↔ fs.occupant? (fs.locate before) = some .directory)
    (hblocked : fs.way before = .blocked ↔ ∃ r bytes, r <+: fs.locate before ∧
      fs.occupant? r = some (.file bytes)) :
    (fs.way (piece :: before) = .clear ↔
        fs.occupant? (fs.locate (piece :: before)) = some .directory) ∧
      (fs.way (piece :: before) = .blocked ↔ ∃ r bytes, r <+: fs.locate (piece :: before) ∧
        fs.occupant? r = some (.file bytes)) := by
  have hplace := locate_down fs before hpiece
  -- whatever stands at the name stands in a directory
  have hthere : fs.occupant? (fs.locate (piece :: before)) ≠ none → fs.way before = .clear := by
    intro hsome
    rw [hplace] at hsome
    exact hclear.2 (directory_above (List.prefix_append _ _) (by simp) hsome)
  cases hway : fs.way before with
  | clear =>
    rw [way_cons_clear hway, Way.of_eq_clear_iff, Way.of_eq_blocked_iff]
    refine ⟨Iff.rfl, fun ⟨bytes, hfile⟩ => ⟨_, bytes, List.prefix_refl _, hfile⟩, ?_⟩
    rintro ⟨r, bytes, hr, hfile⟩
    rw [hplace, List.prefix_concat_iff] at hr
    rcases hr with rfl | hr
    · rw [hplace]
      exact ⟨bytes, hfile⟩
    · cases (directory_upto (hclear.1 hway) hr).symm.trans hfile
  | blocked =>
    obtain ⟨r, bytes, hr, hfile⟩ := hblocked.1 hway
    have hsame : fs.way (piece :: before) = .blocked := by rw [way_cons, hway]
    rw [hsame]
    refine ⟨iff_of_false (by simp) fun hdirectory => ?_, iff_of_true rfl ⟨r, bytes, ?_, hfile⟩⟩
    · cases hway.symm.trans (hthere (hdirectory.trans_ne (Option.some_ne_none _)))
    · rw [hplace]
      exact hr.trans (List.prefix_append _ _)
  | missing =>
    have hsame : fs.way (piece :: before) = .missing := by rw [way_cons, hway]
    rw [hsame]
    refine ⟨iff_of_false (by simp) fun hdirectory => ?_, iff_of_false (by simp) ?_⟩
    · cases hway.symm.trans (hthere (hdirectory.trans_ne (Option.some_ne_none _)))
    · rintro ⟨r, bytes, hr, hfile⟩
      rw [hplace, List.prefix_concat_iff, ← hplace] at hr
      rcases hr with rfl | hr
      · cases hway.symm.trans (hthere (hfile.trans_ne (Option.some_ne_none _)))
      · cases hway.symm.trans (hblocked.2 ⟨r, bytes, hr, hfile⟩)

theorem way_by_place_up (hsettled : fs.Settled) (h : Up ps) :
    (fs.way ps = .clear ↔ fs.occupant? (fs.locate ps) = some .directory) ∧
      (fs.way ps = .blocked ↔ ∃ r bytes, r <+: fs.locate ps ∧
        fs.occupant? r = some (.file bytes)) := by
  have hway := way_up hsettled h
  have hdirectory := hsettled.directory (locate_up h)
  rw [hway]
  refine ⟨iff_of_true rfl hdirectory, iff_of_false (by simp) ?_⟩
  rintro ⟨r, bytes, hr, hfile⟩
  cases (directory_upto hdirectory hr).symm.trans hfile

/-- **What is in the way is told by the place.** The way is clear if a directory stands there, and
blocked if a file stands there or anywhere above. -/
theorem way_by_place (hsettled : fs.Settled) (h : Climbs ps) :
    (fs.way ps = .clear ↔ fs.occupant? (fs.locate ps) = some .directory) ∧
      (fs.way ps = .blocked ↔ ∃ r bytes, r <+: fs.locate ps ∧
        fs.occupant? r = some (.file bytes)) := by
  induction ps with
  | nil => exact way_by_place_up hsettled (by simp [Up])
  | cons piece before ih =>
    obtain ⟨hclear, hblocked⟩ := ih (h.suffix (List.suffix_cons piece before))
    rcases h.cases with hup | ⟨hidle, hne⟩ | hpiece
    · exact way_by_place_up hsettled hup
    · rw [way_idle hidle hne, locate_idle hidle hne]
      exact ⟨hclear, hblocked⟩
    · exact way_down hpiece hclear hblocked

/-! ## Directories -/

/-- **A directory is made unless a file is in the way.** -/
theorem makeAbove_open (hsettled : fs.Settled) (hclimbs : Climbs before) (hclean : Clean before)
    (hopen : fs.way before ≠ .blocked) : (fs.makeAbove before).2 = none := by
  have hextends := extends_makeAbove fs before
  rcases makeAbove_settled hsettled hclean with ⟨hnone, -⟩ | ⟨-, hblocked⟩
  · exact hnone
  · -- the file was there before
    obtain ⟨r, bytes, hr, hfile⟩ :=
      (way_by_place (hextends.keeps.settled hsettled) hclimbs).2.1 hblocked
    rw [locate_congr hextends.here] at hr
    by_cases hnone : fs.occupant? r = none
    · rcases hextends.new r hnone with hnew | hnew
      · cases hnew.symm.trans hfile
      · cases hnew.symm.trans hfile
    · have hfile' := (hextends.occupant r hnone).symm.trans hfile
      exact absurd ((way_by_place hsettled hclimbs).2.2 ⟨r, bytes, hr, hfile'⟩) hopen

/-- The directories above a path are not at its place. -/
theorem makeAbove_placeOf (hsettled : fs.Settled) (hclimbs : Climbs (trail path))
    (hends : Ends path name before) :
    (fs.makeAbove before).1.occupant? (fs.placeOf path) = fs.occupant? (fs.placeOf path) := by
  have hclimbs' : Climbs (name :: before) := hclimbs.suffix hends.suffix
  have hbefore : Climbs before := hclimbs.suffix hends.suffix_before
  have hslash : Slashless before := (Path.slashless_trail path).suffix hends.suffix_before
  refine Classical.byContradiction fun hnew => ?_
  have hextends := extends_makeAbove fs before
  have hnone : fs.occupant? (fs.placeOf path) = none :=
    Classical.byContradiction fun hthere => hnew (hextends.occupant _ hthere)
  obtain ⟨s, hs, hplace⟩ := makeAbove_new hsettled hslash hnone (hnone ▸ hnew)
  rw [placeOf_ends fs hends] at hnone hplace
  -- the place would be above itself, or above the working directory
  have habove := locate_suffix fs hbefore hs
  rw [← hplace] at habove
  rcases habove with habove | habove
  · rcases hclimbs'.cases with hup | ⟨hidle, hne⟩ | hpiece
    · cases hnone.symm.trans (hsettled.directory (locate_up hup))
    · have htrim := Path.trim_trimmed (trail path)
      rw [hends.trimmed, Path.trim_cons_iff, hidle] at htrim
      simp [hne] at htrim
    · rw [locate_down fs _ hpiece] at habove
      have hlength := habove.length_le
      rw [List.length_append, List.length_singleton] at hlength
      omega
  · cases hnone.symm.trans (hsettled.directory habove)

end FileSystem

end SdkGen
