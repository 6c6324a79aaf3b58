import SdkGen.Proofs.Files.Directories

/-!
# Reading and writing under a path

What becomes of a file is told by its place and by the way to its directory.

* `makeAbove`: makes the directory that a trail leads to, with those above it.
* `makeAbove_settled`: then the way is clear, or a file is in the way. `makeAbove_again`: and then
  nothing more is made.
* `writeBytes_eq`, `names_of_writeBytes`: what becomes of a file, and under which paths one is
  written at all.
* `resolve_by_way`, `place_of_resolve`: what a path leads to.
* `Alike`: trees in which a path has the same way and the same place. They give the same errors and
  the same bytes.
-/

namespace SdkGen

open SdkGen.Path (trail isIdle trimmed ofReversed ancestorsOf Slashless Clean Proper Names)

namespace Path

variable {path name p : String} {ps before : List String}

theorem mem_trimmed (hp : p ∈ ps) (hidle : isIdle p = false) : p ∈ trimmed ps := by
  obtain ⟨idle, name, before, heq, htrimmed, hall, -⟩ :=
    trimmed_cases (List.ne_nil_of_mem hp)
  rw [heq, List.mem_append] at hp
  rw [htrimmed]
  rcases hp with hp | hp
  · cases hidle.symm.trans (hall p hp)
  · exact hp

theorem Clean.proper (h : Clean before) (hne : before ≠ []) : Proper (trimmed before) :=
  ⟨trimmed_ne_nil hne, trim_trimmed before, h.suffix (trimmed_suffix before)⟩

/-- What a path ends in, when the idle pieces behind it are dropped. -/
structure Ends (path name : String) (before : List String) : Prop where
  trimmed : trimmed (trail path) = name :: before
  named : name ≠ ""

/-- The pieces of a path are its end and the idle pieces behind it. -/
theorem Ends.split (h : Ends path name before) :
    ∃ idle, trail path = idle ++ name :: before ∧ ∀ p ∈ idle, isIdle p = true := by
  obtain ⟨idle, n, rest, heq, htrimmed, hidle, -⟩ := trimmed_cases (trail_ne_nil path)
  rw [h.trimmed] at htrimmed
  exact ⟨idle, by rw [heq, htrimmed], hidle⟩

theorem Ends.suffix (h : Ends path name before) : name :: before <:+ trail path := by
  obtain ⟨idle, htrail, -⟩ := h.split
  rw [htrail]
  exact List.suffix_append idle (name :: before)

theorem Ends.suffix_before (h : Ends path name before) : before <:+ trail path :=
  (List.suffix_cons name before).trans h.suffix

theorem Ends.ne_empty (h : Ends path name before) : path ≠ "" := by
  rintro rfl
  have htrimmed : [""] = name :: before := h.trimmed
  exact h.named (List.cons.inj htrimmed).1.symm

/-- A path holds what one of its pieces holds. -/
theorem ended_of_mem (hp : p ∈ trail path) (hend : '\x00' ∈ p.toList) : '\x00' ∈ path.toList :=
  (mem_path (by decide)).2 ⟨p, hp, hend⟩

theorem Names.clean (h : Names path name before) : Clean before := by
  have hsuffix : before <:+ Path.trail path := by
    rw [h.trail]
    exact List.suffix_cons name before
  refine ⟨(slashless_trail path).suffix hsuffix, ?_⟩
  intro p hp hmem
  exact h.unended (ended_of_mem (hsuffix.subset hp) hmem)

theorem Names.ends (h : Names path name before) : Ends path name before := by
  refine ⟨?_, h.named⟩
  rw [h.trail]
  exact trim_cons_iff.2 h.proper

end Path

namespace FileSystem

variable {fs fs' : FileSystem} {path name p : String} {place q : List String}
  {ps before : List String} {bytes : ByteArray} {e : FileError}

/-! ## The directory of a file -/

/-- Makes the directory that a trail leads to, with those above it. -/
def makeAbove (fs : FileSystem) (before : List String) : Attempt :=
  fs.makeChain (ancestorsOf (trimmed before).length (trimmed before))

theorem extends_makeAbove (fs : FileSystem) (before : List String) :
    Extends fs (fs.makeAbove before).1 := extends_makeChain fs _

theorem makeAbove_clear (hsettled : fs.Settled) (hclean : Clean before)
    (hway : fs.way before = .clear) : fs.makeAbove before = (fs, none) := by
  by_cases hne : before = []
  · subst hne
    rfl
  · exact makeChain_clear hsettled (hclean.proper hne) ((way_trimmed fs before).trans hway)

theorem makeAbove_blocked (hsettled : fs.Settled) (hclean : Clean before)
    (hway : fs.way before = .blocked) :
    fs.makeAbove before = (fs, some (fs.blockage (trimmed before))) := by
  have hne : before ≠ [] := by
    rintro rfl
    cases hsettled.way_nil.symm.trans hway
  obtain ⟨name, rest, hup⟩ := List.exists_cons_of_ne_nil (Path.trimmed_ne_nil hne)
  have hproper := hclean.proper hne
  have hway' := (way_trimmed fs before).trans hway
  unfold makeAbove
  rw [hup] at hproper hway' ⊢
  exact makeChain_blocked hsettled hproper hway'

/-- **Afterwards the way is clear, or a file is in the way.** -/
theorem makeAbove_settled (hsettled : fs.Settled) (hclean : Clean before) :
    (fs.makeAbove before).2 = none ∧ (fs.makeAbove before).1.way before = .clear ∨
      (fs.makeAbove before).2 ≠ none ∧ (fs.makeAbove before).1.way before = .blocked := by
  cases hway : fs.way before with
  | clear =>
    rw [makeAbove_clear hsettled hclean hway]
    exact .inl ⟨rfl, hway⟩
  | blocked =>
    rw [makeAbove_blocked hsettled hclean hway]
    exact .inr ⟨Option.some_ne_none _, hway⟩
  | missing =>
    have hne : before ≠ [] := by
      rintro rfl
      cases hsettled.way_nil.symm.trans hway
    rw [← way_trimmed fs before] at hway
    rw [← way_trimmed (fs.makeAbove before).1 before]
    exact makeChain_missing hsettled (hclean.proper hne) hway (Nat.le_refl _)

theorem ensureDirectory_ended (hend : '\x00' ∈ path.toList) :
    fs.ensureDirectory path = (fs, some .endMark) := by
  unfold ensureDirectory makeDirectory
  rw [target_ended hend]
  rfl

/-- A directory whose path holds the character that ends paths is never made. -/
theorem makeAbove_ended (hslash : Slashless before) (hp : p ∈ before)
    (hend : '\x00' ∈ p.toList) : fs.makeAbove before = (fs, some .endMark) := by
  have hidle : isIdle p = false := by
    rw [← Bool.not_eq_true]
    intro hidle
    have hcases : p = "" ∨ p = "." := by simpa [isIdle] using hidle
    rcases hcases with rfl | rfl
    · simp at hend
    · simp at hend
  have hmem := Path.mem_trimmed hp hidle
  have htrim := Path.trim_trimmed before
  have hslash' := hslash.suffix (Path.trimmed_suffix before)
  obtain ⟨name, rest, hup⟩ := List.exists_cons_of_ne_nil (List.ne_nil_of_mem hmem)
  unfold makeAbove
  rw [hup] at hmem htrim hslash' ⊢
  have hroot : name :: rest ≠ [""] := by
    intro hroot
    rw [hroot, List.mem_singleton] at hmem
    rw [hmem] at hend
    simp at hend
  have hname : name ≠ "" := by
    rintro rfl
    rcases Path.trim_cons_iff.1 htrim with rfl | hproper
    · exact hroot rfl
    · cases hproper
  have hensure : fs.ensureDirectory (ofReversed (name :: rest)) = (fs, some .endMark) := by
    refine ensureDirectory_ended ((Path.mem_path (by decide)).2 ⟨p, ?_, hend⟩)
    rw [Path.trail_ofReversed (by simp) hroot hslash']
    exact hmem
  rw [List.length_cons, Path.ancestorsOf_cons htrim hname, makeChain_cons (by simp [hensure]),
    hensure]

/-- Either all pieces are clean, or one holds the character that ends paths. -/
theorem clean_or_ended (hslash : Slashless before) :
    Clean before ∨ ∃ p ∈ before, '\x00' ∈ p.toList := by
  by_cases h : ∀ p ∈ before, '\x00' ∉ p.toList
  · exact .inl ⟨hslash, h⟩
  · right
    simpa using h

/-- **What was tried is not tried in vain again:** nothing more is made, and it fails if it failed,
whatever is written in the meantime. -/
theorem makeAbove_again (hsettled : fs.Settled) (hslash : Slashless before)
    (hkeeps : Keeps (fs.makeAbove before).1 fs') :
    (fs'.makeAbove before).1 = fs' ∧
      ((fs'.makeAbove before).2 = none ↔ (fs.makeAbove before).2 = none) := by
  rcases clean_or_ended hslash with hclean | ⟨p, hp, hend⟩
  · have hsettled' := hkeeps.settled ((extends_makeAbove fs before).keeps.settled hsettled)
    rcases makeAbove_settled hsettled hclean with ⟨hnone, hway⟩ | ⟨hsome, hway⟩
    · rw [makeAbove_clear hsettled' hclean (hkeeps.clear hway)]
      exact ⟨rfl, iff_of_true rfl hnone⟩
    · rw [makeAbove_blocked hsettled' hclean (hkeeps.blocked hway)]
      exact ⟨rfl, iff_of_false (Option.some_ne_none _) hsome⟩
  · rw [makeAbove_ended hslash hp hend, makeAbove_ended hslash hp hend]
    exact ⟨rfl, Iff.rfl⟩

/-- Only places on the way are new. -/
theorem makeAbove_new (hsettled : fs.Settled) (hslash : Slashless before)
    (hnone : fs.occupant? q = none) (hthere : (fs.makeAbove before).1.occupant? q ≠ none) :
    ∃ s, s <:+ before ∧ q = fs.locate s := by
  rcases clean_or_ended hslash with hclean | ⟨p, hp, hend⟩
  · by_cases hne : before = []
    · subst hne
      exact absurd hnone hthere
    · obtain ⟨s, hs, hq⟩ := makeChain_new hsettled (hclean.proper hne) hnone hthere
      exact ⟨s, hs.trans (Path.trimmed_suffix before), hq⟩
  · rw [makeAbove_ended hslash hp hend] at hthere
    exact absurd hnone hthere

/-! ## Writing -/

/-- The tree with a file at a place. -/
def putFile (fs : FileSystem) (place : List String) (bytes : ByteArray) : FileSystem :=
  { fs with root := Node.put (.file bytes) fs.root place }

/-- **What becomes of a file that has a name.** -/
theorem writeBytes_eq (hsettled : fs.Settled) (h : Names path name before)
    (hlink : isLink name = false) (bytes : ByteArray) :
    fs.writeBytes path bytes = match fs.way before with
      | .blocked => .error .notDirectory
      | .missing => .error .notFound
      | .clear => match fs.occupant? (fs.locate (name :: before)) with
        | some .directory => .error .isDirectory
        | _ => .ok (fs.putFile (fs.locate (name :: before)) bytes) := by
  have htarget := target_names fs h
  rw [enter_eq hsettled] at htarget
  unfold writeBytes
  rw [htarget]
  cases hway : fs.way before with
  | blocked => rfl
  | missing => rfl
  | clear =>
    have hdirectory : fs.isDirectoryAt (fs.locate before ++ [name]) = true ↔
        fs.occupant? (fs.locate before ++ [name]) = some .directory := isDirectoryAt_iff
    rw [locate_name hlink h.named]
    rcases hplace : fs.occupant? (fs.locate before ++ [name]) with _ | b | _ <;>
      simp_all [putFile, Except.map, bind, Except.bind]

/-- A path whose last piece is looked up as a name names it. -/
theorem names_of_target {dir : List String} (h : fs.target path = .ok ⟨dir, some name, false⟩)
    (hlink : isLink name = false) : ∃ before, Names path name before := by
  have hend : '\x00' ∉ path.toList := by
    intro hend
    rw [target_ended hend] at h
    cases h
  have hne : path ≠ "" := by
    rintro rfl
    cases h
  obtain ⟨first, l, htrail, -, -, hstart⟩ := start_trail fs hend hne
  unfold target at h
  rw [hstart] at h
  simp only [bind, Except.bind] at h
  split at h
  · cases h
  next last before hdrop =>
    split at h
    · cases h
    split at h
    · cases h
    simp only [Except.ok.injEq, Target.mk.injEq, Option.some.injEq, decide_eq_false_iff_not] at h
    obtain ⟨-, rfl, hslash⟩ := h
    obtain ⟨rfl, hname⟩ := pieces_of_noSlash hdrop hslash
    have hdots : last ≠ "." ∧ last ≠ ".." := by simpa [isLink] using hlink
    refine ⟨before ++ first, hend, ?_, hname, .inr (by simp [isIdle, hname, hdots.1])⟩
    rw [htrail]
    simp

/-- **Only under a path that ends in a name a file is written.** -/
theorem names_of_writeBytes (h : fs.writeBytes path bytes = .ok fs') :
    ∃ name before, Names path name before ∧ isLink name = false := by
  unfold writeBytes at h
  rw [bind_ok_iff] at h
  obtain ⟨⟨dir, name, slash⟩, htarget, h⟩ := h
  cases name with
  | none => cases h
  | some name =>
    dsimp only at h
    split at h
    · cases h
    next hfree =>
      simp only [Bool.or_eq_true, not_or, Bool.not_eq_true] at hfree
      obtain ⟨⟨hlink, rfl⟩, -⟩ := hfree
      obtain ⟨before, hnames⟩ := names_of_target htarget hlink
      exact ⟨name, before, hnames, hlink⟩

/-! ## Trees in which a path has the same way and the same place -/

theorem placeOf_ends (fs : FileSystem) (h : Path.Ends path name before) :
    fs.placeOf path = fs.locate (name :: before) := by
  obtain ⟨idle, htrail, hidle⟩ := h.split
  unfold FileSystem.placeOf
  rw [htrail, locate_append_idle hidle (by simp)]

/-- A path whose place is not the root ends in something. -/
theorem exists_ends (h : fs.placeOf path ≠ []) : ∃ name before, Path.Ends path name before := by
  obtain ⟨idle, name, before, htrail, htrimmed, hidle, hproper⟩ :=
    Path.trimmed_cases (Path.trail_ne_nil path)
  refine ⟨name, before, htrimmed, ?_⟩
  rintro rfl
  obtain rfl : before = [] := by simpa [isIdle] using hproper
  apply h
  unfold FileSystem.placeOf
  rw [htrail, locate_append_idle hidle (by simp)]
  simp [locate_cons]

/-- The way of a path to its directory and what stands at its place are the same in two trees. -/
structure Alike (path : String) (before : List String) (fs fs' : FileSystem) : Prop where
  settled : fs.Settled
  settled' : fs'.Settled
  here : fs'.here = fs.here
  way : fs'.way before = fs.way before
  occupant : fs'.occupant? (fs.placeOf path) = fs.occupant? (fs.placeOf path)

theorem Alike.way_end (h : Alike path before fs fs') (hends : Path.Ends path name before) :
    fs'.way (name :: before) = fs.way (name :: before) := by
  have hoccupant := h.occupant
  rw [placeOf_ends fs hends] at hoccupant
  rw [FileSystem.way_cons, FileSystem.way_cons, h.way, locate_congr h.here, hoccupant]

theorem Alike.way_behind (h : Alike path before fs fs') (hends : Path.Ends path name before)
    {idle : List String} (hidle : ∀ p ∈ idle, isIdle p = true) :
    fs'.way (idle ++ name :: before) = fs.way (idle ++ name :: before) := by
  rw [way_append_idle hidle (by simp), way_append_idle hidle (by simp), h.way_end hends]

/-- The pieces that are looked up last are found behind the end. -/
theorem exists_last {idle : List String} (hidle : ∀ p ∈ idle, isIdle p = true)
    (hname : name ≠ "") : ∃ blank last rest, idle ++ name :: before = blank ++ last :: rest ∧
      (∀ p ∈ blank, p = "") ∧ last ≠ "" ∧ (rest = before ∨
        ∃ idle', rest = idle' ++ name :: before ∧ ∀ p ∈ idle', isIdle p = true) := by
  induction idle with
  | nil => exact ⟨[], name, before, rfl, by simp, hname, .inl rfl⟩
  | cons p idle ih =>
    have hrest : ∀ q ∈ idle, isIdle q = true := fun q hq => hidle q (List.mem_cons_of_mem _ hq)
    by_cases hp : p = ""
    · obtain ⟨blank, last, rest, heq, hblank, hlast, hcases⟩ := ih hrest
      refine ⟨p :: blank, last, rest, by rw [List.cons_append, heq]; rfl, ?_, hlast, hcases⟩
      intro q hq
      rcases List.mem_cons.1 hq with rfl | hq
      · exact hp
      · exact hblank q hq
    · exact ⟨[], p, idle ++ name :: before, rfl, by simp, hp, .inr ⟨idle, rfl, hrest⟩⟩

theorem Alike.target (h : Alike path before fs fs') (hends : Path.Ends path name before) :
    fs'.target path = fs.target path := by
  by_cases hend : '\x00' ∈ path.toList
  · rw [target_ended hend, target_ended hend]
  · obtain ⟨idle, htrail, hidle⟩ := hends.split
    obtain ⟨blank, last, rest, heq, hblank, hlast, hcases⟩ := exists_last hidle hends.named
    -- the last name is looked up in the directory of the path, or in the end of the path itself
    have hway : fs'.way rest = fs.way rest := by
      rcases hcases with rfl | ⟨idle', rfl, hidle'⟩
      · exact h.way
      · exact h.way_behind hends hidle'
    have hne := hends.ne_empty
    rw [heq] at htrail
    rw [target_name hend hne htrail hblank hlast, target_name hend hne htrail hblank hlast,
      enter_eq h.settled', enter_eq h.settled, hway, locate_congr h.here]

/-- **Then writing fails for the same reason, if it fails.** -/
theorem Alike.writeBytes (h : Alike path before fs fs') (hends : Path.Ends path name before)
    (bytes : ByteArray) (e : FileError) :
    fs'.writeBytes path bytes = .error e ↔ fs.writeBytes path bytes = .error e := by
  have htarget := h.target hends
  by_cases hnamed : ∃ name before, Names path name before ∧ isLink name = false
  · obtain ⟨last, rest, hnames, hlink⟩ := hnamed
    obtain ⟨rfl, rfl⟩ := List.cons.inj (hends.trimmed.symm.trans hnames.ends.trimmed)
    have hoccupant := h.occupant
    rw [placeOf_ends fs hends] at hoccupant
    rw [writeBytes_eq h.settled' hnames hlink, writeBytes_eq h.settled hnames hlink, h.way,
      locate_congr h.here, hoccupant]
    cases fs.way before with
    | blocked => exact Iff.rfl
    | missing => exact Iff.rfl
    | clear => rcases fs.occupant? (fs.locate (name :: before)) with _ | b | _ <;> simp
  · -- without a name the target alone is at fault, and that is the same
    unfold FileSystem.writeBytes
    rw [htarget]
    rcases hcases : fs.target path with e | ⟨dir, _ | last, slash⟩
    · exact Iff.rfl
    · exact Iff.rfl
    · have hdirectory : (isLink last || slash) = true := by
        rw [← Bool.not_eq_false]
        intro hfree
        obtain ⟨hlink, rfl⟩ := Bool.or_eq_false_iff.1 hfree
        obtain ⟨rest, hnames⟩ := names_of_target hcases hlink
        exact hnamed ⟨last, rest, hnames, hlink⟩
      simp [bind, Except.bind, hdirectory]

/-- What is read is what stands at the place that the path leads to. -/
theorem readBytes_of_resolve (hresolve : fs.resolve path = .ok place) :
    fs.readBytes path = match fs.occupant? place with
      | some (.file bytes) => .ok bytes
      | some .directory => .error .isDirectory
      | none => .error .notFound := by
  unfold readBytes occupant? Node.occupant?
  rw [hresolve]
  rcases hget : fs.root.get? place with _ | b | children <;>
    simp [bind, Except.bind, hget, Node.occupant]

/-- **What a path leads to, by the way before its last piece.** -/
theorem resolve_by_way (hsettled : fs.Settled) (hend : '\x00' ∉ path.toList) (hne : path ≠ "")
    (htrail : trail path = name :: before) :
    fs.resolve path = match fs.way before with
      | .clear => match fs.occupant? (fs.placeOf path) with
        | none => .error .notFound
        | some _ => .ok (fs.placeOf path)
      | .blocked => .error .notDirectory
      | .missing => .error .notFound := by
  rw [resolve_eq hend hne, FileSystem.placeOf, htrail]
  exact walk_cons hsettled name before

/-- **A path leads to its place, if it leads somewhere.** -/
theorem place_of_resolve (hsettled : fs.Settled) (hresolve : fs.resolve path = .ok place) :
    place = fs.placeOf path ∧ fs.occupant? place ≠ none := by
  have hend : '\x00' ∉ path.toList := by
    intro hend
    unfold resolve at hresolve
    rw [start_ended hend] at hresolve
    cases hresolve
  have hne : path ≠ "" := by
    rintro rfl
    cases hresolve
  obtain ⟨name, before, htrail⟩ := List.exists_cons_of_ne_nil (Path.trail_ne_nil path)
  rw [resolve_by_way hsettled hend hne htrail] at hresolve
  split at hresolve
  · split at hresolve
    · cases hresolve
    next hsome =>
      cases hresolve
      exact ⟨rfl, by simp [hsome]⟩
  · cases hresolve
  · cases hresolve

/-- Nothing is read under a path that holds the character that ends paths. -/
theorem readBytes_ended (fs : FileSystem) (hend : '\x00' ∈ path.toList) :
    fs.readBytes path = .error .endMark := by
  unfold readBytes resolve
  rw [start_ended hend]
  rfl

/-- **Then the same is read.** -/
theorem Alike.readBytes (h : Alike path before fs fs') (hends : Path.Ends path name before) :
    fs'.readBytes path = fs.readBytes path := by
  by_cases hend : '\x00' ∈ path.toList
  · rw [readBytes_ended fs hend, readBytes_ended fs' hend]
  · have hplace : fs'.placeOf path = fs.placeOf path := locate_congr h.here _
    have hresolve : fs'.resolve path = fs.resolve path := by
      obtain ⟨idle, htrail, hidle⟩ := hends.split
      cases idle with
      | nil =>
        rw [resolve_by_way h.settled' hend hends.ne_empty htrail,
          resolve_by_way h.settled hend hends.ne_empty htrail, h.way, hplace, h.occupant]
      | cons p idle =>
        have hway := h.way_behind hends fun q hq => hidle q (List.mem_cons_of_mem _ hq)
        rw [List.cons_append] at htrail
        rw [resolve_by_way h.settled' hend hends.ne_empty htrail,
          resolve_by_way h.settled hend hends.ne_empty htrail, hway, hplace, h.occupant]
    cases hcases : fs.resolve path with
    | error e =>
      unfold FileSystem.readBytes
      rw [hresolve, hcases]
      rfl
    | ok place =>
      obtain ⟨rfl, -⟩ := place_of_resolve h.settled hcases
      rw [readBytes_of_resolve (hresolve.trans hcases), readBytes_of_resolve hcases, h.occupant]

end FileSystem

end SdkGen
