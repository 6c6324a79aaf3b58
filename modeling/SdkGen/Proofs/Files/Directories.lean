import SdkGen.Proofs.Files.Place

/-!
# Making directories

A directory is made with those above it that are missing. That fails only where a file is in the
way, and then it fails again, whatever else is written in the meantime.

* `ensureDirectory_eq`: what becomes of one directory.
* `makeChain_clear`, `makeChain_blocked`, `makeChain_missing`: what becomes of a directory and
  those above it, by what is in the way.
* `makeChain_new`: only places on the way are new.
-/

namespace SdkGen

open SdkGen.Path (trail isIdle trimmed ofReversed ancestorsOf Trim Slashless)

namespace Path

variable {path name : String} {ps before : List String} {n : Nat}

/-- A path that names something in the directory before its last piece. -/
structure Names (path name : String) (before : List String) : Prop where
  unended : '\x00' ∉ path.toList
  trail : trail path = name :: before
  named : name ≠ ""
  proper : before = [] ∨ isIdle name = false

theorem Names.ne_empty (h : Names path name before) : path ≠ "" := by
  rintro rfl
  have htrail : [""] = name :: before := h.trail
  exact h.named (List.cons.inj htrail).1.symm

/-- No piece holds a slash or the character that ends paths. -/
def Clean (ps : List String) : Prop := Slashless ps ∧ ∀ p ∈ ps, '\x00' ∉ p.toList

theorem Clean.suffix {up : List String} (h : Clean ps) (hup : up <:+ ps) : Clean up :=
  ⟨h.1.suffix hup, fun p hp => h.2 p (hup.subset hp)⟩

/-- A trail that ends in a proper piece makes a path that names it. -/
theorem names_ofReversed (hclean : Clean (name :: before)) (hname : name ≠ "")
    (hproper : before = [] ∨ isIdle name = false) :
    Names (ofReversed (name :: before)) name before := by
  have htrail : Path.trail (ofReversed (name :: before)) = name :: before :=
    trail_ofReversed (by simp) (by simp [hname]) hclean.1
  refine ⟨?_, htrail, hname, hproper⟩
  rw [mem_path (by decide), htrail]
  rintro ⟨p, hp, hmem⟩
  exact hclean.2 p hp hmem

/-- The trail of a directory: it ends in a proper piece, which holds no character that pieces do
not hold. -/
structure Proper (ps : List String) : Prop where
  nonempty : ps ≠ []
  trim : Trim ps
  clean : Clean ps

/-- Such a trail is that of the root, or it names something. -/
theorem Proper.cases (h : Proper ps) :
    ps = [""] ∨ ∃ name before, ps = name :: before ∧ Names (ofReversed ps) name before := by
  obtain ⟨name, before, rfl⟩ := List.exists_cons_of_ne_nil h.nonempty
  by_cases hroot : name :: before = [""]
  · exact .inl hroot
  · have hproper := trim_cons_iff.1 h.trim
    refine .inr ⟨name, before, rfl, names_ofReversed h.clean ?_ hproper⟩
    rintro rfl
    rcases hproper with rfl | hidle
    · exact hroot rfl
    · cases hidle

theorem trimmed_suffix (ps : List String) : trimmed ps <:+ ps := by
  by_cases hne : ps = []
  · subst hne
    exact List.suffix_refl _
  · obtain ⟨idle, name, before, rfl, htrimmed, -, -⟩ := trimmed_cases hne
    rw [htrimmed]
    exact List.suffix_append _ _

theorem trimmed_ne_nil (hne : ps ≠ []) : trimmed ps ≠ [] := by
  obtain ⟨idle, name, before, -, htrimmed, -, -⟩ := trimmed_cases hne
  rw [htrimmed]
  simp

/-- What is above the trail of a directory is one as well. -/
theorem Proper.up (h : Proper (name :: before)) (hne : before ≠ []) : Proper (trimmed before) :=
  ⟨trimmed_ne_nil hne, trim_trimmed before,
    h.clean.suffix ((trimmed_suffix before).trans (List.suffix_cons name before))⟩

theorem above_eq (h : trimmed ps = name :: before) (hname : name ≠ "") :
    above ps = some (trimmed before) := by
  unfold above
  rw [h]
  split
  next heq => cases heq
  next heq => exact absurd (List.cons.inj heq).1 hname
  next heq =>
    rw [(List.cons.inj heq).2]
    rfl
  next heq => rw [(List.cons.inj heq).2]

/-- A path stands before those above it. -/
theorem ancestorsOf_cons (htrim : Trim (name :: before)) (hname : name ≠ "") :
    ancestorsOf (n + 1) (name :: before) = ofReversed (name :: before) ::
      if before = [] then [] else ancestorsOf n (trimmed before) := by
  rw [ancestorsOf, above_eq htrim hname]
  by_cases hbefore : before = []
  · subst hbefore
    rfl
  · rw [if_neg hbefore]
    obtain ⟨p, ps, hup⟩ := List.exists_cons_of_ne_nil (trimmed_ne_nil hbefore)
    rw [hup]

theorem ancestorsOf_root (n : Nat) : ancestorsOf n [""] = [] := by
  cases n <;> rfl

/-- The ancestors of a path that is made of pieces are read off the pieces. -/
theorem ancestors_ofReversed (hne : ps ≠ []) (hslash : Slashless ps) :
    ancestors (ofReversed ps) = ancestorsOf ps.length ps := by
  by_cases hroot : ps = [""]
  · rw [hroot]
    rfl
  · have htrail := trail_ofReversed hne hroot hslash
    unfold Path.trail at htrail
    unfold ancestors
    rw [htrail]

end Path

namespace FileSystem

variable {fs fs' : FileSystem} {path name : String} {place q : List String}
  {ps before : List String} {n : Nat}

theorem way_root (hsettled : fs.Settled) : fs.way [""] = .clear := by
  rw [way_cons_clear hsettled.way_nil]
  exact Way.of_eq_clear_iff.2 hsettled.root

/-! ## One directory -/

theorem isDirectory_iff (hsettled : fs.Settled) (hend : '\x00' ∉ path.toList) (hne : path ≠ "") :
    fs.isDirectory path = true ↔ fs.way (trail path) = .clear := by
  have henter := enter_eq hsettled (trail path)
  unfold enter at henter
  unfold isDirectory
  rw [resolve_eq hend hne]
  cases hwalk : fs.walk (trail path) with
  | error e =>
    rw [hwalk] at henter
    cases hway : fs.way (trail path) <;> simp_all [bind, Except.bind]
  | ok place =>
    rw [hwalk] at henter
    cases hdirectory : fs.isDirectoryAt place <;> cases hway : fs.way (trail path) <;>
      simp_all [bind, Except.bind]

/-- What is named is looked up in the directory before it. -/
theorem target_names (fs : FileSystem) (h : Path.Names path name before) :
    fs.target path = (fs.enter before).map fun dir => ⟨dir, some name, false⟩ := by
  have htrail : trail path = [] ++ name :: before := h.trail
  exact target_name h.unended h.ne_empty htrail (by simp) h.named

/-- The tree with a new directory. -/
def addDirectory (fs : FileSystem) (place : List String) : FileSystem :=
  { fs with root := Node.put .emptyDirectory fs.root place }

/-- A piece of its own leads down. -/
theorem locate_name (hlink : isLink name = false) (hname : name ≠ "") :
    fs.locate (name :: before) = fs.locate before ++ [name] := by
  have hdots : name ≠ "." ∧ name ≠ ".." := by simpa [isLink] using hlink
  rw [locate_cons, if_neg fun h => hname h.1, move]
  simp [isIdle, hname, hdots.1, hdots.2]

/-- Dots lead to a directory that is there. -/
theorem directory_of_link (hlink : isLink name = true) (hname : name ≠ "")
    (hclear : fs.way before = .clear) :
    fs.occupant? (fs.locate (name :: before)) = some .directory := by
  have hdirectory := directory_of_clear hclear
  rw [locate_cons, if_neg fun h => hname h.1, move]
  by_cases hdot : name = "."
  · simpa [hdot, isIdle] using hdirectory
  · have hdots : name = ".." := by simpa [isLink, hdot] using hlink
    simpa [hdots, isIdle] using directory_dropLast hdirectory

/-- **What becomes of one directory.** It is made where nothing stands, in a directory that can be
entered; it may be there already. -/
theorem ensureDirectory_eq (hsettled : fs.Settled) (h : Path.Names path name before) :
    fs.ensureDirectory path = match fs.way before with
      | .blocked => (fs, some .notDirectory)
      | .missing => (fs, some .notFound)
      | .clear => match fs.occupant? (fs.locate (name :: before)) with
        | some .directory => (fs, none)
        | some (.file _) => (fs, some .exists)
        | none => (fs.addDirectory (fs.locate (name :: before)), none) := by
  have htarget := target_names fs h
  rw [enter_eq hsettled] at htarget
  unfold ensureDirectory makeDirectory
  rw [htarget]
  cases hway : fs.way before with
  | blocked => rfl
  | missing => rfl
  | clear =>
    have hdirectory := isDirectory_iff hsettled h.unended h.ne_empty
    rw [h.trail, way_cons_clear hway, Way.of_eq_clear_iff] at hdirectory
    simp only [Except.map, bind, Except.bind]
    cases hlink : isLink name with
    | true =>
      have hthere := directory_of_link hlink h.named hway
      simp [hthere, hdirectory]
    | false =>
      have hsome : (fs.root.get? (fs.locate before ++ [name])).isSome = true ↔
          fs.occupant? (fs.locate before ++ [name]) ≠ none := isSome_get?_iff
      rw [locate_name hlink h.named] at hdirectory ⊢
      rcases hplace : fs.occupant? (fs.locate before ++ [name]) with _ | bytes | _ <;>
        simp_all [addDirectory]

/-! ## A directory that is new -/

theorem occupant?_addDirectory (hclear : fs.way before = .clear) (hname : name ≠ "")
    (hnone : fs.occupant? (fs.locate (name :: before)) = none) (q : List String) :
    (fs.addDirectory (fs.locate (name :: before))).occupant? q =
      if q = fs.locate (name :: before) then some .directory else fs.occupant? q := by
  have hlink : isLink name = false := by
    rw [← Bool.not_eq_true]
    intro hlink
    rw [directory_of_link hlink hname hclear] at hnone
    cases hnone
  rw [locate_name hlink hname] at hnone ⊢
  have hfree : fs.root.occupant? (fs.locate before ++ [name]) ≠ some .directory := by
    intro hdirectory
    cases hnone.symm.trans hdirectory
  exact Node.occupant?_put (v := .emptyDirectory) (directory_of_clear hclear) hfree
    (fun _ _ => rfl) q

/-- A new directory clears the way to it. -/
theorem way_addDirectory (hclear : fs.way before = .clear) (hname : name ≠ "")
    (hnone : fs.occupant? (fs.locate (name :: before)) = none)
    (hextends : Extends fs (fs.addDirectory (fs.locate (name :: before)))) :
    (fs.addDirectory (fs.locate (name :: before))).way (name :: before) = .clear := by
  rw [way_cons_clear (hextends.keeps.clear hclear), locate_congr hextends.here,
    occupant?_addDirectory hclear hname hnone, if_pos rfl]
  rfl

/-! ## A directory by its way -/

/-- Why a directory cannot be made where a file is in the way. -/
def blockage (fs : FileSystem) : List String → FileError
  | [] => .notDirectory
  | _ :: before => if fs.way before = .blocked then .notDirectory else .exists

theorem blockage_ne_notFound (fs : FileSystem) (ps : List String) :
    fs.blockage ps ≠ .notFound := by
  cases ps with
  | nil => simp [blockage]
  | cons name before =>
    rw [blockage]
    split <;> simp

/-- The reason stays the same as well. -/
theorem Keeps.blockage (h : Keeps fs fs') (hblocked : fs.way ps = .blocked) :
    fs'.blockage ps = fs.blockage ps := by
  cases ps with
  | nil => rfl
  | cons name before =>
    rw [FileSystem.blockage, FileSystem.blockage]
    cases hway : fs.way before with
    | clear => rw [h.clear hway]
    | blocked => rw [h.blocked hway]
    | missing =>
      rw [way_cons, hway] at hblocked
      cases hblocked

theorem ensureDirectory_clear (hsettled : fs.Settled) (h : Path.Names path name before)
    (hway : fs.way (name :: before) = .clear) : fs.ensureDirectory path = (fs, none) := by
  rw [ensureDirectory_eq hsettled h, clear_of_cons hway, directory_of_clear hway]

theorem ensureDirectory_blocked (hsettled : fs.Settled) (h : Path.Names path name before)
    (hway : fs.way (name :: before) = .blocked) :
    fs.ensureDirectory path = (fs, some (fs.blockage (name :: before))) := by
  rw [ensureDirectory_eq hsettled h, blockage]
  cases hbefore : fs.way before with
  | blocked => rfl
  | missing =>
    rw [way_cons, hbefore] at hway
    cases hway
  | clear =>
    rw [way_cons_clear hbefore] at hway
    obtain ⟨bytes, hfile⟩ := Way.of_eq_blocked_iff.1 hway
    rw [hfile]
    rfl

/-- Where nothing stands, the directory is made, unless those above it are missing as well. -/
theorem ensureDirectory_missing (hsettled : fs.Settled) (h : Path.Names path name before)
    (hway : fs.way (name :: before) = .missing) :
    fs.way before = .missing ∧ fs.ensureDirectory path = (fs, some .notFound) ∨
      ∃ fs', fs.ensureDirectory path = (fs', none) ∧ fs'.way (name :: before) = .clear := by
  have hensure := ensureDirectory_eq hsettled h
  cases hbefore : fs.way before with
  | blocked =>
    rw [way_cons, hbefore] at hway
    cases hway
  | missing =>
    rw [hbefore] at hensure
    exact .inl ⟨rfl, hensure⟩
  | clear =>
    rw [way_cons_clear hbefore] at hway
    have hnone := Way.of_eq_missing_iff.1 hway
    rw [hbefore, hnone] at hensure
    have hextends := extends_ensureDirectory fs path
    rw [hensure] at hextends
    exact .inr ⟨_, hensure, way_addDirectory hbefore h.named hnone hextends⟩

/-! ## A directory and those above it -/

/-- Only a directory that is not found sends up to those above. -/
theorem makeChain_cons {above : List String} (h : (fs.ensureDirectory path).2 ≠ some .notFound) :
    fs.makeChain (path :: above) = fs.ensureDirectory path := by
  rw [makeChain_step]
  split
  next heq => exact absurd (congrArg Prod.snd heq) h
  next => rfl

/-- A directory that is not found is tried again in the tree that those above it leave. -/
theorem makeChain_notFound {above : List String}
    (h : (fs.ensureDirectory path).2 = some .notFound) :
    fs.makeChain (path :: above) = match fs.makeChain above with
      | (fs', none) => fs'.ensureDirectory path
      | failed => failed := by
  obtain ⟨fs', hensure⟩ : ∃ fs', fs.ensureDirectory path = (fs', some .notFound) :=
    ⟨(fs.ensureDirectory path).1, Prod.ext rfl h⟩
  rewrite [makeChain_step, hensure]
  rfl

/-- **Where the way is clear, nothing is made.** -/
theorem makeChain_clear (hsettled : fs.Settled) (h : Path.Proper ps) (hway : fs.way ps = .clear) :
    fs.makeChain (ancestorsOf n ps) = (fs, none) := by
  rcases h.cases with rfl | ⟨name, before, rfl, hnames⟩
  · rw [Path.ancestorsOf_root]
    rfl
  · cases n with
    | zero => rfl
    | succ n =>
      have hensure := ensureDirectory_clear hsettled hnames hway
      rw [Path.ancestorsOf_cons h.trim hnames.named, makeChain_cons, hensure]
      simp [hensure]

/-- **Where a file is in the way, nothing is made, and that is an error.** -/
theorem makeChain_blocked (hsettled : fs.Settled) (h : Path.Proper ps)
    (hway : fs.way ps = .blocked) :
    fs.makeChain (ancestorsOf (n + 1) ps) = (fs, some (fs.blockage ps)) := by
  rcases h.cases with rfl | ⟨name, before, rfl, hnames⟩
  · rw [way_root hsettled] at hway
    cases hway
  · have hensure := ensureDirectory_blocked hsettled hnames hway
    rw [Path.ancestorsOf_cons h.trim hnames.named, makeChain_cons, hensure]
    rw [hensure]
    simpa using blockage_ne_notFound fs (name :: before)

/-- The directory itself comes last, when those above it are there. -/
theorem ensureDirectory_last (hsettled : fs.Settled) (h : Path.Names path name before)
    (hbefore : fs.way before = .clear) :
    (fs.ensureDirectory path).2 = none ∧
        (fs.ensureDirectory path).1.way (name :: before) = .clear ∨
      (fs.ensureDirectory path).2 ≠ none ∧
        (fs.ensureDirectory path).1.way (name :: before) = .blocked := by
  cases hway : fs.way (name :: before) with
  | clear =>
    rw [ensureDirectory_clear hsettled h hway]
    exact .inl ⟨rfl, hway⟩
  | blocked =>
    rw [ensureDirectory_blocked hsettled h hway]
    exact .inr ⟨Option.some_ne_none _, hway⟩
  | missing =>
    rcases ensureDirectory_missing hsettled h hway with ⟨hmissing, -⟩ | ⟨fs', hensure, hclear⟩
    · cases hbefore.symm.trans hmissing
    · rw [hensure]
      exact .inl ⟨rfl, hclear⟩

/-- **Where nothing stands on the way, all of it is made, or it comes upon a file.** -/
theorem makeChain_missing (hsettled : fs.Settled) (h : Path.Proper ps)
    (hway : fs.way ps = .missing) (hlength : ps.length ≤ n) :
    (fs.makeChain (ancestorsOf n ps)).2 = none ∧
        (fs.makeChain (ancestorsOf n ps)).1.way ps = .clear ∨
      (fs.makeChain (ancestorsOf n ps)).2 ≠ none ∧
        (fs.makeChain (ancestorsOf n ps)).1.way ps = .blocked := by
  induction n generalizing ps with
  | zero => exact absurd (List.eq_nil_of_length_eq_zero (Nat.le_zero.1 hlength)) h.nonempty
  | succ n ih =>
    rcases h.cases with rfl | ⟨name, before, rfl, hnames⟩
    · rw [way_root hsettled] at hway
      cases hway
    rw [Path.ancestorsOf_cons h.trim hnames.named]
    rcases ensureDirectory_missing hsettled hnames hway with
      ⟨hbefore, hensure⟩ | ⟨fs', hensure, hclear⟩
    · -- those above come first, and they make a tree in which the directory is tried again
      have hne : before ≠ [] := by
        rintro rfl
        cases hsettled.way_nil.symm.trans hbefore
      have habove := ih (h.up hne) ((way_trimmed fs before).trans hbefore)
        (Nat.le_trans (Path.trimmed_suffix before).length_le (Nat.le_of_succ_le_succ hlength))
      have hextends := extends_makeChain fs (ancestorsOf n (trimmed before))
      rw [if_neg hne, makeChain_notFound (by rw [hensure])]
      rcases hchain : fs.makeChain (ancestorsOf n (trimmed before)) with ⟨fs₁, _ | e⟩
      · rw [hchain] at habove hextends
        rcases habove with ⟨-, hclear⟩ | ⟨hsome, -⟩
        · rw [way_trimmed] at hclear
          exact ensureDirectory_last (hextends.keeps.settled hsettled) hnames hclear
        · exact absurd rfl hsome
      · rw [hchain] at habove
        rcases habove with ⟨hnone, -⟩ | ⟨-, hblocked⟩
        · cases hnone
        · rw [way_trimmed] at hblocked
          exact .inr ⟨Option.some_ne_none _, by rw [way_cons, hblocked]⟩
    · rw [makeChain_cons (by simp [hensure]), hensure]
      exact .inl ⟨rfl, hclear⟩

/-! ## Places that are new -/

/-- Only the place that the path leads to is new. -/
theorem ensureDirectory_new (hsettled : fs.Settled) (h : Path.Names path name before)
    (hnone : fs.occupant? q = none) (hthere : (fs.ensureDirectory path).1.occupant? q ≠ none) :
    q = fs.locate (name :: before) := by
  rw [ensureDirectory_eq hsettled h] at hthere
  cases hway : fs.way before with
  | blocked =>
    rw [hway] at hthere
    exact absurd hnone hthere
  | missing =>
    rw [hway] at hthere
    exact absurd hnone hthere
  | clear =>
    rw [hway] at hthere
    rcases hplace : fs.occupant? (fs.locate (name :: before)) with _ | bytes | _
    · rw [hplace] at hthere
      dsimp only at hthere
      rw [occupant?_addDirectory hway h.named hplace] at hthere
      by_cases hq : q = fs.locate (name :: before)
      · exact hq
      · rw [if_neg hq] at hthere
        exact absurd hnone hthere
    · rw [hplace] at hthere
      exact absurd hnone hthere
    · rw [hplace] at hthere
      exact absurd hnone hthere

/-- **Only places on the way are new.** -/
theorem makeChain_new (hsettled : fs.Settled) (h : Path.Proper ps)
    (hnone : fs.occupant? q = none)
    (hthere : (fs.makeChain (ancestorsOf n ps)).1.occupant? q ≠ none) :
    ∃ s, s <:+ ps ∧ q = fs.locate s := by
  induction n generalizing ps with
  | zero => exact absurd hnone hthere
  | succ n ih =>
    rcases h.cases with rfl | ⟨name, before, rfl, hnames⟩
    · rw [Path.ancestorsOf_root] at hthere
      exact absurd hnone hthere
    have hsuffix : trimmed before <:+ name :: before :=
      (Path.trimmed_suffix before).trans (List.suffix_cons name before)
    rw [Path.ancestorsOf_cons h.trim hnames.named] at hthere
    by_cases hensure : (fs.ensureDirectory (ofReversed (name :: before))).2 = some .notFound
    · -- what is new was made above, or it is the directory itself
      obtain ⟨above, habove⟩ : ∃ above, above =
          if before = [] then [] else ancestorsOf n (trimmed before) := ⟨_, rfl⟩
      have hextends := extends_makeChain fs above
      have hnew : (fs.makeChain above).1.occupant? q ≠ none →
          ∃ s, s <:+ name :: before ∧ q = fs.locate s := by
        intro hq
        by_cases hne : before = []
        · rw [habove, if_pos hne] at hq
          exact absurd hnone hq
        · rw [habove, if_neg hne] at hq
          obtain ⟨s, hs, hplace⟩ := ih (h.up hne) hq
          exact ⟨s, hs.trans hsuffix, hplace⟩
      rw [← habove, makeChain_notFound hensure] at hthere
      rcases hchain : fs.makeChain above with ⟨fs₁, _ | e⟩
      · rw [hchain] at hthere hnew hextends
        dsimp only at hthere hnew
        by_cases hq : fs₁.occupant? q = none
        · have hlast := ensureDirectory_new (hextends.keeps.settled hsettled) hnames hq hthere
          exact ⟨_, List.suffix_refl _, hlast.trans (locate_congr hextends.here _)⟩
        · exact hnew hq
      · rw [hchain] at hthere hnew
        exact hnew hthere
    · rw [makeChain_cons hensure] at hthere
      exact ⟨_, List.suffix_refl _, ensureDirectory_new hsettled hnames hnone hthere⟩

end FileSystem

end SdkGen
