import Mathlib.Data.List.Induction
import SdkGen.Proofs.Files.FileSystem
import SdkGen.Proofs.Files.Pieces

/-!
# Places

Nothing in a tree leads elsewhere, so the place that a path leads to can be read off its pieces,
whether or not anything stands there. A path is followed along its trail as far as directories
stand there.

* `locate`, `placeOf`: the place that a trail and a path lead to.
* `way`: whether a trail leads through directories only, and what it comes upon first if not.
* `walk_cons`, `enter_eq`: following a trail, by what is in the way.
* `resolve_eq`, `target_name`: a path and what it names, by its trail.
-/

namespace SdkGen.FileSystem

open SdkGen.Path (trail isIdle)

variable {fs fs' : FileSystem} {path name piece : String} {place q : List String}
  {ps before blank : List String} {bytes : ByteArray}

/-! ## Where a trail leads -/

/-- Where a piece leads from a place. -/
def move (place : List String) (piece : String) : List String :=
  if isIdle piece then place
  else if piece = ".." then place.dropLast
  else place ++ [piece]

/-- The place that a trail leads to. Only the first piece of a path that starts at the root is
empty and has nothing before it. -/
def locate (fs : FileSystem) : List String → List String
  | [] => fs.here
  | piece :: before =>
    if piece = "" ∧ before = [] then [] else move (fs.locate before) piece

/-- The place that a path leads to, whether or not anything stands there. -/
def placeOf (fs : FileSystem) (path : String) : List String := fs.locate (trail path)

/-- What a trail comes upon: directories only, or a file, or a place where nothing stands. -/
inductive Way
  | clear
  | blocked
  | missing
  deriving DecidableEq

/-- How a place can be entered where this stands. -/
def Way.of : Option Occupant → Way
  | some .directory => clear
  | some (.file _) => blocked
  | none => missing

/-- What a trail comes upon first. -/
def way (fs : FileSystem) : List String → Way
  | [] => .of (fs.occupant? fs.here)
  | piece :: before =>
    match fs.way before with
    | .clear => .of (fs.occupant? (fs.locate (piece :: before)))
    | other => other

/-- Follows a trail. -/
def walk (fs : FileSystem) : List String → Except FileError (List String)
  | [] => .ok fs.here
  | piece :: before =>
    if piece = "" ∧ before = [] then .ok [] else fs.walk before >>= (fs.step · piece)

/-- Follows a trail to a directory. -/
def enter (fs : FileSystem) (ps : List String) : Except FileError (List String) := do
  let place ← fs.walk ps
  if fs.isDirectoryAt place then .ok place else .error .notDirectory

theorem locate_nil (fs : FileSystem) : fs.locate [] = fs.here := rfl

theorem locate_cons (fs : FileSystem) (piece : String) (before : List String) :
    fs.locate (piece :: before) =
      if piece = "" ∧ before = [] then [] else move (fs.locate before) piece := rfl

theorem way_cons (fs : FileSystem) (piece : String) (before : List String) :
    fs.way (piece :: before) =
      match fs.way before with
      | .clear => .of (fs.occupant? (fs.locate (piece :: before)))
      | other => other := rfl

theorem Way.of_eq_clear_iff {e : Option Occupant} : Way.of e = .clear ↔ e = some .directory := by
  rcases e with _ | _ | _ <;> simp [Way.of]

theorem Way.of_eq_blocked_iff {e : Option Occupant} :
    Way.of e = .blocked ↔ ∃ bytes, e = some (.file bytes) := by
  rcases e with _ | _ | _ <;> simp [Way.of]

theorem Way.of_eq_missing_iff {e : Option Occupant} : Way.of e = .missing ↔ e = none := by
  rcases e with _ | _ | _ <;> simp [Way.of]

/-! ## What stands above a place -/

/-- Above whatever stands somewhere, directories stand. -/
theorem directory_above (hq : q <+: place) (hne : q ≠ place) (h : fs.occupant? place ≠ none) :
    fs.occupant? q = some .directory := by
  obtain ⟨rest, rfl⟩ := hq
  cases rest with
  | nil => exact absurd (List.append_nil q).symm hne
  | cons name rest =>
    refine Classical.byContradiction fun hnot => h ?_
    exact Node.occupant?_below hnot

theorem directory_dropLast (h : fs.occupant? place = some .directory) :
    fs.occupant? place.dropLast = some .directory := by
  by_cases hne : place.dropLast = place
  · rw [hne]
    exact h
  · exact directory_above (List.dropLast_prefix place) hne (h ▸ Option.some_ne_none _)

/-- A step from a directory leads where the piece leads, if something stands there. -/
theorem step_directory (h : fs.occupant? place = some .directory) :
    fs.step place piece = match fs.occupant? (move place piece) with
      | none => .error .notFound
      | some _ => .ok (move place piece) := by
  have hdirectory := isDirectoryAt_iff.2 h
  have hup := directory_dropLast h
  unfold step move
  rw [hdirectory]
  cases hidle : isIdle piece with
  | true => simp [h]
  | false =>
    by_cases hdots : piece = ".."
    · simp [hdots, hup]
    · have hsome : (fs.root.get? (place ++ [piece])).isSome = true ↔
          fs.occupant? (place ++ [piece]) ≠ none := isSome_get?_iff
      cases hnext : fs.occupant? (place ++ [piece]) with
      | none => simp_all
      | some e => simp_all

/-! ## Following a trail -/

/-- The working directory is there. -/
def Settled (fs : FileSystem) : Prop := fs.occupant? fs.here = some .directory

theorem Settled.root (h : fs.Settled) : fs.occupant? [] = some .directory := by
  by_cases hne : [] = fs.here
  · rw [hne]
    exact h
  · exact directory_above List.nil_prefix hne (h ▸ Option.some_ne_none _)

theorem Settled.way_nil (h : fs.Settled) : fs.way [] = .clear := Way.of_eq_clear_iff.2 h

/-- Whether a step starts in a directory is checked by the step itself. -/
theorem walk_bind_step (fs : FileSystem) (ps : List String) (piece : String) :
    (fs.walk ps >>= (fs.step · piece)) = (fs.enter ps >>= (fs.step · piece)) := by
  unfold enter
  cases fs.walk ps with
  | error e => rfl
  | ok place =>
    cases hdirectory : fs.isDirectoryAt place with
    | true => simp [bind, Except.bind, hdirectory]
    | false => simp [bind, Except.bind, hdirectory, step]

/-- What becomes of the last step, if the trail before it is entered as its way says. -/
theorem walk_cons_of (hroot : fs.occupant? [] = some .directory)
    (hempty : before = [] → fs.way before = .clear)
    (henter : fs.enter before = match fs.way before with
      | .clear => .ok (fs.locate before)
      | .blocked => .error .notDirectory
      | .missing => .error .notFound)
    (hclear : fs.way before = .clear → fs.occupant? (fs.locate before) = some .directory) :
    fs.walk (piece :: before) = match fs.way before with
      | .clear => match fs.occupant? (fs.locate (piece :: before)) with
        | none => .error .notFound
        | some _ => .ok (fs.locate (piece :: before))
      | .blocked => .error .notDirectory
      | .missing => .error .notFound := by
  unfold walk
  by_cases hfirst : piece = "" ∧ before = []
  · rw [if_pos hfirst, hempty hfirst.2]
    simp [locate_cons, hfirst, hroot]
  · -- the step is taken from a directory, or not at all
    rw [if_neg hfirst, walk_bind_step, henter]
    cases hway : fs.way before with
    | clear =>
      simp only [bind, Except.bind, locate_cons, if_neg hfirst]
      exact step_directory (hclear hway)
    | blocked => rfl
    | missing => rfl

theorem way_cons_clear (h : fs.way before = .clear) :
    fs.way (piece :: before) = .of (fs.occupant? (fs.locate (piece :: before))) := by
  rw [way_cons, h]

/-- Where a clear way ends, a directory stands. -/
theorem directory_of_clear (h : fs.way ps = .clear) :
    fs.occupant? (fs.locate ps) = some .directory := by
  cases ps with
  | nil => exact Way.of_eq_clear_iff.1 h
  | cons piece before =>
    rw [way_cons] at h
    split at h
    · exact Way.of_eq_clear_iff.1 h
    next hnot => exact absurd h hnot

/-- **A trail is entered exactly if its way is clear.** -/
theorem enter_eq (hsettled : fs.Settled) (ps : List String) :
    fs.enter ps = match fs.way ps with
      | .clear => .ok (fs.locate ps)
      | .blocked => .error .notDirectory
      | .missing => .error .notFound := by
  have hhere := isDirectoryAt_iff.2 hsettled
  induction ps with
  | nil =>
    rw [hsettled.way_nil]
    simp [enter, walk, locate_nil, hhere, bind, Except.bind]
  | cons piece before ih =>
    have hempty : before = [] → fs.way before = .clear := by
      rintro rfl
      exact hsettled.way_nil
    have hwalk := @walk_cons_of fs piece before hsettled.root hempty ih directory_of_clear
    unfold enter
    rw [hwalk]
    cases hway : fs.way before with
    | blocked => simp [way_cons, hway, bind, Except.bind]
    | missing => simp [way_cons, hway, bind, Except.bind]
    | clear =>
      rw [way_cons_clear hway]
      have hiff : fs.isDirectoryAt (fs.locate (piece :: before)) = true ↔
          fs.occupant? (fs.locate (piece :: before)) = some .directory := isDirectoryAt_iff
      rcases hplace : fs.occupant? (fs.locate (piece :: before)) with _ | bytes | _
      · rfl
      · simp_all [Way.of, bind, Except.bind]
      · simp_all [Way.of, bind, Except.bind]

/-- **What becomes of the last step of a trail.** -/
theorem walk_cons (hsettled : fs.Settled) (piece : String) (before : List String) :
    fs.walk (piece :: before) = match fs.way before with
      | .clear => match fs.occupant? (fs.locate (piece :: before)) with
        | none => .error .notFound
        | some _ => .ok (fs.locate (piece :: before))
      | .blocked => .error .notDirectory
      | .missing => .error .notFound := by
  refine walk_cons_of hsettled.root ?_ (enter_eq hsettled before) directory_of_clear
  rintro rfl
  exact hsettled.way_nil

/-! ## Ways in a tree that changes -/

theorem locate_congr (hhere : fs'.here = fs.here) (ps : List String) :
    fs'.locate ps = fs.locate ps := by
  induction ps with
  | nil => exact hhere
  | cons piece before ih => rw [locate_cons, locate_cons, ih]

theorem Keeps.placeOf (h : Keeps fs fs') (path : String) : fs'.placeOf path = fs.placeOf path :=
  locate_congr h.here _

theorem Keeps.settled (h : Keeps fs fs') (hsettled : fs.Settled) : fs'.Settled := by
  unfold Settled
  rw [h.here]
  exact h.directory _ hsettled

/-- What can be entered at first can be entered at last. -/
theorem clear_of_cons (h : fs.way (piece :: before) = .clear) : fs.way before = .clear := by
  rw [way_cons] at h
  split at h
  next hclear => exact hclear
  next hnot => exact absurd h hnot

/-- **A clear way stays clear,** as long as directories and files stay what they are. -/
theorem Keeps.clear (h : Keeps fs fs') (hclear : fs.way ps = .clear) : fs'.way ps = .clear := by
  induction ps with
  | nil =>
    refine Way.of_eq_clear_iff.2 ?_
    rw [h.here]
    exact h.directory _ (Way.of_eq_clear_iff.1 hclear)
  | cons piece before ih =>
    rw [way_cons_clear (ih (clear_of_cons hclear)), locate_congr h.here]
    exact Way.of_eq_clear_iff.2 (h.directory _ (directory_of_clear hclear))

/-- **A blocked way stays blocked.** -/
theorem Keeps.blocked (h : Keeps fs fs') (hblocked : fs.way ps = .blocked) :
    fs'.way ps = .blocked := by
  induction ps with
  | nil =>
    obtain ⟨bytes, hfile⟩ := Way.of_eq_blocked_iff.1 hblocked
    refine Way.of_eq_blocked_iff.2 ?_
    rw [h.here]
    exact h.file _ _ hfile
  | cons piece before ih =>
    cases hway : fs.way before with
    | clear =>
      rw [way_cons_clear hway] at hblocked
      obtain ⟨bytes, hfile⟩ := Way.of_eq_blocked_iff.1 hblocked
      rw [way_cons_clear (h.clear hway), locate_congr h.here]
      exact Way.of_eq_blocked_iff.2 (h.file _ _ hfile)
    | blocked => rw [way_cons, ih hway]
    | missing =>
      rw [way_cons, hway] at hblocked
      cases hblocked

/-! ## Idle pieces -/

theorem locate_idle (hidle : isIdle piece = true) (hne : before ≠ []) :
    fs.locate (piece :: before) = fs.locate before := by
  rw [locate_cons, if_neg fun h => hne h.2, move, if_pos hidle]

theorem way_idle (hidle : isIdle piece = true) (hne : before ≠ []) :
    fs.way (piece :: before) = fs.way before := by
  cases hway : fs.way before with
  | clear =>
    rw [way_cons_clear hway, locate_idle hidle hne]
    exact Way.of_eq_clear_iff.2 (directory_of_clear hway)
  | blocked => rw [way_cons, hway]
  | missing => rw [way_cons, hway]

theorem locate_append_idle {idle : List String} (hidle : ∀ p ∈ idle, isIdle p = true)
    (hne : ps ≠ []) : fs.locate (idle ++ ps) = fs.locate ps := by
  induction idle with
  | nil => rfl
  | cons p idle ih =>
    rw [List.cons_append, locate_idle (hidle p List.mem_cons_self) (by simp [hne])]
    exact ih fun q hq => hidle q (List.mem_cons_of_mem _ hq)

theorem way_append_idle {idle : List String} (hidle : ∀ p ∈ idle, isIdle p = true)
    (hne : ps ≠ []) : fs.way (idle ++ ps) = fs.way ps := by
  induction idle with
  | nil => rfl
  | cons p idle ih =>
    rw [List.cons_append, way_idle (hidle p List.mem_cons_self) (by simp [hne])]
    exact ih fun q hq => hidle q (List.mem_cons_of_mem _ hq)

/-- Idle pieces at the end of a trail lead nowhere else. -/
theorem way_trimmed (fs : FileSystem) (ps : List String) :
    fs.way (Path.trimmed ps) = fs.way ps := by
  by_cases hne : ps = []
  · subst hne
    rfl
  · obtain ⟨idle, name, before, rfl, htrimmed, hidle, -⟩ := Path.trimmed_cases hne
    rw [htrimmed, way_append_idle hidle (by simp)]

/-! ## Following a path -/

/-- How the trail of a path starts: at the root with an empty piece, elsewhere with another one. -/
def Starts (first l : List String) : Prop := first = [""] ∨ first = [] ∧ l.head? ≠ some ""

theorem start_trail (fs : FileSystem) (hend : '\x00' ∉ path.toList) (hne : path ≠ "") :
    ∃ first l, trail path = l.reverse ++ first ∧ l ≠ [] ∧ Starts first l ∧
      fs.start path = .ok (fs.locate first, l) := by
  have hplain : path.toList.contains '\x00' = false := by simpa using hend
  unfold start trail
  rw [hplain]
  cases habsolute : Path.isAbsolute path with
  | true =>
    obtain ⟨rest, hrest, hpieces⟩ := Path.pieces_absolute habsolute
    refine ⟨[""], rest, ?_, hrest, .inl rfl, ?_⟩
    · rw [hpieces, List.reverse_cons]
    · simp [hne, hpieces, locate_cons]
  | false =>
    obtain ⟨p, rest, hp, hpieces⟩ := Path.pieces_relative habsolute hne
    refine ⟨[], p :: rest, ?_, by simp, .inr ⟨rfl, by simpa using hp⟩, ?_⟩
    · rw [hpieces, List.append_nil]
    · simp [hne, hpieces, locate_nil]

theorem Starts.init {first l : List String} (h : Starts first (l ++ [piece])) : Starts first l := by
  rcases h with hroot | ⟨hhere, hhead⟩
  · exact .inl hroot
  · refine .inr ⟨hhere, ?_⟩
    cases l with
    | nil => simp
    | cons p l => exact hhead

theorem walk_reverse {first l : List String} (h : Starts first l) :
    fs.walk (l.reverse ++ first) = l.foldlM fs.step (fs.locate first) := by
  -- the trail is followed from its first piece on, which is the last one of the list
  induction l using List.reverseRecOn with
  | nil =>
    rcases h with rfl | ⟨rfl, -⟩
    · simp [walk, locate_cons, pure, Except.pure]
    · simp [walk, locate_nil, pure, Except.pure]
  | append_singleton l piece ih =>
    have hfirst : ¬ (piece = "" ∧ l.reverse ++ first = []) := by
      rintro ⟨rfl, hnil⟩
      obtain ⟨hl, hfirst⟩ := List.append_eq_nil_iff.1 hnil
      rcases h with hroot | ⟨-, hhead⟩
      · rw [hroot] at hfirst
        cases hfirst
      · rw [List.reverse_eq_nil_iff.1 hl] at hhead
        exact hhead rfl
    rw [List.reverse_append, List.reverse_singleton, List.singleton_append, List.cons_append, walk,
      if_neg hfirst, ih h.init, List.foldlM_append]
    simp [List.foldlM_cons]

/-- **A path is resolved along its trail.** -/
theorem resolve_eq (hend : '\x00' ∉ path.toList) (hne : path ≠ "") :
    fs.resolve path = fs.walk (trail path) := by
  obtain ⟨first, l, htrail, -, hstarts, hstart⟩ := start_trail fs hend hne
  unfold resolve
  rw [hstart, htrail, walk_reverse hstarts]
  rfl

/-- A path that holds the character that ends paths leads nowhere. -/
theorem start_ended (hend : '\x00' ∈ path.toList) : fs.start path = .error .endMark := by
  have hcontains : path.toList.contains '\x00' = true := by simpa using hend
  unfold start
  rw [hcontains]
  rfl

theorem target_ended (hend : '\x00' ∈ path.toList) : fs.target path = .error .endMark := by
  unfold target
  rw [start_ended hend]
  rfl

/-- A name is none of the empty pieces at the start and at the end of a trail. -/
theorem Starts.split {first l : List String} (h : Starts first l)
    (htrail : l.reverse ++ first = blank ++ name :: before) (hname : name ≠ "") :
    ∃ rest, l.reverse = blank ++ name :: rest ∧ before = rest ++ first ∧
      Starts first rest.reverse := by
  have hfirst : name ∉ first := by
    rcases h with rfl | ⟨rfl, -⟩
    · simpa using hname
    · simp
  obtain ⟨rest, hl, hbefore⟩ : ∃ rest, l.reverse = blank ++ name :: rest ∧
      before = rest ++ first := by
    rcases List.append_eq_append_iff.1 htrail with ⟨a, -, ha⟩ | ⟨a, hl, ha⟩
    · exact absurd (ha ▸ List.mem_append_right a List.mem_cons_self) hfirst
    · cases a with
      | nil =>
        rw [List.nil_append] at ha
        exact absurd (ha ▸ List.mem_cons_self) hfirst
      | cons n rest =>
        obtain ⟨rfl, rfl⟩ := List.cons.inj ha
        exact ⟨rest, hl, rfl⟩
  refine ⟨rest, hl, hbefore, ?_⟩
  have hsplit : l = rest.reverse ++ name :: blank.reverse := by
    rw [← List.reverse_inj, hl]
    simp
  rcases h with hroot | ⟨hhere, hhead⟩
  · exact .inl hroot
  · refine .inr ⟨hhere, fun hempty => ?_⟩
    rw [hsplit, List.head?_append, hempty] at hhead
    exact hhead rfl

/-- **What a path names is looked up in the directory that the trail before its name leads to.** -/
theorem target_name (hend : '\x00' ∉ path.toList) (hne : path ≠ "")
    (htrail : trail path = blank ++ name :: before) (hblank : ∀ p ∈ blank, p = "")
    (hname : name ≠ "") :
    fs.target path = (fs.enter before).map fun dir => ⟨dir, some name, !blank.isEmpty⟩ := by
  obtain ⟨first, l, htrail', -, hstarts, hstart⟩ := start_trail fs hend hne
  obtain ⟨rest, hl, rfl, hstarts'⟩ := hstarts.split (htrail'.symm.trans htrail) hname
  have hdrop : l.reverse.dropWhile (· = "") = name :: rest := by
    rw [hl, List.dropWhile_append_of_pos (by simpa using hblank)]
    simp [hname]
  have hslash : decide (l.getLast? = some "") = !blank.isEmpty := by
    rw [List.getLast?_eq_head?_reverse, hl]
    cases blank with
    | nil => simp [hname]
    | cons b blank => simp [hblank b]
  have hwalk : rest.reverse.foldlM fs.step (fs.locate first) = fs.walk (rest ++ first) := by
    rw [← walk_reverse hstarts', List.reverse_reverse]
  unfold target enter
  rw [hstart]
  simp only [bind, Except.bind, hdrop, hwalk, hslash]
  cases fs.walk (rest ++ first) with
  | error e => rfl
  | ok place => cases hdirectory : fs.isDirectoryAt place <;> simp [hdirectory, Except.map]

end SdkGen.FileSystem
