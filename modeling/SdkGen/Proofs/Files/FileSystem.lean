import SdkGen.Files.FileSystem
import SdkGen.Proofs.Fallible
import SdkGen.Proofs.Files.Node

/-!
# Operations on a tree of files

What each operation does is said of what stands at each place before and after it.

* `Keeps`: every directory is still one, and every file. Paths then lead where they led.
* `Extends`: what stood somewhere stands there unchanged. `extends_makeDirectories`: making
  directories does no more than that.
* `writeBytes_ok`: writing a file changes what stands at one place, and the path leads there.
-/

namespace SdkGen.FileSystem

variable {fs fs' fs'' : FileSystem} {path name piece : String} {place dir q : List String}
  {bytes : ByteArray} {t : Target}

/-- What stands at a place. -/
def occupant? (fs : FileSystem) (place : List String) : Option Occupant := fs.root.occupant? place

theorem isDirectoryAt_iff :
    fs.isDirectoryAt place = true ↔ fs.occupant? place = some .directory := by
  unfold isDirectoryAt occupant? Node.occupant?
  rcases fs.root.get? place with _ | bytes | children
  · simp
  · simp [Node.isDirectory, Node.occupant]
  · simp [Node.isDirectory, Node.occupant]

theorem isSome_get?_iff : (fs.root.get? place).isSome = true ↔ fs.occupant? place ≠ none := by
  unfold occupant? Node.occupant?
  cases fs.root.get? place <;> simp

/-- The bytes of a file are those at the place that its path leads to. -/
theorem readBytes_eq (hresolve : fs.resolve path = .ok place)
    (hoccupant : fs.occupant? place = some (.file bytes)) : fs.readBytes path = .ok bytes := by
  unfold occupant? Node.occupant? at hoccupant
  unfold readBytes
  rw [hresolve]
  rcases hget : fs.root.get? place with _ | b | children
  · rw [hget] at hoccupant
    cases hoccupant
  · rw [hget] at hoccupant
    cases hoccupant
    simp [bind, Except.bind, hget]
  · rw [hget] at hoccupant
    cases hoccupant

/-- A file is read exactly where its path leads to it. -/
theorem readBytes_ok_iff : fs.readBytes path = .ok bytes ↔
    ∃ place, fs.resolve path = .ok place ∧ fs.occupant? place = some (.file bytes) := by
  constructor
  · intro h
    obtain ⟨place, hresolve, hget⟩ := bind_ok_iff.1 h
    refine ⟨place, hresolve, ?_⟩
    unfold occupant? Node.occupant?
    split at hget
    next b hplace =>
      cases hget
      rw [hplace]
      rfl
    next => cases hget
    next => cases hget
  · rintro ⟨place, hresolve, hoccupant⟩
    exact readBytes_eq hresolve hoccupant

/-- A path under which a text is read leads to a file. -/
theorem isFile_of_read {text : String} (h : fs.read path = .ok text) : fs.isFile path = true := by
  obtain ⟨bytes, hbytes, -⟩ := bind_ok_iff.1 h
  obtain ⟨place, hresolve, hoccupant⟩ := readBytes_ok_iff.1 hbytes
  have hfile : fs.isDirectoryAt place = false := by
    rw [← Bool.not_eq_true, isDirectoryAt_iff, hoccupant]
    simp
  unfold isFile
  rw [hresolve]
  dsimp only
  rw [hfile]
  rfl

/-! ## Paths -/

/-- Directories are still directories, and files are still files, perhaps with other bytes. -/
structure Keeps (fs fs' : FileSystem) : Prop where
  here : fs'.here = fs.here
  directory : ∀ q, fs.occupant? q = some .directory → fs'.occupant? q = some .directory
  file : ∀ q bytes, fs.occupant? q = some (.file bytes) →
    ∃ bytes', fs'.occupant? q = some (.file bytes')

theorem Keeps.refl (fs : FileSystem) : Keeps fs fs :=
  ⟨rfl, fun _ h => h, fun _ bytes h => ⟨bytes, h⟩⟩

theorem Keeps.trans (h : Keeps fs fs') (h' : Keeps fs' fs'') : Keeps fs fs'' where
  here := h'.here.trans h.here
  directory q hq := h'.directory q (h.directory q hq)
  file q bytes hq := by
    obtain ⟨bytes', hq'⟩ := h.file q bytes hq
    exact h'.file q bytes' hq'

/-- What stands somewhere does not go away. -/
theorem Keeps.present (h : Keeps fs fs') (hq : fs.occupant? q ≠ none) : fs'.occupant? q ≠ none := by
  cases hoccupant : fs.occupant? q with
  | none => exact absurd hoccupant hq
  | some e =>
    cases e with
    | directory =>
      rw [h.directory q hoccupant]
      exact Option.some_ne_none _
    | file bytes =>
      obtain ⟨bytes', hq'⟩ := h.file q bytes hoccupant
      rw [hq']
      exact Option.some_ne_none _

theorem step_ok_iff {next : List String} : fs.step place piece = .ok next ↔
    fs.occupant? place = some .directory ∧
      (Path.isIdle piece = true ∧ next = place ∨
        Path.isIdle piece = false ∧ piece = ".." ∧ next = place.dropLast ∨
        Path.isIdle piece = false ∧ piece ≠ ".." ∧ fs.occupant? (place ++ [piece]) ≠ none ∧
          next = place ++ [piece]) := by
  unfold step
  rw [← isDirectoryAt_iff, ← isSome_get?_iff]
  cases fs.isDirectoryAt place with
  | false => simp
  | true =>
    cases Path.isIdle piece with
    | true => simp [@eq_comm _ next]
    | false =>
      by_cases hup : piece = ".."
      · simp [hup, @eq_comm _ next]
      · cases (fs.root.get? (place ++ [piece])).isSome <;> simp [hup, @eq_comm _ next]

theorem Keeps.step {next : List String} (h : Keeps fs fs')
    (hstep : fs.step place piece = .ok next) : fs'.step place piece = .ok next := by
  obtain ⟨hdir, hcase⟩ := step_ok_iff.1 hstep
  refine step_ok_iff.2 ⟨h.directory _ hdir, ?_⟩
  rcases hcase with hidle | hup | ⟨hidle, hup, hthere, hnext⟩
  · exact .inl hidle
  · exact .inr (.inl hup)
  · exact .inr (.inr ⟨hidle, hup, h.present hthere, hnext⟩)

theorem Keeps.walk {pieces : List String} (h : Keeps fs fs')
    (hwalk : pieces.foldlM fs.step place = .ok q) : pieces.foldlM fs'.step place = .ok q := by
  induction pieces generalizing place with
  | nil => exact hwalk
  | cons piece pieces ih =>
    rw [List.foldlM_cons, bind_ok_iff] at hwalk ⊢
    obtain ⟨next, hstep, hrest⟩ := hwalk
    exact ⟨next, h.step hstep, ih hrest⟩

theorem Keeps.start (h : Keeps fs fs') (path : String) : fs'.start path = fs.start path := by
  unfold FileSystem.start
  rw [h.here]

/-- **A path that leads somewhere still leads there.** -/
theorem Keeps.resolve (h : Keeps fs fs') (hresolve : fs.resolve path = .ok place) :
    fs'.resolve path = .ok place := by
  unfold FileSystem.resolve at hresolve ⊢
  rw [h.start path]
  rw [bind_ok_iff] at hresolve ⊢
  obtain ⟨⟨first, pieces⟩, hstart, hwalk⟩ := hresolve
  exact ⟨(first, pieces), hstart, h.walk hwalk⟩

/-! ## Targets -/

/-- A target is looked up in a directory that is there. -/
theorem target_directory (h : fs.target path = .ok t) (hname : t.name ≠ none) :
    fs.occupant? t.directory = some .directory := by
  unfold target at h
  rw [bind_ok_iff] at h
  obtain ⟨⟨first, pieces⟩, -, h⟩ := h
  dsimp only at h
  split at h
  · cases h
    exact absurd rfl hname
  · rw [bind_ok_iff] at h
    obtain ⟨directory, -, h⟩ := h
    cases hdirectory : fs.isDirectoryAt directory with
    | false =>
      rw [hdirectory] at h
      cases h
    | true =>
      rw [hdirectory] at h
      cases h
      exact isDirectoryAt_iff.1 hdirectory

/-- Without a slash behind it, the last piece of a path is its name. -/
theorem pieces_of_noSlash {pieces before : List String}
    (hpieces : pieces.reverse.dropWhile (· = "") = name :: before)
    (hslash : pieces.getLast? ≠ some "") : pieces = before.reverse ++ [name] ∧ name ≠ "" := by
  rw [List.getLast?_eq_head?_reverse] at hslash
  cases hreverse : pieces.reverse with
  | nil =>
    rw [hreverse] at hpieces
    cases hpieces
  | cons last rest =>
    rw [hreverse] at hpieces hslash
    have hlast : last ≠ "" := fun h => hslash (congrArg some h)
    rw [List.dropWhile_cons_of_neg (by simpa using hlast)] at hpieces
    obtain ⟨rfl, rfl⟩ := List.cons.inj hpieces
    refine ⟨?_, hlast⟩
    rw [← List.reverse_inj, hreverse]
    simp

/-- **A path leads to its target as soon as something stands there**, unless a slash follows. -/
theorem resolve_target (h : fs.target path = .ok ⟨dir, some name, false⟩)
    (hlink : isLink name = false) (hkeeps : Keeps fs fs')
    (hthere : fs'.occupant? (dir ++ [name]) ≠ none) : fs'.resolve path = .ok (dir ++ [name]) := by
  have hdir := hkeeps.directory _ (target_directory h (Option.some_ne_none _))
  unfold target at h
  rw [bind_ok_iff] at h
  obtain ⟨⟨first, pieces⟩, hstart, h⟩ := h
  dsimp only at h
  split at h
  · cases h
  rename_i last before hpieces
  rw [bind_ok_iff] at h
  obtain ⟨directory, hwalk, h⟩ := h
  split at h
  · cases h
  simp only [Except.ok.injEq, Target.mk.injEq, Option.some.injEq, decide_eq_false_iff_not] at h
  obtain ⟨rfl, rfl, hslash⟩ := h
  obtain ⟨rfl, hname⟩ := pieces_of_noSlash hpieces hslash
  -- the name is a piece like any other: it is walked into, and not skipped or walked out of
  have hlink' : last ≠ "." ∧ last ≠ ".." := by simpa [isLink] using hlink
  have hidle : Path.isIdle last = false := by simp [Path.isIdle, hname, hlink'.1]
  have hstep : fs'.step directory last = .ok (directory ++ [last]) :=
    step_ok_iff.2 ⟨hdir, .inr (.inr ⟨hidle, hlink'.2, hthere, rfl⟩)⟩
  unfold resolve
  rw [hkeeps.start path, bind_ok_iff]
  refine ⟨_, hstart, ?_⟩
  dsimp only
  rw [List.foldlM_append, bind_ok_iff]
  refine ⟨directory, hkeeps.walk hwalk, ?_⟩
  rw [List.foldlM_cons, hstep]
  rfl

/-! ## Making directories -/

/-- What stands somewhere stands there unchanged, and only directories are new. -/
structure Extends (fs fs' : FileSystem) : Prop where
  here : fs'.here = fs.here
  occupant : ∀ q, fs.occupant? q ≠ none → fs'.occupant? q = fs.occupant? q
  new : ∀ q, fs.occupant? q = none → fs'.occupant? q = none ∨ fs'.occupant? q = some .directory

theorem Extends.refl (fs : FileSystem) : Extends fs fs := ⟨rfl, fun _ _ => rfl, fun _ h => .inl h⟩

theorem Extends.trans (h : Extends fs fs') (h' : Extends fs' fs'') : Extends fs fs'' where
  here := h'.here.trans h.here
  occupant q hq := by
    have hsame := h.occupant q hq
    rw [h'.occupant q (hsame ▸ hq), hsame]
  new q hq := by
    rcases h.new q hq with hnone | hdirectory
    · exact h'.new q hnone
    · right
      rw [h'.occupant q (hdirectory ▸ Option.some_ne_none _), hdirectory]

theorem Extends.keeps (h : Extends fs fs') : Keeps fs fs' where
  here := h.here
  directory q hq := by rw [h.occupant q (hq ▸ Option.some_ne_none _), hq]
  file q bytes hq := ⟨bytes, by rw [h.occupant q (hq ▸ Option.some_ne_none _), hq]⟩

theorem extends_makeDirectory (h : fs.makeDirectory path = .ok fs') : Extends fs fs' := by
  unfold makeDirectory at h
  rw [bind_ok_iff] at h
  obtain ⟨⟨dir, name, slash⟩, htarget, h⟩ := h
  cases name with
  | none => cases h
  | some name =>
    dsimp only at h
    split at h
    · cases h
    next hfree =>
      cases h
      have hnone : fs.occupant? (dir ++ [name]) = none := by
        refine Classical.byContradiction fun hne => hfree ?_
        rw [isSome_get?_iff.2 hne, Bool.or_true]
      have hfile : fs.root.occupant? (dir ++ [name]) ≠ some .directory := by
        intro hdirectory
        cases hnone.symm.trans hdirectory
      have hput := Node.occupant?_put (v := .emptyDirectory)
        (target_directory htarget (Option.some_ne_none _)) hfile fun _ _ => rfl
      refine ⟨rfl, ?_, ?_⟩
      · intro q hq
        have hne : q ≠ dir ++ [name] := fun heq => hq (heq ▸ hnone)
        exact (hput q).trans (if_neg hne)
      · intro q hq
        by_cases heq : q = dir ++ [name]
        · exact .inr ((hput q).trans (if_pos heq))
        · exact .inl (((hput q).trans (if_neg heq)).trans hq)

theorem extends_ensureDirectory (fs : FileSystem) (path : String) :
    Extends fs (fs.ensureDirectory path).1 := by
  unfold ensureDirectory
  cases hmake : fs.makeDirectory path with
  | ok fs' => exact extends_makeDirectory hmake
  | error e =>
    dsimp only
    split
    · exact .refl fs
    · exact .refl fs

theorem makeChain_step (fs : FileSystem) (path : String) (above : List String) :
    fs.makeChain (path :: above) = match fs.ensureDirectory path with
      | (_, some .notFound) =>
        match fs.makeChain above with
        | (fs', none) => fs'.ensureDirectory path
        | failed => failed
      | result => result := rfl

theorem extends_makeChain (fs : FileSystem) (paths : List String) :
    Extends fs (fs.makeChain paths).1 := by
  induction paths with
  | nil => exact .refl fs
  | cons path above ih =>
    have hfirst := extends_ensureDirectory fs path
    rw [makeChain_step]
    split
    · -- the directories above come first
      split
      next fs' habove =>
        rw [habove] at ih
        exact ih.trans (extends_ensureDirectory fs' path)
      next => exact ih
    · exact hfirst

/-- **Making a directory and those above it changes nothing that was there,** also where it
fails. -/
theorem extends_makeDirectories (fs : FileSystem) (path : String) :
    Extends fs (fs.makeDirectories path).1 :=
  extends_makeChain fs _

/-! ## Writing files -/

/-- **A file that is written stands where its path leads, and all else is as before.** -/
theorem writeBytes_ok (h : fs.writeBytes path bytes = .ok fs') :
    ∃ place, fs'.resolve path = .ok place ∧ Keeps fs fs' ∧
      ∀ q, fs'.occupant? q = if q = place then some (.file bytes) else fs.occupant? q := by
  unfold writeBytes at h
  rw [bind_ok_iff] at h
  obtain ⟨⟨dir, name, slash⟩, htarget, h⟩ := h
  cases name with
  | none => cases h
  | some name =>
    dsimp only at h
    split at h
    · cases h
    next hfree =>
      cases h
      simp only [Bool.or_eq_true, not_or, isDirectoryAt_iff, Bool.not_eq_true] at hfree
      obtain ⟨⟨hlink, rfl⟩, hfile⟩ := hfree
      have hput : ∀ q, (Node.put (.file bytes) fs.root (dir ++ [name])).occupant? q =
          if q = dir ++ [name] then some (.file bytes) else fs.occupant? q :=
        Node.occupant?_put (target_directory htarget (Option.some_ne_none _)) hfile fun _ _ => rfl
      have hkeeps : Keeps fs ⟨Node.put (.file bytes) fs.root (dir ++ [name]), fs.here⟩ := by
        refine ⟨rfl, ?_, ?_⟩
        · intro q hq
          have hne : q ≠ dir ++ [name] := fun heq => hfile (heq ▸ hq)
          exact (hput q).trans ((if_neg hne).trans hq)
        · intro q bytes' hq
          by_cases heq : q = dir ++ [name]
          · exact ⟨bytes, (hput q).trans (if_pos heq)⟩
          · exact ⟨bytes', (hput q).trans ((if_neg heq).trans hq)⟩
      have hthere := (hput (dir ++ [name])).trans (if_pos rfl)
      refine ⟨dir ++ [name], resolve_target htarget hlink hkeeps ?_, hkeeps, hput⟩
      exact fun hnone => Option.some_ne_none _ (hthere.symm.trans hnone)

end SdkGen.FileSystem
