import SdkGen.Proofs.Files.Writing
import SdkGen.Proofs.Run.Complete

/-!
# What becomes of a file

* `save_cases`: the directory of a file is made, and then the file is written.
* `keeps_save`, `save_new`: directories and files are kept, and only the file itself and directories
  on the way to it are new.
* `save_again`: a file that is written again ends as before.
-/

namespace SdkGen.Run

open SdkGen.Path (trail trimmed ofReversed Slashless Clean Names Ends)
open FileSystem (Keeps Extends Settled)
open TypeScript (GeneratedFile FileStatus)

variable {fs fs' : FileSystem} {f : GeneratedFile} {path name : String}
  {place q before : List String} {bytes : ByteArray}

/-- The directory of a file is what the pieces before the last one lead to. -/
theorem directory?_eq (hend : trimmed (trail f.path) = name :: before)
    (hslash : Slashless before) : f.directory? =
      if before = [] then none else some (ofReversed (trimmed before)) := by
  unfold GeneratedFile.directory? Path.parent
  by_cases hname : name = ""
  · have htrim := Path.trim_trimmed (trail f.path)
    rw [hend, Path.trim_cons_iff] at htrim
    obtain rfl : before = [] := by simpa [hname, Path.isIdle] using htrim
    have habove : Path.above (trail f.path) = none := by
      unfold Path.above
      rw [hend, hname]
      rfl
    unfold trail at habove
    rw [habove]
    rfl
  · have habove := Path.above_eq hend hname
    unfold trail at habove
    rw [habove]
    by_cases hbefore : before = []
    · subst hbefore
      rfl
    · have hne := Path.ofReversed_ne_empty (Path.trimmed_ne_nil hbefore)
        (hslash.suffix (Path.trimmed_suffix before))
      simp [hbefore, hne]

theorem makeParent_eq (hend : trimmed (trail f.path) = name :: before) (hslash : Slashless before)
    (fs : FileSystem) : f.makeParent fs = ((fs.makeAbove before).1,
      (fs.makeAbove before).2.map fun e => .io (ofReversed (trimmed before)) e.text) := by
  unfold GeneratedFile.makeParent
  rw [directory?_eq hend hslash]
  by_cases hbefore : before = []
  · subst hbefore
    rfl
  · have hancestors := Path.ancestors_ofReversed (Path.trimmed_ne_nil hbefore)
      (hslash.suffix (Path.trimmed_suffix before))
    rw [if_neg hbefore]
    unfold FileSystem.makeDirectories FileSystem.makeAbove
    dsimp only
    rw [hancestors]

section Cases

variable {mid : FileSystem} {e : FileError} (hend : trimmed (trail f.path) = name :: before)
  (hslash : Slashless before)

include hend hslash

theorem save_stopped (hmake : fs.makeAbove before = (mid, some e)) :
    f.save fs = (mid, ⟨.directoryFailed, some (.io (ofReversed (trimmed before)) e.text)⟩) := by
  unfold GeneratedFile.save
  rw [makeParent_eq hend hslash, hmake]
  rfl

theorem save_failed (hmake : fs.makeAbove before = (mid, none))
    (hwrite : mid.writeBytes f.path f.content.toUTF8 = .error e) :
    f.save fs = (mid, ⟨.writeFailed, some (.io f.path e.text)⟩) := by
  have hcontents : f.writeContents mid = .error (.io f.path e.text) := by
    unfold GeneratedFile.writeContents FileSystem.write
    rw [hwrite]
    rfl
  unfold GeneratedFile.save
  rw [makeParent_eq hend hslash, hmake]
  dsimp only [Option.map]
  rw [hcontents]

theorem save_put (hmake : fs.makeAbove before = (mid, none))
    (hwrite : mid.writeBytes f.path f.content.toUTF8 = .ok fs') :
    f.save fs = (fs', ⟨.written, none⟩) := by
  have hcontents : f.writeContents mid = .ok fs' := mapError_ok_iff.2 hwrite
  unfold GeneratedFile.save
  rw [makeParent_eq hend hslash, hmake]
  dsimp only [Option.map]
  rw [hcontents]

/-- **The directory of a file is made, and then the file is written;** either can fail. -/
theorem save_cases (fs : FileSystem) :
    (∃ mid e, fs.makeAbove before = (mid, some e) ∧
      f.save fs = (mid, ⟨.directoryFailed, some (.io (ofReversed (trimmed before)) e.text)⟩)) ∨
    (∃ mid e, fs.makeAbove before = (mid, none) ∧
      mid.writeBytes f.path f.content.toUTF8 = .error e ∧
      f.save fs = (mid, ⟨.writeFailed, some (.io f.path e.text)⟩)) ∨
    (∃ mid fs', fs.makeAbove before = (mid, none) ∧
      mid.writeBytes f.path f.content.toUTF8 = .ok fs' ∧ f.save fs = (fs', ⟨.written, none⟩)) := by
  rcases hmake : fs.makeAbove before with ⟨mid, _ | e⟩
  · cases hwrite : mid.writeBytes f.path f.content.toUTF8 with
    | error e => exact .inr (.inl ⟨mid, e, rfl, hwrite, save_failed hend hslash hmake hwrite⟩)
    | ok fs' => exact .inr (.inr ⟨mid, fs', rfl, hwrite, save_put hend hslash hmake hwrite⟩)
  · exact .inl ⟨mid, e, rfl, save_stopped hend hslash hmake⟩

end Cases

/-! ## What is kept -/

/-- What the directory has come to is kept by the file. -/
theorem keeps_above (hend : trimmed (trail f.path) = name :: before) (hslash : Slashless before)
    (fs : FileSystem) : Keeps (fs.makeAbove before).1 (f.save fs).1 := by
  rcases save_cases hend hslash fs with ⟨mid, e, hmake, hsave⟩ | ⟨mid, e, hmake, -, hsave⟩ |
    ⟨mid, fs', hmake, hwrite, hsave⟩
  · rw [hmake, hsave]
    exact Keeps.refl mid
  · rw [hmake, hsave]
    exact Keeps.refl mid
  · obtain ⟨-, -, hkeeps, -⟩ := FileSystem.writeBytes_ok hwrite
    rw [hmake, hsave]
    exact hkeeps

/-- **Directories and files are kept, whatever becomes of the file.** -/
theorem keeps_save (f : GeneratedFile) (fs : FileSystem) : Keeps fs (f.save fs).1 := by
  obtain ⟨name, before, hend, hslash⟩ := Path.exists_trimmed f.path
  exact (FileSystem.extends_makeAbove fs before).keeps.trans (keeps_above hend hslash fs)

/-- A file that is written stands at the place of its path. -/
theorem save_occupant (hsettled : fs.Settled) (h : (f.save fs).2.status = .written) :
    (f.save fs).1.occupant? (fs.placeOf f.path) = some (.file f.content.toUTF8) ∧
      (f.save fs).1.resolve f.path = .ok (fs.placeOf f.path) := by
  obtain ⟨-, place, mid, -, hkeeps, hresolve, hoccupant⟩ := save_written h
  obtain ⟨rfl, -⟩ := FileSystem.place_of_resolve (hkeeps.settled hsettled) hresolve
  rw [hkeeps.placeOf] at hresolve hoccupant
  exact ⟨(hoccupant (fs.placeOf f.path)).trans (if_pos rfl), hresolve⟩

/-- **What is new somewhere is a directory on the way, or the file itself.** -/
theorem save_new (hsettled : fs.Settled) (hend : trimmed (trail f.path) = name :: before)
    (hslash : Slashless before) (hnew : (f.save fs).1.occupant? q ≠ fs.occupant? q) :
    (fs.occupant? q = none ∧ (f.save fs).1.occupant? q = some .directory ∧
      ∃ s, s <:+ before ∧ q = fs.locate s) ∨
    ((f.save fs).2.status = .written ∧ q = fs.placeOf f.path) := by
  have hextends := FileSystem.extends_makeAbove fs before
  -- what is made above are directories
  have habove : (fs.makeAbove before).1.occupant? q ≠ fs.occupant? q →
      fs.occupant? q = none ∧ (fs.makeAbove before).1.occupant? q = some .directory ∧
        ∃ s, s <:+ before ∧ q = fs.locate s := by
    intro hq
    have hnone : fs.occupant? q = none :=
      Classical.byContradiction fun hthere => hq (hextends.occupant q hthere)
    rcases hextends.new q hnone with hnew | hnew
    · exact absurd (hnew.trans hnone.symm) hq
    · have hthere := hnew.trans_ne (Option.some_ne_none _)
      exact ⟨hnone, hnew, FileSystem.makeAbove_new hsettled hslash hnone hthere⟩
  rcases save_cases hend hslash fs with ⟨mid, e, hmake, hsave⟩ | ⟨mid, e, hmake, -, hsave⟩ |
    ⟨mid, fs', hmake, hwrite, hsave⟩
  · rw [hmake] at habove
    rw [hsave] at hnew ⊢
    exact .inl (habove hnew)
  · rw [hmake] at habove
    rw [hsave] at hnew ⊢
    exact .inl (habove hnew)
  · obtain ⟨place, hresolve, hkeeps, hoccupant⟩ := FileSystem.writeBytes_ok hwrite
    rw [hmake] at habove hextends
    have hkept := hextends.keeps.trans hkeeps
    obtain ⟨rfl, -⟩ := FileSystem.place_of_resolve (hkept.settled hsettled) hresolve
    rw [hkept.placeOf] at hoccupant
    rw [hsave] at hnew ⊢
    dsimp only at hnew ⊢
    by_cases hq : q = fs.placeOf f.path
    · exact .inr ⟨rfl, hq⟩
    · have hsame := (hoccupant q).trans (if_neg hq)
      rw [hsame] at hnew ⊢
      exact .inl (habove hnew)

/-- A file that stands anywhere stood there, or it has just been written. -/
theorem save_file (hsettled : fs.Settled)
    (h : (f.save fs).1.occupant? q = some (.file bytes)) :
    fs.occupant? q = some (.file bytes) ∨
      ((f.save fs).2.status = .written ∧ q = fs.placeOf f.path) := by
  obtain ⟨name, before, hend, hslash⟩ := Path.exists_trimmed f.path
  by_cases hsame : (f.save fs).1.occupant? q = fs.occupant? q
  · exact .inl (hsame.symm.trans h)
  · rcases save_new hsettled hend hslash hsame with ⟨-, hdirectory, -⟩ | hwritten
    · cases hdirectory.symm.trans h
    · exact .inr hwritten

/-- What stands elsewhere is as before. -/
theorem save_elsewhere (hsettled : fs.Settled) (hthere : fs.occupant? q ≠ none)
    (helse : (f.save fs).2.status = .written → q ≠ fs.placeOf f.path) :
    (f.save fs).1.occupant? q = fs.occupant? q := by
  obtain ⟨name, before, hend, hslash⟩ := Path.exists_trimmed f.path
  refine Classical.byContradiction fun hnew => ?_
  rcases save_new hsettled hend hslash hnew with ⟨hnone, -⟩ | ⟨hwritten, hq⟩
  · exact hthere hnone
  · exact helse hwritten hq

/-! ## A file that is written again -/

/-- **Writing under a path fails again,** once the way to its directory is clear. -/
theorem writeBytes_again {e : FileError} (hsettled : fs.Settled) (hkeeps : Keeps fs fs')
    (hend : trimmed (trail path) = name :: before)
    (hclear : Clean before → fs.way before = .clear)
    (hwrite : fs.writeBytes path bytes = .error e) :
    ∃ e, fs'.writeBytes path bytes = .error e := by
  cases hwrite' : fs'.writeBytes path bytes with
  | error e => exact ⟨e, rfl⟩
  | ok written =>
    -- only a directory can have been at fault, and it is there still
    obtain ⟨last, rest, hnames, hlink⟩ := FileSystem.names_of_writeBytes hwrite'
    obtain ⟨rfl, rfl⟩ := List.cons.inj (hend.symm.trans hnames.ends.trimmed)
    have hway := hclear hnames.clean
    rw [FileSystem.writeBytes_eq hsettled hnames hlink, hway] at hwrite
    rw [FileSystem.writeBytes_eq (hkeeps.settled hsettled) hnames hlink, hkeeps.clear hway,
      FileSystem.locate_congr hkeeps.here] at hwrite'
    dsimp only at hwrite hwrite'
    split at hwrite
    next hdirectory =>
      rw [hkeeps.directory _ hdirectory] at hwrite'
      cases hwrite'
    next => cases hwrite

/-- **A file that has been written is put into its place again.** -/
theorem writeBytes_over (hsettled : fs.Settled) (hkeeps : Keeps fs fs')
    (hwritten : ∃ mid : FileSystem, mid.writeBytes path bytes = .ok fs) :
    fs'.writeBytes path bytes = .ok (fs'.putFile (fs.placeOf path) bytes) := by
  obtain ⟨mid, hwrite⟩ := hwritten
  obtain ⟨name, before, hnames, hlink⟩ := FileSystem.names_of_writeBytes hwrite
  obtain ⟨place, hresolve, -, hoccupant⟩ := FileSystem.writeBytes_ok hwrite
  obtain ⟨rfl, -⟩ := FileSystem.place_of_resolve hsettled hresolve
  have hplace := FileSystem.placeOf_ends fs hnames.ends
  have hclear : fs.way before = .clear := by
    rw [FileSystem.resolve_by_way hsettled hnames.unended hnames.ne_empty hnames.trail] at hresolve
    cases hway : fs.way before with
    | clear => rfl
    | blocked =>
      rw [hway] at hresolve
      cases hresolve
    | missing =>
      rw [hway] at hresolve
      cases hresolve
  obtain ⟨bytes', hfile⟩ := hkeeps.file _ _ ((hoccupant _).trans (if_pos rfl))
  rw [FileSystem.writeBytes_eq (hkeeps.settled hsettled) hnames hlink, hkeeps.clear hclear,
    FileSystem.locate_congr hkeeps.here, ← hplace, hfile]

/-- **A file that is written again ends as before,** whatever else is written in the meantime. It
is put into its place again, or nothing happens. -/
theorem save_again (hsettled : fs.Settled) (hkeeps : Keeps (f.save fs).1 fs') :
    (f.save fs').2.status = (f.save fs).2.status ∧
      ((f.save fs).2.status = .written →
        (f.save fs').1 = fs'.putFile (fs.placeOf f.path) f.content.toUTF8) ∧
      ((f.save fs).2.status ≠ .written → (f.save fs').1 = fs') := by
  obtain ⟨name, before, hend, hslash⟩ := Path.exists_trimmed f.path
  have hextends := FileSystem.extends_makeAbove fs before
  have hagain : Keeps (fs.makeAbove before).1 fs' → (fs'.makeAbove before).1 = fs' ∧
      ((fs'.makeAbove before).2 = none ↔ (fs.makeAbove before).2 = none) :=
    FileSystem.makeAbove_again hsettled hslash
  rcases save_cases hend hslash fs with ⟨mid, e, hmake, hsave⟩ | ⟨mid, e, hmake, hwrite, hsave⟩ |
    ⟨mid, fs₁, hmake, hwrite, hsave⟩
  · -- the directory fails again
    rw [hsave] at hkeeps ⊢
    rw [hmake] at hagain
    obtain ⟨hsame, hnone⟩ := hagain hkeeps
    rcases hmake' : fs'.makeAbove before with ⟨mid', _ | e'⟩
    · rw [hmake'] at hnone
      cases hnone.1 rfl
    · rw [hmake'] at hsame
      rw [save_stopped hend hslash hmake']
      exact ⟨rfl, by simp, fun _ => hsame⟩
  · -- the directory is there, and the file fails again
    rw [hsave] at hkeeps ⊢
    rw [hmake] at hagain hextends
    have hmake' : fs'.makeAbove before = (fs', none) :=
      Prod.ext (hagain hkeeps).1 ((hagain hkeeps).2.2 rfl)
    have hclear : Clean before → mid.way before = .clear := by
      intro hclean
      have hmade := FileSystem.makeAbove_settled hsettled hclean
      rw [hmake] at hmade
      simpa using hmade
    obtain ⟨e', hwrite'⟩ :=
      writeBytes_again (hextends.keeps.settled hsettled) hkeeps hend hclear hwrite
    rw [save_failed hend hslash hmake' hwrite']
    exact ⟨rfl, by simp, fun _ => rfl⟩
  · -- the directory is there, and so is the file
    rw [hsave] at hkeeps ⊢
    rw [hmake] at hagain hextends
    obtain ⟨-, -, hkept, -⟩ := FileSystem.writeBytes_ok hwrite
    have hkeeps₁ := hextends.keeps.trans hkept
    have hagain' := hagain (hkept.trans hkeeps)
    have hmake' : fs'.makeAbove before = (fs', none) :=
      Prod.ext hagain'.1 (hagain'.2.2 rfl)
    have hwrite' := writeBytes_over (hkeeps₁.settled hsettled) hkeeps ⟨mid, hwrite⟩
    rw [hkeeps₁.placeOf] at hwrite'
    rw [save_put hend hslash hmake' hwrite']
    exact ⟨rfl, fun _ => rfl, by simp⟩

end SdkGen.Run
