import SdkGen.Proofs.Files.Climbing
import SdkGen.Proofs.Run.Save

/-!
# Each file by itself

The two files of an SDK mostly share directories, which the first one makes or finds blocked before
the second one starts. All the same each of them ends as it would by itself, if neither is to stand
below the other.

* `save_frame`: a file changes nothing but what is above it, and itself.
* `read_beside`: what becomes of the first file is not changed by the second.
* `save_beside`: the second file ends as it would by itself.
* `writeSdk_independent`: both files of an SDK.
-/

namespace SdkGen.Run

open FileSystem (Keeps Settled Alike)
open SdkGen.Path (trail trimmed Slashless Clean Climbs ClimbsFirst Ends)
open TypeScript (GeneratedFile FileStatus typesFile clientFile)

variable {fs : FileSystem} {f t k : GeneratedFile} {c : GeneratorConfig} {path name : String}
  {q before : List String}

/-- **Only a file and the places above it are touched.** -/
theorem save_frame (hsettled : fs.Settled) (hclimbs : ClimbsFirst f.path)
    (hq : ¬ q <+: fs.placeOf f.path) : (f.save fs).1.occupant? q = fs.occupant? q := by
  obtain ⟨name, before, hend, hslash⟩ := Path.exists_trimmed f.path
  refine Classical.byContradiction fun hnew => ?_
  rcases save_new hsettled hend hslash hnew with ⟨hnone, -, s, hs, rfl⟩ | ⟨-, rfl⟩
  · have hsuffix : s <:+ trail f.path :=
      (hs.trans (List.suffix_cons name before)).trans (hend ▸ Path.trimmed_suffix (trail f.path))
    rcases FileSystem.locate_suffix fs hclimbs.trail hsuffix with habove | habove
    · exact hq habove
    · cases hnone.symm.trans (hsettled.directory habove)
  · exact hq (List.prefix_refl _)

/-- After a file is attempted, the way to its directory is clear or blocked for good. -/
theorem way_save (hsettled : fs.Settled) (hends : Ends f.path name before)
    (hclean : Clean before) : (f.save fs).1.way before ≠ .missing := by
  have hkeeps := keeps_above hends.trimmed hclean.1 fs
  rcases FileSystem.makeAbove_settled hsettled hclean with ⟨-, hway⟩ | ⟨-, hway⟩
  · rw [hkeeps.clear hway]
    simp
  · rw [hkeeps.blocked hway]
    simp

section Beside

variable (hsettled : fs.Settled) (ht : ClimbsFirst t.path) (hk : ClimbsFirst k.path)
  (hbelow : ¬ fs.placeOf t.path <+: fs.placeOf k.path)
  (hbelow' : ¬ fs.placeOf k.path <+: fs.placeOf t.path)

include hsettled hk hbelow in
/-- **What becomes of a file is not changed by another one beside it.** -/
theorem read_beside : (k.save (t.save fs).1).1.readBytes t.path =
    (t.save fs).1.readBytes t.path := by
  have hne : fs.placeOf t.path ≠ [] := by
    intro hroot
    rw [hroot] at hbelow
    exact hbelow List.nil_prefix
  obtain ⟨name, before, hends⟩ := FileSystem.exists_ends hne
  have hslash : Slashless before := (Path.slashless_trail t.path).suffix hends.suffix_before
  have hkeeps := keeps_save t fs
  have hkeeps' := keeps_save k (t.save fs).1
  have hsettled' := hkeeps.settled hsettled
  rcases FileSystem.clean_or_ended hslash with hclean | ⟨p, hp, hend⟩
  · have hway : (k.save (t.save fs).1).1.way before = (t.save fs).1.way before := by
      cases hcases : (t.save fs).1.way before with
      | clear => exact hkeeps'.clear hcases
      | blocked => exact hkeeps'.blocked hcases
      | missing => exact absurd hcases (way_save hsettled hends hclean)
    have halike : Alike t.path before (t.save fs).1 (k.save (t.save fs).1).1 := by
      refine ⟨hsettled', hkeeps'.settled hsettled', hkeeps'.here, hway, ?_⟩
      refine save_frame hsettled' hk ?_
      rw [hkeeps.placeOf, hkeeps.placeOf]
      exact hbelow
    exact halike.readBytes hends
  · have hmem := Path.ended_of_mem (hends.suffix_before.subset hp) hend
    rw [FileSystem.readBytes_ended _ hmem, FileSystem.readBytes_ended _ hmem]

include hsettled hk hbelow

/-- A file beside does not block the way. -/
theorem blocked_beside (hsuffix : before <:+ trail k.path) :
    (t.save fs).1.way before = .blocked ↔ fs.way before = .blocked := by
  have hkeeps := keeps_save t fs
  have hclimbs : Climbs before := hk.trail.suffix hsuffix
  refine ⟨fun hblocked => ?_, hkeeps.blocked⟩
  obtain ⟨r, bytes, hr, hfile⟩ :=
    (FileSystem.way_by_place (hkeeps.settled hsettled) hclimbs).2.1 hblocked
  rw [FileSystem.locate_congr hkeeps.here] at hr
  rcases save_file hsettled hfile with hfile' | ⟨-, rfl⟩
  · exact (FileSystem.way_by_place hsettled hclimbs).2.2 ⟨r, bytes, hr, hfile'⟩
  · -- the file that is new would stand above the other one
    rcases FileSystem.locate_suffix fs hk.trail hsuffix with habove | habove
    · exact absurd (hr.trans habove) hbelow
    · have hdirectory := hkeeps.directory _ (hsettled.directory (hr.trans habove))
      cases hdirectory.symm.trans hfile

/-- **The directory of a file is made or not as if no other file had been written beside it.** -/
theorem makeAbove_beside (hsuffix : before <:+ trail k.path) :
    ((t.save fs).1.makeAbove before).2 = (fs.makeAbove before).2 := by
  have hkeeps := keeps_save t fs
  have hsettled' := hkeeps.settled hsettled
  have hslash : Slashless before := (Path.slashless_trail k.path).suffix hsuffix
  have hclimbs : Climbs before := hk.trail.suffix hsuffix
  rcases FileSystem.clean_or_ended hslash with hclean | ⟨p, hp, hend⟩
  · have hiff := blocked_beside hsettled hk hbelow hsuffix
    by_cases hblocked : fs.way before = .blocked
    · have hup : fs.way (trimmed before) = .blocked :=
        (FileSystem.way_trimmed fs before).trans hblocked
      rw [FileSystem.makeAbove_blocked hsettled' hclean (hiff.2 hblocked),
        FileSystem.makeAbove_blocked hsettled hclean hblocked, hkeeps.blockage hup]
    · rw [FileSystem.makeAbove_open hsettled' hclimbs hclean (mt hiff.1 hblocked),
        FileSystem.makeAbove_open hsettled hclimbs hclean hblocked]
  · rw [FileSystem.makeAbove_ended hslash hp hend, FileSystem.makeAbove_ended hslash hp hend]

include ht hbelow'

/-- Then the file itself finds the same as if no other file had been written. -/
theorem alike_beside (hends : Ends k.path name before) (hclean : Clean before) :
    Alike k.path before (fs.makeAbove before).1 ((t.save fs).1.makeAbove before).1 := by
  have hkeeps := keeps_save t fs
  have hsettled' := hkeeps.settled hsettled
  have hmade := (FileSystem.extends_makeAbove fs before).keeps
  have hmade' := (FileSystem.extends_makeAbove (t.save fs).1 before).keeps
  refine ⟨hmade.settled hsettled, hmade'.settled hsettled', ?_, ?_, ?_⟩
  · rw [hmade'.here, hkeeps.here, hmade.here]
  · have hsame := makeAbove_beside hsettled hk hbelow hends.suffix_before
    rcases FileSystem.makeAbove_settled hsettled hclean with ⟨hnone, hway⟩ | ⟨hsome, hway⟩
    · rcases FileSystem.makeAbove_settled hsettled' hclean with ⟨-, hway'⟩ | ⟨hsome', -⟩
      · rw [hway, hway']
      · exact absurd (hsame.trans hnone) hsome'
    · rcases FileSystem.makeAbove_settled hsettled' hclean with ⟨hnone', -⟩ | ⟨-, hway'⟩
      · exact absurd (hsame.symm.trans hnone') hsome
      · rw [hway, hway']
  · have hplace := FileSystem.makeAbove_placeOf hsettled hk.trail hends
    have hplace' := FileSystem.makeAbove_placeOf hsettled' hk.trail hends
    rw [hkeeps.placeOf] at hplace'
    rw [hmade.placeOf, hplace, hplace']
    exact save_frame hsettled ht hbelow'

/-- **A file ends as it would by itself, whatever becomes of another one beside it.** -/
theorem save_beside : (k.save (t.save fs).1).2 = (k.save fs).2 ∧
    (k.save (t.save fs).1).1.readBytes k.path = (k.save fs).1.readBytes k.path := by
  have hne : fs.placeOf k.path ≠ [] := by
    intro hroot
    rw [hroot] at hbelow'
    exact hbelow' List.nil_prefix
  obtain ⟨name, before, hends⟩ := FileSystem.exists_ends hne
  have hslash : Slashless before := (Path.slashless_trail k.path).suffix hends.suffix_before
  have hkeeps := keeps_save t fs
  have hsettled' := hkeeps.settled hsettled
  have hsame := makeAbove_beside hsettled hk hbelow hends.suffix_before
  have halike : Clean before →
      Alike k.path before (fs.makeAbove before).1 ((t.save fs).1.makeAbove before).1 :=
    alike_beside hsettled ht hk hbelow hbelow' hends
  -- a directory is only made on a clean way
  have hclean : (fs.makeAbove before).2 = none → Clean before := by
    intro hnone
    rcases FileSystem.clean_or_ended hslash with hclean | ⟨p, hp, hend⟩
    · exact hclean
    · rw [FileSystem.makeAbove_ended hslash hp hend] at hnone
      cases hnone
  rcases hmake' : (t.save fs).1.makeAbove before with ⟨mid', stop⟩
  rw [hmake'] at hsame halike
  rcases save_cases hends.trimmed hslash fs with ⟨mid, e, hmake, hsave⟩ |
    ⟨mid, e, hmake, hwrite, hsave⟩ | ⟨mid, fs', hmake, hwrite, hsave⟩
  · -- the directory fails for the same reason
    rw [hmake] at hsame halike
    obtain rfl : stop = some e := hsame
    rw [save_stopped hends.trimmed hslash hmake', hsave]
    refine ⟨rfl, ?_⟩
    rcases FileSystem.clean_or_ended hslash with hclean | ⟨p, hp, hend⟩
    · exact (halike hclean).readBytes hends
    · have hmem := Path.ended_of_mem (hends.suffix_before.subset hp) hend
      rw [FileSystem.readBytes_ended _ hmem, FileSystem.readBytes_ended _ hmem]
  · -- the directory is there, and the file fails for the same reason
    rw [hmake] at hsame halike hclean
    obtain rfl : stop = none := hsame
    have hwrite' := ((halike (hclean rfl)).writeBytes hends _ e).2 hwrite
    rw [save_failed hends.trimmed hslash hmake' hwrite', hsave]
    exact ⟨rfl, (halike (hclean rfl)).readBytes hends⟩
  · -- the file is written, since it would fail by itself if it failed
    rw [hmake] at hsame halike hclean
    obtain rfl : stop = none := hsame
    have hwritten : (k.save fs).2.status = .written := by rw [hsave]
    have hsaved' : (k.save (t.save fs).1).2 = ⟨.written, none⟩ := by
      cases hwrite' : mid'.writeBytes k.path k.content.toUTF8 with
      | error e =>
        cases hwrite.symm.trans (((halike (hclean rfl)).writeBytes hends _ e).1 hwrite')
      | ok fs'' => rw [save_put hends.trimmed hslash hmake' hwrite']
    have hwritten' : (k.save (t.save fs).1).2.status = .written := by rw [hsaved']
    obtain ⟨hfile, hresolve⟩ := save_occupant hsettled hwritten
    obtain ⟨hfile', hresolve'⟩ := save_occupant hsettled' hwritten'
    rw [FileSystem.readBytes_eq hresolve hfile, FileSystem.readBytes_eq hresolve' hfile', hsaved',
      hsave]
    exact ⟨rfl, rfl⟩

end Beside

/-- **Each file of an SDK ends as it would by itself,** if the paths go up only at first and neither
place is below the other. What becomes of a file, the error and what can be read under its path
afterwards are those of the file that is written alone. -/
theorem writeSdk_independent (hhere : fs.isDirectoryAt fs.here = true)
    (htypes : ClimbsFirst c.typesOutput) (hclient : ClimbsFirst c.clientOutput)
    (hbelow : ¬ fs.placeOf c.typesOutput <+: fs.placeOf c.clientOutput)
    (hbelow' : ¬ fs.placeOf c.clientOutput <+: fs.placeOf c.typesOutput) (x : Extraction) :
    ∃ types client fs' report, TypeScript.generateTypes c x = .ok types ∧
      TypeScript.generateClient c x = .ok client ∧ writeSdk fs c x = .ok (fs', report) ∧
      let declarations : GeneratedFile := ⟨.types, c.typesOutput, types⟩
      let sdk : GeneratedFile := ⟨.client, c.clientOutput, client⟩
      report.files =
        [.of declarations (declarations.save fs).2, .of sdk (sdk.save fs).2] ∧
      fs'.readBytes c.typesOutput = (declarations.save fs).1.readBytes c.typesOutput ∧
      fs'.readBytes c.clientOutput = (sdk.save fs).1.readBytes c.clientOutput := by
  have hsettled : fs.Settled := FileSystem.isDirectoryAt_iff.1 hhere
  obtain ⟨hsaved, hread⟩ := save_beside (t := typesFile c x) (k := clientFile c x) hsettled htypes
    hclient hbelow hbelow'
  have hread' := read_beside (t := typesFile c x) (k := clientFile c x) hsettled hclient hbelow
  refine ⟨_, _, _, _, TypeScript.generateTypes_text c x, TypeScript.generateClient_text c x,
    writeSdk_eq fs c x, ?_, hread', hread⟩
  unfold reportOn
  rw [hsaved]
  rfl

/-- A directory with a source, and with a directory in place of the declarations. -/
def occupiedDirectory : FileSystem :=
  bareDirectory [("sdk", .directory [("api.ts", .directory [])])]

/-- The declarations cannot be written, and the client is written beside them. -/
theorem independent_occupied :
    (pathsConfig "sdk/api.ts" "sdk/client.ts").validate =
      .ok (pathsConfig "sdk/api.ts" "sdk/client.ts") ∧
    ClimbsFirst "sdk/api.ts" ∧ ClimbsFirst "sdk/client.ts" ∧
    occupiedDirectory.placeOf "sdk/api.ts" = ["sdk", "api.ts"] ∧
    occupiedDirectory.placeOf "sdk/client.ts" = ["sdk", "client.ts"] ∧
    (reportOn occupiedDirectory (pathsConfig "sdk/api.ts" "sdk/client.ts") bareModel).files.map
      (·.status) = [.writeFailed, .written] ∧
    ∃ types client fs' report,
      writeSdk occupiedDirectory (pathsConfig "sdk/api.ts" "sdk/client.ts") bareModel =
        .ok (fs', report) ∧
      let declarations : GeneratedFile := ⟨.types, "sdk/api.ts", types⟩
      let sdk : GeneratedFile := ⟨.client, "sdk/client.ts", client⟩
      report.files = [.of declarations (declarations.save occupiedDirectory).2,
        .of sdk (sdk.save occupiedDirectory).2] ∧
      fs'.readBytes "sdk/api.ts" =
        (declarations.save occupiedDirectory).1.readBytes "sdk/api.ts" ∧
      fs'.readBytes "sdk/client.ts" =
        (sdk.save occupiedDirectory).1.readBytes "sdk/client.ts" := by
  obtain ⟨types, client, fs', report, -, -, hwrite, hindependent⟩ :=
    @writeSdk_independent occupiedDirectory (pathsConfig "sdk/api.ts" "sdk/client.ts") rfl
      (by decide) (by decide) (by decide) (by decide) bareModel
  exact ⟨rfl, by decide, by decide, by decide, by decide, rfl, types, client, fs', report, hwrite,
    hindependent⟩

end SdkGen.Run
