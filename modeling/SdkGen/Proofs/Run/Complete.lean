import SdkGen.Proofs.Extraction.Plain
import SdkGen.Proofs.Files.FileSystem
import SdkGen.Proofs.Run.Exit

/-!
# What a complete generation leaves

A generation is complete if both files are reported as written. They are written one after the
other, and so the second one may stand where the first one did.

* `save_written`, `written_of_complete`: what one file and what both leave.
* `complete_files`: the files of a complete generation, and when both are there.
* `complete_aliased`: a complete generation that leaves one file.
-/

namespace SdkGen.Run

open TypeScript (GeneratedFile FileStatus typesFile clientFile)
open FileSystem (Keeps Extends)

variable {fs fs' : FileSystem} {f : GeneratedFile} {c : GeneratorConfig} {x : Extraction}
  {report : GenerationReport}

theorem extends_makeParent (f : GeneratedFile) (fs : FileSystem) :
    Extends fs (f.makeParent fs).1 := by
  unfold GeneratedFile.makeParent
  cases f.directory? with
  | none => exact .refl fs
  | some dir => exact FileSystem.extends_makeDirectories fs dir

/-- **A file that is written stands where its path leads, and what stood elsewhere is kept.** -/
theorem save_written (h : (f.save fs).2.status = .written) :
    (f.save fs).2 = ⟨.written, none⟩ ∧ ∃ place mid, Extends fs mid ∧ Keeps fs (f.save fs).1 ∧
      (f.save fs).1.resolve f.path = .ok place ∧
      ∀ q, (f.save fs).1.occupant? q =
        if q = place then some (.file f.content.toUTF8) else mid.occupant? q := by
  have hparent := extends_makeParent f fs
  -- a failed directory and a failed file each have a status of their own
  unfold GeneratedFile.save at h ⊢
  rcases hmake : f.makeParent fs with ⟨mid, _ | e⟩
  · rw [hmake] at h hparent
    dsimp only at h ⊢
    cases hwrite : f.writeContents mid with
    | error e =>
      rw [hwrite] at h
      cases h
    | ok fs' =>
      obtain ⟨place, hresolve, hkeeps, hoccupant⟩ :=
        FileSystem.writeBytes_ok (mapError_ok_iff.1 hwrite)
      exact ⟨rfl, place, mid, hparent, hparent.keeps.trans hkeeps, hresolve, hoccupant⟩
  · rw [hmake] at h
    cases h

/-- What is reported on two files that are both written. -/
def writtenReports (c : GeneratorConfig) (x : Extraction) : List FileReport :=
  [⟨.types, c.typesOutput, (TypeScript.declarationsText c x.records).toUTF8.size, .written, none⟩,
    ⟨.client, c.clientOutput, (TypeScript.sdkClientText c x).toUTF8.size, .written, none⟩]

/-- In a complete generation each file has been put where its path leads, and the second one takes
nothing away but what stands in its place. -/
theorem written_of_complete (hcomplete : (reportOn fs c x).isComplete = true) :
    (reportOn fs c x).files = writtenReports c x ∧ ∃ place place',
      (filesAfter fs c x).resolve c.typesOutput = .ok place ∧
      (filesAfter fs c x).resolve c.clientOutput = .ok place' ∧
      (filesAfter fs c x).occupant? place' =
        some (.file (TypeScript.sdkClientText c x).toUTF8) ∧
      (place ≠ place' → (filesAfter fs c x).occupant? place =
        some (.file (TypeScript.declarationsText c x.records).toUTF8)) := by
  have hstatus : ((typesFile c x).save fs).2.status = .written ∧
      ((clientFile c x).save ((typesFile c x).save fs).1).2.status = .written := by
    simpa [GenerationReport.isComplete, reportOn, FileReport.of] using hcomplete
  obtain ⟨hsaved, place, _, -, -, hresolve, hoccupant⟩ := save_written hstatus.1
  obtain ⟨hsaved', place', mid, hextends, hkeeps, hresolve', hoccupant'⟩ := save_written hstatus.2
  refine ⟨?_, place, place', hkeeps.resolve hresolve, hresolve',
    (hoccupant' place').trans (if_pos rfl), ?_⟩
  · unfold reportOn FileReport.of
    rw [hsaved, hsaved']
    rfl
  · intro hne
    have hfirst := (hoccupant place).trans (if_pos rfl)
    have hkept := hextends.occupant place (hfirst ▸ Option.some_ne_none _)
    exact (hoccupant' place).trans ((if_neg hne).trans (hkept.trans hfirst))

/-- **A complete generation leaves the client where its path leads, and the declarations as well if
and only if the two paths lead to different places.** Where they lead to one place, the client has
replaced the declarations, and both are reported as written with their sizes all the same. -/
theorem complete_files (hwrite : writeSdk fs c x = .ok (fs', report))
    (hcomplete : report.isComplete = true) :
    ∃ types client, TypeScript.generateTypes c x = .ok types ∧
      TypeScript.generateClient c x = .ok client ∧
      report.files = [⟨.types, c.typesOutput, types.toUTF8.size, .written, none⟩,
        ⟨.client, c.clientOutput, client.toUTF8.size, .written, none⟩] ∧
      fs'.readBytes c.clientOutput = .ok client.toUTF8 ∧
      (fs'.readBytes c.typesOutput = .ok types.toUTF8 ↔
        fs'.resolve c.typesOutput ≠ fs'.resolve c.clientOutput) ∧
      (fs'.resolve c.typesOutput ≠ fs'.resolve c.clientOutput →
        ∀ f ∈ report.files, ∃ bytes, fs'.readBytes f.path = .ok bytes ∧ bytes.size = f.bytes) := by
  rw [writeSdk_eq] at hwrite
  obtain ⟨rfl, rfl⟩ := Prod.mk.inj (Except.ok.inj hwrite)
  obtain ⟨hreport, place, place', hplace, hplace', hoccupant', hoccupant⟩ :=
    written_of_complete hcomplete
  have hclient := FileSystem.readBytes_eq hplace' hoccupant'
  have htypes := fun hne => FileSystem.readBytes_eq hplace (hoccupant hne)
  have hdiffer : (filesAfter fs c x).resolve c.typesOutput ≠
      (filesAfter fs c x).resolve c.clientOutput ↔ place ≠ place' := by
    rw [hplace, hplace', ne_eq, Except.ok.injEq]
  refine ⟨_, _, TypeScript.generateTypes_text c x, TypeScript.generateClient_text c x, hreport,
    hclient, ?_, ?_⟩
  · rw [hdiffer]
    refine ⟨?_, htypes⟩
    rintro hread rfl
    -- at one place stands one text
    have hsame := FileSystem.readBytes_eq hplace hoccupant'
    have hbytes := Except.ok.inj (hread.symm.trans hsame)
    exact TypeScript.texts_differ c x (String.toByteArray_inj.1 hbytes)
  · intro hne f hf
    rw [hreport] at hf
    rcases List.mem_cons.1 hf with rfl | hf
    · exact ⟨_, htypes (hdiffer.1 hne), rfl⟩
    · rw [List.mem_singleton.1 hf]
      exact ⟨_, hclient, rfl⟩

/-! ## Two runs -/

/-- A file that goes into the working directory is written as soon as its path can be. -/
theorem save_here (hdirectory : f.directory? = none)
    (hwrite : fs.writeBytes f.path f.content.toUTF8 = .ok fs') :
    f.save fs = (fs', ⟨.written, none⟩) := by
  have hparent : f.makeParent fs = (fs, none) := by
    unfold GeneratedFile.makeParent
    rw [hdirectory]
  have hcontents : f.writeContents fs = .ok fs' := mapError_ok_iff.2 hwrite
  unfold GeneratedFile.save
  rw [hparent]
  dsimp only
  rw [hcontents]

/-- Two files that go into the working directory make a complete generation. -/
theorem complete_here {fs₁ fs₂ : FileSystem}
    (htypes : (Path.parent c.typesOutput).filter (· ≠ "") = none)
    (hclient : (Path.parent c.clientOutput).filter (· ≠ "") = none)
    (hfirst : fs.writeBytes c.typesOutput (typesFile c x).content.toUTF8 = .ok fs₁)
    (hsecond : fs₁.writeBytes c.clientOutput (clientFile c x).content.toUTF8 = .ok fs₂) :
    writeSdk fs c x = .ok (fs₂, reportOn fs c x) ∧ (reportOn fs c x).isComplete = true := by
  have hsave := save_here (f := typesFile c x) htypes hfirst
  have hsave' := save_here (f := clientFile c x) hclient hsecond
  rw [writeSdk_eq]
  unfold filesAfter reportOn
  rw [hsave]
  dsimp only
  rw [hsave']
  exact ⟨rfl, rfl⟩

/-- A directory with a source that declares nothing, and with other files. -/
def bareDirectory (others : List (String × Node)) : FileSystem :=
  ⟨.directory (("main.go", .file "package p\n".toUTF8) :: others), []⟩

/-- The model of that source. -/
def bareModel : Extraction := ⟨"p", [], [], []⟩

/-- A configuration with two paths of its own. -/
def pathsConfig (types client : String) : GeneratorConfig :=
  { typesOutput := types, clientOutput := client }

theorem readModel_bare (types client : String) :
    readModel (bareDirectory []) (pathsConfig types client) =
      ([.opened "main.go"], .ok bareModel) := by
  let file : Go.PlainFile := ⟨⟨"p", by decide⟩, []⟩
  have hread : (bareDirectory []).read "main.go" = .ok "package p\n" := rfl
  have hextract := extract_plain (f := file) .builtin (s := "package p\n") (by decide) rfl
  have hmodel : Extraction.ofFile .builtin file.asRead = bareModel := by decide
  have hroutes : RouteTable.withOverrides (pathsConfig types client).routes = .ok .builtin := rfl
  rw [hmodel] at hextract
  unfold readModel
  rw [hroutes]
  dsimp only
  rw [show (pathsConfig types client).source = "main.go" from rfl, hread]
  dsimp only
  rw [hextract]
  rfl

/-- Two files side by side are both there. -/
theorem complete_apart : ∃ fs' report, ∃ types client : String,
    writeSdk (bareDirectory []) (pathsConfig "api.ts" "client.ts") bareModel = .ok (fs', report) ∧
    report.isComplete = true ∧ fs'.resolve "api.ts" ≠ fs'.resolve "client.ts" ∧
    fs'.readBytes "api.ts" = .ok types.toUTF8 ∧ fs'.readBytes "client.ts" = .ok client.toUTF8 := by
  have hfirst : ∀ b, (bareDirectory []).writeBytes "api.ts" b =
      .ok (bareDirectory [("api.ts", .file b)]) := fun _ => rfl
  have hsecond : ∀ a b, (bareDirectory [("api.ts", .file a)]).writeBytes "client.ts" b =
      .ok (bareDirectory [("api.ts", .file a), ("client.ts", .file b)]) := fun _ _ => rfl
  have hdiffer : ∀ a b : ByteArray,
      (bareDirectory [("api.ts", .file a), ("client.ts", .file b)]).resolve "api.ts" ≠
        (bareDirectory [("api.ts", .file a), ("client.ts", .file b)]).resolve "client.ts" := by
    intro a b h
    have hplace : (bareDirectory [("api.ts", .file a), ("client.ts", .file b)]).resolve "api.ts" =
        .ok ["api.ts"] := rfl
    have hplace' : (bareDirectory [("api.ts", .file a), ("client.ts", .file b)]).resolve
        "client.ts" = .ok ["client.ts"] := rfl
    rw [hplace, hplace'] at h
    exact absurd (Except.ok.inj h) (by decide)
  obtain ⟨hwrite, hcomplete⟩ := complete_here (c := pathsConfig "api.ts" "client.ts")
    (x := bareModel) (by decide) (by decide) (hfirst _) (hsecond _ _)
  obtain ⟨types, client, -, -, -, hclient, htypes, -⟩ := complete_files hwrite hcomplete
  exact ⟨_, _, types, client, hwrite, hcomplete, hdiffer _ _, htypes.2 (hdiffer _ _), hclient⟩

/-- **Two files under one path are reported as written, and only the client is there.** -/
theorem complete_aliased :
    (pathsConfig "out.ts" "out.ts").validate = .ok (pathsConfig "out.ts" "out.ts") ∧
    readModel (bareDirectory []) (pathsConfig "out.ts" "out.ts") =
      ([.opened "main.go"], .ok bareModel) ∧
    ∃ fs' report types client,
      writeSdk (bareDirectory []) (pathsConfig "out.ts" "out.ts") bareModel = .ok (fs', report) ∧
      report.isComplete = true ∧
      TypeScript.generateTypes (pathsConfig "out.ts" "out.ts") bareModel = .ok types ∧
      TypeScript.generateClient (pathsConfig "out.ts" "out.ts") bareModel = .ok client ∧
      types ≠ client ∧ fs'.readBytes "out.ts" = .ok client.toUTF8 := by
  -- of all bytes, so that the rendered texts are never computed
  have hfirst : ∀ b, (bareDirectory []).writeBytes "out.ts" b =
      .ok (bareDirectory [("out.ts", .file b)]) := fun _ => rfl
  have hsecond : ∀ a b, (bareDirectory [("out.ts", .file a)]).writeBytes "out.ts" b =
      .ok (bareDirectory [("out.ts", .file b)]) := fun _ _ => rfl
  have hread : ∀ b, (bareDirectory [("out.ts", .file b)]).readBytes "out.ts" = .ok b := fun _ => rfl
  obtain ⟨hwrite, hcomplete⟩ := complete_here (c := pathsConfig "out.ts" "out.ts")
    (x := bareModel) (by decide) (by decide) (hfirst _) (hsecond _ _)
  exact ⟨rfl, readModel_bare _ _, _, _, _, _, hwrite, hcomplete, TypeScript.generateTypes_text _ _,
    TypeScript.generateClient_text _ _, TypeScript.texts_differ _ _, hread _⟩

end SdkGen.Run
