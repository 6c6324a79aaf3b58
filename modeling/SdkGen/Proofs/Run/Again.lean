import SdkGen.Proofs.Run.Agreement
import SdkGen.Proofs.Run.Save

/-!
# A second generation

A generation writes to the tree that it reads from. A second one finds the input as it was, unless
the first one has written over it, and then it comes upon the directories and files of the first.

* `Reaches`, `Apart`: what paths can come to lead to.
* `saves_again`: two files that are written twice.
* `configures_again`, `readModel_again`: the input of the second generation.
* `generate_again`: the second generation leaves the tree as it is and ends as the first one did.
-/

namespace SdkGen

namespace FileSystem

variable {fs : FileSystem} {path path' : String} {place : List String} {bytes : ByteArray}

/-- Whether a path leads to a place, or will lead there once something stands there and on the
way. -/
def Reaches (fs : FileSystem) (path : String) (place : List String) : Prop :=
  ∃ fs', Keeps fs fs' ∧ fs'.resolve path = .ok place

/-- Two paths that never lead to one place. -/
def Apart (fs : FileSystem) (path path' : String) : Prop :=
  ∀ place, fs.Reaches path place → ¬ fs.Reaches path' place

theorem place_of_reaches (hsettled : fs.Settled) (h : fs.Reaches path place) :
    place = fs.placeOf path := by
  obtain ⟨fs', hkeeps, hresolve⟩ := h
  obtain ⟨hplace, -⟩ := place_of_resolve (hkeeps.settled hsettled) hresolve
  exact hplace.trans (hkeeps.placeOf path)

/-- Paths with different places are apart. -/
theorem apart_of_ne (hsettled : fs.Settled) (hne : fs.placeOf path ≠ fs.placeOf path') :
    fs.Apart path path' := by
  intro place hpath hpath'
  exact hne ((place_of_reaches hsettled hpath).symm.trans (place_of_reaches hsettled hpath'))

theorem putFile_same (h : fs.occupant? place = some (.file bytes)) :
    fs.putFile place bytes = fs := by
  unfold putFile
  rw [Node.put_file_same h]

theorem putFile_putFile (fs : FileSystem) (place : List String) (bytes bytes' : ByteArray) :
    (fs.putFile place bytes').putFile place bytes = fs.putFile place bytes := by
  unfold putFile
  rw [Node.put_put]

end FileSystem

namespace Run

open CommandLine (GenerateArgs)
open FileSystem (Keeps Settled)
open TypeScript (GeneratedFile FileStatus typesFile clientFile)

variable {fs fs' : FileSystem} {args : GenerateArgs} {c : GeneratorConfig} {x : Extraction}
  {log : List Event} {path text : String} {q : List String} {bytes : ByteArray}

/-! ## Both files, twice -/

/-- **Two files that are written twice end as the first time, and leave what they left.** The
second file may have taken the place of the first one; then it does so again. -/
theorem saves_again (hsettled : fs.Settled) (t k : GeneratedFile) :
    let fs₁ := (t.save fs).1
    let fs₂ := (k.save fs₁).1
    let fs₃ := (t.save fs₂).1
    (k.save fs₃).1 = fs₂ ∧ (t.save fs₂).2.status = (t.save fs).2.status ∧
      (k.save fs₃).2.status = (k.save fs₁).2.status := by
  intro fs₁ fs₂ fs₃
  have hsettled₁ : fs₁.Settled := (keeps_save t fs).settled hsettled
  have hkeeps : Keeps fs₂ fs₃ := keeps_save t fs₂
  obtain ⟨htypes, hput, hkept⟩ := save_again (f := t) hsettled (keeps_save k fs₁)
  obtain ⟨hclient, hput', hkept'⟩ := save_again (f := k) hsettled₁ hkeeps
  refine ⟨?_, htypes, hclient⟩
  -- the first file is put where it stands, unless the second one stands there
  have hfirst : (t.save fs).2.status = .written →
      ((k.save fs₁).2.status = .written → fs.placeOf t.path ≠ fs₁.placeOf k.path) →
      fs₃ = fs₂ := by
    intro hwritten helse
    have hfile := (save_occupant hsettled hwritten).1
    have hsame := save_elsewhere (f := k) hsettled₁ (hfile.trans_ne (Option.some_ne_none _)) helse
    exact (hput hwritten).trans (FileSystem.putFile_same (hsame.trans hfile))
  by_cases hwritten' : (k.save fs₁).2.status = .written
  · have hsecond : fs₂.putFile (fs₁.placeOf k.path) k.content.toUTF8 = fs₂ :=
      FileSystem.putFile_same (save_occupant hsettled₁ hwritten').1
    rw [hput' hwritten']
    by_cases hwritten : (t.save fs).2.status = .written
    · by_cases hplace : fs.placeOf t.path = fs₁.placeOf k.path
      · have hover : fs₃ = fs₂.putFile (fs₁.placeOf k.path) t.content.toUTF8 :=
          hplace ▸ hput hwritten
        rw [hover, FileSystem.putFile_putFile, hsecond]
      · rw [hfirst hwritten fun _ => hplace, hsecond]
    · rw [show fs₃ = fs₂ from hkept hwritten, hsecond]
  · rw [hkept' hwritten']
    by_cases hwritten : (t.save fs).2.status = .written
    · exact hfirst hwritten fun h => absurd h hwritten'
    · exact hkept hwritten

/-- The artifacts of a report with what became of them. -/
def GenerationReport.statuses (r : GenerationReport) : List (TypeScript.Artifact × FileStatus) :=
  r.files.map fun f => (f.artifact, f.status)

/-- How a generation ends is told by what became of the artifacts. -/
theorem exitCode_statuses {r r' : GenerationReport} (h : r'.statuses = r.statuses) :
    r'.exitCode = r.exitCode := by
  have hfailure : ∀ r : GenerationReport,
      r.hasDirectoryFailure = r.statuses.any fun s => s.2 = .directoryFailed := by
    intro r
    unfold GenerationReport.hasDirectoryFailure GenerationReport.statuses
    rw [List.any_map]
    rfl
  unfold GenerationReport.exitCode
  rw [hfailure, hfailure, h]

theorem filesAfter_again (hsettled : fs.Settled) (c : GeneratorConfig) (x : Extraction) :
    filesAfter (filesAfter fs c x) c x = filesAfter fs c x ∧
      (reportOn (filesAfter fs c x) c x).statuses = (reportOn fs c x).statuses := by
  obtain ⟨hfiles, htypes, hclient⟩ := saves_again hsettled (typesFile c x) (clientFile c x)
  refine ⟨hfiles, ?_⟩
  unfold filesAfter GenerationReport.statuses reportOn FileReport.of
  simp only [List.map_cons, List.map_nil, htypes, hclient]

/-! ## The input, twice -/

theorem keeps_filesAfter (fs : FileSystem) (c : GeneratorConfig) (x : Extraction) :
    Keeps fs (filesAfter fs c x) :=
  (keeps_save _ fs).trans (keeps_save _ _)

/-- A file that stands anywhere stood there, or an output leads to it. -/
theorem filesAfter_file (hsettled : fs.Settled)
    (h : (filesAfter fs c x).occupant? q = some (.file bytes)) :
    fs.occupant? q = some (.file bytes) ∨
      ∃ output ∈ [c.typesOutput, c.clientOutput], fs.Reaches output q := by
  have hkeeps := keeps_save (typesFile c x) fs
  rcases save_file (hkeeps.settled hsettled) h with hfile | ⟨hwritten, rfl⟩
  · rcases save_file hsettled hfile with hfile | ⟨hwritten, rfl⟩
    · exact .inl hfile
    · exact .inr ⟨c.typesOutput, by simp, _, hkeeps, (save_occupant hsettled hwritten).2⟩
  · exact .inr ⟨c.clientOutput, by simp, _, keeps_filesAfter fs c x,
      (save_occupant (hkeeps.settled hsettled) hwritten).2⟩

section Input

variable (hsettled : fs.Settled)
  (hapart : ∀ output ∈ [c.typesOutput, c.clientOutput], fs.Apart output path)

include hsettled hapart

/-- **A file that no output leads to is read as before.** -/
theorem read_again (x : Extraction) (hread : fs.read path = .ok text) :
    (filesAfter fs c x).read path = .ok text := by
  obtain ⟨bytes, hbytes, htext⟩ := bind_ok_iff.1 hread
  obtain ⟨place, hresolve, hoccupant⟩ := FileSystem.readBytes_ok_iff.1 hbytes
  have hkeeps := keeps_filesAfter fs c x
  obtain ⟨bytes', hfile⟩ := hkeeps.file place bytes hoccupant
  have hsame : (filesAfter fs c x).occupant? place = some (.file bytes) := by
    rcases filesAfter_file hsettled hfile with hfile' | ⟨output, houtput, hreaches⟩
    · exact hfile.trans (hfile'.symm.trans hoccupant)
    · exact absurd ⟨fs, Keeps.refl fs, hresolve⟩ (hapart output houtput place hreaches)
  unfold FileSystem.read
  rw [FileSystem.readBytes_eq (hkeeps.resolve hresolve) hsame]
  exact htext

/-- The configuration file of the working directory is not made either. -/
theorem isFile_again (x : Extraction) (hpath : path = configPath)
    (hmissing : fs.isFile path = false) : (filesAfter fs c x).isFile path = false := by
  rw [← Bool.not_eq_true]
  intro hfound
  have hkeeps := keeps_filesAfter fs c x
  have hsettled' := hkeeps.settled hsettled
  unfold FileSystem.isFile at hmissing hfound
  cases hresolve : (filesAfter fs c x).resolve path with
  | error e =>
    rw [hresolve] at hfound
    cases hfound
  | ok place =>
    rw [hresolve] at hfound
    have hreaches : fs.Reaches path place := ⟨_, hkeeps, hresolve⟩
    obtain ⟨hplace, hthere⟩ := FileSystem.place_of_resolve hsettled' hresolve
    have hnot : (filesAfter fs c x).occupant? place ≠ some .directory := by
      simpa [← FileSystem.isDirectoryAt_iff] using hfound
    obtain ⟨bytes, hfile⟩ : ∃ bytes, (filesAfter fs c x).occupant? place = some (.file bytes) := by
      rcases hcases : (filesAfter fs c x).occupant? place with _ | bytes | _
      · exact absurd hcases hthere
      · exact ⟨bytes, rfl⟩
      · exact absurd hcases hnot
    rcases filesAfter_file hsettled hfile with hfile' | ⟨output, houtput, hreaches'⟩
    · -- then it stood there before
      have htrail : Path.trail path = ["tsgen.toml", "."] := by
        rw [hpath]
        decide
      have hway : fs.way ["."] = .clear := by
        rw [FileSystem.way_cons_clear hsettled.way_nil]
        exact FileSystem.Way.of_eq_clear_iff.2 hsettled
      have hresolve' := FileSystem.resolve_by_way hsettled (by rw [hpath]; decide)
        (by rw [hpath]; decide) htrail
      rw [hway, ← hkeeps.placeOf, ← hplace, hfile'] at hresolve'
      have hdirectory : fs.isDirectoryAt place = false := by
        rw [← Bool.not_eq_true, FileSystem.isDirectoryAt_iff, hfile']
        simp
      rw [hresolve'] at hmissing
      simp [hdirectory] at hmissing
    · exact hapart output houtput place hreaches' hreaches

end Input

/-- **The configuration is loaded as before.** -/
theorem configures_again {given : Option String} {base : GeneratorConfig} (hsettled : fs.Settled)
    (hapart : ∀ output ∈ [c.typesOutput, c.clientOutput],
      fs.Apart output (given.getD configPath))
    (h : Configures fs given base) (x : Extraction) :
    Configures (filesAfter fs c x) given base := by
  cases h with
  | named hread hdecode hvalid =>
    exact .named (read_again hsettled hapart x hread) hdecode hvalid
  | found hfile hread hdecode hvalid =>
    have hread' := read_again hsettled hapart x hread
    exact .found (FileSystem.isFile_of_read hread') hread' hdecode hvalid
  | default hfile => exact .default (isFile_again hsettled hapart x rfl hfile)

/-- **The model is read as before.** -/
theorem readModel_again (hsettled : fs.Settled)
    (hapart : ∀ output ∈ [c.typesOutput, c.clientOutput], fs.Apart output c.source)
    (h : readModel fs c = (log, .ok x)) : readModel (filesAfter fs c x) c = (log, .ok x) := by
  unfold readModel at h ⊢
  cases hroutes : RouteTable.withOverrides c.routes with
  | error f =>
    rw [hroutes] at h
    cases h
  | ok routes =>
    rw [hroutes] at h
    dsimp only at h ⊢
    cases hread : fs.read c.source with
    | error f =>
      rw [hread] at h
      cases h
    | ok source =>
      rw [hread] at h
      rw [read_again hsettled hapart x hread]
      exact h

/-! ## Generations -/

/-- **A second generation leaves the tree as the first one left it and ends as it ended,** with the
same for each artifact, as long as no output leads to the source or to the configuration file. The
first one may have failed, one output may be the other or stand below it, and the configuration
file need not be there. -/
theorem generate_again (hhere : fs.isDirectoryAt fs.here = true)
    (hapart : ∀ c, resolveConfig fs args = .ok c →
      ∀ output ∈ [c.typesOutput, c.clientOutput],
        ∀ input ∈ [c.source, args.config.getD configPath], fs.Apart output input)
    (format : Report.OutputFormat) (colored : Bool) :
    let first := generate fs args format colored
    let second := generate first.files args format colored
    second.files = first.files ∧ second.result = first.result ∧
      (second = first ∨ ∃ log c x report report',
        generationModel fs args = (log, .ok x) ∧
        generationModel first.files args = (log, .ok x) ∧
        writeSdk fs c x = .ok (first.files, report) ∧
        writeSdk first.files c x = .ok (second.files, report') ∧
        first.output = format.write colored report.toJson ++ "\n" ∧
        second.output = format.write colored report'.toJson ++ "\n" ∧
        report'.statuses = report.statuses) := by
  have hsettled : fs.Settled := FileSystem.isDirectoryAt_iff.1 hhere
  rcases hmodel : generationModel fs args with ⟨log, e | x⟩
  · -- the first generation is refused, and so nothing is different
    obtain ⟨fields, hfirst⟩ := generate_stopped hmodel format colored
    have hfiles : (generate fs args format colored).files = fs := by
      rw [hfirst]
      rfl
    intro first second
    have hsecond : second = first := congrArg (generate · args format colored) hfiles
    exact ⟨congrArg Outcome.files hsecond, congrArg Outcome.result hsecond, .inl hsecond⟩
  · obtain ⟨c, hresolve, hread, hwrite, houtput, hresult⟩ := generate_model hmodel format colored
    obtain ⟨⟨base, hbase, hc⟩, hvalid⟩ := resolveConfig_ok_iff.1 hresolve
    have hsource := fun output houtput => hapart c hresolve output houtput c.source (by simp)
    have hconfig := fun output houtput =>
      hapart c hresolve output houtput (args.config.getD configPath) (by simp)
    have hfiles : (generate fs args format colored).files = filesAfter fs c x := by
      rw [writeSdk_eq] at hwrite
      exact (congrArg Prod.fst (Except.ok.inj hwrite)).symm
    -- the second generation reads the configuration and the source that the first one read
    have hresolve' : resolveConfig (filesAfter fs c x) args = .ok c :=
      resolveConfig_ok_iff.2 ⟨⟨base, configures_again hsettled hconfig hbase x, hc⟩, hvalid⟩
    have hmodel' : generationModel (filesAfter fs c x) args = (log, .ok x) := by
      unfold generationModel
      rw [hresolve']
      exact readModel_again hsettled hsource hread
    obtain ⟨c', hresolved, -, hwrite', houtput', hresult'⟩ := generate_model hmodel' format colored
    obtain rfl : c = c' := Except.ok.inj (hresolve'.symm.trans hresolved)
    -- and so it attempts the same files, in the tree that the first one left
    obtain ⟨hagain, hstatuses⟩ := filesAfter_again hsettled c x
    intro first second
    have hsecond : second = generate (filesAfter fs c x) args format colored :=
      congrArg (generate · args format colored) hfiles
    have hleft : second.files = filesAfter fs c x := by
      rw [writeSdk_eq, hagain] at hwrite'
      rw [hsecond]
      exact (congrArg Prod.fst (Except.ok.inj hwrite')).symm
    refine ⟨hleft.trans hfiles.symm, ?_, .inr ⟨log, c, x, _, _, rfl, ?_, hwrite, ?_, houtput, ?_,
      hstatuses⟩⟩
    · rw [hsecond, hresult', hresult, exitCode_statuses hstatuses]
    · rw [hfiles]
      exact hmodel'
    · rw [hfiles, hsecond]
      exact hwrite'
    · rw [hsecond]
      exact houtput'

/-- One output below the other, in a directory that is missing. -/
def nestedArgs : GenerateArgs :=
  { typesOut := some "sdk/out", clientOut := some "sdk/out/client.ts" }

/-- The declarations are in the way of the client, in the second generation as in the first one. -/
theorem generate_again_nested :
    resolveConfig (bareDirectory []) nestedArgs =
      .ok (pathsConfig "sdk/out" "sdk/out/client.ts") ∧
    readModel (bareDirectory []) (pathsConfig "sdk/out" "sdk/out/client.ts") =
      ([.opened "main.go"], .ok bareModel) ∧
    (bareDirectory []).isDirectoryAt (bareDirectory []).here = true ∧
    (∀ output ∈ ["sdk/out", "sdk/out/client.ts"], ∀ input ∈ ["main.go", configPath],
      (bareDirectory []).Apart output input) ∧
    (reportOn (bareDirectory []) (pathsConfig "sdk/out" "sdk/out/client.ts") bareModel).statuses =
      [(.types, .written), (.client, .directoryFailed)] ∧
    let first := generate (bareDirectory []) nestedArgs .json false
    let second := generate first.files nestedArgs .json false
    second.files = first.files ∧ second.result = first.result := by
  have hresolve : resolveConfig (bareDirectory []) nestedArgs =
      .ok (pathsConfig "sdk/out" "sdk/out/client.ts") := rfl
  have hhere : (bareDirectory []).isDirectoryAt (bareDirectory []).here = true := rfl
  have hplaces : ∀ output ∈ ["sdk/out", "sdk/out/client.ts"], ∀ input ∈ ["main.go", configPath],
      (bareDirectory []).placeOf output ≠ (bareDirectory []).placeOf input := by decide
  have hapart : ∀ output ∈ ["sdk/out", "sdk/out/client.ts"], ∀ input ∈ ["main.go", configPath],
      (bareDirectory []).Apart output input := fun output houtput input hinput =>
    FileSystem.apart_of_ne (FileSystem.isDirectoryAt_iff.1 hhere)
      (hplaces output houtput input hinput)
  have hconfigured : ∀ c, resolveConfig (bareDirectory []) nestedArgs = .ok c →
      ∀ output ∈ [c.typesOutput, c.clientOutput],
        ∀ input ∈ [c.source, nestedArgs.config.getD configPath],
          (bareDirectory []).Apart output input := by
    intro c hc
    obtain rfl := Except.ok.inj (hresolve.symm.trans hc)
    exact hapart
  obtain ⟨hfiles, hresult, -⟩ :=
    @generate_again (bareDirectory []) nestedArgs hhere hconfigured .json false
  exact ⟨hresolve, readModel_bare _ _, hhere, hapart, rfl, hfiles, hresult⟩

end Run

end SdkGen
