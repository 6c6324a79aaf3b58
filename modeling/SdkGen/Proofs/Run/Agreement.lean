import SdkGen.Proofs.Run.Exit

/-!
# Inspections and generations agree

An inspection prints the model from which a generation with the same source and configuration
writes its files. Each of the two puts the flags over the configuration and tells of its errors in
its own way.

* `inspectModel_eq`: both start from one configuration and read one model.
* `generationModel_error`: only the input can be at fault before anything is written, and the log
  tells of no other error.
* `inspect_model`, `generate_model`: how each of the two ends, by how the model is read.
* `inspect_agrees`: both are refused for one reason, or neither is.
-/

namespace SdkGen.Run

open CommandLine (GenerateArgs)

variable {fs : FileSystem} {args : GenerateArgs} {c : GeneratorConfig} {e : Error}
  {log : List Event} {x : Extraction}

/-! ## One model -/

/-- The settings of a generation that an inspection has as well. -/
def inspectionArgs (source config : Option String) : GenerateArgs :=
  { source := source, config := config }

/-- What a generation reads, with what the log says of it. -/
def generationModel (fs : FileSystem) (args : GenerateArgs) :
    List Event × Except Error Extraction :=
  match resolveConfig fs args with
  | .error e => ([], .error e)
  | .ok c => readModel fs c

/-- **An inspection reads what the generation reads.** -/
theorem inspectModel_eq (fs : FileSystem) (source config : Option String) :
    inspectModel fs source config = generationModel fs (inspectionArgs source config) := by
  unfold inspectModel generationModel resolveConfig
  have hconfig : (inspectionArgs source config).config = config := rfl
  rw [hconfig]
  cases loadConfig fs config with
  | error e => rfl
  | ok c =>
    -- no other flag is given
    have happly : (inspectionArgs source config).apply c =
        { c with source := source.getD c.source } := rfl
    cases hchecked : checked { c with source := source.getD c.source } with
    | error e => simp only [bind, Except.bind, happly, hchecked]
    | ok c => simp only [bind, Except.bind, happly, hchecked]

/-- Reading tells of the source that it opens and of nothing else. -/
theorem readModel_log (fs : FileSystem) (c : GeneratorConfig) :
    ∀ event ∈ (readModel fs c).1, event.level = .info := by
  unfold readModel
  cases RouteTable.withOverrides c.routes with
  | error f => simp
  | ok routes =>
    dsimp only
    cases fs.read c.source with
    | error f => simp
    | ok source => simp [Event.opened]

theorem readModel_error (h : readModel fs c = (log, .error e)) : e.exitCode = .badInput := by
  unfold readModel at h
  cases hroutes : RouteTable.withOverrides c.routes with
  | error f =>
    rw [hroutes] at h
    cases h
    rfl
  | ok routes =>
    rw [hroutes] at h
    dsimp only at h
    cases hread : fs.read c.source with
    | error f =>
      rw [hread] at h
      cases h
      rfl
    | ok source =>
      rw [hread] at h
      obtain ⟨f, -, rfl⟩ := mapError_error (Prod.mk.inj h).2
      rfl

/-- Only the input can be at fault before anything is written. -/
theorem generationModel_error (h : generationModel fs args = (log, .error e)) :
    e.exitCode = .badInput ∧ ∀ event ∈ log, event.level = .info := by
  unfold generationModel at h
  cases hresolve : resolveConfig fs args with
  | error f =>
    rw [hresolve] at h
    cases h
    exact ⟨resolveConfig_error hresolve, by simp⟩
  | ok c =>
    rw [hresolve] at h
    have hmodel : readModel fs c = (log, .error e) := h
    have hlog := readModel_log fs c
    rw [hmodel] at hlog
    exact ⟨readModel_error hmodel, hlog⟩

/-! ## Both commands -/

theorem inspect_refused {source config : Option String}
    (h : inspectModel fs source config = (log, .error e)) (format : Report.OutputFormat)
    (colored : Bool) :
    inspect fs source config format colored = .stopped e.exitCode (log ++ [.failure e []]) fs := by
  unfold inspect
  rw [h]

theorem inspect_model {source config : Option String}
    (h : inspectModel fs source config = (log, .ok x)) (format : Report.OutputFormat)
    (colored : Bool) :
    inspect fs source config format colored =
      ⟨.ok .success, format.write colored x.toJson ++ "\n", log, fs⟩ := by
  unfold inspect
  rw [h]

/-- An error of the configuration is told by itself, and one of the source with its path. -/
theorem generate_stopped (h : generationModel fs args = (log, .error e))
    (format : Report.OutputFormat) (colored : Bool) :
    ∃ fields, generate fs args format colored =
      .stopped .badInput (log ++ [.failure e fields]) fs := by
  unfold generationModel at h
  unfold generate
  cases hresolve : resolveConfig fs args with
  | error f =>
    rw [hresolve] at h
    cases h
    refine ⟨[], ?_⟩
    rw [← resolveConfig_error hresolve]
    rfl
  | ok c =>
    rw [hresolve] at h
    refine ⟨[("source", c.source)], ?_⟩
    unfold generateFrom
    dsimp only at h ⊢
    rw [h]

/-- What a generation prints is the report on its files. -/
theorem generateFrom_output (h : readModel fs c = (log, .ok x)) (format : Report.OutputFormat)
    (colored : Bool) :
    (generateFrom fs c format colored).output =
      format.write colored (reportOn fs c x).toJson ++ "\n" := by
  -- writing is taken as any function, so that nothing goes on to compute the rendered texts
  obtain ⟨write, hwrite⟩ : ∃ write, writeSdk fs c = write := ⟨_, rfl⟩
  have hwritten := writeSdk_eq fs c x
  rw [hwrite] at hwritten
  unfold generateFrom
  rw [h, hwrite]
  dsimp only
  rw [hwritten]

theorem generate_model (h : generationModel fs args = (log, .ok x))
    (format : Report.OutputFormat) (colored : Bool) :
    ∃ c, resolveConfig fs args = .ok c ∧ readModel fs c = (log, .ok x) ∧
      writeSdk fs c x = .ok ((generate fs args format colored).files, reportOn fs c x) ∧
      (generate fs args format colored).output =
        format.write colored (reportOn fs c x).toJson ++ "\n" ∧
      (generate fs args format colored).result = .ok (reportOn fs c x).exitCode := by
  unfold generationModel at h
  cases hresolve : resolveConfig fs args with
  | error f =>
    rw [hresolve] at h
    cases h
  | ok c =>
    rw [hresolve] at h
    have hgenerate : generate fs args format colored = generateFrom fs c format colored := by
      unfold generate
      rw [hresolve]
    obtain ⟨hresult, hfiles⟩ := generateFrom_model h format colored
    rw [hgenerate, hfiles]
    exact ⟨c, rfl, h, writeSdk_eq fs c x, generateFrom_output h format colored, hresult⟩

/-- **An inspection and the generation with its source and configuration agree.** Both are refused
with 2 for the same error, or the generation writes from the model that the inspection prints, and
counts what is printed there. -/
theorem inspect_agrees (fs : FileSystem) (source config : Option String)
    (format format' : Report.OutputFormat) (colored colored' : Bool) :
    let inspection := inspect fs source config format colored
    let generation := generate fs (inspectionArgs source config) format' colored'
    (inspection.result ≠ .ok ⟨0⟩ ↔ generation.result = .ok ⟨2⟩) ∧
      (generation.result = .ok ⟨2⟩ → inspection.result = .ok ⟨2⟩ ∧ ∃ log e fields,
        inspection.log = log ++ [.failure e []] ∧ generation.log = log ++ [.failure e fields] ∧
        ∀ event ∈ log, event.level = .info) ∧
      (inspection.result = .ok ⟨0⟩ → ∃ x c report records endpoints diagnostics,
        inspection.output = format.write colored x.toJson ++ "\n" ∧
        resolveConfig fs (inspectionArgs source config) = .ok c ∧
        writeSdk fs c x = .ok (generation.files, report) ∧
        generation.output = format'.write colored' report.toJson ++ "\n" ∧
        x.toJson.get? "records" = some (.array records) ∧
        x.toJson.get? "endpoints" = some (.array endpoints) ∧
        x.toJson.get? "diagnostics" = some (.array diagnostics) ∧
        report.toJson.get? "records" = some (.nat records.length) ∧
        report.toJson.get? "endpoints" = some (.nat endpoints.length) ∧
        report.toJson.get? "diagnostics" = some (.nat diagnostics.length)) := by
  have hsame := inspectModel_eq fs source config
  rcases hmodel : inspectModel fs source config with ⟨log, e | x⟩
  · -- the model cannot be read
    rw [hmodel] at hsame
    obtain ⟨hcode, hlog⟩ := generationModel_error hsame.symm
    obtain ⟨fields, hgenerate⟩ := generate_stopped hsame.symm format' colored'
    have hinspect := inspect_refused hmodel format colored
    rw [hcode] at hinspect
    dsimp only
    rw [hinspect, hgenerate]
    have hfailure : ExitCode.badInput ≠ ⟨0⟩ := by decide
    exact ⟨iff_of_true (fun h => hfailure (Except.ok.inj h)) rfl,
      fun _ => ⟨rfl, log, e, fields, rfl, rfl, hlog⟩, fun h => absurd (Except.ok.inj h) hfailure⟩
  · -- the model is read, and no code of a report is that of bad input
    rw [hmodel] at hsame
    obtain ⟨c, hresolve, -, hwrite, houtput, hresult⟩ :=
      generate_model hsame.symm format' colored'
    have hinspect := inspect_model hmodel format colored
    have hcode := code_reportOn fs c x
    have hnot : (reportOn fs c x).exitCode ≠ ⟨2⟩ := by
      intro hbad
      rw [hbad] at hcode
      revert hcode
      decide
    dsimp only
    rw [hinspect, hresult, houtput]
    refine ⟨iff_of_false (fun h => h rfl) (fun h => hnot (Except.ok.inj h)),
      fun h => absurd (Except.ok.inj h) hnot, fun _ => ?_⟩
    exact ⟨x, c, reportOn fs c x, _, _, _, rfl, hresolve, hwrite, rfl, rfl, rfl, rfl,
      by simp [GenerationReport.toJson, reportOn, Json.Value.get?],
      by simp [GenerationReport.toJson, reportOn, Json.Value.get?],
      by simp [GenerationReport.toJson, reportOn, Json.Value.get?]⟩

end SdkGen.Run
