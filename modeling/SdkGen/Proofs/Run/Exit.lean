import SdkGen.Proofs.Extraction.Endpoints
import SdkGen.Proofs.Fallible
import SdkGen.Proofs.TypeScript.Sdk
import SdkGen.Run.Generate
import SdkGen.Run.Inspect

/-!
# How a run ends

A generation is refused, or it goes on to both files, whatever becomes of the first one.

* `Configures`, `Usable`: the input of a generation is in order.
* `resolveConfig_ok_iff`, `readModel_valid`: the two halves of reading the input.
* `generate_refused`, `generate_usable`: what becomes of either kind of input.
* `generate_exit`: the codes that a generation ends with, and when.
-/

namespace SdkGen.Run

open CommandLine (GenerateArgs)
open TypeScript (GeneratedFile FileStatus typesFile clientFile)

/-! ## Input that is in order -/

/-- The configuration that a run starts from: that of the named file, else that of the working
directory if it has one, else the default. A file has to be read, decoded and valid. -/
inductive Configures (fs : FileSystem) : Option String → GeneratorConfig → Prop
  | named {path document : String} {c : GeneratorConfig} (hread : fs.read path = .ok document)
      (hdecode : GeneratorConfig.read document = .ok c) (hvalid : c.validate = .ok c) :
      Configures fs (some path) c
  | found {document : String} {c : GeneratorConfig} (hfile : fs.isFile configPath = true)
      (hread : fs.read configPath = .ok document)
      (hdecode : GeneratorConfig.read document = .ok c) (hvalid : c.validate = .ok c) :
      Configures fs none c
  | default (hfile : fs.isFile configPath = false) : Configures fs none {}

/-- The configuration is valid with and without the flags, and its source is a source file. -/
structure Usable (fs : FileSystem) (args : GenerateArgs) (c : GeneratorConfig)
    (file : Go.SourceFile) : Prop where
  configured : ∃ base, Configures fs args.config base ∧ c = args.apply base
  valid : c.validate = .ok c
  readable : ∃ source, fs.read c.source = .ok source ∧ Go.parse source = .ok file

variable {fs : FileSystem} {path : String} {given : Option String} {args : GenerateArgs}
  {c : GeneratorConfig} {e : Error} {file : Go.SourceFile} {x : Extraction}

/-! ## The configuration -/

theorem configAt_ok_iff : configAt fs path = .ok c ↔ ∃ document, fs.read path = .ok document ∧
    GeneratorConfig.read document = .ok c ∧ c.validate = .ok c := by
  unfold configAt GeneratorConfig.parse
  simp only [bind_ok_iff, mapError_ok_iff]
  constructor
  · rintro ⟨document, hread, d, hdecode, hvalid⟩
    obtain rfl := (validate_ok_iff.1 hvalid).1
    exact ⟨document, hread, hdecode, hvalid⟩
  · rintro ⟨document, hread, hdecode, hvalid⟩
    exact ⟨document, hread, c, hdecode, hvalid⟩

theorem loadConfig_ok_iff : loadConfig fs given = .ok c ↔ Configures fs given c := by
  unfold loadConfig
  cases given with
  | some path =>
    simp only [configAt_ok_iff]
    constructor
    · rintro ⟨document, hread, hdecode, hvalid⟩
      exact .named hread hdecode hvalid
    · rintro (⟨hread, hdecode, hvalid⟩ | _)
      exact ⟨_, hread, hdecode, hvalid⟩
  | none =>
    cases hfile : fs.isFile configPath with
    | true =>
      simp only [if_true, configAt_ok_iff]
      constructor
      · rintro ⟨document, hread, hdecode, hvalid⟩
        exact .found hfile hread hdecode hvalid
      · rintro (_ | ⟨-, hread, hdecode, hvalid⟩ | ⟨hmissing⟩)
        · exact ⟨_, hread, hdecode, hvalid⟩
        · rw [hfile] at hmissing
          cases hmissing
    | false =>
      simp only [Bool.false_eq_true, if_false]
      constructor
      · rintro ⟨⟩
        exact .default hfile
      · rintro (_ | ⟨hfound⟩ | _)
        · rw [hfile] at hfound
          cases hfound
        · rfl

theorem resolveConfig_ok_iff : resolveConfig fs args = .ok c ↔
    (∃ base, Configures fs args.config base ∧ c = args.apply base) ∧ c.validate = .ok c := by
  unfold resolveConfig checked
  simp only [bind_ok_iff, mapError_ok_iff, loadConfig_ok_iff]
  constructor
  · rintro ⟨base, hbase, hvalid⟩
    obtain rfl := (validate_ok_iff.1 hvalid).1
    exact ⟨⟨base, hbase, rfl⟩, hvalid⟩
  · rintro ⟨⟨base, hbase, rfl⟩, hvalid⟩
    exact ⟨base, hbase, hvalid⟩

/-! ## Errors of the input -/

theorem configAt_error (h : configAt fs path = .error e) : e.exitCode = .badInput := by
  rcases bind_error h with hread | ⟨document, -, hparse⟩
  · obtain ⟨f, -, rfl⟩ := mapError_error hread
    rfl
  · obtain ⟨f, -, rfl⟩ := mapError_error hparse
    rfl

theorem loadConfig_error (h : loadConfig fs given = .error e) : e.exitCode = .badInput := by
  unfold loadConfig at h
  cases given with
  | some path => exact configAt_error h
  | none =>
    dsimp only at h
    split at h
    · exact configAt_error h
    · cases h

/-- The configuration is at fault only as input. -/
theorem resolveConfig_error (h : resolveConfig fs args = .error e) : e.exitCode = .badInput := by
  rcases bind_error h with hload | ⟨base, -, hvalid⟩
  · exact loadConfig_error hload
  · obtain ⟨f, -, rfl⟩ := mapError_error hvalid
    rfl

/-! ## The source -/

/-- With a valid configuration only the source can be at fault. -/
theorem readModel_valid (fs : FileSystem) (hvalid : c.validate = .ok c) :
    (∃ log e, readModel fs c = (log, .error e) ∧
      ¬ ∃ source file, fs.read c.source = .ok source ∧ Go.parse source = .ok file) ∨
    (∃ log routes source file, RouteTable.withOverrides c.routes = .ok routes ∧
      readModel fs c = (log, .ok (.ofFile routes file)) ∧
      fs.read c.source = .ok source ∧ Go.parse source = .ok file) := by
  -- the routes make a table, so they are not at fault
  obtain ⟨routes, hroutes⟩ := RouteTable.withOverrides_of_valid hvalid
  unfold readModel
  rw [hroutes]
  cases hread : fs.read c.source with
  | error f =>
    refine .inl ⟨_, _, rfl, ?_⟩
    rintro ⟨source, file, h, -⟩
    cases h
  | ok source =>
    cases hparse : Go.parse source with
    | error f =>
      have hextract : extract routes source = .error f := by
        unfold extract
        rw [hparse]
        rfl
      refine .inl ⟨[.opened c.source], f.toError, ?_, ?_⟩
      · dsimp only
        rw [hextract]
        rfl
      · rintro ⟨source', file, h, hfile⟩
        cases h
        rw [hparse] at hfile
        cases hfile
    | ok file =>
      refine .inr ⟨[.opened c.source], routes, source, file, rfl, ?_, rfl, hparse⟩
      dsimp only
      rw [extract_of_parse routes hparse]
      rfl

/-! ## Both files -/

/-- A directory is at fault exactly where it could not be made. -/
theorem status_save (t : GeneratedFile) (fs : FileSystem) :
    (t.save fs).2.status = .directoryFailed ↔ (t.makeParent fs).2.isSome = true := by
  unfold GeneratedFile.save
  rcases t.makeParent fs with ⟨fs', _ | e⟩
  · dsimp only
    cases t.writeContents fs' with
    | ok fs'' => simp
    | error e => simp
  · simp

/-- The tree that is left behind: the declarations are attempted, and then the client. -/
def filesAfter (fs : FileSystem) (c : GeneratorConfig) (x : Extraction) : FileSystem :=
  ((clientFile c x).save ((typesFile c x).save fs).1).1

/-- The report on both attempts. -/
def reportOn (fs : FileSystem) (c : GeneratorConfig) (x : Extraction) : GenerationReport :=
  ⟨c.source, x.records.length, x.endpoints.length, x.diagnostics.length,
    [.of (typesFile c x) ((typesFile c x).save fs).2,
      .of (clientFile c x) ((clientFile c x).save ((typesFile c x).save fs).1).2]⟩

/-- Rendering never fails, and the client is attempted whatever becomes of the declarations. -/
theorem writeSdk_eq (fs : FileSystem) (c : GeneratorConfig) (x : Extraction) :
    writeSdk fs c x = .ok (filesAfter fs c x, reportOn fs c x) := by
  unfold writeSdk filesAfter reportOn
  rw [TypeScript.generate_texts]
  simp only [bind, Except.bind, pure, Except.pure, saveAll]

theorem exitCode_reportOn (fs : FileSystem) (c : GeneratorConfig) (x : Extraction) :
    (reportOn fs c x).exitCode = if ((typesFile c x).makeParent fs).2.isSome = true ∨
        ((clientFile c x).makeParent ((typesFile c x).save fs).1).2.isSome = true
      then .outputDirectory else .success := by
  simp only [← status_save]
  simp [GenerationReport.exitCode, GenerationReport.hasDirectoryFailure, reportOn, FileReport.of]

theorem code_reportOn (fs : FileSystem) (c : GeneratorConfig) (x : Extraction) :
    (reportOn fs c x).exitCode.code = 0 ∨ (reportOn fs c x).exitCode.code = 3 := by
  rw [exitCode_reportOn]
  split
  · exact .inr rfl
  · exact .inl rfl

/-! ## Generations -/

/-- A generation whose configuration and source are in order has both files attempted. -/
theorem generateFrom_model {log : List Event} (hmodel : readModel fs c = (log, .ok x))
    (format : Report.OutputFormat) (colored : Bool) :
    (generateFrom fs c format colored).result = .ok (reportOn fs c x).exitCode ∧
      (generateFrom fs c format colored).files = filesAfter fs c x := by
  -- writing is taken as any function, so that nothing goes on to compute the rendered texts
  obtain ⟨write, hwrite⟩ : ∃ write, writeSdk fs c = write := ⟨_, rfl⟩
  have hwritten := writeSdk_eq fs c x
  rw [hwrite] at hwritten
  unfold generateFrom
  rw [hmodel, hwrite]
  dsimp only
  rw [hwritten]
  exact ⟨rfl, rfl⟩

/-- **Input that is not in order ends a generation before anything is written.** -/
theorem generate_refused (hunusable : ¬ ∃ c file, Usable fs args c file)
    (format : Report.OutputFormat) (colored : Bool) :
    (generate fs args format colored).result = .ok .badInput ∧
      (generate fs args format colored).files = fs := by
  unfold generate
  cases hresolve : resolveConfig fs args with
  | error e => exact ⟨congrArg Except.ok (resolveConfig_error hresolve), rfl⟩
  | ok c =>
    obtain ⟨hbase, hvalid⟩ := resolveConfig_ok_iff.1 hresolve
    rcases readModel_valid fs hvalid with ⟨log, e, hmodel, -⟩ | hfile
    · dsimp only
      unfold generateFrom
      rw [hmodel]
      exact ⟨rfl, rfl⟩
    · obtain ⟨log, routes, source, file, -, -, hread, hparse⟩ := hfile
      exact absurd ⟨c, file, hbase, hvalid, source, hread, hparse⟩ hunusable

/-- **Usable input is never refused:** both files are rendered and attempted. -/
theorem generate_usable (husable : Usable fs args c file) (format : Report.OutputFormat)
    (colored : Bool) :
    ∃ routes, RouteTable.withOverrides c.routes = .ok routes ∧
      (generate fs args format colored).result =
        .ok (reportOn fs c (.ofFile routes file)).exitCode ∧
      (generate fs args format colored).files = filesAfter fs c (.ofFile routes file) := by
  obtain ⟨hbase, hvalid, source, hread, hparse⟩ := husable
  have hresolve := resolveConfig_ok_iff.2 ⟨hbase, hvalid⟩
  rcases readModel_valid fs hvalid with ⟨log, e, -, hnone⟩ | hfile
  · exact absurd ⟨source, file, hread, hparse⟩ hnone
  · obtain ⟨log, routes, source', file', hroutes, hmodel, hread', hparse'⟩ := hfile
    -- the source is read and parsed in one way only
    cases hread.symm.trans hread'
    cases hparse.symm.trans hparse'
    refine ⟨routes, hroutes, ?_⟩
    unfold generate
    rw [hresolve]
    exact generateFrom_model hmodel format colored

/-- An inspection writes nothing. -/
theorem inspect_files (fs : FileSystem) (source config : Option String)
    (format : Report.OutputFormat) (colored : Bool) :
    (inspect fs source config format colored).files = fs := by
  unfold inspect
  rcases inspectModel fs source config with ⟨log, e | x⟩
  · rfl
  · rfl

/-- **A generation ends with 0, 2 or 3.** It ends with 2 exactly where the input is not in order,
and then leaves the files as they were. Otherwise both files are rendered and attempted, the
declarations first, and the code is 3 exactly where a directory could not be made. An inspection
leaves the files as they were in any case. -/
theorem generate_exit (fs : FileSystem) (args : GenerateArgs) (format : Report.OutputFormat)
    (colored : Bool) :
    (∃ exit, (generate fs args format colored).result = .ok exit ∧ exit.code ∈ [0, 2, 3]) ∧
      ((generate fs args format colored).result = .ok ⟨2⟩ ↔ ¬ ∃ c file, Usable fs args c file) ∧
      ((generate fs args format colored).result = .ok ⟨2⟩ →
        (generate fs args format colored).files = fs) ∧
      (∀ c file, Usable fs args c file → ∃ routes types client,
        RouteTable.withOverrides c.routes = .ok routes ∧
        TypeScript.generateTypes c (.ofFile routes file) = .ok types ∧
        TypeScript.generateClient c (.ofFile routes file) = .ok client ∧
        let declarations : GeneratedFile := ⟨.types, c.typesOutput, types⟩
        let sdk : GeneratedFile := ⟨.client, c.clientOutput, client⟩
        (generate fs args format colored).files = (sdk.save (declarations.save fs).1).1 ∧
        (generate fs args format colored).result =
          .ok (if (declarations.makeParent fs).2.isSome = true ∨
              (sdk.makeParent (declarations.save fs).1).2.isSome = true then ⟨3⟩ else ⟨0⟩)) ∧
      ∀ source config, (inspect fs source config format colored).files = fs := by
  by_cases husable : ∃ c file, Usable fs args c file
  · obtain ⟨c, file, h⟩ := husable
    obtain ⟨routes, hroutes, hresult, hfiles⟩ := generate_usable h format colored
    -- none of the codes of a report is that of bad input
    have hcode := code_reportOn fs c (.ofFile routes file)
    have hrefused : (generate fs args format colored).result ≠ .ok ⟨2⟩ := by
      intro hbad
      rw [Except.ok.inj (hresult.symm.trans hbad)] at hcode
      revert hcode
      decide
    refine ⟨⟨_, hresult, ?_⟩, iff_of_false hrefused (not_not_intro ⟨c, file, h⟩),
      fun hbad => absurd hbad hrefused, ?_, ?_⟩
    · rcases hcode with hcode | hcode
      · rw [hcode]
        decide
      · rw [hcode]
        decide
    · intro c' file' h'
      obtain ⟨routes', hroutes', hresult', hfiles'⟩ := generate_usable h' format colored
      refine ⟨routes', _, _, hroutes', TypeScript.generateTypes_text _ _,
        TypeScript.generateClient_text _ _,
        hfiles', ?_⟩
      rw [hresult', exitCode_reportOn]
      rfl
    · intro source config
      exact inspect_files fs source config format colored
  · obtain ⟨hresult, hfiles⟩ := generate_refused husable format colored
    refine ⟨⟨_, hresult, by decide⟩, iff_of_true hresult husable, fun _ => hfiles, ?_, ?_⟩
    · intro c file h
      exact absurd ⟨c, file, h⟩ husable
    · intro source config
      exact inspect_files fs source config format colored

end SdkGen.Run
