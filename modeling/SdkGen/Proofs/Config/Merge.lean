import Mathlib
import SdkGen.Proofs.Files.FileSystem
import SdkGen.Proofs.Run.Exit
import SdkGen.Proofs.Text.Keyed

/-!
# Flags over the file over the defaults

Each setting of a generation is that of the command line, else that of the configuration file, else
the default. The settings of the file have to be valid by themselves, whatever the flags put over
them.

* `Toml.Entries.setting`: what a table says of a key.
* `GeneratorConfig.merged`: the settings of a table under those of the command line.
* `ofEntries_merged`: a table that is a configuration gives each key its value or its default.
* `resolveConfig_merged_iff`: when the settings of a generation are used, and which they are.
* `fault_not_mended`: a fault of the file that no flag mends.
-/

namespace SdkGen

open CommandLine (GenerateArgs)
open Toml (Entries Fault Span Value)

/-- What a table says of a key, read in one way. Where it says nothing of that kind, the default
stands; where it says two things, the later one counts. -/
def Toml.Entries.setting {α : Type} (es : Entries) (read : Value → Except Fault α) (key : String)
    (default : α) : α :=
  ((Keyed.lookup key es.reverse).bind fun (_, v) => (read v).toOption).getD default

/-- The settings of a generation: flags over the table of a file over the defaults. -/
def GeneratorConfig.merged (args : GenerateArgs) (es : Entries) : GeneratorConfig where
  source := args.source.getD (es.setting (Value.toText "path string") "source" "main.go")
  typesOutput := args.typesOut.getD
    (es.setting (Value.toText "path string") "types_output" "../web/src/types/api.ts")
  clientOutput := args.clientOut.getD
    (es.setting (Value.toText "path string") "client_output" "../web/src/utils/apiClient.ts")
  baseUrl := args.baseUrl.getD
    (es.setting (Value.toText "a string") "base_url" "http://localhost:3001")
  regenerateCommand :=
    es.setting (Value.toText "a string") "regenerate_command" "cd backend && tsgen generate"
  typesImport := es.setting (Value.toText "a string") "types_import" "../types/api"
  fallbackToFieldName := es.setting Value.toBoolean "fallback_to_field_name" false
  routes := es.setting (fun v => v.toItems >>= List.mapM RouteConfig.ofToml) "routes" []
  types := es.setting GeneratorConfig.typesOf "types" []

namespace GeneratorConfig

variable {es : Entries} {c d : GeneratorConfig} {args : GenerateArgs}

theorem setting_concat {α : Type} (es : Entries) (k : String) (span : Span) (v : Value)
    (read : Value → Except Fault α) (key : String) (default : α) :
    Entries.setting (es ++ [(k, span, v)]) read key default =
      if k = key then (read v).toOption.getD default else es.setting read key default := by
  unfold Entries.setting
  rw [List.reverse_append, List.reverse_singleton, List.singleton_append, Keyed.lookup_cons]
  by_cases hk : k = key
  · simp [hk]
  · simp [hk]

/-- A key changes its own setting and no other one. -/
theorem set_merged {e : String × Span × Value} (h : (merged {} es).set e = .ok d) :
    d = merged {} (es ++ [e]) := by
  obtain ⟨key, span, v⟩ := e
  unfold set at h
  dsimp only at h
  split at h
  case h_8 =>
    obtain ⟨items, hitems, h⟩ := bind_ok_iff.1 h
    obtain ⟨routes, hroutes, hd⟩ := bind_ok_iff.1 h
    have hread : (v.toItems >>= List.mapM RouteConfig.ofToml) = .ok routes :=
      bind_ok_iff.2 ⟨items, hitems, hroutes⟩
    cases hd
    simp [merged, setting_concat, hread, Except.toOption]
  case h_10 => cases h
  all_goals
    obtain ⟨setting, hread, hd⟩ := bind_ok_iff.1 h
    cases hd
    simp [merged, setting_concat, hread, Except.toOption]

/-- **A table that is a configuration gives each key its value there, or else its default.** -/
theorem ofEntries_merged (h : ofEntries es = .ok c) : c = merged {} es := by
  unfold ofEntries at h
  -- entry by entry from the first, so that the last one of a key counts
  induction es using List.reverseRecOn generalizing c with
  | nil =>
    cases h
    rfl
  | append_singleton es e ih =>
    rw [List.foldlM_append, bind_ok_iff] at h
    obtain ⟨before, hbefore, hlast⟩ := h
    obtain rfl := ih hbefore
    rw [List.foldlM_cons, bind_ok_iff] at hlast
    obtain ⟨after, hset, hd⟩ := hlast
    cases hd
    exact set_merged hset

/-- Flags put over the settings of a table are put over its defaults as well. -/
theorem apply_merged (args : GenerateArgs) (es : Entries) :
    args.apply (merged {} es) = merged args es := rfl

end GeneratorConfig

namespace Run

open GeneratorConfig (merged)

variable {fs : FileSystem} {args : GenerateArgs} {path document : String} {es : Entries}
  {base c : GeneratorConfig}

theorem read_ok (hparse : Toml.Document.parse document = .ok es)
    (hfits : GeneratorConfig.ofEntries es = .ok c) : GeneratorConfig.read document = .ok c := by
  unfold GeneratorConfig.read
  rw [hparse, bind_ok_iff]
  exact ⟨es, rfl, mapError_ok_iff.2 hfits⟩

/-- A configuration file that can be read is the one that counts, whether it is named or found. -/
theorem loadConfig_read {given : Option String}
    (hread : fs.read (given.getD configPath) = .ok document) :
    loadConfig fs given = (GeneratorConfig.parse document).mapError ConfigFault.toError := by
  have hconfig : configAt fs (given.getD configPath) =
      (GeneratorConfig.parse document).mapError ConfigFault.toError := by
    unfold configAt
    rw [hread]
    rfl
  unfold loadConfig
  cases given with
  | some path => exact hconfig
  | none =>
    dsimp only
    have hfile : fs.isFile configPath = true := FileSystem.isFile_of_read hread
    rw [if_pos hfile]
    exact hconfig

/-- The settings are checked twice: those of the file by themselves, and then those that the flags
leave. -/
theorem resolveConfig_merged (hread : fs.read (args.config.getD configPath) = .ok document)
    (hparse : Toml.Document.parse document = .ok es)
    (hfits : GeneratorConfig.ofEntries es = .ok base) :
    resolveConfig fs args = ((merged {} es).validate >>= fun _ =>
      (merged args es).validate).mapError ConfigFault.toError := by
  obtain rfl := GeneratorConfig.ofEntries_merged hfits
  unfold resolveConfig
  rw [loadConfig_read hread]
  unfold GeneratorConfig.parse
  rw [read_ok hparse hfits]
  simp only [bind, Except.bind]
  cases hfile : (merged {} es).validate with
  | error f => rfl
  | ok c =>
    obtain rfl := (validate_ok_iff.1 hfile).1
    exact congrArg checked (GeneratorConfig.apply_merged args es)

/-- **The settings of a generation are those of the flags over those of the file over the
defaults.** They are used exactly where they are valid and the settings of the file, over the
defaults, are valid without the flags as well. -/
theorem resolveConfig_merged_iff
    (hread : fs.read (args.config.getD configPath) = .ok document)
    (hparse : Toml.Document.parse document = .ok es)
    (hfits : GeneratorConfig.ofEntries es = .ok base) :
    resolveConfig fs args = .ok c ↔ (merged {} es).validate = .ok (merged {} es) ∧
      (merged args es).validate = .ok (merged args es) ∧ c = merged args es := by
  rw [resolveConfig_merged hread hparse hfits, mapError_ok_iff, bind_ok_iff]
  constructor
  · rintro ⟨d, hfile, hvalid⟩
    obtain rfl := (validate_ok_iff.1 hfile).1
    obtain rfl := (validate_ok_iff.1 hvalid).1
    exact ⟨hfile, hvalid, rfl⟩
  · rintro ⟨hfile, hvalid, rfl⟩
    exact ⟨_, hfile, hvalid⟩

/-- A directory with a configuration file and nothing else. -/
def configDirectory (document : String) : FileSystem :=
  ⟨.directory [("tsgen.toml", .file document.toUTF8)], []⟩

/-- A flag for the base URL and nothing else. -/
def urlFlag : GenerateArgs := { baseUrl := some "http://flag:2" }

/-- A document that gives the source and the base URL. -/
def twoSettings : String := "source = \"server.go\"\nbase_url = \"http://file:1\"\n"

/-- A flag stands over the file, and the file over the default. -/
theorem resolveConfig_flag : ∃ es base,
    (configDirectory twoSettings).read (urlFlag.config.getD configPath) = .ok twoSettings ∧
    Toml.Document.parse twoSettings = .ok es ∧ GeneratorConfig.ofEntries es = .ok base ∧
    base = { source := "server.go", baseUrl := "http://file:1" } ∧
    resolveConfig (configDirectory twoSettings) urlFlag =
      .ok { source := "server.go", baseUrl := "http://flag:2" } := by
  let es : Entries := [("base_url", ⟨21, 29⟩, .scalar (.string "http://file:1") ⟨32, 47⟩),
    ("source", ⟨0, 6⟩, .scalar (.string "server.go") ⟨9, 20⟩)]
  have hread : (configDirectory twoSettings).read (urlFlag.config.getD configPath) =
      .ok twoSettings := rfl
  have hparse : Toml.Document.parse twoSettings = .ok es := by cbv
  have hfits : GeneratorConfig.ofEntries es =
      .ok { source := "server.go", baseUrl := "http://file:1" } := rfl
  have hresolve : resolveConfig (configDirectory twoSettings) urlFlag = .ok (merged urlFlag es) :=
    (@resolveConfig_merged_iff _ urlFlag _ es _ _ hread hparse hfits).2
      ⟨by decide, by decide, rfl⟩
  exact ⟨es, _, hread, hparse, hfits, rfl, hresolve⟩

/-- A document that leaves the base URL empty. -/
def emptyUrl : String := "base_url = \"\"\n"

/-- **A flag does not mend the file.** The flag gives the base URL that the file leaves empty, so
that the merged settings are valid, and the file is refused all the same. -/
theorem fault_not_mended : ∃ es base,
    (configDirectory emptyUrl).read (urlFlag.config.getD configPath) = .ok emptyUrl ∧
    Toml.Document.parse emptyUrl = .ok es ∧ GeneratorConfig.ofEntries es = .ok base ∧
    (merged urlFlag es).validate = .ok (merged urlFlag es) ∧
    resolveConfig (configDirectory emptyUrl) urlFlag =
      .error (.config "'base_url' cannot be empty") := by
  let es : Entries := [("base_url", ⟨0, 8⟩, .scalar (.string "") ⟨11, 13⟩)]
  have hread : (configDirectory emptyUrl).read (urlFlag.config.getD configPath) =
      .ok emptyUrl := rfl
  have hparse : Toml.Document.parse emptyUrl = .ok es := by cbv
  have hfits : GeneratorConfig.ofEntries es = .ok { baseUrl := "" } := rfl
  have hresolve := @resolveConfig_merged _ urlFlag _ es _ hread hparse hfits
  exact ⟨es, _, hread, hparse, hfits, by decide, hresolve⟩

end Run

end SdkGen
