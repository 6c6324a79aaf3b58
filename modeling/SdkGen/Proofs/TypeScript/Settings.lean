import SdkGen.Proofs.Extraction.Plain
import SdkGen.Proofs.TypeScript.Quoted
import SdkGen.Proofs.TypeScript.Sdk

/-!
# Settings in the generated files

Three settings are written into the generated files: the command in the header of both, and in the
client the base URL and the module of the types. Only the base URL is escaped, and validation does
not look at their characters.

* `ReadsAs`: a literal that is read where it stands.
* `secondLine_types`, `secondLine_client`: when the command stays in its comment.
* `readsAs_baseUrl`, `readsAs_typesImport`: when the literals are read back.
* `settings_stay_iff`: all of it, for every configuration.
-/

namespace SdkGen.TypeScript

/-- Behind the start of a text there is a literal that is read as a value, up to the rest. -/
def ReadsAs (text start value rest : String) : Prop :=
  ∃ cs, text.toList = start.toList ++ cs ∧
    readLiteral cs = some (units value.toList, rest.toList)

/-- The comment that names a command. -/
def commandLine (command : String) : String :=
  "// Do not edit manually - regenerate with: " ++ command

variable (c : GeneratorConfig) (x : Extraction)

/-- The names in the import of the client. -/
def importList : String := ", ".intercalate (imports x.endpoints x.records)

/-- What stands before the literal of the base URL. -/
def beforeBaseUrl : String :=
  clientHead ++ c.regenerateCommand ++ importText (importList x) c.typesImport ++
    "\n\nconst API_BASE_URL = "

/-- What stands behind the literal of the base URL. -/
def behindBaseUrl : String :=
  clientClass ++ String.join (x.endpoints.map methodText) ++ clientTail

/-- What stands before the literal of the import. -/
def beforeTypesImport : String :=
  clientHead ++ c.regenerateCommand ++ "\n\nimport type \x7b " ++ importList x ++ " \x7d from "

/-- What stands behind the literal of the import. -/
def behindTypesImport : String :=
  ";\n\nconst API_BASE_URL = " ++ stringLiteral c.baseUrl ++ behindBaseUrl x

theorem sdkClientText_eq : sdkClientText c x = clientHead ++ c.regenerateCommand ++
    importText (importList x) c.typesImport ++ "\n\nconst API_BASE_URL = " ++
      stringLiteral c.baseUrl ++ behindBaseUrl x := by
  unfold sdkClientText clientText behindBaseUrl
  simp only [clientStyle, importList, String.append_assoc]

/-! ## The command -/

/-- A text whose second line starts with the comment has the command in that line if and only if no
line ends in the command. -/
theorem secondLine_command (first : String) (rest : List Char) {command : String}
    {text : List Char}
    (htext : text = first.toList ++ '\n' :: ((commandLine command).toList ++ '\n' :: rest))
    (hfirst : ∀ d ∈ first.toList, ¬ isLineEnd d) :
    secondLine text = (commandLine command).toList ↔ ∀ d ∈ command.toList, ¬ isLineEnd d := by
  have hstart : ∀ d ∈ "// Do not edit manually - regenerate with: ".toList,
      ¬ isLineEnd d := List.any_eq_false.1 (by decide)
  unfold commandLine at htext ⊢
  rw [String.toList_append] at htext ⊢
  generalize "// Do not edit manually - regenerate with: ".toList = start at *
  rw [htext, List.append_assoc]
  exact secondLine_iff hfirst hstart

/-- A text that starts with the end of a line. -/
def StartsWithLineFeed (s : String) : Prop := ∃ rest, s.toList = '\n' :: rest

theorem startsWithLineFeed_append {s t : String} (h : StartsWithLineFeed s) :
    StartsWithLineFeed (s ++ t) := by
  obtain ⟨rest, hrest⟩ := h
  exact ⟨rest ++ t.toList, by rw [String.toList_append, hrest, List.cons_append]⟩

theorem startsWithLineFeed_interfaces (records : List Record) :
    StartsWithLineFeed (String.join (records.map (interfaceText c)) ++ "\n") := by
  cases records with
  | nil => exact ⟨[], by rw [List.map_nil, String.join_nil, String.empty_append]; rfl⟩
  | cons r rs =>
    have hstart : StartsWithLineFeed "\n\nexport interface " :=
      ⟨_, by rw [String.toList_ofList]⟩
    rw [List.map_cons, String.join_cons]
    unfold interfaceText
    simp only [String.append_assoc]
    exact startsWithLineFeed_append hstart

theorem startsWithLineFeed_import (list specifier rest : String) :
    StartsWithLineFeed (importText list specifier ++ ("\n\nconst API_BASE_URL = " ++ rest)) := by
  unfold importText
  split
  · rw [String.empty_append]
    exact startsWithLineFeed_append ⟨_, by rw [String.toList_ofList]⟩
  · simp only [String.append_assoc]
    exact startsWithLineFeed_append ⟨_, by rw [String.toList_ofList]⟩

theorem secondLine_types : secondLine (declarationsText c x.records).toList =
      (commandLine c.regenerateCommand).toList ↔
    ∀ d ∈ c.regenerateCommand.toList, ¬ isLineEnd d := by
  obtain ⟨rest, hrest⟩ := startsWithLineFeed_interfaces c x.records
  have hhead : "// Auto-generated TypeScript types from Go backend\n".toList =
      "// Auto-generated TypeScript types from Go backend".toList ++ ['\n'] := by
    rw [String.toList_ofList, String.toList_ofList]
    rfl
  refine secondLine_command "// Auto-generated TypeScript types from Go backend" rest ?_
    (List.any_eq_false.1 (by decide))
  rw [← hrest]
  unfold declarationsText commandLine
  simp only [String.toList_append, hhead, List.append_assoc, List.cons_append,
    List.nil_append]

theorem secondLine_client : secondLine (sdkClientText c x).toList =
      (commandLine c.regenerateCommand).toList ↔
    ∀ d ∈ c.regenerateCommand.toList, ¬ isLineEnd d := by
  obtain ⟨rest, hrest⟩ := startsWithLineFeed_import (importList x) c.typesImport
    (stringLiteral c.baseUrl ++ behindBaseUrl x)
  have hhead : "// Auto-generated TypeScript API client from Go backend\n".toList =
      "// Auto-generated TypeScript API client from Go backend".toList ++ ['\n'] := by
    rw [String.toList_ofList, String.toList_ofList]
    rfl
  refine secondLine_command "// Auto-generated TypeScript API client from Go backend" rest ?_
    (List.any_eq_false.1 (by decide))
  rw [← hrest]
  rw [sdkClientText_eq]
  unfold clientHead commandLine
  simp only [String.toList_append, hhead, List.append_assoc, List.cons_append, List.nil_append]

/-! ## The literals -/

theorem importList_eq_empty :
    importList x = "" ↔ imports x.endpoints x.records = [] ∨ imports x.endpoints x.records = [""] := by
  unfold importList
  match imports x.endpoints x.records with
  | [] => simp
  | [_] => simp
  | _ :: _ :: _ => simp

/-- What is read behind a start depends on what stands there. -/
theorem readsAs_iff {text start value rest : String} {cs : List Char}
    (htext : text.toList = start.toList ++ cs) :
    ReadsAs text start value rest ↔ readLiteral cs = some (units value.toList, rest.toList) := by
  constructor
  · rintro ⟨ds, hds, hread⟩
    rw [htext] at hds
    rw [List.append_cancel_left hds]
    exact hread
  · intro hread
    exact ⟨cs, htext, hread⟩

/-- **The literal of the base URL is read back if and only if no line feed and no carriage return is
in the URL.** -/
theorem readsAs_baseUrl :
    ReadsAs (sdkClientText c x) (beforeBaseUrl c x) c.baseUrl (behindBaseUrl x) ↔
      ∀ d ∈ c.baseUrl.toList, ¬ leavesOpen d := by
  have htext : (sdkClientText c x).toList = (beforeBaseUrl c x).toList ++
      ((stringLiteral c.baseUrl).toList ++ (behindBaseUrl x).toList) := by
    rw [sdkClientText_eq]
    unfold beforeBaseUrl
    simp only [String.toList_append, List.append_assoc]
  rw [readsAs_iff htext]
  exact readLiteral_escaped_iff _ _

theorem text_typesImport (h : importList x ≠ "") : (sdkClientText c x).toList =
    (beforeTypesImport c x).toList ++
      '\'' :: (c.typesImport.toList ++ '\'' :: (behindTypesImport c x).toList) := by
  have hfrom : " \x7d from '".toList = " \x7d from ".toList ++ ['\''] := by
    rw [String.toList_ofList, String.toList_ofList]
    rfl
  have hclose : "';".toList = '\'' :: [';'] := by
    rw [String.toList_ofList]
  have hnext : ";\n\nconst API_BASE_URL = ".toList =
      ';' :: "\n\nconst API_BASE_URL = ".toList := by
    rw [String.toList_ofList, String.toList_ofList]
  rw [sdkClientText_eq, importText, if_neg h]
  unfold beforeTypesImport behindTypesImport
  simp only [String.toList_append, hfrom, hclose, hnext, List.append_assoc, List.cons_append,
    List.nil_append]

/-- No import is written where only a type without a name is imported. -/
theorem not_readsAs_nameless {value rest : String} (h : importList x = "") :
    ¬ ReadsAs (sdkClientText c x) (beforeTypesImport c x) value rest := by
  rintro ⟨cs, htext, -⟩
  have hconst : "\n\nconst API_BASE_URL = ".toList =
      '\n' :: '\n' :: 'c' :: "onst API_BASE_URL = ".toList := by
    rw [String.toList_ofList, String.toList_ofList]
  have himport : "\n\nimport type \x7b ".toList =
      '\n' :: '\n' :: 'i' :: "mport type \x7b ".toList := by
    rw [String.toList_ofList, String.toList_ofList]
  rw [sdkClientText_eq, importText, if_pos h] at htext
  unfold beforeTypesImport at htext
  simp only [String.toList_append, hconst, himport, List.append_assoc, List.append_cancel_left_eq,
    String.toList_empty, List.nil_append, List.cons_append] at htext
  simp at htext

/-- **The literal of the import is read back if and only if an import is written and nothing in the
module needs an escape.** -/
theorem readsAs_typesImport (himports : imports x.endpoints x.records ≠ []) :
    ReadsAs (sdkClientText c x) (beforeTypesImport c x) c.typesImport (behindTypesImport c x) ↔
      imports x.endpoints x.records ≠ [""] ∧ ∀ d ∈ c.typesImport.toList, ¬ needsEscape d := by
  by_cases hnameless : imports x.endpoints x.records = [""]
  · have hempty : importList x = "" := (importList_eq_empty x).2 (.inr hnameless)
    exact iff_of_false (not_readsAs_nameless c x hempty) fun h => h.1 hnameless
  · have hlist : importList x ≠ "" := by
      rw [ne_eq, importList_eq_empty]
      exact not_or_intro himports hnameless
    rw [readsAs_iff (text_typesImport c x hlist), readLiteral_plain_iff]
    exact (and_iff_right hnameless).symm

/-- **Where settings stay in their place.** Both files are generated. The command is in the comment
on their second lines if and only if no line ends in it. The literal of the base URL has the URL as
its value if and only if the URL has no line feed and no carriage return. The literal of the module
has the module as its value if and only if besides those the module has no quote and no backslash,
and the imported type has a name. -/
theorem settings_stay_iff (himports : imports x.endpoints x.records ≠ []) :
    generate c x = .ok [typesFile c x, clientFile c x] ∧
      ((∀ file ∈ [typesFile c x, clientFile c x],
          secondLine file.content.toList = (commandLine c.regenerateCommand).toList) ↔
        ∀ d ∈ c.regenerateCommand.toList, ¬ isLineEnd d) ∧
      (ReadsAs (clientFile c x).content (beforeBaseUrl c x) c.baseUrl (behindBaseUrl x) ↔
        ∀ d ∈ c.baseUrl.toList, ¬ leavesOpen d) ∧
      (ReadsAs (clientFile c x).content (beforeTypesImport c x) c.typesImport
          (behindTypesImport c x) ↔
        imports x.endpoints x.records ≠ [""] ∧ ∀ d ∈ c.typesImport.toList, ¬ needsEscape d) := by
  refine ⟨generate_texts c x, ?_, readsAs_baseUrl c x, readsAs_typesImport c x himports⟩
  rw [List.forall_mem_cons, List.forall_mem_singleton]
  have htypes : secondLine (typesFile c x).content.toList = _ ↔ _ := secondLine_types c x
  have hclient : secondLine (clientFile c x).content.toList = _ ↔ _ := secondLine_client c x
  rw [htypes, hclient, and_self]

/-- The model of a file with a record and the handler that answers with it. -/
def userModel : Extraction :=
  ⟨"p", [⟨"User", []⟩], [⟨.get, "/api/users", "handleGetUser", .void, .named "User"⟩], []⟩

theorem extract_user : extract .builtin ("package p\n" ++ "type User struct \x7b\n\x7d\n" ++
    "func handleGetUser() \x7b\x7d\n") = .ok userModel := by
  let file : Go.PlainFile := ⟨⟨"p", by decide⟩,
    [.type ⟨"User", by decide⟩ (.struct []), .function ⟨"handleGetUser", by decide⟩]⟩
  have hmodel : Extraction.ofFile .builtin file.asRead = userModel := by decide
  rw [← hmodel]
  exact extract_plain .builtin (by decide) rfl

theorem imports_user : imports userModel.endpoints userModel.records = ["User"] := by decide

/-- The settings that are not given stay in their place. -/
theorem settings_stay_default : ({} : GeneratorConfig).validate = .ok {} ∧
    generate {} userModel = .ok [typesFile {} userModel, clientFile {} userModel] ∧
    (∀ file ∈ [typesFile {} userModel, clientFile {} userModel], secondLine file.content.toList =
      (commandLine "cd backend && tsgen generate").toList) ∧
    ReadsAs (clientFile {} userModel).content (beforeBaseUrl {} userModel) "http://localhost:3001"
      (behindBaseUrl userModel) ∧
    ReadsAs (clientFile {} userModel).content (beforeTypesImport {} userModel) "../types/api"
      (behindTypesImport {} userModel) := by
  obtain ⟨hfiles, hcommand, hurl, hmodule⟩ :=
    settings_stay_iff {} userModel (by decide)
  have hname : imports userModel.endpoints userModel.records ≠ [""] := by decide
  exact ⟨rfl, hfiles, hcommand.2 (List.any_eq_false.1 (by decide)),
    hurl.2 (List.any_eq_false.1 (by decide)), hmodule.2 ⟨hname, List.any_eq_false.1 (by decide)⟩⟩

/-- A configuration whose module has a quote in its name. -/
def quotedConfig : GeneratorConfig := { typesImport := "../types/it's" }

/-- **The literal of the import ends at a quote in the module's name.** The configuration is valid,
and a type is imported. -/
theorem settings_leave_quoted : quotedConfig.validate = .ok quotedConfig ∧
    extract .builtin ("package p\n" ++ "type User struct \x7b\n\x7d\n" ++
      "func handleGetUser() \x7b\x7d\n") = .ok userModel ∧
    imports userModel.endpoints userModel.records = ["User"] ∧
    ReadsAs (sdkClientText quotedConfig userModel) (beforeTypesImport quotedConfig userModel)
      "../types/it" ("s'" ++ behindTypesImport quotedConfig userModel) ∧
    ¬ ReadsAs (sdkClientText quotedConfig userModel) (beforeTypesImport quotedConfig userModel)
      quotedConfig.typesImport (behindTypesImport quotedConfig userModel) := by
  have hlist : importList userModel ≠ "" := by decide
  have hmodule : quotedConfig.typesImport.toList = "../types/it".toList ++ '\'' :: ['s'] := by
    decide
  refine ⟨rfl, extract_user, imports_user, ?_, ?_⟩
  · have hrest : ("s'" ++ behindTypesImport quotedConfig userModel).toList =
        's' :: '\'' :: (behindTypesImport quotedConfig userModel).toList := by
      rw [String.toList_append]
      rfl
    rw [readsAs_iff (text_typesImport _ _ hlist), hmodule, List.append_assoc, hrest]
    exact (readLiteral_plain_iff "../types/it".toList _).2 (List.any_eq_false.1 (by decide))
  · rw [readsAs_typesImport _ _ (by decide), hmodule]
    rintro ⟨-, hplain⟩
    exact hplain '\'' (by decide) (by decide)

end SdkGen.TypeScript
