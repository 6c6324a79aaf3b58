import SdkGen.Proofs.Extraction.Plain
import SdkGen.Proofs.Fallible
import SdkGen.Proofs.Text.ByteOrder
import SdkGen.Proofs.Text.Keyed
import SdkGen.Proofs.TypeScript.Sdk

/-!
# Types that endpoints refer to

Two passes look at the types that endpoints refer to: the extraction reports those that are no
records, and the client imports the others.

* `RefersTo`: an endpoint refers to a type.
* `mem_imports`, `mem_unknownTypes`: what each pass finds.
* `diagnostics_eq`: what the extraction reports.
* `imports_partition`: the two passes share these types, and what is imported is declared.
-/

namespace SdkGen

open TypeScript (imports generateTypes interfaceText)
open ByteOrder (bytes)

/-- A payload refers to a type: it is that type, or an array of it. -/
def PayloadType.RefersTo (p : PayloadType) (name : String) : Prop :=
  p = .named name ∨ p = .arrayOf name

/-- Some payload of the endpoints refers to a type. -/
def RefersTo (endpoints : List Endpoint) (name : String) : Prop :=
  ∃ e ∈ endpoints, e.request.RefersTo name ∨ e.response.RefersTo name

/-- The names increase strictly in the order of their bytes. -/
def InByteOrder (names : List String) : Prop := names.Pairwise fun a b => bytes a < bytes b

/-- The type that is reported as no record. -/
def Diagnostic.unknownName? : Diagnostic → Option String
  | .unknownImport name => some name
  | _ => none

/-- The types that are reported as no records, as they are reported. -/
def unknownNames (diagnostics : List Diagnostic) : List String :=
  diagnostics.filterMap Diagnostic.unknownName?

variable {routes : RouteTable} {file : Go.SourceFile} {records : List Record}
  {endpoints : List Endpoint} {names : List String} {n source : String} {p : PayloadType}
  {x : Extraction}

/-! ## References -/

theorem importName_iff : p.importName = some n ↔ p.RefersTo n := by
  unfold PayloadType.RefersTo
  cases p <;> simp [PayloadType.importName]

theorem mem_sortedNames : n ∈ sortedNames names ↔ n ∈ names := by
  unfold sortedNames
  rw [Keyed.keys_ofList, List.map_map]
  simp

theorem inByteOrder_sortedNames (names : List String) : InByteOrder (sortedNames names) :=
  (Keyed.ascending_ofList (names.map fun n => (n, ()))).imp ByteOrder.bytes_lt

/-- The names that the passes go through are those that some payload refers to. -/
theorem mem_importNames : n ∈ endpoints.flatMap Endpoint.importNames ↔ RefersTo endpoints n := by
  have hname : ∀ e : Endpoint,
      n ∈ e.importNames ↔ e.request.RefersTo n ∨ e.response.RefersTo n := by
    intro e
    unfold Endpoint.importNames
    rw [List.mem_append, Option.mem_toList, Option.mem_toList, importName_iff, importName_iff]
  unfold RefersTo
  rw [List.mem_flatMap]
  simp only [hname]

theorem isRecordName_iff : isRecordName records n = true ↔ ∃ r ∈ records, r.name = n := by
  simp [isRecordName]

/-! ## The two passes -/

/-- The client puts the references in order and then leaves out what is no record. -/
theorem mem_imports : n ∈ imports endpoints records ↔
    RefersTo endpoints n ∧ isRecordName records n = true := by
  unfold imports TypeScript.referencedTypes
  rw [List.mem_filter, mem_sortedNames, mem_importNames]

theorem inByteOrder_imports (endpoints : List Endpoint) (records : List Record) :
    InByteOrder (imports endpoints records) :=
  (inByteOrder_sortedNames _).filter _

/-- The extraction leaves out the records and then puts the other references in order. -/
theorem mem_unknownTypes : n ∈ unknownTypes records endpoints ↔
    RefersTo endpoints n ∧ ¬ isRecordName records n = true := by
  unfold unknownTypes
  rw [mem_sortedNames, List.mem_filter, mem_importNames, Bool.not_eq_true', Bool.not_eq_true]

theorem inByteOrder_unknownTypes (records : List Record) (endpoints : List Endpoint) :
    InByteOrder (unknownTypes records endpoints) :=
  inByteOrder_sortedNames _

/-! ## Reports -/

theorem unknownName?_field (record : String) (f : Go.FieldSyntax) (d : Diagnostic)
    (h : fieldDiagnostic? record f = some d) : d.unknownName? = none := by
  unfold fieldDiagnostic? at h
  split at h
  · cases h
    rfl
  · split at h
    · cases h
      rfl
    · cases h

/-- No other finding is about a type that is no record. -/
theorem unknownName?_others {d : Diagnostic}
    (h : d ∈ fieldDiagnostics file ++ unresolvedHandlers routes file) : d.unknownName? = none := by
  rcases List.mem_append.1 h with hfield | hhandler
  · obtain ⟨s, -, hd⟩ := List.mem_flatMap.1 hfield
    obtain ⟨f, -, hd⟩ := List.mem_filterMap.1 hd
    exact unknownName?_field _ _ _ hd
  · obtain ⟨name, -, rfl⟩ := List.mem_map.1 hhandler
    rfl

/-- The types that are no records are reported last, and no other finding is about them. -/
theorem diagnostics_eq (hextract : extract routes source = .ok x) :
    ∃ others, x.diagnostics = others ++ (unknownTypes x.records x.endpoints).map .unknownImport ∧
      ∀ d ∈ others, d.unknownName? = none := by
  obtain ⟨file, -, rfl⟩ := map_ok_iff.1 hextract
  exact ⟨_, rfl, fun _ => unknownName?_others⟩

theorem unknownNames_append {others : List Diagnostic} (h : ∀ d ∈ others, d.unknownName? = none)
    (names : List String) : unknownNames (others ++ names.map .unknownImport) = names := by
  have hothers : others.filterMap Diagnostic.unknownName? = [] :=
    List.filterMap_eq_nil_iff.2 h
  unfold unknownNames
  rw [List.filterMap_append, hothers, List.nil_append, List.filterMap_map]
  exact List.filterMap_some

/-! ## Imports and reports -/

/-- An interface stands in the file of the declarations as it is. -/
theorem interface_mem (c : GeneratorConfig) {r : Record} (h : r ∈ records) :
    ∃ before after, TypeScript.declarationsText c records =
      before ++ interfaceText c r ++ after := by
  obtain ⟨front, back, hinterfaces⟩ := TypeScript.join_of_mem (interfaceText c) h
  refine ⟨TypeScript.declarationsHead ++ c.regenerateCommand ++ front, back ++ "\n", ?_⟩
  unfold TypeScript.declarationsText TypeScript.declarationsHead
  rw [hinterfaces]
  simp only [String.append_assoc]

/-- **The types that endpoints refer to are imported or reported, and what is imported is
declared.** Each is in exactly one of the two lists, and both lists increase; reports on types stand
behind all others. -/
theorem imports_partition (c : GeneratorConfig) (hextract : extract routes source = .ok x) :
    (∀ n, RefersTo x.endpoints n ↔
        n ∈ imports x.endpoints x.records ∨ n ∈ unknownNames x.diagnostics) ∧
      (∀ n ∈ imports x.endpoints x.records, n ∉ unknownNames x.diagnostics) ∧
      InByteOrder (imports x.endpoints x.records) ∧ InByteOrder (unknownNames x.diagnostics) ∧
      (∃ others, x.diagnostics = others ++ (unknownNames x.diagnostics).map .unknownImport ∧
        ∀ n, .unknownImport n ∉ others) ∧
      ∃ text, generateTypes c x = .ok text ∧ ∀ n ∈ imports x.endpoints x.records,
        ∃ r ∈ x.records, r.name = n ∧ ∃ before after,
          text = before ++ interfaceText c r ++ after := by
  obtain ⟨others, hdiagnostics, hothers⟩ := diagnostics_eq hextract
  have hunknown : unknownNames x.diagnostics = unknownTypes x.records x.endpoints := by
    rw [hdiagnostics, unknownNames_append hothers]
  rw [hunknown]
  refine ⟨?_, ?_, inByteOrder_imports .., inByteOrder_unknownTypes .., ⟨others, hdiagnostics, ?_⟩,
    _, TypeScript.generateTypes_text c x, ?_⟩
  · intro n
    rw [mem_imports, mem_unknownTypes, ← and_or_left]
    -- a name is that of a record or not
    exact (and_iff_left (Decidable.em _)).symm
  · intro n himport hreport
    exact (mem_unknownTypes.1 hreport).2 (mem_imports.1 himport).2
  · intro n hmem
    cases hothers _ hmem
  · intro n himport
    obtain ⟨r, hr, hname⟩ := isRecordName_iff.1 (mem_imports.1 himport).2
    exact ⟨r, hr, hname, interface_mem c hr⟩

/-- A file with one record and the handler of invitations. -/
def invitationFile : Go.PlainFile :=
  ⟨⟨"main", by decide⟩,
    [.type ⟨"AuthRequest", by decide⟩ (.struct []), .function ⟨"handleAuthInvite", by decide⟩]⟩

/-- Its model: the request of the one endpoint is a record, and the response is none. -/
def invitationModel : Extraction :=
  ⟨"main", [⟨"AuthRequest", []⟩],
    [⟨.post, "/api/auth/invite", "handleAuthInvite", .named "AuthRequest", .named "AuthResponse"⟩],
    [.unknownImport "AuthResponse"]⟩

/-- The one type is imported and declared, and the other one is reported. -/
theorem imports_invitation :
    extract .builtin ("package main\n" ++ "type AuthRequest struct \x7b\n\x7d\n" ++
      "func handleAuthInvite() \x7b\x7d\n") = .ok invitationModel ∧
    imports invitationModel.endpoints invitationModel.records = ["AuthRequest"] ∧
    unknownNames invitationModel.diagnostics = ["AuthResponse"] ∧
    (∀ n, RefersTo invitationModel.endpoints n ↔ n ∈ ["AuthRequest"] ∨ n ∈ ["AuthResponse"]) ∧
    ∃ text, generateTypes {} invitationModel = .ok text ∧ ∃ before after,
      text = before ++ interfaceText {} ⟨"AuthRequest", []⟩ ++ after := by
  have hmodel : Extraction.ofFile .builtin invitationFile.asRead = invitationModel := by decide
  have hextract := extract_plain (f := invitationFile) .builtin (s := "package main\n" ++
    "type AuthRequest struct \x7b\n\x7d\n" ++ "func handleAuthInvite() \x7b\x7d\n") (by decide) rfl
  rw [hmodel] at hextract
  have himports : imports invitationModel.endpoints invitationModel.records = ["AuthRequest"] := by
    decide
  have hunknown : unknownNames invitationModel.diagnostics = ["AuthResponse"] := by decide
  obtain ⟨hrefers, -, -, -, -, text, htext, hdeclared⟩ := imports_partition {} hextract
  rw [himports, hunknown] at hrefers
  rw [himports] at hdeclared
  obtain ⟨r, hr, -, hblock⟩ := hdeclared "AuthRequest" (List.mem_singleton_self _)
  rw [List.mem_singleton.1 hr] at hblock
  exact ⟨hextract, himports, hunknown, hrefers, text, htext, hblock⟩

end SdkGen
