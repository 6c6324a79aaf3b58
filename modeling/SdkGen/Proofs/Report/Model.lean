import SdkGen.Proofs.Extraction.Plain
import SdkGen.Proofs.Go.Names
import SdkGen.Proofs.Report.Flat
import SdkGen.Report.OutputFormat

/-!
# The model in flat text

Flat text leaves out empty arrays and writes texts and flags alike. Of a model nothing is lost all
the same: every item of an array has a scalar in it, and the last line ends in a name.

* `field_of_entries`, `record_of_entries`, `endpoint_of_entries`, `diagnostic_of_entries`,
  `extraction_of_entries`: what the lines of a part of the model say determines its JSON form.
* `ends_extraction`: the last line is that of a record, or of the package.
* `json_of_text`: the text of a model determines its JSON form.
-/

namespace SdkGen.Report

open Json (Value)

/-! ## Members in order -/

theorem sorted_field (f : Field) : f.toJson.sorted = .object [("name", .string f.name),
    ("required", .bool f.required), ("serialized_name", .string f.serializedName),
    ("type_expr", .string f.type.text)] :=
  rfl

theorem sorted_record (r : Record) : r.toJson.sorted = .object [
    ("fields", .array (r.fields.map fun f => f.toJson.sorted)), ("name", .string r.name)] := by
  rw [← Value.sortedItems_map]
  rfl

theorem sorted_endpoint (e : Endpoint) : e.toJson.sorted = .object [
    ("handler_name", .string e.handler), ("method", .string e.method.name),
    ("path", .string e.path), ("request_type", .string e.request.text),
    ("response_type", .string e.response.text)] :=
  rfl

theorem sorted_extraction (x : Extraction) : x.toJson.sorted = .object [
    ("diagnostics", .array (x.diagnostics.map fun d => d.toJson.sorted)),
    ("endpoints", .array (x.endpoints.map fun e => e.toJson.sorted)),
    ("package", .string x.package),
    ("records", .array (x.records.map fun r => r.toJson.sorted))] := by
  rw [← Value.sortedItems_map, ← Value.sortedItems_map, ← Value.sortedItems_map]
  rfl

/-! ## What the lines of a part say -/

theorem entries_field (f : Field) : entries f.toJson.sorted = [(["name"], f.name),
    (["required"], if f.required then "true" else "false"),
    (["serialized_name"], f.serializedName), (["type_expr"], f.type.text)] := by
  rw [sorted_field]
  rfl

theorem entries_record (r : Record) : entries r.toJson.sorted =
    under "fields" (itemEntries 0 (r.fields.map fun f => f.toJson.sorted)) ++
      under "name" [([], r.name)] := by
  rw [sorted_record]
  rfl

theorem entries_endpoint (e : Endpoint) : entries e.toJson.sorted = [
    (["handler_name"], e.handler), (["method"], e.method.name), (["path"], e.path),
    (["request_type"], e.request.text), (["response_type"], e.response.text)] := by
  rw [sorted_endpoint]
  rfl

theorem entries_extraction (x : Extraction) : entries x.toJson.sorted =
    under "diagnostics" (itemEntries 0 (x.diagnostics.map fun d => d.toJson.sorted)) ++
      under "endpoints" (itemEntries 0 (x.endpoints.map fun e => e.toJson.sorted)) ++
      under "package" [([], x.package)] ++
      under "records" (itemEntries 0 (x.records.map fun r => r.toJson.sorted)) := by
  rw [sorted_extraction]
  simp only [entries, memberEntries, List.append_nil, List.append_assoc]

/-- What the lines of a finding say: its kind first among its texts. -/
theorem entries_diagnostic (d : Diagnostic) : entries d.toJson.sorted = match d with
    | .unresolvedHandler handler => [(["handler"], handler), (["kind"], d.kind)]
    | .missingJsonTag record field =>
      [(["field"], field), (["kind"], d.kind), (["record"], record)]
    | .embeddedFieldSkipped record typeName =>
      [(["kind"], d.kind), (["record"], record), (["type_name"], typeName)]
    | .unknownImport typeName => [(["kind"], d.kind), (["type_name"], typeName)] := by
  cases d <;> rfl

/-! ## Nothing is lost -/

theorem field_of_entries {f g : Field} (h : entries f.toJson.sorted = entries g.toJson.sorted) :
    f.toJson = g.toJson := by
  rw [entries_field, entries_field] at h
  simp only [List.cons.injEq, Prod.mk.injEq, true_and, and_true] at h
  obtain ⟨hname, hrequired, hserialized, htype⟩ := h
  have hflag : f.required = g.required := by
    cases hf : f.required <;> cases hg : g.required <;> simp [hf, hg] at hrequired ⊢
  unfold Field.toJson
  rw [hname, hflag, hserialized, htype]

theorem record_of_entries {r s : Record} (h : entries r.toJson.sorted = entries s.toJson.sorted) :
    r.toJson = s.toJson := by
  rw [entries_record, entries_record] at h
  have hname : r.name = s.name := by
    simpa [part_append, part_under_ne] using congrArg (part "name") h
  have hitems := congrArg (part "fields") h
  simp only [part_append, part_under, part_under_ne, ne_eq, String.reduceEq, not_false_eq_true,
    List.append_nil] at hitems
  have hsolid : ∀ f : Field, entries f.toJson.sorted ≠ [] := by
    intro f hempty
    rw [entries_field] at hempty
    cases hempty
  unfold Record.toJson
  rw [hname, items_of_entries hsolid (fun f g => field_of_entries) hitems]

theorem endpoint_of_entries {e f : Endpoint}
    (h : entries e.toJson.sorted = entries f.toJson.sorted) : e.toJson = f.toJson := by
  rw [entries_endpoint, entries_endpoint] at h
  simp only [List.cons.injEq, Prod.mk.injEq, true_and, and_true] at h
  obtain ⟨hhandler, hmethod, hpath, hrequest, hresponse⟩ := h
  unfold Endpoint.toJson
  rw [hhandler, hmethod, hpath, hrequest, hresponse]

/-- The kind of a finding tells which texts it has. -/
theorem diagnostic_of_entries {d e : Diagnostic}
    (h : entries d.toJson.sorted = entries e.toJson.sorted) : d.toJson = e.toJson := by
  rw [entries_diagnostic, entries_diagnostic] at h
  cases d <;> cases e <;> simp_all [Diagnostic.kind]

theorem extraction_of_entries {x y : Extraction}
    (h : entries x.toJson.sorted = entries y.toJson.sorted) : x.toJson = y.toJson := by
  rw [entries_extraction, entries_extraction] at h
  have hpackage : x.package = y.package := by
    simpa [part_append, part_under_ne] using congrArg (part "package") h
  have hrecords : x.records.map Record.toJson = y.records.map Record.toJson := by
    have hsolid : ∀ r : Record, entries r.toJson.sorted ≠ [] := by
      intro r hempty
      rw [entries_record] at hempty
      exact List.append_ne_nil_of_right_ne_nil _ (by simp [under]) hempty
    refine items_of_entries hsolid (fun r s => record_of_entries) (i := 0) ?_
    simpa [part_append, part_under_ne] using congrArg (part "records") h
  have hendpoints : x.endpoints.map Endpoint.toJson = y.endpoints.map Endpoint.toJson := by
    have hsolid : ∀ e : Endpoint, entries e.toJson.sorted ≠ [] := by
      intro e hempty
      rw [entries_endpoint] at hempty
      cases hempty
    refine items_of_entries hsolid (fun e f => endpoint_of_entries) (i := 0) ?_
    simpa [part_append, part_under_ne] using congrArg (part "endpoints") h
  have hdiagnostics : x.diagnostics.map Diagnostic.toJson = y.diagnostics.map Diagnostic.toJson := by
    have hsolid : ∀ d : Diagnostic, entries d.toJson.sorted ≠ [] := by
      intro d hempty
      rw [entries_diagnostic] at hempty
      cases d <;> cases hempty
    refine items_of_entries hsolid (fun d e => diagnostic_of_entries) (i := 0) ?_
    simpa [part_append, part_under_ne] using congrArg (part "diagnostics") h
  unfold Extraction.toJson
  rw [hpackage, hrecords, hendpoints, hdiagnostics]

/-! ## Keys -/

theorem keys_field (f : Field) : ∀ k ∈ f.toJson.keys, IsSpacelessKey k := by
  change ∀ k ∈ ["name", "type_expr", "serialized_name", "required"], IsSpacelessKey k
  decide

theorem keys_record (r : Record) : ∀ k ∈ r.toJson.keys, IsSpacelessKey k := by
  refine Value.forall_keys_cons.2 ⟨by decide, nofun, ?_⟩
  refine Value.forall_keys_cons.2 ⟨by decide, ?_, nofun⟩
  rw [Value.forall_keys_array, List.forall_mem_map]
  exact fun f _ => keys_field f

theorem keys_endpoint (e : Endpoint) : ∀ k ∈ e.toJson.keys, IsSpacelessKey k := by
  change ∀ k ∈ ["method", "path", "handler_name", "request_type", "response_type"],
    IsSpacelessKey k
  decide

theorem keys_diagnostic (d : Diagnostic) : ∀ k ∈ d.toJson.keys, IsSpacelessKey k := by
  refine Value.forall_keys_cons.2 ⟨by decide, nofun, ?_⟩
  cases d with
  | unresolvedHandler handler => exact Value.forall_keys_cons.2 ⟨by decide, nofun, nofun⟩
  | missingJsonTag record field =>
    refine Value.forall_keys_cons.2 ⟨by decide, nofun, ?_⟩
    exact Value.forall_keys_cons.2 ⟨by decide, nofun, nofun⟩
  | embeddedFieldSkipped record typeName =>
    refine Value.forall_keys_cons.2 ⟨by decide, nofun, ?_⟩
    exact Value.forall_keys_cons.2 ⟨by decide, nofun, nofun⟩
  | unknownImport typeName => exact Value.forall_keys_cons.2 ⟨by decide, nofun, nofun⟩

theorem keys_extraction (x : Extraction) : ∀ k ∈ x.toJson.keys, IsSpacelessKey k := by
  have hrecords : ∀ k ∈ (Value.array (x.records.map Record.toJson)).keys, IsSpacelessKey k := by
    rw [Value.forall_keys_array, List.forall_mem_map]
    exact fun r _ => keys_record r
  have hendpoints :
      ∀ k ∈ (Value.array (x.endpoints.map Endpoint.toJson)).keys, IsSpacelessKey k := by
    rw [Value.forall_keys_array, List.forall_mem_map]
    exact fun e _ => keys_endpoint e
  have hdiagnostics :
      ∀ k ∈ (Value.array (x.diagnostics.map Diagnostic.toJson)).keys, IsSpacelessKey k := by
    rw [Value.forall_keys_array, List.forall_mem_map]
    exact fun d _ => keys_diagnostic d
  refine Value.forall_keys_cons.2 ⟨by decide, nofun, ?_⟩
  refine Value.forall_keys_cons.2 ⟨by decide, hrecords, ?_⟩
  refine Value.forall_keys_cons.2 ⟨by decide, hendpoints, ?_⟩
  exact Value.forall_keys_cons.2 ⟨by decide, hdiagnostics, nofun⟩

/-! ## The text of a model -/

/-- The lines of a model can be told apart, where no string has a line feed in it. -/
theorem plain_extraction {x : Extraction} (htexts : ∀ s ∈ x.toJson.texts, '\n' ∉ s.toList) :
    ∀ e ∈ entries x.toJson.sorted, Plain IsSpacelessKey e := by
  have hindex : ∀ n : Nat, IsSpacelessKey (toString n) := fun n =>
    ⟨isKey_index n, not_mem_index rfl n⟩
  refine plain_entries hindex _ ?_ ?_
  · exact fun k hk => keys_extraction x k (Value.keys_sorted _ k hk)
  · exact fun s hs => htexts s (Value.texts_sorted _ s hs)

/-- The last line of a model is that of a record, or of the package. -/
theorem ends_extraction (routes : RouteTable) {file : Go.SourceFile} (h : file.Named) :
    Ends (entries (Extraction.ofFile routes file).toJson.sorted) := by
  have hword : ∀ {s : String}, Go.IsWord s.toList → Ends [([], s)] := by
    intro s hs
    obtain ⟨before, c, hbefore, hc⟩ := hs.shown
    exact ends_word hbefore hc
  rw [entries_extraction]
  -- records come last in the order of the keys, and the name is the last key of each
  rcases List.eq_nil_or_concat (Extraction.ofFile routes file).records with hnone | ⟨rs, r, hlast⟩
  · rw [hnone]
    change Ends (_ ++ [])
    rw [List.append_nil]
    exact ends_append _ (ends_under "package" (hword h.package))
  · have hname : Go.IsWord r.name.toList := by
      have hmem : r ∈ recordsOf file := by
        change r ∈ (Extraction.ofFile routes file).records
        rw [hlast]
        simp
      obtain ⟨s, hs, rfl⟩ := List.mem_map.1 hmem
      exact h.structs s hs
    have hrecord : Ends (entries r.toJson.sorted) := by
      rw [entries_record]
      exact ends_append _ (ends_under "name" (hword hname))
    rw [hlast, List.concat_eq_append, List.map_append, itemEntries_append]
    refine ends_append _ (ends_under "records" (ends_append _ ?_))
    rw [List.map_singleton, itemEntries, itemEntries, List.append_nil]
    exact ends_under _ hrecord

theorem ends_extract {routes : RouteTable} {source : String} {x : Extraction}
    (h : extract routes source = .ok x) : Ends (entries x.toJson.sorted) := by
  unfold extract at h
  cases hparse : Go.parse source with
  | error e =>
    rw [hparse] at h
    cases h
  | ok file =>
    rw [hparse] at h
    cases h
    exact ends_extraction routes (Go.names_of_parse hparse)

/-- **The text of a model determines its JSON form**, where no string has a line feed in it. -/
theorem json_of_text {routes routes' : RouteTable} {source source' : String} {x y : Extraction}
    (hx : extract routes source = .ok x) (hy : extract routes' source' = .ok y)
    (hxtexts : ∀ s ∈ x.toJson.texts, '\n' ∉ s.toList)
    (hytexts : ∀ s ∈ y.toJson.texts, '\n' ∉ s.toList) (colored colored' : Bool)
    (h : OutputFormat.text.write colored x.toJson = OutputFormat.text.write colored' y.toJson) :
    OutputFormat.json.write colored x.toJson = OutputFormat.json.write colored' y.toJson ∧
      x.toJson = y.toJson := by
  have hentries := entries_of_flatText (plain_extraction hxtexts) (plain_extraction hytexts)
    (ends_extract hx) (ends_extract hy) h
  have hjson := extraction_of_entries hentries
  exact ⟨congrArg Value.pretty hjson, hjson⟩

/-- A file with a struct of one field. -/
def boxFile (type : Go.PlainType) : Go.PlainFile :=
  ⟨⟨"p", by decide⟩, [.type ⟨"Box", by decide⟩ (.struct [.named ⟨"Lid", by decide⟩ [] 0 type none])]⟩

/-- The model of such a file. -/
def boxModel (type : TypeExpr) : Extraction :=
  ⟨"p", [⟨"Box", [⟨"Lid", type, "", true⟩]⟩], [], [.missingJsonTag "Box" "Lid"]⟩

/-- The lines of the model with a type that is written as `any`. -/
def boxLines : List String :=
  ["diagnostics.0.field = Lid", "diagnostics.0.kind = missing_json_tag",
    "diagnostics.0.record = Box", "package = p", "records.0.fields.0.name = Lid",
    "records.0.fields.0.required = true", "records.0.fields.0.serialized_name = ",
    "records.0.fields.0.type_expr = any", "records.0.name = Box"]

set_option maxRecDepth 1000 in
theorem entryLines_box : (entries (boxModel .unsupported).toJson.sorted).flatMap
    (fun e => entryLine e ++ ['\n']) = ['\n'].intercalate (boxLines.map String.toList) ++ ['\n'] := by
  decide

/-- A map and a type of the name `any` are one in the text, and so they are in JSON. -/
theorem json_of_text_box :
    extract .builtin ("package p\n" ++ "type Box struct \x7b\n\tLid map[string]int\n\x7d\n") =
      .ok (boxModel .unsupported) ∧
    extract .builtin ("package p\n" ++ "type Box struct \x7b\n\tLid any\n\x7d\n") =
      .ok (boxModel (.named "any")) ∧
    (∀ s ∈ (boxModel .unsupported).toJson.texts, '\n' ∉ s.toList) ∧
    (∀ s ∈ (boxModel (.named "any")).toJson.texts, '\n' ∉ s.toList) ∧
    OutputFormat.text.write false (boxModel .unsupported).toJson = "\n".intercalate boxLines ∧
    OutputFormat.text.write false (boxModel (.named "any")).toJson = "\n".intercalate boxLines ∧
    OutputFormat.json.write false (boxModel .unsupported).toJson =
      OutputFormat.json.write false (boxModel (.named "any")).toJson := by
  have hmap : Extraction.ofFile .builtin (boxFile .map).asRead = boxModel .unsupported := by decide
  have hany : Extraction.ofFile .builtin (boxFile (.name ⟨"any", by decide⟩)).asRead =
      boxModel (.named "any") := by decide
  have hextract := extract_plain (f := boxFile .map) .builtin (s := "package p\n" ++
    "type Box struct \x7b\n\tLid map[string]int\n\x7d\n") (by decide) rfl
  have hextract' := extract_plain (f := boxFile (.name ⟨"any", by decide⟩)) .builtin
    (s := "package p\n" ++ "type Box struct \x7b\n\tLid any\n\x7d\n") (by decide) rfl
  rw [hmap] at hextract
  rw [hany] at hextract'
  have htexts : ∀ s ∈ (boxModel .unsupported).toJson.texts, '\n' ∉ s.toList := by decide
  have htexts' : ∀ s ∈ (boxModel (.named "any")).toJson.texts, '\n' ∉ s.toList := by decide
  have hsame : (boxModel .unsupported).toJson = (boxModel (.named "any")).toJson := rfl
  have htext : OutputFormat.text.write false (boxModel .unsupported).toJson =
      "\n".intercalate boxLines := by
    have hlines := toList_flatText (plain_extraction htexts) (ends_extract hextract)
    apply String.toList_inj.1
    rw [String.toList_intercalate]
    exact List.append_cancel_right (hlines.trans entryLines_box)
  have htext' : OutputFormat.text.write false (boxModel (.named "any")).toJson =
      "\n".intercalate boxLines := by
    rw [← hsame, htext]
  exact ⟨hextract, hextract', htexts, htexts', htext, htext',
    (json_of_text hextract hextract' htexts htexts' false false (htext.trans htext'.symm)).1⟩

end SdkGen.Report
