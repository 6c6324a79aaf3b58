import SdkGen.Proofs.TypeScript.Members

/-!
# The parameters of the client's methods

A method has one parameter for each parameter of its path, as often as it stands there, and last
the data where it takes any. Nothing keeps a path from naming a parameter twice, or from naming one
of them like the data.

* `Parameter`, `methodParameters`, `paramTexts_eq`: the parameters of a method, and their texts.
* `ParametersApart`, `parameterNames_nodup_iff`: for which endpoints they have names of their own.
* `parameters_nodup_iff`: for which configurations those of every method have.
-/

namespace SdkGen.TypeScript

/-- A parameter of a method. -/
structure Parameter where
  name : String
  type : String
  deriving DecidableEq, Repr

/-- The parameter as it is declared. -/
def Parameter.text (p : Parameter) : String := p.name ++ ": " ++ p.type

/-- The parameters of the method of an endpoint, in order. -/
def methodParameters (e : Endpoint) : List Parameter :=
  (pathParams e.path).map (fun name => ⟨name, "string | number"⟩) ++
    if TakesData e then [⟨"data", e.request.text⟩] else []

/-- Their names, in order. -/
def parameterNames (e : Endpoint) : List String := (methodParameters e).map Parameter.name

/-- How the method of an endpoint starts: its name, and its parameters in brackets. -/
def signatureText (e : Endpoint) : String :=
  "  async " ++ methodName e.handler ++ "(" ++
    ", ".intercalate ((methodParameters e).map Parameter.text) ++ "): "

/-- The path of an endpoint names no parameter twice, and none like the data that is taken. -/
def ParametersApart (e : Endpoint) : Prop :=
  (pathParams e.path).Nodup ∧ (TakesData e → "data" ∉ pathParams e.path)

instance (e : Endpoint) : Decidable (ParametersApart e) := inferInstanceAs (Decidable (_ ∧ _))

variable {c : GeneratorConfig} {routes : RouteTable} {file : Go.SourceFile} {source : String}
  {x : Extraction}

/-! ## One method -/

theorem paramTexts_eq (e : Endpoint) : paramTexts e = (methodParameters e).map Parameter.text := by
  have hpath : ∀ name : String, name ++ ": string | number" =
      Parameter.text ⟨name, "string | number"⟩ := by
    intro name
    have hcolon : ": string | number" = ": " ++ "string | number" := rfl
    show _ = name ++ ": " ++ "string | number"
    rw [hcolon, String.append_assoc]
  unfold paramTexts methodParameters
  rw [List.map_append, List.map_map]
  congr 1
  · exact List.map_congr_left fun name _ => hpath name
  · by_cases h : TakesData e
    · rw [if_pos h, if_pos h]
      rfl
    · rw [if_neg h, if_neg h]
      rfl

theorem parameterNames_eq (e : Endpoint) :
    parameterNames e = pathParams e.path ++ if TakesData e then ["data"] else [] := by
  have hnames : Parameter.name ∘ (fun name => ⟨name, "string | number"⟩) = id := rfl
  unfold parameterNames methodParameters
  rw [List.map_append, List.map_map, hnames, List.map_id]
  split <;> rfl

/-- **The parameters of a method have names of their own if and only if the path names none twice,
and none like the data that is taken.** -/
theorem parameterNames_nodup_iff (e : Endpoint) :
    (parameterNames e).Nodup ↔ ParametersApart e := by
  rw [parameterNames_eq, ParametersApart]
  by_cases h : TakesData e
  · have hdata : (["data"] : List String).Nodup := List.nodup_singleton _
    rw [if_pos h, List.nodup_append]
    constructor
    · rintro ⟨hpath, -, happart⟩
      refine ⟨hpath, fun _ hmem => ?_⟩
      exact happart _ hmem _ (List.mem_singleton_self _) rfl
    · rintro ⟨hpath, hclear⟩
      refine ⟨hpath, hdata, fun name hname last hlast heq => ?_⟩
      apply hclear h
      rw [← List.mem_singleton.1 hlast, ← heq]
      exact hname
  · rw [if_neg h, List.append_nil]
    exact (and_iff_left fun htakes => absurd htakes h).symm

/-- A method starts with its signature, and the expression of the path stands behind that. -/
theorem methodText_signature (e : Endpoint) : ∃ between after,
    methodText e = "\n\n" ++ signatureText e ++ between ++ pathExpression e.path ++ after := by
  have hstart : "\n\n  async " = "\n\n" ++ "  async " := rfl
  have hend : "): Promise<" = "): " ++ "Promise<" := rfl
  refine ⟨"Promise<" ++ e.response.text ++ "> \x7b\n    return this.request<" ++ e.response.text ++
    ">(", ", \x7b\n      method: '" ++ e.method.name ++ "'," ++ bodyText e ++ "\n    \x7d);\n  \x7d", ?_⟩
  unfold methodText signatureText
  rw [paramTexts_eq, hstart, hend]
  simp only [String.append_assoc]

/-- The method of an endpoint stands in the file of the client, from its signature on. -/
theorem signature_mem (c : GeneratorConfig) {e : Endpoint} (he : e ∈ x.endpoints) :
    ∃ before after, sdkClientText c x = before ++ signatureText e ++ after := by
  obtain ⟨between, rest, hmethod⟩ := methodText_signature e
  obtain ⟨before, after, htext⟩ := methodText_mem c x he
  refine ⟨before ++ "\n\n", between ++ pathExpression e.path ++ rest ++ after, ?_⟩
  rw [htext, hmethod]
  simp only [String.append_assoc]

/-! ## All methods -/

/-- A configured route of a handler in the file is one of its endpoints. -/
theorem mem_endpointsOf_valid (hvalid : c.validate = .ok c)
    (hroutes : RouteTable.withOverrides c.routes = .ok routes) {r : RouteConfig} {e : Endpoint}
    (hr : r ∈ c.routes) (hendpoint : r.endpoint = .ok e) (hfile : r.handler ∈ file.functions) :
    e ∈ endpointsOf routes file := by
  have hfound := RouteTable.endpoint?_of_valid hvalid hroutes hr hendpoint
  obtain ⟨d, rest, hname⟩ := RouteTable.withOverrides_subject hroutes hfound
  have hstart : (Occurrence.dropPrefix handlerPrefix.toList e.handler.toList).isSome = true := by
    rw [Occurrence.dropPrefix_eq_some.2 hname]
    rfl
  have hhandler : e.handler ∈ handlersOf file := by
    refine List.mem_filter.2 ⟨?_, hstart⟩
    rw [RouteTable.handler_of_endpoint hendpoint]
    exact hfile
  exact List.mem_filterMap.2 ⟨e.handler, hhandler, hfound⟩

/-- **The parameters of every method have names of their own if and only if no configured route of
a handler in the file names a parameter twice, or one like the data that it takes.** The built-in
routes have no parameters. -/
theorem parameters_nodup_iff (hvalid : c.validate = .ok c) (hparse : Go.parse source = .ok file) :
    ∃ routes x text, RouteTable.withOverrides c.routes = .ok routes ∧
      extract routes source = .ok x ∧ generateClient c x = .ok text ∧
      (∀ e ∈ x.endpoints, ∃ before after, text = before ++ signatureText e ++ after) ∧
      (∀ e ∈ x.endpoints, (parameterNames e).Nodup ↔ ParametersApart e) ∧
      ((∀ e ∈ x.endpoints, (parameterNames e).Nodup) ↔ ∀ r ∈ c.routes, ∀ e, r.endpoint = .ok e →
        r.handler ∈ file.functions → ParametersApart e) := by
  obtain ⟨routes, hroutes⟩ := RouteTable.withOverrides_of_valid hvalid
  have hextract := extract_of_parse routes hparse
  refine ⟨routes, _, _, hroutes, hextract, generateClient_text c _,
    fun e he => signature_mem c he, fun e _ => parameterNames_nodup_iff e, ?_⟩
  constructor
  · intro hnodup r hr e hendpoint hfile
    have he := mem_endpointsOf_valid hvalid hroutes hr hendpoint hfile
    exact (parameterNames_nodup_iff e).1 (hnodup e he)
  · intro happart e he
    rw [parameterNames_nodup_iff]
    have hbuiltin : ∀ e ∈ RouteTable.builtinEndpoints, ParametersApart e := by decide
    obtain ⟨r, hr, hendpoint⟩ | hmem :=
      RouteTable.configured_or_builtin hroutes (mem_endpointsOf he)
    · apply happart r hr e hendpoint
      rw [← RouteTable.handler_of_endpoint hendpoint]
      have hhandlers := (handlers_endpointsOf routes file).subset
      exact hhandlers (List.mem_map_of_mem he)
    · exact hbuiltin e hmem

/-- A configuration with one route, which has two parameters and takes data. -/
def noteConfig : GeneratorConfig :=
  { routes := [⟨"handleSetNote", "PUT", "/users/:id/notes/:note", "Note", "void"⟩] }

/-- The endpoint of its route. -/
def noteEndpoint : Endpoint :=
  ⟨.put, "/users/:id/notes/:note", "handleSetNote", .named "Note", .void⟩

/-- The three parameters of its method have names of their own. -/
theorem parameters_note : noteConfig.validate = .ok noteConfig ∧
    ∃ routes x text, RouteTable.withOverrides noteConfig.routes = .ok routes ∧
      extract routes ("package p\n" ++ "func handleSetNote() \x7b\x7d\n") = .ok x ∧
      noteEndpoint ∈ x.endpoints ∧ generateClient noteConfig x = .ok text ∧
      (∃ before after, text = before ++ "  async setNote(id: string | number, " ++
        "note: string | number, data: Note): " ++ after) ∧
      parameterNames noteEndpoint = ["id", "note", "data"] ∧
      ∀ e ∈ x.endpoints, (parameterNames e).Nodup := by
  let file : Go.PlainFile := ⟨⟨"p", by decide⟩, [.function ⟨"handleSetNote", by decide⟩]⟩
  have hparse := parse_plain (f := file)
    (s := "package p\n" ++ "func handleSetNote() \x7b\x7d\n") (by decide) rfl
  have hvalid : noteConfig.validate = .ok noteConfig := rfl
  have hendpoint : ∀ r ∈ noteConfig.routes, r.endpoint = .ok noteEndpoint := by decide
  have happart : ParametersApart noteEndpoint := by decide
  obtain ⟨routes, x, text, hroutes, hextract, htext, hsigned, -, hnodup⟩ :=
    parameters_nodup_iff hvalid hparse
  have hx : x = .ofFile routes file.asRead := by
    have hboth := hextract
    rw [extract_of_parse routes hparse] at hboth
    exact (Except.ok.inj hboth).symm
  have hmem : noteEndpoint ∈ x.endpoints := by
    have hr : (⟨"handleSetNote", "PUT", "/users/:id/notes/:note", "Note", "void"⟩ : RouteConfig) ∈
        noteConfig.routes := List.mem_singleton_self _
    have hfile : "handleSetNote" ∈ file.asRead.functions := by decide
    have hendpoints : ∀ file, (Extraction.ofFile routes file).endpoints = endpointsOf routes file :=
      fun _ => rfl
    rw [hx, hendpoints]
    exact mem_endpointsOf_valid hvalid hroutes hr (hendpoint _ hr) hfile
  refine ⟨hvalid, routes, x, text, hroutes, hextract, hmem, htext, ?_, by decide, ?_⟩
  · obtain ⟨before, after, heq⟩ := hsigned _ hmem
    have hsignature : signatureText noteEndpoint = "  async setNote(id: string | number, " ++
        "note: string | number, data: Note): " := by decide
    exact ⟨before, after, by rw [heq, hsignature]; simp only [String.append_assoc]⟩
  · refine hnodup.2 fun r hr e he _ => ?_
    rw [hendpoint r hr] at he
    cases he
    exact happart

/-- A configuration with a route that names a parameter twice, and with one that names it like the
data. -/
def repeatedConfig : GeneratorConfig :=
  { routes := [⟨"handleX", "GET", "/a/:id/b/:id", "void", "any"⟩,
      ⟨"handleY", "POST", "/:data", "In", "any"⟩] }

/-- The configuration is valid, and yet two methods have two parameters of one name. -/
theorem parameters_repeated : repeatedConfig.validate = .ok repeatedConfig ∧
    ∃ routes x, RouteTable.withOverrides repeatedConfig.routes = .ok routes ∧
      extract routes ("package p\n" ++ "func handleX() \x7b\x7d\n" ++
        "func handleY() \x7b\x7d\n") = .ok x ∧
      x.endpoints.map parameterNames = [["id", "id"], ["data", "data"]] ∧
      ¬ ∀ e ∈ x.endpoints, (parameterNames e).Nodup := by
  let file : Go.PlainFile := ⟨⟨"p", by decide⟩,
    [.function ⟨"handleX", by decide⟩, .function ⟨"handleY", by decide⟩]⟩
  have hparse := parse_plain (f := file) (s := "package p\n" ++ "func handleX() \x7b\x7d\n" ++
    "func handleY() \x7b\x7d\n") (by decide) rfl
  obtain ⟨routes, hroutes⟩ := RouteTable.withOverrides_of_valid (c := repeatedConfig) rfl
  have hendpoints : (RouteTable.withOverrides repeatedConfig.routes).map
      (fun routes => (endpointsOf routes file.asRead).map parameterNames) =
        .ok [["id", "id"], ["data", "data"]] := by decide
  rw [hroutes] at hendpoints
  have hnames : (endpointsOf routes file.asRead).map parameterNames =
      [["id", "id"], ["data", "data"]] := Except.ok.inj hendpoints
  refine ⟨rfl, routes, _, hroutes, extract_of_parse routes hparse, hnames, ?_⟩
  intro hnodup
  have hlists : ∀ names ∈ (endpointsOf routes file.asRead).map parameterNames, names.Nodup := by
    intro names hmem
    obtain ⟨e, he, rfl⟩ := List.mem_map.1 hmem
    exact hnodup e he
  rw [hnames] at hlists
  exact absurd (hlists _ (List.mem_cons_self ..)) (by decide)

end SdkGen.TypeScript
