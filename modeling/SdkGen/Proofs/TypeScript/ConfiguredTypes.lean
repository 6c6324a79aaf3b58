import SdkGen.Proofs.Model.PayloadText
import SdkGen.Proofs.TypeScript.Parameters

/-!
# Configured types in the client

The types of a configured route are written in the client as they are configured, but for the blanks
around them.

* `methodHead`: the method of an endpoint up to its path, for two given types.
* `methodText_head`: the types in a method are the texts of the payloads.
* `head_of_route`: the method of a configured route has the types that are configured.
* `types_as_configured`: what a configured type is read as, what it refers to, and how it is written.
-/

namespace SdkGen.TypeScript

open PayloadType (Configures Unbracketed ReadAs)

/-- The method of an endpoint up to its path, with a type for the data and a type for the answer. Only
some verbs take data, and `void` stands for none. -/
def methodHead (e : Endpoint) (request response : String) : String :=
  "  async " ++ methodName e.handler ++ "(" ++
    ", ".intercalate ((pathParams e.path).map (fun name => name ++ ": string | number") ++
      if e.method ∈ [.post, .put, .patch] ∧ request ≠ "void" then ["data: " ++ request] else []) ++
    "): Promise<" ++ response ++ "> \x7b\n    return this.request<" ++ response ++ ">("

variable {c : GeneratorConfig} {routes : RouteTable} {file : Go.SourceFile} {e : Endpoint}
  {r : RouteConfig} {t : String}

/-- A method has the texts of its payloads for types, if no other type than `void` is written so. -/
theorem methodText_head (hrequest : ReadAs t e.request) : ∃ after,
    methodText e = "\n\n" ++ methodHead e e.request.text e.response.text ++ after := by
  have hstart : "\n\n  async " = "\n\n" ++ "  async " := rfl
  have htakes : TakesData e ↔ e.method ∈ [.post, .put, .patch] ∧ e.request.text ≠ "void" :=
    and_congr_right fun _ => not_congr hrequest.eq_void_iff
  have hparams : paramTexts e = (pathParams e.path).map (fun name => name ++ ": string | number") ++
      if e.method ∈ [.post, .put, .patch] ∧ e.request.text ≠ "void" then
        ["data: " ++ e.request.text] else [] := by
    unfold paramTexts
    rw [if_congr htakes rfl rfl]
  refine ⟨pathExpression e.path ++ ", \x7b\n      method: '" ++ e.method.name ++ "'," ++ bodyText e ++
    "\n    \x7d);\n  \x7d", ?_⟩
  unfold methodText methodHead
  rw [hparams, hstart]
  simp only [String.append_assoc]

/-- **The method of a configured route has the types that are configured.** -/
theorem head_of_route (hvalid : c.validate = .ok c)
    (hroutes : RouteTable.withOverrides c.routes = .ok routes) (hr : r ∈ c.routes)
    (hfile : r.handler ∈ file.functions) :
    ∃ e ∈ endpointsOf routes file, r.endpoint = .ok e ∧
      ∃ request response, Configures r.request request ∧ Configures r.response response ∧
        ∃ before after, sdkClientText c (.ofFile routes file) =
          before ++ methodHead e request response ++ after := by
  have hfault : r.fault? = none :=
    (RouteTable.insertAll_ok_iff _ _).1 ⟨routes, hroutes⟩ r hr
  obtain ⟨e, hendpoint⟩ := RouteConfig.exists_endpoint hfault
  have he := mem_endpointsOf_valid hvalid hroutes hr hendpoint hfile
  obtain ⟨before, after, htext⟩ := methodText_mem c (.ofFile routes file) he
  -- the payloads of the endpoint are what the types of the route are read as
  obtain ⟨hrequest, hresponse⟩ : e.request = .parse r.request ∧ e.response = .parse r.response := by
    obtain ⟨-, m, -, rfl⟩ := RouteConfig.endpoint_ok_iff.1 hendpoint
    constructor <;> dsimp only
  have hread : ReadAs (Blank.trim r.request) e.request := by
    rw [hrequest]
    exact PayloadType.readAs_parse _
  obtain ⟨rest, hmethod⟩ := methodText_head hread
  refine ⟨e, he, hendpoint, e.request.text, e.response.text,
    PayloadType.text_parse_eq_iff.1 (by rw [hrequest]),
    PayloadType.text_parse_eq_iff.1 (by rw [hresponse]), before ++ "\n\n", rest ++ after, ?_⟩
  rw [htext, hmethod]
  simp only [String.append_assoc]

/-- **The type in the client is the type that is configured.** The text of a payload is the configured
text without the blanks around it, or `any` where nothing is left, and it is read as the payload
again; the payload refers to nothing if and only if its text is one of the two words, and otherwise
to its text without the brackets at its end; and the method of each configured route of a handler in
the file has these two types. -/
theorem types_as_configured :
    (∀ s type, (PayloadType.parse s).text = type ↔ Configures s type) ∧
    (∀ s, PayloadType.parse (PayloadType.parse s).text = PayloadType.parse s) ∧
    (∀ p, (∃ s, PayloadType.parse s = p) →
      (p.importName = none ↔ p.text = "void" ∨ p.text = "any") ∧
      ∀ n, p.importName = some n ↔
        (p.text ≠ "void" ∧ p.text ≠ "any") ∧ Unbracketed p.text n) ∧
    ∀ (c : GeneratorConfig) (source : String) (file : Go.SourceFile), c.validate = .ok c →
      Go.parse source = .ok file → ∃ routes x text,
        RouteTable.withOverrides c.routes = .ok routes ∧ extract routes source = .ok x ∧
        generateClient c x = .ok text ∧
        ∀ r ∈ c.routes, r.handler ∈ file.functions → ∃ e ∈ x.endpoints, r.endpoint = .ok e ∧
          ∃ request response, Configures r.request request ∧ Configures r.response response ∧
            ∃ before after, text = before ++ methodHead e request response ++ after := by
  refine ⟨fun s type => PayloadType.text_parse_eq_iff, PayloadType.parse_text_parse, ?_, ?_⟩
  · rintro p ⟨s, rfl⟩
    have hread := PayloadType.readAs_parse s
    exact ⟨hread.importName_eq_none_iff, fun n => hread.importName_eq_some_iff⟩
  · intro c source file hvalid hparse
    obtain ⟨routes, hroutes⟩ := RouteTable.withOverrides_of_valid hvalid
    exact ⟨routes, _, _, hroutes, extract_of_parse routes hparse, generateClient_text c _,
      fun r hr hfile => head_of_route hvalid hroutes hr hfile⟩

/-- A configuration with one route, whose types have blanks around them and in them. -/
def paddedConfig : GeneratorConfig :=
  { routes := [⟨"handleSetNote", "PUT", "/notes/:id", "\u3000Note []\n", "\t void[] "⟩] }

/-- The endpoint of its route. -/
def paddedEndpoint : Endpoint :=
  ⟨.put, "/notes/:id", "handleSetNote", .arrayOf "Note ", .arrayOf "void"⟩

/-- The blanks around the types go, and those before brackets stay; an array of `void` is neither word,
so that there is an answer. -/
theorem types_as_configured_padded : paddedConfig.validate = .ok paddedConfig ∧
    PayloadType.parse "Note []" = PayloadType.parse "\u3000Note []\n" ∧
    (PayloadType.parse "\u3000Note []\n").importName = some "Note " ∧
    (PayloadType.parse "\t void[] ").importName ≠ none ∧
    ∃ routes x text, RouteTable.withOverrides paddedConfig.routes = .ok routes ∧
      extract routes ("package p\n" ++ "func handleSetNote() \x7b\x7d\n") = .ok x ∧
      generateClient paddedConfig x = .ok text ∧ ∃ before after, text = before ++
        "  async setNote(id: string | number, data: Note []): Promise<void[]> \x7b\n" ++
        "    return this.request<void[]>(" ++ after := by
  obtain ⟨htext, hagain, hrefers, hclient⟩ := types_as_configured
  have hrequest : (PayloadType.parse "\u3000Note []\n").text = "Note []" := by decide
  have hresponse : (PayloadType.parse "\t void[] ").text = "void[]" := by decide
  let file : Go.PlainFile := ⟨⟨"p", by decide⟩, [.function ⟨"handleSetNote", by decide⟩]⟩
  have hparse := parse_plain (f := file)
    (s := "package p\n" ++ "func handleSetNote() \x7b\x7d\n") (by decide) rfl
  have hvalid : paddedConfig.validate = .ok paddedConfig := rfl
  refine ⟨hvalid, ?_, ?_, ?_, ?_⟩
  · rw [← hrequest]
    exact hagain _
  · rw [(hrefers _ ⟨_, rfl⟩).2, hrequest]
    exact ⟨by decide, .inl (by decide)⟩
  · rw [ne_eq, (hrefers _ ⟨_, rfl⟩).1, hresponse]
    decide
  · obtain ⟨routes, x, text, hroutes, hextract, hgenerated, hheads⟩ :=
      hclient paddedConfig _ file.asRead hvalid hparse
    obtain ⟨e, -, hendpoint, request, response, hread, hread', before, after, heq⟩ :=
      hheads _ (List.mem_singleton_self _) (by decide)
    obtain rfl : "Note []" = request := hrequest.symm.trans ((htext _ _).2 hread)
    obtain rfl : "void[]" = response := hresponse.symm.trans ((htext _ _).2 hread')
    obtain rfl : e = paddedEndpoint := Except.ok.inj (hendpoint.symm.trans (by decide))
    have hhead : methodHead paddedEndpoint "Note []" "void[]" =
        "  async setNote(id: string | number, data: Note []): Promise<void[]> \x7b\n" ++
          "    return this.request<void[]>(" := by decide
    refine ⟨routes, x, text, hroutes, hextract, hgenerated, before, after, ?_⟩
    rw [heq, hhead]
    simp only [String.append_assoc]

end SdkGen.TypeScript
