import Mathlib.Data.List.Nodup
import SdkGen.Proofs.Extraction.Plain
import SdkGen.Proofs.Text.Lowercase
import SdkGen.Proofs.TypeScript.Sdk

/-!
# The members of the client's class

The class has three members of its own and one method for each endpoint. Methods are named after
handlers, and the names may meet: two handlers that differ in the case of one letter have one
method, and a handler may have the method that is the helper or the constructor.

* `Member`, `classMembers`, `generateClient_members`: the class is made of its members.
* `methodName_eq_iff`, `mem_fixedNames_iff`: which names meet.
* `isWord_methodName`: which names are identifiers.
* `members_nodup_iff`: for which handlers the members of the class have names of their own.
-/

namespace SdkGen.TypeScript

open Go (isWordStart IsWord)

/-! ## The class -/

/-- A member of a class. -/
structure Member where
  /-- What stands before its name. -/
  opening : String
  name : String
  /-- What stands behind its name. -/
  rest : String

/-- The text of a member. -/
def Member.text (m : Member) : String := m.opening ++ m.name ++ m.rest

/-- The helper of the methods, behind its name. -/
def requestRest : String :=
  "<T>(\n" ++
  "    endpoint: string,\n" ++
  "    options: RequestInit = \x7b\x7d\n" ++
  "  ): Promise<T> \x7b\n" ++
  "    const url = this.baseURL + endpoint;\n" ++
  "    const response = await fetch(url, \x7b\n" ++
  "      ...options,\n" ++
  "      headers: \x7b\n" ++
  "        'Content-Type': 'application/json',\n" ++
  "        ...options.headers,\n" ++
  "      \x7d,\n" ++
  "    \x7d);\n" ++
  "\n" ++
  "    if (!response.ok) \x7b\n" ++
  "      const error = await response.json().catch(() => (\x7b error: 'Unknown error' \x7d));\n" ++
  "      throw new Error(error.error || 'HTTP ' + response.status);\n" ++
  "    \x7d\n" ++
  "\n" ++
  "    return response.json();\n" ++
  "  \x7d"

/-- The members of every class: the base URL, the constructor and the helper of the methods. -/
def fixedMembers : List Member :=
  [⟨"  private ", "baseURL", ": string;\n" ++ "\n"⟩,
    ⟨"  ", "constructor", "(baseURL: string = API_BASE_URL) \x7b\n" ++
      "    this.baseURL = baseURL;\n" ++ "  \x7d\n" ++ "\n"⟩,
    ⟨"  private async ", "request", requestRest⟩]

/-- The method of an endpoint. -/
def methodMember (e : Endpoint) : Member :=
  ⟨"\n\n  async ", methodName e.handler, "(" ++ ", ".intercalate (paramTexts e) ++
    "): Promise<" ++ e.response.text ++ "> \x7b\n    return this.request<" ++ e.response.text ++
    ">(" ++ pathExpression e.path ++ ", \x7b\n      method: '" ++ e.method.name ++ "'," ++
    bodyText e ++ "\n    \x7d);\n  \x7d"⟩

/-- The members of the class, in order. -/
def classMembers (endpoints : List Endpoint) : List Member :=
  fixedMembers ++ endpoints.map methodMember

/-- The names of the members of the class, in order. -/
def memberNames (endpoints : List Endpoint) : List String :=
  (classMembers endpoints).map Member.name

/-- The text in front of the class. -/
def beforeClass (c : GeneratorConfig) (x : Extraction) : String :=
  clientHead ++ c.regenerateCommand ++
    importText (", ".intercalate (imports x.endpoints x.records)) c.typesImport ++
    "\n\nconst API_BASE_URL = " ++ stringLiteral c.baseUrl ++ ";\n\n"

theorem text_methodMember (e : Endpoint) : (methodMember e).text = methodText e := by
  unfold methodMember Member.text methodText
  simp only [String.append_assoc]

theorem clientClass_eq : clientClass =
    ";\n\n" ++ "class APIClient \x7b\n" ++ String.join (fixedMembers.map Member.text) := by
  -- lines are cut where a name starts and where it ends
  have h1 : ";\n\n" = ";\n" ++ "\n" := by decide
  have h2 : "  private baseURL: string;\n" = "  private " ++ ("baseURL" ++ ": string;\n") := by
    decide
  have h3 : "  constructor(baseURL: string = API_BASE_URL) \x7b\n" =
      "  " ++ ("constructor" ++ "(baseURL: string = API_BASE_URL) \x7b\n") := by decide
  have h4 : "  private async request<T>(\n" = "  private async " ++ ("request" ++ "<T>(\n") := by
    decide
  unfold clientClass fixedMembers requestRest
  simp only [h1, h2, h3, h4, List.map_cons, List.map_nil, String.join_cons, String.join_nil,
    Member.text, String.append_assoc, String.append_empty]

/-- **The client is its class, member by member,** between what stands in front of it and behind. -/
theorem generateClient_members (c : GeneratorConfig) (x : Extraction) :
    generateClient c x = .ok (beforeClass c x ++ "class APIClient \x7b\n" ++
      String.join ((classMembers x.endpoints).map Member.text) ++ clientTail) := by
  rw [generateClient_text]
  have hmethods : x.endpoints.map (Member.text ∘ methodMember) = x.endpoints.map methodText :=
    congrArg (x.endpoints.map ·) (funext text_methodMember)
  unfold sdkClientText clientText beforeClass classMembers clientStyle
  rw [clientClass_eq, List.map_append, String.join_append, List.map_map, hmethods]
  simp only [String.append_assoc]

/-! ## Names of methods -/

variable {h k : String} {d e : Char} {r s : List Char}

/-- The handler is named by its start, a character and the rest. -/
def Named (h : String) (d : Char) (r : List Char) : Prop :=
  h.toList = handlerPrefix.toList ++ d :: r

instance : Decidable (Named h d r) := inferInstanceAs (Decidable (_ = _))

theorem methodName_named (hh : Named h d r) :
    (methodName h).toList = Lowercase.ofChar d ++ r := by
  have hdrop := Occurrence.dropPrefix_eq_some.2 hh
  unfold methodName
  rw [hdrop]
  exact String.toList_ofList

/-- The handlers agree but for the case of the character behind their start. One character has two
as its lowercase form, of which the second one may stand in the name of the other handler. -/
inductive SameButCase : String → String → Prop
  | letter {h k : String} {d e : Char} {r : List Char} (hh : Named h d r) (hk : Named k e r)
      (hcase : Lowercase.ofChar d = Lowercase.ofChar e) : SameButCase h k
  | dotted {h k : String} {e : Char} {r : List Char} (hh : Named h '\u0130' r)
      (hk : Named k e ('\u0307' :: r)) (hcase : Lowercase.ofChar e = ['i']) : SameButCase h k
  | undotted {h k : String} {d : Char} {r : List Char} (hh : Named h d ('\u0307' :: r))
      (hk : Named k '\u0130' r) (hcase : Lowercase.ofChar d = ['i']) : SameButCase h k

/-- **Two handlers have one method if and only if they agree but for the case of one character.** -/
theorem methodName_eq_iff (hh : Named h d r) (hk : Named k e s) :
    methodName h = methodName k ↔ SameButCase h k := by
  have hdotted : Lowercase.ofChar '\u0130' = ['i', '\u0307'] := by decide
  have hlists : methodName h = methodName k ↔
      Lowercase.ofChar d ++ r = Lowercase.ofChar e ++ s := by
    rw [← methodName_named hh, ← methodName_named hk, String.toList_inj]
  rw [hlists]
  constructor
  · intro heq
    -- one character has a lowercase form of two; where it leads one name only, the second of the
    -- two is the next character of the other name
    by_cases hd : d = '\u0130'
    · by_cases he : e = '\u0130'
      · subst hd he
        have hrest := List.append_cancel_left heq
        subst hrest
        exact .letter hh hk rfl
      · obtain ⟨b, hb⟩ := Lowercase.ofChar_single he
        rw [hd, hdotted, hb] at heq
        obtain ⟨rfl, rfl⟩ := List.cons.inj heq
        exact .dotted (hd ▸ hh) hk hb
    · obtain ⟨b, hb⟩ := Lowercase.ofChar_single hd
      by_cases he : e = '\u0130'
      · rw [he, hdotted, hb] at heq
        obtain ⟨rfl, rfl⟩ := List.cons.inj heq
        exact .undotted hh (he ▸ hk) hb
      · obtain ⟨b', hb'⟩ := Lowercase.ofChar_single he
        rw [hb, hb'] at heq
        obtain ⟨rfl, rfl⟩ := List.cons.inj heq
        exact .letter hh hk (hb.trans hb'.symm)
  · intro hsame
    rw [← methodName_named hh, ← methodName_named hk]
    cases hsame with
    | letter hh hk hcase => rw [methodName_named hh, methodName_named hk, hcase]
    | dotted hh hk hcase =>
      rw [methodName_named hh, methodName_named hk, hcase, hdotted]
      rfl
    | undotted hh hk hcase =>
      rw [methodName_named hh, methodName_named hk, hcase, hdotted]
      rfl

/-- A name that starts with one of most ASCII letters is that of two handlers' methods. -/
theorem methodName_eq_ascii_iff (hh : Named h d r) {name lower upper : String} {b : Char}
    {w : List Char} (hname : name.toList = b :: w) (hlower : Named lower b w)
    (hupper : Named upper b.toUpper w) (hb : b.toNat < 128) (hk : b ≠ 'k') (hi : b ≠ 'i')
    (hform : Lowercase.ofChar b = [b]) (hform' : Lowercase.ofChar b.toUpper = [b]) :
    methodName h = name ↔ h = lower ∨ h = upper := by
  have hnamed : ∀ {k : String} {c : Char}, Named k c w → Lowercase.ofChar c = [b] →
      methodName k = name := by
    intro k c hk hc
    rw [← String.toList_inj, methodName_named hk, hname, hc]
    rfl
  constructor
  · intro heq
    rw [← String.toList_inj, methodName_named hh, hname] at heq
    obtain ⟨b', s, hd⟩ := List.exists_cons_of_ne_nil (Lowercase.ofChar_ne_nil d)
    rw [hd, List.cons_append] at heq
    obtain ⟨rfl, rfl⟩ := List.cons.inj heq
    obtain ⟨rfl, hcase⟩ := Lowercase.ofChar_ascii hd hb hk hi
    rw [← String.toList_inj, ← String.toList_inj, hlower, hupper, hh]
    exact hcase.imp (fun hd => by rw [hd, List.nil_append]) fun hd => by rw [hd, List.nil_append]
  · rintro (rfl | rfl)
    · exact hnamed hlower hform
    · exact hnamed hupper hform'

/-- The names of the members that every class has. -/
def fixedNames : List String := fixedMembers.map Member.name

/-- The handlers whose methods have such a name. -/
def claimedHandlers : List String :=
  ["handlebaseURL", "handleBaseURL", "handleconstructor", "handleConstructor", "handlerequest",
    "handleRequest"]

/-- **Three pairs of handlers meet the members that every class has.** -/
theorem mem_fixedNames_iff (hh : Named h d r) :
    methodName h ∈ fixedNames ↔ h ∈ claimedHandlers := by
  have hbase : methodName h = "baseURL" ↔ h = "handlebaseURL" ∨ h = "handleBaseURL" :=
    methodName_eq_ascii_iff hh (b := 'b') (w := "aseURL".toList) (by decide) (by decide)
      (by decide) (by decide) (by decide) (by decide) (by decide) (by decide)
  have hconstructor : methodName h = "constructor" ↔
      h = "handleconstructor" ∨ h = "handleConstructor" :=
    methodName_eq_ascii_iff hh (b := 'c') (w := "onstructor".toList) (by decide) (by decide)
      (by decide) (by decide) (by decide) (by decide) (by decide) (by decide)
  have hrequest : methodName h = "request" ↔ h = "handlerequest" ∨ h = "handleRequest" :=
    methodName_eq_ascii_iff hh (b := 'r') (w := "equest".toList) (by decide) (by decide)
      (by decide) (by decide) (by decide) (by decide) (by decide) (by decide)
  have hnames : fixedNames = ["baseURL", "constructor", "request"] := rfl
  unfold claimedHandlers
  simp only [hnames, List.mem_cons, List.not_mem_nil, or_false, hbase, hconstructor, hrequest,
    or_assoc]

/-! ## Identifiers -/

/-- **The method of a handler is an identifier if and only if a letter or an underscore follows the
start of the handler.** -/
theorem isWord_methodName (hh : Named h d r) (hword : IsWord h.toList) :
    IsWord (methodName h).toList ↔ isWordStart d = true := by
  have htail : ∀ c ∈ d :: r, Identifier.isContinue c = true := by
    intro c hc
    refine hword.tail c ?_
    rw [hh]
    exact List.mem_append_right _ hc
  obtain ⟨b, s, hform, hstart, hs⟩ :=
    Lowercase.wordStart_ofChar (htail d (List.mem_cons_self ..))
  have hname : (methodName h).toList = b :: (s ++ r) := by
    rw [methodName_named hh, hform, List.cons_append]
  rw [hname, ← hstart]
  constructor
  · intro hmethod
    exact hmethod.start
  · intro hb
    refine ⟨hb, ?_⟩
    intro c hc
    rcases List.mem_append.1 hc with hc | hc
    · exact hs c hc
    · exact htail c (List.mem_cons_of_mem _ hc)

/-! ## Names that meet -/

variable {c : GeneratorConfig} {routes : RouteTable} {file : Go.SourceFile} {source : String}
  {endpoints : List Endpoint}

/-- With handlers that are all different, names meet only where two methods have one name, or a
method has that of a member of every class. -/
theorem memberNames_nodup_iff (hnodup : (endpoints.map Endpoint.handler).Nodup) :
    (memberNames endpoints).Nodup ↔ (∀ e ∈ endpoints, methodName e.handler ∉ fixedNames) ∧
      ∀ e ∈ endpoints, ∀ f ∈ endpoints, methodName e.handler = methodName f.handler →
        e.handler = f.handler := by
  have hnames : memberNames endpoints =
      fixedNames ++ (endpoints.map Endpoint.handler).map methodName := by
    unfold memberNames classMembers fixedNames
    rw [List.map_append, List.map_map, List.map_map]
    rfl
  have hfixed : fixedNames.Nodup := by decide
  rw [hnames, List.nodup_append, List.nodup_map_iff_inj_on hnodup]
  simp only [List.forall_mem_map]
  constructor
  · rintro ⟨-, hmethods, happart⟩
    exact ⟨fun e he hmem => happart _ hmem e he rfl, hmethods⟩
  · rintro ⟨happart, hmethods⟩
    exact ⟨hfixed, hmethods, fun name hname e he heq => happart e he (heq ▸ hname)⟩

/-- **The members of the class have names of their own if and only if no handler meets a member of
every class, and no two handlers agree but for the case of one character.** No method goes without a
name, and a method's name is an identifier, where the handler's is, if and only if a letter or an
underscore follows the start of the handler. -/
theorem members_nodup_iff (hvalid : c.validate = .ok c) (hparse : Go.parse source = .ok file)
    (hnodup : file.functions.Nodup) :
    ∃ routes x, RouteTable.withOverrides c.routes = .ok routes ∧ extract routes source = .ok x ∧
      generateClient c x = .ok (beforeClass c x ++ "class APIClient \x7b\n" ++
        String.join ((classMembers x.endpoints).map Member.text) ++ clientTail) ∧
      ((memberNames x.endpoints).Nodup ↔ (∀ e ∈ x.endpoints, e.handler ∉ claimedHandlers) ∧
        ∀ e ∈ x.endpoints, ∀ f ∈ x.endpoints, SameButCase e.handler f.handler →
          e.handler = f.handler) ∧
      ∀ e ∈ x.endpoints, ∃ d r, Named e.handler d r ∧ methodName e.handler ≠ "" ∧
        (IsWord e.handler.toList →
          (IsWord (methodName e.handler).toList ↔ isWordStart d = true)) := by
  obtain ⟨routes, hroutes⟩ := RouteTable.withOverrides_of_valid hvalid
  have hextract := extract_of_parse routes hparse
  have hnamed : ∀ e ∈ endpointsOf routes file, ∃ d r, Named e.handler d r := fun e he =>
    RouteTable.withOverrides_subject hroutes (mem_endpointsOf he)
  refine ⟨routes, _, hroutes, hextract, generateClient_members c _, ?_, ?_⟩
  · change (memberNames (endpointsOf routes file)).Nodup ↔ _
    rw [memberNames_nodup_iff (hnodup.sublist (handlers_endpointsOf routes file))]
    refine and_congr ?_ ?_
    · refine forall₂_congr fun e he => not_congr ?_
      obtain ⟨d, r, hh⟩ := hnamed e he
      exact mem_fixedNames_iff hh
    · refine forall₄_congr fun e he f hf => imp_congr ?_ Iff.rfl
      obtain ⟨d, r, hh⟩ := hnamed e he
      obtain ⟨d', r', hk⟩ := hnamed f hf
      exact methodName_eq_iff hh hk
  · intro e he
    obtain ⟨d, r, hh⟩ := hnamed e he
    refine ⟨d, r, hh, ?_, isWord_methodName hh⟩
    rw [← String.toList_inj.ne, methodName_named hh]
    simp [Lowercase.ofChar_ne_nil]

/-- The handler of users has a method of its own. -/
theorem members_user : ∃ routes x, RouteTable.withOverrides [] = .ok routes ∧
    extract routes ("package main\n" ++ "func handleGetUser() \x7b\x7d\n") = .ok x ∧
    memberNames x.endpoints = ["baseURL", "constructor", "request", "getUser"] ∧
    (memberNames x.endpoints).Nodup ∧ IsWord (methodName "handleGetUser").toList := by
  let file : Go.PlainFile := ⟨⟨"main", by decide⟩, [.function ⟨"handleGetUser", by decide⟩]⟩
  have htext : ("package main\n" ++ "func handleGetUser() \x7b\x7d\n").toList = file.written := by
    decide
  obtain ⟨routes, x, hroutes, hextract, -, hnodup, hnames⟩ :=
    members_nodup_iff (c := {}) rfl (parse_plain htext rfl) (by decide)
  have hbuiltin : routes = .builtin := (Except.ok.inj hroutes).symm
  have hendpoints : (Extraction.ofFile .builtin file.asRead).endpoints =
      [⟨.get, "/api/users", "handleGetUser", .void, .named "User"⟩] := by decide
  have hx : x.endpoints =
      [⟨.get, "/api/users", "handleGetUser", .void, .named "User"⟩] := by
    have hboth := hextract
    rw [hbuiltin, extract_plain .builtin htext rfl] at hboth
    rw [← Except.ok.inj hboth, hendpoints]
  rw [hx] at hnodup hnames
  refine ⟨routes, x, hroutes, hextract, ?_, ?_, ?_⟩
  · rw [hx]
    decide
  · rw [hx]
    refine hnodup.2 ⟨by decide, ?_⟩
    intro e he f hf _
    rw [List.mem_singleton.1 he, List.mem_singleton.1 hf]
  · obtain ⟨d, r, hh, -, hword⟩ := hnames _ (List.mem_singleton_self _)
    have hstart : Named "handleGetUser" 'G' "etUser".toList := by decide
    obtain ⟨rfl, -⟩ := List.cons.inj (List.append_cancel_left (hh.symm.trans hstart))
    exact (hword (by decide)).2 (by decide)

/-- A configuration with routes for a handler that meets the helper of the methods, and for one with
a digit behind its start. -/
def meetingConfig : GeneratorConfig :=
  { routes := [⟨"handleRequest", "GET", "/r", "void", "any"⟩,
      ⟨"handle2fa", "GET", "/f", "void", "any"⟩] }

/-- The configuration is valid, and yet two members of the class have one name, and another one has
a name that is no identifier. -/
theorem members_request : meetingConfig.validate = .ok meetingConfig ∧
    ∃ routes file, RouteTable.withOverrides meetingConfig.routes = .ok routes ∧
      Go.parse ("package p\n" ++ "func handleRequest() \x7b\x7d\n" ++
        "func handle2fa() \x7b\x7d\n") = .ok file ∧ file.functions.Nodup ∧
      memberNames (endpointsOf routes file) =
        ["baseURL", "constructor", "request", "request", "2fa"] ∧
      ¬ (memberNames (endpointsOf routes file)).Nodup ∧ ¬ IsWord "2fa".toList := by
  let file : Go.PlainFile := ⟨⟨"p", by decide⟩,
    [.function ⟨"handleRequest", by decide⟩, .function ⟨"handle2fa", by decide⟩]⟩
  have hparse := parse_plain (f := file) (s := "package p\n" ++ "func handleRequest() \x7b\x7d\n" ++
    "func handle2fa() \x7b\x7d\n") (by decide) rfl
  obtain ⟨routes, hroutes⟩ := RouteTable.withOverrides_of_valid (c := meetingConfig) rfl
  have hendpoints : (RouteTable.withOverrides meetingConfig.routes).map
      (fun routes => memberNames (endpointsOf routes file.asRead)) =
        .ok ["baseURL", "constructor", "request", "request", "2fa"] := by decide
  rw [hroutes] at hendpoints
  have hnames : memberNames (endpointsOf routes file.asRead) =
      ["baseURL", "constructor", "request", "request", "2fa"] := Except.ok.inj hendpoints
  refine ⟨rfl, routes, file.asRead, hroutes, hparse, by decide, hnames, ?_, by decide⟩
  rw [hnames]
  decide

end SdkGen.TypeScript
