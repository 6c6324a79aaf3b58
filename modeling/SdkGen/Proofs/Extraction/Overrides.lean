import SdkGen.Proofs.Extraction.Routes

/-!
# Routes put over others

The three parts of a route table are looked up each for itself. They answer like one list of
endpoints, since every route is put into all of them under the same key.

* `Aligned`, `aligned_withOverrides`: the parts of a table have the same keys.
* `Aligned.request_eq`, `Aligned.response_eq`: such a table has types for the handlers with a route
  only.
* `resolved?`: the endpoint of a handler by its last configured route, or else a built-in one.
* `withOverrides_answers`: which configured routes make a table, and what it answers.
-/

namespace SdkGen.RouteTable

variable {r : RouteConfig} {rs : List RouteConfig} {t t' : RouteTable} {h : String}

/-! ## Keys -/

/-- The three parts of a table have the same keys, in the same order. -/
structure Aligned (t : RouteTable) : Prop where
  requests : t.requests.map Prod.fst = t.routes.map Prod.fst
  responses : t.responses.map Prod.fst = t.routes.map Prod.fst

namespace Aligned

theorem insert (ht : t.Aligned) (e : Endpoint) : (t.insert e).Aligned :=
  ⟨Keyed.keys_insert_congr _ _ _ ht.requests, Keyed.keys_insert_congr _ _ _ ht.responses⟩

/-- However many routes are put into a table, its parts have the same keys. -/
theorem insertAll (ht : t.Aligned) (hinsert : t.insertAll rs = .ok t') : t'.Aligned := by
  induction rs generalizing t with
  | nil =>
    cases hinsert
    exact ht
  | cons r rs ih =>
    rw [RouteTable.insertAll_cons] at hinsert
    cases hendpoint : r.endpoint with
    | error f =>
      rw [hendpoint] at hinsert
      cases hinsert
    | ok e =>
      rw [hendpoint] at hinsert
      exact ih (ht.insert e) hinsert

/-- A handler without a route has no types. -/
theorem lookup_types (ht : t.Aligned) (hnone : t.endpoint? h = none) :
    Keyed.lookup h t.requests = none ∧ Keyed.lookup h t.responses = none := by
  have hroute : Keyed.lookup h t.routes = none := Option.map_eq_none_iff.1 hnone
  rw [Keyed.lookup_eq_none_iff] at hroute ⊢
  rw [Keyed.lookup_eq_none_iff, ht.requests, ht.responses]
  exact ⟨hroute, hroute⟩

theorem request_eq (ht : t.Aligned) (h : String) :
    t.request h = ((t.endpoint? h).map Endpoint.request).getD .any := by
  cases hfound : t.endpoint? h with
  | none =>
    unfold request
    rw [(ht.lookup_types hfound).1]
    rfl
  | some e =>
    obtain ⟨route, -, rfl⟩ := Option.map_eq_some_iff.1 hfound
    rfl

theorem response_eq (ht : t.Aligned) (h : String) :
    t.response h = ((t.endpoint? h).map Endpoint.response).getD .any := by
  cases hfound : t.endpoint? h with
  | none =>
    unfold response
    rw [(ht.lookup_types hfound).2]
    rfl
  | some e =>
    obtain ⟨route, -, rfl⟩ := Option.map_eq_some_iff.1 hfound
    rfl

end Aligned

theorem aligned_builtin : builtin.Aligned := ⟨by decide, by decide⟩

/-- **The parts of a configured table have the same keys.** -/
theorem aligned_withOverrides (hroutes : withOverrides rs = .ok t) : t.Aligned :=
  aligned_builtin.insertAll hroutes

/-! ## Entries -/

/-- The endpoint of a handler: that of its last configured route, made of the method, the path and
the types of this one route; and without a configured route the built-in one. -/
def resolved? (rs : List RouteConfig) (h : String) : Option Endpoint :=
  match lastRoute? h rs with
  | some r => (HttpMethod.parse? r.method).map fun m =>
    ⟨m, r.path, h, .parse r.request, .parse r.response⟩
  | none => builtinEndpoints.find? fun e => e.handler = h

theorem mem_lastRoute? (hlast : lastRoute? h rs = some r) : r ∈ rs ∧ r.handler = h :=
  ⟨List.mem_reverse.1 (List.mem_of_find?_eq_some hlast), by simpa using List.find?_some hlast⟩

/-- A valid route has a method, and so its handler has an entry. -/
theorem resolved?_isSome (hvalid : ∀ r ∈ rs, r.fault? = none) (hlast : lastRoute? h rs = some r) :
    (resolved? rs h).isSome = true := by
  obtain ⟨-, m, hmethod⟩ := RouteConfig.fault?_eq_none (hvalid r (mem_lastRoute? hlast).1)
  unfold resolved?
  rw [hlast]
  dsimp only
  rw [hmethod]
  rfl

/-- A configured table answers from the entry of a handler. -/
theorem endpoint?_withOverrides (hroutes : withOverrides rs = .ok t) (h : String) :
    t.endpoint? h = resolved? rs h := by
  rw [endpoint?_insertAll hroutes]
  unfold resolved?
  cases hlast : lastRoute? h rs with
  | none => exact endpoint?_builtin h
  | some r =>
    obtain ⟨hr, rfl⟩ := mem_lastRoute? hlast
    have hfault := (insertAll_ok_iff _ _).1 ⟨t, hroutes⟩ r hr
    obtain ⟨-, m, hmethod⟩ := RouteConfig.fault?_eq_none hfault
    have hendpoint := RouteConfig.endpoint_ok_iff.2 ⟨hfault, m, hmethod, rfl⟩
    dsimp only
    rw [hendpoint, hmethod]
    rfl

/-- A route of another handler does not count. -/
theorem resolved?_beside (before after : List RouteConfig) (hne : r.handler ≠ h) :
    resolved? (before ++ r :: after) h = resolved? (before ++ after) h := by
  have hlast : lastRoute? h (before ++ r :: after) = lastRoute? h (before ++ after) := by
    unfold lastRoute?
    rw [List.reverse_append, List.reverse_append, List.reverse_cons, List.append_assoc,
      List.singleton_append, List.find?_append, List.find?_append, List.find?_cons]
    simp [hne]
  unfold resolved?
  rw [hlast]

/-! ## Configured tables -/

/-- A type is `any` without an entry, or by the entry. -/
theorem getD_any_iff (part : Endpoint → PayloadType) (entry : Option Endpoint) :
    (entry.map part).getD .any = .any ↔ ∀ e ∈ entry, part e = .any := by
  cases entry with
  | none => exact iff_of_true rfl nofun
  | some e => simp

/-- Tables with the same keys in their parts that have one entry for a handler answer alike. -/
theorem Aligned.answers_eq (ht : t.Aligned) (ht' : t'.Aligned)
    (hsame : t.endpoint? h = t'.endpoint? h) :
    t.resolve? h = t'.resolve? h ∧ t.request h = t'.request h ∧ t.response h = t'.response h := by
  have hroute : ∀ u : RouteTable,
      u.resolve? h = (u.endpoint? h).map fun e => ⟨e.method, e.path⟩ := by
    intro u
    unfold endpoint?
    cases u.resolve? h with
    | none => rfl
    | some route => rfl
  refine ⟨?_, ?_, ?_⟩
  · rw [hroute, hroute, hsame]
  · rw [ht.request_eq, ht'.request_eq, hsame]
  · rw [ht.response_eq, ht'.response_eq, hsame]

/-- Without one of its routes a configured table answers the same for all other handlers. -/
theorem answers_beside {before after : List RouteConfig}
    (hroutes : withOverrides (before ++ r :: after) = .ok t) :
    ∃ t', withOverrides (before ++ after) = .ok t' ∧ ∀ h, h ≠ r.handler →
      t.resolve? h = t'.resolve? h ∧ t.request h = t'.request h ∧
        t.response h = t'.response h ∧ t.endpoint? h = t'.endpoint? h := by
  have hall := (insertAll_ok_iff _ _).1 ⟨t, hroutes⟩
  obtain ⟨t', hroutes'⟩ := (insertAll_ok_iff builtin (before ++ after)).2 fun s hs =>
    hall s (List.mem_append.2 ((List.mem_append.1 hs).imp_right (List.mem_cons_of_mem _)))
  refine ⟨t', hroutes', fun h hne => ?_⟩
  -- both tables answer from the same entry
  have hsame : t.endpoint? h = t'.endpoint? h := by
    rw [endpoint?_withOverrides hroutes, endpoint?_withOverrides hroutes',
      resolved?_beside before after hne.symm]
  obtain ⟨hresolve, hrequest, hresponse⟩ :=
    (aligned_withOverrides hroutes).answers_eq (aligned_withOverrides hroutes') hsame
  exact ⟨hresolve, hrequest, hresponse, hsame⟩

/-- **A table is made of configured routes if and only if each of them is valid,** and otherwise the
fault is that of the first one that is not. A table answers for a handler from its last configured
route as a whole, or from the built-in one; a type is `any` where there is no entry or the entry
says so; the three parts have the same keys; and a route leaves the answers for all other handlers
as they are. The routes of a valid configuration make a table. -/
theorem withOverrides_answers (rs : List RouteConfig) :
    ((∃ t, withOverrides rs = .ok t) ↔ ∀ r ∈ rs, r.validate = .ok r) ∧
    (∀ f, withOverrides rs = .error f ↔ ∃ before r after, rs = before ++ r :: after ∧
      (∀ s ∈ before, s.validate = .ok s) ∧ r.validate = .error f) ∧
    (∀ t, withOverrides rs = .ok t →
      (∀ h, t.endpoint? h = resolved? rs h ∧
        ((lastRoute? h rs).isSome = true → (resolved? rs h).isSome = true) ∧
        (t.request h = .any ↔ ∀ e ∈ resolved? rs h, e.request = .any) ∧
        (t.response h = .any ↔ ∀ e ∈ resolved? rs h, e.response = .any)) ∧
      t.Aligned ∧
      ∀ before r after, rs = before ++ r :: after →
        ∃ t', withOverrides (before ++ after) = .ok t' ∧ ∀ h, h ≠ r.handler →
          t.resolve? h = t'.resolve? h ∧ t.request h = t'.request h ∧
            t.response h = t'.response h ∧ t.endpoint? h = t'.endpoint? h) ∧
    ∀ c : GeneratorConfig, c.validate = .ok c → ∃ t, withOverrides c.routes = .ok t := by
  have hvalid : ∀ s : RouteConfig, s.validate = .ok s ↔ s.fault? = none := fun s =>
    RouteConfig.validate_ok_iff.trans (and_iff_right rfl)
  refine ⟨?_, fun f => ?_, fun t hroutes => ⟨fun h => ?_, aligned_withOverrides hroutes, ?_⟩,
    fun c => withOverrides_of_valid⟩
  · simp only [hvalid]
    exact insertAll_ok_iff _ _
  · have hfirst := insertAll_error_iff (f := f) builtin rs
    rw [List.findSome?_eq_some_iff] at hfirst
    simp only [hvalid, RouteConfig.validate_error_iff]
    refine hfirst.trans ?_
    constructor
    · rintro ⟨before, r, after, hrs, hfault, hbefore⟩
      exact ⟨before, r, after, hrs, hbefore, hfault⟩
    · rintro ⟨before, r, after, hrs, hbefore, hfault⟩
      exact ⟨before, r, after, hrs, hfault, hbefore⟩
  · have hentry := endpoint?_withOverrides hroutes h
    have haligned := aligned_withOverrides hroutes
    refine ⟨hentry, fun hsome => ?_, ?_, ?_⟩
    · obtain ⟨r, hlast⟩ := Option.isSome_iff_exists.1 hsome
      exact resolved?_isSome ((insertAll_ok_iff _ _).1 ⟨t, hroutes⟩) hlast
    · rw [haligned.request_eq, hentry]
      exact getD_any_iff _ _
    · rw [haligned.response_eq, hentry]
      exact getD_any_iff _ _
  · rintro before r after rfl
    exact answers_beside hroutes

/-- Two routes for a built-in handler, and one for another handler between them. -/
def replacedRoutes : List RouteConfig :=
  [⟨"handleGetUser", "GET", "/api/users/:id", "void", "User"⟩,
    ⟨"handleNote", "post", "/api/notes", " Note[] ", "any"⟩,
    ⟨"handleGetUser", "put", "/api/me", "User", "void"⟩]

/-- The last of the two counts, as a whole; what is between them stays, and so does what is built in.
Without the first route nothing is different for other handlers. Behind these routes, one with an
unknown method is an error, whatever follows it. -/
theorem answers_replaced :
    (∃ t, withOverrides replacedRoutes = .ok t ∧
      t.endpoint? "handleGetUser" =
        some ⟨.put, "/api/me", "handleGetUser", .named "User", .void⟩ ∧
      t.endpoint? "handleNote" =
        some ⟨.post, "/api/notes", "handleNote", .arrayOf "Note", .any⟩ ∧
      t.endpoint? "handleGetProject" =
        some ⟨.get, "/api/projects", "handleGetProject", .void, .named "Project"⟩ ∧
      t.response "handleNote" = .any ∧ t.request "handleX" = .any ∧
      ∃ t', withOverrides replacedRoutes.tail = .ok t' ∧
        t.endpoint? "handleNote" = t'.endpoint? "handleNote") ∧
    withOverrides (replacedRoutes ++ [⟨"handleX", "TRACE", "/x", "void", "any"⟩,
      ⟨"x", "GET", "/x", "void", "any"⟩]) = .error (.method "handleX" "TRACE") ∧
    ({ routes := replacedRoutes.tail } : GeneratorConfig).validate =
      .ok { routes := replacedRoutes.tail } ∧
    ∃ t, withOverrides replacedRoutes.tail = .ok t := by
  obtain ⟨hmade, -, hanswers, hvalid⟩ := withOverrides_answers replacedRoutes
  obtain ⟨t, hroutes⟩ := hmade.2 (by decide)
  obtain ⟨hentries, -, hbeside⟩ := hanswers t hroutes
  obtain ⟨t', hroutes', hsame⟩ := hbeside [] _ replacedRoutes.tail rfl
  have herror := (withOverrides_answers (replacedRoutes ++
    [⟨"handleX", "TRACE", "/x", "void", "any"⟩, ⟨"x", "GET", "/x", "void", "any"⟩])).2.1
  have hconfig : ({ routes := replacedRoutes.tail } : GeneratorConfig).validate =
    .ok { routes := replacedRoutes.tail } := rfl
  refine ⟨⟨t, hroutes, ?_, ?_, ?_, ?_, ?_, t', hroutes', ?_⟩, ?_, hconfig, hvalid _ hconfig⟩
  · exact (hentries "handleGetUser").1.trans (by decide)
  · exact (hentries "handleNote").1.trans (by decide)
  · exact (hentries "handleGetProject").1.trans (by decide)
  · exact (hentries "handleNote").2.2.2.2 (by decide)
  · exact (hentries "handleX").2.2.1.2 (by decide)
  · exact (hsame "handleNote" (by decide)).2.2.2
  · exact (herror _).2 ⟨replacedRoutes, _, _, rfl, by decide, by decide⟩

end SdkGen.RouteTable
