import Mathlib.Data.List.Nodup
import SdkGen.Extraction.RouteTable
import SdkGen.Proofs.Text.Keyed
import SdkGen.Proofs.Text.Occurrence

/-!
# Route tables of valid configurations

* `validate_ok_iff`, `RouteConfig.validate_ok_iff`: which configurations and routes are valid.
* `RouteConfig.endpoint_ok_iff`, `RouteConfig.endpoint_error_iff`: a valid route has an endpoint, and
  the fault of another one is that of its check.
* `insertAll_ok_iff`, `withOverrides_of_valid`: valid routes make a table, and so do the routes of a
  valid configuration.
* `endpoint?_insert`, `endpoint?_builtin`: what a table answers.
* `lastRoute?`, `endpoint?_insertAll`: it answers from the last configured route of the handler, and
  without one from the table that the routes were put over.
* `withOverrides_subject`: every handler of such a table has a name of its own.
-/

namespace SdkGen

variable {r : RouteConfig} {rs : List RouteConfig} {t routes : RouteTable} {e : Endpoint}
  {h : String} {c : GeneratorConfig} {f : ConfigFault}

/-! ## Valid routes -/

namespace RouteConfig

/-- A valid route is one without a fault, and is taken as it is. -/
theorem validate_ok_iff {s : RouteConfig} : r.validate = .ok s ↔ s = r ∧ r.fault? = none := by
  unfold validate
  cases r.fault? with
  | none => simp [eq_comm]
  | some f => simp

theorem validate_error_iff : r.validate = .error f ↔ r.fault? = some f := by
  unfold validate
  cases r.fault? with
  | none => simp
  | some g => simp

/-- What the check of a route asks for. -/
theorem fault?_eq_none (hfault : r.fault? = none) : (handlerSubject? r.handler).isSome = true ∧
    ∃ m, HttpMethod.parse? r.method = some m := by
  unfold fault? at hfault
  split at hfault
  · cases hfault
  next hsubject =>
    split at hfault
    · cases hfault
    next hmethod =>
      refine ⟨by simpa [Option.isSome_iff_ne_none] using hsubject, ?_⟩
      exact Option.ne_none_iff_exists'.1 fun hnone => hmethod (by rw [hnone]; rfl)

/-- **A valid route has an endpoint,** made of its own handler, method, path and types. -/
theorem endpoint_ok_iff : r.endpoint = .ok e ↔ r.fault? = none ∧ ∃ m,
    HttpMethod.parse? r.method = some m ∧
      e = ⟨m, r.path, r.handler, .parse r.request, .parse r.response⟩ := by
  unfold endpoint validate
  cases r.fault? with
  | some f => simp
  | none =>
    dsimp only
    cases HttpMethod.parse? r.method with
    | none => simp
    | some m => simp [eq_comm]

/-- **The fault of a route without an endpoint is that of its check.** A method that was checked is
read once more without a fault. -/
theorem endpoint_error_iff : r.endpoint = .error f ↔ r.fault? = some f := by
  unfold endpoint validate
  cases hfault : r.fault? with
  | some g => simp
  | none =>
    obtain ⟨-, m, hmethod⟩ := fault?_eq_none hfault
    dsimp only
    rw [hmethod]
    simp

theorem exists_endpoint (hfault : r.fault? = none) : ∃ e, r.endpoint = .ok e := by
  obtain ⟨-, m, hmethod⟩ := fault?_eq_none hfault
  exact ⟨_, endpoint_ok_iff.2 ⟨hfault, m, hmethod, rfl⟩⟩

end RouteConfig

/-! ## Valid configurations -/

/-- A valid configuration is one without a fault, and is taken as it is. -/
theorem validate_ok_iff {d : GeneratorConfig} :
    c.validate = .ok d ↔ d = c ∧ c.fault? = none := by
  unfold GeneratorConfig.validate
  cases c.fault? with
  | none => simp [eq_comm]
  | some f => simp

/-- The check of the routes comes last, and a valid configuration passes it. -/
theorem routesFault_of_valid (hvalid : c.validate = .ok c) :
    GeneratorConfig.routesFault [] c.routes = none := by
  obtain ⟨-, hfault⟩ := validate_ok_iff.1 hvalid
  unfold GeneratorConfig.fault? at hfault
  -- each check before the last one would have been the fault
  repeat' split at hfault
  all_goals first | cases hfault | exact hfault

/-- Each of the routes passes its own check. -/
theorem faults_of_routesFault {seen : List String}
    (hvalid : GeneratorConfig.routesFault seen rs = none) : ∀ r ∈ rs, r.fault? = none := by
  induction rs generalizing seen with
  | nil => exact nofun
  | cons r rs ih =>
    unfold GeneratorConfig.routesFault at hvalid
    split at hvalid
    · cases hvalid
    next hfault =>
      split at hvalid
      · cases hvalid
      · exact List.forall_mem_cons.2 ⟨hfault, ih hvalid⟩

/-- The handlers of valid routes are all different, and none of them was seen before. -/
theorem handlers_of_routesFault {seen : List String}
    (hvalid : GeneratorConfig.routesFault seen rs = none) :
    (rs.map RouteConfig.handler).Nodup ∧ ∀ r ∈ rs, r.handler ∉ seen := by
  induction rs generalizing seen with
  | nil => exact ⟨List.nodup_nil, nofun⟩
  | cons r rs ih =>
    unfold GeneratorConfig.routesFault at hvalid
    split at hvalid
    · cases hvalid
    · split at hvalid
      · cases hvalid
      next hseen =>
        obtain ⟨hnodup, hrest⟩ := ih hvalid
        refine ⟨List.nodup_cons.2 ⟨?_, hnodup⟩, List.forall_mem_cons.2 ⟨?_, ?_⟩⟩
        · intro hmem
          obtain ⟨s, hs, heq⟩ := List.mem_map.1 hmem
          exact hrest s hs (heq ▸ List.mem_cons_self ..)
        · intro hmem
          exact hseen (List.contains_iff_mem.2 hmem)
        · intro s hs hmem
          exact hrest s hs (List.mem_cons_of_mem _ hmem)

namespace RouteTable

theorem insertAll_cons (t : RouteTable) (r : RouteConfig) (rs : List RouteConfig) :
    t.insertAll (r :: rs) =
      match r.endpoint with
      | .ok e => (t.insert e).insertAll rs
      | .error e => .error e := rfl

/-- **Valid routes make a table,** over any other one. -/
theorem insertAll_ok_iff (t : RouteTable) (rs : List RouteConfig) :
    (∃ t', t.insertAll rs = .ok t') ↔ ∀ r ∈ rs, r.fault? = none := by
  induction rs generalizing t with
  | nil => exact iff_of_true ⟨t, rfl⟩ nofun
  | cons r rs ih =>
    rw [List.forall_mem_cons]
    rw [insertAll_cons]
    cases hendpoint : r.endpoint with
    | error f =>
      have hfault := RouteConfig.endpoint_error_iff.1 hendpoint
      refine iff_of_false nofun fun h => ?_
      rw [h.1] at hfault
      cases hfault
    | ok e =>
      have hfault := (RouteConfig.endpoint_ok_iff.1 hendpoint).1
      exact (ih (t.insert e)).trans (and_iff_right hfault).symm

/-- The first route that is not valid is an error. -/
theorem insertAll_error_iff (t : RouteTable) (rs : List RouteConfig) :
    t.insertAll rs = .error f ↔ rs.findSome? RouteConfig.fault? = some f := by
  induction rs generalizing t with
  | nil => exact iff_of_false nofun nofun
  | cons r rs ih =>
    rw [List.findSome?_cons]
    rw [insertAll_cons]
    cases hendpoint : r.endpoint with
    | error g =>
      rw [RouteConfig.endpoint_error_iff.1 hendpoint]
      simp
    | ok e =>
      rw [(RouteConfig.endpoint_ok_iff.1 hendpoint).1]
      exact ih (t.insert e)

/-- **The routes of a valid configuration make a table.** -/
theorem withOverrides_of_valid (hvalid : c.validate = .ok c) :
    ∃ routes, withOverrides c.routes = .ok routes :=
  (insertAll_ok_iff _ _).2 (faults_of_routesFault (routesFault_of_valid hvalid))

/-! ## Endpoints -/

/-- A table answers for the handler that it is asked for. -/
theorem endpoint?_handler (hfound : t.endpoint? h = some e) : e.handler = h := by
  unfold endpoint? at hfound
  obtain ⟨route, -, rfl⟩ := Option.map_eq_some_iff.1 hfound
  rfl

theorem handler_of_endpoint (hendpoint : r.endpoint = .ok e) : e.handler = r.handler := by
  obtain ⟨-, m, -, rfl⟩ := RouteConfig.endpoint_ok_iff.1 hendpoint
  rfl

theorem resolve?_insert (t : RouteTable) (e : Endpoint) (h : String) :
    (t.insert e).resolve? h = if e.handler = h then some ⟨e.method, e.path⟩ else t.resolve? h :=
  Keyed.lookup_insert ..

theorem request_insert (t : RouteTable) (e : Endpoint) (h : String) :
    (t.insert e).request h = if e.handler = h then e.request else t.request h := by
  unfold request insert
  rw [Keyed.lookup_insert]
  split
  · rfl
  · rfl

theorem response_insert (t : RouteTable) (e : Endpoint) (h : String) :
    (t.insert e).response h = if e.handler = h then e.response else t.response h := by
  unfold response insert
  rw [Keyed.lookup_insert]
  split
  · rfl
  · rfl

theorem endpoint?_insert (t : RouteTable) (e : Endpoint) (h : String) :
    (t.insert e).endpoint? h = if e.handler = h then some e else t.endpoint? h := by
  unfold endpoint?
  rw [resolve?_insert, request_insert, response_insert]
  by_cases heq : e.handler = h
  · subst heq
    simp
  · simp [heq]

/-- Of several endpoints that are put into a table, the last one of a handler is found. -/
theorem endpoint?_foldl (es : List Endpoint) (t : RouteTable) (h : String) :
    (es.foldl insert t).endpoint? h =
      (es.reverse.find? fun e => e.handler = h).or (t.endpoint? h) := by
  induction es generalizing t with
  | nil => rfl
  | cons e es ih =>
    rw [List.foldl_cons, ih, endpoint?_insert, List.reverse_cons, List.find?_append,
      List.find?_singleton, Option.or_assoc]
    by_cases heq : e.handler = h
    · simp [heq]
    · simp [heq]

/-- Where handlers are all different, the last one of a kind is the first. -/
theorem find?_reverse_of_nodup {α : Type} {key : α → String} {xs : List α}
    (hnodup : (xs.map key).Nodup) (h : String) :
    (xs.reverse.find? fun x => key x = h) = xs.find? fun x => key x = h := by
  induction xs with
  | nil => rfl
  | cons x xs ih =>
    obtain ⟨hnot, hnodup⟩ := List.nodup_cons.1 hnodup
    rw [List.reverse_cons, List.find?_append, ih hnodup, List.find?_singleton, List.find?_cons]
    by_cases heq : key x = h
    · have hnone : (xs.find? fun y => key y = h) = none := by
        rw [List.find?_eq_none]
        intro y hy hkey
        rw [decide_eq_true_eq] at hkey
        exact hnot (List.mem_map.2 ⟨y, hy, hkey.trans heq.symm⟩)
      simp [heq, hnone]
    · simp [heq]

/-- **The built-in table answers from the built-in endpoints.** -/
theorem endpoint?_builtin (h : String) :
    builtin.endpoint? h = builtinEndpoints.find? fun e => e.handler = h := by
  have hnodup : (builtinEndpoints.map Endpoint.handler).Nodup := by decide
  unfold builtin
  rw [endpoint?_foldl, find?_reverse_of_nodup hnodup]
  exact Option.or_none

/-- The last configured route of a handler. -/
def lastRoute? (h : String) (rs : List RouteConfig) : Option RouteConfig :=
  rs.reverse.find? fun r => r.handler = h

/-- **A table answers from the last configured route of a handler,** and without one as the table
did that the routes were put over. -/
theorem endpoint?_insertAll (hinsert : t.insertAll rs = .ok routes) (h : String) :
    routes.endpoint? h = match lastRoute? h rs with
      | some r => r.endpoint.toOption
      | none => t.endpoint? h := by
  induction rs generalizing t with
  | nil =>
    cases hinsert
    rfl
  | cons r rs ih =>
    rw [insertAll_cons] at hinsert
    cases hendpoint : r.endpoint with
    | error f =>
      rw [hendpoint] at hinsert
      cases hinsert
    | ok e =>
      rw [hendpoint] at hinsert
      have hlast : lastRoute? h (r :: rs) =
          (lastRoute? h rs).or (if r.handler = h then some r else none) := by
        unfold lastRoute?
        rw [List.reverse_cons, List.find?_append, List.find?_singleton]
        simp only [decide_eq_true_eq]
      rw [ih hinsert, hlast]
      cases lastRoute? h rs with
      | some s => rfl
      | none =>
        dsimp only
        rw [endpoint?_insert, handler_of_endpoint hendpoint, Option.none_or]
        by_cases hr : r.handler = h
        · rw [if_pos hr, if_pos hr]
          dsimp only
          rw [hendpoint]
          rfl
        · rw [if_neg hr, if_neg hr]

/-- Where handlers are all different, the last route of a handler is the only one. -/
theorem lastRoute?_of_nodup (hnodup : (rs.map RouteConfig.handler).Nodup) (hr : r ∈ rs) :
    lastRoute? r.handler rs = some r := by
  cases hlast : lastRoute? r.handler rs with
  | none =>
    have hnone := List.find?_eq_none.1 hlast r (List.mem_reverse.2 hr)
    simp at hnone
  | some s =>
    have hs : s ∈ rs := List.mem_reverse.1 (List.mem_of_find?_eq_some hlast)
    have hname : s.handler = r.handler := by simpa using List.find?_some hlast
    rw [List.inj_on_of_nodup_map hnodup hs hr hname]

/-- Each configured route of a valid configuration is the endpoint of its handler. -/
theorem endpoint?_of_valid (hvalid : c.validate = .ok c)
    (hroutes : withOverrides c.routes = .ok routes) (hr : r ∈ c.routes)
    (hendpoint : r.endpoint = .ok e) : routes.endpoint? e.handler = some e := by
  obtain ⟨hnodup, -⟩ := handlers_of_routesFault (routesFault_of_valid hvalid)
  rw [endpoint?_insertAll hroutes, handler_of_endpoint hendpoint, lastRoute?_of_nodup hnodup hr]
  dsimp only
  rw [hendpoint]
  rfl

/-- An endpoint of a configured table is that of a configured route, or is built in. -/
theorem configured_or_builtin (hroutes : withOverrides rs = .ok routes)
    (hfound : routes.endpoint? h = some e) :
    (∃ r ∈ rs, r.endpoint = .ok e) ∨ e ∈ builtinEndpoints := by
  rw [endpoint?_insertAll hroutes] at hfound
  cases hlast : lastRoute? h rs with
  | none =>
    rw [hlast] at hfound
    dsimp only at hfound
    rw [endpoint?_builtin] at hfound
    exact .inr (List.mem_of_find?_eq_some hfound)
  | some r =>
    rw [hlast] at hfound
    dsimp only at hfound
    refine .inl ⟨r, List.mem_reverse.1 (List.mem_of_find?_eq_some hlast), ?_⟩
    cases hendpoint : r.endpoint with
    | error f =>
      rw [hendpoint] at hfound
      cases hfound
    | ok f =>
      rw [hendpoint] at hfound
      cases hfound
      rfl

theorem subject_of_endpoint (hendpoint : r.endpoint = .ok e) :
    (handlerSubject? e.handler).isSome = true := by
  rw [handler_of_endpoint hendpoint]
  exact (RouteConfig.fault?_eq_none (RouteConfig.endpoint_ok_iff.1 hendpoint).1).1

theorem subject_eq (hsubject : (handlerSubject? h).isSome = true) :
    ∃ d r, h.toList = handlerPrefix.toList ++ d :: r := by
  unfold handlerSubject? at hsubject
  cases hdrop : Occurrence.dropPrefix handlerPrefix.toList h.toList with
  | none =>
    rw [hdrop] at hsubject
    cases hsubject
  | some rest =>
    rw [hdrop] at hsubject
    cases rest with
    | nil => cases hsubject
    | cons d r => exact ⟨d, r, Occurrence.dropPrefix_eq_some.1 hdrop⟩

/-- **Every handler of a configured table has a name besides its start.** -/
theorem withOverrides_subject (hroutes : withOverrides rs = .ok routes)
    (hfound : routes.endpoint? h = some e) : ∃ d r, h.toList = handlerPrefix.toList ++ d :: r := by
  have hbuiltin : ∀ e ∈ builtinEndpoints, (handlerSubject? e.handler).isSome = true := by decide
  obtain rfl := endpoint?_handler hfound
  rcases configured_or_builtin hroutes hfound with ⟨r, -, hendpoint⟩ | hmem
  · exact subject_eq (subject_of_endpoint hendpoint)
  · exact subject_eq (hbuiltin e hmem)

end RouteTable

end SdkGen
