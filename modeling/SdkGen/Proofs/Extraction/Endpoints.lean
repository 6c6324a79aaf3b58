import SdkGen.Extraction.Extract
import SdkGen.Proofs.Extraction.Routes

/-!
# The endpoints of a source file

* `extract_of_parse`: a text that is read has a model.
* `mem_endpointsOf`, `handlers_endpointsOf`: where the endpoints and their handlers come from.
-/

namespace SdkGen

variable {routes : RouteTable} {file : Go.SourceFile} {source : String} {e : Endpoint}

theorem extract_of_parse (routes : RouteTable) (hparse : Go.parse source = .ok file) :
    extract routes source = .ok (.ofFile routes file) := by
  unfold extract
  rw [hparse]
  rfl

theorem mem_endpointsOf (he : e ∈ endpointsOf routes file) :
    routes.endpoint? e.handler = some e := by
  obtain ⟨h, -, hfound⟩ := List.mem_filterMap.1 he
  rw [RouteTable.endpoint?_handler hfound, hfound]

/-- The handlers of the endpoints are functions of the file, each as often as it is one. -/
theorem handlers_endpointsOf (routes : RouteTable) (file : Go.SourceFile) :
    ((endpointsOf routes file).map Endpoint.handler).Sublist file.functions := by
  have hfound : ∀ names : List String,
      ((names.filterMap routes.endpoint?).map Endpoint.handler).Sublist names := by
    intro names
    induction names with
    | nil => exact .slnil
    | cons h names ih =>
      cases hfind : routes.endpoint? h with
      | none =>
        rw [List.filterMap_cons_none hfind]
        exact ih.cons h
      | some e =>
        rw [List.filterMap_cons_some hfind, List.map_cons, RouteTable.endpoint?_handler hfind]
        exact ih.cons_cons h
  exact (hfound _).trans List.filter_sublist

end SdkGen
