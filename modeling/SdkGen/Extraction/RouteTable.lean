import SdkGen.Config.Basic
import SdkGen.Model.Extraction

/-!
# Route tables

A route table gives a handler its method and path, its request type and its response type. Each of
the three is kept under the name of the handler and looked up for itself.

* `RouteTable.endpoint?`: the endpoint of a handler, from all three.
* `RouteTable.insert`: gives a handler all three.
* `RouteTable.builtin`: the routes that are always there.
* `RouteTable.withOverrides`: these routes with configured ones put over them.
-/

namespace SdkGen

/-- The method and path of a handler. -/
structure Route where
  method : HttpMethod
  path : String
  deriving DecidableEq, Repr

/-- Routes, request types and response types by handler. -/
structure RouteTable where
  routes : List (String × Route)
  requests : List (String × PayloadType)
  responses : List (String × PayloadType)
  deriving DecidableEq, Repr

namespace RouteTable

/-- The table without routes. -/
def empty : RouteTable := ⟨[], [], []⟩

/-- The method and path of a handler. -/
def resolve? (t : RouteTable) (handler : String) : Option Route := Keyed.lookup handler t.routes

/-- The request type of a handler; `any` where there is none. -/
def request (t : RouteTable) (handler : String) : PayloadType :=
  (Keyed.lookup handler t.requests).getD .any

/-- The response type of a handler; `any` where there is none. -/
def response (t : RouteTable) (handler : String) : PayloadType :=
  (Keyed.lookup handler t.responses).getD .any

/-- The endpoint of a handler that has a route. -/
def endpoint? (t : RouteTable) (handler : String) : Option Endpoint :=
  (t.resolve? handler).map fun r =>
    ⟨r.method, r.path, handler, t.request handler, t.response handler⟩

/-- Gives a handler its route and its types, in place of any it had. -/
def insert (t : RouteTable) (e : Endpoint) : RouteTable where
  routes := Keyed.insert e.handler ⟨e.method, e.path⟩ t.routes
  requests := Keyed.insert e.handler e.request t.requests
  responses := Keyed.insert e.handler e.response t.responses

/-- How many handlers have a route. -/
def size (t : RouteTable) : Nat := t.routes.length

/-- The endpoints that need no configuration. -/
def builtinEndpoints : List Endpoint :=
  [⟨.post, "/api/auth/invite", "handleAuthInvite", .named "AuthRequest", .named "AuthResponse"⟩,
    ⟨.get, "/api/users", "handleGetUser", .void, .named "User"⟩,
    ⟨.get, "/api/projects", "handleGetProjects", .void, .arrayOf "Project"⟩,
    ⟨.get, "/api/projects", "handleGetProject", .void, .named "Project"⟩]

/-- The table of these endpoints. -/
def builtin : RouteTable := builtinEndpoints.foldl insert empty

/-- Puts configured routes over a table, in order; the first invalid one is an error. -/
def insertAll (t : RouteTable) : List RouteConfig → Except ConfigFault RouteTable
  | [] => .ok t
  | r :: rs =>
    match r.endpoint with
    | .ok e => insertAll (t.insert e) rs
    | .error e => .error e

/-- The built-in routes with configured ones put over them. -/
def withOverrides (routes : List RouteConfig) : Except ConfigFault RouteTable :=
  builtin.insertAll routes

end RouteTable

end SdkGen
