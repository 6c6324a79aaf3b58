import SdkGen.Config.Fault
import SdkGen.Model.Extraction

/-!
# Configured routes

* `RouteConfig.fault?`, `RouteConfig.validate`: what is wrong with a configured route.
* `RouteConfig.endpoint`: the endpoint of a valid one.
-/

namespace SdkGen

open Json (Value)

/-- How the name of every handler starts. -/
def handlerPrefix : String := "handle"

/-- The name of a handler without its start, unless nothing else is left. -/
def handlerSubject? (handler : String) : Option String :=
  match Occurrence.dropPrefix handlerPrefix.toList handler.toList with
  | some [] => none
  | some (c :: r) => some (String.ofList (c :: r))
  | none => none

/-- A route as it is configured. -/
structure RouteConfig where
  handler : String
  method : String
  path : String
  request : String
  response : String
  deriving DecidableEq, Repr, Inhabited

namespace RouteConfig

/-- The payloads of a route that does not name them. -/
def defaultRequest : String := "void"

def defaultResponse : String := "any"

/-- The first fault of a route; its handler, method and path are checked in this order. -/
def fault? (r : RouteConfig) : Option ConfigFault :=
  if (handlerSubject? r.handler).isNone then some (.handlerName r.handler)
  else if (HttpMethod.parse? r.method).isNone then some (.method r.handler r.method)
  else if r.path.toList.head? ≠ some '/' then some (.path r.handler r.path)
  else none

/-- The route, if it has no fault. -/
def validate (r : RouteConfig) : Except ConfigFault RouteConfig :=
  match r.fault? with
  | some f => .error f
  | none => .ok r

/-- The endpoint of a valid route. The check does not keep the method, which is read again. -/
def endpoint (r : RouteConfig) : Except ConfigFault Endpoint :=
  match r.validate with
  | .error f => .error f
  | .ok r =>
    match HttpMethod.parse? r.method with
    | none => .error (.method r.handler r.method)
    | some m => .ok ⟨m, r.path, r.handler, .parse r.request, .parse r.response⟩

/-- The route's JSON form. -/
def toJson (r : RouteConfig) : Value :=
  .object [("handler", .string r.handler), ("method", .string r.method), ("path", .string r.path),
    ("request", .string r.request), ("response", .string r.response)]

end RouteConfig

end SdkGen
