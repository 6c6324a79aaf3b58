/-!
# HTTP methods

The methods that a route may have. `HttpMethod.parse?` reads one in any case.
-/

namespace SdkGen

/-- A request method. -/
inductive HttpMethod
  | get
  | post
  | put
  | patch
  | delete
  deriving DecidableEq, Repr, Inhabited

namespace HttpMethod

/-- The method's name on the wire. -/
def name : HttpMethod → String
  | get => "GET"
  | post => "POST"
  | put => "PUT"
  | patch => "PATCH"
  | delete => "DELETE"

/-- All methods. -/
def all : List HttpMethod := [get, post, put, patch, delete]

/-- Whether requests carry a body. -/
def hasBody : HttpMethod → Bool
  | post => true
  | put => true
  | patch => true
  | get => false
  | delete => false

/-- The method of that name, whatever the case of its ASCII letters. -/
def parse? (s : String) : Option HttpMethod :=
  let upper := s.toList.map Char.toUpper
  all.find? fun m => m.name.toList == upper

end HttpMethod

end SdkGen
