import SdkGen.Template.Helper
import SdkGen.Template.Layout

/-!
# Rendering

Values are written as they are, without any escaping. A reference that leads nowhere is a fault,
except as the condition of a block.

* `evalParam`, `evalCall`: what a tag is applied to.
* `Context`: the data and the templates at a place.
* `renderElements`: what some elements render, with the templates that they define.
-/

namespace SdkGen.Template

open Json (Value)

/-! ## Parameters -/

mutual

/-- Evaluates a parameter. -/
def evalParam (s : Scope) : Param → Except RenderCause Evaluated
  | .path p => (s.resolve p).map fun v => ⟨some p.raw, v⟩
  | .literal v => .ok (.ofValue v)
  | .invalid => .ok (.ofValue .null)
  | .call c => (evalCall s c).map .ofValue

/-- Evaluates parameters in order. -/
def evalParams (s : Scope) : List Param → Except RenderCause (List Evaluated)
  | [] => .ok []
  | p :: ps =>
    match evalParam s p with
    | .ok v => (evalParams s ps).map (v :: ·)
    | .error e => .error e

/-- Evaluates named parameters. -/
def evalNamed (s : Scope) :
    List (String × Param) → Except RenderCause (List (String × Evaluated))
  | [] => .ok []
  | (key, p) :: ps =>
    match evalParam s p with
    | .ok v => (evalNamed s ps).map ((key, v) :: ·)
    | .error e => .error e

/-- The value of a call in parentheses; a helper that writes no value gives an empty text. -/
def evalCall (s : Scope) : Call → Except RenderCause Value
  | .mk head params named =>
    match evalHead s head, evalParams s params, evalNamed s named with
    | .ok name, .ok params, .ok named =>
      match plan name ⟨params, named, []⟩ ⟨false, false⟩ with
      | .ok (.write v) => .ok v
      | .ok _ => .ok (.string "")
      | .error e => .error e
    | .error e, _, _ => .error e
    | _, .error e, _ => .error e
    | _, _, .error e => .error e

/-- The name that the head of a call gives. -/
def evalHead (s : Scope) : Param → Except RenderCause String
  | .path p => .ok p.raw
  | .literal v => .ok (valueText v)
  | .invalid => .ok ""
  | .call c => (evalCall s c).map valueText

end

/-- The name and the arguments of a call. -/
def evalArguments (s : Scope) (c : Call) (names : List String) :
    Except RenderCause (String × Arguments) := do
  let name ← evalHead s c.head
  let params ← evalParams s c.params
  let named ← evalNamed s c.named
  return (name, ⟨params, named, names⟩)

/-! ## Contexts -/

/-- Elements by name. -/
abbrev Templates := List (String × List Element)

/-- The data and the templates at a place. -/
structure Context where
  scope : Scope
  /-- The templates that are defined inside others. -/
  inner : Templates
  /-- The contents of the including tags around, innermost first. -/
  contents : List (List Element)
  /-- Which of the contents a tag refers to. -/
  depth : Nat
  /-- The name of the template, unless the place is inside a block. -/
  current : Option String

/-- What elements render, and the templates that are defined after them. -/
abbrev Rendered := Except RenderFault (List Output × Templates)

/-- A template that was found: its name, if it has one, and its elements. -/
structure Found where
  name : Option String
  elements : List Element

/-- What renders something in a context. -/
abbrev Renderer := Context → Rendered

/-- Gives a fault the place of a tag. -/
def atPlace {α : Type} (place : Place) : Except RenderFault α → Except RenderFault α
  | .ok a => .ok a
  | .error e => .error (e.placed place)

/-- A cause as a fault of a tag. -/
def causedAt {α : Type} (place : Place) : Except RenderCause α → Except RenderFault α
  | .ok a => .ok a
  | .error e => .error ((RenderFault.ofCause e).placed place)

/-! ## Tags without contents -/

/-- What a tag without contents writes: a value, or what a helper writes. -/
def expressionOutput (s : Scope) (c : Call) : Except RenderCause Output := do
  let name ← evalHead s c.head
  if c.isBare && !isHelper name then
    let v ← evalParam s c.head
    match v.seen with
    | some w => return .text (valueText w.value).toList
    | none => .error (.missingVariable v.path)
  else
    let (name, args) ← evalArguments s c []
    match ← plan name args ⟨false, false⟩ with
    | .write v => return .helper false [.text (valueText v).toList]
    | _ => return .helper false []

/-- The templates after a decorator: one that it names has its contents. -/
def decorate (ctx : Context) (c : Call) (body : Option (List Element)) :
    Except RenderCause Templates := do
  let (name, args) ← evalArguments ctx.scope c []
  if name ≠ "inline" then throw (.decoratorNotFound name)
  match (← args.param "inline" 0).get, body with
  | .string key, some es => return Keyed.insert key es ctx.inner
  | .string _, none => throw .noContents
  | _, _ => throw (.invalidParam "String")

/-- The templates after the decorators among some elements. -/
def decorateAll (ctx : Context) : List Element → Except RenderFault Templates
  | [] => .ok ctx.inner
  | .decorator place c body :: es =>
    match causedAt place (decorate ctx c body) with
    | .ok inner => decorateAll { ctx with inner } es
    | .error e => .error e
  | _ :: es => decorateAll ctx es

/-! ## Inclusions -/

/-- The name under which the contents of an including tag are asked for. -/
def contentsName : String := "@partial-block"

/-- The template of a name. -/
def find (named : Templates) (ctx : Context) (name : String) (body : Option (List Element)) :
    Except RenderCause Found :=
  let inside := if name = contentsName then ctx.contents[ctx.depth]?
    else Keyed.lookup name ctx.inner
  match inside, Keyed.lookup name named, body with
  | some es, _, _ => .ok ⟨none, es⟩
  | none, some es, _ => .ok ⟨some name, es⟩
  | none, none, some es => .ok ⟨none, es⟩
  | none, none, none =>
    .error (if name = contentsName then .noPartialBlock else .partialNotFound name)

/-- The members of a value: those of an object, the items of an array and the characters of a text
by their index. -/
def membersOf : Value → List (String × Value)
  | .object members => members
  | .array items => Keyed.ofList (items.zipIdx.map fun (v, i) => (toString i, v))
  | .string s => Keyed.ofList (s.toList.zipIdx.map fun (c, i) => (toString i, .string c.toString))
  | _ => []

/-- What an included template sees: a part of the data if its tag has one, with the named
parameters added. -/
def inclusionScope (s : Scope) (args : Arguments) : Scope :=
  let param := args.params.head?
  let frame := match param.bind Evaluated.seen with
    | some v => if v.isData then some (Frame.mk v [] []) else none
    | none => none
  if args.named.isEmpty then (frame.map s.only).getD s
  else
    let base := match param with
      | some p => p.get
      | none => (s.base 0).value
    let members := args.named.foldl (fun ms n => Keyed.insert n.1 n.2.get ms) (membersOf base)
    s.only { frame.getD s.innermost with base := ⟨.object members, false⟩ }

/-- Renders an included template, where `deeper` renders one that was found. -/
def renderInclusion (named : Templates) (deeper : Found → Renderer) (isAlone : Bool)
    (indent : Option (List Char)) (c : Call) (body : Option (List Element)) : Renderer :=
  fun ctx => do
    let cause := fun {α : Type} (r : Except RenderCause α) => r.mapError RenderFault.ofCause
    let (name, args) ← cause (evalArguments ctx.scope c [])
    let inner ← (body.map (decorateAll ctx)).getD (.ok ctx.inner)
    if ctx.current = some name then throw (.ofCause .includesItself)
    let found ← cause (find named { ctx with inner } name body)
    let (parts, _) ← deeper found
      { scope := inclusionScope ctx.scope args
        inner
        contents := body.toList ++ ctx.contents
        depth := if name = contentsName then ctx.depth + 1 else ctx.depth - 1
        current := found.name }
    return ([.inclusion isAlone indent parts], inner)

/-! ## Elements -/

/-- Renders contents once inside each frame. -/
def renderInside (body : Renderer) (ctx : Context) (inner : Templates) :
    List Frame → Except RenderFault (List Output × Templates)
  | [] => .ok ([], inner)
  | f :: fs =>
    match body { ctx with scope := ctx.scope.push f, inner } with
    | .error e => .error e
    | .ok (parts, inner) =>
      match renderInside body ctx inner fs with
      | .error e => .error e
      | .ok (more, inner) => .ok (parts ++ more, inner)

/-- Renders what a plan says. -/
def renderPlan (body : Renderer) (otherwise : Option Renderer) (ctx : Context) : Plan → Rendered
  | .write v => .ok ([.text (valueText v).toList], ctx.inner)
  | .inside frames => renderInside body ctx ctx.inner frames
  | .contents => body ctx
  | .otherwise =>
    match otherwise with
    | some r => r ctx
    | none => .ok ([], ctx.inner)
  | .nothing => .ok ([], ctx.inner)

/-- Renders the block of a helper. -/
def renderBlock (isAlone : Bool) (c : Call) (names : List String) (body : Renderer)
    (otherwise : Option Renderer) : Renderer := fun ctx =>
  match evalArguments ctx.scope c names with
  | .error e => .error (.ofCause e)
  | .ok (name, args) =>
    match plan name args ⟨true, otherwise.isSome⟩ with
    | .error e => .error (.ofCause e)
    | .ok p =>
      match renderPlan body otherwise { ctx with current := none } p with
      | .error e => .error e
      | .ok (parts, inner) => .ok ([.helper isAlone parts], inner)

mutual

/-- Renders an element. `named` are the templates that have a name of their own, and `deeper`
renders an included one. -/
def renderElement (named : Templates) (deeper : Found → Renderer) : Element → Renderer
  | .text s => fun ctx => .ok ([.text s], ctx.inner)
  | .expression place c => fun ctx =>
    (causedAt place (expressionOutput ctx.scope c)).map fun o => ([o], ctx.inner)
  | .block place isAlone c names body otherwise => fun ctx =>
    atPlace place (renderBlock isAlone c names (renderElements named deeper body)
      (renderOtherwise named deeper otherwise) ctx)
  | .decorator place c body => fun ctx =>
    (causedAt place (decorate ctx c body)).map fun inner => ([], inner)
  | .inclusion place isAlone indent c body => fun ctx =>
    atPlace place (renderInclusion named deeper isAlone indent c body ctx)

/-- Renders elements in order. -/
def renderElements (named : Templates) (deeper : Found → Renderer) : List Element → Renderer
  | [] => fun ctx => .ok ([], ctx.inner)
  | e :: es => fun ctx =>
    match renderElement named deeper e ctx with
    | .error f => .error f
    | .ok (parts, inner) =>
      match renderElements named deeper es { ctx with inner } with
      | .error f => .error f
      | .ok (more, inner) => .ok (parts ++ more, inner)

/-- Renders what stands after an `else`. -/
def renderOtherwise (named : Templates) (deeper : Found → Renderer) :
    Option (List Element) → Option Renderer
  | none => none
  | some es => some (renderElements named deeper es)

end

/-- Renders a template that was found; a fault has its name, if it has one. -/
def renderFound (named : Templates) (deeper : Found → Renderer) (found : Found) : Renderer :=
  fun ctx =>
    match renderElements named deeper found.elements ctx, found.name with
    | .ok r, _ => .ok r
    | .error f, some name => .error (f.within name)
    | .error f, none => .error f

end SdkGen.Template
