import SdkGen.Template.Parse
import SdkGen.Template.Render

/-!
# Template engines

An engine holds templates by name. `Engine.register` parses one, `Engine.render` renders one with
some data.
-/

namespace SdkGen.Template

open Json (Value)

/-- Parsed templates by name. -/
structure Engine where
  templates : Templates

namespace Engine

/-- The engine without templates. -/
def empty : Engine := ⟨[]⟩

/-- Whether there is a template of that name. -/
def has (e : Engine) (name : String) : Bool := (Keyed.lookup name e.templates).isSome

/-- Adds a template under a name, in place of any it had; `none` where it cannot be parsed. -/
def register (e : Engine) (name template : String) : Option Engine :=
  (parse? template.toList).map fun es => ⟨Keyed.insert name es e.templates⟩

/-- What renders a template; the number bounds how deep templates include one another. -/
def renderer (e : Engine) : Nat → Found → Renderer
  | 0, _ => fun _ => .error (.ofCause .includesItself)
  | n + 1, found => renderFound e.templates (e.renderer n) found

/-- How deep templates may include one another. -/
def inclusionDepth : Nat := 256

/-- The text of a template with some data. -/
def render (e : Engine) (name : String) (data : Value) : Except RenderFault String :=
  match Keyed.lookup name e.templates with
  | none => .error (.ofCause (.templateNotFound name))
  | some elements =>
    match e.renderer inclusionDepth ⟨some name, elements⟩
        ⟨.ofData data, [], [], 0, some name⟩ with
    | .ok (parts, _) => .ok (String.ofList (layoutAll .start parts).1)
    | .error f => .error f

end Engine

end SdkGen.Template
