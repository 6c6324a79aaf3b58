import SdkGen.Template.Syntax
import SdkGen.Text.Escaped

/-!
# Faults of rendering

A fault has a cause, and the place of the tag where it arose. `RenderFault.message` words it.
-/

namespace SdkGen.Template

/-- Why a template cannot be rendered. -/
inductive RenderCause
  | templateNotFound (name : String)
  /-- A reference leads nowhere; its text, if it has one. -/
  | missingVariable (path : Option String)
  | helperNotFound (name : String)
  | decoratorNotFound (name : String)
  | partialNotFound (name : String)
  /-- The contents of the including tag are asked for where there are none. -/
  | noPartialBlock
  | includesItself
  | missingParam (helper : String) (index : Nat)
  | missingNamedParam (helper name : String)
  /-- A parameter is not of the type that is expected. -/
  | invalidParam (expected : String)
  /-- A decorator that needs contents has none. -/
  | noContents
  | loggingLevel (level : String)
  /-- An array is asked for something that is no index. -/
  | invalidIndex (step : String)
  deriving DecidableEq, Repr

namespace RenderCause

/-- The wording of a cause. -/
def message : RenderCause → String
  | templateNotFound name => s!"Template not found {name}"
  | missingVariable none => "Failed to access variable in strict mode None"
  | missingVariable (some path) =>
    s!"Failed to access variable in strict mode Some({Escaped.quoted path})"
  | helperNotFound name => s!"Helper not found {name}"
  | decoratorNotFound name => s!"Decorator not found {name}"
  | partialNotFound name => s!"Partial not found {name}"
  | noPartialBlock => "Partial block cound not be found"
  | includesItself => "Can not include current template in partial"
  | missingParam helper index =>
    s!"Helper/Decorator {helper} param at index {index} required but not found"
  | missingNamedParam helper name =>
    s!"Helper/Decorator {helper} param with name {name} required but not found"
  | invalidParam expected => s!"Invalid param type, {expected} expected"
  | noContents => "Block content required"
  | loggingLevel level => s!"Invalid logging level: {level}"
  | invalidIndex step => s!"Cannot access array/vector with string index, {step}"

end RenderCause

/-- A cause with the place of the innermost tag, and the template it stands in. -/
structure RenderFault where
  cause : RenderCause
  place : Option Place
  template : Option String
  deriving DecidableEq, Repr

namespace RenderFault

/-- A cause whose place is not known yet. -/
def ofCause (c : RenderCause) : RenderFault := ⟨c, none, none⟩

/-- Gives a fault its place, unless it has one. -/
def placed (place : Place) (f : RenderFault) : RenderFault :=
  if f.place.isSome then f else { f with place := some place }

/-- Gives a fault its template, unless it has one. -/
def within (template : String) (f : RenderFault) : RenderFault :=
  if f.template.isSome then f else { f with template := some template }

/-- What the user reads. -/
def message (f : RenderFault) : String :=
  match f.place with
  | some p =>
    let name := f.template.getD "Unnamed template"
    s!"Error rendering \"{name}\" line {p.line}, col {p.column}: {f.cause.message}"
  | none => f.cause.message

end RenderFault

end SdkGen.Template
