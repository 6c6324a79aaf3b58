import SdkGen.Template.Fault

/-!
# The data seen from a block

* `Frame`: what one block lets its contents see.
* `Scope`: the data, seen from inside some blocks.
* `Scope.resolve`: what a path refers to.
-/

namespace SdkGen.Template

open Json (Value)

/-- A value, and whether it is a part of the data, and not one that was made from it. -/
structure Seen where
  value : Value
  isData : Bool
  deriving Inhabited

/-- What a block lets its contents see: its value, its variables and the names it gives. -/
structure Frame where
  base : Seen
  locals : List (String × Value)
  names : List (String × Seen)

/-- The data, and the blocks around, innermost first. -/
structure Scope where
  root : Value
  frames : List Frame

namespace Scope

/-- The data alone. -/
def ofData (v : Value) : Scope := ⟨v, [⟨⟨v, true⟩, [], []⟩]⟩

/-- The scope inside a block. -/
def push (s : Scope) (f : Frame) : Scope := ⟨s.root, f :: s.frames⟩

/-- The data as seen from one block alone. -/
def only (s : Scope) (f : Frame) : Scope := ⟨s.root, [f]⟩

/-- The innermost block. -/
def innermost (s : Scope) : Frame := s.frames.headD ⟨⟨s.root, true⟩, [], []⟩

/-- The value of the block so many levels up; of the innermost where there are not so many. -/
def base (s : Scope) (ups : Nat) : Seen := (s.frames[ups]?.getD s.innermost).base

/-- The index that a text stands for. -/
def index? (s : String) : Option Nat :=
  let ds := match s.toList with
    | '+' :: r => r
    | cs => cs
  if ds.isEmpty || !ds.all Char.isDigit then none
  else
    let n := ds.foldl (fun n c => 10 * n + (c.toNat - '0'.toNat)) 0
    if n < Nat.pow 2 64 then some n else none

/-- One step into a value. -/
def step (v : Value) (name : String) : Except RenderCause (Option Value) :=
  match v with
  | .array items =>
    match index? name with
    | some i => .ok items[i]?
    | none => .error (.invalidIndex name)
  | .object members => .ok (Keyed.lookup name members)
  | _ => .ok none

/-- Steps into a value. -/
def walk : Option Value → List String → Except RenderCause (Option Value)
  | v, [] => .ok v
  | none, _ => .ok none
  | some v, name :: names =>
    match step v name with
    | .ok w => walk w names
    | .error e => .error e

/-- Steps into a value that was seen. -/
def walkFrom (v : Seen) (names : List String) : Except RenderCause (Option Seen) :=
  (walk (some v.value) names).map fun w => w.map fun w => ⟨w, v.isData⟩

/-- The value that a block around gives a name to. -/
def named? (s : Scope) (name : String) : Option Seen :=
  s.frames.findSome? fun f => Keyed.lookup name f.names

/-- The variable of the block so many levels up, or of the nearest block around it that has it. -/
def local? (s : Scope) (ups : Nat) (name : String) : Option Value :=
  (s.frames.drop ups).findSome? fun f => Keyed.lookup name f.locals

/-- What a path refers to. -/
def resolve (s : Scope) (p : Path) : Except RenderCause (Option Seen) :=
  if p.fromRoot then walkFrom ⟨s.root, true⟩ p.names
  else if p.isLocal then
    match p.names with
    | name :: _ => .ok ((s.local? p.ups name).map fun v => ⟨v, false⟩)
    | [] => .ok (some (s.base 0))
  else
    match p.names.head?.bind s.named? with
    | some v => walkFrom v (p.names.drop 1)
    | none => walkFrom (s.base p.ups) p.names

end Scope

end SdkGen.Template
