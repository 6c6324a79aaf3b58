import SdkGen.Go.Automaton.Mode

/-!
# The automaton of Go

* `Machine`: productions, states and modes.
* `Machine.ofGo`: the machine of the phrases of Go; it is built when it is first asked for.
-/

namespace SdkGen.Go

/-- Productions, states and modes. -/
structure Machine where
  numbering : Numbering
  productions : Array Production
  /-- The actions of each state, by token. -/
  actions : Array (Array (List Action))
  /-- The state to which each phrase leads, by state. -/
  gotos : Array (Array Nat)
  modes : Modes
  /-- The reserved words, by their texts. -/
  reserved : List (String × Nat)

namespace Machine

/-- The machine of the phrases of Go. -/
def build : Machine :=
  let l := Layout.ofGo
  let n := l.numbering
  let items := itemStates l
  let states := items.map l.actionState
  let merged := mergeStates l items states
  let spread {α : Type} (size : Nat) (none : α) (entries : List (Nat × α)) : Array α :=
    entries.foldl (fun acc (i, a) => acc.set! i a) (Array.replicate size none)
  ⟨n, l.productions, merged.map fun s => spread n.tokens.size [] s.actions,
    merged.map fun s => spread (n.size + 1) 0 s.gotos, .ofStates n states merged,
    (n.tokens.toList.zipIdx).filterMap fun (t, i) =>
      match t with
      | .reserved w => some (w, i)
      | _ => none⟩

/-- The machine of Go, built when it is first asked for. -/
def ofGo : Thunk Machine := Thunk.mk fun _ => build

end Machine

end SdkGen.Go
