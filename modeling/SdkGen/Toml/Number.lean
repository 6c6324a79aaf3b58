import SdkGen.Decimal.Nearest
import SdkGen.Toml.Quotation

/-!
# Numbers of TOML

A number is checked from its start, and then for underscores that do not stand between digits.

* `Raw.radixInteger`: an integer with a mark of its base.
* `Raw.decimalInteger`, `Raw.decimalFraction`: numbers of base ten.
-/

namespace SdkGen.Toml

namespace Raw

/-! ## Underscores -/

/-- The parts between underscores, each with its index. -/
def joints (index : Nat) (cs : List Char) : List (Nat × List Char) :=
  let part := cs.takeWhile (· ≠ '_')
  match _h : cs.drop part.length with
  | [] => [(index, part)]
  | _ :: rest => (index, part) :: joints (index + part.length + 1) rest
termination_by cs.length
decreasing_by
  have := congrArg List.length _h
  simp only [List.length_drop, List.length_cons] at this
  omega

/-- The fault of an underscore next to a part, if the part does not start and end with digits. -/
def jointFault (r : Raw) (isDigit : Char → Bool) (index : Nat) (part : List Char) : Option Fault :=
  let fault := fun (i : Nat) => some (r.faultAt i 1 "`_` may only go between digits" [])
  let stop := index + part.length
  if 0 < index && !(part.head?.map isDigit).getD true then fault (index - 1)
  else if 1 < part.length && stop < r.chars.length && !(part.getLast?.map isDigit).getD true then
    fault stop
  else if part.isEmpty && index ≠ 0 && stop ≠ r.chars.length then fault index
  else none

/-- The characters from an index on without underscores, each of which stands between digits. -/
def unjoined (r : Raw) (isDigit : Char → Bool) (index : Nat) : Except Fault (List Char) :=
  let cs := r.chars.drop index
  let fault := fun (i : Nat) => Except.error (r.faultAt i 1 "`_` may only go between digits" [])
  if !cs.contains '_' then .ok cs
  else if cs.head? = some '_' then fault 0
  else if 1 < cs.length && cs.getLast? = some '_' then fault (r.chars.length - 1)
  else match (joints index cs).findSome? fun p => r.jointFault isDigit p.1 p.2 with
    | some f => .error f
    | none => .ok (cs.filter (· ≠ '_'))

/-! ## Integers -/

/-- The number that digits of a base write; none without digits. -/
def digitsValue (base : Nat) (ds : List Char) : Option Nat :=
  if ds.isEmpty then none else some (ds.foldl (fun n c => base * n + (hexValue c).getD 0) 0)

/-- The sign that a number starts with, and the rest. -/
def splitSign (cs : List Char) : Bool × List Char :=
  match cs with
  | '+' :: ds => (false, ds)
  | '-' :: ds => (true, ds)
  | ds => (false, ds)

/-- A number with its sign. -/
def withSign (negative : Bool) (n : Nat) : Int := if negative then - Int.ofNat n else Int.ofNat n

/-- The integer in a base whose digits stand from an index on; none without digits. -/
def radixInteger (r : Raw) (base : Nat) (name : String) (index : Nat) :
    Except Fault (Option Int) :=
  let ds := r.chars.drop index
  let isDigit := fun c => ((hexValue c).filter (· < base)).isSome
  match ds.findIdx? fun c => !isDigit c && c ≠ '_', ds.head? with
  | some 0, some c =>
    if c = '+' || c = '-' then
      .error (r.faultAt index 1 "integers with a radix cannot be signed" [])
    else .error ⟨r.place index 0, s!"invalid {name} number"⟩
  | some i, _ => .error ⟨r.place (index + i) 0, s!"invalid {name} number"⟩
  | none, _ => do
    return (digitsValue base (← r.unjoined (fun c => (hexValue c).isSome) index)).map Int.ofNat

/-- Characters of the digits of a number. -/
def isDigitOrJoint (c : Char) : Bool := c.isDigit || c = '_'

/-- Passes digits from an index on: what follows them, and its index. -/
def passDigits (r : Raw) (part : String) (mayStartZero : Bool) (index : Nat) (cs : List Char) :
    Except Fault (Nat × List Char) :=
  let run := cs.takeWhile isDigitOrJoint
  let count := (run.filter Char.isDigit).length
  if count = 0 then .error (r.faultAt index 0 ("invalid " ++ part) ["digits"])
  else if 1 < count && !mayStartZero && cs.head? = some '0' then
    .error (r.faultAt index 1 "unexpected leading zero" [])
  else .ok (index + run.length, cs.drop run.length)

/-- The integer of base ten whose digits stand from an index on, after its sign. -/
def decimalInteger (r : Raw) (index : Nat) (cs : List Char) : Except Fault (Option Int) := do
  let _ ← r.passDigits "integer number" false index cs
  let (negative, ds) := splitSign (← r.unjoined Char.isDigit 0)
  return (digitsValue 10 ds).map (withSign negative)

/-! ## Fractions -/

/-- Marks of an exponent. -/
def isExponentMark (c : Char) : Bool := c = 'e' || c = 'E'

/-- The digits and the exponent of an unsigned decimal. -/
def decimalParts (cs : List Char) : Nat × Int :=
  let mantissa := cs.takeWhile (!isExponentMark ·)
  let whole := mantissa.takeWhile (· ≠ '.')
  let fraction := mantissa.drop (whole.length + 1)
  let (negative, ds) := splitSign (cs.drop (mantissa.length + 1))
  ((digitsValue 10 (whole ++ fraction)).getD 0,
    withSign negative ((digitsValue 10 ds).getD 0) - Int.ofNat fraction.length)

/-- Checks the parts of a decimal from an index on, after its sign. -/
def checkParts (r : Raw) (index : Nat) (cs : List Char) : Except Fault Unit := do
  let (index, cs) ← r.passDigits "mantissa" false index cs
  let (index, cs) ← match cs with
    | '.' :: ds => r.passDigits "fraction" true (index + 1) ds
    | _ => pure (index, cs)
  let (index, cs) ← match cs with
    | c :: ds =>
      if isExponentMark c then
        let after := (splitSign ds).2
        r.passDigits "exponent" true (index + 1 + (ds.length - after.length)) after
      else pure (index, cs)
    | [] => pure (index, cs)
  if cs.isEmpty then return
  throw (r.faultAt index cs.length "invalid float" [])

/-- The bits of the decimal whose parts stand from an index on, after its sign; none where it is
too large for a double. -/
def decimalFraction (r : Raw) (index : Nat) (cs : List Char) : Except Fault (Option UInt64) := do
  r.checkParts index cs
  let (negative, ds) := splitSign (← r.unjoined Char.isDigit 0)
  let (digits, exponent) := decimalParts ds
  return Double.nearest negative digits exponent

end Raw

end SdkGen.Toml
