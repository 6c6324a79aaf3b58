/-!
# The shortest decimal that reads back

A finite double is `m · 2 ^ q`. The reals that round to it form an interval, with its ends where
`m` is even. `Decimal.shortest` takes the first decimal grid, from one digit on, with a point in
that interval, and of two such points the nearer.

* `Double`: a finite double without its sign.
* `Decimal`: digits and a power of ten.
* `Decimal.shortest`: the shortest decimal of a double.
-/

namespace SdkGen

/-- A positive or zero finite double, `mantissa · 2 ^ exponent`. -/
structure Double where
  mantissa : Nat
  exponent : Int
  /-- The next double below is only half as far away as the next above. -/
  narrow : Bool
  deriving DecidableEq, Repr

namespace Double

/-- The finite double with these bits, without the sign; `none` for infinities and NaN. -/
def ofBits (bits : UInt64) : Option Double :=
  let n := bits.toNat
  let fraction := n % Nat.pow 2 52
  let biased := n / Nat.pow 2 52 % Nat.pow 2 11
  if biased = 2047 then none
  else if biased = 0 then some ⟨fraction, -1074, false⟩
  else some ⟨fraction + Nat.pow 2 52, Int.ofNat biased - 1075, fraction = 0 && biased ≠ 1⟩

/-- The sign bit. -/
def isNegative (bits : UInt64) : Bool := bits.toNat / Nat.pow 2 63 = 1

end Double

/-- A decimal, `digits · 10 ^ exponent`. -/
structure Decimal where
  digits : Nat
  exponent : Int
  deriving DecidableEq, Repr

namespace Decimal

/-- A fraction of naturals. -/
structure Fraction where
  num : Nat
  den : Nat

/-- `n · base ^ e`. -/
def Fraction.scaled (n base : Nat) (e : Int) : Fraction :=
  match e with
  | .ofNat k => ⟨n * Nat.pow base k, 1⟩
  | .negSucc k => ⟨n, Nat.pow base (k + 1)⟩

/-- The order of fractions. -/
def Fraction.le (a b : Fraction) : Bool := a.num * b.den ≤ b.num * a.den

/-- The strict order of fractions. -/
def Fraction.lt (a b : Fraction) : Bool := a.num * b.den < b.num * a.den

/-- Least power of ten, up to `fuel`, that lifts the fraction to one or more. -/
def liftExponent (f : Fraction) : Nat → Nat → Nat
  | 0, k => k
  | fuel + 1, k => if f.den ≤ f.num * 10 ^ k then k else liftExponent f fuel (k + 1)

/-- The power of ten of the first digit of a positive fraction. -/
def leadingExponent (f : Fraction) : Int :=
  if f.den ≤ f.num then Int.ofNat (Nat.toDigits 10 (f.num / f.den)).length - 1
  else - Int.ofNat (liftExponent f 400 0)

/-- Takes zeros off the end of the digits. -/
def trimmed : Nat → Decimal → Decimal
  | 0, d => d
  | fuel + 1, d =>
    if d.digits ≠ 0 && d.digits % 10 = 0 then trimmed fuel ⟨d.digits / 10, d.exponent + 1⟩ else d

/-- The nearer of two points of a grid that lie in the interval around `v`, if any does. -/
def pick (v : Fraction) (inside : Nat → Bool) (at' : Nat → Fraction) (below : Nat) : Option Nat :=
  match inside below, inside (below + 1) with
  | false, false => none
  | true, false => some below
  | false, true => some (below + 1)
  | true, true =>
    let b := at' below
    let a := at' (below + 1)
    let downBy := (v.num * b.den - b.num * v.den) * a.den
    let upBy := (a.num * v.den - v.num * a.den) * b.den
    if downBy < upBy || (downBy = upBy && below % 2 = 0) then some below else some (below + 1)

/-- The first grid, from `places` digits on, with a point in the interval. -/
def search (v : Fraction) (inside : Fraction → Bool) (lead : Int) : Nat → Nat → Decimal
  | 0, places =>
    let s := lead - Int.ofNat places + 1
    let step := Fraction.scaled 1 10 s
    ⟨v.num * step.den / (v.den * step.num), s⟩
  | fuel + 1, places =>
    let s := lead - Int.ofNat places + 1
    let step := Fraction.scaled 1 10 s
    let at' := fun n => Fraction.scaled n 10 s
    let below := v.num * step.den / (v.den * step.num)
    match pick v (fun n => inside (at' n)) at' below with
    | some n => ⟨n, s⟩
    | none => search v inside lead fuel (places + 1)

/-- The shortest decimal that reads back as the double. -/
def shortest (d : Double) : Decimal :=
  if d.mantissa = 0 then ⟨0, 0⟩
  else
    let at' := fun n => Fraction.scaled n 2 (d.exponent - 2)
    let v := at' (4 * d.mantissa)
    let low := at' (4 * d.mantissa - if d.narrow then 1 else 2)
    let high := at' (4 * d.mantissa + 2)
    let inside := fun f =>
      if d.mantissa % 2 = 0 then low.le f && f.le high else low.lt f && f.lt high
    trimmed 20 (search v inside (leadingExponent v) 17 1)

end Decimal

end SdkGen
