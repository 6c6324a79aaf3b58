/-!
# The double nearest to a decimal

`Double.nearest` gives the bits of the double that a decimal is rounded to.
-/

namespace SdkGen.Double

/-- The bits of the double nearest to `digits · 10 ^ exponent` with a sign; none where that is too
large for a double. -/
def nearest (negative : Bool) (digits : Nat) (exponent : Int) : Option UInt64 :=
  let places := Int.ofNat (toString digits).length + exponent
  let magnitude : Float :=
    if digits = 0 || places < -400 then 0
    else if 400 < places then 1.0 / 0.0
    else match exponent with
      | .ofNat k => Float.ofScientific digits false k
      | .negSucc k => Float.ofScientific digits true (k + 1)
  if magnitude.isInf then none
  else some (if negative then -magnitude else magnitude).toBits

end SdkGen.Double
