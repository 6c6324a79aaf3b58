/-!
# Sets of tokens

* `TokenSet`: a set of numbers below 128, as two words of bits.
-/

namespace SdkGen.Go

/-- A set of numbers below 128. -/
structure TokenSet where
  low : UInt64
  high : UInt64
  deriving DecidableEq, Hashable, Repr, Inhabited

namespace TokenSet

/-- No number. -/
def empty : TokenSet := ⟨0, 0⟩

/-- One number. -/
def single (n : Nat) : TokenSet :=
  if n < 64 then ⟨1 <<< n.toUInt64, 0⟩ else ⟨0, 1 <<< (n - 64).toUInt64⟩

/-- The numbers of either set. -/
def union (a b : TokenSet) : TokenSet := ⟨a.low ||| b.low, a.high ||| b.high⟩

/-- The numbers of both sets. -/
def inter (a b : TokenSet) : TokenSet := ⟨a.low &&& b.low, a.high &&& b.high⟩

/-- The numbers of the first set that are not in the second. -/
def diff (a b : TokenSet) : TokenSet := ⟨a.low &&& ~~~b.low, a.high &&& ~~~b.high⟩

/-- Whether there is no number. -/
def isEmpty (a : TokenSet) : Bool := a.low == 0 && a.high == 0

/-- Whether a number is in the set. -/
def contains (a : TokenSet) (n : Nat) : Bool := !(a.inter (single n)).isEmpty

/-- Adds a number. -/
def insert (a : TokenSet) (n : Nat) : TokenSet := a.union (single n)

/-- Whether two sets have a number in common. -/
def meets (a b : TokenSet) : Bool := !(a.inter b).isEmpty

/-- The set of some numbers. -/
def ofList (ns : List Nat) : TokenSet := ns.foldl insert empty

/-- All numbers. -/
def full : TokenSet := ⟨~~~0, ~~~0⟩

/-- The numbers below a bound, in order. -/
def toList (bound : Nat) (a : TokenSet) : List Nat :=
  (List.range bound).filter a.contains

end TokenSet

end SdkGen.Go
