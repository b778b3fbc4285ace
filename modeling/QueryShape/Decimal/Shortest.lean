/-!
# Shortest decimals

The decimal of a binary floating-point number with the fewest digits that reads back as the same
number, and of those the nearest to it.

A positive number is `m · 2^q`. The decimals that read back as it lie between the midpoints to its
two neighbours; the midpoints themselves do iff `m` is even. `shortest` goes through the decimal
grids from one digit on and tests the two points next to the number on each grid.
-/

namespace QueryShape

/-- A positive decimal number, `digits · 10^exponent`. -/
structure Decimal where
  digits : Nat
  exponent : Int
  deriving DecidableEq, Repr

namespace Decimal

/-- A number as a fraction of natural numbers. -/
structure Fraction where
  num : Nat
  den : Nat

/-- `n · 2^q` as a fraction. -/
def Fraction.binary (n : Nat) (q : Int) : Fraction :=
  if 0 ≤ q then ⟨n * Nat.pow 2 q.toNat, 1⟩ else ⟨n, Nat.pow 2 (-q).toNat⟩

/-- `n · 10^e` as a fraction. -/
def Fraction.decimal (n : Nat) (e : Int) : Fraction :=
  if 0 ≤ e then ⟨n * Nat.pow 10 e.toNat, 1⟩ else ⟨n, Nat.pow 10 (-e).toNat⟩

/-- The order of fractions, strict. -/
def Fraction.below (a b : Fraction) : Bool := a.num * b.den < b.num * a.den

/-- The numbers that read back as one number. -/
structure Interval where
  low : Fraction
  high : Fraction
  closed : Bool

/-- The interval holds the number. -/
def Interval.holds (i : Interval) (x : Fraction) : Bool :=
  if i.closed then !x.below i.low && !i.high.below x else i.low.below x && x.below i.high

/-- The numbers that read back as `m · 2^q`. Below a power of two the neighbour is nearer, unless
the exponent is the least one. -/
def Interval.around (m : Nat) (q : Int) : Interval :=
  let narrow := m = Nat.pow 2 52 && q != -1074
  { low := .binary (4 * m - if narrow then 1 else 2) (q - 2)
    high := .binary (4 * m + 2) (q - 2)
    closed := m % 2 == 0 }

/-- The point of the grid with steps of `10^e` at or below a number. -/
def floorOn (x : Fraction) (e : Int) : Nat :=
  if 0 ≤ e then x.num / (x.den * Nat.pow 10 e.toNat) else x.num * Nat.pow 10 (-e).toNat / x.den

/-- The point of the interval nearest to `x` on the grid with steps of `10^e`, if one of the two
next to `x` is in it. Halfway, the even one is taken. -/
def nearestOn (i : Interval) (x : Fraction) (e : Int) : Option Decimal :=
  let n := floorOn x e
  let below := Fraction.decimal n e
  let above := Fraction.decimal (n + 1) e
  match i.holds below, i.holds above with
  | true, false => some ⟨n, e⟩
  | false, true => some ⟨n + 1, e⟩
  | false, false => none
  | true, true =>
    let toLow := 2 * x.num * below.den * above.den
    let middle := (below.num * above.den + above.num * below.den) * x.den
    some ⟨if toLow < middle ∨ (toLow = middle ∧ n % 2 = 0) then n else n + 1, e⟩

/-- The exponent of the leading digit, counted down from `e`. -/
def leadingExponent (x : Fraction) : (limit : Nat) → (e : Int) → Int
  | 0, e => e
  | limit + 1, e => if x.below (.decimal 1 e) then leadingExponent x limit (e - 1) else e

/-- The first grid with a hit, from the coarsest on. -/
def scanGrids (i : Interval) (x : Fraction) : (limit : Nat) → (e : Int) → Decimal
  | 0, e => ⟨floorOn x e, e⟩
  | limit + 1, e => (nearestOn i x e).getD (scanGrids i x limit (e - 1))

/-- The shortest decimal that reads back as `m · 2^q`, for a positive `m`. -/
def shortest (m : Nat) (q : Int) : Decimal :=
  let x := Fraction.binary m q
  scanGrids (.around m q) x 17 (leadingExponent x 700 310)

/-- The digits and exponent of a decimal without zeros at the end. -/
def trimZeros : (limit : Nat) → Decimal → Decimal
  | 0, d => d
  | limit + 1, d =>
    if d.digits ≠ 0 ∧ d.digits % 10 = 0 then trimZeros limit ⟨d.digits / 10, d.exponent + 1⟩ else d

/-- The significand and exponent of a finite number, its sign left out. -/
def decode (x : Float) : Nat × Int :=
  let bits : Nat := x.toBits.toNat
  let field : Nat := bits / Nat.pow 2 52 % Nat.pow 2 11
  let fraction : Nat := bits % Nat.pow 2 52
  if field = 0 then (fraction, -1074) else (fraction + Nat.pow 2 52, (field : Int) - 1075)

/-- The number has its sign bit set. -/
def isNegative (x : Float) : Bool := x.toBits.toNat / Nat.pow 2 63 == 1

end Decimal

end QueryShape
