import QueryShape.Decimal.Shortest

/-!
# Writing numbers

`floatText` writes a floating-point number with its shortest digits: with a point where its leading
digit stands for `10^-4` up to `10^15`, with an exponent of two digits or more elsewhere, and always
with a point or an exponent.

`floatOfDecimal` reads one back: the number nearest to a decimal, infinity beyond the largest.
-/

namespace QueryShape.Decimal

/-- How a number is laid out. -/
structure Layout where
  /-- The least exponent of the leading digit that is written with a point. -/
  leastPlain : Int
  /-- The exponent of the leading digit from which on an exponent is written. -/
  leastScientific : Int
  /-- The least number of digits of an exponent. -/
  exponentWidth : Nat

/-- The layout of run-time values. -/
def plainLayout : Layout := ⟨-4, 16, 2⟩

/-- The digits of a number, padded with zeros in front. -/
def padded (width n : Nat) : List Char :=
  let digits := Nat.toDigits 10 n
  List.replicate (width - digits.length) '0' ++ digits

/-- A positive decimal in a layout. -/
def layOut (layout : Layout) (d : Decimal) : List Char :=
  let d := trimZeros 17 d
  let digits := Nat.toDigits 10 d.digits
  let leading := d.exponent + digits.length - 1
  if layout.leastPlain ≤ leading ∧ leading < layout.leastScientific then
    if 0 ≤ d.exponent then digits ++ List.replicate d.exponent.toNat '0' ++ ['.', '0']
    else if 0 ≤ leading then
      let whole := digits.length - (-d.exponent).toNat
      digits.take whole ++ ['.'] ++ digits.drop whole
    else ['0', '.'] ++ List.replicate (-leading - 1).toNat '0' ++ digits
  else
    let fraction := if digits.length = 1 then [] else '.' :: digits.drop 1
    digits.take 1 ++ fraction ++ ['e', if leading < 0 then '-' else '+'] ++
      padded layout.exponentWidth leading.natAbs

/-- A floating-point number as a text. -/
def floatText (x : Float) : String :=
  let sign := if isNegative x then ['-'] else []
  if x.isNaN then "nan"
  else if x.isInf then .ofList (sign ++ "inf".toList)
  else
    let (m, q) := decode x
    if m = 0 then .ofList (sign ++ "0.0".toList)
    else .ofList (sign ++ layOut plainLayout (shortest m q))

/-- The number nearest to `digits · 10^exponent`. -/
def floatOfDecimal (negative : Bool) (digits : Nat) (exponent : Int) : Float :=
  let size : Int := (Nat.toDigits 10 digits).length + exponent
  let magnitude : Float :=
    if digits = 0 ∨ size < -400 then 0.0
    else if 400 < size then 1.0 / 0.0
    else if exponent < 0 then .ofScientific digits true exponent.natAbs
    else .ofScientific digits false exponent.natAbs
  if negative then -magnitude else magnitude

end QueryShape.Decimal
