import QueryShape.Time.Basic

/-!
# Writing dates and times

Dates are written as `YYYY-MM-DD` and times as `YYYY-MM-DDTHH:MM:SS`. Microseconds follow a point if
there are any, and the distance from universal time stands at the end, in hours and minutes and, if
it has them, seconds and microseconds.
-/

namespace QueryShape.Time

/-- The last `width` decimal digits of a number. -/
def digits : (width : Nat) → Nat → List Char
  | 0, _ => []
  | width + 1, n => digits width (n / 10) ++ [Char.ofNat (0x30 + n % 10)]

/-- A date as text. -/
def Date.chars (d : Date) : List Char :=
  digits 4 d.year ++ '-' :: digits 2 d.month ++ '-' :: digits 2 d.day

/-- Microseconds after their point, if there are any. -/
def fraction (micro : Nat) : List Char :=
  if micro = 0 then [] else '.' :: digits 6 micro

/-- A time of the day as text. -/
def Clock.chars (c : Clock) : List Char :=
  digits 2 c.hour ++ ':' :: digits 2 c.minute ++ ':' :: digits 2 c.second ++ fraction c.micro

/-- A distance from universal time as text. -/
def Offset.chars (o : Offset) : List Char :=
  let micros := o.micros.natAbs
  let seconds := micros / microsPerSecond
  let micro := micros % microsPerSecond
  (if o.micros < 0 then '-' else '+') ::
    (digits 2 (seconds / 3600) ++ ':' :: digits 2 (seconds / 60 % 60) ++
      if seconds % 60 = 0 ∧ micro = 0 then [] else ':' :: digits 2 (seconds % 60) ++ fraction micro)

/-- A time as text. -/
def DateTime.chars (t : DateTime) : List Char :=
  t.date.chars ++ 'T' :: t.clock.chars ++ (t.offset?.map Offset.chars).getD []

/-- A date as text. -/
def Date.text (d : Date) : String := .ofList d.chars

/-- A time as text. -/
def DateTime.text (t : DateTime) : String := .ofList t.chars

end QueryShape.Time
