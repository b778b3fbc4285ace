import QueryShape.Decimal.Layout
import QueryShape.Literal
import QueryShape.Value.Basic

/-!
# Showing and comparing values

`Value.shown` writes a value as messages show it. `Value.same` is the equality of values: numbers
are equal if they are the same number, whatever their type, and an enum member is equal to its text.
-/

namespace QueryShape.Value

/-! ## Showing -/

/-- A number of microseconds, possibly negative, as days, seconds and microseconds, the latter two
not negative; those that are zero are left out. -/
def shownDuration (micros : Int) : String :=
  let perDay : Int := Time.microsPerDay
  let perSecond : Int := Time.microsPerSecond
  let days := micros.fdiv perDay
  let rest := micros - days * perDay
  let parts := [("days", days), ("seconds", rest / perSecond), ("microseconds", rest % perSecond)]
  let words := (parts.filter (·.2 ≠ 0)).map fun (name, n) => name ++ "=" ++ toString n
  "datetime.timedelta(" ++ ", ".intercalate words ++ ")"

/-- A distance from universal time as messages show it. -/
def shownOffset (o : Time.Offset) : String :=
  if o.micros = 0 then "datetime.timezone.utc"
  else "datetime.timezone(" ++ shownDuration o.micros ++ ")"

/-- A time as messages show it, without seconds and microseconds that are zero at its end. -/
def shownDateTime (t : Time.DateTime) : String :=
  let small :=
    if t.clock.micro ≠ 0 then [t.clock.second, t.clock.micro]
    else if t.clock.second ≠ 0 then [t.clock.second]
    else []
  let numbers := [t.date.year, t.date.month, t.date.day, t.clock.hour, t.clock.minute] ++ small
  let offset := (t.offset?.map fun o => ["tzinfo=" ++ shownOffset o]).getD []
  "datetime.datetime(" ++ ", ".intercalate (numbers.map toString ++ offset) ++ ")"

/-- The written form of an identifier: hexadecimal digits in groups. -/
def uuidText (bits : Nat) : String :=
  let digits := Literal.hex 32 bits
  let group (start length : Nat) := String.ofList ((digits.drop start).take length)
  "-".intercalate [group 0 8, group 8 4, group 12 4, group 16 4, group 20 12]

mutual

/-- A value as messages show it. -/
def shown : Value → String
  | .nothing => "None"
  | .bool value => if value then "True" else "False"
  | .int value => toString value
  | .float value => Decimal.floatText value
  | .text value => Literal.shown value
  | .list items => "[" ++ ", ".intercalate (shownItems items) ++ "]"
  | .dict entries => "\x7b" ++ ", ".intercalate (shownEntries entries) ++ "\x7d"
  | .dateTime value => shownDateTime value
  | .date value =>
    "datetime.date(" ++ ", ".intercalate ([value.year, value.month, value.day].map toString) ++ ")"
  | .uuid bits => "UUID('" ++ uuidText bits ++ "')"
  | .enumMember enum name words =>
    "<" ++ enum ++ "." ++ name ++ ": " ++ Literal.shown words ++ ">"
  | .result className raw => className ++ "(" ++ raw.shown ++ ")"
  | .input className fields => className ++ "(" ++ ", ".intercalate (shownFields fields) ++ ")"

/-- The items of a list, each as messages show it. -/
def shownItems : List Value → List String
  | [] => []
  | item :: rest => item.shown :: shownItems rest

/-- The entries of a dictionary, each as messages show it. -/
def shownEntries : List (String × Value) → List String
  | [] => []
  | (key, value) :: rest => (Literal.shown key ++ ": " ++ value.shown) :: shownEntries rest

/-- The fields of an input object, each as messages show it. -/
def shownFields : List (String × Value) → List String
  | [] => []
  | (key, value) :: rest => (key ++ "=" ++ value.shown) :: shownFields rest

end

/-! ## Comparing -/

/-- A floating-point number is the given integer. -/
def isInteger (x : Float) (n : Int) : Bool :=
  if x.isNaN || x.isInf then false
  else
    let (m, q) := Decimal.decode x
    let magnitude? : Option Nat :=
      if 0 ≤ q then some (m * Nat.pow 2 q.toNat)
      else if m % Nat.pow 2 (-q).toNat = 0 then some (m / Nat.pow 2 (-q).toNat) else none
    magnitude?.any fun a => (if Decimal.isNegative x then -(a : Int) else a) == n

/-- The integer that a number or truth value is. -/
def int? : Value → Option Int
  | .int value => some value
  | .bool value => some (if value then 1 else 0)
  | _ => none

/-- Two times are the same: the same instant, or the same time where no distance from universal time
is known. -/
def sameTime (a b : Time.DateTime) : Bool :=
  a.offset?.isSome == b.offset?.isSome && a.instant == b.instant

mutual

/-- Two values are equal. -/
def same : Value → Value → Bool
  | .nothing, .nothing => true
  | .float a, .float b => a == b
  | .float a, b => b.int?.any (isInteger a)
  | .list as, .list bs => as.length == bs.length && sameItems as bs
  | .dict as, .dict bs => as.length == bs.length && sameEntries as bs
  | .dateTime a, .dateTime b => sameTime a b
  | .date a, .date b => a == b
  | .uuid a, .uuid b => a == b
  | .result nameA rawA, .result nameB rawB => nameA == nameB && rawA.same rawB
  | .input nameA as, .input nameB bs =>
    nameA == nameB && as.length == bs.length && sameEntries as bs
  | a, .float b => a.int?.any (isInteger b)
  | a, b =>
    (match a.int?, b.int? with
      | some x, some y => x == y
      | _, _ => false) ||
    match a.text?, b.text? with
      | some x, some y => x == y
      | _, _ => false

/-- The items of two lists are equal one by one. -/
def sameItems : List Value → List Value → Bool
  | [], [] => true
  | a :: as, b :: bs => a.same b && sameItems as bs
  | _, _ => false

/-- Every entry of the first is in the second. -/
def sameEntries : List (String × Value) → List (String × Value) → Bool
  | [], _ => true
  | (key, value) :: rest, bs => (bs.lookup key).any value.same && sameEntries rest bs

end

end QueryShape.Value
