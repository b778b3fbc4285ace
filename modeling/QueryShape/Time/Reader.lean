import QueryShape.Time.Basic

/-!
# Reading dates and times

Dates are read as year, month and day or as year, week and day, with hyphens or without; the day of
a week may be left out. Times follow any one character and have hours, minutes and seconds, with
colons or without, as far as they are given; a fraction of a second follows the last of them. A
distance from universal time has the same form after its sign, and `Z` stands for none.
-/

namespace QueryShape.Time

/-! ## Digits -/

/-- The value of an ASCII digit. -/
def digit? (c : Char) : Option Nat :=
  if c.isDigit then some (c.toNat - 0x30) else none

/-- The number that digits write. -/
def number? (cs : List Char) : Option Nat :=
  cs.foldl (fun n? c => do return 10 * (← n?) + (← digit? c)) (some 0)

/-- A number of exactly so many digits, and the text after it. -/
def take? (width : Nat) (cs : List Char) : Option (Nat × List Char) :=
  if cs.length < width then none
  else (number? (cs.take width)).map (·, cs.drop width)

/-! ## Dates -/

/-- A hyphen if the date has hyphens, nothing otherwise. -/
def skipHyphen? (hyphens : Bool) (cs : List Char) : Option (List Char) :=
  if hyphens then
    match cs with
    | '-' :: rest => some rest
    | _ => none
  else some cs

/-- The date that a text begins with. A week at its end has its first day. -/
def readDate (cs : List Char) : Option Date := do
  let (year, rest) ← take? 4 cs
  let hyphens := rest.head? == some '-'
  let rest := if hyphens then rest.drop 1 else rest
  match rest with
  | 'W' :: rest =>
    let (week, rest) ← take? 2 rest
    if rest.isEmpty then Date.ofWeek? year week 1
    else
      let (day, _) ← take? 1 (← skipHyphen? hyphens rest)
      Date.ofWeek? year week day
  | _ =>
    let (month, rest) ← take? 2 rest
    let (day, _) ← take? 2 (← skipHyphen? hyphens rest)
    Date.ofParts? year month day

/-- The date of a text that takes up as many bytes as a date can. What is left over of it is passed
over. -/
def Date.read? (text : String) : Option Date :=
  if text.utf8ByteSize ∈ [7, 8, 10] then readDate text.toList else none

/-! ## Times -/

/-- An hour with minutes, seconds and microseconds as far as they are given. -/
structure Parts where
  hour : Nat
  minute : Nat := 0
  second : Nat := 0
  micro : Nat := 0

/-- The microseconds that a fraction of a second writes in up to six digits, and the text after all
its digits. -/
def readFraction (cs : List Char) : Option (Nat × List Char) := do
  let micro ← number? (cs.take 6 ++ List.replicate (6 - cs.length) '0')
  return (micro, (cs.drop 6).dropWhile Char.isDigit)

/-- The parts with a fraction of a second added, and what is left over. -/
def withFraction (parts : Parts) (cs : List Char) : Option (Parts × List Char) :=
  (readFraction cs).map fun (micro, rest) => ({ parts with micro }, rest)

/-- The parts of a time from the given ones on, each put in its place by the first of the setters,
and what is left over. After a part comes a colon, where the time has colons, and after the last
one a fraction, with its point or with a colon more. A single character after a part is left over.
-/
def readPartsFrom (colons? : Option Bool) (parts : Parts) :
    List (Parts → Nat → Parts) → List Char → Option (Parts × List Char)
  | [], cs => withFraction parts cs
  | set :: setters, cs => do
    let (value, rest) ← take? 2 cs
    let parts := set parts value
    let colons := colons?.getD (rest.head? == some ':')
    match rest with
    | [] => return (parts, [])
    | [c] => return (parts, [c])
    | c :: rest =>
      if colons ∧ c = ':' then readPartsFrom (some colons) parts setters rest
      else if c = '.' ∨ c = ',' then withFraction parts rest
      else if colons then none
      else readPartsFrom (some colons) parts setters (c :: rest)

/-- The parts of a time, and what is left over. -/
def readParts (cs : List Char) : Option (Parts × List Char) :=
  readPartsFrom none { hour := 0 }
    [fun p hour => { p with hour }, fun p minute => { p with minute },
     fun p second => { p with second }] cs

/-- The distance from universal time that a text is. Less than a second counts as none. -/
def readOffset : List Char → Option Offset
  | ['Z'] => Offset.ofMicros? 0
  | sign :: rest => do
    if sign ≠ '+' ∧ sign ≠ '-' then none
    let (p, left) ← readParts rest
    if !left.isEmpty then none
    let seconds := (p.hour * 60 + p.minute) * 60 + p.second
    let micros : Nat := if seconds = 0 then 0 else seconds * microsPerSecond + p.micro
    Offset.ofMicros? (if sign = '-' then -(micros : Int) else micros)
  | [] => none

/-- A time of the day, and the distance from universal time if it is given. What is left over of the
time is passed over where the distance follows. -/
def readClock (cs : List Char) : Option (Clock × Option Offset) := do
  let isMark (c : Char) : Bool := c == '+' || c == '-' || c == 'Z'
  let (p, left) ← readParts (cs.takeWhile (!isMark ·))
  let clock ← Clock.ofParts? p.hour p.minute p.second p.micro
  match cs.dropWhile (!isMark ·) with
  | [] => if left.isEmpty then some (clock, none) else none
  | rest => return (clock, some (← readOffset rest))

/-- Where the date ends in a text of at least seven characters that begins with one. -/
def dateLength (cs : List Char) : Nat :=
  let at? (i : Nat) : Option Char := cs[i]?
  if cs.length = 7 then 7
  else if at? 4 = some '-' then
    if at? 5 = some 'W' ∧ at? 8 ≠ some '-' then 8
    else if at? 5 = some 'W' ∧ (at? 10).any Char.isDigit then 8
    else 10
  else if at? 4 = some 'W' then
    let stop := 7 + ((cs.drop 7).takeWhile Char.isDigit).length
    if stop < 9 then stop else if stop % 2 = 0 then 7 else 8
  else 8

/-- The time that a text is. -/
def DateTime.read? (text : String) : Option DateTime := do
  let cs := text.toList
  if cs.length < 7 then none
  let stop := dateLength cs
  let date ← readDate (cs.take stop)
  match cs.drop stop with
  | [] => return { date, clock := default }
  | _ :: rest =>
    let (clock, offset?) ← readClock rest
    return { date, clock, offset? }

end QueryShape.Time
