import QueryShape.Files.Inflate

/-!
# Archives

An archive has its members one after the other, a directory of them, and a record at its end that
says where the directory is. `membersIn?` gives the members by the paths that the directory has for
them; the path of a folder ends in a slash.
-/

namespace QueryShape.Files.Archive

/-- The number that so many bytes write from a place on, the lowest first. -/
def number? (bytes : ByteArray) (place : Nat) : (width : Nat) → Option Nat
  | 0 => some 0
  | width + 1 => do
    return (← bytes[place]?).toNat + 256 * (← number? bytes (place + 1) width)

/-- The number that a record of the directory begins with. -/
def directoryMark : Nat := 0x02014B50

/-- The number that the record at the end begins with. -/
def endMark : Nat := 0x06054B50

/-- The size of the record at the end, without what follows it. -/
def endSize : Nat := 22

/-- The place of the record at the end, looked for from a place back. -/
def endPlace? (bytes : ByteArray) : (place : Nat) → Option Nat
  | 0 => if number? bytes 0 4 = some endMark then some 0 else none
  | place + 1 =>
    if number? bytes (place + 1) 4 = some endMark then some (place + 1)
    else endPlace? bytes place

/-- The bytes of a member whose own record is at a place. -/
def memberBytes? (bytes : ByteArray) (place method size : Nat) : Option ByteArray := do
  let start := place + 30 + (← number? bytes (place + 26) 2) + (← number? bytes (place + 28) 2)
  let packed := bytes.extract start (start + size)
  if packed.size ≠ size then none
  match method with
  | 0 => some packed
  | 8 => Inflate.inflate? packed
  | _ => none

/-- So many members from a record of the directory on, each with its text if it has one. -/
def membersFrom? (bytes : ByteArray) (place : Nat) :
    (count : Nat) → Option (List (String × Option String))
  | 0 => some []
  | count + 1 => do
    if (← number? bytes place 4) ≠ directoryMark then none
    let nameSize ← number? bytes (place + 28) 2
    let others := (← number? bytes (place + 30) 2) + (← number? bytes (place + 32) 2)
    let name ← String.fromUTF8? (bytes.extract (place + 46) (place + 46 + nameSize))
    let content ← memberBytes? bytes (← number? bytes (place + 42) 4)
      (← number? bytes (place + 10) 2) (← number? bytes (place + 20) 4)
    return (name, String.fromUTF8? content) ::
      (← membersFrom? bytes (place + 46 + nameSize + others) count)

/-- The members of an archive. -/
def membersIn? (bytes : ByteArray) : Option (List (String × Option String)) := do
  if bytes.size < endSize then none
  let place ← endPlace? bytes (bytes.size - endSize)
  membersFrom? bytes (← number? bytes (place + 16) 4) (← number? bytes (place + 10) 2)

end QueryShape.Files.Archive
