/-!
# Deflated bytes

Deflated bytes are a string of bits, the lowest of a byte first, in blocks. A block has bytes as
they are, or symbols in a prefix code: a byte each, the end of the block, or a length, after which
comes the distance back to where so many bytes are copied from.

`inflate?` gives the bytes that are meant. Every step takes a bit at least, so there are no more
steps than bits.
-/

namespace QueryShape.Files.Inflate

/-- Reads from bytes, from a number of bits on. -/
abbrev Reader := ReaderT ByteArray (StateT Nat Option)

/-! ## Bits -/

/-- The next bit. -/
def bit : Reader Nat := do
  let place ← get
  let byte ← (← read)[place / 8]?.elim failure pure
  set (place + 1)
  return byte.toNat / Nat.pow 2 (place % 8) % 2

/-- The number that the next bits write, the lowest first. -/
def bits : (count : Nat) → Reader Nat
  | 0 => return 0
  | count + 1 => do return (← bit) + 2 * (← bits count)

/-! ## Prefix codes -/

/-- A prefix code: how many symbols have codes of each length from one on, and the symbols in the
order of their codes. -/
structure Code where
  counts : List Nat
  symbols : Array Nat

/-- The longest length of a code. -/
def longest : Nat := 15

/-- The code in which the symbols from zero on have codes of the lengths; zero is for none. -/
def Code.ofLengths (lengths : List Nat) : Code :=
  let ofLength (n : Nat) : List Nat :=
    lengths.zipIdx.filterMap fun (length, symbol) => if length = n then some symbol else none
  let groups := (List.range longest).map fun n => ofLength (n + 1)
  { counts := groups.map List.length, symbols := groups.flatten.toArray }

/-- The next symbol in a code. So far `code` has been read, `first` is the least code of the
length, and `index` symbols have shorter ones. -/
def symbolFrom (symbols : Array Nat) (code first index : Nat) : List Nat → Reader Nat
  | [] => failure
  | count :: counts => do
    let code := 2 * code + (← bit)
    if code < first + count then symbols[index + (code - first)]?.elim failure pure
    else symbolFrom symbols code (2 * (first + count)) (index + count) counts

/-- The next symbol in a code. -/
def Code.symbol (c : Code) : Reader Nat := symbolFrom c.symbols 0 0 0 c.counts

/-! ## Blocks -/

/-- The least length, or distance, of each symbol with so many bits after it. -/
def steps (start : Nat) : (bits : List Nat) → List (Nat × Nat)
  | [] => []
  | n :: rest => (start, n) :: steps (start + Nat.pow 2 n) rest

/-- The lengths by symbol. The last stands for the greatest length alone. -/
def lengthSteps : Array (Nat × Nat) :=
  ((steps 3 [0, 0, 0, 0, 0, 0, 0, 0, 1, 1, 1, 1, 2, 2, 2, 2, 3, 3, 3, 3, 4, 4, 4, 4, 5, 5, 5, 5]) ++
    [(258, 0)]).toArray

/-- The distances by symbol. -/
def distanceSteps : Array (Nat × Nat) :=
  (steps 1 ([0, 0] ++ (List.range 14).flatMap fun n => [n, n])).toArray

/-- The number that a symbol stands for with the bits after it. -/
def stepValue (table : Array (Nat × Nat)) (symbol : Nat) : Reader Nat := do
  let (start, count) ← table[symbol]?.elim failure pure
  return start + (← bits count)

/-- Bytes with as many of them again, from a distance back on. -/
def copy (distance : Nat) : (count : Nat) → ByteArray → Option ByteArray
  | 0, out => some out
  | count + 1, out => do
    if distance = 0 ∨ out.size < distance then none
    copy distance count (out.push (← out[out.size - distance]?))

/-- The bytes after those of a block in two codes. -/
def codedBlock (literals distances : Code) : (limit : Nat) → ByteArray → Reader ByteArray
  | 0, _ => failure
  | limit + 1, out => do
    let symbol ← literals.symbol
    if symbol < 256 then codedBlock literals distances limit (out.push (.ofNat symbol))
    else if symbol = 256 then return out
    else
      let length ← stepValue lengthSteps (symbol - 257)
      let distance ← stepValue distanceSteps (← distances.symbol)
      codedBlock literals distances limit (← (copy distance length out).elim failure pure)

/-- So many bytes as they are. -/
def plainBytes : (count : Nat) → ByteArray → Reader ByteArray
  | 0, out => return out
  | count + 1, out => do plainBytes count (out.push (.ofNat (← bits 8)))

/-- The bytes after those of a block without a code, which begins with a whole byte. -/
def plainBlock (out : ByteArray) : Reader ByteArray := do
  modify fun place => (place + 7) / 8 * 8
  let size ← bits 16
  let _ ← bits 16
  plainBytes size out

/-- The codes of a block that does not give its own. -/
def fixedCodes : Code × Code :=
  (.ofLengths (List.replicate 144 8 ++ List.replicate 112 9 ++ List.replicate 24 7 ++
      List.replicate 8 8),
    .ofLengths (List.replicate 30 5))

/-- The order in which a block gives the lengths of the codes that its lengths are in. -/
def lengthOrder : List Nat := [16, 17, 18, 0, 8, 7, 9, 6, 10, 5, 11, 4, 12, 3, 13, 2, 14, 1, 15]

/-- Lengths up to a number of them. Symbols from sixteen on repeat the last, or zero. The lengths
so far come last first. -/
def codeLengths (c : Code) (count : Nat) : (limit : Nat) → List Nat → Reader (List Nat)
  | 0, _ => failure
  | limit + 1, lengths => do
    if count ≤ lengths.length then return lengths.reverse
    match ← c.symbol with
    | 16 =>
      let n := 3 + (← bits 2)
      let last ← lengths.head?.elim failure pure
      codeLengths c count limit (List.replicate n last ++ lengths)
    | 17 =>
      let n := 3 + (← bits 3)
      codeLengths c count limit (List.replicate n 0 ++ lengths)
    | 18 =>
      let n := 11 + (← bits 7)
      codeLengths c count limit (List.replicate n 0 ++ lengths)
    | length => codeLengths c count limit (length :: lengths)

/-- The codes that a block gives. -/
def ownCodes : Reader (Code × Code) := do
  let literals := 257 + (← bits 5)
  let distances := 1 + (← bits 5)
  let given ← (lengthOrder.take (4 + (← bits 4))).mapM fun symbol => return (symbol, ← bits 3)
  let lengths := (List.range 19).map fun symbol => (given.lookup symbol).getD 0
  let all ← codeLengths (.ofLengths lengths) (literals + distances) (literals + distances + 1) []
  return (.ofLengths (all.take literals), .ofLengths (all.drop literals))

/-- The bytes after those of the blocks from here on. -/
def blocks : (limit : Nat) → ByteArray → Reader ByteArray
  | 0, _ => failure
  | limit + 1, out => do
    let isLast := (← bit) == 1
    let out ← match ← bits 2 with
      | 0 => plainBlock out
      | 1 => codedBlock fixedCodes.1 fixedCodes.2 limit out
      | 2 =>
        let codes ← ownCodes
        codedBlock codes.1 codes.2 limit out
      | _ => failure
    if isLast then return out else blocks limit out

/-- The bytes that deflated bytes mean. -/
def inflate? (bytes : ByteArray) : Option ByteArray :=
  ((blocks (8 * bytes.size + 1) .empty).run bytes).run' 0

end QueryShape.Files.Inflate
