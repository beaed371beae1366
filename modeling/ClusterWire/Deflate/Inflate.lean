import ClusterWire.Deflate.Code

/-! Raw deflate streams (stored, fixed and dynamic blocks). Bytes behind the
final block are ignored. -/
namespace ClusterWire.Deflate

structure Codes where
  literals : Code
  distances : Code

def fixedCodes : Codes where
  literals := .ofLengths (List.replicate 144 8 ++ List.replicate 112 9
    ++ List.replicate 24 7 ++ List.replicate 8 8)
  distances := .ofLengths (List.replicate 32 5)

/-- The base of each length symbol from 257 on, and its number of extra bits. -/
def lengthTable : List (Nat × Nat) :=
  [(3, 0), (4, 0), (5, 0), (6, 0), (7, 0), (8, 0), (9, 0), (10, 0), (11, 1), (13, 1),
   (15, 1), (17, 1), (19, 2), (23, 2), (27, 2), (31, 2), (35, 3), (43, 3), (51, 3),
   (59, 3), (67, 4), (83, 4), (99, 4), (115, 4), (131, 5), (163, 5), (195, 5),
   (227, 5), (258, 0)]

def distanceTable : List (Nat × Nat) :=
  [(1, 0), (2, 0), (3, 0), (4, 0), (5, 1), (7, 1), (9, 2), (13, 2), (17, 3), (25, 3),
   (33, 4), (49, 4), (65, 5), (97, 5), (129, 6), (193, 6), (257, 7), (385, 7),
   (513, 8), (769, 8), (1025, 9), (1537, 9), (2049, 10), (3073, 10), (4097, 11),
   (6145, 11), (8193, 12), (12289, 12), (16385, 13), (24577, 13)]

def readExtra (table : List (Nat × Nat)) (symbol : Nat) (bits : Bits) :
    Except Fault (Nat × Bits) :=
  match table[symbol]? with
  | none => .error .corrupt
  | some (base, extra) => do
    let (n, bits) ← take extra bits
    return (base + n, bits)

/-- The byte written `distance` bytes ago. Zeros count as written in front of
the first byte. -/
def back (distance : Nat) (out : Array UInt8) : UInt8 :=
  if distance ≤ out.size then out.getD (out.size - distance) 0 else 0

def copy (distance : Nat) : Nat → Array UInt8 → Array UInt8
  | 0, out => out
  | n + 1, out => copy distance n (out.push (back distance out))

def readSymbols (codes : Codes) : Nat → Array UInt8 → Bits → Except Fault (Array UInt8 × Bits)
  | 0, _, _ => .error .incomplete
  | fuel + 1, out, bits => do
    let (symbol, bits) ← codes.literals.read bits
    if symbol < 256 then readSymbols codes fuel (out.push (UInt8.ofNat symbol)) bits
    else if symbol = 256 then return (out, bits)
    else
      let (length, bits) ← readExtra lengthTable (symbol - 257) bits
      let (symbol, bits) ← codes.distances.read bits
      let (distance, bits) ← readExtra distanceTable symbol bits
      readSymbols codes fuel (copy distance length out) bits

def lengthOrder : List Nat := [16, 17, 18, 0, 8, 7, 9, 6, 10, 5, 11, 4, 12, 3, 13, 2, 14, 1, 15]

def readLengthLengths : Nat → Bits → Except Fault (List Nat × Bits)
  | 0, bits => .ok ([], bits)
  | n + 1, bits => do
    let (l, bits) ← take 3 bits
    let (ls, bits) ← readLengthLengths n bits
    return (l :: ls, bits)

/-- Code lengths up to `total` of them, in reverse; symbols 16 to 18 repeat. -/
def readLengths (code : Code) (total : Nat) : Nat → List Nat → Bits →
    Except Fault (List Nat × Bits)
  | 0, _, _ => .error .incomplete
  | fuel + 1, done, bits =>
    if done.length = total then .ok (done, bits)
    else if total < done.length then .error .corrupt
    else do
      let (symbol, bits) ← code.read bits
      if symbol < 16 then readLengths code total fuel (symbol :: done) bits
      else if symbol = 16 then
        match done with
        | [] => .error .corrupt
        | last :: _ =>
          let (n, bits) ← take 2 bits
          readLengths code total fuel (List.replicate (n + 3) last ++ done) bits
      else if symbol = 17 then
        let (n, bits) ← take 3 bits
        readLengths code total fuel (List.replicate (n + 3) 0 ++ done) bits
      else
        let (n, bits) ← take 7 bits
        readLengths code total fuel (List.replicate (n + 11) 0 ++ done) bits

def checked (c : Code) : Except Fault Code := if c.isSound then .ok c else .error .corrupt

/-- The codes at the head of a dynamic block. The code for their lengths must
be full. -/
def readCodes (bits : Bits) : Except Fault (Codes × Bits) := do
  let (l, bits) ← take 5 bits
  let (d, bits) ← take 5 bits
  let (n, bits) ← take 4 bits
  let literals := l + 257
  let distances := d + 1
  if 286 < literals ∨ 30 < distances then .error .corrupt
  let (given, bits) ← readLengthLengths (n + 4) bits
  let lengths := (List.range 19).map fun s => ((lengthOrder.zip given).lookup s).getD 0
  let code := Code.ofLengths lengths
  if !code.isFull then .error .corrupt
  let (reversed, bits) ← readLengths code (literals + distances) (literals + distances + 1) [] bits
  let lengths := reversed.reverse
  let literalCode ← checked (.ofLengths (lengths.take literals))
  let distanceCode ← checked (.ofLengths (lengths.drop literals))
  return (⟨literalCode, distanceCode⟩, bits)

def readBytes : Nat → Array UInt8 → Bits → Except Fault (Array UInt8 × Bits)
  | 0, out, bits => .ok (out, bits)
  | n + 1, out, bits => do
    let (b, bits) ← take 8 bits
    readBytes n (out.push (UInt8.ofNat b)) bits

/-- A stored block starts at a byte boundary; `bits.length % 8` bits of the
current byte are left. -/
def readStored (out : Array UInt8) (bits : Bits) : Except Fault (Array UInt8 × Bits) := do
  let bits := bits.drop (bits.length % 8)
  let (length, bits) ← take 16 bits
  let (complement, bits) ← take 16 bits
  if length + complement ≠ 0xFFFF then .error .corrupt
  readBytes length out bits

def readBlock (kind : Nat) (out : Array UInt8) (bits : Bits) : Except Fault (Array UInt8 × Bits) :=
  match kind with
  | 0 => readStored out bits
  | 1 => readSymbols fixedCodes (bits.length + 1) out bits
  | 2 => do
    let (codes, bits) ← readCodes bits
    readSymbols codes (bits.length + 1) out bits
  | _ => .error .corrupt

/-- Blocks up to the final one; each takes at least three bits. -/
def readBlocks : Nat → Array UInt8 → Bits → Except Fault (Array UInt8)
  | 0, _, _ => .error .incomplete
  | fuel + 1, out, bits => do
    let (final, bits) ← take 1 bits
    let (kind, bits) ← take 2 bits
    let (out, bits) ← readBlock kind out bits
    if final = 1 then return out else readBlocks fuel out bits

def inflate (bs : Bytes) : Except Fault Bytes :=
  (readBlocks (bs.length * 8 + 1) #[] (bitsOf bs)).map Array.toList

end ClusterWire.Deflate
