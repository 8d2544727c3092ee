import ApiSurface.Text.Utf8

/-!
Unpacking of deflate streams.  A stream is read as a list of bits.  It ends with its last block;
what follows is not looked at.  A stream that stops short of that, or that no packer could have
written, gives what was unpacked up to there.
-/

namespace ApiSurface

namespace Deflate

abbrev Bits := List Bool

inductive Ending where
  | complete
  | truncated
  | corrupt
deriving DecidableEq, Repr

def byteBits (byte : UInt8) : Bits :=
  (List.range 8).map fun place => byte.toNat.testBit place

/-- What is left of a stream, how many bits were taken from it, what they unpacked to, and how much
of that was there when the stream last had to be asked for more of itself. -/
structure Progress where
  bits : Bits
  taken : Nat
  output : Array UInt8
  settled : Nat

abbrev Reader := EStateM Ending Progress

/-- A stream comes in portions of this many bits. -/
def portionBits : Nat :=
  8 * 32768

def bit : Reader Bool := fun progress =>
  match progress.bits with
  | [] => .error .truncated progress
  | first :: rest =>
      let begins := progress.taken % portionBits = 0
      let settled := if begins then progress.output.size else progress.settled
      .ok first { progress with bits := rest, taken := progress.taken + 1, settled }

def number : Nat → Reader Nat
  | 0 => pure 0
  | width + 1 => do
      let lowest ← bit
      let upper ← number width
      pure (2 * upper + lowest.toNat)

def write (byte : UInt8) : Reader Unit :=
  modify fun progress => { progress with output := progress.output.push byte }

/-- A canonical code: how many code words there are of each length from 1 to 15, and the symbols
in the order of their code words. -/
structure Code where
  counts : List Nat
  symbols : Array Nat

def longestWord : Nat :=
  15

def codeOfLengths (lengths : List Nat) : Code :=
  let used := lengths.zipIdx.filter fun entry => entry.1 ≠ 0
  { counts := (List.range longestWord).map fun place => lengths.count (place + 1)
    symbols := ((used.mergeSort fun left right => left.1 ≤ right.1).map Prod.snd).toArray }

def Code.isExact (code : Code) : Bool :=
  code.counts.foldl (fun total count => 2 * total + count) 0 = 1 <<< longestWord

/-- A code of one word of one bit, or of none, leaves sequences unused and is accepted all the
same. -/
def Code.isUsable (code : Code) : Bool :=
  code.symbols.isEmpty || (code.symbols.size = 1 && code.counts.head? = some 1) || code.isExact

def decodeFrom (symbols : Array Nat) : List Nat → Nat → Nat → Nat → Reader Nat
  | [], _, _, _ => throw .corrupt
  | count :: longer, word, first, index => do
      let word := word + (← bit).toNat
      if word < first + count then
        match symbols[index + (word - first)]? with
        | some symbol => pure symbol
        | none => throw .corrupt
      else if symbols.size ≤ index + count then throw .corrupt
      else decodeFrom symbols longer (2 * word) (2 * (first + count)) (index + count)

def Code.decode (code : Code) : Reader Nat :=
  decodeFrom code.symbols code.counts 0 0 0

def fixedLiterals : Code :=
  codeOfLengths (List.replicate 144 8 ++ List.replicate 112 9 ++ List.replicate 24 7
    ++ List.replicate 8 8)

def fixedDistances : Code :=
  codeOfLengths (List.replicate 32 5)

/-- The shortest length that each length symbol stands for, and the width of what is added. -/
def lengthSteps : Array (Nat × Nat) := #[
  (3, 0), (4, 0), (5, 0), (6, 0), (7, 0), (8, 0), (9, 0), (10, 0), (11, 1), (13, 1), (15, 1),
  (17, 1), (19, 2), (23, 2), (27, 2), (31, 2), (35, 3), (43, 3), (51, 3), (59, 3), (67, 4),
  (83, 4), (99, 4), (115, 4), (131, 5), (163, 5), (195, 5), (227, 5), (258, 0)]

def distanceSteps : Array (Nat × Nat) := #[
  (1, 0), (2, 0), (3, 0), (4, 0), (5, 1), (7, 1), (9, 2), (13, 2), (17, 3), (25, 3), (33, 4),
  (49, 4), (65, 5), (97, 5), (129, 6), (193, 6), (257, 7), (385, 7), (513, 8), (769, 8),
  (1025, 9), (1537, 9), (2049, 10), (3073, 10), (4097, 11), (6145, 11), (8193, 12), (12289, 12),
  (16385, 13), (24577, 13)]

def lengthOrder : List Nat :=
  [16, 17, 18, 0, 8, 7, 9, 6, 10, 5, 11, 4, 12, 3, 13, 2, 14, 1, 15]

def amount (table : Array (Nat × Nat)) (symbol : Nat) : Reader Nat :=
  match table[symbol]? with
  | none => throw .corrupt
  | some (base, width) => do
      let extra ← number width
      pure (base + extra)

/-- Repeats what stands `distance` back, byte by byte.  In front of the first byte there are
zeros. -/
def repeatBack (distance : Nat) : Nat → Reader Unit
  | 0 => pure ()
  | count + 1 => do
      modify fun progress =>
        let size := progress.output.size
        let byte := if distance ≤ size then progress.output.getD (size - distance) 0 else 0
        { progress with output := progress.output.push byte }
      repeatBack distance count

def symbols (literals distances : Code) : Nat → Reader Unit
  | 0 => throw .truncated
  | fuel + 1 => do
      let symbol ← literals.decode
      if symbol < 256 then
        write (UInt8.ofNat symbol)
        symbols literals distances fuel
      else if symbol = 256 then pure ()
      else
        let length ← amount lengthSteps (symbol - 257)
        let distance ← amount distanceSteps (← distances.decode)
        repeatBack distance length
        symbols literals distances fuel

def copyBytes : Nat → Reader Unit
  | 0 => pure ()
  | count + 1 => do
      write (UInt8.ofNat (← number 8))
      copyBytes count

def align : Reader Unit := do
  let progress ← get
  let _ ← number ((8 - progress.taken % 8) % 8)

/-- A block of plain bytes starts at a byte boundary with its length and the complement of it. -/
def plainBlock : Reader Unit := do
  align
  let length ← number 16
  let complement ← number 16
  if length + complement = 0xFFFF then copyBytes length else throw .corrupt

def numbers (width : Nat) : Nat → Reader (List Nat)
  | 0 => pure []
  | count + 1 => do
      let first ← number width
      let others ← numbers width count
      pure (first :: others)

/-- Reads code lengths until there are `total`.  Symbols from 16 on repeat the length before or a
zero. -/
def codeLengths (code : Code) (total : Nat) : Nat → Array Nat → Reader (Array Nat)
  | 0, _ => throw .truncated
  | fuel + 1, lengths => do
      if total ≤ lengths.size then
        if lengths.size = total then pure lengths else throw .corrupt
      else
        let symbol ← code.decode
        if symbol < 16 then codeLengths code total fuel (lengths.push symbol)
        else if symbol = 16 then
          match lengths.back? with
          | none => throw .corrupt
          | some last =>
              let extra ← number 2
              codeLengths code total fuel (lengths ++ Array.replicate (3 + extra) last)
        else
          let least := if symbol = 17 then 3 else 11
          let extra ← number (if symbol = 17 then 3 else 7)
          codeLengths code total fuel (lengths ++ Array.replicate (least + extra) 0)

def mostLiterals : Nat := 286

def mostDistances : Nat := 30

/-- Reads the codes that a block brings along: first a code for code lengths, then with it the
lengths for the other two. -/
def ownCodes : Reader (Code × Code) := do
  let literalCount := (← number 5) + 257
  let distanceCount := (← number 5) + 1
  let lengthCount := (← number 4) + 4
  if mostLiterals < literalCount || mostDistances < distanceCount then throw .corrupt
  let given ← numbers 3 lengthCount
  let lengthOf (symbol : Nat) : Nat := ((lengthOrder.zip given).lookup symbol).getD 0
  let lengthCode := codeOfLengths ((List.range 19).map lengthOf)
  if !lengthCode.isExact then throw .corrupt
  let total := literalCount + distanceCount
  let lengths ← codeLengths lengthCode total (total + 1) #[]
  let literals := codeOfLengths (lengths.toList.take literalCount)
  let distances := codeOfLengths (lengths.toList.drop literalCount)
  if literals.isUsable && distances.isUsable then pure (literals, distances)
  else throw .corrupt

def block (kind : Nat) : Reader Unit := do
  if kind = 0 then plainBlock
  else if kind = 1 then
    let progress ← get
    symbols fixedLiterals fixedDistances (progress.bits.length + 1)
  else if kind = 2 then
    let (literals, distances) ← ownCodes
    let progress ← get
    symbols literals distances (progress.bits.length + 1)
  else throw .corrupt

def blocks : Nat → Reader Unit
  | 0 => throw .truncated
  | fuel + 1 => do
      let last ← number 1
      block (← number 2)
      if last = 1 then pure () else blocks fuel

def windowSize : Nat :=
  32768

/-- How much of what was unpacked had been handed on when the stream proved corrupt.  A window is
handed on once a byte behind it is there, and everything when the stream asks for its next
portion. -/
def Progress.handedOn (progress : Progress) : Nat :=
  max progress.settled ((progress.output.size - 1) / windowSize * windowSize)

/-- Unpacks a stream. -/
def unpack (packed : Bytes) : Bytes × Ending :=
  let bits := packed.flatMap byteBits
  match blocks (bits.length + 1) ⟨bits, 0, #[], 0⟩ with
  | .ok () progress => (progress.output.toList, .complete)
  | .error .corrupt progress => (progress.output.toList.take progress.handedOn, .corrupt)
  | .error ending progress => (progress.output.toList, ending)

end Deflate

end ApiSurface
