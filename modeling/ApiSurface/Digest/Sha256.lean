import ApiSurface.Text.Utf8

namespace ApiSurface

namespace Sha256

def roundConstants : Array UInt32 := #[
  0x428a2f98, 0x71374491, 0xb5c0fbcf, 0xe9b5dba5, 0x3956c25b, 0x59f111f1, 0x923f82a4, 0xab1c5ed5,
  0xd807aa98, 0x12835b01, 0x243185be, 0x550c7dc3, 0x72be5d74, 0x80deb1fe, 0x9bdc06a7, 0xc19bf174,
  0xe49b69c1, 0xefbe4786, 0x0fc19dc6, 0x240ca1cc, 0x2de92c6f, 0x4a7484aa, 0x5cb0a9dc, 0x76f988da,
  0x983e5152, 0xa831c66d, 0xb00327c8, 0xbf597fc7, 0xc6e00bf3, 0xd5a79147, 0x06ca6351, 0x14292967,
  0x27b70a85, 0x2e1b2138, 0x4d2c6dfc, 0x53380d13, 0x650a7354, 0x766a0abb, 0x81c2c92e, 0x92722c85,
  0xa2bfe8a1, 0xa81a664b, 0xc24b8b70, 0xc76c51a3, 0xd192e819, 0xd6990624, 0xf40e3585, 0x106aa070,
  0x19a4c116, 0x1e376c08, 0x2748774c, 0x34b0bcb5, 0x391c0cb3, 0x4ed8aa4a, 0x5b9cca4f, 0x682e6ff3,
  0x748f82ee, 0x78a5636f, 0x84c87814, 0x8cc70208, 0x90befffa, 0xa4506ceb, 0xbef9a3f7, 0xc67178f2]

structure State where
  a : UInt32
  b : UInt32
  c : UInt32
  d : UInt32
  e : UInt32
  f : UInt32
  g : UInt32
  h : UInt32

def State.initial : State :=
  ⟨0x6a09e667, 0xbb67ae85, 0x3c6ef372, 0xa54ff53a, 0x510e527f, 0x9b05688c, 0x1f83d9ab,
    0x5be0cd19⟩

def State.add (left right : State) : State :=
  ⟨left.a + right.a, left.b + right.b, left.c + right.c, left.d + right.d, left.e + right.e,
    left.f + right.f, left.g + right.g, left.h + right.h⟩

def State.words (state : State) : List UInt32 :=
  [state.a, state.b, state.c, state.d, state.e, state.f, state.g, state.h]

def rotateRight (word amount : UInt32) : UInt32 :=
  (word >>> amount) ||| (word <<< (32 - amount))

def wordBytes (word : UInt32) : Bytes :=
  [(word >>> 24).toUInt8, (word >>> 16).toUInt8, (word >>> 8).toUInt8, word.toUInt8]

def wordsOf : Bytes → List UInt32
  | p :: q :: r :: s :: rest =>
      ((p.toUInt32 <<< 24) ||| (q.toUInt32 <<< 16) ||| (r.toUInt32 <<< 8) ||| s.toUInt32)
        :: wordsOf rest
  | _ => []

/-- A one bit, then zeros up to 8 bytes short of a multiple of 64, then the length in bits. -/
def padding (length : Nat) : Bytes :=
  let zeros := (119 - length % 64) % 64
  let bits := length * 8
  let size : Bytes := (List.range 8).map fun place => UInt8.ofNat (bits >>> (8 * (7 - place)))
  0x80 :: List.replicate zeros 0 ++ size

/-- The sixteen words of a block, followed by the forty-eight that are mixed from them. -/
def schedule (block : List UInt32) : Array UInt32 :=
  (List.range 48).foldl
    (fun words place =>
      let early := words.getD (place + 1) 0
      let late := words.getD (place + 14) 0
      let mixedEarly := rotateRight early 7 ^^^ rotateRight early 18 ^^^ (early >>> 3)
      let mixedLate := rotateRight late 17 ^^^ rotateRight late 19 ^^^ (late >>> 10)
      words.push (words.getD place 0 + mixedEarly + words.getD (place + 9) 0 + mixedLate))
    block.toArray

def round (state : State) (constant word : UInt32) : State :=
  let sumE := rotateRight state.e 6 ^^^ rotateRight state.e 11 ^^^ rotateRight state.e 25
  let choice := (state.e &&& state.f) ^^^ (~~~state.e &&& state.g)
  let first := state.h + sumE + choice + constant + word
  let sumA := rotateRight state.a 2 ^^^ rotateRight state.a 13 ^^^ rotateRight state.a 22
  let majority := (state.a &&& state.b) ^^^ (state.a &&& state.c) ^^^ (state.b &&& state.c)
  ⟨first + (sumA + majority), state.a, state.b, state.c, state.d + first, state.e, state.f,
    state.g⟩

def compress (state : State) (block : List UInt32) : State :=
  let words := schedule block
  let mixed := (List.range 64).foldl
    (fun current place =>
      round current (roundConstants.getD place 0) (words.getD place 0))
    state
  state.add mixed

def absorb : Nat → State → List UInt32 → State
  | 0, state, _ => state
  | blocks + 1, state, words => absorb blocks (compress state (words.take 16)) (words.drop 16)

def digest (bytes : Bytes) : Bytes :=
  let words := wordsOf (bytes ++ padding bytes.length)
  (absorb (words.length / 16) .initial words).words.flatMap wordBytes

end Sha256

end ApiSurface
