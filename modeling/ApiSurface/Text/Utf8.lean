import ApiSurface.Text.Basic

/-!
UTF-8 in both directions.  Reading scans the bytes into characters and invalid parts, where an
invalid part is as long as some character's encoding begins with it, and one byte at least.
-/

namespace ApiSurface

abbrev Bytes := List UInt8

namespace Utf8

def encode (text : Text) : Bytes :=
  text.flatMap String.utf8EncodeChar

def isBetween (low high : Nat) (byte : UInt8) : Bool :=
  low ≤ byte.toNat && byte.toNat ≤ high

/-- Every byte of a character but the first lies in this range. -/
def isContinuation (byte : UInt8) : Bool :=
  isBetween 0x80 0xBF byte

/-- Which second bytes may follow a first byte.  The narrower ranges keep out encodings that are
too long, surrogates, and numbers above the last character. -/
def isSecond (first second : UInt8) : Bool :=
  if first = 0xE0 then isBetween 0xA0 0xBF second
  else if first = 0xED then isBetween 0x80 0x9F second
  else if first = 0xF0 then isBetween 0x90 0xBF second
  else if first = 0xF4 then isBetween 0x80 0x8F second
  else isContinuation second

/-- The character whose number has these base 64 digits, the highest first. -/
def assemble (digits : List Nat) : Char :=
  Char.ofNat (digits.foldl (fun number digit => number * 64 + digit) 0)

def payload (byte : UInt8) : Nat :=
  byte.toNat - 0x80

/-- Reads one character off the front: the character, or `none` for an invalid part, and how many
bytes behind the first belong to it. -/
def readFirst (first : UInt8) (rest : Bytes) : Option Char × Nat :=
  if isBetween 0x00 0x7F first then (some (Char.ofNat first.toNat), 0)
  else if isBetween 0xC2 0xDF first then
    match rest with
    | second :: _ =>
        if isSecond first second then
          (some (assemble [first.toNat - 0xC0, payload second]), 1)
        else (none, 0)
    | [] => (none, 0)
  else if isBetween 0xE0 0xEF first then
    match rest with
    | second :: third :: _ =>
        if isSecond first second then
          if isContinuation third then
            (some (assemble [first.toNat - 0xE0, payload second, payload third]), 2)
          else (none, 1)
        else (none, 0)
    | [second] => (none, if isSecond first second then 1 else 0)
    | [] => (none, 0)
  else if isBetween 0xF0 0xF4 first then
    match rest with
    | second :: third :: fourth :: _ =>
        if isSecond first second then
          if isContinuation third then
            if isContinuation fourth then
              (some (assemble [first.toNat - 0xF0, payload second, payload third,
                payload fourth]), 3)
            else (none, 2)
          else (none, 1)
        else (none, 0)
    | [second, third] =>
        (none, if isSecond first second then if isContinuation third then 2 else 1 else 0)
    | [second] => (none, if isSecond first second then 1 else 0)
    | [] => (none, 0)
  else (none, 0)

/-- The characters of what follows the first `skipped` bytes. -/
def scanAfter : Nat → Bytes → List (Option Char)
  | _, [] => []
  | skipped + 1, _ :: rest => scanAfter skipped rest
  | 0, first :: rest =>
      let (read, used) := readFirst first rest
      read :: scanAfter used rest

/-- The characters of a byte sequence, `none` for each invalid part. -/
def scan (bytes : Bytes) : List (Option Char) :=
  scanAfter 0 bytes

def replacement : Char :=
  '\uFFFD'

/-- The text of a byte sequence, with one replacement character for each invalid part. -/
def decodeLossy (bytes : Bytes) : Text :=
  (scan bytes).map fun read => read.getD replacement

def decode? (bytes : Bytes) : Option Text :=
  let read := scan bytes
  if read.all Option.isSome then some (read.filterMap id) else none

end Utf8

end ApiSurface
