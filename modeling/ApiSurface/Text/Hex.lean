import ApiSurface.Text.Utf8

namespace ApiSurface

namespace Hex

def digit (value : Nat) : Char :=
  if value < 10 then Char.ofNat ('0'.toNat + value) else Char.ofNat ('a'.toNat + (value - 10))

def ofByte (byte : UInt8) : Text :=
  [digit (byte.toNat / 16), digit (byte.toNat % 16)]

def encode (bytes : Bytes) : Text :=
  bytes.flatMap ofByte

def digitValue? (c : Char) : Option Nat :=
  if '0' ≤ c ∧ c ≤ '9' then some (c.toNat - '0'.toNat)
  else if 'a' ≤ c ∧ c ≤ 'f' then some (c.toNat - 'a'.toNat + 10)
  else none

def decode? : Text → Option Bytes
  | [] => some []
  | high :: low :: rest =>
      match digitValue? high, digitValue? low, decode? rest with
      | some upper, some lower, some bytes => some (UInt8.ofNat (upper * 16 + lower) :: bytes)
      | _, _, _ => none
  | [_] => none

end Hex

end ApiSurface
