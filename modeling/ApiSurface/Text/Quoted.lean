import ApiSurface.Text.Hidden

/-! A text in double quotes, on one line and with nothing invisible in it. -/

namespace ApiSurface

namespace Quoted

def hexCode (c : Char) : Text :=
  Nat.toDigits 16 c.toNat

def escape (c : Char) : Text :=
  if c = Char.ofNat 0 then ['\\', '0']
  else if c = '\t' then ['\\', 't']
  else if c = '\r' then ['\\', 'r']
  else if c = '\n' then ['\\', 'n']
  else if c = '"' then ['\\', '"']
  else if c = '\\' then ['\\', '\\']
  else if isHidden c then ['\\', 'u', '{'] ++ hexCode c ++ ['}']
  else [c]

def encode (text : Text) : Text :=
  '"' :: text.flatMap escape ++ ['"']

end Quoted

end ApiSurface
