import ApiSurface.Log.Event

/-!
How an event is written.  Characters in a message that a terminal would act on are spelled out;
facts are written as they are.
-/

namespace ApiSurface

namespace Log

def spellOut (c : Char) : Text :=
  let code := c.toNat
  if code = 0x1B then "\\x1b".toList
  else if code = 0x07 then "\\x07".toList
  else if code = 0x08 then "\\x08".toList
  else if code = 0x0C then "\\x0c".toList
  else if code = 0x7F then "\\x7f".toList
  else if 0x80 ≤ code && code ≤ 0x9F then ['\\', 'u', '{'] ++ Nat.toDigits 16 code ++ ['}']
  else [c]

def styled (wanted : Bool) (style : Char) (text : Text) : Text :=
  let escape := Char.ofNat 27
  if wanted then [escape, '[', style, 'm'] ++ text ++ [escape, '[', '0', 'm'] else text

def shownFact (wanted : Bool) (fact : Text × Text) : Text :=
  ' ' :: styled wanted '3' fact.1 ++ styled wanted '2' ['='] ++ fact.2

def shown (wanted : Bool) (event : Event) : Text :=
  event.level.label ++ ' ' :: event.message.flatMap spellOut
    ++ event.facts.flatMap (shownFact wanted) ++ ['\n']

end Log

end ApiSurface
