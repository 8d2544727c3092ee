import ApiSurface.Text.Basic

/-! Blank characters, those with the Unicode property White_Space, and the words between them. -/

namespace ApiSurface

def isBlank (c : Char) : Bool :=
  let code := c.toNat
  (0x9 ≤ code && code ≤ 0xD) || code = 0x20 || code = 0x85 || code = 0xA0 || code = 0x1680
    || (0x2000 ≤ code && code ≤ 0x200A) || code = 0x2028 || code = 0x2029 || code = 0x202F
    || code = 0x205F || code = 0x3000

namespace Text

def trimStart (text : Text) : Text :=
  text.dropWhile isBlank

def trimEnd : Text → Text
  | [] => []
  | c :: rest =>
      match trimEnd rest with
      | [] => if isBlank c then [] else [c]
      | kept => c :: kept

def trim (text : Text) : Text :=
  text.trimStart.trimEnd

def words (text : Text) : List Text :=
  (text.splitOnP isBlank).filter fun word => !word.isEmpty

end Text

end ApiSurface
