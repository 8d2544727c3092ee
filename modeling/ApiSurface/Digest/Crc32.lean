import ApiSurface.Text.Utf8

namespace ApiSurface

namespace Crc32

def shift (register : UInt32) : UInt32 :=
  if register &&& 1 = 1 then (register >>> 1) ^^^ 0xEDB88320 else register >>> 1

def absorb (register : UInt32) (byte : UInt8) : UInt32 :=
  (List.range 8).foldl (fun current _ => shift current) (register ^^^ byte.toUInt32)

def checksum (bytes : Bytes) : UInt32 :=
  ~~~(bytes.foldl absorb 0xFFFFFFFF)

end Crc32

end ApiSurface
