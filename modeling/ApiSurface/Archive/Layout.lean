import ApiSurface.Archive.Basic
import ApiSurface.Archive.Deflate
import ApiSurface.Digest.Crc32
import ApiSurface.Text.CodePage437

/-!
The layout of an archive as bytes.  Its end record says where the directory is, each directory
record where its member is.  Bytes in front of the archive shift all positions alike.  Where a
number is too large for its field, the field is at its maximum and the number stands elsewhere.
-/

namespace ApiSurface

namespace Archive

structure Image where
  data : Array UInt8

namespace Image

def ofBytes (bytes : Bytes) : Image :=
  ⟨bytes.toArray⟩

def size (image : Image) : Nat :=
  image.data.size

def number? (image : Image) (position : Nat) : Nat → Option Nat
  | 0 => some 0
  | width + 1 =>
      match image.data[position]?, image.number? (position + 1) width with
      | some byte, some upper => some (byte.toNat + 256 * upper)
      | _, _ => none

def part (image : Image) (position length : Nat) : Bytes :=
  (image.data.extract position (position + length)).toList

def part? (image : Image) (position length : Nat) : Option Bytes :=
  if position + length ≤ image.size then some (image.part position length) else none

end Image

def endMark : Nat := 0x06054B50

def directoryMark : Nat := 0x02014B50

def memberMark : Nat := 0x04034B50

def locatorMark : Nat := 0x07064B50

def largeEndMark : Nat := 0x06064B50

def endRecordSize : Nat := 22

def locatorSize : Nat := 20

/-- How far the end record of a large archive is in front of the other one at the least. -/
def largeEndDistance : Nat := 60

def directoryRecordSize : Nat := 46

def memberHeaderSize : Nat := 30

def longestComment : Nat := 65535

/-- The last position of an end record's mark, searched from the end: the position looked at first
is the end less the size of such a record, and `steps` more are tried in front of it. -/
def endPosition? (image : Image) : Nat → Nat → Option Nat
  | position, 0 => if image.number? position 4 = some endMark then some position else none
  | 0, _ + 1 => if image.number? 0 4 = some endMark then some 0 else none
  | position + 1, steps + 1 =>
      if image.number? (position + 1) 4 = some endMark then some (position + 1)
      else endPosition? image position steps

structure EndRecord where
  position : Nat
  disk : Nat
  directoryDisk : Nat
  membersHere : Nat
  membersTotal : Nat
  directorySize : Nat
  directoryOffset : Nat
  commentLength : Nat

/-- Whether a field of the record is at its maximum, so that the true value stands elsewhere. -/
def EndRecord.isTooSmall (record : EndRecord) : Bool :=
  record.disk = 0xFFFF || record.directoryDisk = 0xFFFF || record.membersHere = 0xFFFF
    || record.membersTotal = 0xFFFF || record.directorySize = 0xFFFFFFFF
    || record.directoryOffset = 0xFFFFFFFF

def endRecord? (image : Image) : Option EndRecord := do
  if image.size < endRecordSize then none
  let position ← endPosition? image (image.size - endRecordSize) longestComment
  let disk ← image.number? (position + 4) 2
  let directoryDisk ← image.number? (position + 6) 2
  let membersHere ← image.number? (position + 8) 2
  let membersTotal ← image.number? (position + 10) 2
  let directorySize ← image.number? (position + 12) 4
  let directoryOffset ← image.number? (position + 16) 4
  let commentLength ← image.number? (position + 20) 2
  let _ ← image.part? (position + endRecordSize) commentLength
  pure {
    position, disk, directoryDisk, membersHere, membersTotal, directorySize, directoryOffset,
    commentLength }

/-- Where the directory of an archive is, how many members it has, and how far all positions are
shifted. -/
structure Directory where
  shift : Nat
  start : Nat
  members : Nat

/-- The first of so many positions at which the end record of a large archive stands. -/
def largeEndPosition? (image : Image) : Nat → Nat → Option Nat
  | _, 0 => none
  | position, count + 1 =>
      if image.number? position 4 = some largeEndMark then some position
      else largeEndPosition? image (position + 1) count

def largeDirectory? (image : Image) (record : EndRecord) (locator : Nat) : Option Directory := do
  let disk ← image.number? (locator + 4) 4
  let nominal ← image.number? (locator + 8) 8
  if !record.isTooSmall && record.disk ≠ disk then none
  if record.position < largeEndDistance then none
  let position ← largeEndPosition? image nominal (record.position - largeEndDistance + 1 - nominal)
  let here ← image.number? (position + 16) 4
  let directoryDisk ← image.number? (position + 20) 4
  let members ← image.number? (position + 32) 8
  let offset ← image.number? (position + 48) 8
  if here ≠ directoryDisk then none
  let shift := position - nominal
  pure { shift, start := offset + shift, members }

def whereabouts? (image : Image) (record : EndRecord) : Option Directory :=
  let behind := locatorSize + endRecordSize + record.commentLength
  if behind ≤ image.size && image.number? (image.size - behind) 4 = some locatorMark then
    largeDirectory? image record (image.size - behind)
  else if record.position < record.directorySize + record.directoryOffset then none
  else
    let shift := record.position - record.directorySize - record.directoryOffset
    some { shift, start := record.directoryOffset + shift, members := record.membersHere }

def encryptionMethod : Nat := 99

def openMember (image : Image) (flags method checksum storedSize position : Nat) :
    Except Fault Stored :=
  if flags.testBit 0 then .error .encrypted
  else
    match image.number? position 4 with
    | none => .error .truncatedHeader
    | some mark =>
        if mark ≠ memberMark then .error .misplacedHeader
        else
          match image.number? (position + 26) 2, image.number? (position + 28) 2 with
          | some nameLength, some extraLength =>
              if method = 0 ∨ method = 8 then
                .ok {
                  bytes := image.part (position + memberHeaderSize + nameLength + extraLength)
                    storedSize
                  packed := method = 8
                  checksum := UInt32.ofNat checksum }
              else .error .unsupportedMethod
          | _, _ => .error .truncatedHeader

def longMaximum : Nat := 0xFFFFFFFF

def largeFieldKind : Nat := 1

structure Extent where
  size : Nat
  storedSize : Nat
  offset : Nat

/-- Takes the next number of an extra field for one that is at its maximum, and tells where to go
on, unless the bytes have run out. -/
def larger (image : Image) (ending given : Nat) : Option Nat → Nat × Option Nat
  | none => (given, none)
  | some position =>
      if given ≠ longMaximum then (given, some position)
      else if ending < position + 8 then (given, none)
      else ((image.number? position 8).getD given, some (position + 8))

def Extent.enlarged (image : Image) (ending : Nat) : Nat → Nat → Extent → Extent
  | 0, _, extent => extent
  | fuel + 1, position, extent =>
      if ending < position + 4 then extent
      else
        let kind := image.number? position 2
        let behind := position + 4 + (image.number? (position + 2) 2).getD 0
        if kind = some largeFieldKind then
          let (size, next) := larger image ending extent.size (some (position + 4))
          let (storedSize, next) := larger image ending extent.storedSize next
          let (offset, next) := larger image ending extent.offset next
          match next with
          | none => ⟨size, storedSize, offset⟩
          | some next =>
              enlarged image ending fuel (max next behind) ⟨size, storedSize, offset⟩
        else enlarged image ending fuel behind extent

def directoryRecord? (image : Image) (shift position : Nat) : Option (Member × Nat) := do
  let mark ← image.number? position 4
  if mark ≠ directoryMark then none
  let flags ← image.number? (position + 8) 2
  let method ← image.number? (position + 10) 2
  let checksum ← image.number? (position + 16) 4
  let storedSize ← image.number? (position + 20) 4
  let size ← image.number? (position + 24) 4
  let nameLength ← image.number? (position + 28) 2
  let extraLength ← image.number? (position + 30) 2
  let commentLength ← image.number? (position + 32) 2
  let offset ← image.number? (position + 42) 4
  let name ← image.part? (position + directoryRecordSize) nameLength
  let behind := position + directoryRecordSize + nameLength + extraLength + commentLength
  if image.size < behind then none
  if method = encryptionMethod then none
  let extra := position + directoryRecordSize + nameLength
  let extent :=
    Extent.enlarged image (extra + extraLength) extraLength extra ⟨size, storedSize, offset⟩
  pure
    ({ name := if flags.testBit 11 then Utf8.decodeLossy name else CodePage437.decode name
       access := openMember image flags method checksum extent.storedSize (extent.offset + shift) },
      behind)

def directory? (image : Image) (shift : Nat) : Nat → Nat → Option Archive
  | 0, _ => some []
  | count + 1, position => do
      let (member, behind) ← directoryRecord? image shift position
      let others ← directory? image shift count behind
      pure (member :: others)

/-- Reads an archive, if the bytes are one. -/
def decode? (bytes : Bytes) : Option Archive := do
  let image := Image.ofBytes bytes
  let record ← endRecord? image
  if !record.isTooSmall && record.disk ≠ record.directoryDisk then none
  let directory ← whereabouts? image record
  directory? image directory.shift directory.members directory.start

def Stored.inflate (stored : Stored) : Bytes × Bool :=
  if stored.packed then
    let (content, ending) := Deflate.unpack stored.bytes
    (content, ending = .complete && Crc32.checksum content = stored.checksum)
  else (stored.bytes, Crc32.checksum stored.bytes = stored.checksum)

instance : Reader where
  read? := decode?
  unpack := Stored.inflate

end Archive

end ApiSurface
