import ApiSurface.Text.Utf8

/-!
An archive is a list of named members.  A member can be opened or not; an open one can be unpacked,
which succeeds if its bytes are sound.  Reading bytes as an archive and unpacking are the business
of a library of its own, and whatever is made of archives is made of any such library.
-/

namespace ApiSurface

namespace Archive

inductive Fault where
  | encrypted
  | truncatedHeader
  | misplacedHeader
  | unsupportedMethod
deriving DecidableEq, Repr

def Fault.message : Fault → Text
  | .encrypted => "unsupported Zip archive: Password required to decrypt file".toList
  | .truncatedHeader => "failed to fill whole buffer".toList
  | .misplacedHeader => "invalid Zip archive: Invalid local file header".toList
  | .unsupportedMethod => "unsupported Zip archive: Compression method not supported".toList

/-- An open member: its bytes as stored, whether they are packed, and the checksum of what they
unpack to. -/
structure Stored where
  bytes : Bytes
  packed : Bool
  checksum : UInt32
deriving DecidableEq, Repr

structure Member where
  name : Text
  access : Except Fault Stored

end Archive

abbrev Archive := List Archive.Member

namespace Archive

/-- A library that reads archives.  Bytes need not be one. -/
class Reader where
  read? : Bytes → Option Archive
  /-- What can be unpacked of a member, and whether that is all of it and matches the checksum. -/
  unpack : Stored → Bytes × Bool

def read? [Reader] (bytes : Bytes) : Option Archive :=
  Reader.read? bytes

def Stored.unpack [Reader] (stored : Stored) : Bytes × Bool :=
  Reader.unpack stored

/-- The member of a name, the last one if there are several. -/
def find? (archive : Archive) (name : Text) : Option Member :=
  archive.reverse.find? fun member => member.name = name

def classEnding : Text :=
  ".class".toList

/-- The class that a member of this name holds, if it is one: the name without its ending, with
dots for slashes of either kind. -/
def className? (name : Text) : Option Text :=
  (name.dropEnding? classEnding).map fun stem =>
    stem.map fun c => if c = '/' ∨ c = '\\' then '.' else c

/-- The classes of an archive, in its order.  Every member has to be accessible, class or not. -/
def classNames : Archive → Except Fault (List Text)
  | [] => .ok []
  | member :: rest =>
      match member.access with
      | .error fault => .error fault
      | .ok _ =>
          match classNames rest with
          | .error fault => .error fault
          | .ok names => .ok ((className? member.name).toList ++ names)

end Archive

end ApiSurface
