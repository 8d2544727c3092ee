import ApiSurface.Archive.Basic
import ApiSurface.Files.Path
import ApiSurface.Text.Quoted

namespace ApiSurface

/-- The two kinds of library archive: classes themselves, or resources with such an archive of
classes inside. -/
inductive InputKind where
  | jar
  | aar
deriving DecidableEq, Repr

def InputKind.label : InputKind → Text
  | .jar => "jar".toList
  | .aar => "aar".toList

def innerJarName : Text :=
  "classes.jar".toList

/-- What the system was asked to do when it refused. -/
inductive Operation where
  | openFile
  | mapFile
  | createFile
  | createScratch
  | unpackInnerJar
  | createDirectory
  | writeFile
  | readFile
  | listDirectory
  | execute
deriving DecidableEq, Repr

inductive Failure where
  | unsupportedInput (path : Path)
  | invalidBatchSize (raw : Text)
  | missingInnerJar (path : Path)
  | comparisonFailed (mismatches : Nat)
  | unreadableArchive (kind : InputKind) (path : Path)
  | inaccessibleMember (fault : Archive.Fault)
  | inaccessibleInnerJar (path : Path)
  | system (operation : Operation) (path : Path)
  | disassembler (message : Text)
deriving DecidableEq, Repr

namespace Failure

inductive Category where
  | unsupportedInput
  | invalidBatchSize
  | missingInnerJar
  | comparison
  | archive
  | system
  | disassembler
deriving DecidableEq, Repr

def category : Failure → Category
  | .unsupportedInput _ => .unsupportedInput
  | .invalidBatchSize _ => .invalidBatchSize
  | .missingInnerJar _ => .missingInnerJar
  | .comparisonFailed _ => .comparison
  | .unreadableArchive _ _ => .archive
  | .inaccessibleMember _ => .archive
  | .inaccessibleInnerJar _ => .archive
  | .system _ _ => .system
  | .disassembler _ => .disassembler

def systemMessage (path : Path) : Operation → Text
  | .openFile => "Failed to open ".toList ++ path
  | .mapFile => "Failed to mmap ".toList ++ path
  | .createFile => "Failed to create ".toList ++ path
  | .createScratch => "Failed to create temporary directory".toList
  | .unpackInnerJar => "Failed to extract ".toList ++ innerJarName ++ " from ".toList ++ path
  | .createDirectory => "Failed to create directory: ".toList ++ path
  | .writeFile => "Failed to write ".toList ++ path
  | .readFile => "Failed to read ".toList ++ path
  | .listDirectory => "Failed to list ".toList ++ path
  | .execute =>
      "Failed to execute ".toList ++ path
        ++ " (ensure a JDK is installed or set API_SNAPSHOT_JAVAP)".toList

def message : Failure → Text
  | .unsupportedInput path => "path ".toList ++ path ++ " is not a jar or aar file".toList
  | .invalidBatchSize raw =>
      "invalid batch size ".toList ++ Quoted.encode raw
        ++ ": expected a positive integer".toList
  | .missingInnerJar path =>
      "aar ".toList ++ path ++ " does not contain ".toList ++ innerJarName
  | .comparisonFailed mismatches =>
      "Comparison failed: ".toList ++ Nat.toDigits 10 mismatches
  | .unreadableArchive kind path =>
      "Failed to read zip(".toList ++ kind.label ++ "): ".toList ++ path
  | .inaccessibleMember fault => fault.message
  | .inaccessibleInnerJar path =>
      "Failed to read ".toList ++ innerJarName ++ " in ".toList ++ path
  | .system operation path => systemMessage path operation
  | .disassembler message => message

end Failure

end ApiSurface
