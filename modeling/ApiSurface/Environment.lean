import ApiSurface.Text.Basic

namespace ApiSurface

abbrev Environment := List (Text × Text)

namespace Environment

def javapVariable : Text :=
  "API_SNAPSHOT_JAVAP".toList

def batchSizeVariable : Text :=
  "API_SNAPSHOT_BATCH_SIZE".toList

def javaHomeVariable : Text :=
  "JAVA_HOME".toList

def logVariable : Text :=
  "RUST_LOG".toList

def plainVariable : Text :=
  "NO_COLOR".toList

def scratchVariable : Text :=
  "TMPDIR".toList

def searchVariable : Text :=
  "PATH".toList

def homeVariable : Text :=
  "HOME".toList

/-- The directory in which a run may have a directory of its own for a while. -/
def scratchParent (environment : Environment) : Text :=
  (environment.lookup scratchVariable).getD "/tmp".toList

def isStyled (environment : Environment) : Bool :=
  (environment.lookup plainVariable).all List.isEmpty

end Environment

end ApiSurface
