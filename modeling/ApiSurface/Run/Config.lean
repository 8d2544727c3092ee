import ApiSurface.Environment
import ApiSurface.Run.CommandLine
import ApiSurface.Snapshot.Reconcile

/-! What a run works on and how, from the command line and the environment. -/

namespace ApiSurface

def InputKind.ofPath (path : Path) : Except Failure InputKind :=
  if path.endsWith ".jar".toList then .ok .jar
  else if path.endsWith ".aar".toList then .ok .aar
  else .error (.unsupportedInput path)

structure RunConfig where
  source : Path
  kind : InputKind
  mode : Mode
  batchSize : Nat
deriving DecidableEq, Repr

namespace RunConfig

variable {σ : Type}

def defaultBatchSize : Nat :=
  30

/-- Batch sizes lie below this bound, the 64th power of two. -/
def batchSizeBound : Nat :=
  0x10000000000000000

def decimalValue (digits : Text) : Nat :=
  digits.foldl (fun value digit => 10 * value + (digit.toNat - '0'.toNat)) 0

/-- The product of two words, unless it is too large for one. -/
def times? (word factor : UInt64) : Option UInt64 :=
  if word.toNat * factor.toNat < batchSizeBound then some (word * factor) else none

def plus? (word summand : UInt64) : Option UInt64 :=
  if word.toNat + summand.toNat < batchSizeBound then some (word + summand) else none

def appendDigit? (word : UInt64) (digit : Char) : Option UInt64 := do
  let shifted ← times? word 10
  plus? shifted (UInt64.ofNat (digit.toNat - '0'.toNat))

/-- The value of decimal digits in one word.  It is too large for that as soon as that of the first
of them is. -/
def word? (digits : Text) : Option UInt64 :=
  if !digits.isEmpty && digits.all Char.isDigit then digits.foldlM appendDigit? 0 else none

def dropPlus : Text → Text
  | '+' :: rest => rest
  | text => text

/-- Reads a batch size: a positive decimal number below the bound, a plus sign in front and blanks
around it allowed. -/
def parseBatchSize (raw : Text) : Except Failure Nat :=
  match word? (dropPlus raw.trim) with
  | none => .error (.invalidBatchSize raw)
  | some word => if 0 < word then .ok word.toNat else .error (.invalidBatchSize raw)

/-- The configuration for an archive.  To compare without an output directory is to print. -/
def choose (source : Path) (output : Option Path) (compare : Bool) : Action σ RunConfig := do
  match InputKind.ofPath source with
  | .error failure => throw failure
  | .ok kind =>
      let mode ←
        match output with
        | some root => pure (if compare then Mode.compare root else Mode.generate root)
        | none => do
            if compare then Action.note .compareWithoutOutput
            pure Mode.print
      pure ⟨source, kind, mode, defaultBatchSize⟩

def shownPath (path : Path) : Text :=
  (Quoted.encode path).flatMap fun c => if c = '\'' then ['\\', c] else [c]

def shownMode : Mode → Text
  | .print => "Print".toList
  | .generate root => "Generate(".toList ++ shownPath root ++ [')']
  | .compare root => "Compare(".toList ++ shownPath root ++ [')']

def shown (config : RunConfig) : Text :=
  let kind :=
    match config.kind with
    | .jar => "Jar".toList
    | .aar => "Aar".toList
  "RunConfig \x7b source: ".toList ++ shownPath config.source ++ ", kind: ".toList ++ kind
    ++ ", mode: ".toList ++ shownMode config.mode ++ ", batch_size: ".toList
    ++ Nat.toDigits 10 config.batchSize ++ " \x7d".toList

def ofCommandLine (commandLine : CommandLine) (environment : Environment) :
    Action σ RunConfig := do
  let config ← choose commandLine.path commandLine.output commandLine.compare
  match environment.lookup Environment.batchSizeVariable with
  | none => pure config
  | some raw =>
      match parseBatchSize raw with
      | .ok batchSize => pure { config with batchSize }
      | .error failure => throw failure

end RunConfig

end ApiSurface
