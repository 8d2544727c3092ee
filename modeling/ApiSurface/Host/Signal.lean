import ApiSurface.Host.Machine

/-! Signals by number, and what they do to a program that does not expect them. -/

namespace ApiSurface

namespace Host

namespace Signal

/-- The names of the signals from the first one on.  Those without a name have their number. -/
def names : List Text :=
  ["HUP", "INT", "QUIT", "ILL", "TRAP", "ABRT", "BUS", "FPE", "KILL", "USR1", "SEGV", "USR2",
    "PIPE", "ALRM", "TERM", "16", "CHLD", "CONT", "STOP", "TSTP", "TTIN", "TTOU", "URG",
    "XCPU", "XFSZ", "VTALRM", "PROF", "WINCH", "IO", "PWR", "SYS", "32", "33", "RTMIN"].map
      String.toList
    ++ (List.range 15).map (fun count => "RTMIN+".toList ++ Script.showNat (count + 1))
    ++ (List.range 14).map (fun count => "RTMAX-".toList ++ Script.showNat (14 - count))
    ++ ["RTMAX".toList]

def name? (signal : Nat) : Option Text :=
  match signal with
  | 0 => some "EXIT".toList
  | place + 1 => names[place]?

def ofText? (text : Text) : Option Nat :=
  match Script.natural? text with
  | some number => if number ≤ 64 then some number else none
  | none =>
      let upper := text.map Char.toUpper
      let short := if "SIG".toList.isPrefixOf upper then upper.drop 3 else upper
      if upper = "EXIT".toList then some 0
      else (names.findIdx? (· = short)).map (· + 1)

def descriptions : List Text :=
  ["Hangup", "Interrupt", "Quit", "Illegal instruction", "Trace/breakpoint trap", "Aborted",
    "Bus error", "Floating point exception", "Killed", "User defined signal 1",
    "Segmentation fault", "User defined signal 2", "Broken pipe", "Alarm clock", "Terminated",
    "Stack fault", "Child exited", "Continued", "Stopped (signal)", "Stopped",
    "Stopped (tty input)", "Stopped (tty output)", "Urgent I/O condition",
    "CPU time limit exceeded", "File size limit exceeded", "Virtual timer expired",
    "Profiling timer expired", "Window changed", "I/O possible", "Power failure",
    "Bad system call"].map String.toList

def description (signal : Nat) : Text :=
  (descriptions[signal - 1]?).getD ("Signal ".toList ++ Script.showNat signal)

def interrupt : Nat := 2
def kill : Nat := 9
def brokenPipe : Nat := 13
def terminate : Nat := 15
def stop : Nat := 19

def endsPrograms (signal : Nat) : Bool :=
  signal ≠ 0 && !([17, 18, 19, 20, 21, 22, 23, 28].contains signal)

end Signal

end Host

end ApiSurface
