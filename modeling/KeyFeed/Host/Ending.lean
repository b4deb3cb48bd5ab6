import KeyFeed.Text.Digits

/-! How a program on the machine ends, and how that is told. -/

namespace KeyFeed.Host
open Text

/-- The signals of the system by their numbers, which begin at one. -/
def signalNames : List String :=
  ["HUP", "INT", "QUIT", "ILL", "TRAP", "ABRT", "BUS", "FPE", "KILL", "USR1", "SEGV", "USR2", "PIPE", "ALRM", "TERM",
   "STKFLT", "CHLD", "CONT", "STOP", "TSTP", "TTIN", "TTOU", "URG", "XCPU", "XFSZ", "VTALRM", "PROF", "WINCH", "IO",
   "PWR", "SYS"]

def signalName? (number : Nat) : Option String := if number = 0 then none else signalNames[number - 1]?

/-- What the signals of the system mean, in their order. -/
def signalMeanings : List String :=
  ["Hangup", "Interrupt", "Quit", "Illegal instruction", "Trace/breakpoint trap", "Aborted", "Bus error",
   "Floating point exception", "Killed", "User defined signal 1", "Segmentation fault", "User defined signal 2",
   "Broken pipe", "Alarm clock", "Terminated", "Stack fault", "Child exited", "Continued", "Stopped (signal)", "Stopped",
   "Stopped (tty input)", "Stopped (tty output)", "Urgent I/O condition", "CPU time limit exceeded",
   "File size limit exceeded", "Virtual timer expired", "Profiling timer expired", "Window changed", "I/O possible",
   "Power failure", "Bad system call"]

/-- What a signal means, in words. -/
def signalMeaning (number : Nat) : String :=
  match if number = 0 then none else signalMeanings[number - 1]? with
  | some meaning => meaning
  | none =>
    if 34 ≤ number then "Real-time signal " ++ decimal (number - 34) else "Unknown signal " ++ decimal number

/-- Whether a signal ends a program that has made no arrangements for it. -/
def isDeadly (number : Nat) : Bool := number != 0 && number ∉ [17, 18, 19, 20, 21, 22, 23, 28]

inductive Ending where
  | exited (status : Nat)
  | killed (signal : Nat)
  deriving DecidableEq, Repr

def Ending.text : Ending → String
  | exited status => "exit status: " ++ decimal status
  | killed signal =>
    "signal: " ++ decimal signal ++ ((signalName? signal).map fun name => " (SIG" ++ name ++ ")").getD ""

end KeyFeed.Host
