import KeyFeed.Text.Digits

/-! The ways in which the operating system, or a check made before asking it, refuses a request. -/

namespace KeyFeed.Host
open Text

inductive OsError where
  | notPermitted | noEntry | interrupted | noDevice | argumentListTooLong | notExecutable | tryAgain | permissionDenied
  | busy | fileExists | notADirectory | isADirectory | invalidArgument | brokenPipe | nameTooLong | notEmpty
  | tooManyLinks | addressInUse | connectionRefused
  /-- A name to open, remove or create holds NUL. -/
  | nulInFileName
  /-- A word of a command line holds NUL. -/
  | nulInArgument
  /-- A socket path holds NUL. -/
  | nulInSocketPath
  /-- A socket path does not fit a socket address. -/
  | socketPathTooLong
  /-- A socket path is refused before anything is tried, with the greatest length that is taken. -/
  | pathLongerThan (bytes : Nat)
  /-- Only a part of a line was taken. -/
  | shortWrite (sent total : Nat)
  /-- A text file holds bytes that are not text. -/
  | invalidText
  /-- None of the directories above exists. -/
  | wholeTreeMissing
  deriving DecidableEq, Repr

namespace OsError

/-- The wording of a refusal that comes from the system and has a number there. -/
def numbered (name : String) (number : Nat) : String := name ++ " (os error " ++ decimal number ++ ")"

def message : OsError → String
  | notPermitted => numbered "Operation not permitted" 1
  | noEntry => numbered "No such file or directory" 2
  | interrupted => numbered "Interrupted system call" 4
  | noDevice => numbered "No such device or address" 6
  | argumentListTooLong => numbered "Argument list too long" 7
  | notExecutable => numbered "Exec format error" 8
  | tryAgain => numbered "Resource temporarily unavailable" 11
  | permissionDenied => numbered "Permission denied" 13
  | busy => numbered "Device or resource busy" 16
  | fileExists => numbered "File exists" 17
  | notADirectory => numbered "Not a directory" 20
  | isADirectory => numbered "Is a directory" 21
  | invalidArgument => numbered "Invalid argument" 22
  | brokenPipe => numbered "Broken pipe" 32
  | nameTooLong => numbered "File name too long" 36
  | notEmpty => numbered "Directory not empty" 39
  | tooManyLinks => numbered "Too many levels of symbolic links" 40
  | addressInUse => numbered "Address already in use" 98
  | connectionRefused => numbered "Connection refused" 111
  | nulInFileName => "file name contained an unexpected NUL byte"
  | nulInArgument => "nul byte found in provided data"
  | nulInSocketPath => "paths must not contain interior null bytes"
  | socketPathTooLong => "path must be shorter than SUN_LEN"
  | pathLongerThan n => "path longer than " ++ decimal n ++ " bytes"
  | shortWrite sent total => "short write (" ++ decimal sent ++ " of " ++ decimal total ++ " bytes)"
  | invalidText => "stream did not contain valid UTF-8"
  | wholeTreeMissing => "failed to create whole tree"

end OsError

end KeyFeed.Host
