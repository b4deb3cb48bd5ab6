import KeyFeed.Host.Programs.Launch
import KeyFeed.Host.Shell.Script

/-! How long parts of scripts take, as far as that can be seen before they run: only what sleeps takes time, and what
    never ends takes longer than anyone waits. -/

namespace KeyFeed.Host.Shell
open Programs

/-- Longer than anyone waits, in milliseconds. -/
def endlessly : Nat := 1000000000000

/-- The words of a command in which nothing is quoted or replaced. -/
def plainWords? : Script → Option (List String)
  | .simple _ words _ => words.mapM plainText?
  | _ => none

/-- Whether a command is found in a script by its name; at most `fuel` levels deep. -/
def mentions (p : String → Bool) : Nat → Script → Bool
  | 0, _ => false
  | fuel + 1, s => match s with
    | .simple _ _ _ => ((plainWords? s).bind List.head?).any p
    | .group _ body _ | .subshell _ body _ | .pipeline _ body => body.any (mentions p fuel)
    | .both a b | .either a b => mentions p fuel a || mentions p fuel b
    | .choice a b c => (a ++ b ++ c).any (mentions p fuel)
    | .loop _ a b => (a ++ b).any (mentions p fuel)
    | .forEach _ _ _ body => body.any (mentions p fuel)
    | .cases _ _ branches => branches.any fun (_, body) => body.any (mentions p fuel)
    | .background _ | .define _ _ => false

/-- Whether a loop goes round without an end. -/
def isEndless (turned : Bool) (test body : List Script) : Bool :=
  match turned, test with
  | false, [.pipeline false [s]] =>
    (plainWords? s = some ["true"] || plainWords? s = some [":"]) && !body.any (mentions ["break", "exit", "return"].contains 100)
  | _, _ => false

/-- How long a script takes, in milliseconds; at most `fuel` levels deep. -/
def durationWithin : Nat → Script → Nat
  | 0, _ => 0
  | fuel + 1, s =>
    let all (ss : List Script) : Nat := (ss.map (durationWithin fuel)).foldl (· + ·) 0
    match s with
    | .simple _ _ _ => match plainWords? s with
      | some ("sleep" :: args) => (args.filterMap milliseconds?).foldl (· + ·) 0
      | some ("yes" :: _) => endlessly
      | _ => 0
    | .pipeline _ [stage] => durationWithin fuel stage
    | .pipeline _ stages => ((stages.map (durationWithin fuel)).filter (· < endlessly)).foldl max 0
    | .group _ body _ | .subshell _ body _ => all body
    | .both a b | .either a b => all [a, b]
    | .choice a b c => all (a ++ b ++ c)
    | .loop turned test body => if isEndless turned test body then endlessly else all (test ++ body)
    | .forEach _ _ words body => words.length * all body
    | .cases _ _ branches => (branches.map fun (_, body) => all body).foldl (· + ·) 0
    | .background _ | .define _ _ => 0

def duration (s : Script) : Nat := durationWithin 100 s

/-- The commands that a process in the background runs one after the other. -/
def steps : Script → List Script
  | .pipeline false [.subshell _ body []] | .pipeline false [.group _ body []] => body
  | s => [s]

end KeyFeed.Host.Shell
