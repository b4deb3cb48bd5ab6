import KeyFeed.Flags.Basic

/-! Reading the command line. A flag whose value is a word of its own is pending until the next flag or the end;
    only then is its value looked at, so an unknown flag behind a bad value is the first to be refused. -/

namespace KeyFeed
open Text

/-- A flag that waits for its value, or has it and waits to be looked at. -/
structure Pending where
  flag : ValueFlag
  value : Option String
  deriving DecidableEq, Repr

/-- What has been read: the flags, those that were given, and the one that is pending. -/
structure FlagScan where
  flags : Flags
  given : List Flag
  pending : Option Pending

namespace FlagScan

def start : FlagScan := ⟨.empty, [], none⟩

/-- Notes that a flag was given, which can happen once. -/
def give (f : Flag) (sc : FlagScan) : Except FlagError FlagScan :=
  if f ∈ sc.given then .error .argumentConflict else .ok { sc with given := f :: sc.given }

def assign (v : ValueFlag) (value : String) (sc : FlagScan) : Except FlagError FlagScan := do
  let sc ← sc.give (.value v)
  let flags ← sc.flags.assign v value
  return { sc with flags := flags }

/-- Looks at the pending flag, which must have its value by now. -/
def settle (sc : FlagScan) : Except FlagError FlagScan :=
  match sc.pending with
  | none => .ok sc
  | some ⟨_, none⟩ => .error .invalidValue
  | some ⟨v, some value⟩ => { sc with pending := none }.assign v value

/-- A flag that takes no value, or none that stands beside it. -/
def takeBare (f : Flag) (sc : FlagScan) : Except FlagError FlagScan := do
  let sc ← sc.settle
  match f with
  | .help => .error .displayHelp
  | .version => .error .displayVersion
  | .value v => .ok { sc with pending := some ⟨v, none⟩ }
  | .switch s =>
    let sc ← sc.give f
    return { sc with flags := sc.flags.raise s }

def takeAttached (v : ValueFlag) (value : String) (sc : FlagScan) : Except FlagError FlagScan := do
  let sc ← sc.settle
  sc.assign v value

/-- A word with two hyphens in front; its value, if it has one beside it, stands behind an equals sign. -/
def takeLong (body : List Char) (sc : FlagScan) : Except FlagError FlagScan :=
  let (name, value) := match cut? '=' body with
    | some (name, value) => (name, some (String.ofList value))
    | none => (body, none)
  match Flag.ofLong? name, value with
  | none, _ => .error .unknownArgument
  | some f, none => sc.takeBare f
  | some (.value v), some value => sc.takeAttached v value
  | some _, some _ => .error .tooManyValues

/-- A row of letters behind one hyphen. The first flag that takes a value takes what is left of the row, less an
    equals sign in front. -/
def takeShort : List Char → FlagScan → Except FlagError FlagScan
  | [], sc => .ok sc
  | c :: rest, sc => match Flag.ofShort? c with
    | none => .error .unknownArgument
    | some (.value v) => match rest with
      | [] => sc.takeBare (.value v)
      | '=' :: value => sc.takeAttached v (String.ofList value)
      | value => sc.takeAttached v (String.ofList value)
    | some f => do
      let sc ← sc.takeBare f
      takeShort rest sc

/-- A word that is no flag: the value of the pending flag, if that has none yet. -/
def takeWord (word : String) (sc : FlagScan) : Except FlagError FlagScan :=
  match sc.pending with
  | some ⟨v, none⟩ => .ok { sc with pending := some ⟨v, some word⟩ }
  | _ => .error .unknownArgument

def take (arg : String) (sc : FlagScan) : Except FlagError FlagScan :=
  match arg.toList with
  | '-' :: '-' :: body => sc.takeLong body
  | '-' :: c :: rest => sc.takeShort (c :: rest)
  | _ => sc.takeWord arg

/-- All arguments; behind two hyphens alone nothing may follow. -/
def takeAll : List String → FlagScan → Except FlagError FlagScan
  | [], sc => sc.settle
  | "--" :: [], sc => sc.settle
  | "--" :: _ :: _, _ => .error .unknownArgument
  | arg :: args, sc => do
    let sc ← sc.take arg
    takeAll args sc

end FlagScan

/-- The flags that the arguments of the program give. -/
def Flags.parse (args : List String) : Except FlagError Flags :=
  (FlagScan.start.takeAll args).map FlagScan.flags

end KeyFeed
