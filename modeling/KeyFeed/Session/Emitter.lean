import KeyFeed.Feed.Line
import KeyFeed.Key.Names

/-! From control codes to lines of the feed. A press is written once, when the key goes down; a key that the
    program itself makes up is written as press and release, which look the same. -/

namespace KeyFeed.Session
open Feed Key

/-- The source that is named in every line, and the key names of the latest emission. -/
structure Emitter where
  tag : String
  last : List String
  deriving DecidableEq, Repr

/-- The lines of one emission, how many it says they are, and the emitter after it. -/
structure Emission where
  lines : List Line
  count : Nat
  emitter : Emitter

namespace Emitter

def fresh (tag : String) : Emitter := ⟨tag, []⟩

/-- One line for each name. -/
def lines (e : Emitter) (code : UInt8) (names : List String) : List Line :=
  names.map fun name => ⟨code.toUInt32, false, name, e.tag⟩

/-- A code without names writes nothing and leaves the emitter as it is. -/
def press (e : Emitter) (code : UInt8) : Except OutOfRange Emission :=
  (lookup code).map fun names =>
    if names.isEmpty then ⟨[], 0, e⟩ else ⟨e.lines code names, names.length, { e with last := names }⟩

/-- Every name twice, first for the press and then for the release. -/
def pressAndRelease (e : Emitter) (code : Code) : Emission :=
  let names := lookupCode code
  let lines := e.lines code.toByte names
  ⟨lines ++ lines, names.length * 2, { e with last := names }⟩

end Emitter

end KeyFeed.Session
