import KeyFeed.Feed.Subscribers
import KeyFeed.Host.Files
import KeyFeed.Text.Utf8

/-! The machine on which the program runs, as far as the program can see it: the tree of files, and the connections
    between the endpoints that listen and those who connect to them. -/

namespace KeyFeed.Host
open Text Feed

/-- An endpoint, with the connections that wait to be taken up. -/
structure Backlog where
  listening : Bool
  waiting : List Nat
  deriving DecidableEq, Repr

/-- One connection, as the system holds it for both sides. -/
structure Connection where
  /-- What was sent and not yet read. -/
  unread : List UInt8
  /-- How much of the buffer is taken. -/
  held : Nat
  /-- The side of the program has ended it. -/
  severed : Bool
  /-- The other side takes nothing any more. -/
  deaf : Bool
  deriving DecidableEq, Repr

structure Machine where
  files : Files
  backlogs : List Backlog
  connections : List Connection
  deriving DecidableEq, Repr

/-! ### The buffer of a connection -/

namespace Connection

def fresh : Connection := ⟨[], 0, false, false⟩

/-- From when on a buffer takes no further piece. -/
def bufferRoom : Nat := 212992

/-- The greatest number of bytes of a piece that lie beside its header. -/
def headBytes : Nat := 3776

/-- The greatest number of bytes in one piece. -/
def pieceBytes : Nat := headBytes + 32768

def wholePages (bytes : Nat) : Nat := (bytes + 4095) / 4096 * 4096

/-- What a piece of so many bytes takes of the buffer: a header, a block with it of a fixed size, and whole pages for
    what does not fit there. -/
def pieceCost (bytes : Nat) : Nat :=
  let paged := min bytes (wholePages (bytes - headBytes))
  256 + max 512 (bytes - paged + 320).nextPowerOfTwo + wholePages paged

/-- How many of the bytes are taken, and what is held after that, in at most `fuel` pieces. -/
def take : Nat → Nat → Nat → Nat × Nat
  | 0, held, _ => (0, held)
  | fuel + 1, held, bytes =>
    if bytes = 0 || bufferRoom ≤ held then (0, held)
    else
      let piece := min bytes pieceBytes
      let (taken, held) := take fuel (held + pieceCost piece) (bytes - piece)
      (piece + taken, held)

/-- Sends without waiting for room. A connection whose other side is gone takes not even an empty line. -/
def send (line : String) (c : Connection) : Sent × Connection :=
  let total := line.utf8ByteSize
  let (taken, held) := take (total / pieceBytes + 1) c.held total
  if c.deaf then (.failed .brokenPipe, c)
  else if total = 0 then (.took 0, c)
  else if taken = 0 then (.failed .tryAgain, c)
  else (.took taken, { c with unread := c.unread ++ (toBytes line).take taken, held := held })

/-- Everything that can be read, and whether nothing will come after it. -/
def read (c : Connection) : List UInt8 × Bool × Connection :=
  (c.unread, c.severed || c.deaf, { c with unread := [], held := 0 })

end Connection

namespace Machine

/-- A machine on which no one listens yet. -/
def withFiles (fs : Files) : Machine := ⟨fs, [], []⟩

/-! ### The side of the program -/

/-- The length from which on a path is no socket address, in bytes. -/
def socketPathLimit : Nat := 108

/-- Whether a path can be a socket address at all. -/
def checkSocketPath (path : String) : Except OsError Unit :=
  if holdsNul path then .error .nulInSocketPath
  else if socketPathLimit ≤ path.utf8ByteSize then .error .socketPathTooLong
  else .ok ()

/-- Begins to listen at a path where nothing is. Without a path the endpoint listens where no one finds it. -/
def listen (path : String) (m : Machine) : Except OsError Nat × Machine :=
  let id := m.backlogs.length
  let begun : Machine := { m with backlogs := m.backlogs ++ [⟨true, []⟩] }
  match checkSocketPath path with
  | .error e => (.error e, m)
  | .ok () =>
    if path.isEmpty then (.ok id, begun)
    else match m.files.makeSocket path id with
      | .error e => (.error e, m)
      | .ok files => (.ok id, { begun with files := files })

def changeBacklog (id : Nat) (change : Backlog → Backlog) (m : Machine) : Machine :=
  { m with backlogs := m.backlogs.modify id change }

def changeConnection (id : Nat) (change : Connection → Connection) (m : Machine) : Machine :=
  { m with connections := m.connections.modify id change }

/-- The program ends a connection; what was sent before can still be read. -/
def sever (id : Nat) (m : Machine) : Machine :=
  m.changeConnection id fun c => { c with severed := true }

/-- Takes up all connections that wait. -/
def takeWaiting (id : Nat) (m : Machine) : List Nat × Machine :=
  (((m.backlogs[id]?).map Backlog.waiting).getD [], m.changeBacklog id fun b => { b with waiting := [] })

/-- Stops listening; whoever still waits is turned away. -/
def stopListening (id : Nat) (m : Machine) : Machine :=
  let (waiting, m) := m.takeWaiting id
  waiting.foldl (fun m c => m.sever c) (m.changeBacklog id fun b => { b with listening := false })

/-- Sends a line over a connection, which ends when it does not take all of the line. -/
def sendLine (id : Nat) (line : String) (m : Machine) : Sent × Machine :=
  match m.connections[id]? with
  | none => (.failed .brokenPipe, m)
  | some c =>
    let (sent, c) := c.send line
    let m := m.changeConnection id fun _ => c
    (sent, if (sent.fault? line.utf8ByteSize).isNone then m else m.sever id)

/-! ### The other side -/

/-- Connects to whoever listens at a path. -/
def connect (path : String) (m : Machine) : Except OsError Nat × Machine :=
  match checkSocketPath path with
  | .error e => (.error e, m)
  | .ok () =>
    if path.isEmpty then (.error .invalidArgument, m)
    else match m.files.stat path with
      | .error e => (.error e, m)
      | .ok ⟨.socket b, _, _⟩ => match m.backlogs[b]? with
        | some ⟨true, _⟩ =>
          let id := m.connections.length
          (.ok id, { m with
            connections := m.connections ++ [.fresh]
            backlogs := m.backlogs.modify b fun backlog => { backlog with waiting := backlog.waiting ++ [id] } })
        | _ => (.error .connectionRefused, m)
      | .ok _ => (.error .connectionRefused, m)

/-- The other side reads no more, or is gone altogether. -/
def turnAway (id : Nat) (m : Machine) : Machine :=
  m.changeConnection id fun c => { c with deaf := true }

/-- Everything that the other side can read now, and whether that is the end. -/
def read (id : Nat) (m : Machine) : Option (List UInt8 × Bool) × Machine :=
  match m.connections[id]? with
  | none => (none, m)
  | some c =>
    let (bytes, ended, c) := c.read
    (some (bytes, ended), m.changeConnection id fun _ => c)

/-- The other side reads up to the end of one line. -/
def readLine (id : Nat) (m : Machine) : List UInt8 × Machine :=
  match m.connections[id]? with
  | none => ([], m)
  | some c =>
    let line := c.unread.takeWhile (· != 10)
    let n := min (line.length + 1) c.unread.length
    let left := c.unread.drop n
    (c.unread.take n,
      m.changeConnection id fun c => { c with unread := left, held := if left.isEmpty then 0 else c.held })

end Machine

end KeyFeed.Host
