import KeyFeed.Host.Machine

/-! The endpoint to which subscribers connect: a path, the server behind it, and what happens to the file at the path.
    Whoever opens an endpoint takes the place of an earlier one at the same path, and closing removes the file once. -/

namespace KeyFeed.Feed
open Host

/-- Why an endpoint could not be opened or used. -/
inductive SocketError where
  | bind (path : String) (cause : OsError)
  | listen (path : String) (cause : OsError)
  | permissions (path : String) (cause : OsError)
  | closed
  | thread (cause : OsError)
  deriving DecidableEq, Repr

def SocketError.message : SocketError → String
  | .bind path cause => "failed to bind LIRC socket at " ++ path ++ ": " ++ cause.message
  | .listen path cause => "failed to listen on LIRC socket at " ++ path ++ ": " ++ cause.message
  | .permissions path cause => "failed to set permissions on " ++ path ++ ": " ++ cause.message
  | .closed => "LIRC socket is closed"
  | .thread cause => "failed to spawn accept thread: " ++ cause.message

/-- Anyone may connect. -/
def socketMode : Nat := 0o666

structure Endpoint where
  path : String
  backlog : Nat
  server : Server Nat
  deriving DecidableEq, Repr

namespace Endpoint

/-- Makes the directory in which the socket is to be, unless that is the one where the program works. -/
def prepareParent (path : String) (m : Machine) : Except OsError Unit × Machine :=
  match parentPath? path with
  | none => (.ok (), m)
  | some parent =>
    let (made, files) := m.files.makeDirectories (parent.length + 1) parent
    (made, { m with files := files })

/-- Takes away the socket file of an earlier run. What cannot be taken away is left for the bind to meet. -/
def removeStale (path : String) (m : Machine) : List Notice × Machine :=
  match m.files.unlink path with
  | .ok files => ([], { m with files := files })
  | .error .noEntry => ([], m)
  | .error e => ([.staleSocketKept path e], m)

/-- Binds the path and opens it to everyone. -/
def bindTo (path : String) (m : Machine) : Except SocketError Endpoint × Machine :=
  match m.listen path with
  | (.error e, m) => (.error (.bind path e), m)
  | (.ok id, m) => match m.files.setMode path socketMode with
    | .error e => (.error (.permissions path e), m.stopListening id)
    | .ok files => (.ok ⟨path, id, .opened⟩, { m with files := files })

def openAt (path : String) (m : Machine) : Except SocketError Endpoint × List Notice × Machine :=
  if Machine.socketPathLimit ≤ path.utf8ByteSize then
    (.error (.bind path (.pathLongerThan (Machine.socketPathLimit - 1))), [], m)
  else match prepareParent path m with
    | (.error e, m) => (.error (.bind path e), [], m)
    | (.ok (), m) =>
      let (notices, m) := removeStale path m
      match bindTo path m with
      | (.error e, m) => (.error e, notices, m)
      | (.ok e, m) => (.ok e, notices ++ [.listening path], m)

def isOpen (e : Endpoint) : Bool := e.server.listening

def subscriberCount (e : Endpoint) : Nat := e.server.subscribers.length

/-- Takes up whoever waits, and says how many those were. -/
def accept (e : Endpoint) (m : Machine) : Nat × List Notice × Endpoint × Machine :=
  if e.isOpen then
    let (waiting, m) := m.takeWaiting e.backlog
    let pass := e.server.accept (waiting.map .connection ++ [.nothing])
    (pass.accepted, pass.notices, { e with server := pass.server }, m)
  else (0, [], e, m)

/-- Sends a line to everyone, and says how many took all of it. -/
def broadcast (line : String) (e : Endpoint) (m : Machine) : Nat × List Notice × Endpoint × Machine :=
  let (n, server, notices, m) := e.server.broadcast Machine.sendLine line m
  (n, notices, { e with server := server }, m)

/-- Takes away the socket file, whoever made it. -/
def removeFile (path : String) (m : Machine) : List Notice × Machine :=
  match m.files.unlink path with
  | .ok files => ([.socketClosed path], { m with files := files })
  | .error .noEntry => ([.socketClosed path], m)
  | .error e => ([.socketKept path e, .socketClosed path], m)

/-- Stops listening and disconnects everyone. Closing again does nothing. -/
def close (e : Endpoint) (m : Machine) : List Notice × Endpoint × Machine :=
  let m := e.server.subscribers.foldl (fun m sub => m.sever sub.peer) m
  if e.isOpen then
    let (notices, m) := removeFile e.path (m.stopListening e.backlog)
    (notices, { e with server := e.server.close }, m)
  else ([], { e with server := e.server.close }, m)

end Endpoint

end KeyFeed.Feed
