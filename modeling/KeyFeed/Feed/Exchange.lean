import KeyFeed.Feed.Endpoint

/-! Several endpoints and those who connect to them, all known by names, on one machine. -/

namespace KeyFeed.Feed
open Host

/-- The machine, all endpoints that were ever opened, the names and the loops that hold some of them, the connections
    of the clients, and what was noticed by others than the loops. -/
structure Exchange where
  machine : Machine
  endpoints : List Endpoint
  /-- Which endpoint goes by a name. -/
  names : List (String × Nat)
  /-- For which endpoint a loop runs that was started under a name. -/
  loops : List (String × Nat)
  /-- The names under which a loop was ever started. -/
  looped : List String
  clients : List (String × Nat)
  notices : List Notice
  /-- What is noticed too late for this page. -/
  late : List Notice

namespace Exchange

def onMachine (m : Machine) : Exchange := ⟨m, [], [], [], [], [], [], []⟩

def number? (x : Exchange) (id : String) : Option Nat := (x.names.find? (·.1 == id)).map (·.2)

def server? (x : Exchange) (id : String) : Option Endpoint := (x.number? id).bind fun n => x.endpoints[n]?

def client? (x : Exchange) (name : String) : Option Nat := (x.clients.find? (·.1 == name)).map (·.2)

def note (notices : List Notice) (x : Exchange) : Exchange := { x with notices := x.notices ++ notices }

/-- The same exchange with a new page for what is noticed. -/
def turnPage (x : Exchange) : Exchange := { x with notices := x.late, late := [] }

/-- Has an endpoint do something on the machine; what is noticed comes back with the answer. -/
def act {α : Type} (n : Nat) (f : Endpoint → Machine → α × List Notice × Endpoint × Machine) (x : Exchange) :
    Option (α × List Notice) × Exchange :=
  match x.endpoints[n]? with
  | none => (none, x)
  | some e =>
    let (a, notices, e, m) := f e x.machine
    (some (a, notices), { x with machine := m, endpoints := x.endpoints.set n e })

/-- Has the endpoint of a name do something, and notes what is noticed. -/
def actAs {α : Type} (id : String) (f : Endpoint → Machine → α × List Notice × Endpoint × Machine) (x : Exchange) :
    Option α × Exchange :=
  match x.number? id with
  | none => (none, x)
  | some n => match x.act n f with
    | (none, x) => (none, x)
    | (some (a, notices), x) => (some a, x.note notices)

/-- Each loop takes up what waits. -/
def runLoops (x : Exchange) : Exchange := x.loops.foldl (fun (x : Exchange) (_, n) => (x.act n Endpoint.accept).2) x

def close (id : String) (x : Exchange) : Exchange := (x.actAs id fun e m => ((), e.close m)).2

/-- Closes an endpoint that neither a name nor a loop holds any more, and says what was noticed. -/
def release (n : Nat) (x : Exchange) : List Notice × Exchange :=
  if (x.names ++ x.loops).any (·.2 == n) then ([], x)
  else match x.act n fun e m => ((), e.close m) with
    | (none, x) => ([], x)
    | (some (_, notices), x) => (notices, x)

/-- Forgets the name of an endpoint. -/
def drop (id : String) (x : Exchange) : Exchange :=
  match x.number? id with
  | none => x
  | some n =>
    let (notices, x) := release n { x with names := x.names.filter fun name => name.1 != id }
    x.note notices

/-- Opens an endpoint, which takes the name of an earlier one only when it could be opened. -/
def openServer (id path : String) (x : Exchange) : Except SocketError Unit × Exchange :=
  match Endpoint.openAt path x.machine with
  | (.error e, notices, m) => (.error e, { x with machine := m }.note notices)
  | (.ok e, notices, m) =>
    let former := x.number? id
    let x := note notices { x with
      machine := m
      endpoints := x.endpoints ++ [e]
      names := (x.names.filter fun name => name.1 != id) ++ [(id, x.endpoints.length)] }
    match former with
    | none => (.ok (), x)
    | some n =>
      let (late, x) := x.release n
      (.ok (), { x with late := late })

/-- Connects a client; a former connection of that name ends. -/
def connect (name path : String) (x : Exchange) : Except OsError Unit × Exchange :=
  match x.machine.connect path with
  | (.error e, m) => (.error e, { x with machine := m })
  | (.ok c, m) =>
    let m := match x.client? name with
      | some former => m.turnAway former
      | none => m
    let x : Exchange := { x with machine := m, clients := x.clients.filter (·.1 != name) ++ [(name, c)] }
    (.ok (), x.runLoops)

def accept (id : String) (x : Exchange) : Option Nat × Exchange := x.actAs id Endpoint.accept

def broadcast (id line : String) (x : Exchange) : Option Nat × Exchange := x.actAs id (Endpoint.broadcast line)

/-- Sends a line again and again, at most `fuel` times, until no one is left who takes it. -/
def flood (id line : String) : Nat → Exchange → Exchange
  | 0, x => x
  | fuel + 1, x =>
    if ((x.server? id).map Endpoint.subscriberCount).getD 0 = 0 then x
    else flood id line fuel (x.broadcast id line).2

/-- Ends the loop that was started under a name. -/
def stopLoop (id : String) (x : Exchange) : Exchange :=
  match x.loops.find? (·.1 == id) with
  | none => x
  | some (_, n) => (release n { x with loops := x.loops.filter fun loop => loop.1 != id }).2

/-- Starts a loop for an endpoint that is open, in place of an earlier one of that name. -/
def startLoop (id : String) (x : Exchange) : Option (Except SocketError Unit) × Exchange :=
  match x.number? id, x.server? id with
  | some n, some e =>
    if e.isOpen then
      let x := x.stopLoop id
      (some (.ok ()), { x with loops := x.loops ++ [(id, n)], looped := id :: x.looped }.runLoops)
    else (some (.error .closed), x)
  | _, _ => (none, x)

/-- Everything that a client can read now, and whether that is the end. -/
def read (name : String) (x : Exchange) : Option (List UInt8 × Bool) × Exchange :=
  match x.client? name with
  | none => (none, x)
  | some c =>
    let (read, m) := x.machine.read c
    (read, { x with machine := m })

/-- A client reads no more; whether there is such a client. -/
def turnAway (name : String) (x : Exchange) : Bool × Exchange :=
  match x.client? name with
  | none => (false, x)
  | some c => (true, { x with machine := x.machine.turnAway c })

/-- A client is gone; whether there was one. -/
def dropClient (name : String) (x : Exchange) : Bool × Exchange :=
  let (found, x) := x.turnAway name
  (found, { x with clients := x.clients.filter (·.1 != name) })

/-- Takes away a file; whether that could be done. -/
def unlink (path : String) (x : Exchange) : Bool × Exchange :=
  match x.machine.files.unlink path with
  | .ok files => (true, { x with machine := { x.machine with files := files } })
  | .error _ => (false, x)

end Exchange

end KeyFeed.Feed
