import KeyFeed.Adapter.Loopback
import KeyFeed.Supervisor.Basic

/-! The supervisor on a machine, with the adapter that lives inside the program. -/

namespace KeyFeed.Supervisor
open Bus Host Adapter Feed Session

/-- How the command of a transition runs on a machine. -/
abbrev Runner := Transition → String → Machine → Except ActionError Unit × Machine

/-- The machine, the adapter, the endpoint of the session that runs, and what was noticed. -/
structure Deployment where
  machine : Machine
  adapter : Loopback Unit
  endpoint : Option Endpoint
  actions : List (Transition × String)
  notices : List Notice

namespace Deployment

/-- Everything closed. -/
def onMachine (m : Machine) : Deployment := ⟨m, .fresh, none, [], []⟩

def note (notices : List Notice) (d : Deployment) : Deployment := { d with notices := d.notices ++ notices }

def broadcast (line : String) (d : Deployment) : Nat × Deployment :=
  match d.endpoint with
  | none => (0, d)
  | some e =>
    let (n, notices, e, m) := e.broadcast line d.machine
    (n, { d with machine := m, endpoint := some e }.note notices)

/-- The connections that wait are taken up while the endpoint is open. -/
def accept (d : Deployment) : Deployment :=
  match d.endpoint with
  | none => d
  | some e =>
    let (_, notices, e, m) := e.accept d.machine
    { d with machine := m, endpoint := some e }.note notices

def openFeed (path : String) (d : Deployment) : Except SocketError Unit × Deployment :=
  match Endpoint.openAt path d.machine with
  | (.error e, notices, m) => (.error e, { d with machine := m }.note notices)
  | (.ok e, notices, m) => (.ok (), { d with machine := m, endpoint := some e }.note notices)

def closeFeed (d : Deployment) : Deployment :=
  match d.endpoint with
  | none => d
  | some e =>
    let (notices, _, m) := e.close d.machine
    { d with machine := m, endpoint := none }.note notices

def rig (run : Runner) : Rig Deployment where
  broadcast := broadcast
  runAction t command d :=
    let (result, m) := run t command d.machine
    (result, { d with machine := m, actions := d.actions ++ [(t, command)] })
  notify n d := d.note [n]
  openAdapter settings d :=
    let (result, adapter) := d.adapter.openFor settings ()
    (result, { d with adapter := adapter })
  closeAdapter inactive d := { d with adapter := d.adapter.close inactive }
  setTarget target d :=
    let (result, adapter) := d.adapter.setTarget target
    (result, { d with adapter := adapter })
  claimSource d :=
    let (result, adapter) := d.adapter.makeActive
    (result, { d with adapter := adapter })
  openFeed := openFeed
  closeFeed := closeFeed

/-- How many subscribers there are; between sessions there are none. -/
def subscriberCount (d : Deployment) : Nat := (d.endpoint.map Endpoint.subscriberCount).getD 0

/-- Whoever connects is taken up at once while the endpoint is open. -/
def connect (path : String) (d : Deployment) : Except OsError Nat × Deployment :=
  let (result, m) := d.machine.connect path
  (result, { d with machine := m }.accept)

end Deployment

end KeyFeed.Supervisor
