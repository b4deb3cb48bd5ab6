import KeyFeed.Session.ShellAction
import KeyFeed.Session.Record
import KeyFeed.Supervisor.Deployment

/-! A supervisor in operation: its state, its machine, and the clients of its feed in the order in which they connected.
    After everything that is done to it the supervisor goes on until nothing is left to do. -/

namespace KeyFeed.Supervisor
open Bus Host Session

structure Operation where
  run : Runner
  state : State
  world : Deployment
  clients : List Nat

namespace Operation

/-- Actions that go as they are told and leave the machine alone. -/
def recorded (faults : Transition → Option ActionFault) : Runner :=
  fun t command m => (Record.outcome (faults t) t command, m)

/-- Actions that a shell runs. -/
def shell (name : String) : Runner := fun t command m => runShellAction name t.label command m

/-- A supervisor that has not begun. -/
def prepare (run : Runner) (options : Options) (m : Machine) : Operation :=
  ⟨run, .fresh options, .onMachine m, []⟩

def installSignals (o : Operation) : Operation := { o with state := o.state.installSignals }

/-- Goes on until nothing is left to do. -/
def settle (o : Operation) : Operation :=
  let (state, world) := o.state.settle (Deployment.rig o.run) o.world
  { o with state := state, world := world }

def push (c : Command) (o : Operation) : Bool × Operation :=
  let (taken, state) := o.state.push c
  (taken, { o with state := state }.settle)

/-- Something happens on the bus; whether the adapter is open to hear it. -/
def inject (n : Notification) (o : Operation) : Bool × Operation :=
  if o.world.adapter.isOpen then
    let (state, world) := o.state.hear (Deployment.rig o.run) n o.world
    (true, { o with state := state, world := world }.settle)
  else (false, o)

def raise (signal : Signal) (o : Operation) : Operation := { o with state := o.state.raise signal }.settle

def setFailOpen (fail : Bool) (o : Operation) : Operation :=
  { o with world := { o.world with adapter := o.world.adapter.setFailOpen fail } }

/-- A further client connects to a path. -/
def connect (path : String) (o : Operation) : Except OsError Unit × Operation :=
  match o.world.connect path with
  | (.error e, world) => (.error e, { o with world := world })
  | (.ok c, world) => (.ok (), { o with world := world, clients := o.clients ++ [c] })

def changeMachine (f : Machine → Machine) (o : Operation) : Operation :=
  { o with world := { o.world with machine := f o.world.machine } }

/-- Client number `i` reads one line. -/
def readLine (i : Nat) (o : Operation) : List UInt8 × Operation :=
  match o.clients[i]? with
  | none => ([], o)
  | some c =>
    let (bytes, m) := o.world.machine.readLine c
    (bytes, o.changeMachine fun _ => m)

/-- What client number `i` can read now, and whether that is the end. -/
def peek (i : Nat) (o : Operation) : List UInt8 × Bool :=
  match o.clients[i]? with
  | none => ([], true)
  | some c => ((o.world.machine.read c).1).getD ([], true)

/-- Client number `i` ends its connection. -/
def hangUp (i : Nat) (o : Operation) : Operation :=
  match o.clients[i]? with
  | none => o
  | some c => o.changeMachine (·.turnAway c)

/-- How many clients the feed has; between sessions it has none. -/
def subscriberCount (o : Operation) : Nat := o.world.subscriberCount

/-- The program lets go of the supervisor. -/
def retire (o : Operation) : Operation :=
  let (state, world) := o.state.retire (Deployment.rig o.run) o.world
  { o with state := state, world := world }

end Operation

end KeyFeed.Supervisor
