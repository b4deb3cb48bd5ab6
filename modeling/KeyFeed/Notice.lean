import KeyFeed.Adapter.Basic
import KeyFeed.Command.Basic
import KeyFeed.Session.Action

/-! What the program reports while it runs. A notice says what happened; its severity, its wording and the fields
    that go with it follow from that. -/

namespace KeyFeed
open Text Bus Host Adapter Session

inductive Severity where
  | error | warn | info | debug | trace
  deriving DecidableEq, Repr

def Severity.name : Severity → String
  | error => "ERROR"
  | warn => "WARN"
  | info => "INFO"
  | debug => "DEBUG"
  | trace => "TRACE"

inductive Notice where
  | busMessage (gravity : Gravity) (text : String) (time : Nat)
  | configurationChanged (logical : LogicalAddress) (physical : PhysicalAddress)
  | menuLanguage (language : String)
  | linkAlert (alert : Alert)
  | busAlert (alert : Alert)
  | sourceChanged (address : LogicalAddress) (activated : Bool)
  | keyDropped (cause : Key.OutOfRange)
  | actionFailed (cause : ActionError)
  | queueStopped
  | staleSocketKept (path : String) (cause : OsError)
  | listening (path : String)
  | subscriberConnected (id total : Nat)
  | subscriberUnusable (cause : OsError)
  | acceptFailed (cause : OsError)
  | subscriberDropped (id : Nat) (cause : OsError)
  | socketKept (path : String) (cause : OsError)
  | socketClosed (path : String)
  | adapterOpened (osdName : String)
  | targetRefused (target : HdmiAddress) (cause : AdapterError)
  | sessionRunning (session : Nat) (path : String)
  | claimRefused (cause : AdapterError)
  | restarting
  | stopped
  | signalReceived (signal : Int) (command : Command)
  deriving DecidableEq, Repr

namespace Notice

/-- The severity of a message of the adapter. -/
def ofGravity : Gravity → Severity
  | .error => .error
  | .warning => .warn
  | .notice => .info
  | .traffic => .debug
  | .debug => .trace

def severity : Notice → Severity
  | busMessage gravity _ _ => ofGravity gravity
  | actionFailed _ => .error
  | linkAlert _ | keyDropped _ | staleSocketKept _ _ | subscriberUnusable _ | acceptFailed _ | socketKept _ _
  | targetRefused _ _ | claimRefused _ => .warn
  | _ => .info

def message : Notice → String
  | busMessage _ text _ => "cec: " ++ text
  | configurationChanged _ _ => "adapter configuration changed"
  | menuLanguage _ => "TV menu language"
  | linkAlert _ => "CEC link alert, restarting"
  | busAlert _ => "CEC alert"
  | sourceChanged _ _ => "source activation changed"
  | keyDropped cause => "key press dropped: " ++ cause.message
  | actionFailed cause => cause.message
  | queueStopped => "command queue stopped"
  | staleSocketKept _ cause => "could not remove stale socket: " ++ cause.message
  | listening _ => "LIRC socket listening"
  | subscriberConnected _ _ => "subscriber connected"
  | subscriberUnusable cause => "dropping subscriber, cannot make socket non-blocking: " ++ cause.message
  | acceptFailed cause => "accept failed: " ++ cause.message
  | subscriberDropped _ cause => "subscriber dropped: " ++ cause.message
  | socketKept _ cause => "could not remove socket: " ++ cause.message
  | socketClosed _ => "LIRC socket closed"
  | adapterOpened _ => "CEC adapter opened"
  | targetRefused _ cause => "cannot set HDMI target address: " ++ cause.message
  | sessionRunning _ _ => "running"
  | claimRefused cause => "cannot claim active source: " ++ cause.message
  | restarting => "restarting"
  | stopped => "stopped"
  | signalReceived _ _ => "signal received"

/-- The fields with their names, in the order in which they are shown. -/
def fields : Notice → List (String × String)
  | busMessage _ _ time => [("time_ms", decimal time)]
  | configurationChanged logical physical =>
    [("logical_address", logical.text), ("physical_address", physical.text)]
  | menuLanguage language => [("language", language)]
  | linkAlert alert | busAlert alert => [("alert", alert.name)]
  | sourceChanged address activated =>
    [("address", address.text), ("activated", if activated then "true" else "false")]
  | staleSocketKept path _ | listening path | socketKept path _ | socketClosed path => [("path", path)]
  | subscriberConnected id total => [("subscriber", decimal id), ("total", decimal total)]
  | subscriberDropped id _ => [("subscriber", decimal id)]
  | adapterOpened osdName => [("osd_name", osdName)]
  | targetRefused target _ => [("target", target.text)]
  | sessionRunning session path => [("session", decimal session), ("socket", path)]
  | signalReceived signal command => [("signal", toString signal), ("command", command.text)]
  | _ => []

/-- The notice on one line. -/
def text (n : Notice) : String :=
  n.severity.name ++ " " ++ n.message
    ++ String.join (n.fields.map fun (name, value) => " " ++ name ++ "=" ++ value)

end Notice

end KeyFeed
