import KeyFeed.Notice

/-! Who receives the feed. A subscriber gets the next free number when its connection is accepted and keeps it; a
    send that does not take the whole line ends the subscription at once, so no subscriber ever sees the rest of
    a broken line. A server that stopped listening has no subscribers and gets none. -/

namespace KeyFeed.Feed
open Host

/-- One connection that receives the feed. -/
structure Subscriber (κ : Type) where
  id : Nat
  peer : κ
  deriving DecidableEq, Repr

/-- The subscribers in the order of their acceptance, and the number given out last. -/
structure Server (κ : Type) where
  listening : Bool
  subscribers : List (Subscriber κ)
  lastId : Nat
  deriving DecidableEq, Repr

/-- How a send of one line to one connection went. -/
inductive Sent where
  /-- So many bytes were taken. -/
  | took (bytes : Nat)
  | failed (cause : OsError)
  deriving DecidableEq, Repr

/-- What is wrong with a send of a line of so many bytes, if anything is. -/
def Sent.fault? (total : Nat) : Sent → Option OsError
  | took n => if n = total then none else some (.shortWrite n total)
  | failed e => some e

/-- What one attempt to accept a connection meets. -/
inductive Arrival (κ : Type) where
  | connection (peer : κ)
  /-- A connection that cannot be used for the feed. -/
  | unusable (cause : OsError)
  | interrupted
  /-- No connection is left. -/
  | nothing
  | failed (cause : OsError)
  deriving DecidableEq, Repr

/-- What a pass over the waiting connections did. -/
structure AcceptPass (κ : Type) where
  server : Server κ
  accepted : Nat
  failed : Bool
  notices : List Notice

namespace Server

variable {κ σ : Type}

/-- A server that has just begun to listen. -/
def opened : Server κ := ⟨true, [], 0⟩

def subscribe (peer : κ) (s : Server κ) : Server κ :=
  { s with subscribers := s.subscribers ++ [⟨s.lastId + 1, peer⟩], lastId := s.lastId + 1 }

/-- Takes up what arrives, in order, until nothing is left or an attempt fails. -/
def acceptArrivals (s : Server κ) : List (Arrival κ) → AcceptPass κ
  | [] => ⟨s, 0, false, []⟩
  | .nothing :: _ => ⟨s, 0, false, []⟩
  | .failed e :: _ => ⟨s, 0, true, [.acceptFailed e]⟩
  | .interrupted :: rest => s.acceptArrivals rest
  | .unusable e :: rest =>
    let pass := s.acceptArrivals rest
    { pass with notices := .subscriberUnusable e :: pass.notices }
  | .connection peer :: rest =>
    let admitted := s.subscribe peer
    let pass := admitted.acceptArrivals rest
    { pass with
      accepted := pass.accepted + 1
      notices := .subscriberConnected admitted.lastId admitted.subscribers.length :: pass.notices }

/-- One pass over the waiting connections; a server that does not listen looks at none. -/
def accept (s : Server κ) (arrivals : List (Arrival κ)) : AcceptPass κ :=
  if s.listening then s.acceptArrivals arrivals else ⟨s, 0, false, []⟩

/-- Sends something to each subscriber in turn. -/
def sendEach (send : κ → σ → Sent × σ) : List (Subscriber κ) → σ → List (Subscriber κ × Sent) × σ
  | [], w => ([], w)
  | sub :: subs, w =>
    let (sent, w) := send sub.peer w
    let (sends, w) := sendEach send subs w
    ((sub, sent) :: sends, w)

/-- The subscribers that took all of a line of so many bytes. -/
def kept (bytes : Nat) (sends : List (Subscriber κ × Sent)) : List (Subscriber κ) :=
  (sends.filter fun (_, sent) => (sent.fault? bytes).isNone).map Prod.fst

/-- One notice for each subscriber that did not take all of a line of so many bytes. -/
def dropNotices (bytes : Nat) (sends : List (Subscriber κ × Sent)) : List Notice :=
  sends.filterMap fun (sub, sent) => (sent.fault? bytes).map fun e => .subscriberDropped sub.id e

/-- The number of subscribers that took the whole line, and the server with only those. -/
def broadcast (send : κ → String → σ → Sent × σ) (line : String) (s : Server κ) (w : σ) :
    Nat × Server κ × List Notice × σ :=
  let (sends, w) := sendEach (fun peer => send peer line) s.subscribers w
  let subscribers := kept line.utf8ByteSize sends
  (subscribers.length, { s with subscribers := subscribers }, dropNotices line.utf8ByteSize sends, w)

/-- A server that no longer listens; its former subscribers are for the caller to disconnect. -/
def close (s : Server κ) : Server κ := { s with listening := false, subscribers := [] }

end Server

end KeyFeed.Feed
