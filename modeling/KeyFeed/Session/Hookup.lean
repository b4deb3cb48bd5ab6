import KeyFeed.Adapter.Loopback
import KeyFeed.Session.Record

/-! The adapter inside the program and those who listen to it: every opening has a listener of its own, and all of them
    report to one station. -/

namespace KeyFeed.Session
open Adapter Bus

/-- The listeners have the numbers by which the adapter knows them, in the order of the attempts to open it. -/
structure Hookup where
  adapter : Loopback Nat
  listeners : List Listener
  station : Station
  record : Record
  deriving DecidableEq, Repr

namespace Hookup

def fresh : Hookup := ⟨.fresh, [], .fresh true .unset "", .empty⟩

/-- The same hookup with an empty queue that runs, and nothing written down yet. -/
def turnPage (h : Hookup) : Hookup :=
  { h with record := .empty, station := { h.station with queue := h.station.queue.start } }

/-- Listener number `i` hears a notification. -/
def hear (i : Nat) (n : Notification) (h : Hookup) : Hookup :=
  match h.listeners[i]? with
  | none => h
  | some l =>
    let (station, l, record) := h.station.deliver (Record.outlet fun _ => none) l n h.record
    { h with station := station, listeners := h.listeners.set i l, record := record }

/-- Listeners are told one after another. -/
def tell (calls : List (Nat × Notification)) (h : Hookup) : Hookup := calls.foldl (fun h (i, n) => h.hear i n) h

/-- Something happens on the bus; whether anyone hears it. -/
def inject (n : Notification) (h : Hookup) : Bool × Hookup :=
  let (heard, calls) := h.adapter.inject n
  (heard, h.tell calls)

def openFor (settings : OpenSettings) (h : Hookup) : Except AdapterError Unit × Hookup :=
  let i := h.listeners.length
  let h := { h with listeners := h.listeners ++ [Listener.fresh] }
  match h.adapter.openFor settings i with
  | (.error e, adapter) => (.error e, { h with adapter := adapter })
  | (.ok reports, adapter) => (.ok (), { h with adapter := adapter }.tell (reports.map (i, ·)))

/-- A request to the adapter that no one hears. -/
def request (f : Loopback Nat → Except AdapterError Unit × Loopback Nat) (h : Hookup) :
    Except AdapterError Unit × Hookup :=
  let (result, adapter) := f h.adapter
  (result, { h with adapter := adapter })

def change (f : Loopback Nat → Loopback Nat) (h : Hookup) : Hookup := { h with adapter := f h.adapter }

/-- The address that the latest listener has heard of. -/
def latestAddress (h : Hookup) : LogicalAddress := (h.listeners.getLast?.map Listener.own).getD .unknown

end Hookup

end KeyFeed.Session
