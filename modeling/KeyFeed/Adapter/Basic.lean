import KeyFeed.Bus.Event

/-! What every adapter has in common: how it is opened, how it refuses, and how it is listed. -/

namespace KeyFeed.Adapter
open Text Bus

/-- With what an adapter is opened; without a device the first one found is taken. -/
structure OpenSettings where
  device : Option String
  osdName : String
  deriving DecidableEq, Repr

inductive AdapterError where
  | noAdapter
  | openFailed (device reason : String)
  | notOpen
  | rejected (reason : String)
  deriving DecidableEq, Repr

def AdapterError.message : AdapterError → String
  | .noAdapter => "no CEC adapter found"
  | .openFailed device reason => "failed to open CEC adapter " ++ device ++ ": " ++ reason
  | .notOpen => "CEC adapter is not open"
  | .rejected reason => "CEC adapter rejected the request: " ++ reason

/-- An adapter as it is found on the machine. -/
structure Descriptor where
  port : String
  path : String
  physical : PhysicalAddress
  vendor : String
  firmware : UInt16
  deriving DecidableEq, Repr

/-- The lines about the adapter that is number `n` in a list, with an empty line after them. -/
def Descriptor.listing (n : Nat) (d : Descriptor) : String :=
  "device:           " ++ decimal n ++ "\n"
    ++ "port:             " ++ d.port ++ "\n"
    ++ "com port:         " ++ d.path ++ "\n"
    ++ "physical address: " ++ d.physical.text ++ "\n"
    ++ "vendor:           " ++ d.vendor ++ "\n"
    ++ "firmware version: " ++ decimal d.firmware.toNat ++ "\n\n"

/-- The list of adapters as a user sees it. -/
def listing (ds : List Descriptor) : String :=
  if ds.isEmpty then "no CEC adapters found\n"
  else decimal ds.length ++ " CEC adapter(s) found:\n"
    ++ String.join (ds.zipIdx.map fun (d, i) => d.listing (i + 1))

end KeyFeed.Adapter
