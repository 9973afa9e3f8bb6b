import StateCheck.Device.Connection
import StateCheck.Failure
import StateCheck.Table
import StateCheck.Text.Case

/-!
The kinds of clients that are known, by the names of their transports in lower case.
-/

namespace StateCheck.Device

/-- A kind of client: the standard one, or one that was registered under the given name. -/
inductive ClientKind
  | standard
  | custom (name : String)
deriving DecidableEq

structure Registry where
  kinds : Table ClientKind

namespace Registry

def key (transport : String) : String := String.ofList (Text.lower transport.toList)

/-- The standard client together with others; of one name the last registration counts. -/
def ofCustom (names : List String) : Registry :=
  ⟨names.foldl (fun t name => t.put (key name) (.custom name))
    (Table.empty.put Connection.standardTransport .standard)⟩

/-- The kind of client for a connection. -/
def choose (r : Registry) (c : Connection) : Except Failure ClientKind :=
  match r.kinds.get? (key c.transport) with
  | some kind => .ok kind
  | none =>
    .error ((Failure.of .connect ("Unsupported transport '" ++ c.transport ++ "'. Supported: " ++
      Text.joinWith ", " (Text.sorted r.kinds.names)) []).on c.address)

end Registry

end StateCheck.Device
