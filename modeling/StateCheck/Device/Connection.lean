import StateCheck.Credentials
import StateCheck.Number.Binary64

/-!
The parameters of a session with one device.
-/

namespace StateCheck.Device

structure Connection where
  address : String
  credentials : Credentials
  /-- The seconds that opening the session may take. -/
  timeout : Binary64
  /-- The name of the kind of client that opens the session. -/
  transport : String

namespace Connection

def standardTransport : String := "gnmi"

/-- The connection with the credentials that it leaves open filled from others. -/
def fill (c : Connection) (d : Credentials) : Connection :=
  { c with credentials := c.credentials.fill d }

end Connection

end StateCheck.Device
