/-!
What a session needs to log in to a device.
-/

namespace StateCheck

structure Credentials where
  username : String
  password : String
  insecure : Bool
deriving DecidableEq

namespace Credentials

def none : Credentials := ⟨"", "", false⟩

def orElse (s t : String) : String := if s = "" then t else s

/-- The credentials with whatever they leave open filled from others. -/
def fill (c d : Credentials) : Credentials :=
  ⟨orElse c.username d.username, orElse c.password d.password, c.insecure || d.insecure⟩

end Credentials

end StateCheck
