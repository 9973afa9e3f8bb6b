import StateCheck.Failure
import StateCheck.Number.Reading

/-!
Addresses of devices: a host with or without a port.
-/

namespace StateCheck.Device.Address

def standardPort : Int := 6030

/-- The host and the text of the port, which is empty if there is none. A host in brackets may
hold colons; what follows the bracket counts only behind a colon. -/
def parts (address : List Char) : List Char × List Char :=
  match address with
  | '[' :: rest =>
    match Text.cutAt ']' rest with
    | (host, some (':' :: port)) => (host, port)
    | (host, some _) => (host, [])
    | (host, none) => (host.dropLast, [])
  | _ =>
    match Text.cutAt ':' address with
    | (host, some port) => if port.contains ':' then (address, []) else (host, port)
    | (_, none) => (address, [])

/-- The host and the port of an address. -/
def split (address : String) (port : Int) : Except Failure (String × Int) :=
  let (host, text) := parts address.toList
  let host := String.ofList host
  if text.isEmpty then .ok (host, port)
  else
    match Numeral.readInt? text with
    | some port => .ok (host, port)
    | none =>
      .error ((Failure.of .connect ("Invalid port '" ++ String.ofList text ++ "'") []).on address)

end StateCheck.Device.Address
