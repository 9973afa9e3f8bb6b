import StateCheck.Device.Address
import StateCheck.Device.Connection
import StateCheck.Device.Value
import StateCheck.Device.Waiting
import StateCheck.Path.Reading

/-!
A client that holds at most one session of a session library and asks it for single paths.
-/

namespace StateCheck.Device

/-! ### The session library -/

/-- What comes of a request to a session. -/
inductive Response
  | document (v : Json.Value)
  | failed (e : Fault)
  /-- There is no response while it is waited for. The thread of the request may have sent it by
  the end of the wait or not, and a cancellation of the wait may come meanwhile. -/
  | silent (sent cancels : Bool)

/-- Whether a request is sent while its response is waited for. -/
def Response.isSent : Response → Bool
  | .silent sent _ => sent
  | _ => true

/-- The library that makes sessions: how it fails to make, open or close one, and what its
sessions answer for a path. -/
structure Library where
  installed : Bool
  makeFault : Option Fault
  openFault : Option Fault
  closeFault : Option Fault
  response : String → Response

/-- The library where none is installed. -/
def Library.absent : Library := ⟨false, none, none, none, fun _ => .document (.object [])⟩

/-- A call to the library; sessions are numbered as they are made. -/
inductive Call
  | make (session : Nat) (host : String) (port : Int) (c : Connection)
  | open (session : Nat)
  | get (session : Nat) (path : String)
  | close (session : Nat)

/-- A request to a session. It is sent by a thread of its own, which nobody waits for when the
response is not waited for any longer. -/
structure Request where
  session : Nat
  path : String

/-- What the thread of a request does in the end. -/
def Request.call (r : Request) : Call := .get r.session r.path

/-! ### Faults that mean an absent path -/

def absenceMarks : List String := ["NotFound", "NOT_FOUND", "not found"]

/-- Whether an error means that the path holds no data: its status decides, and its text only if
it has none. -/
def meansAbsent (e : Fault) : Bool :=
  match e.status? with
  | some s => s == .notFound
  | none => absenceMarks.any fun m => Text.occursIn m.toList e.text.toList

/-! ### Documents -/

def missing : Answer := ⟨none, false⟩

/-- The first item of a member that is left out, false or empty in a document without data. -/
def firstItem? (doc : Json.Value) (name : String) : Except Breakdown (Option Json.Value) :=
  match doc with
  | .object _ =>
    match (doc.get? name).filter Json.Value.isTruthy with
    | none => .ok none
    | some (.array items) => .ok items.head?
    | some (.object _) => .error .noMember
    | some (.string s) => .ok ((s.toList.head?).map fun c => .string (String.ofList [c]))
    | some _ => .error .wrongType
  | _ => .error .notMapping

/-- The first update of the first notification of a document. -/
def firstUpdate (doc : Json.Value) : Except Breakdown Answer :=
  match doc with
  | .object _ => do
    match ← firstItem? doc "notification" with
    | none => .ok missing
    | some notification =>
      match ← firstItem? notification "update" with
      | none => .ok missing
      | some (.object members) =>
        .ok ⟨((Json.Value.object members).get? "val").bind Value.ofJson?, true⟩
      | some _ => .error .notMapping
  | _ => .ok missing

/-! ### The client -/

structure Client where
  connection : Connection
  /-- The number of the session that the client holds. -/
  session : Option Nat
  /-- Whether requests are taken. -/
  connected : Bool
  /-- How many sessions have been made. -/
  made : Nat

/-- What a use of a client leads to. -/
structure Use (α : Type) where
  client : Client
  calls : List Call
  /-- The requests that are still to be sent when the use is over. -/
  left : List Request
  outcome : Except Fault α

namespace Client

def new (c : Connection) : Client := ⟨c, none, false, 0⟩

/-- A client with its first session open. -/
def opened (c : Connection) : Client := ⟨c, some 0, true, 1⟩

def isConnected (c : Client) : Bool := c.connected

def failure (c : Client) (kind : FailureKind) (message : String)
    (details : List (String × String)) : Failure :=
  (Failure.of kind message details).on c.connection.address

def cannotOpen (c : Client) (e : Fault) : Fault :=
  .failure (c.failure .connect ("Failed to connect: " ++ e.text)
    [("insecure", if c.connection.credentials.insecure then "True" else "False")]) (some e)

/-- Makes and opens a session. A session held before is let go. -/
def connect (lib : Library) (c : Client) : Use Unit :=
  match Address.split c.connection.address Address.standardPort with
  | .error f => ⟨c, [], [], .error (.ofFailure f)⟩
  | .ok (host, port) =>
    if !lib.installed then
      ⟨c, [], [], .error (.ofFailure (c.failure .connect "pygnmi is not installed" []))⟩
    else
      let make := Call.make c.made host port c.connection
      match lib.makeFault with
      | some e => ⟨c, [make], [], .error (c.cannotOpen e)⟩
      | none =>
        let calls := [make, .open c.made]
        match lib.openFault with
        | some e => ⟨{ c with made := c.made + 1 }, calls, [], .error (c.cannotOpen e)⟩
        | none =>
          ⟨{ c with session := some c.made, connected := true, made := c.made + 1 }, calls, [],
            .ok ()⟩

/-- Closes the session, if there is one; that it fails to close does not matter. -/
def close (lib : Library) (c : Client) : Use Unit :=
  match c.session with
  | none => ⟨c, [], [], .ok ()⟩
  | some n =>
    let closing : Except Fault Unit := lib.closeFault.elim (.ok ()) .error
    ⟨{ c with session := none, connected := false }, [.close n], [],
      closing.tryCatch fun _ => .ok ()⟩

def timeoutText : Option Binary64 → String
  | none => "None"
  | some x => String.ofList (Decimal.text x)

def cancelled (c : Client) (path : String) : Fault :=
  .ofFailure (c.failure .fetch "fetch cancelled" [("path", path)])

def timedOut (c : Client) (path : String) (timeout : Option Binary64) : Fault :=
  let seconds := timeout.elim "" fun x => String.ofList (Decimal.general 3 x)
  .ofFailure (c.failure .fetch ("get timed out after " ++ seconds ++ "s")
    [("path", path), ("timeout", timeoutText timeout)])

/-- What a response that has come makes of a request. -/
def settle (c : Client) (path : String) (timeout : Option Binary64) :
    Response → Except Fault Answer
  | .document doc => (firstUpdate doc).mapError .breakdown
  | .failed e =>
    if meansAbsent e then .ok missing
    else
      .error (.failure (c.failure .fetch ("get failed: " ++ e.text)
        [("path", path), ("timeout", timeoutText timeout)]) (some e))
  | .silent .. => .error .endless

/-- When the events of a wait happen: a response comes at once, if it comes at all. -/
def timesOf (timeout : Option Binary64) (listens : Bool) : Response → Waiting.Times
  | .silent _ cancels =>
    ⟨none, if cancels && listens then some 0 else none, Waiting.limitOf timeout⟩
  | _ => ⟨some 0, none, Waiting.limitOf timeout⟩

/-- A request that was started, and what comes of it. -/
structure Started where
  calls : List Call
  left : List Request
  response : Response

/-- Starts a request. Without a session there is nothing to send it to. -/
def start (lib : Library) (path : String) (c : Client) : Started :=
  match c.session with
  | some n =>
    let request : Request := ⟨n, path⟩
    let response := lib.response path
    if response.isSent then ⟨[request.call], [], response⟩ else ⟨[], [request], response⟩
  | none => ⟨[], [], .failed (.breakdown .notMapping)⟩

/-- Waits for a response. The wait ends at the time limit, and, if a cancellation is listened to,
when that comes. -/
def receive (path : String) (timeout : Option Binary64) (listens : Bool) (response : Response)
    (c : Client) : Except Fault Answer :=
  match Waiting.await (timesOf timeout listens response) with
  | none => .error .endless
  | some (.answered, _) => c.settle path timeout response
  | some (.cancelled, _) => .error (c.cancelled path)
  | some (.timedOut, _) => .error (c.timedOut path timeout)

/-- Asks for a path. -/
def fetch (lib : Library) (path : String) (timeout : Option Binary64)
    (cancellation : Option Bool) (c : Client) : Use Answer :=
  if !c.connected then
    ⟨c, [], [], .error (.ofFailure
      (c.failure .connect "Not connected, call connect() first" []))⟩
  else if cancellation = some true then ⟨c, [], [], .error (c.cancelled path)⟩
  else
    match Path.read path with
    | .error e => ⟨c, [], [], .error (.ofFailure e.failure)⟩
    | .ok p =>
      let started := c.start lib p.text
      ⟨c, started.calls, started.left,
        c.receive p.text timeout cancellation.isSome started.response⟩

/-- Whether asking for a path brings a cancellation. -/
def cancels (lib : Library) (path : String) : Bool :=
  match Path.read path with
  | .ok p =>
    match lib.response p.text with
    | .silent _ cancels => cancels
    | _ => false
  | .error _ => false

/-- Asks for a path in a session of its own. -/
def fetchOnce (lib : Library) (path : String) (timeout : Option Binary64) (c : Client) :
    Use Answer :=
  let opened := c.connect lib
  match opened.outcome with
  | .error e => ⟨opened.client, opened.calls, opened.left, .error e⟩
  | .ok () =>
    let asked := opened.client.fetch lib path timeout none
    let closed := asked.client.close lib
    ⟨closed.client, opened.calls ++ asked.calls ++ closed.calls,
      opened.left ++ asked.left ++ closed.left, asked.outcome⟩

end Client

end StateCheck.Device
