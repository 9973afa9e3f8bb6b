import StateCheck.Breakdown
import StateCheck.Text.Blank

/-!
Failures: what went wrong, on which device, and the data that goes with it.
-/

namespace StateCheck

/-- The part of the work that failed. -/
inductive FailureKind
  | malformedPath
  | connect
  | fetch
  | predicate
  | assertionFile
  | inventory
  | config
  | generator
  | general
deriving DecidableEq

structure Failure where
  kind : FailureKind
  message : String
  device : Option String
  details : List (String × String)

namespace Failure

def of (kind : FailureKind) (message : String) (details : List (String × String)) : Failure :=
  ⟨kind, message, none, details⟩

def on (device : String) (f : Failure) : Failure := { f with device := some device }

/-- The message between the device in brackets and the details in parentheses. -/
def text (f : Failure) : String :=
  let device := f.device.getD ""
  let details := Text.joinWith ", " (f.details.map fun d => d.1 ++ "=" ++ d.2)
  Text.joinWith " " <|
    (if device = "" then [] else ["[" ++ device ++ "]"]) ++ [f.message] ++
      if f.details.isEmpty then [] else ["(" ++ details ++ ")"]

end Failure

/-- The state that a remote procedure call reports. -/
inductive Status
  | ok | cancelled | unknown | invalidArgument | deadlineExceeded | notFound | alreadyExists
  | permissionDenied | resourceExhausted | failedPrecondition | aborted | outOfRange
  | unimplemented | internal | unavailable | dataLoss | unauthenticated
deriving DecidableEq

def Status.all : List (String × Status) :=
  [("OK", .ok), ("CANCELLED", .cancelled), ("UNKNOWN", .unknown),
    ("INVALID_ARGUMENT", .invalidArgument), ("DEADLINE_EXCEEDED", .deadlineExceeded),
    ("NOT_FOUND", .notFound), ("ALREADY_EXISTS", .alreadyExists),
    ("PERMISSION_DENIED", .permissionDenied), ("RESOURCE_EXHAUSTED", .resourceExhausted),
    ("FAILED_PRECONDITION", .failedPrecondition), ("ABORTED", .aborted),
    ("OUT_OF_RANGE", .outOfRange), ("UNIMPLEMENTED", .unimplemented), ("INTERNAL", .internal),
    ("UNAVAILABLE", .unavailable), ("DATA_LOSS", .dataLoss),
    ("UNAUTHENTICATED", .unauthenticated)]

def Status.name : Status → String
  | .ok => "OK"
  | .cancelled => "CANCELLED"
  | .unknown => "UNKNOWN"
  | .invalidArgument => "INVALID_ARGUMENT"
  | .deadlineExceeded => "DEADLINE_EXCEEDED"
  | .notFound => "NOT_FOUND"
  | .alreadyExists => "ALREADY_EXISTS"
  | .permissionDenied => "PERMISSION_DENIED"
  | .resourceExhausted => "RESOURCE_EXHAUSTED"
  | .failedPrecondition => "FAILED_PRECONDITION"
  | .aborted => "ABORTED"
  | .outOfRange => "OUT_OF_RANGE"
  | .unimplemented => "UNIMPLEMENTED"
  | .internal => "INTERNAL"
  | .unavailable => "UNAVAILABLE"
  | .dataLoss => "DATA_LOSS"
  | .unauthenticated => "UNAUTHENTICATED"

def Status.ofName? (s : String) : Option Status := Status.all.lookup s

/-- Whatever can interrupt a computation. -/
inductive Fault
  /-- A failure that the program reports, and what it arose from. -/
  | failure (f : Failure) (cause : Option Fault)
  | breakdown (b : Breakdown)
  /-- An error of a device library, known by its text alone. -/
  | plain (text : String)
  /-- A failed remote procedure call. -/
  | call (text : String) (status : Status)
  /-- An error of the session library around the error that it arose from. -/
  | session (text : String) (origin : Option Fault)
  /-- A wait for something that never happens. -/
  | endless

namespace Fault

def ofFailure (f : Failure) : Fault := failure f none

/-- The status that an error carries itself or in the error it wraps. -/
def status? : Fault → Option Status
  | call _ s => some s
  | session _ (some (call _ s)) => some s
  | _ => none

def text : Fault → String
  | failure f _ => f.text
  | breakdown _ | endless => ""
  | plain t | call t _ | session t _ => t

/-- The failure of the given kind that this is, with its cause. -/
def asKind? (k : FailureKind) : Fault → Option (Failure × Option Fault)
  | failure f cause => if f.kind = k then some (f, cause) else none
  | _ => none

end Fault

end StateCheck
