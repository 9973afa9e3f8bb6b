import StateCheck.Breakdown
import StateCheck.Text.Blank
import StateCheck.Text.Quoted
import StateCheck.Text.Utf8

/-!
Files around a working directory: reading, writing, and why the system refuses either.
-/

namespace StateCheck

namespace Files

inductive Entry
  | file (bytes : List UInt8)
  | directory
deriving DecidableEq

/-- Why the system refuses to use a file. -/
inductive Refusal
  | missing
  | present
  | notDirectory
  | isDirectory
  | nameTooLong
deriving DecidableEq

def Refusal.reason : Refusal → String
  | missing => "[Errno 2] No such file or directory"
  | present => "[Errno 17] File exists"
  | notDirectory => "[Errno 20] Not a directory"
  | isDirectory => "[Errno 21] Is a directory"
  | nameTooLong => "[Errno 36] File name too long"

/-- The message for a refusal at a path. -/
def Refusal.text (r : Refusal) (path : String) : String :=
  r.reason ++ ": " ++ String.ofList (Text.quoted path.toList)

def Refusal.breakdown : Refusal → Breakdown
  | missing => .fileMissing
  | present => .fileExists
  | notDirectory => .notDirectory
  | isDirectory => .isDirectory
  | nameTooLong => .system

/-! ### Paths of files -/

/-- The names on a path; empty ones and single dots do not count. -/
def parts (path : String) : List String :=
  ((Text.splitWhere (· = '/') path.toList).map String.ofList).filter fun s =>
    !(s = "" || s = ".")

/-- The slashes that an absolute path starts with: two if there are exactly two, else one. -/
def root (path : String) : String :=
  match (path.toList.takeWhile (· = '/')).length with
  | 0 => ""
  | 2 => "//"
  | _ => "/"

/-- The text of a path without needless parts. -/
def normal (path : String) : String :=
  match root path ++ Text.joinWith "/" (parts path) with
  | "" => "."
  | text => text

end Files

/-- The place at which a path starts: the root or the working directory. -/
def Files.origin (path : String) : List String := if Files.root path = "" then [] else ["/"]

/-- What the files are, by their places: the names that lead to them from the working directory,
or from the root, which is written as a slash. -/
structure Files where
  entries : List (List String × Files.Entry)

namespace Files

/-- Whether a place is the working directory or above it. -/
def isAbove (place : List String) : Bool := place.all fun name => name = ".."

def at? (fs : Files) (place : List String) : Option Entry :=
  if isAbove place ∨ place = ["/"] then some .directory else fs.entries.lookup place

/-- The directory that two dots stand for at a place. -/
def parent (place : List String) : List String :=
  if place = ["/"] then place else if isAbove place then place ++ [".."] else place.dropLast

def setEntry (place : List String) (entry : Entry) :
    List (List String × Entry) → List (List String × Entry)
  | [] => [(place, entry)]
  | (p, e) :: rest =>
    if p = place then (p, entry) :: rest else (p, e) :: setEntry place entry rest

def set (fs : Files) (place : List String) (entry : Entry) : Files :=
  ⟨setEntry place entry fs.entries⟩

/-- The files with every directory on the way to a place. -/
def withParents (fs : Files) (place : List String) : Files :=
  (List.range place.length).foldl (fun fs n =>
    if (fs.at? (place.take n)).isSome then fs else fs.set (place.take n) .directory) fs

def ofList (files : List (String × Entry)) : Files :=
  files.foldl (fun fs f =>
    let place := origin f.1 ++ parts f.1
    (fs.withParents place).set place f.2) ⟨[]⟩

/-- The longest name, in bytes. -/
def nameLimit : Nat := 255

/-- The place that names lead to from another place; all but the last have to be directories. -/
def walk (fs : Files) (place : List String) : List String → Except Refusal (List String)
  | [] => .ok place
  | name :: names =>
    match fs.at? place with
    | none => .error .missing
    | some (.file _) => .error .notDirectory
    | some .directory =>
      if name = ".." then walk fs (parent place) names
      else if nameLimit < name.utf8ByteSize then .error .nameTooLong
      else walk fs (place ++ [name]) names

/-- The longest path, in bytes. -/
def pathLimit : Nat := 4095

/-- The place of a path. -/
def locate (fs : Files) (path : String) : Except Refusal (List String) :=
  if pathLimit < (normal path).utf8ByteSize then .error .nameTooLong
  else fs.walk (origin path) (parts path)

def entry (fs : Files) (path : String) : Except Refusal Entry := do
  match fs.at? (← fs.locate path) with
  | some e => .ok e
  | none => .error .missing

/-- Whether a path leads to a regular file. A name that is too long is refused even here. -/
def isFile (fs : Files) (path : String) : Except Refusal Bool :=
  if path.toList.contains '\x00' then .ok false
  else
    match fs.entry path with
    | .ok (.file _) => .ok true
    | .error .nameTooLong => .error .nameTooLong
    | _ => .ok false

def read (fs : Files) (path : String) : Except Refusal (List UInt8) := do
  match ← fs.entry path with
  | .file bytes => .ok bytes
  | .directory => .error .isDirectory

/-- Why a file gives no text. -/
inductive NoText
  | refused (r : Refusal)
  | notUtf8
  /-- The name of the file holds a character that no name can hold. -/
  | badName

/-- The text of a file, with one kind of line break. -/
def readText (fs : Files) (path : String) : Except NoText (List Char) :=
  if path.toList.contains '\x00' then .error .badName
  else
    match fs.read path with
    | .error r => .error (.refused r)
    | .ok bytes =>
      match Text.Utf8.decode? bytes with
      | some cs => .ok (Text.unifyBreaks cs)
      | none => .error .notUtf8

/-! ### Writing -/

/-- The files after a file is written; its directory has to be there. -/
def write (fs : Files) (path : String) (text : String) : Except Refusal Files := do
  let place ← fs.locate path
  match fs.at? place with
  | some .directory => .error .isDirectory
  | some (.file _) => .ok (fs.set place (.file text.toUTF8.toList))
  | none =>
    match fs.at? place.dropLast with
    | some .directory => .ok (fs.set place (.file text.toUTF8.toList))
    | some (.file _) => .error .notDirectory
    | none => .error .missing

/-- The files after a directory is made, to which names lead from an origin. -/
def makeDirectory (fs : Files) (origin names : List String) : Except Refusal Files := do
  let place ← fs.walk origin names
  if (fs.at? place).isSome then .error .present
  else
    match fs.at? place.dropLast with
    | some .directory => .ok (fs.set place .directory)
    | some (.file _) => .error .notDirectory
    | none => .error .missing

def isDirectoryAt (fs : Files) (origin names : List String) : Bool :=
  match fs.walk origin names with
  | .ok place => fs.at? place == some .directory
  | .error _ => false

/-- Makes a directory, given by its names from the last one up, and those above it; a directory
that is there already is fine. -/
def makeAll (origin : List String) (fs : Files) : List String → Except Refusal Files
  | [] => .ok fs
  | name :: up =>
    let names := (name :: up).reverse
    let settle (fs : Files) : Except Refusal Files :=
      match fs.makeDirectory origin names with
      | .ok fs => .ok fs
      | .error r => if fs.isDirectoryAt origin names then .ok fs else .error r
    match fs.makeDirectory origin names with
    | .error .missing => do settle (← makeAll origin fs up)
    | _ => settle fs

/-- Makes the directories in which a file is to be written. -/
def makeParents (fs : Files) (path : String) : Except Refusal Files :=
  makeAll (origin path) fs (parts path).reverse.tail

end Files

end StateCheck
