import AgentSessions.History.Snapshot
import AgentSessions.Json.Writer
import AgentSessions.Store.Error

/-!
# Stores in files

A store keeps one file for every session in a directory, named after the session. A save writes a
temporary file and renames it, so a file is never half written; the medium may fail a save at each
of its three steps. A session whose name could not be a file name is refused.
-/

set_option autoImplicit false

namespace AgentSessions

open Json (Decoder)

/-- What a name in a directory stands for. -/
inductive DirEntry where
  | file (content : ByteArray)
  | directory

/-- A directory; `none` when it does not exist. -/
abbrev Directory := Option (Dict DirEntry)

namespace Directory

def get? (d : Directory) (name : String) : Option DirEntry :=
  d.bind fun entries => entries.get? name

/-- Whether an entry can have this name: names have at most 255 bytes, and a path to one, in a
directory that need not exist, at most 4095. -/
def allows (d : Directory) (name : String) : Bool :=
  decide (name.utf8ByteSize ≤ if d.isSome then 255 else 4095)

def ensure (d : Directory) : Directory :=
  some (d.getD .empty)

/-- The directory with a file, or `none` when the name is too long or stands for a directory. -/
def write? (d : Directory) (name : String) (content : ByteArray) : Option Directory :=
  match d with
  | none => none
  | some entries =>
      match entries.get? name with
      | some .directory => none
      | _ => if d.allows name then some (some (entries.insert name (.file content))) else none

/-- The directory with a file moved over another name, or `none` when one of the two stands for a
directory. -/
def rename? (d : Directory) (source target : String) : Option Directory :=
  match d with
  | none => none
  | some entries =>
      match entries.get? source, entries.get? target with
      | some (.file _), some .directory => none
      | some (.file content), _ =>
          some (some ((entries.erase source).insert target (.file content)))
      | _, _ => none

end Directory

inductive SaveFault where
  | create
  /-- The temporary file cannot be written, and is left with this content or is not there. -/
  | write (left : Option ByteArray)
  | rename

namespace FileStore

/-- Whether a session can have a file: its name has letters, digits, hyphens and underscores of
ASCII, and at least one of them. -/
def isUsable (id : SessionId) : Bool :=
  !id.text.isEmpty && id.text.toList.all fun c => c.isAlphanum || c == '-' || c == '_'

/-- The refusal of a session that cannot have a file. -/
def refusal (id : SessionId) : StoreError :=
  .backend ("session id not usable as a file name: " ++ id.text)

def fileName (id : SessionId) : String :=
  id.text ++ ".json"

def temporaryName (id : SessionId) : String :=
  id.text ++ ".json.tmp"

/-- The snapshot of a session; `none` when it has no file. -/
def load (d : Directory) (id : SessionId) : Except StoreError (Option Snapshot) :=
  if !isUsable id then .error (refusal id)
  else if !d.allows (fileName id) then .error (.io "the name is too long")
  else
    match Directory.get? d (fileName id) with
    | none => .ok none
    | some .directory => .error (.io "is a directory")
    | some (.file content) =>
        match String.fromUTF8? content with
        | none => .error (.serialization .malformed)
        | some text =>
            match Decoder.text? Snapshot.decoder text with
            | .ok s => .ok (some s)
            | .error cause => .error (.serialization cause)

def failed : StoreError := .io "the file system failed"

/-- Writes a file, or leaves what the fault leaves of it. -/
def writeUnless (fault : Option SaveFault) (d : Directory) (name : String) (content : ByteArray) :
    Bool × Directory :=
  match fault with
  | some (.write none) => (false, d)
  | some (.write (some left)) => (false, (Directory.write? d name left).getD d)
  | _ =>
      match Directory.write? d name content with
      | none => (false, d)
      | some d => (true, d)

/-- Saves a snapshot; `fault` tells how the medium fails, if it does. The directory is given back as
the save leaves it. -/
def saveUnless (fault : Option SaveFault) (d : Directory) (id : SessionId)
    (snapshot : Snapshot) : Except StoreError Unit × Directory :=
  if !isUsable id then (.error (refusal id), d)
  else if fault matches some .create then (.error failed, d)
  else
    match writeUnless fault (Directory.ensure d) (temporaryName id)
        snapshot.encode.pretty.toUTF8 with
    | (false, d) => (.error failed, d)
    | (true, d) =>
        if fault matches some .rename then (.error failed, d)
        else
          match Directory.rename? d (temporaryName id) (fileName id) with
          | none => (.error failed, d)
          | some d => (.ok (), d)

/-- Saves a snapshot on a medium that does not fail. -/
def save : Directory → SessionId → Snapshot → Except StoreError Unit × Directory :=
  saveUnless none

end FileStore

end AgentSessions
