import StackSampler.Files.Tree
import StackSampler.Snapshot.Format

/-!
# Reading and writing profiles

Snapshots, collapsed stacks and images in files. A writer first looks at the path, then makes the
directories above it that are missing, then writes; what it did before a fault stays done.

* `readSnapshot` gives back what `writeSnapshot` wrote under the same path.
-/

namespace StackSampler.Files

/-- Why a path cannot be written to. -/
inductive PathError where
  | empty
  | directory (path : String)
  | cannotMake (path : String) (cause : OsError)
  deriving DecidableEq, Repr

def PathError.message : PathError → String
  | .empty => "Path is empty"
  | .directory path => "Path is a directory: " ++ path
  | .cannotMake path cause => "Cannot create directory " ++ path ++ ": " ++ cause.message

/-- Why reading or writing a profile failed. -/
inductive OutputError where
  /-- A file could not be opened, for reading or for writing. -/
  | access (cause : OsError)
  /-- A file that was opened could not be read. -/
  | unreadable (cause : OsError)
  /-- A file does not hold a snapshot. -/
  | malformed (cause : Json.Fault)
  | path (cause : PathError)
  deriving Repr

namespace OutputError

def message : OutputError → String
  | .access cause => "Failed to write file: " ++ cause.message
  | .unreadable cause => "Failed to serialize JSON: " ++ cause.message
  | .malformed cause => "Failed to serialize JSON: " ++ cause.message
  | .path cause => "Invalid output path: " ++ cause.message

/-- The message, and the message of the cause where that is an error of its own. -/
def chain (e : OutputError) : List String :=
  e.message :: match e with
    | .access cause => [cause.message]
    | .unreadable cause => [cause.message]
    | .malformed cause => [cause.message]
    | .path _ => []

end OutputError

/-- Changes files and may fail on the way. -/
abbrev Action := ExceptT OutputError (StateM Tree)

/-- A path to write to is not empty and names no directory. -/
def checkPath (text : String) : Action Unit := do
  if text.isEmpty then throw (.path .empty)
  if (← get).isDirectory text then throw (.path (.directory text))

/-- Makes the directory that holds a path, if there is none. -/
def ensureParent (text : String) : Action Unit := do
  match Path.parentText text with
  | none => pure ()
  | some parent =>
    if !parent.isEmpty && !(← get).pathExists parent then
      let (made, t) := (← get).makeAll parent
      set t
      match made with
      | .ok () => pure ()
      | .error e => throw (.path (.cannotMake parent e))

/-- Writes a file. -/
def write (text : String) (content : Content) : Action Unit := do
  checkPath text
  ensureParent text
  match (← get).create text content with
  | .ok t => set t
  | .error e => throw (.access e)

def writeSnapshot (text : String) (s : Snapshot String) : Action Unit :=
  write text (.ofText s.text)

/-- The file of collapsed stacks: every line has an end. -/
def collapsedFile (collapsed : List Collapsed) : String :=
  if collapsed.isEmpty then "" else Collapsed.text collapsed ++ "\n"

def writeCollapsed (text : String) (collapsed : List Collapsed) : Action Unit :=
  write text (.ofText (collapsedFile collapsed))

def writeImage (text : String) (image : Flamegraph.Image) : Action Unit := write text (.image image)

def readSnapshot (text : String) : Action (Snapshot String) := do
  match (← get).find text with
  | .error e => throw (.access e)
  | .ok .directory => throw (.unreadable .isDirectory)
  | .ok (.file content) =>
    match Snapshot.ofBytes content.toBytes with
    | .ok s => return s
    | .error e => throw (.malformed e)

end StackSampler.Files
