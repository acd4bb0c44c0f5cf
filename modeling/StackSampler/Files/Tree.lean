import StackSampler.Files.Path
import StackSampler.Flamegraph.Image

/-!
# Files

A tree of directories and files, with a current directory. A place in it is a list of names from the
root. Operations fail as the system calls of the same purpose do; a path is walked from the left, and
the first fault on the way wins.

* `Tree.find` tells what is at a path, `Tree.create` and `Tree.makeDirectory` change the tree.
-/

namespace StackSampler.Files

/-- Why the system refused. -/
inductive OsError where
  | notFound
  | exists
  | notDirectory
  | isDirectory
  | nameTooLong
  /-- The path cannot be handed to the system: it holds the character that ends one. -/
  | embeddedNul
  /-- There is nothing above a path that could be created. -/
  | noRoot
  deriving DecidableEq, Repr

def OsError.message : OsError → String
  | .notFound => "No such file or directory (os error 2)"
  | .exists => "File exists (os error 17)"
  | .notDirectory => "Not a directory (os error 20)"
  | .isDirectory => "Is a directory (os error 21)"
  | .nameTooLong => "File name too long (os error 36)"
  | .embeddedNul => "file name contained an unexpected NUL byte"
  | .noRoot => "failed to create whole tree"

/-- What a file holds. Images are kept as what they say. -/
inductive Content where
  | bytes (b : ByteArray)
  | image (i : Flamegraph.Image)
  deriving Inhabited

namespace Content

def ofText (s : String) : Content := .bytes s.toUTF8

def toBytes : Content → ByteArray
  | .bytes b => b
  | .image i => i.markup.toUTF8

end Content

inductive Node where
  | directory
  | file (content : Content)
  deriving Inhabited

def Node.isDirectory : Node → Bool
  | .directory => true
  | .file _ => false

/-- Whether two nodes look the same. -/
def Node.same : Node → Node → Bool
  | .directory, .directory => true
  | .file a, .file b => a.toBytes.toList == b.toBytes.toList
  | _, _ => false

/-- Names from the root. -/
abbrev Place := List String

/-- All files and directories but the root, and the current directory. -/
structure Tree where
  nodes : List (Place × Node) := [(["home"], .directory)]
  here : Place := ["home"]
  deriving Inhabited

namespace Tree

/-- The bytes that a name and a path may have. -/
def longestName : Nat := 255

def longestPath : Nat := 4095

variable (t : Tree)

/-- What is at a place. -/
def node? (place : Place) : Option Node :=
  if place.isEmpty then some .directory else t.nodes.lookup place

def isDirectoryAt (place : Place) : Bool := (t.node? place).any Node.isDirectory

/-- Puts a node at a place, over one that is there. -/
def put (place : Place) (node : Node) : Tree :=
  { t with nodes := (t.nodes.filter fun (p, _) => p != place) ++ [(place, node)] }

/-- One step of a walk: what a segment leads to from a place that has to be a directory. -/
def step (place : Place) (segment : String) : Except OsError Place :=
  if !t.isDirectoryAt place then .error .notDirectory
  else if segment = "." then .ok place
  else if segment = ".." then .ok place.dropLast
  else if longestName < segment.utf8ByteSize then .error .nameTooLong
  else if (t.node? (place ++ [segment])).isSome then .ok (place ++ [segment])
  else .error .notFound

/-- Where segments lead to. -/
def walk (path : Path) (segments : List String) : Except OsError Place :=
  segments.foldlM t.step (if path.absolute then [] else t.here)

/-! ## Paths -/

/-- A path that the system takes. -/
def accept (text : String) : Except OsError Path :=
  if text.toList.contains (Char.ofNat 0) then .error .embeddedNul
  else if text.isEmpty then .error .notFound
  else if longestPath < text.utf8ByteSize then .error .nameTooLong
  else .ok (Path.ofText text)

/-- The place of a path that exists. -/
def locate (text : String) : Except OsError Place := do
  let path ← accept text
  let place ← t.walk path path.segments
  if path.slashed && !t.isDirectoryAt place then throw .notDirectory
  return place

/-- The node at a path. -/
def find (text : String) : Except OsError Node := do
  let place ← t.locate text
  match t.node? place with
  | some node => return node
  | none => throw .notFound

def pathExists (text : String) : Bool := (t.find text).isOk

def isDirectory (text : String) : Bool :=
  match t.find text with
  | .ok node => node.isDirectory
  | .error _ => false

/-- The directory that a path's last segment is looked up in, and that segment. -/
def approach (text : String) : Except OsError (Path × Place × String) := do
  let path ← accept text
  let place ← t.walk path path.segments.dropLast
  if !t.isDirectoryAt place then throw .notDirectory
  return (path, place, path.segments.getLast?.getD ".")

/-! ## Changes -/

/-- Writes a file, over one that is there. -/
def create (text : String) (content : Content) : Except OsError Tree := do
  let (path, place, name) ← t.approach text
  if path.slashed || name = "." || name = ".." then throw .isDirectory
  if longestName < name.utf8ByteSize then throw .nameTooLong
  if t.isDirectoryAt (place ++ [name]) then throw .isDirectory
  return t.put (place ++ [name]) (.file content)

/-- Makes one directory. -/
def makeDirectory (text : String) : Except OsError Tree := do
  let (_, place, name) ← t.approach text
  if name = "." || name = ".." then throw .exists
  if longestName < name.utf8ByteSize then throw .nameTooLong
  if (t.node? (place ++ [name])).isSome then throw .exists
  return t.put (place ++ [name]) .directory

/-- The outcome of making a directory that may be there already. -/
def ensured (text : String) (made : Except OsError Tree) : Except OsError Unit × Tree :=
  match made with
  | .ok t => (.ok (), t)
  | .error e => (if t.isDirectory text then .ok () else .error e, t)

/-- Makes a directory and those above it that are missing. What was made before a fault stays.
`fuel` bounds the number of directories above. -/
def makeAllAt : Nat → String → Tree → Except OsError Unit × Tree
  | 0, _, t => (.error .noRoot, t)
  | fuel + 1, text, t =>
    if text.isEmpty then (.ok (), t)
    else
      match t.makeDirectory text with
      | .error .notFound =>
        match Path.parentText text with
        | none => (.error .noRoot, t)
        | some parent =>
          match makeAllAt fuel parent t with
          | (.error e, t) => (.error e, t)
          | (.ok (), t) => t.ensured text (t.makeDirectory text)
      | made => t.ensured text made

def makeAll (text : String) : Except OsError Unit × Tree := makeAllAt (text.length + 1) text t

/-! ## A part of a larger tree -/

/-- The directories on the way to a current directory, and nothing else. -/
def rooted (here : Place) : Tree :=
  { nodes := (List.range here.length).map fun i => (here.take (i + 1), .directory), here }

/-- Takes in what is at a path; the directories above it are there. -/
def learn (text : String) (node : Node) : Tree :=
  match t.approach text with
  | .ok (_, place, name) =>
    if name = "." || name = ".." || (t.node? (place ++ [name])).isSome then t
    else t.put (place ++ [name]) node
  | .error _ => t

/-- What is new or different since an earlier tree, in the order of making. -/
def changes (earlier : Tree) : List (Place × Node) :=
  t.nodes.filter fun (place, node) => !(earlier.node? place).any node.same

/-! ## Listing -/

/-- A place as seen from the current directory, with a slash behind directories. -/
def shown (place : Place) (node : Node) : String :=
  "/".intercalate (place.drop t.here.length) ++ if node.isDirectory then "/" else ""

/-- All paths below the current directory, sorted. -/
def list : List String :=
  let below := t.nodes.filter fun (place, _) => t.here.isPrefixOf place && place != t.here
  (below.map fun (place, node) => t.shown place node).mergeSort (· ≤ ·)

end Tree

end StackSampler.Files
