import StackSampler.Text.Split

/-!
# Paths

A path is text: segments between slashes, from the root where it starts with a slash, and else from
the current directory. Empty segments mean nothing, and neither does a dot that is not the first
segment.
-/

namespace StackSampler.Files

/-- A path taken apart. -/
structure Path where
  absolute : Bool
  /-- The segments that are not empty, dots among them. -/
  segments : List String
  /-- Whether the last segment has to be a directory. -/
  slashed : Bool
  deriving DecidableEq, Repr

namespace Path

def parts (text : String) : List (List Char) := Text.splitAt '/' text.toList

def ofText (text : String) : Path :=
  { absolute := text.toList.head? = some '/'
    segments := ((parts text).filter fun s => !s.isEmpty).map String.ofList
    slashed := text.toList.getLast? = some '/' }

/-- The paths on the way to a path, the path itself last. -/
def trail (path : Path) : List String :=
  let root := if path.absolute then "/" else ""
  (List.range path.segments.length).map fun i =>
    root ++ "/".intercalate (path.segments.take (i + 1))

/-- Whether a part at a place other than the first means nothing. -/
def isVoid (part : List Char) : Bool := part == [] || part == ['.']

/-- Parts, last one first, without those at the end that mean nothing. The first part of all is
kept: it is a dot of its own, or the root. -/
def dropVoid : List (List Char) → List (List Char)
  | [] => []
  | [first] => [first]
  | part :: rest => if isVoid part then dropVoid rest else part :: rest

/-- The text of the directory that holds a path: its last segment is left out. A single segment is
held by the directory with the empty path; the root and the empty path are held by none. -/
def parentText (text : String) : Option String :=
  match dropVoid (parts text).reverse with
  | [] => none
  | [[]] => none
  | _ :: rest =>
    match (dropVoid rest).reverse with
    | [[]] => some "/"
    | parts => some (String.ofList (Text.joinWith '/' parts))

end Path

end StackSampler.Files
