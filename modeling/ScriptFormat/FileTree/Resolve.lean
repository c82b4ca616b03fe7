import ScriptFormat.FileTree.Basic

/-!
# Path resolution

A route is followed name by name from a directory. Links are followed as well, on
the way and at the end, up to a fixed number of them.
-/

namespace ScriptFormat

inductive PathFault where
  | notFound
  | notDirectory
  | isDirectory
  | exists
  | invalid
  | tooManyLinks
  | nameTooLong
  deriving DecidableEq

/-- Where a route leads. Nothing is at a vacant place, but its directory exists. -/
inductive Target where
  | directory (place : Place)
  | file (place : Place) (content : Bytes)
  | vacant (place : Place)
  deriving DecidableEq

def PathFault.code : PathFault → Int
  | .notFound => 2
  | .exists => 17
  | .notDirectory => 20
  | .isDirectory => 21
  | .invalid => 22
  | .nameTooLong => 36
  | .tooManyLinks => 40

def PathFault.reason : PathFault → Text
  | .notFound => "No such file or directory"
  | .notDirectory => "Not a directory"
  | .isDirectory => "Is a directory"
  | .exists => "File exists"
  | .invalid => "Invalid argument"
  | .nameTooLong => "File name too long"
  | .tooManyLinks => "Too many levels of symbolic links"

def PathFault.fault (fault : PathFault) (files : List Text) : Fault :=
  .system fault.code fault.reason files

namespace FileTree

/-- The most bytes that a name may have. -/
def maxName : Nat := 255

/-- A route of this many bytes is too long. -/
def maxPath : Nat := 4096

/-- The most links that one resolution follows. -/
def maxLinks : Nat := 40

def originOf (route : Route) (directory : Place) : Place :=
  if route.absolute then [] else directory

/-- Follows names below a directory, where `follow` goes on from a link. What a name with a slash
behind it leads to cannot be created as a file. -/
def walkWith (tree : FileTree) (creating : Bool)
    (follow : Place → List Text → Except PathFault Target) :
    Place → List Text → Except PathFault Target
  | directory, [] => .ok (.directory directory)
  | directory, name :: rest =>
      if name.isEmpty || name = Path.here then walkWith tree creating follow directory rest
      else if name = Path.up then walkWith tree creating follow directory.tail rest
      else if creating && rest = [[]] then .error .isDirectory
      else if maxName < Path.nameLength name then .error .nameTooLong
      else match tree.node? (name :: directory) with
        | none => if rest.isEmpty then .ok (.vacant (name :: directory)) else .error .notFound
        | some .directory => walkWith tree creating follow (name :: directory) rest
        | some (.file content) =>
            if rest.isEmpty then .ok (.file (name :: directory) content) else .error .notDirectory
        | some (.link target) =>
            let route := Route.ofText target
            follow (originOf route directory) (route.names ++ rest)

/-- Follows names with `links` links left to follow. -/
def walk (tree : FileTree) (creating : Bool) :
    Nat → Place → List Text → Except PathFault Target
  | 0 => walkWith tree creating fun _ _ => .error .tooManyLinks
  | links + 1 => walkWith tree creating (walk tree creating links)

/-- Follows names from where a route starts. -/
def follow (tree : FileTree) (creating : Bool) (route : Route) (names : List Text) :
    Except PathFault Target :=
  if route.text.isEmpty then .error .notFound
  else if maxPath ≤ Path.nameLength route.text then .error .nameTooLong
  else walk tree creating maxLinks (originOf route tree.start) names

def resolve (tree : FileTree) (creating : Bool) (route : Route) : Except PathFault Target :=
  tree.follow creating route route.names

/-- The bytes of the file that a route leads to. -/
def read (tree : FileTree) (route : Route) : Except Fault Bytes :=
  match route.refusal? with
  | some fault => .error fault
  | none =>
      match tree.resolve false route with
      | .error fault => .error (fault.fault [route.text])
      | .ok (.file _ content) => .ok content
      | .ok (.directory _) => .error (PathFault.isDirectory.fault [route.text])
      | .ok (.vacant _) => .error (PathFault.notFound.fault [route.text])

/-- The place of the file that writing by a route replaces or creates. -/
def writable (tree : FileTree) (route : Route) : Except Fault Place :=
  match route.refusal? with
  | some fault => .error fault
  | none =>
      match tree.resolve true route with
      | .error fault => .error (fault.fault [route.text])
      | .ok (.file place _) => .ok place
      | .ok (.vacant place) => .ok place
      | .ok (.directory _) => .error (PathFault.isDirectory.fault [route.text])

end FileTree

end ScriptFormat
