import ScriptFormat.FileTree.Resolve

/-!
# Edits of a file tree

Making and removing entries, as other programs do it while a run is under way. An
edit that the tree does not admit fails and changes nothing.
-/

namespace ScriptFormat.FileTree

inductive Edit where
  | write (path : Text) (content : Bytes)
  | makeDirectory (path : Text)
  | link (path target : Text)
  | delete (path : Text)

/-- The place of an entry, and whether its name was given with a slash behind it. -/
structure Entry where
  place : Place
  slashed : Bool

def Edit.files : Edit → List Text
  | .write path _ => [path]
  | .makeDirectory path => [path]
  | .link path target => [target, path]
  | .delete path => [path]

/-- The entry that a route ends at, where a link is not followed; a route that ends at the root,
here or up has none. -/
def entry? (tree : FileTree) (route : Route) : Except PathFault (Option Entry) := do
  let names := route.names.filter fun name => !name.isEmpty
  match ← tree.follow false route names.dropLast, names.getLast? with
  | .directory directory, some name =>
      if name = Path.here ∨ name = Path.up then return none
      else if maxName < Path.nameLength name then throw .nameTooLong
      else return some { place := name :: directory, slashed := names != route.names }
  | .directory _, none => return none
  | .file .., _ => throw .notDirectory
  | .vacant _, _ => throw .notFound

/-- The entry where something is to be made. -/
def vacancy (tree : FileTree) (route : Route) : Except PathFault Entry := do
  match ← tree.entry? route with
  | none => throw .exists
  | some entry => if (tree.node? entry.place).isSome then throw .exists else return entry

def makeDirectory (tree : FileTree) (route : Route) : Except PathFault FileTree := do
  return tree.set (← tree.vacancy route).place .directory

def makeLink (tree : FileTree) (route : Route) (target : Text) : Except PathFault FileTree := do
  if target.isEmpty then throw .notFound
  if maxPath ≤ Path.nameLength target then throw .nameTooLong
  let entry ← tree.vacancy route
  if entry.slashed then throw .notFound
  return tree.set entry.place (.link target)

/-- Removes a directory with everything in it, or a file, or a link but not its target. -/
def remove (tree : FileTree) (route : Route) : Except PathFault FileTree := do
  match ← tree.entry? route with
  | none =>
      match ← tree.resolve false route with
      | .directory _ => throw .invalid
      | .file .. => throw .notDirectory
      | .vacant _ => throw .notFound
  | some entry =>
      match tree.node? entry.place with
      | none => throw .notFound
      | some .directory => return tree.erase entry.place
      | some _ => if entry.slashed then throw .notDirectory else return tree.erase entry.place

/-- Names without bytes are refused before the tree is looked at. -/
def edit (tree : FileTree) (edit : Edit) : Except Fault FileTree :=
  match edit.files.findSome? Path.refusal? with
  | some fault => .error fault
  | none =>
      match edit with
      | .write path content =>
          (tree.writable (.ofText path)).map fun place => tree.set place (.file content)
      | .makeDirectory path =>
          (tree.makeDirectory (.ofText path)).mapError (·.fault edit.files)
      | .link path target =>
          (tree.makeLink (.ofText path) target).mapError (·.fault edit.files)
      | .delete path => (tree.remove (.ofText path)).mapError (·.fault edit.files)

/-- The first edit that fails stops the others; those in front of it stay. -/
def edits (tree : FileTree) : List Edit → Except Fault Unit × FileTree
  | [] => (.ok (), tree)
  | first :: rest =>
      match tree.edit first with
      | .ok tree => edits tree rest
      | .error fault => (.error fault, tree)

end ScriptFormat.FileTree
