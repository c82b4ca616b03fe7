import ScriptFormat.Path

/-!
# File trees

A file tree maps places to directories, files and links. A place lists the names
on the way to it, the innermost first, so that a parent is a tail.
-/

namespace ScriptFormat

abbrev Place := List Text

inductive Node where
  | directory
  | file (content : Bytes)
  | link (target : Text)
  deriving DecidableEq

/-- The entries below the root, with the place that relative paths start from. -/
structure FileTree where
  start : Place
  entries : List (Place × Node)

namespace FileTree

/-- The root is always a directory. -/
def node? (tree : FileTree) : Place → Option Node
  | [] => some .directory
  | place => tree.entries.lookup place

def set (tree : FileTree) (place : Place) (node : Node) : FileTree :=
  { tree with entries := (place, node) :: tree.entries.filter fun entry => entry.1 != place }

/-- Takes a place away with everything below it. -/
def erase (tree : FileTree) (place : Place) : FileTree :=
  { tree with entries := tree.entries.filter fun entry => !place.isSuffixOf entry.1 }

theorem node?_set_self (tree : FileTree) (name : Text) (place : Place) (node : Node) :
    (tree.set (name :: place) node).node? (name :: place) = some node := by
  simp [node?, set]

theorem lookup_filter_ne {entries : List (Place × Node)} {place other : Place}
    (distinct : other ≠ place) :
    (entries.filter fun entry => entry.1 != place).lookup other = entries.lookup other := by
  induction entries with
  | nil => rfl
  | cons entry rest ih =>
      obtain ⟨key, node⟩ := entry
      by_cases same : key = place
      · have apart : (other == key) = false := beq_eq_false_iff_ne.mpr (same ▸ distinct)
        simp [List.lookup_cons, ih, same, same ▸ apart]
      · simp [List.lookup_cons, ih, same]

theorem node?_set_ne (tree : FileTree) {place other : Place} (node : Node)
    (distinct : other ≠ place) :
    (tree.set place node).node? other = tree.node? other := by
  cases other with
  | nil => rfl
  | cons name rest =>
      have apart : ((name :: rest) == place) = false := beq_eq_false_iff_ne.mpr distinct
      simp [node?, set, List.lookup_cons, lookup_filter_ne distinct, apart]

end FileTree

end ScriptFormat
