import ScriptFormat.Text.Width

/-!
# Tab stops

A tab fills its line up to the next stop, and with at least one space. Columns
are counted for the text between two tabs as a whole, its last space included.
-/

namespace ScriptFormat.Text

def tab : CodePoint := 9

/-- Tab stops are this many columns apart. -/
def tabStop : Nat := 8

/-- Fills the parts of a line between its tabs, from a column on. -/
def fillParts : Nat → List Text → Text
  | _, [] => []
  | _, [last] => last
  | column, part :: next :: rest =>
      let reached := column + columns (part ++ spaces 1)
      let missing := (tabStop - reached % tabStop) % tabStop
      part ++ spaces (1 + missing) ++ fillParts (reached + missing) (next :: rest)

def expandTabs (text : Text) : Text :=
  join [10] ((lines text).map fun line => fillParts 0 (splitOn (· == tab) line))

end ScriptFormat.Text
