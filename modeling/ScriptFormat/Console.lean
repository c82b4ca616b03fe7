import ScriptFormat.Fault
import ScriptFormat.Markup.Render
import ScriptFormat.Text.Tabs

/-!
# Console messages

Messages for the user, as markup where it can be rendered and as plain text
otherwise. Texts that come from outside are escaped, so they never act as markup.
-/

namespace ScriptFormat

/-- Whether markup can be rendered, and then with which emojis. -/
inductive Console where
  | rendering (emojis : Markup.EmojiTable)
  | plain
  deriving DecidableEq

namespace Console

/-- Makes a text show as it is. -/
def escape : Console → Text → Text
  | .rendering _, text => Markup.escape text
  | .plain, text => text

/-- A colour that cannot be read is a fault of a value. -/
def markupFault : Markup.MarkupFault → Fault
  | .colour fault => .ofValue fault.message
  | fault => .foreign .other "MarkupError" fault.message

/-- The objects rendered one by one, with a space between two and tabs filled. -/
def rendered (emojis : Markup.EmojiTable) (objects : List Text) : Except Fault Text :=
  ((Markup.render emojis objects).map Text.expandTabs).mapError markupFault

/-- What printing shows: the objects as markup, or else `instead` or the objects themselves. -/
def print (console : Console) (objects : List Text) (instead : Option Text) : Except Fault Text :=
  match console with
  | .rendering emojis => (rendered emojis objects).map (· ++ "\n")
  | .plain => .ok (instead.getD (Text.join " " objects) ++ "\n")

def printError (console : Console) (message : Text) : Except Fault Text :=
  console.print ["[bold red]Error:[/bold red] " ++ console.escape message]
    (some ("Error: " ++ message))

def printHint (console : Console) (hint : Text) : Except Fault Text :=
  console.print ["[yellow]Hint:[/yellow] " ++ console.escape hint] (some ("Hint: " ++ hint))

def printDifference (console : Console) (message : Text) : Except Fault Text :=
  console.print ["[bold yellow]" ++ message ++ "[/bold yellow]"] (some message)

def printAborted (console : Console) : Except Fault Text :=
  console.print ["\n[yellow]Aborted by user.[/yellow]"] (some "\nAborted by user.")

def printUnexpected (console : Console) (fault : Fault) : Except Fault Text :=
  console.print
    ["[bold red]Unexpected error.[/bold red] Please report this issue.\n  " ++ fault.name ++
      ": " ++ console.escape fault.message]
    (some ("Unexpected error. Please report this issue.\n  " ++
      fault.name ++ ": " ++ fault.message))

end Console

end ScriptFormat
