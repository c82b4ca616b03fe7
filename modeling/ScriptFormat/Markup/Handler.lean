import ScriptFormat.Markup.Literal.Check
import ScriptFormat.Text.Quoted
import ScriptFormat.Text.Width

/-!
# Handlers in markup

A tag may name a handler for an event. Its parameters are the name of a function
and the arguments in brackets, either of which may be missing, or else a literal
of any kind. Arguments have to be a literal as well.
-/

namespace ScriptFormat.Markup

inductive HandlerFault where
  | unreadable (literal parameters reason : Text)
  | valueless (parameters reason : Text)
  deriving DecidableEq

def HandlerFault.message : HandlerFault → Text
  | .unreadable literal parameters reason =>
      "error parsing " ++ literal.quoted ++ " in " ++ parameters.quoted ++ "; " ++ reason
  | .valueless parameters reason => "error parsing " ++ parameters.quoted ++ "; " ++ reason

namespace Handler

/-- Letters and digits that take up a column, underscores and dots. -/
def isInName (point : CodePoint) : Bool :=
  point.val == 46 || (point.isInName && 0 < point.columns)

/-- The arguments behind the name of a function, without which a function has none. -/
def arguments? (parameters : Text) : Option Text :=
  let rest : Text := parameters.dropWhile isInName
  if rest.isEmpty then some "()"
  else if rest.startsWith "(" && rest.endsWith ")" && !rest.contains 10 then some rest
  else none

def literal (parameters : Text) : Text := (arguments? parameters.trim).getD parameters.trim

/-- Why the parameters of a handler cannot be used; there may be no parameters at all. -/
def fault? (parameters : Text) : Option HandlerFault :=
  if parameters.isEmpty then none
  else match Literal.fault? (literal parameters) with
    | none => none
    | some (.invalid reason) => some (.unreadable (literal parameters) parameters reason)
    | some (.valueless reason) => some (.valueless parameters reason)

end Handler

end ScriptFormat.Markup
