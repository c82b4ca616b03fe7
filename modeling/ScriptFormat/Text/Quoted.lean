import ScriptFormat.Text.Printable

/-!
# Quoted texts

A text between quotes, on one line and in printable code points only.
-/

namespace ScriptFormat.Text

def apostrophe : CodePoint := 39

def quotationMark : CodePoint := 34

def backslash : CodePoint := 92

def quoteInner (quote point : CodePoint) : Text :=
  if point = quote ∨ point = backslash then [backslash, point]
  else if point = 10 then "\\n"
  else if point = 13 then "\\r"
  else if point = 9 then "\\t"
  else if point.isPrintable then [point]
  else escapeOf point

/-- Apostrophes enclose a text, unless it holds apostrophes and no quotation mark. -/
def quoteFor (text : Text) : CodePoint :=
  if text.contains apostrophe && !text.contains quotationMark then quotationMark else apostrophe

/-- Escapes all that is not ASCII. -/
def asciiOnly (text : Text) : Text :=
  text.flatMap fun point => if point.val < 128 then [point] else escapeOf point

def quoted (text : Text) : Text :=
  let quote := quoteFor text
  [quote] ++ text.flatMap (quoteInner quote) ++ [quote]

end ScriptFormat.Text
