import ScriptFormat.Text.Basic

/-!
# Advice to update

A hint about a failing formatter ends with how to update it, said only once.
-/

namespace ScriptFormat.Advice

def marker : Text := "Also try updating gdtoolkit:"

def command : Text := "    pip install --upgrade gdtoolkit"

def suggestUpgrade (hint : Text) : Text :=
  if Text.includes marker hint then hint else Text.join "\n" [hint, marker, command]

end ScriptFormat.Advice
