import ScriptFormat.Text.CodecFault

/-!
# Code pages

Encodings of one byte for a character, each by the list of the characters of its
upper bytes.
-/

namespace ScriptFormat

/-- From `start` on, bytes stand for the `upper` code points in turn; below, for themselves. -/
structure CodePage where
  start : Nat
  upper : Text

namespace CodePage

/-- A byte without a character has this in its place. -/
def unassigned : CodePoint := 0xFFFD

def byte? (page : CodePage) (point : CodePoint) : Option UInt8 :=
  if point.val < page.start then some (.ofNat point.val)
  else if point = unassigned then none
  else (page.upper.idxOf? point).map fun index => .ofNat (page.start + index)

def encode (page : CodePage) (text : Text) : Except EncodeFault Bytes :=
  let refuses point := (page.byte? point).isNone
  match EncodeFault.find? "charmap" "character maps to <undefined>" refuses text with
  | some fault => .error fault
  | none => .ok (text.filterMap page.byte?)

def windows1252 : CodePage where
  start := 0x80
  upper := Text.ofString <|
      "€\uFFFD‚ƒ„…†‡ˆ‰Š‹Œ\uFFFDŽ\uFFFD\uFFFD‘’“”•–—˜™š›œ\uFFFDžŸ" ++
      "\u00A0¡¢£¤¥¦§¨©ª«¬\u00AD®¯°±²³´µ¶·¸¹º»¼½¾¿" ++
      "ÀÁÂÃÄÅÆÇÈÉÊËÌÍÎÏÐÑÒÓÔÕÖ×ØÙÚÛÜÝÞß" ++
      "àáâãäåæçèéêëìíîïðñòóôõö÷øùúûüýþÿ"

def windows1250 : CodePage where
  start := 0x80
  upper := Text.ofString <|
      "€\uFFFD‚\uFFFD„…†‡\uFFFD‰Š‹ŚŤŽŹ\uFFFD‘’“”•–—\uFFFD™š›śťžź" ++
      "\u00A0ˇ˘Ł¤Ą¦§¨©Ş«¬\u00AD®Ż°±˛ł´µ¶·¸ąş»Ľ˝ľż" ++
      "ŔÁÂĂÄĹĆÇČÉĘËĚÍÎĎĐŃŇÓÔŐÖ×ŘŮÚŰÜÝŢß" ++
      "ŕáâăäĺćçčéęëěíîďđńňóôőö÷řůúűüýţ˙"

def latin2 : CodePage where
  start := 0xA0
  upper := Text.ofString <|
      "\u00A0Ą˘Ł¤ĽŚ§¨ŠŞŤŹ\u00ADŽŻ°ą˛ł´ľśˇ¸šşťź˝žż" ++
      "ŔÁÂĂÄĹĆÇČÉĘËĚÍÎĎĐŃŇÓÔŐÖ×ŘŮÚŰÜÝŢß" ++
      "ŕáâăäĺćçčéęëěíîďđńňóôőö÷řůúűüýţ˙"

def latin9 : CodePage where
  start := 0xA0
  upper := Text.ofString <|
      "\u00A0¡¢£€¥Š§š©ª«¬\u00AD®¯°±²³Žµ¶·ž¹º»ŒœŸ¿" ++
      "ÀÁÂÃÄÅÆÇÈÉÊËÌÍÎÏÐÑÒÓÔÕÖ×ØÙÚÛÜÝÞß" ++
      "àáâãäåæçèéêëìíîïðñòóôõö÷øùúûüýþÿ"

def ibm437 : CodePage where
  start := 0x80
  upper := Text.ofString <|
      "ÇüéâäàåçêëèïîìÄÅÉæÆôöòûùÿÖÜ¢£¥₧ƒ" ++
      "áíóúñÑªº¿⌐¬½¼¡«»░▒▓│┤╡╢╖╕╣║╗╝╜╛┐" ++
      "└┴┬├─┼╞╟╚╔╩╦╠═╬╧╨╤╥╙╘╒╓╫╪┘┌█▄▌▐▀" ++
      "αßΓπΣσµτΦΘΩδ∞φε∩≡±≥≤⌠⌡÷≈°∙·√ⁿ²■\u00A0"

end CodePage

end ScriptFormat
