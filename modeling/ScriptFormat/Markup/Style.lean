import ScriptFormat.Markup.Colour

/-!
# Style names

A tag may name its style in several ways: attributes have short names, come in
any order and can be negated, and colours follow. A name that reads as a style
is put into one form; any other is only trimmed and put into small letters.
-/

namespace ScriptFormat.Markup

/-- The attributes in the order in which they are written, with their short names. -/
def attributes : List (Text × List Text) :=
  [("bold", ["b"]), ("dim", ["d"]), ("italic", ["i"]), ("underline", ["u"]), ("blink", []),
    ("blink2", []), ("reverse", ["r"]), ("conceal", ["c"]), ("strike", ["s"]),
    ("underline2", ["uu"]), ("frame", []), ("encircle", []), ("overline", ["o"])]

def attribute? (word : Text) : Option Text :=
  (attributes.find? fun (name, short) => name == word || short.contains word).map (·.1)

structure Style where
  switched : List (Text × Bool) := []
  colour : Option Text := none
  background : Option Text := none
  link : Option Text := none

namespace Style

def switch (style : Style) (name : Text) (on : Bool) : Style :=
  { style with switched := (name, on) :: style.switched }

/-- Reads the words of a style from left to right; a later word overrides an earlier one. -/
def readWords (style : Style) : List Text → Except ColourFault Style
  | [] => .ok style
  | word :: rest =>
      let word := word.lower
      if word = "on" then
        match rest with
        | [] => .error .unknown
        | colour :: rest => do
            Colour.read colour.lower
            readWords { style with background := some colour.lower } rest
      else if word = "not" then
        match rest with
        | [] => .error .unknown
        | name :: rest =>
            match attribute? name with
            | some name => readWords (style.switch name false) rest
            | none => .error .unknown
      else if word = "link" then
        match rest with
        | [] => .error .unknown
        | link :: rest => readWords { style with link := some link } rest
      else match attribute? word with
        | some name => readWords (style.switch name true) rest
        | none => do
            Colour.read word
            readWords { style with colour := some word } rest

/-- No words, or the word that says so, stand for the plain style. -/
def read (name : Text) : Except ColourFault Style :=
  if name.trim = "none" then .ok {} else readWords {} name.words

def words (style : Style) : List Text :=
  (attributes.filterMap fun (name, _) =>
      (style.switched.lookup name).map fun on => if on then name else "not " ++ name) ++
    style.colour.toList ++
    (match style.background with
      | some colour => ["on", colour]
      | none => []) ++
    (match style.link with
      | some link => ["link", link]
      | none => [])

def text (style : Style) : Text :=
  if style.words.isEmpty then "none" else Text.join " " style.words

end Style

/-- The one form of a style name. -/
def normalizeStyle (name : Text) : Except ColourFault Text :=
  match Style.read name with
  | .ok style => .ok style.text
  | .error .unknown => .ok name.trim.lower
  | .error fault => .error fault

end ScriptFormat.Markup
