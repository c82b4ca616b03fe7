import ScriptFormat.Text.Lowercase
import ScriptFormat.Text.Tabs

/-!
# Emoji codes

A name between two colons stands for an emoji. The name may end in a variant,
which chooses how the emoji shows. Codes that name no emoji stay as they are. Which
names there are is up to the renderer.
-/

namespace ScriptFormat.Markup

def colon : CodePoint := 58

/-- What an emoji may consist of: anything but colons and tabs. -/
def isPicture (point : CodePoint) : Bool := point != colon && point != Text.tab

/-- The emojis that a renderer knows, by their names in small letters. -/
structure EmojiTable where
  entries : List (Text × Text)
  pictures : ∀ entry ∈ entries, ∀ point ∈ entry.2, isPicture point = true
  deriving DecidableEq

/-- A table without emojis. -/
def EmojiTable.empty : EmojiTable where
  entries := []
  pictures := by simp

def variants : List (Text × CodePoint) := [("-text", 0xFE0E), ("-emoji", 0xFE0F)]

/-- The text up to the next colon, if there is no blank in it. -/
def codeName? : Text → Option Text
  | [] => none
  | point :: rest =>
      if point = colon then some []
      else if point.isBlank then none
      else (codeName? rest).map (point :: ·)

/-- The plain name and the code point of the variant. -/
def splitVariant (name : Text) : Text × Text :=
  match variants.find? fun variant => name.endsWith variant.1 with
  | some (ending, point) => (name.take (name.length - ending.length), [point])
  | none => (name, [])

def emoji? (emojis : EmojiTable) (code : Text) : Option Text :=
  let (name, variant) := splitVariant code
  (emojis.entries.lookup name.lower).map fun emoji => emoji ++ variant

/-- Replaces codes, with `skip` code points of a code to pass over. -/
def replaceCodesFrom (emojis : EmojiTable) : Nat → Text → Text
  | _, [] => []
  | skip + 1, _ :: rest => replaceCodesFrom emojis skip rest
  | 0, point :: rest =>
      if point = colon then
        match codeName? rest with
        | some code =>
            ((emoji? emojis code).getD ([colon] ++ code ++ [colon])) ++
              replaceCodesFrom emojis (code.length + 1) rest
        | none => point :: replaceCodesFrom emojis 0 rest
      else point :: replaceCodesFrom emojis 0 rest

def replaceCodes (emojis : EmojiTable) (text : Text) : Text := replaceCodesFrom emojis 0 text

end ScriptFormat.Markup
