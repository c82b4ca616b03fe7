import ScriptFormat.Markup.Emoji
import ScriptFormat.Markup.Handler
import ScriptFormat.Markup.Piece
import ScriptFormat.Markup.Style

/-!
# Rendering markup without colours

Tags only open and close styles here, so nothing is left of them; what matters is
that every closing tag finds an open one, and that styles can be read. The text
between tags loses escapes in front of brackets and control characters, and its
emoji codes are replaced.
-/

namespace ScriptFormat.Markup

/-- A closing tag that closes nothing, with its position in the markup, or a tag that cannot be
read. -/
inductive MarkupFault where
  | unmatched (tag : Text) (position : Nat)
  | nothingOpen (position : Nat)
  | handler (fault : HandlerFault)
  | colour (fault : ColourFault)
  deriving DecidableEq

/-- Text without tags, or a tag at its position. -/
inductive Segment where
  | plain (text : Text)
  | tag (position : Nat) (body : Text)
  deriving DecidableEq

def MarkupFault.message : MarkupFault → Text
  | .unmatched tag position =>
      "closing tag '[" ++ tag ++ "]' at position " ++ Text.ofNat position ++
        " doesn't match any open tag"
  | .nothingOpen position =>
      "closing tag '[/]' at position " ++ Text.ofNat position ++ " has nothing to close"
  | .handler fault => fault.message
  | .colour fault => fault.message

def plainUnless (text : Text) : List Segment := if text.isEmpty then [] else [.plain text]

/-- A tag with backslashes in front: half of them show, and an odd one makes the tag show too. -/
def tagSegments (position slashes : Nat) (body : Text) : List Segment :=
  plainUnless (backslashes (slashes / 2)) ++
    [if slashes % 2 = 1 then .plain ([opening] ++ body ++ [closing])
    else .tag (position + slashes) body]

/-- Segments from pieces, where `plain` is the text since the last tag. -/
def segmentsFrom : Nat → Text → List Piece → List Segment
  | _, plain, [] => plainUnless plain
  | position, plain, .point point :: rest => segmentsFrom (position + 1) (plain ++ [point]) rest
  | position, plain, .tag slashes body :: rest =>
      plainUnless plain ++ tagSegments position slashes body ++
        segmentsFrom (position + slashes + body.length + 2) [] rest

def segments (markup : Text) : List Segment := segmentsFrom 0 [] (scan markup)

def bracketEscape : Text := [backslash, opening]

/-- The control characters that never show. -/
def isDropped (point : CodePoint) : Bool := [7, 8, 11, 12, 13].contains point.val

def showPlain (emojis : EmojiTable) (text : Text) : Text :=
  (replaceCodes emojis (Text.replace bracketEscape [opening] text)).filter fun point =>
    !isDropped point

def slash : CodePoint := 47

/-- An open tag, with what its equals sign gives and the column of the text where it starts. -/
structure OpenTag where
  name : Text
  parameters : Option Text
  start : Nat
  deriving DecidableEq

/-- A stretch of the shown text that is to have a style. -/
structure Span where
  start : Nat
  stop : Nat
  style : Text
  deriving DecidableEq

/-- What markup shows, with its styles. -/
structure Rendering where
  text : Text
  spans : List Span
  deriving DecidableEq

namespace OpenTag

/-- Tags for handlers have no style. -/
def isHandler (tag : OpenTag) : Bool := tag.name.startsWith "@"

def style (tag : OpenTag) : Text :=
  match tag.parameters with
  | some parameters => tag.name ++ " " ++ parameters
  | none => tag.name

def spanTo (tag : OpenTag) (stop : Nat) : Span := { start := tag.start, stop, style := tag.style }

/-- The span of a tag that was closed; the parameters of a handler are read only then. -/
def closedAt (tag : OpenTag) (stop : Nat) : Except MarkupFault (List Span) :=
  if tag.isHandler then
    match tag.parameters.bind Handler.fault? with
    | some fault => .error (.handler fault)
    | none => .ok []
  else .ok [tag.spanTo stop]

end OpenTag

/-- A name and what stands behind the first equals sign. -/
def splitBody (body : Text) : Text × Option Text :=
  match body.cutAt? 61 with
  | some (name, parameters) => (name, some parameters)
  | none => (body, none)

def normalized (name : Text) : Except MarkupFault Text :=
  (normalizeStyle name).mapError .colour

/-- The tag that a closing tag closes, the innermost of that name or of all, and the others. -/
def close (position : Nat) (body name : Text) (tags : List OpenTag) :
    Except MarkupFault (OpenTag × List OpenTag) :=
  if name.trim.isEmpty then
    match tags with
    | [] => .error (.nothingOpen position)
    | tag :: outer => .ok (tag, outer)
  else do
    let name ← normalized name.trim
    match tags.find? fun tag => tag.name == name with
    | some tag => return (tag, tags.eraseP fun tag => tag.name == name)
    | none => throw (.unmatched body position)

/-- The open tags after a tag, and the span that it ends. -/
def applyTag (position length : Nat) (body : Text) (tags : List OpenTag) :
    Except MarkupFault (List OpenTag × List Span) := do
  let (name, parameters) := splitBody body
  match name with
  | 47 :: name =>
      let (tag, tags) ← close position body name tags
      return (tags, ← tag.closedAt length)
  | name => return ({ name := ← normalized name, parameters, start := length } :: tags, [])

/-- Renders segments behind a text of some length; tags still open at the end reach up to it. -/
def renderSegments (emojis : EmojiTable) (length : Nat) (tags : List OpenTag) :
    List Segment → Except MarkupFault Rendering
  | [] =>
      let spans := tags.map (·.spanTo length)
      .ok { text := [], spans := spans.filter fun span => !span.style.isEmpty }
  | .plain text :: rest => do
      let shown := showPlain emojis text
      let rendering ← renderSegments emojis (length + shown.length) tags rest
      return { rendering with text := shown ++ rendering.text }
  | .tag position body :: rest => do
      let (tags, spans) ← applyTag position length body tags
      let rendering ← renderSegments emojis length tags rest
      return { rendering with spans := spans ++ rendering.spans }

namespace Rendering

/-- The spans by their start; of two with one start the later comes first. -/
def sorted (rendering : Rendering) : List Span :=
  rendering.spans.reverse.mergeSort fun first second => first.start ≤ second.start

/-- Renderings one after the other, with a space between two. -/
def joined : Nat → List Rendering → Rendering
  | _, [] => { text := [], spans := [] }
  | offset, rendering :: rest =>
      let separator : Text := if rest.isEmpty then [] else " "
      let others := joined (offset + rendering.text.length + separator.length) rest
      { text := rendering.text ++ separator ++ others.text
        spans := (rendering.sorted.map fun span =>
          { span with start := offset + span.start, stop := offset + span.stop }) ++ others.spans }

/-- Whether something of a span is left when the text is cut into lines and at tabs: line ends
belong to no line. -/
def keeps (text : Text) (span : Span) : Bool :=
  if text.contains 10 then
    ((text.take span.stop).drop span.start).any fun point => !point.isNewline
  else !text.contains 9 || span.start < span.stop

/-- The first style that cannot be read; a name that is no style is none of them. -/
def styleFault? (rendering : Rendering) : Option ColourFault :=
  rendering.spans.findSome? fun span =>
    match Style.read span.style with
    | .error .unknown => none
    | .error fault => if keeps rendering.text span then some fault else none
    | .ok _ => none

end Rendering

/-- Renders the markup of several objects, with a space between two. -/
def render (emojis : EmojiTable) (objects : List Text) : Except MarkupFault Text := do
  let renderings ← objects.mapM fun markup => renderSegments emojis 0 [] (segments markup)
  let rendering := Rendering.joined 0 renderings
  match rendering.styleFault? with
  | some fault => throw (.colour fault)
  | none => return rendering.text

end ScriptFormat.Markup
