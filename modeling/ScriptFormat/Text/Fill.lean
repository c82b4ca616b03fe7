import ScriptFormat.Text.Basic

/-!
# Filled paragraphs

A text is cut into words, blanks and the parts of hyphenated words, and as many
of these as fit go on each line. A word longer than a whole line is broken,
behind a hyphen if it has one in reach. The words are ASCII.
-/

namespace ScriptFormat.Fill

def hyphen : CodePoint := 45

def isLetter (point : CodePoint) : Bool :=
  (65 ≤ point.val && point.val ≤ 90) || (97 ≤ point.val && point.val ≤ 122) || point.val == 95

/-- Letters, digits and the punctuation that may end a word. -/
def isWordMark (point : CodePoint) : Bool :=
  isLetter point || point.isAsciiDigit || [33, 34, 38, 39, 44, 46, 63].contains point.val

/-- Whether what was read, last first, is the front of a hyphenated word. -/
def opensHyphen : Text → Bool
  | last :: previous :: rest =>
      (isLetter last && isLetter previous) ||
        (isWordMark last && previous == hyphen && (rest.head?.any isLetter))
  | _ => false

/-- Whether what follows is the back of a hyphenated word. -/
def closesHyphen : Text → Bool
  | first :: second :: rest =>
      isLetter first && (isLetter second || (second == hyphen && rest.head?.any isLetter))
  | _ => false

/-- The parts of a word; `seen` is all that was read of it and `part` what is not yet given out. -/
def partsFrom (seen part : Text) : Text → List Text
  | [] => if part.isEmpty then [] else [part.reverse]
  | point :: rest =>
      if point = hyphen ∧ !part.isEmpty ∧ opensHyphen seen ∧ closesHyphen rest then
        (point :: part).reverse :: partsFrom (point :: seen) [] rest
      else partsFrom (point :: seen) (point :: part) rest

/-- Words in parts with a space between two words. -/
def chunks : List Text → List Text
  | [] => []
  | [only] => partsFrom [] [] only
  | word :: rest => partsFrom [] [] word ++ [[32]] ++ chunks rest

def isSpace (chunk : Text) : Bool := chunk.all CodePoint.isBlank

/-- The chunks that fit next to `used` columns, and the others. -/
def takeFitting (width : Nat) : Nat → List Text → List Text × List Text
  | _, [] => ([], [])
  | used, chunk :: rest =>
      if used + chunk.length ≤ width then
        let (taken, left) := takeFitting width (used + chunk.length) rest
        (chunk :: taken, left)
      else ([], chunk :: rest)

/-- How much of a long word to put into the `room` that a line has left. -/
def breakAt (room : Nat) (word : Text) : Nat :=
  let reach := word.take room
  let behind := (reach.reverse.dropWhile (· != hyphen)).length
  if room < word.length ∧ 1 < behind ∧ (reach.take (behind - 1)).any (· != hyphen) then behind
  else room

def dropLastSpace (line : List Text) : List Text :=
  match line.getLast? with
  | some last => if isSpace last then line.dropLast else line
  | none => line

/-- Lines from chunks; each round uses up a chunk or a code point, and `rounds` bounds them. -/
def linesFrom (width : Nat) : Nat → Bool → List Text → List Text
  | 0, _, _ => []
  | _, _, [] => []
  | rounds + 1, started, first :: rest =>
      let chunks := if started && isSpace first then rest else first :: rest
      let (taken, left) := takeFitting width 0 chunks
      let (taken, left) := match left with
        | [] => (taken, [])
        | word :: others =>
            if width < word.length then
              let count := breakAt (width - taken.flatten.length) word
              (taken ++ [word.take count], word.drop count :: others)
            else (taken, left)
      let line := dropLastSpace taken
      if line.isEmpty then linesFrom width rounds started left
      else line.flatten :: linesFrom width rounds true left

/-- The lines of a text, of at most `width` columns each; runs of blanks count as one space. -/
def lines (width : Nat) (text : Text) : List Text :=
  let chunks := chunks text.words
  linesFrom width (text.length + chunks.length + 1) false chunks

def paragraph (width : Nat) (text : Text) : Text := Text.join "\n" (lines width text)

end ScriptFormat.Fill
