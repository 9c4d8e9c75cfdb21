import Columnar.Text.Case
import Columnar.Text.Characters
import Columnar.Text.EmojiTable

namespace Columnar.Text.Emoji

/-- The endings of a name that say how an emoji is drawn, as a text or in colour, and the selectors
that they stand for. -/
def drawings : List (List Char × Char) :=
  [("-text".toList, '\uFE0E'), ("-emoji".toList, '\uFE0F')]

def nameParts (name : List Char) : List Char × List Char :=
  match drawings.find? fun d => d.1.isSuffixOf name with
  | some d => (name.take (name.length - d.1.length), [d.2])
  | none => (name, [])

def ofName? (name : List Char) : Option (List Char) :=
  (emojiNames.lookup (lower (String.ofList name))).map fun ns => ns.map Char.ofNat

def ofCode? (name : List Char) : Option (List Char) :=
  (ofName? (nameParts name).1).map (· ++ (nameParts name).2)

/-- Puts emoji for the names in a text. A colon may be open, with `name` behind it, back to front;
white space shuts it, and so does a second colon, whether or not it ends the name of an emoji. -/
def replaceIn : Option (List Char) → List Char → List Char
  | none, [] => []
  | some name, [] => ':' :: name.reverse
  | none, c :: cs => if c = ':' then replaceIn (some []) cs else c :: replaceIn none cs
  | some name, c :: cs =>
    if c = ':' then
      (ofCode? name.reverse).getD (':' :: (name.reverse ++ [':'])) ++ replaceIn none cs
    else if isSpace c then ':' :: (name.reverse ++ c :: replaceIn none cs)
    else replaceIn (some (c :: name)) cs

def replace (cs : List Char) : List Char := replaceIn none cs

end Columnar.Text.Emoji

/-! Texts with tags in brackets, such as `[bold]`, which give a style to what stands between them. A
text that is to be shown as it is has its tags escaped by a backslash before the bracket. -/
namespace Columnar.Text.Markup

def slashes (n : Nat) : List Char := List.replicate n '\\'

def isTagStart (c : Char) : Bool := ('a' ≤ c && c ≤ 'z') || c == '#' || c == '/' || c == '@'

def closes (cs : List Char) : Bool := (cs.find? fun c => c == '[' || c == ']') == some ']'

def startsTag : List Char → Bool
  | [] => false
  | c :: cs => isTagStart c && closes cs

def escapeTags (n : Nat) : List Char → List Char
  | [] => slashes n
  | c :: cs =>
    if c = '\\' then escapeTags (n + 1) cs
    else if c = '[' ∧ startsTag cs then slashes (2 * n + 1) ++ c :: escapeTags 0 cs
    else slashes n ++ c :: escapeTags 0 cs

/-- Doubles a single backslash at the end, which else would escape what follows. -/
def closeEnd (cs : List Char) : List Char :=
  if (cs.reverse.takeWhile (· == '\\')).length = 1 then cs ++ slashes 1 else cs

def escape (cs : List Char) : List Char := closeEnd (escapeTags 0 cs)

def ontoFirst (cs : List Char) : List (List Char) → List (List Char)
  | [] => [cs]
  | p :: ps => (cs ++ p) :: ps

mutual

/-- The pieces shown of a text behind `n` backslashes. Before a tag every two backslashes show one,
and a last one shows the tag in place of a style; before another opening bracket one is dropped.
Tags, shown or not, and the backslashes before them part the text into pieces. -/
def piecesBehind (n : Nat) : List Char → List (List Char)
  | [] => [slashes n]
  | c :: cs =>
    if c = '\\' then piecesBehind (n + 1) cs
    else if c = '[' then
      if startsTag cs then
        [] :: slashes (n / 2) ::
          if n % 2 = 0 then piecesBehindTag cs else ontoFirst [c] (piecesWithTag cs)
      else ontoFirst (slashes (n - 1) ++ [c]) (piecesBehind 0 cs)
    else ontoFirst (slashes n ++ [c]) (piecesBehind 0 cs)

def piecesBehindTag : List Char → List (List Char)
  | [] => []
  | c :: cs => if c = ']' then piecesBehind 0 cs else piecesBehindTag cs

def piecesWithTag : List Char → List (List Char)
  | [] => []
  | c :: cs => if c = ']' then [c] :: piecesBehind 0 cs else ontoFirst [c] (piecesWithTag cs)

end

/-- What is shown of a text, with emoji for their names. A name does not go on beyond its piece. -/
def shown (cs : List Char) : List Char := (piecesBehind 0 cs).flatMap Emoji.replace

def styled (name : String) (cs : List Char) : List Char :=
  ('[' :: name.toList ++ [']']) ++ cs ++ ('[' :: '/' :: name.toList ++ [']'])

end Columnar.Text.Markup
