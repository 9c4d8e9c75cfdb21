import Columnar.Text.Characters
import Columnar.Text.WidthTable

namespace Columnar.Text

def isControl (c : Char) : Bool := c.toNat < 0x20 || (0x7F ≤ c.toNat && c.toNat < 0xA0)

def charWidth (c : Char) : Nat :=
  if isControl c then 0
  else if c.toNat < 0x7F then 1
  else if inRuns joiningRanges c then 0
  else if inRuns wideRanges c then 2
  else 1

def joiner : Char := '\u200D'

/-- Has the character before it drawn as an emoji. -/
def selector : Char := '\uFE0F'

def widening (base : Option Char) : Nat := if base.any (inRuns widenedRanges) then 1 else 0

def withoutJoined : List Char → List Char
  | [] => []
  | [c] => if c = joiner then [] else [c]
  | c :: d :: cs => if c = joiner then withoutJoined cs else c :: withoutJoined (d :: cs)

/-- The width of a text behind `base`, the last character that has a width, unless a selector has
followed it. -/
def widthBehind (base : Option Char) : List Char → Nat
  | [] => 0
  | c :: cs =>
    if c = selector then widening base + widthBehind none cs
    else if charWidth c = 0 then widthBehind base cs
    else charWidth c + widthBehind (some c) cs

def width (cs : List Char) : Nat := widthBehind none (withoutJoined cs)

/-! Clusters, the parts of a text that a cut leaves whole: a character that has a width, with all
that joins to it. -/

/-- The `base` of a cluster is the character that a selector may still widen. -/
structure Cluster where
  text : List Char
  width : Nat
  base : Option Char

namespace Cluster

def ofChar (c : Char) : Cluster :=
  ⟨[c], charWidth c, if charWidth c = 0 then none else some c⟩

def join (g : Cluster) (c : Char) : Cluster := { g with text := g.text ++ [c] }

def select (g : Cluster) : Cluster :=
  if widening g.base = 0 then g.join selector
  else ⟨g.text ++ [selector], g.width + widening g.base, none⟩

/-- The clusters from `g` on; `joined` tells that a joiner stands before the text. -/
def behind (g : Cluster) (joined : Bool) : List Char → List Cluster
  | [] => [g]
  | c :: cs =>
    if joined then behind (g.join c) false cs
    else if c = joiner then behind (g.join c) true cs
    else if c = selector then behind g.select false cs
    else if charWidth c = 0 then behind (g.join c) false cs
    else g :: behind (ofChar c) false cs

def all : List Char → List Cluster
  | [] => []
  | c :: cs => behind (ofChar c) false cs

/-- As much from the front as fits; a blank stands for the half of a wide character. -/
def take (columns : Nat) : List Cluster → List Char
  | [] => []
  | g :: gs =>
    if columns = 0 then []
    else if g.width ≤ columns then g.text ++ take (columns - g.width) gs
    else [' ']

end Cluster

def ellipsis : Char := '…'

def cut (columns : Nat) (cs : List Char) : List Char :=
  if width cs ≤ columns then cs else Cluster.take (columns - 1) (Cluster.all cs) ++ [ellipsis]

/-! Texts as they stand on a screen: without the control characters that move the cursor, and with
tabs filled up to the next column that eight divides. -/
namespace Screen

def movesCursor (c : Char) : Bool :=
  c == '\x07' || c == '\x08' || c == '\x0b' || c == '\x0c' || c == '\r'

def withoutMoves (cs : List Char) : List Char := cs.filter (!movesCursor ·)

def tabStop : Nat := 8

/-- Puts the parts between tabs on a line, from a column on. A tab is one blank at least. -/
def fillTabs (column : Nat) : List (List Char) → List Char
  | [] => []
  | [p] => p
  | p :: ps =>
    let after := column + width (p ++ [' '])
    let gap := (tabStop - after % tabStop) % tabStop
    p ++ ' ' :: (List.replicate gap ' ' ++ fillTabs (after + gap) ps)

def expandTabs (line : List Char) : List Char := fillTabs 0 (partsAt (· == '\t') line)

def lines (cs : List Char) : List (List Char) := partsAt (· == '\n') cs

def place (cs : List Char) : List Char :=
  List.intercalate ['\n'] ((lines (withoutMoves cs)).map expandTabs)

end Screen

/-! A line filled anew into lines of a given width, with breaks between words only. -/

/-- The words of a line, each with the white space behind it. White space at the front belongs to
the first word. -/
def words (cs : List Char) : List (List Char) :=
  match cs.splitBy fun a b => !isSpace a || isSpace b with
  | g :: h :: gs => if g.all isSpace then (g ++ h) :: gs else g :: h :: gs
  | gs => gs

/-- Fills words into lines, from one on that has begun. White space at the end of a word may stand
out, and so may a word that is wider than a line. -/
def fillFrom (columns : Nat) (line : List Char) (used : Nat) :
    List (List Char) → List (List Char)
  | [] => [line]
  | w :: ws =>
    if line.isEmpty || used + width (dropEndSpace w) ≤ columns then
      fillFrom columns (line ++ w) (used + width w) ws
    else line :: fillFrom columns w (width w) ws

def dropExcess (columns : Nat) (cs : List Char) : List Char :=
  let blanks := (cs.reverse.takeWhile isSpace).length
  cs.take (cs.length - min blanks (cs.length - columns))

def wrap (columns : Nat) (line : List Char) : List (List Char) :=
  (fillFrom columns [] 0 (words line)).map (dropExcess columns)

end Columnar.Text
