import Columnar.Text.Layout

/-! Tables drawn with lines. A column is as wide as the widest line in it, a row as high as its
highest cell, and each cell has a blank on both sides. Tabs have no width when a column is measured;
a line that is too wide with them is filled anew, and one that still is gets cut off. -/
namespace Columnar.Text

inductive Alignment
  | left
  | right
  deriving DecidableEq, Repr

def Alignment.fill (a : Alignment) (columns : Nat) (cs : List Char) : List Char :=
  let gap := List.replicate (columns - width cs) ' '
  match a with
  | .left => cs ++ gap
  | .right => gap ++ cs

/-- A text cut or filled up to a width. It is filled up twice, since a joiner at its end takes in
the first blank behind it. -/
def Alignment.fit (a : Alignment) (columns : Nat) (cs : List Char) : List Char :=
  a.fill columns (a.fill columns (cut columns cs))

structure Heading where
  text : List Char
  alignment : Alignment

structure Table where
  headings : List Heading
  rows : List (List (List Char))

namespace Table

def endsLine (c : Char) : Bool :=
  c == '\n' || ('\x1c' ≤ c && c ≤ '\x1e') || c == '\x85' || c == '\u2028' || c == '\u2029'

def cellWidth (cell : List Char) : Nat := ((partsAt endsLine cell).map width).foldl max 0

def cellLines (columns : Nat) (cell : List Char) : List (List Char) :=
  (Screen.lines cell).flatMap fun line => wrap columns (Screen.expandTabs line)

def widths (t : Table) : List Nat :=
  t.rows.foldl (fun ws row => ws.zipWith max (row.map cellWidth))
    (t.headings.map fun h => Text.width h.text)

structure Marks where
  fill : Char
  first : Char
  divider : Char
  last : Char

def top : Marks := ⟨'━', '┏', '┳', '┓'⟩
def head : Marks := ⟨' ', '┃', '┃', '┃'⟩
def underHead : Marks := ⟨'━', '┡', '╇', '┩'⟩
def body : Marks := ⟨' ', '│', '│', '│'⟩
def bottom : Marks := ⟨'─', '└', '┴', '┘'⟩

def line (m : Marks) (parts : List (List Char)) : List Char :=
  let filled := parts.map fun p => m.fill :: (p ++ [m.fill])
  m.first :: (List.intercalate [m.divider] filled ++ [m.last])

def rule (m : Marks) (ws : List Nat) : List Char := line m (ws.map fun w => List.replicate w m.fill)

def rowLines (m : Marks) (alignments : List Alignment) (ws : List Nat) (row : List (List Char)) :
    List (List Char) :=
  let cells := ws.zipWith cellLines row
  let height := (cells.map List.length).foldl max 1
  (List.range height).map fun k =>
    line m <| ((alignments.zip ws).zip cells).map fun ((a, w), c) => a.fit w (c.getD k [])

def lines (t : Table) : List (List Char) :=
  let ws := t.widths
  let alignments := t.headings.map Heading.alignment
  rule top ws :: (rowLines head alignments ws (t.headings.map Heading.text) ++
    rule underHead ws :: (t.rows.flatMap (rowLines body alignments ws) ++ [rule bottom ws]))

end Table
end Columnar.Text
