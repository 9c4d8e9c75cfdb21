namespace Columnar.Text

def inRuns (runs : List (Nat × Nat)) (c : Char) : Bool :=
  runs.any fun r => r.1 ≤ c.toNat && c.toNat ≤ r.2

def isSpace (c : Char) : Bool :=
  let n := c.toNat
  (0x09 ≤ n && n ≤ 0x0D) || (0x1C ≤ n && n ≤ 0x20) || n == 0x85 || n == 0xA0 || n == 0x1680 ||
    (0x2000 ≤ n && n ≤ 0x200A) || n == 0x2028 || n == 0x2029 || n == 0x202F || n == 0x205F ||
    n == 0x3000

def isLineEnd (c : Char) : Bool := c == '\n' || c == '\r'

def isInlineSpace (c : Char) : Bool := isSpace c && !isLineEnd c

def dropEndSpace (cs : List Char) : List Char := (cs.reverse.dropWhile isSpace).reverse

def unifyNewlines : List Char → List Char
  | [] => []
  | '\r' :: '\n' :: cs => '\n' :: unifyNewlines cs
  | '\r' :: cs => '\n' :: unifyNewlines cs
  | c :: cs => c :: unifyNewlines cs

/-- The parts between the characters that separate; there is one more than there are of these. -/
def partsAt (separates : Char → Bool) : List Char → List (List Char)
  | [] => [[]]
  | c :: cs =>
    if separates c then [] :: partsAt separates cs
    else match partsAt separates cs with
      | [] => [[c]]
      | p :: ps => (c :: p) :: ps

def hexDigit (n : Nat) : Char :=
  if n < 10 then Char.ofNat (48 + n) else Char.ofNat (87 + n)

def hexValue? (c : Char) : Option Nat :=
  let n := c.toNat
  if 48 ≤ n ∧ n ≤ 57 then some (n - 48)
  else if 97 ≤ n ∧ n ≤ 102 then some (n - 87)
  else if 65 ≤ n ∧ n ≤ 70 then some (n - 55)
  else none

def hexText : Nat → Nat → List Char
  | 0, _ => []
  | width + 1, n => hexText width (n / 16) ++ [hexDigit (n % 16)]

def hexNat? (cs : List Char) : Option Nat :=
  cs.foldlM (fun n c => (hexValue? c).map (16 * n + ·)) 0

end Columnar.Text
