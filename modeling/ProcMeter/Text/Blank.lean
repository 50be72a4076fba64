import ProcMeter.Text.Pieces

/-! Blank space, words and lines. A character is blank when it has the Unicode
property `White_Space`. Words are the maximal runs of other characters; a line
ends with a line feed, and a carriage return just before that feed belongs to
the ending. -/
namespace ProcMeter.Text

/-- Unicode `White_Space`: 25 characters. -/
def isBlank (c : Char) : Bool :=
  let n := c.toNat
  (9 ≤ n && n ≤ 13) || n == 0x20 || n == 0x85 || n == 0xA0 || n == 0x1680 ||
    (0x2000 ≤ n && n ≤ 0x200A) || n == 0x2028 || n == 0x2029 || n == 0x202F ||
    n == 0x205F || n == 0x3000

/-- The maximal runs of characters that are not blank. -/
def words (cs : List Char) : List (List Char) := runs isBlank cs

/-- Drops blanks at the start. -/
def trimLeft (cs : List Char) : List Char := cs.dropWhile isBlank

/-- Drops blanks at the end. -/
def trimRight (cs : List Char) : List Char := (cs.reverse.dropWhile isBlank).reverse

/-- Drops blanks at both ends. -/
def trim (cs : List Char) : List Char := trimRight (trimLeft cs)

/-- Drops one carriage return at the end. -/
def dropReturn : List Char → List Char
  | [] => []
  | ['\r'] => []
  | c :: cs => c :: dropReturn cs

/-- Lines from the pieces between line feeds: the last piece has no ending, so
it keeps a carriage return, and it is no line when it is empty. -/
def endedLines : List (List Char) → List (List Char)
  | [] => []
  | [q] => if q.isEmpty then [] else [q]
  | q :: qs => dropReturn q :: endedLines qs

/-- The lines of a text, without their endings. -/
def lines (cs : List Char) : List (List Char) := endedLines (pieces (· == '\n') cs)

end ProcMeter.Text
