import Gutter.Text.Wrap
import Gutter.WarningSet

/-! What a pointer shows: the columns that a warning underlines, and the lines of a hover box. -/

namespace Gutter

/-- An ASCII letter or an underscore. -/
def isUnderlined (c : Char) : Bool := c = '_' || Text.isAsciiLetter c

/-- Columns after this one cannot be looked up in a line. -/
def lastColumn : Int := 0x8000000000000000

/-- A column that is too far right to be looked up. -/
structure ColumnTooLarge where
  column : Int

def ColumnTooLarge.message : String := "Python int too large to convert to C ssize_t"

/-- The first and last column that a warning at `col` underlines: the letters from there on, or the
one column. Columns count from 1, and lower ones stand for the first. -/
def wordSpan (line : List Char) (col : Int) : Except ColumnTooLarge (Int × Int) :=
  let start := max col 1
  if lastColumn < start then .error ⟨start⟩
  else
    let length := ((line.drop (start.toNat - 1)).takeWhile isUnderlined).length
    .ok (start, max start (start + length - 1))

/-- The text between two messages of a hover box: a blank line. -/
def hoverSeparator : String := "\n\n"

/-- The lines of a hover box for warnings. -/
def hoverText (warnings : List Warning) (width : Int) : List String :=
  Text.wrap (hoverSeparator.intercalate (warnings.map (·.message))) width

end Gutter
