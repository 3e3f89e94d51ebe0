-- Blank characters, and texts with the blanks around them taken off.
namespace GatedPipeline.Text

/-- The white space of Unicode together with the four separator controls
U+001C to U+001F: 29 characters. -/
def isBlank (c : Char) : Bool :=
  let n := c.toNat
  n == 0x20 || (0x09 ≤ n && n ≤ 0x0d) || (0x1c ≤ n && n ≤ 0x1f) || n == 0x85 || n == 0xa0 ||
    n == 0x1680 || (0x2000 ≤ n && n ≤ 0x200a) || n == 0x2028 || n == 0x2029 || n == 0x202f ||
    n == 0x205f || n == 0x3000

/-- The characters from the first one that is not blank. -/
def dropBlanks (cs : List Char) : List Char := cs.dropWhile isBlank

/-- The characters up to the last one that is not blank. -/
def dropLastBlanks (cs : List Char) : List Char := (dropBlanks cs.reverse).reverse

/-- The text without the blanks around it. -/
def trim (s : String) : String := String.ofList (dropLastBlanks (dropBlanks s.toList))

/-- Whether the text has blanks only. -/
def isBlankText (s : String) : Bool := s.toList.all isBlank

theorem dropBlanks_length_le (cs : List Char) : (dropBlanks cs).length ≤ cs.length :=
  (List.dropWhile_suffix _).length_le

end GatedPipeline.Text
