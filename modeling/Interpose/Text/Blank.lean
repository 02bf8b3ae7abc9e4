import Interpose.Text.Ranges

namespace Interpose.Text

-- The 25 characters with the Unicode property White_Space, as closed ranges of code points.
def blankRanges : List (Nat × Nat) := [
  (0x9, 0xd), (0x20, 0x20), (0x85, 0x85), (0xa0, 0xa0), (0x1680, 0x1680), (0x2000, 0x200a),
  (0x2028, 0x2029), (0x202f, 0x202f), (0x205f, 0x205f), (0x3000, 0x3000)]

-- White space of any script.
def isBlank (c : Char) : Bool := inRanges blankRanges c.toNat

-- Drops the white space around a text.
def trim (s : String) : String :=
  String.ofList ((s.toList.dropWhile isBlank).reverse.dropWhile isBlank).reverse

end Interpose.Text
