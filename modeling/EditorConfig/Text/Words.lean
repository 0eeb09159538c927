/-! Words of a text: what stands between blanks and commas. -/

namespace EditorConfig.Text

/-- Blank characters: the controls and separators that Unicode counts as white space, and the four
information separators of ASCII. -/
def isBlank (c : Char) : Bool :=
  [(0x9, 0xd), (0x1c, 0x20), (0x85, 0x85), (0xa0, 0xa0), (0x1680, 0x1680), (0x2000, 0x200a),
    (0x2028, 0x2029), (0x202f, 0x202f), (0x205f, 0x205f), (0x3000, 0x3000)].any fun r =>
      decide (r.1 ≤ c.toNat) && decide (c.toNat ≤ r.2)

def words (s : String) : List String :=
  ((s.toList.splitOnP fun c => isBlank c || c == ',').filter fun w => !w.isEmpty).map String.ofList

/-- The text without the blanks at its end. -/
def stripped (s : String) : String := String.ofList (s.toList.reverse.dropWhile isBlank).reverse

end EditorConfig.Text
