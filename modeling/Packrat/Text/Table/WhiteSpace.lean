import Packrat.Text.CodePoints

/-!
# White space

The characters with the property White_Space.
Data of Unicode 15.0, as inclusive ranges of code points in increasing order.
-/

namespace Packrat.Text

/-- The characters with the property White_Space. -/
def whiteSpace : CodePoints := [
  (0x9, 0xd), (0x20, 0x20), (0x85, 0x85), (0xa0, 0xa0), (0x1680, 0x1680), (0x2000, 0x200a),
  (0x2028, 0x2029), (0x202f, 0x202f), (0x205f, 0x205f), (0x3000, 0x3000)]

end Packrat.Text
