import FeedIndex.Text.Ranges

/-!
# White space

The characters of Unicode's property White_Space, and trimming by it. Hashtags are separated by these
characters and tags are trimmed of them, so the set is the full property and not the ASCII part.
-/

namespace FeedIndex.Text

/-- The property White_Space. -/
def blankRanges : Ranges :=
  [(0x9, 0xD), (0x20, 0x20), (0x85, 0x85), (0xA0, 0xA0), (0x1680, 0x1680), (0x2000, 0x200A),
   (0x2028, 0x2029), (0x202F, 0x202F), (0x205F, 0x205F), (0x3000, 0x3000)]

/-- **isBlank** — the character is white space. -/
def isBlank (c : Char) : Bool := blankRanges.contains c

/-- **dropTrailing** — the list without the longest run of `p` at its end. -/
def dropTrailing (p : Char → Bool) (cs : List Char) : List Char :=
  (cs.reverse.dropWhile p).reverse

/-- **trim** — the list without white space at either end. -/
def trim (cs : List Char) : List Char := dropTrailing isBlank (cs.dropWhile isBlank)

end FeedIndex.Text
