/-
# Blank characters

Two notions of white space meet in this library and they differ in a few
characters. *Blank* characters are trimmed from the ends of texts; they include
the information separators U+001C to U+001F. *Gap* characters may stand between
the parts of an expression; they include the Mongolian vowel separator U+180E
but none of the information separators.
-/

import FluentCalc.Text.Ranges

namespace FluentCalc.Text

/-- The characters that trimming removes. -/
def blanks : Ranges := [
  (0x9, 0xd), (0x1c, 0x20), (0x85, 0x85), (0xa0, 0xa0), (0x1680, 0x1680), (0x2000, 0x200a),
  (0x2028, 0x2029), (0x202f, 0x202f), (0x205f, 0x205f), (0x3000, 0x3000)]

/-- The characters that may stand between the parts of an expression. -/
def gaps : Ranges := [
  (0x9, 0xd), (0x20, 0x20), (0x85, 0x85), (0xa0, 0xa0), (0x1680, 0x1680), (0x180e, 0x180e),
  (0x2000, 0x200a), (0x2028, 0x2029), (0x202f, 0x202f), (0x205f, 0x205f), (0x3000, 0x3000)]

/-- Whether trimming removes a character. -/
def isBlank (c : Char) : Bool :=
  blanks.contains c

/-- Whether a character may stand between the parts of an expression. -/
def isGap (c : Char) : Bool :=
  gaps.contains c

/-- A text without the blank characters at its front. -/
def stripFront (text : List Char) : List Char :=
  text.dropWhile isBlank

/-- A text without the blank characters at its end. -/
def stripBack (text : List Char) : List Char :=
  (text.reverse.dropWhile isBlank).reverse

/-- A text without the blank characters at either end. -/
def strip (text : List Char) : List Char :=
  stripBack (stripFront text)

/-- `strip` on strings. -/
def stripped (text : String) : String :=
  String.ofList (strip text.toList)

end FluentCalc.Text
