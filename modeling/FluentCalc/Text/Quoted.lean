/-
# Quoted text

Texts are quoted in messages so that any character can be shown on one line.
The quote is an apostrophe, unless the text has an apostrophe and no double
quote. The quote itself, the backslash and every unprintable character are
written as escapes: the short ones for line feed, carriage return and tab, and
the shortest of `\xNN`, `\uNNNN` and `\UNNNNNNNN` that holds the code point
otherwise.
-/

import FluentCalc.Text.Printable

namespace FluentCalc.Text

/-- The lower-case hexadecimal digits of a number, padded with zeros on the
left to a width. Digits beyond the width are dropped. -/
def hex : (width : Nat) → Nat → List Char
  | 0, _ => []
  | width + 1, n => hex width (n / 16) ++ [Nat.digitChar (n % 16)]

/-- The escape of a code point by number. -/
def numericEscape (c : Char) : List Char :=
  if c.toNat < 0x100 then '\\' :: 'x' :: hex 2 c.toNat
  else if c.toNat < 0x10000 then '\\' :: 'u' :: hex 4 c.toNat
  else '\\' :: 'U' :: hex 8 c.toNat

/-- How a character is written between quotes. -/
def escaped (quote c : Char) : List Char :=
  if c == quote || c == '\\' then ['\\', c]
  else if c == '\n' then ['\\', 'n']
  else if c == '\r' then ['\\', 'r']
  else if c == '\t' then ['\\', 't']
  else if isPrintable c then [c]
  else numericEscape c

/-- The quote that a text is put between. -/
def quoteFor (text : List Char) : Char :=
  if text.contains '\x27' && !text.contains '\x22' then '\x22' else '\x27'

/-- A text between quotes. -/
def quote (text : List Char) : List Char :=
  let mark := quoteFor text
  mark :: text.flatMap (escaped mark) ++ [mark]

/-- `quote` on strings. -/
def quoted (text : String) : String :=
  String.ofList (quote text.toList)

end FluentCalc.Text
