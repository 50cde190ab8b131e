import RepoAtlas.Text.PrintableRanges
import RepoAtlas.Text.Case

/-!
# Quoting a text inside a message

Messages show texts between quotes so that blanks at their ends and unprintable characters can be
seen. Apostrophes are used unless the text holds one and no double quote. A backslash stands before
the quote in use and before a backslash, the common control characters have their short escapes,
and any other character without a glyph is written as two, four or eight hexadecimal digits.
-/

namespace RepoAtlas.Text

/-- The hexadecimal digits of `n` in lower case, with zeros in front up to `width`. -/
def hexDigits (width n : Nat) : List Char :=
  let digits := Nat.toDigits 16 n
  List.replicate (width - digits.length) '0' ++ digits

def isPrintable (c : Char) : Bool := inRanges printableRanges c.toNat

def quoteChar (mark c : Char) : List Char :=
  if c = mark ∨ c = '\\' then ['\\', c]
  else if c = '\n' then ['\\', 'n']
  else if c = '\r' then ['\\', 'r']
  else if c = '\t' then ['\\', 't']
  else if isPrintable c then [c]
  else if c.toNat < 0x100 then '\\' :: 'x' :: hexDigits 2 c.toNat
  else if c.toNat < 0x10000 then '\\' :: 'u' :: hexDigits 4 c.toNat
  else '\\' :: 'U' :: hexDigits 8 c.toNat

/-- The quote that encloses a text: the apostrophe, unless it is in the text and `"` is not. -/
def quoteMark (cs : List Char) : Char :=
  if cs.contains '\'' && !cs.contains '"' then '"' else '\''

/-- The text between quotes, with escapes where they are needed. -/
def quoted (s : String) : String :=
  let cs := s.toList
  let mark := quoteMark cs
  String.ofList (mark :: cs.flatMap (quoteChar mark) ++ [mark])

end RepoAtlas.Text
