/-!
# Blanks, words and lines

Three character classes decide how every reader of this library cuts text: the **blanks** that may
be trimmed from either end of a text, the **line breaks** that separate its lines, and, through
them, the **words** between blanks. They are the Unicode classes, so a no-break space is trimmed
and U+2028 ends a line.

All functions work on `List Char`; the `String` forms at the end of the file are what the rest of
the library calls.
-/

namespace RepoAtlas.Text

/-! ## The two classes -/

/-- The Unicode white space characters together with the four information separators
U+001C to U+001F. -/
def isBlank (c : Char) : Bool :=
  let n := c.toNat
  (9 ≤ n && n ≤ 13) || (28 ≤ n && n ≤ 32) || n == 0x85 || n == 0xA0 || n == 0x1680
    || (0x2000 ≤ n && n ≤ 0x200A) || n == 0x2028 || n == 0x2029 || n == 0x202F || n == 0x205F
    || n == 0x3000

/-- The characters that end a line. A carriage return directly before a line feed ends it
together with that line feed, which is the business of `linesOf`. -/
def isLineBreak (c : Char) : Bool :=
  let n := c.toNat
  (10 ≤ n && n ≤ 13) || (28 ≤ n && n ≤ 30) || n == 0x85 || n == 0x2028 || n == 0x2029

/-! ## Trimming -/

def trimStartOf (cs : List Char) : List Char := cs.dropWhile isBlank

def trimEndOf (cs : List Char) : List Char := (cs.reverse.dropWhile isBlank).reverse

def trimOf (cs : List Char) : List Char := trimEndOf (trimStartOf cs)

/-! ## Words and lines -/

/-- The longest stretches without a blank, in order. -/
def wordsOf (cs : List Char) : List (List Char) :=
  (cs.splitOnP isBlank).filter (fun word => !word.isEmpty)

/-- The lines of a text, without the breaks that end them. The text after the last break is a line
only if it is not empty, so a final break adds nothing. -/
def linesOf : List Char → List (List Char)
  | [] => []
  | '\r' :: '\n' :: rest => [] :: linesOf rest
  | c :: rest =>
    if isLineBreak c then [] :: linesOf rest
    else match linesOf rest, rest with
      | line :: more, _ :: _ => (c :: line) :: more
      | _, _ => [[c]]

/-- The text with every carriage return, alone or before a line feed, written as a line feed. -/
def unifyLineEndsOf : List Char → List Char
  | [] => []
  | '\r' :: '\n' :: rest => '\n' :: unifyLineEndsOf rest
  | '\r' :: rest => '\n' :: unifyLineEndsOf rest
  | c :: rest => c :: unifyLineEndsOf rest

/-! ## The same on strings -/

def trim (s : String) : String := String.ofList (trimOf s.toList)

/-- Whether nothing but blanks is written in `s`. -/
def isBlankText (s : String) : Bool := s.toList.all isBlank

/-- The text with each run of blanks written as one space, and none at either end. -/
def compact (s : String) : String := String.ofList ([' '].intercalate (wordsOf s.toList))

def unifyLineEnds (s : String) : String := String.ofList (unifyLineEndsOf s.toList)

def lines (s : String) : List String := (linesOf s.toList).map String.ofList

end RepoAtlas.Text
