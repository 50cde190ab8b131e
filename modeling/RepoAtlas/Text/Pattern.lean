/-!
# Patterns over characters

A `Pattern` describes texts by the characters they are made of. `rests p cs` lists what can be left
of `cs` after `p` has been read at its front, longest reading of a repetition first; every other
question (does a text begin so, consist of nothing else, contain it somewhere) is asked of that
list. Repetition is over single characters, which is all that names and guards need, and makes
`rests` a recursion on the pattern.
-/

namespace RepoAtlas.Text

/-- A description of texts. -/
inductive Pattern where
  | empty
  | one (accepts : Char → Bool)
  /-- Any number of characters of a class. -/
  | many (accepts : Char → Bool)
  | seq (first second : Pattern)
  | alt (first second : Pattern)

namespace Pattern

/-- What is left after each run of accepted characters, the longest run first. -/
def restsOfRun (accepts : Char → Bool) : List Char → List (List Char)
  | [] => [[]]
  | c :: cs => if accepts c then restsOfRun accepts cs ++ [c :: cs] else [c :: cs]

/-- What can be left of a text after the pattern has been read at its front. -/
def rests : Pattern → List Char → List (List Char)
  | .empty, cs => [cs]
  | .one _, [] => []
  | .one accepts, c :: cs => if accepts c then [cs] else []
  | .many accepts, cs => restsOfRun accepts cs
  | .seq first second, cs => (rests first cs).flatMap (rests second)
  | .alt first second, cs => rests first cs ++ rests second cs

/-! ## Building patterns -/

/-- Exactly this text, each of its characters compared after `fold`. -/
def wordUnder (fold : Char → Char) (text : String) : Pattern :=
  text.toList.foldr (fun c rest => .seq (.one fun d => fold d == c) rest) .empty

def word (text : String) : Pattern := wordUnder id text

/-- The pattern or nothing. -/
def opt (p : Pattern) : Pattern := .alt p .empty

def some (accepts : Char → Bool) : Pattern := .seq (.one accepts) (.many accepts)

def sequence (parts : List Pattern) : Pattern := parts.foldr .seq .empty

/-- Any one of the patterns; none if there are none. -/
def oneOf : List Pattern → Pattern
  | [] => .one fun _ => false
  | [p] => p
  | p :: more => .alt p (oneOf more)

/-! ## Asking -/

/-- Whether a text is at its end; a single line feed may still follow. -/
def isEnd (rest : List Char) : Bool := rest == [] || rest == ['\n']

def startsText (p : Pattern) (s : String) : Bool := !(p.rests s.toList).isEmpty

/-- Whether the text is as described from its beginning to its end. -/
def fillsText (p : Pattern) (s : String) : Bool := (p.rests s.toList).any isEnd

/-- Whether some suffix of `cs` begins as described and what is left after it satisfies `done`. -/
def foundIn (p : Pattern) (done : List Char → Bool) : List Char → Bool
  | [] => (p.rests []).any done
  | c :: cs => (p.rests (c :: cs)).any done || foundIn p done cs

def occursIn (p : Pattern) (s : String) : Bool := p.foundIn (fun _ => true) s.toList

def endsText (p : Pattern) (s : String) : Bool := p.foundIn isEnd s.toList

end Pattern

end RepoAtlas.Text
