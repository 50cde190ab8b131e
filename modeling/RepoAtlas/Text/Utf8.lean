import RepoAtlas.Text.Quoted

/-!
# Texts as bytes

Source files are bytes; everything read from them is text. `decode?` reads a whole file and names
the first byte that is not UTF-8, `decodeLossy` reads a stretch of bytes whatever it holds, and
`encode` goes the other way. An ill-formed stretch is as long as it could still have been the start
of a well-formed character, and is replaced as a whole by U+FFFD.

Escapes in data formats may write half of a surrogate pair, which is no character and cannot be
encoded. `RawText` is a text in which such halves may be.
-/

namespace RepoAtlas.Text

/-- What stands at the front of some bytes: a character and the count of bytes that write it, or
the length of an ill-formed stretch. Both counts include the first byte. -/
inductive Utf8Front where
  | scalar (c : Char) (width : Nat)
  | illFormed (width : Nat)
deriving DecidableEq, Repr

/-- The bytes that may follow a first byte directly, and the number of bytes after it. Only the
second byte of a character has a range of its own, to exclude overlong forms, surrogates and code
points above U+10FFFF. -/
def utf8Second? (first : UInt8) : Option (Nat × Nat × Nat) :=
  let n := first.toNat
  if 0xC2 ≤ n && n ≤ 0xDF then some (1, 0x80, 0xBF)
  else if n == 0xE0 then some (2, 0xA0, 0xBF)
  else if n == 0xED then some (2, 0x80, 0x9F)
  else if 0xE1 ≤ n && n ≤ 0xEF then some (2, 0x80, 0xBF)
  else if n == 0xF0 then some (3, 0x90, 0xBF)
  else if 0xF1 ≤ n && n ≤ 0xF3 then some (3, 0x80, 0xBF)
  else if n == 0xF4 then some (3, 0x80, 0x8F)
  else none

/-- Reads `count` more bytes, the first of them between `low` and `high`, onto the bits collected
so far; `width` counts the bytes read. -/
def utf8Tail (count low high bits width : Nat) (bytes : List UInt8) : Utf8Front :=
  match count, bytes with
  | 0, _ => .scalar (Char.ofNat bits) width
  | _ + 1, [] => .illFormed width
  | count + 1, b :: rest =>
    if low ≤ b.toNat && b.toNat ≤ high then
      utf8Tail count 0x80 0xBF (bits * 64 + b.toNat % 64) (width + 1) rest
    else .illFormed width

/-- The front of `first :: rest`. -/
def utf8Front (first : UInt8) (rest : List UInt8) : Utf8Front :=
  if first.toNat < 0x80 then .scalar (Char.ofNat first.toNat) 1
  else match utf8Second? first with
    | none => .illFormed 1
    | some (count, low, high) =>
      utf8Tail count low high (first.toNat % Nat.pow 2 (6 - count)) 1 rest

/-- The text of some bytes, U+FFFD standing for each ill-formed stretch. -/
def decodeLossyOf : List UInt8 → List Char
  | [] => []
  | first :: rest =>
    match utf8Front first rest with
    | .scalar c width => c :: decodeLossyOf (rest.drop (width - 1))
    | .illFormed width => '\uFFFD' :: decodeLossyOf (rest.drop (width - 1))
termination_by bytes => bytes.length
decreasing_by all_goals simp only [List.length_drop, List.length_cons]; omega

/-- An ill-formed stretch inside a file: where it begins, its first byte and its length. -/
structure IllFormed where
  start : Nat
  byte : UInt8
  width : Nat
  /-- Whether the file ends inside the character. -/
  truncated : Bool
deriving DecidableEq, Repr

/-- The text of bytes that are all UTF-8, or the first stretch that is not; `start` counts the
bytes before these. -/
def decodeFrom (start : Nat) : List UInt8 → Except IllFormed (List Char)
  | [] => .ok []
  | first :: rest =>
    match utf8Front first rest with
    | .scalar c width => (decodeFrom (start + width) (rest.drop (width - 1))).map (c :: ·)
    | .illFormed width =>
      .error ⟨start, first, width, (utf8Second? first).isSome && rest.length + 1 == width⟩
termination_by bytes => bytes.length
decreasing_by all_goals simp only [List.length_drop, List.length_cons]; omega

/-- The text of a file, or the first stretch of it that is not UTF-8. -/
def decode? (bytes : List UInt8) : Except IllFormed String :=
  (decodeFrom 0 bytes).map String.ofList

/-- The text of a stretch of bytes, whatever it holds. -/
def decodeLossy (bytes : List UInt8) : String := String.ofList (decodeLossyOf bytes)

/-- What is wrong with an ill-formed stretch and where it stands. -/
def IllFormed.message (bad : IllFormed) : String :=
  let place :=
    if bad.width = 1 then
      "byte 0x" ++ String.ofList (hexDigits 2 bad.byte.toNat) ++ " in position "
        ++ toString bad.start
    else
      "bytes in position " ++ toString bad.start ++ "-" ++ toString (bad.start + bad.width - 1)
  let reason :=
    if (utf8Second? bad.byte).isNone then "invalid start byte"
    else if bad.truncated then "unexpected end of data"
    else "invalid continuation byte"
  "'utf-8' codec can't decode " ++ place ++ ": " ++ reason

def encodeChar (c : Char) : List UInt8 :=
  let n := c.toNat
  if n < 0x80 then [n.toUInt8]
  else if n < 0x800 then [(0xC0 + n / 64).toUInt8, (0x80 + n % 64).toUInt8]
  else if n < 0x10000 then
    [(0xE0 + n / 4096).toUInt8, (0x80 + n / 64 % 64).toUInt8, (0x80 + n % 64).toUInt8]
  else
    [(0xF0 + n / 262144).toUInt8, (0x80 + n / 4096 % 64).toUInt8, (0x80 + n / 64 % 64).toUInt8,
      (0x80 + n % 64).toUInt8]

def encode (s : String) : List UInt8 := s.toList.flatMap encodeChar

/-! ## Halves of surrogate pairs -/

def isHalf (point : Nat) : Bool := 0xD800 ≤ point && point < 0xE000

/-- The character of a code point; half of a pair is shown as U+FFFD. -/
def shownPoint (point : Nat) : Char := if isHalf point then '\uFFFD' else Char.ofNat point

/-- A text by its code points, among which there may be halves of surrogate pairs. -/
structure RawText where
  points : List Nat
deriving DecidableEq, Repr

namespace RawText

def ofString (s : String) : RawText := ⟨s.toList.map Char.toNat⟩

def shown (t : RawText) : String := String.ofList (t.points.map shownPoint)

/-- A text without halves is shown as it is. -/
@[simp] theorem shown_ofString (s : String) : (ofString s).shown = s := by
  have hpoint (c : Char) : shownPoint c.toNat = c := by
    have hvalid : c.toNat < 0xD800 ∨ 0xDFFF < c.toNat := c.valid.imp id And.left
    have hhalf : isHalf c.toNat = false := by simp [isHalf]; omega
    simp [shownPoint, hhalf]
  simp [shown, ofString, Function.comp_def, hpoint]

end RawText

end RepoAtlas.Text
