/-!
# Blank characters and the words between them

The Unicode property White_Space as a table of ranges, and the division of a line into the words
that blanks separate.
-/

namespace KeyValueServer.Blank

/-- The code points with the Unicode property White_Space, as closed ranges. -/
def ranges : List (Nat × Nat) :=
  [(0x09, 0x0d), (0x20, 0x20), (0x85, 0x85), (0xa0, 0xa0), (0x1680, 0x1680), (0x2000, 0x200a),
    (0x2028, 0x2029), (0x202f, 0x202f), (0x205f, 0x205f), (0x3000, 0x3000)]

/-- Whether a character is white space in the Unicode sense. -/
def isBlank (char : Char) : Bool :=
  ranges.any fun (low, high) => low ≤ char.toNat && char.toNat ≤ high

/-- Puts a word that is held last character first behind the words found so far, unless it is
empty. -/
def close (found : List (List Char)) (word : List Char) : List (List Char) :=
  if word.isEmpty then found else word.reverse :: found

/-- Divides the rest of a line, given the words found so far (last word first) and the word in
progress (last character first). -/
def wordsFrom (found : List (List Char)) (word : List Char) : List Char → List (List Char)
  | [] => (close found word).reverse
  | char :: rest =>
    if isBlank char then wordsFrom (close found word) [] rest
    else wordsFrom found (char :: word) rest

/-- The words of a line: its longest runs of characters that are not blank, in order. -/
def words (line : List Char) : List (List Char) :=
  wordsFrom [] [] line

example : words "  GET\u00a0a\x0b\tb ".toList = [['G', 'E', 'T'], ['a'], ['b']] := by decide

end KeyValueServer.Blank
