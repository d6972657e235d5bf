import Mathlib.Algebra.GroupWithZero.Nat
import KeyValueServer.Text.Blank
import KeyValueServer.Proofs.Text.LineBreaks

/-!
# The words of a line

The words of a line are not empty and hold no blank. A line has room for its words and for a blank
between any two of them, and this is all that bounds their number and their size.
-/

namespace KeyValueServer.Blank

/-- What can be a word of a line. -/
def IsWord (word : List Char) : Prop := word ≠ [] ∧ ∀ char ∈ word, isBlank char = false

/-- Words with a blank in front of each. -/
def spread (words : List (List Char)) : List Char := words.flatMap (' ' :: ·)

/-- How many bytes are needed to write a text. -/
def width (text : List Char) : Nat := (Utf8.encode (String.ofList text)).length

/-- How many bytes are needed to write words and what ends each of them. -/
def widths (words : List (List Char)) : Nat := (words.map fun word => width word + 1).sum

/-- A text is as wide as its characters. -/
theorem width_cons (char : Char) (text : List Char) :
    width (char :: text) = char.utf8Size + width text := by
  simp only [width, Utf8.encode_eq_flatMap, String.toList_ofList, List.flatMap_cons,
    List.length_append, String.length_utf8EncodeChar]

/-- A word takes up a byte at least. -/
theorem width_pos {word : List Char} (isWord : IsWord word) : 0 < width word := by
  obtain ⟨char, rest, rfl⟩ := List.exists_cons_of_ne_nil isWord.1
  rw [width_cons]
  exact Nat.add_pos_left char.utf8Size_pos _

/-- A text is as wide in the other direction. -/
theorem width_reverse (text : List Char) : width text.reverse = width text := by
  simp only [width, Utf8.encode_eq_flatMap, String.toList_ofList, List.length_flatMap,
    List.map_reverse, List.sum_reverse]

/-- One word more is as wide as this word and its end. -/
theorem widths_cons (word : List Char) (words : List (List Char)) :
    widths (word :: words) = width word + 1 + widths words := rfl

/-- Words are as wide in the other order. -/
theorem widths_reverse (words : List (List Char)) : widths words.reverse = widths words := by
  rw [widths, List.map_reverse, List.sum_reverse, widths]

/-- A word in progress counts among the words when it is not empty. -/
theorem close_cases (found : List (List Char)) (word : List Char) :
    (word = [] ∧ close found word = found) ∨
      (word ≠ [] ∧ close found word = word.reverse :: found) := by
  cases word with
  | nil => exact .inl ⟨rfl, rfl⟩
  | cons char word => exact .inr ⟨List.cons_ne_nil char word, rfl⟩

/-- A closed word adds its width and its end at most. -/
theorem widths_close_le (found : List (List Char)) (word : List Char) :
    widths (close found word) ≤ widths found + width word + 1 := by
  obtain ⟨rfl, same⟩ | ⟨_, same⟩ := close_cases found word
  · rw [same]
    omega
  · rw [same, widths_cons, width_reverse]
    omega

/-- A closed word is a word when it holds no blank. -/
theorem areWords_close {found : List (List Char)} {word : List Char}
    (areWords : ∀ other ∈ found, IsWord other) (solid : ∀ char ∈ word, isBlank char = false) :
    ∀ other ∈ close found word, IsWord other := by
  obtain ⟨_, same⟩ | ⟨some, same⟩ := close_cases found word
  · rw [same]
    exact areWords
  · rw [same]
    refine List.forall_mem_cons.mpr ⟨⟨?_, ?_⟩, areWords⟩
    · exact fun empty => some (List.reverse_eq_nil_iff.mp empty)
    · exact fun char member => solid char (List.mem_reverse.mp member)

/-- Whatever is read adds words only. -/
theorem areWords_wordsFrom {found : List (List Char)} {word : List Char} (line : List Char)
    (areWords : ∀ other ∈ found, IsWord other) (solid : ∀ char ∈ word, isBlank char = false) :
    ∀ other ∈ wordsFrom found word line, IsWord other := by
  induction line generalizing found word with
  | nil =>
    intro other member
    exact areWords_close areWords solid other (List.mem_reverse.mp member)
  | cons char rest inductionHypothesis =>
    unfold wordsFrom
    cases blank : isBlank char with
    | true => exact inductionHypothesis (areWords_close areWords solid) nofun
    | false => exact inductionHypothesis areWords (List.forall_mem_cons.mpr ⟨blank, solid⟩)

/-- What the division of a line finds are words. -/
theorem areWords_words (line : List Char) : ∀ word ∈ words line, IsWord word :=
  areWords_wordsFrom line nofun nofun

/-- The rest of a line has room for the words that are still found. -/
theorem widths_wordsFrom_le (found : List (List Char)) (word line : List Char) :
    widths (wordsFrom found word line) ≤ widths found + width word + 1 + width line := by
  induction line generalizing found word with
  | nil =>
    rw [wordsFrom, widths_reverse]
    exact Nat.le_add_right_of_le (widths_close_le found word)
  | cons char rest inductionHypothesis =>
    have wide := width_cons char rest
    have some := char.utf8Size_pos
    unfold wordsFrom
    cases blank : isBlank char with
    | true =>
      have later := inductionHypothesis (close found word) []
      have closed := widths_close_le found word
      have none : width [] = 0 := rfl
      rw [if_pos rfl]
      omega
    | false =>
      have later := inductionHypothesis found (char :: word)
      have wider := width_cons char word
      rw [if_neg Bool.false_ne_true]
      omega

/-- A line has room for its words and for a blank between any two of them. -/
theorem widths_words_le (line : List Char) : widths (words line) ≤ width line + 1 := by
  have within := widths_wordsFrom_le [] [] line
  have none : widths [] + width [] = 0 := rfl
  rw [words]
  omega

/-- Characters that are not blank extend the word in progress. -/
theorem wordsFrom_solid (found : List (List Char)) (word more rest : List Char)
    (solid : ∀ char ∈ more, isBlank char = false) :
    wordsFrom found word (more ++ rest) = wordsFrom found (more.reverse ++ word) rest := by
  induction more generalizing word with
  | nil => rfl
  | cons char more inductionHypothesis =>
    obtain ⟨notBlank, others⟩ := List.forall_mem_cons.mp solid
    rw [List.cons_append, wordsFrom, notBlank, if_neg Bool.false_ne_true,
      inductionHypothesis (char :: word) others, List.reverse_cons, List.append_assoc,
      List.singleton_append]

end KeyValueServer.Blank
