import KeyValueServer.Proofs.Text.Words

/-!
# Words and the blanks around them

A line of words is laid out with at least one blank between two words and any number of blanks in
front of the first and behind the last. These are all lines on which words are found: a line that is
laid out in this way has the words that it was made of, and every line with a word on it is laid out
in this way.
-/

namespace KeyValueServer.Blank

/-- Words with at least one blank between any two, and any number of blanks behind the last. -/
inductive Spaced : List (List Char) → List Char → Prop
  | last (word padding : List Char) (isWord : IsWord word)
      (blank : ∀ char ∈ padding, isBlank char = true) : Spaced [word] (word ++ padding)
  | more (word gap : List Char) (words : List (List Char)) (rest : List Char)
      (isWord : IsWord word) (parted : gap ≠ []) (blank : ∀ char ∈ gap, isBlank char = true)
      (others : Spaced words rest) : Spaced (word :: words) (word ++ (gap ++ rest))

/-- A line of words, with any number of blanks in front of the first. -/
def IsLine (words : List (List Char)) (line : List Char) : Prop :=
  ∃ padding rest, line = padding ++ rest ∧ (∀ char ∈ padding, isBlank char = true) ∧
    Spaced words rest

variable {words : List (List Char)} {line : List Char}

/-- What is laid out as words are words, and there is one. -/
theorem Spaced.areWords (spaced : Spaced words line) :
    words ≠ [] ∧ ∀ word ∈ words, IsWord word := by
  induction spaced with
  | last word padding isWord blank =>
    exact ⟨List.cons_ne_nil _ _, List.forall_mem_singleton.mpr isWord⟩
  | more word gap words rest isWord parted blank others inductionHypothesis =>
    exact ⟨List.cons_ne_nil _ _, List.forall_mem_cons.mpr ⟨isWord, inductionHypothesis.2⟩⟩

/-- A closed word stands behind those found before. -/
theorem close_word (found : List (List Char)) {word : List Char} (isWord : IsWord word) :
    close found word.reverse = word :: found := by
  obtain ⟨empty, _⟩ | ⟨_, same⟩ := close_cases found word.reverse
  · exact absurd (List.reverse_eq_nil_iff.mp empty) isWord.1
  · rw [same, List.reverse_reverse]

/-- Blanks close the word in progress. -/
theorem wordsFrom_gap (found : List (List Char)) (word gap rest : List Char) (parted : gap ≠ [])
    (blank : ∀ char ∈ gap, isBlank char = true) :
    wordsFrom found word (gap ++ rest) = wordsFrom (close found word) [] rest := by
  induction gap generalizing found word with
  | nil => exact absurd rfl parted
  | cons char gap inductionHypothesis =>
    obtain ⟨first, others⟩ := List.forall_mem_cons.mp blank
    rw [List.cons_append, wordsFrom, if_pos first]
    by_cases last : gap = []
    · rw [last, List.nil_append]
    · exact inductionHypothesis (close found word) [] last others

/-- Blanks in front of a word are passed over. -/
theorem wordsFrom_padding (found : List (List Char)) (padding rest : List Char)
    (blank : ∀ char ∈ padding, isBlank char = true) :
    wordsFrom found [] (padding ++ rest) = wordsFrom found [] rest := by
  by_cases none : padding = []
  · rw [none, List.nil_append]
  · exact wordsFrom_gap found [] padding rest none blank

/-- A blank at the end of a line adds no word. -/
theorem wordsFrom_concat (found : List (List Char)) (word line : List Char) {last : Char}
    (blank : isBlank last = true) :
    wordsFrom found word (line ++ [last]) = wordsFrom found word line := by
  induction line generalizing found word with
  | nil =>
    simp only [List.nil_append, wordsFrom, blank, ↓reduceIte]
    rfl
  | cons char line inductionHypothesis =>
    simp only [List.cons_append, wordsFrom, inductionHypothesis]

/-- Words that are laid out are found in their order. -/
theorem wordsFrom_spaced (found : List (List Char)) (spaced : Spaced words line) :
    wordsFrom found [] line = found.reverse ++ words := by
  induction spaced generalizing found with
  | last word padding isWord blank =>
    rw [wordsFrom_solid _ _ _ _ isWord.2, List.append_nil, ← List.append_nil padding]
    by_cases none : padding = []
    · rw [none, List.append_nil, wordsFrom, close_word found isWord, List.reverse_cons]
    · rw [wordsFrom_gap _ _ _ _ none blank, close_word found isWord, ← List.reverse_cons]
      rfl
  | more word gap words rest isWord parted blank others inductionHypothesis =>
    rw [wordsFrom_solid _ _ _ _ isWord.2, List.append_nil, wordsFrom_gap _ _ _ _ parted blank,
      close_word found isWord, inductionHypothesis, List.reverse_cons, List.append_assoc,
      List.singleton_append]

/-- A line of words has these words. -/
theorem words_of_isLine (isLine : IsLine words line) : Blank.words line = words := by
  obtain ⟨padding, rest, rfl, blank, spaced⟩ := isLine
  rw [Blank.words, wordsFrom_padding [] padding rest blank, wordsFrom_spaced [] spaced,
    List.reverse_nil, List.nil_append]

/-- A line has room for its words and for a blank between any two of them. -/
theorem widths_le_of_isLine (isLine : IsLine words line) : widths words ≤ width line + 1 := by
  rw [← words_of_isLine isLine]
  exact widths_words_le line

/-- A character that is not blank begins the first word of a line, or is one. -/
theorem isLine_cons {char : Char} (solid : isBlank char = false) (isLine : IsLine words line) :
    ∃ more, IsLine more (char :: line) := by
  obtain ⟨padding, rest, rfl, blank, spaced⟩ := isLine
  have alone : IsWord [char] := ⟨List.cons_ne_nil _ _, List.forall_mem_singleton.mpr solid⟩
  have longer {word : List Char} (isWord : IsWord word) : IsWord (char :: word) :=
    ⟨List.cons_ne_nil _ _, List.forall_mem_cons.mpr ⟨solid, isWord.2⟩⟩
  by_cases none : padding = []
  · subst none
    cases spaced with
    | last word padding isWord blank =>
      exact ⟨_, [], _, rfl, nofun, .last (char :: word) padding (longer isWord) blank⟩
    | more word gap words rest isWord parted blank others =>
      exact ⟨_, [], _, rfl, nofun,
        .more (char :: word) gap words rest (longer isWord) parted blank others⟩
  · exact ⟨_, [], _, rfl, nofun, .more [char] padding words rest alone none blank spaced⟩

/-- Every line is blank or a line of words. -/
theorem blank_or_isLine (line : List Char) :
    (∀ char ∈ line, isBlank char = true) ∨ ∃ words, IsLine words line := by
  induction line with
  | nil => exact .inl nofun
  | cons char line inductionHypothesis =>
    cases first : isBlank char with
    | true =>
      obtain blank | ⟨words, padding, rest, rfl, blank, spaced⟩ := inductionHypothesis
      · exact .inl (List.forall_mem_cons.mpr ⟨first, blank⟩)
      · exact .inr ⟨words, char :: padding, rest, rfl, List.forall_mem_cons.mpr ⟨first, blank⟩,
          spaced⟩
    | false =>
      right
      obtain blank | ⟨words, isLine⟩ := inductionHypothesis
      · have alone : IsWord [char] := ⟨List.cons_ne_nil _ _, List.forall_mem_singleton.mpr first⟩
        exact ⟨[[char]], [], char :: line, rfl, nofun, .last [char] line alone blank⟩
      · exact isLine_cons first isLine

/-- The words of a line are those that it is laid out with, if there are any. -/
theorem words_eq_iff (some : words ≠ []) : Blank.words line = words ↔ IsLine words line := by
  constructor
  · rintro rfl
    obtain blank | ⟨words, isLine⟩ := blank_or_isLine line
    · rw [← List.append_nil line, Blank.words, wordsFrom_padding [] line [] blank] at some
      exact absurd rfl some
    · rw [words_of_isLine isLine]
      exact isLine
  · exact words_of_isLine

/-- A word and others with a blank in front of each are laid out as words. -/
theorem spaced_spread {word : List Char} (isWord : IsWord word)
    (areWords : ∀ other ∈ words, IsWord other) : Spaced (word :: words) (word ++ spread words) := by
  induction words generalizing word with
  | nil => exact .last word [] isWord nofun
  | cons next words inductionHypothesis =>
    obtain ⟨first, others⟩ := List.forall_mem_cons.mp areWords
    exact .more word [' '] _ _ isWord (List.cons_ne_nil _ _)
      (List.forall_mem_singleton.mpr (by decide)) (inductionHypothesis first others)

/-- Words with a blank in front of each are a line of them. -/
theorem isLine_spread (some : words ≠ []) (areWords : ∀ word ∈ words, IsWord word) :
    IsLine words (spread words) := by
  obtain ⟨word, words, rfl⟩ := List.exists_cons_of_ne_nil some
  obtain ⟨isWord, others⟩ := List.forall_mem_cons.mp areWords
  exact ⟨[' '], word ++ spread words, rfl, List.forall_mem_singleton.mpr (by decide),
    spaced_spread isWord others⟩

/-- A line of words with a blank in front of each has no line break in it. -/
theorem feed_not_mem_spread (areWords : ∀ word ∈ words, IsWord word) : '\n' ∉ spread words := by
  intro member
  obtain ⟨word, isIn, inside⟩ := List.mem_flatMap.mp member
  obtain gap | inside := List.mem_cons.mp inside
  · exact absurd gap (by decide)
  · exact absurd ((areWords word isIn).2 _ inside) (by decide)

end KeyValueServer.Blank
