import KeyValueServer.Text.Blank

/-!
# Options of expressions

How a part of an expression is read: the letters that change it for the rest of a group, and the
blanks and comments that do not count while one of the options is on.
-/

namespace KeyValueServer.LogFilter.Pattern

/-- How a part of an expression is read. -/
structure Options where
  /-- Characters stand for themselves in either case. -/
  caseless : Bool
  /-- Characters are those of Unicode, and not bytes. -/
  unicode : Bool
  /-- Blanks and comments do not count. -/
  spaced : Bool
  deriving DecidableEq, Repr

namespace Options

/-- The options at the start of an expression. -/
def standard : Options := ⟨false, true, false⟩

/-- The letters of options, and the dash that switches off those behind it. Lines, greed and what a
point stands for have letters too, but make no difference to what is an expression. -/
def letters : List Char := ['i', 'm', 's', 'U', 'u', 'R', 'x', '-']

/-- Whether a text names options: each at most once, and with one behind the dash. -/
def areLetters (text : List Char) : Bool :=
  text.all (· ∈ letters) && decide text.Nodup && text.getLast? ≠ some '-'

/-- Switches the option with the given letter. -/
def set (options : Options) (on : Bool) : Char → Options
  | 'i' => { options with caseless := on }
  | 'u' => { options with unicode := on }
  | 'x' => { options with spaced := on }
  | _ => options

/-- Switches the options with the given letters, on up to a dash and off behind it. -/
def change (options : Options) (on : Bool) : List Char → Options
  | [] => options
  | '-' :: text => options.change false text
  | letter :: text => (options.set on letter).change on text

/-- A text without the blanks and comments at its start. A comment begins with a number sign and
ends with its line; `inside` says whether the text starts within one. -/
def dropSpace (inside : Bool) : List Char → List Char
  | [] => []
  | char :: rest =>
    if inside then dropSpace (char ≠ '\n') rest
    else if char = '#' then dropSpace true rest
    else if Blank.isBlank char then dropSpace false rest
    else char :: rest

/-- A text from the first character on that counts. -/
def skip (options : Options) (text : List Char) : List Char :=
  if options.spaced then dropSpace false text else text

/-- The character behind a dash in a class, which tells whether the dash makes a range. Blanks and
one number sign are passed over, but not the comment that the sign begins. -/
def peek? (options : Options) (text : List Char) : Option Char :=
  if options.spaced then
    match text.dropWhile Blank.isBlank with
    | '#' :: rest => (rest.dropWhile Blank.isBlank).head?
    | rest => rest.head?
  else text.head?

example : areLetters "i-ux".toList = true ∧ areLetters "i-".toList = false := by decide

example : standard.change true "x-u".toList = ⟨false, false, true⟩ := by decide

example : dropSpace false " # a\n b".toList = ['b'] := by decide

end Options

end KeyValueServer.LogFilter.Pattern
