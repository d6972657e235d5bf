import KeyValueServer.CommandLine.LogFilter.Pattern.Options

/-!
# Single characters and places

The parts of an expression that are not made of others: characters, sets of characters with a name,
and places in a text. Two limits decide where they fit. There are no tables of Unicode, so neither
the other case of a character nor a kind of character is known in it. And what matches is always
whole characters, so a byte that is no character of ASCII cannot stand alone.
-/

namespace KeyValueServer.LogFilter.Pattern

/-- A part of an expression that is not made of others. -/
inductive Atom where
  /-- One character, and whether it is written as the two digits of a byte. -/
  | literal (char : Char) (isByte : Bool)
  /-- Any character. -/
  | any
  /-- The digits, the blanks or the characters of words, or all but those. -/
  | kind (negated : Bool)
  /-- An end of a line or of the text. -/
  | place
  /-- An end of a word, or a place that is none. -/
  | boundary
  deriving DecidableEq, Repr

namespace Atom

/-- Whether a part can stand outside of classes. -/
def fits (options : Options) : Atom → Bool
  | .literal char isByte =>
    if options.unicode then !options.caseless else !isByte || char.toNat ≤ 0x7f
  | .any => options.unicode
  | .kind negated => !options.unicode && !negated
  | .place | .boundary => true

/-- Whether a part can stand in a class. -/
def fitsClass (options : Options) : Atom → Bool
  | .literal char _ => if options.unicode then !options.caseless else char.toNat ≤ 0x7f
  | .kind negated => !options.unicode && !negated
  | .any | .place | .boundary => false

/-- Whether two parts can be the ends of a range in a class. -/
def makeRange (options : Options) : Atom → Atom → Bool
  | .literal low isByte, .literal high isByte' =>
    low ≤ high && fitsClass options (.literal low isByte) &&
      fitsClass options (.literal high isByte')
  | _, _ => false

/-- The value of a hexadecimal digit. -/
def hexDigit? (char : Char) : Option Nat :=
  if '0' ≤ char ∧ char ≤ '9' then some (char.toNat - '0'.toNat)
  else if 'a' ≤ char ∧ char ≤ 'f' then some (char.toNat - 'a'.toNat + 10)
  else if 'A' ≤ char ∧ char ≤ 'F' then some (char.toNat - 'A'.toNat + 10)
  else none

/-- The character whose number is written in `count` hexadecimal digits behind the part `value`, and
what follows it. -/
def hexChar? (options : Options) (value : Nat) : Nat → List Char → Option (Char × List Char)
  | 0, text => if value.isValidChar then some (Char.ofNat value, text) else none
  | count + 1, text =>
    match options.skip text with
    | [] => none
    | char :: rest =>
      (hexDigit? char).bind fun digit => hexChar? options (value * 16 + digit) count rest

/-- What an escape stands for, and what follows it; `text` follows the backslash. -/
def escape? (options : Options) (text : List Char) : Option (Atom × List Char) :=
  match text with
  | [] => none
  | 'x' :: rest => (hexChar? options 0 2 rest).map fun (char, rest) => (.literal char true, rest)
  | 'u' :: rest => (hexChar? options 0 4 rest).map fun (char, rest) => (.literal char false, rest)
  | 'U' :: rest => (hexChar? options 0 8 rest).map fun (char, rest) => (.literal char false, rest)
  | 'd' :: rest | 's' :: rest | 'w' :: rest => some (.kind false, rest)
  | 'D' :: rest | 'S' :: rest | 'W' :: rest => some (.kind true, rest)
  | 'A' :: rest | 'z' :: rest => some (.place, rest)
  | 'b' :: rest | 'B' :: rest | '<' :: rest | '>' :: rest => some (.boundary, rest)
  | 'a' :: rest => some (.literal '\x07' false, rest)
  | 'f' :: rest => some (.literal '\x0c' false, rest)
  | 't' :: rest => some (.literal '\t' false, rest)
  | 'n' :: rest => some (.literal '\n' false, rest)
  | 'r' :: rest => some (.literal '\r' false, rest)
  | 'v' :: rest => some (.literal '\x0b' false, rest)
  | char :: rest =>
    if char.isAlphanum || 0x7f < char.toNat then none else some (.literal char false, rest)

example : escape? .standard "x4a*".toList = some (.literal 'J' true, ['*']) := by decide

example : escape? .standard "ud800".toList = none ∧ escape? .standard "1".toList = none := by
  decide

example : fits .standard (.kind false) = false ∧ fits ⟨true, true, false⟩ .any = true := by decide

end Atom

end KeyValueServer.LogFilter.Pattern
