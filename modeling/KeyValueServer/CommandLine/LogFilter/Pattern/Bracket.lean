import KeyValueServer.CommandLine.LogFilter.Pattern.Atom
import KeyValueServer.CommandLine.LogFilter.Pattern.Height

/-!
# Classes of characters

Classes in brackets: characters, ranges, kinds and named sets of characters, classes within classes,
and the operators for common parts and differences, which all bind alike and to the left. A class
may be empty, as in `[&&]`, but a bracket that closes it right after the one that opens it is an
ordinary character.
-/

namespace KeyValueServer.LogFilter.Pattern

/-- What has been read of a class that is still open. -/
structure Bracket where
  /-- Whether nothing but dashes has been read. -/
  fresh : Bool
  /-- The items behind the last operator. -/
  items : Row
  /-- The height of what is in front of the last operator, if there is one. -/
  left : Option Nat
  deriving DecidableEq, Repr

namespace Bracket

/-- A class of which nothing has been read. -/
def empty : Bracket := ⟨true, .empty, none⟩

/-- A class with an item of the given height behind what has been read. -/
def push (bracket : Bracket) (height : Nat) : Bracket :=
  { bracket with fresh := false, items := bracket.items.push height }

/-- Whether a character stands for itself because of what is in front of it: any number of dashes,
or else a closing bracket. -/
def leads (bracket : Bracket) (char : Char) : Bool :=
  bracket.fresh && (char = '-' || char = ']' && bracket.items.count = 0)

/-- A class with a character that leads it. -/
def pushLeading (bracket : Bracket) (char : Char) : Bracket :=
  { bracket.push 0 with fresh := char = '-' }

/-- The height of the contents of a class. -/
def contents (bracket : Bracket) : Nat :=
  match bracket.left with
  | none => bracket.items.height
  | some left => max left bracket.items.height + 1

/-- A class with an operator behind what has been read. -/
def operate (bracket : Bracket) : Bracket := ⟨false, .empty, some bracket.contents⟩

/-- The height of a class. -/
def height (bracket : Bracket) : Nat := bracket.contents + 1

/-- The names of sets of ASCII characters. -/
def setNames : List String :=
  ["alnum", "alpha", "ascii", "blank", "cntrl", "digit", "graph", "lower", "print", "punct",
    "space", "upper", "word", "xdigit"]

/-- Whether a named set is negated, and what follows it; `text` follows the bracket in front of the
name. -/
def namedSet? (text : List Char) : Option (Bool × List Char) :=
  match text with
  | ':' :: text =>
    let negated := text.head? = some '^'
    let text := if negated then text.drop 1 else text
    let name := String.ofList (text.takeWhile (· ≠ ':'))
    match text.dropWhile (· ≠ ':') with
    | ':' :: ']' :: rest => if name ∈ setNames then some (negated, rest) else none
    | _ => none
  | _ => none

/-- Whether a named set, negated or not, can stand in a class. -/
def namedFits (options : Options) (negated : Bool) : Bool :=
  if options.unicode then !options.caseless else !negated

/-- The character or escape at the start of an item, and what follows it. -/
def atom? (options : Options) : List Char → Option (Atom × List Char)
  | [] => none
  | '\\' :: text => Atom.escape? options text
  | char :: text => some (.literal char false, text)

/-- What follows the item at the start of a text, a range or what stands alone. A dash makes no
range in front of a closing bracket or of another dash. -/
def itemRest? (options : Options) (text : List Char) : Option (List Char) :=
  (atom? options text).bind fun (low, rest) =>
    let alone := fun rest => if low.fitsClass options then some rest else none
    match options.skip rest with
    | '-' :: rest =>
      if options.peek? rest = some ']' || options.peek? rest = some '-' then alone ('-' :: rest)
      else
        (atom? options (options.skip rest)).bind fun (high, rest) =>
          if low.makeRange options high then some rest else none
    | rest => alone rest

/-- What follows the bracket that opens a class and a sign of negation behind it. Bytes cannot be
negated, because that would match bytes that are no characters. -/
def begin? (options : Options) (text : List Char) : Option (List Char) :=
  match options.skip text with
  | '^' :: rest => if options.unicode then some rest else none
  | rest => some rest

/-- The height of the outermost class that is open, and what follows it. The classes around the one
that is read are in `outer`, the innermost first; the rest of them has at most `fuel` items. -/
def readFrom? (options : Options) (bracket : Bracket) (outer : List Bracket) (text : List Char) :
    Nat → Option (Nat × List Char)
  | 0 => none
  | fuel + 1 =>
    match options.skip text with
    | [] => none
    | char :: rest =>
      if bracket.leads char then
        if Atom.fitsClass options (.literal char false) then
          readFrom? options (bracket.pushLeading char) outer rest fuel
        else none
      else
        match char :: rest with
        | '[' :: rest =>
          match namedSet? rest with
          | some (negated, rest) =>
            if namedFits options negated then readFrom? options (bracket.push 0) outer rest fuel
            else none
          | none =>
            (begin? options rest).bind fun rest =>
              readFrom? options .empty (bracket :: outer) rest fuel
        | ']' :: rest =>
          match outer with
          | [] => some (bracket.height, rest)
          | around :: outer => readFrom? options (around.push bracket.height) outer rest fuel
        | '&' :: '&' :: rest | '-' :: '-' :: rest | '~' :: '~' :: rest =>
          readFrom? options bracket.operate outer rest fuel
        | text =>
          (itemRest? options text).bind fun rest =>
            readFrom? options (bracket.push 0) outer rest fuel

/-- The height of a class, and what follows it; `text` follows the bracket that opens it. -/
def read? (options : Options) (text : List Char) : Option (Nat × List Char) :=
  (begin? options text).bind fun rest => readFrom? options .empty [] rest (rest.length + 1)

example : read? .standard "z-a]".toList = none := by decide

example : read? .standard "]a-]*".toList = some (2, ['*']) := by decide

example : read? .standard "a&&[[:digit:]]]".toList = some (3, []) := by decide

example : read? ⟨true, true, false⟩ "^&&]".toList = some (2, []) := by decide

end Bracket

end KeyValueServer.LogFilter.Pattern
