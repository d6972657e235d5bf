import KeyValueServer.CommandLine.LogFilter.Pattern.Bracket
import KeyValueServer.Text.Alphanumeric

/-!
# Regular expressions

Which texts are regular expressions that a log filter can match. Expressions know groups,
alternatives, repetitions, classes of characters, places, and options that hold to the end of the
group. They know neither look-around nor references to groups, nor repetitions that are counted in
braces. An expression may hold no more than `maxHeight` parts within each other, and the ends of
words cannot be told for Unicode.
-/

namespace KeyValueServer.LogFilter.Pattern

/-- Why a text is no regular expression that can be matched. -/
inductive Flaw where
  /-- It is no expression, or needs what is not known about characters. -/
  | malformed
  /-- It asks for the ends of words in Unicode. -/
  | boundary
  deriving DecidableEq, Repr

/-- The wording of a flaw. -/
def Flaw.message : Flaw → String
  | .malformed => "error building NFA"
  | .boundary =>
    "unsupported regex feature for DFAs: cannot build DFAs for regexes with Unicode word " ++
      "boundaries; switch to ASCII word boundaries, or heuristically enable Unicode word " ++
      "boundaries or use a different regex engine"

/-- The greatest height of an expression. -/
def maxHeight : Nat := 250

/-! ## Groups -/

/-- What has been read of a group that is still open. -/
structure Group where
  /-- The branch that is being read. -/
  branch : Row
  /-- The branches in front of it. -/
  branches : Row
  /-- The height of the last part, if it can be repeated. -/
  last : Option Nat
  deriving DecidableEq, Repr

namespace Group

/-- A group of which nothing has been read. -/
def empty : Group := ⟨.empty, .empty, none⟩

/-- A group with a part of the given height behind what has been read. -/
def push (group : Group) (height : Nat) : Group :=
  { group with branch := group.branch.push height, last := some height }

/-- A group with a change of options behind what has been read. -/
def pushOptions (group : Group) : Group :=
  { group with branch := group.branch.push 0, last := none }

/-- A group with a repetition of the last part in its place. -/
def repeat? (group : Group) : Option Group :=
  group.last.map fun height =>
    { group with branch := group.branch.raise (height + 1), last := some (height + 1) }

/-- A group with a new branch behind what has been read. -/
def alternate (group : Group) : Group :=
  ⟨.empty, group.branches.push group.branch.height, none⟩

/-- The height of the contents of a group. -/
def contents (group : Group) : Nat := (group.branches.push group.branch.height).height

end Group

/-- What an opening bracket begins. -/
inductive Opening where
  /-- A group, with its name and the letters of its options. -/
  | group (name : Option String) (letters : List Char)
  /-- A change of the options for the rest of the group. -/
  | options (letters : List Char)
  deriving DecidableEq, Repr

/-- The name of a group, and what follows it. -/
def groupName? (text : List Char) : Option (String × List Char) :=
  let name := text.takeWhile (· ≠ '>')
  let begins := fun char => char = '_' || Alphanumeric.isLetter char
  let fits := fun char => char ∈ ['_', '.', '[', ']'] || Alphanumeric.isAlphanumeric char
  match text.dropWhile (· ≠ '>') with
  | '>' :: rest =>
    if name.head?.any begins && name.all fits then some (String.ofList name, rest) else none
  | _ => none

/-- What an opening bracket begins, and what follows; `text` follows the bracket. -/
def opening? (text : List Char) : Option (Opening × List Char) :=
  match text with
  | '?' :: '<' :: '=' :: _ | '?' :: '<' :: '!' :: _ => none
  | '?' :: 'P' :: '<' :: rest | '?' :: '<' :: rest =>
    (groupName? rest).map fun (name, rest) => (.group (some name) [], rest)
  | '?' :: rest =>
    let letters := rest.takeWhile fun char => char ≠ ':' && char ≠ ')'
    if Options.areLetters letters then
      match rest.drop letters.length with
      | ':' :: rest => some (.group none letters, rest)
      | ')' :: rest => if letters.isEmpty then none else some (.options letters, rest)
      | _ => none
    else none
  | text => some (.group none [], text)

/-! ## Reading -/

/-- What has been read of an expression. -/
structure Progress where
  options : Options
  /-- The group that is being read, or the whole expression outside of groups. -/
  group : Group
  /-- The groups around it, the innermost first, each with its options. -/
  outer : List (Options × Group)
  /-- The names of groups so far. -/
  names : List String
  /-- Whether an end of a word in Unicode has been asked for. -/
  boundary : Bool
  deriving DecidableEq, Repr

namespace Progress

/-- The start of an expression. -/
def start : Progress := ⟨.standard, .empty, [], [], false⟩

/-- Adds a part of the given height. -/
def push (progress : Progress) (height : Nat) : Progress :=
  { progress with group := progress.group.push height }

/-- Adds a part that is not made of others, if it can stand here. -/
def pushAtom? (progress : Progress) (atom : Atom) : Option Progress :=
  let asked := atom = .boundary && progress.options.unicode
  if atom.fits progress.options then
    some { progress.push 0 with boundary := progress.boundary || asked }
  else none

/-- Begins a group or changes the options. Names are given once. -/
def open? (progress : Progress) : Opening → Option Progress
  | .options letters =>
    some { progress with
      options := progress.options.change true letters
      group := progress.group.pushOptions }
  | .group name letters =>
    if name.any (· ∈ progress.names) then none
    else
      some { progress with
        options := progress.options.change true letters
        group := .empty
        outer := (progress.options, progress.group) :: progress.outer
        names := name.toList ++ progress.names }

/-- Ends a group. The options are again those in front of it. -/
def close? (progress : Progress) : Option Progress :=
  match progress.outer with
  | [] => none
  | (options, group) :: outer =>
    some { progress with
      options := options
      group := group.push (progress.group.contents + 1)
      outer := outer }

/-- Reads one part, which begins with the given character, and leaves what follows it. -/
def step? (progress : Progress) (char : Char) (rest : List Char) :
    Option (Progress × List Char) :=
  match char with
  | '(' =>
    (opening? (progress.options.skip rest)).bind fun (opening, rest) =>
      (progress.open? opening).map (·, rest)
  | ')' => progress.close?.map (·, rest)
  | '|' => some ({ progress with group := progress.group.alternate }, rest)
  | '[' =>
    (Bracket.read? progress.options rest).map fun (height, rest) => (progress.push height, rest)
  | '?' | '*' | '+' =>
    progress.group.repeat?.map fun group =>
      ({ progress with group := group }, if rest.head? = some '?' then rest.drop 1 else rest)
  | '\x7b' => none
  | '.' => (progress.pushAtom? .any).map (·, rest)
  | '^' | '$' => (progress.pushAtom? .place).map (·, rest)
  | '\\' =>
    (Atom.escape? progress.options rest).bind fun (atom, rest) =>
      (progress.pushAtom? atom).map (·, rest)
  | char => (progress.pushAtom? (.literal char false)).map (·, rest)

/-- Reads the rest of an expression, in at most `fuel` parts. -/
def readFrom? (progress : Progress) (text : List Char) : Nat → Option Progress
  | 0 => none
  | fuel + 1 =>
    match progress.options.skip text with
    | [] => if progress.outer.isEmpty then some progress else none
    | char :: rest =>
      (progress.step? char rest).bind fun (progress, rest) => readFrom? progress rest fuel

end Progress

/-- Checks that a text is a regular expression that can be matched. -/
def checkExpression (text : List Char) : Except Flaw Unit :=
  match Progress.readFrom? .start text (text.length + 1) with
  | none => .error .malformed
  | some progress =>
    if maxHeight < progress.group.contents then .error .malformed
    else if progress.boundary then .error .boundary
    else .ok ()

/-- Whether a text is a regular expression that can be matched. -/
def isExpression (text : String) : Bool := (checkExpression text.toList).isOk

example : isExpression "(a|b)*[x-z]?" = true ∧ isExpression "a|*" = false := by decide

example : isExpression "a**?" = true ∧ isExpression "(?i" = false := by decide

example : isExpression "(?i).(?-i)a" = true ∧ isExpression "(?i)1" = false := by decide

example : isExpression "(?-u)\\b\\d" = true ∧ isExpression "(?-u)." = false := by decide

example : isExpression "(?x)a # (" = true ∧ isExpression "a # (" = false := by decide

end KeyValueServer.LogFilter.Pattern
