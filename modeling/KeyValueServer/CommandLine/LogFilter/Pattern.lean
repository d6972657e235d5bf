import KeyValueServer.CommandLine.LogFilter.Pattern.Expression

/-!
# Patterns for field values

Which texts a log filter takes as the value of a field: numbers and regular expressions. A text that
is a number is taken as one, even where it would be no expression.
-/

namespace KeyValueServer.LogFilter.Pattern

/-- Whether a text is a run of digits, at least one. -/
def areDigits (text : List Char) : Bool := !text.isEmpty && text.all Char.isDigit

/-- Whether a text is a number without a sign: digits with at most one point among them, and
possibly an exponent; or a word for what is no finite number. -/
def isMagnitude (text : List Char) : Bool :=
  let word := text.map Char.toLower
  let whole := text.takeWhile Char.isDigit
  let rest := text.dropWhile Char.isDigit
  let (part, rest) :=
    match rest with
    | '.' :: rest => (rest.takeWhile Char.isDigit, rest.dropWhile Char.isDigit)
    | rest => ([], rest)
  let ends :=
    match rest with
    | [] => true
    | mark :: sign :: digits =>
      (mark = 'e' || mark = 'E') &&
        if sign = '+' || sign = '-' then areDigits digits else areDigits (sign :: digits)
    | _ => false
  ["inf", "infinity", "nan"].any (·.toList = word) || (areDigits (whole ++ part) && ends)

/-- Whether a text is a number. -/
def isNumber : List Char → Bool
  | '+' :: text | '-' :: text => isMagnitude text
  | text => isMagnitude text

/-- Checks that a text can be the value of a field. -/
def check (text : String) : Except Flaw Unit :=
  if isNumber text.toList then .ok () else checkExpression text.toList

example : (check "+1.5e3").isOk = true ∧ (check "+1.5f3").isOk = false := by decide

end KeyValueServer.LogFilter.Pattern
