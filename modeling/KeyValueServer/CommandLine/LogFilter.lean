import KeyValueServer.CommandLine.LogFilter.Pattern
import KeyValueServer.Text.Blank
import KeyValueServer.Text.Decimal
import KeyValueServer.Text.Utf8

/-!
# Log filters

Which log lines a filter lets through. A filter is a list of directives with commas between them. A
directive names a level and may limit it to lines from sources whose names begin in a given way, to
lines inside a span, and to lines with a field: `source[span{field=value}]=level`, where a word
alone is a level or a source. Of the directives that fit a line the most specific one decides.

The program opens no spans. So a directive with a span or with the value of a field fits no line,
but it is a directive all the same.
-/

namespace KeyValueServer.LogFilter

/-- The levels of log lines by name, each with the number of levels it includes. -/
def levels : List (String × Nat) :=
  [("off", 0), ("error", 1), ("warn", 2), ("info", 3), ("debug", 4), ("trace", 5)]

/-- The level that includes all others. -/
def everything : Nat := 5

/-- The level that a word means: its number, its name in either case, or, for no word at all, that
of errors. -/
def level? (word : String) : Option Nat :=
  let number? : Option Nat :=
    match Decimal.read Decimal.uint64 (Utf8.encode word) with
    | .ok number => if number.toNat ≤ everything then some number.toNat else none
    | .error _ => none
  let named? := (levels.find? fun (name, _) => name.toList = word.toList.map Char.toLower).map (·.2)
  number?.orElse fun _ => if word.isEmpty then some 1 else named?

/-- A field of log lines, and the text of the value it has to have, if that is given. -/
structure Field where
  name : String
  value : Option String
  deriving DecidableEq, Repr

/-- A level and the lines it is set for. -/
structure Directive where
  level : Nat
  source : Option String
  span : Option String
  field : Option Field
  deriving DecidableEq, Repr

/-- Why a text is no directive. -/
inductive Flaw where
  /-- Its parts are not in order. -/
  | shape
  /-- A level is expected, and there is none. -/
  | level
  /-- The value of a field is neither a number nor a regular expression that can be matched. -/
  | fieldValue (flaw : Pattern.Flaw)
  deriving DecidableEq, Repr

/-- The wording of a flaw. -/
def Flaw.message : Flaw → String
  | .shape => "invalid filter directive"
  | .level =>
    "error parsing level filter: expected one of \"off\", \"error\", \"warn\", \"info\", " ++
      "\"debug\", \"trace\", or a number 0-5"
  | .fieldValue flaw => "invalid field filter: " ++ flaw.message

/-! ## Reading directives -/

/-- The part of a directive that is being read, and where it began, if it is a text. -/
inductive Place where
  | front
  | word (start : Nat)
  | span (start : Nat)
  | field (start : Nat)
  /-- Behind the field. -/
  | fieldEnd
  /-- Behind the bracket that closes the span. -/
  | spanEnd
  | level (start : Nat)
  deriving DecidableEq, Repr

/-- A part of a text, given as bytes, from one position to the one in front of another. -/
def cut (text : List UInt8) (start stop : Nat) : String :=
  Utf8.decodeLossy ((text.take stop).drop start)

/-- The level that a part in the place of a level means. Without a text it is that of all lines. -/
def levelIn (word : String) : Except Flaw Nat :=
  if word.isEmpty then .ok everything
  else
    match level? word with
    | some level => .ok level
    | none => .error .level

/-- The field that a part in the place of a field means. What follows a second equals sign does not
count. -/
def fieldIn (text : String) : Except Flaw Field :=
  match text.toList.splitOn '=' with
  | name :: value :: _ =>
    let value := String.ofList value
    match Pattern.check value with
    | .ok () => .ok ⟨String.ofList name, some value⟩
    | .error flaw => .error (.fieldValue flaw)
  | _ => if text.isEmpty then .error .shape else .ok ⟨text, none⟩

/-- Takes the character at a position into account. -/
def step (text : List UInt8) (directive : Directive) (place : Place) (position : Nat)
    (char : Char) : Except Flaw (Directive × Place) :=
  match place with
  | .front =>
    if char = '[' then .ok (directive, .span (position + 1))
    else if Alphanumeric.isAlphanumeric char || char = '-' || char = ':' || char = '_' then
      .ok (directive, .word position)
    else .error .shape
  | .word start =>
    if char = '=' then
      .ok ({ directive with source := some (cut text start position) }, .level (position + 1))
    else if char = '[' then
      .ok ({ directive with source := some (cut text start position) }, .span (position + 1))
    else .ok (directive, place)
  | .span start =>
    let span := cut text start position
    if char = ']' then .ok ({ directive with span := some span }, .spanEnd)
    else if char = '\x7b' then
      .ok ({ directive with span := if span.isEmpty then none else some span },
        .field (position + 1))
    else .ok (directive, place)
  | .field start =>
    if char = '\x7d' then
      (fieldIn (cut text start position)).map fun field =>
        ({ directive with field := some field }, .fieldEnd)
    else .ok (directive, place)
  | .fieldEnd => if char = ']' then .ok (directive, .spanEnd) else .error .shape
  | .spanEnd => if char = '=' then .ok (directive, .level (position + 1)) else .error .shape
  | .level _ => .ok (directive, place)

/-- The directive that ends in a place. -/
def finish (text : List UInt8) (directive : Directive) : Place → Except Flaw Directive
  | .word start =>
    let word := cut text start text.length
    match level? word with
    | some level => .ok { directive with level := level }
    | none => .ok { directive with source := some word }
  | .level start =>
    (levelIn (cut text start text.length)).map fun level => { directive with level := level }
  | .spanEnd => .ok directive
  | _ => .error .shape

/-- Reads the characters from a position on. -/
def readFrom (text : List UInt8) (directive : Directive) (place : Place) (position : Nat) :
    List Char → Except Flaw Directive
  | [] => finish text directive place
  | char :: rest =>
    match step text directive place position char with
    | .error flaw => .error flaw
    | .ok (directive, place) => readFrom text directive place (position + char.utf8Size) rest

/-- A text without the blanks around it. -/
def trimmed (text : List Char) : List Char :=
  ((text.dropWhile Blank.isBlank).reverse.dropWhile Blank.isBlank).reverse

/-- The directive that a text writes. The parts are found in the text without the blanks around it
and then cut from the whole text, so blanks belong to the part at their end and shift all parts. -/
def read (text : String) : Except Flaw Directive :=
  readFrom (Utf8.encode text) ⟨everything, none, none, none⟩ .front 0 (trimmed text.toList)

/-- The texts of the directives in a filter. -/
def parts (filter : String) : List String :=
  ((filter.toList.splitOn ',').map String.ofList).filter (!·.isEmpty)

/-- The directives of a filter, if all its parts are directives. -/
def strict? (filter : String) : Option (List Directive) :=
  (parts filter).mapM fun part => (read part).toOption

/-- The directives among the parts of a filter. -/
def lenient (filter : String) : List Directive :=
  (parts filter).filterMap fun part => (read part).toOption

/-- The parts of a filter that are no directives, each with its flaw. -/
def ignored (filter : String) : List (String × Flaw) :=
  (parts filter).filterMap fun part =>
    match read part with
    | .ok _ => none
    | .error flaw => some (part, flaw)

/-! ## Log lines -/

/-- What a filter looks at in a log line. -/
structure Line where
  source : String
  level : Nat
  /-- The names of its fields. -/
  fields : List String
  deriving DecidableEq, Repr

/-- Whether `start` is how `name` begins. -/
def begins (start name : String) : Bool := start.toList.isPrefixOf name.toList

/-- Whether a directive says something on a line outside all spans. -/
def fits (line : Line) (directive : Directive) : Bool :=
  directive.span.isNone && directive.source.all (begins · line.source) &&
    directive.field.all fun field => field.value.isNone && field.name ∈ line.fields

/-- How much a directive narrows the lines down, to be compared from the left: by the length of the
source, and then by having a field. -/
def specificity (directive : Directive) : Nat × Nat :=
  ((directive.source.map (·.utf8ByteSize + 1)).getD 0, directive.field.toList.length)

/-- The name of the field of a directive. -/
def fieldName (directive : Directive) : String := (directive.field.map Field.name).getD ""

/-- Whether `later` decides a line rather than `earlier`, where both fit it. Of two that are equally
specific the one whose field has the greater name does, and of two alike the later one. -/
def outranks (later earlier : Directive) : Bool :=
  let (longer, shorter) := (specificity later, specificity earlier)
  shorter.1 < longer.1 || shorter.1 = longer.1 && (shorter.2 < longer.2 ||
    shorter.2 = longer.2 && fieldName earlier ≤ fieldName later)

/-- The directive that decides a line, if any fits it. -/
def deciding? (directives : List Directive) (line : Line) : Option Directive :=
  (directives.filter (fits line)).foldl
    (fun best directive =>
      match best with
      | none => some directive
      | some other => if outranks directive other then some directive else best) none

/-- The directives in force: a filter without any lets errors through. -/
def inForce (directives : List Directive) : List Directive :=
  if directives.isEmpty then [⟨1, none, none, none⟩] else directives

/-- Whether a line passes the filter with the given directives. -/
def passes (directives : List Directive) (line : Line) : Bool :=
  (deciding? (inForce directives) line).any fun directive => line.level ≤ directive.level

example : (read "a[b]=warn").toOption = some ⟨2, some "a", some "b", none⟩ := by decide

example : (read "off=info").toOption = some ⟨3, some "off", none, none⟩ := by decide

end KeyValueServer.LogFilter
