/-!
# Addresses

Internet addresses of both versions, with and without a port, and their written forms. A reader
takes characters from the front of a list and returns what follows, or `none` without having taken
anything; an address has to use up its whole text.
-/

namespace KeyValueServer

/-- An internet address: four bytes, or eight groups of sixteen bits. -/
inductive IpAddress where
  | v4 (a b c d : UInt8)
  | v6 (groups : Vector UInt16 8)
  deriving DecidableEq, Repr

/-- An address with a port. An address of version 6 may name the interface it is valid on. -/
structure Address where
  ip : IpAddress
  port : UInt16
  scope : UInt32
  deriving DecidableEq, Repr

namespace Address

/-- What a reader took and what it left. -/
abbrev Reader (α : Type) := List Char → Option (α × List Char)

/-- The value of a digit in a base up to sixteen, in either case. -/
def digit? (base : Nat) (char : Char) : Option Nat :=
  let value? :=
    if '0' ≤ char ∧ char ≤ '9' then some (char.toNat - '0'.toNat)
    else if 'a' ≤ char ∧ char ≤ 'f' then some (char.toNat - 'a'.toNat + 10)
    else if 'A' ≤ char ∧ char ≤ 'F' then some (char.toNat - 'A'.toNat + 10)
    else none
  value?.filter (· < base)

/-- The values of the digits at the front. -/
def digitsOf (base : Nat) : List Char → List Nat × List Char
  | [] => ([], [])
  | char :: rest =>
    match digit? base char with
    | none => ([], char :: rest)
    | some value =>
      let (values, left) := digitsOf base rest
      (value :: values, left)

/-- Reads a number of at most `maxDigits` digits with a value below `bound`. Unless
`zeroFirst` holds, a number of several digits does not begin with zero. -/
def readNumber (base bound : Nat) (maxDigits : Option Nat) (zeroFirst : Bool) : Reader Nat :=
  fun text =>
    let (values, rest) := digitsOf base text
    let tooLong := maxDigits.any (· < values.length)
    let padded := !zeroFirst && values.head? == some 0 && 1 < values.length
    let number := values.foldl (fun number value => number * base + value) 0
    if values.isEmpty || tooLong || padded || bound ≤ number then none
    else some (number, rest)

/-- Reads one given character. -/
def readChar (expected : Char) : Reader Unit
  | char :: rest => if char = expected then some ((), rest) else none
  | [] => none

/-- Reads the separator in front of every item but the first. -/
def readSeparator (separator : Char) (first : Bool) : Reader Unit :=
  fun text => if first then some ((), text) else readChar separator text

/-- Reads further bytes of an address of version 4, up to `count` of them. -/
def readBytes (first : Bool) : Nat → Reader (List Nat)
  | 0, text => some ([], text)
  | count + 1, text => do
    let (_, text) ← readSeparator '.' first text
    let (byte, text) ← readNumber 10 256 (some 3) false text
    let (bytes, text) ← readBytes false count text
    return (byte :: bytes, text)

/-- Reads the four bytes of an address of version 4. -/
def readV4 : Reader (List Nat) := readBytes true 4

/-- Reads up to `room` groups of an address of version 6. The last two may be written as an
address of version 4; the flag says whether they were. -/
def readGroups (first : Bool) : Nat → List Char → List Nat × Bool × List Char
  | 0, text => ([], false, text)
  | room + 1, text =>
    let embedded := if room = 0 then none else
      (readSeparator ':' first text).bind fun (_, inner) => readV4 inner
    match embedded with
    | some ([a, b, c, d], rest) => ([a * 256 + b, c * 256 + d], true, rest)
    | _ =>
      match (readSeparator ':' first text).bind fun (_, inner) =>
          readNumber 16 0x10000 (some 4) true inner with
      | none => ([], false, text)
      | some (group, rest) =>
        let (groups, ended, rest) := readGroups false room rest
        (group :: groups, ended, rest)

/-- The eight groups with the given numbers. -/
def groupsOf (numbers : List Nat) : Vector UInt16 8 :=
  Vector.ofFn fun index => (numbers.getD index 0).toUInt16

/-- Reads an address of version 6. Two colons stand for one or more groups of zero. -/
def readV6 : Reader (Vector UInt16 8) :=
  fun text => do
    let (head, embedded, text) := readGroups true 8 text
    if head.length = 8 then return (groupsOf head, text)
    if embedded then none
    let (_, text) ← readChar ':' text
    let (_, text) ← readChar ':' text
    let (tail, _, text) := readGroups true (8 - (head.length + 1)) text
    let zeros := List.replicate (8 - (head.length + tail.length)) 0
    return (groupsOf (head ++ zeros ++ tail), text)

/-- The address of version 4 with the given bytes. -/
def ofBytes : List Nat → Option IpAddress
  | [a, b, c, d] => some (.v4 a.toUInt8 b.toUInt8 c.toUInt8 d.toUInt8)
  | _ => none

/-- Reads an address of either version. -/
def readIp : Reader IpAddress :=
  fun text =>
    match readV4 text with
    | some (bytes, rest) => (ofBytes bytes).map (·, rest)
    | none => (readV6 text).map fun (groups, rest) => (.v6 groups, rest)

/-- Reads a colon and a port. -/
def readPort : Reader Nat :=
  fun text => do
    let (_, text) ← readChar ':' text
    readNumber 10 0x10000 none true text

/-- Reads a percent sign and the number of an interface, if they are there. -/
def readScope : Reader Nat :=
  fun text =>
    match (readChar '%' text).bind fun (_, inner) => readNumber 10 0x100000000 none true inner with
    | some found => some found
    | none => some (0, text)

/-- Reads an address of version 4 with a port. -/
def readV4WithPort : Reader Address :=
  fun text => do
    let (bytes, text) ← readV4 text
    let (port, text) ← readPort text
    let ip ← ofBytes bytes
    return (⟨ip, port.toUInt16, 0⟩, text)

/-- Reads an address of version 6, in square brackets, with a port. -/
def readV6WithPort : Reader Address :=
  fun text => do
    let (_, text) ← readChar '[' text
    let (groups, text) ← readV6 text
    let (scope, text) ← readScope text
    let (_, text) ← readChar ']' text
    let (port, text) ← readPort text
    return (⟨.v6 groups, port.toUInt16, scope.toUInt32⟩, text)

/-- What a reader takes from a text that it uses up. -/
def whole {α : Type} (reader : Reader α) (text : List Char) : Option α :=
  match reader text with
  | some (value, []) => some value
  | _ => none

/-- The address with port that a text writes. -/
def parse? (text : String) : Option Address :=
  (whole readV4WithPort text.toList).orElse fun _ => whole readV6WithPort text.toList

/-- The leftmost of the longest runs of zero groups, as its start and length. -/
def longestZeros (index : Nat) (current best : Nat × Nat) : List UInt16 → Nat × Nat
  | [] => best
  | group :: groups =>
    if group = 0 then
      let current := if current.2 = 0 then (index, 1) else (current.1, current.2 + 1)
      longestZeros (index + 1) current (if best.2 < current.2 then current else best) groups
    else longestZeros (index + 1) (0, 0) best groups

/-- Groups in hexadecimal with colons between them. -/
def joinGroups (groups : List UInt16) : String :=
  ":".intercalate (groups.map fun group => String.ofList (Nat.toDigits 16 group.toNat))

/-- Four bytes with points between them. -/
def joinBytes (bytes : List Nat) : String :=
  ".".intercalate (bytes.map toString)

end Address

/-- The written form of an address. The longest run of at least two zero groups becomes two
colons, and an address that embeds one of version 4 shows it as such. -/
def IpAddress.display : IpAddress → String
  | .v4 a b c d => Address.joinBytes [a.toNat, b.toNat, c.toNat, d.toNat]
  | .v6 groups =>
    match groups.toList with
    | [0, 0, 0, 0, 0, 0xffff, high, low] =>
      "::ffff:" ++ Address.joinBytes
        [high.toNat / 256, high.toNat % 256, low.toNat / 256, low.toNat % 256]
    | groups =>
      let (start, length) := Address.longestZeros 0 (0, 0) (0, 0) groups
      if length > 1 then
        Address.joinGroups (groups.take start) ++ "::" ++
          Address.joinGroups (groups.drop (start + length))
      else Address.joinGroups groups

/-- The address that a text writes. -/
def IpAddress.parse? (text : String) : Option IpAddress :=
  Address.whole Address.readIp text.toList

/-- The written form of an address, with `port` in the place of its port. -/
def Address.displayWith (address : Address) (port : String) : String :=
  match address.ip with
  | .v4 _ _ _ _ => address.ip.display ++ ":" ++ port
  | .v6 _ =>
    let scope := if address.scope = 0 then "" else "%" ++ toString address.scope.toNat
    "[" ++ address.ip.display ++ scope ++ "]:" ++ port

/-- The written form of an address. -/
def Address.display (address : Address) : String :=
  address.displayWith (toString address.port.toNat)

/-- The address of the machine itself, with a port. -/
def Address.loopback (port : UInt16) : Address := ⟨.v4 127 0 0 1, port, 0⟩

end KeyValueServer
