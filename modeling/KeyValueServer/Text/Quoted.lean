import KeyValueServer.Text.Hidden

/-!
# Quoted text

Text in double quotes as it stands in reports on the server's own state. A character that would
end the quotation, break the line or not be seen is written as an escape.
-/

namespace KeyValueServer.Quoted

/-- A character as it stands between the quotes. -/
def escape (char : Char) : List Char :=
  if char = '"' then ['\\', '"']
  else if char = '\\' then ['\\', '\\']
  else if char = '\n' then ['\\', 'n']
  else if char = '\r' then ['\\', 'r']
  else if char = '\t' then ['\\', 't']
  else if char.toNat = 0 then ['\\', '0']
  else if Hidden.isHidden char then
    ['\\', 'u', '\x7b'] ++ Nat.toDigits 16 char.toNat ++ ['\x7d']
  else [char]

/-- A text in quotes. -/
def quote (text : String) : String :=
  String.ofList ('"' :: text.toList.flatMap escape ++ ['"'])

example : quote "it's \"a\"\n" = "\"it's \\\"a\\\"\\n\"" := by decide

end KeyValueServer.Quoted
