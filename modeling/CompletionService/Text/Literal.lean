import CompletionService.Text.Unicode

/-!
# Quoted text in messages

A text inside a message stands between double quotes. What could be mistaken there — quotes,
backslashes, line ends, characters with no shape of their own or that extend their neighbour — is
written as an escape.
-/

namespace CompletionService.Text

/-- The hexadecimal digits of a number, in lower case. -/
def hexDigits (n : Nat) : List Char := Nat.toDigits 16 n

/-- One character inside a quoted text. -/
def quoteChar (c : Char) : List Char :=
  match c with
  | '\x00' => ['\\', '0']
  | '\t' => ['\\', 't']
  | '\r' => ['\\', 'r']
  | '\n' => ['\\', 'n']
  | '\\' => ['\\', '\\']
  | '"' => ['\\', '"']
  | c =>
    if isPrintable c && !isExtending c then [c]
    else '\\' :: 'u' :: '{' :: hexDigits c.toNat ++ ['}']

/-- A text as it is quoted in messages. -/
def quoted (text : String) : String :=
  String.ofList ('"' :: text.toList.flatMap quoteChar ++ ['"'])

end CompletionService.Text
