/-!
# Writing strings

A string is written between quotes.  Quotes, backslashes and control characters are escaped, and
everything else stands as it is.
-/

set_option autoImplicit false

namespace EmojiLint
namespace Json

/-- A digit of a hexadecimal number, in lower case. -/
def hexChar (n : Nat) : Char :=
  if n < 10 then Char.ofNat ('0'.toNat + n) else Char.ofNat ('a'.toNat + (n - 10))

/-- How a character is written inside a string. -/
def quoteChar (c : Char) : List Char :=
  match c with
  | '"' => ['\\', '"']
  | '\\' => ['\\', '\\']
  | '\x08' => ['\\', 'b']
  | '\x0C' => ['\\', 'f']
  | '\n' => ['\\', 'n']
  | '\r' => ['\\', 'r']
  | '\t' => ['\\', 't']
  | c =>
    if c.toNat < 0x20 then ['\\', 'u', '0', '0', hexChar (c.toNat / 16), hexChar (c.toNat % 16)]
    else [c]

/-- How a string is written. -/
def quote (s : String) : List Char :=
  '"' :: s.toList.flatMap quoteChar ++ ['"']

end Json
end EmojiLint
