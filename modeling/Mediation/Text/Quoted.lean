import Mediation.Text.Hidden

/-!
# Quoted text

A developer text shows a string between double quotes. The quote, the backslash and the common
controls are written with a backslash, and a character without a shape of its own by its number in
hexadecimal between braces. An apostrophe stays as it is.
-/

set_option autoImplicit false

namespace Mediation.Quoted

/-- The characters that stand for one character between the quotes. -/
def escape (c : Char) : List Char :=
  if c = '"' then ['\\', '"']
  else if c = '\\' then ['\\', '\\']
  else if c = '\n' then ['\\', 'n']
  else if c = '\t' then ['\\', 't']
  else if c = '\r' then ['\\', 'r']
  else if c = Char.ofNat 0 then ['\\', '0']
  else if Hidden.isHidden c then
    ['\\', 'u', '\x7b'] ++ Nat.toDigits 16 c.toNat ++ ['\x7d']
  else [c]

def quote (text : String) : String :=
  String.ofList ('"' :: text.toList.flatMap escape ++ ['"'])

end Mediation.Quoted
