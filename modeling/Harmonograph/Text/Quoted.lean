import Harmonograph.Text.Printable

/-!
Quoted text: a text between double quotes, on one line, with every character recognizable.
-/

namespace Harmonograph

/-- Lower-case hexadecimal digits without leading zeros. -/
def hexText (n : Nat) : List Char := Nat.toDigits 16 n

/-- A character given by its code point. -/
def codePointText (c : Char) : List Char := ['\\', 'u', '\x7b'] ++ hexText c.toNat ++ ['\x7d']

/-- A quote, a backslash and the common controls have short escapes; other characters without a
shape of their own are given by code point. -/
def quotedChar (c : Char) : List Char :=
  if c = '\x00' then ['\\', '0']
  else if c = '\t' then ['\\', 't']
  else if c = '\r' then ['\\', 'r']
  else if c = '\n' then ['\\', 'n']
  else if c = '"' then ['\\', '"']
  else if c = '\\' then ['\\', '\\']
  else if isPrintable c then [c]
  else codePointText c

def quoted (cs : List Char) : String :=
  String.ofList ('"' :: cs.flatMap quotedChar ++ ['"'])

example : quoted ['a', '"', '\n'] = "\"a\\\"\\n\"" := by decide +kernel

end Harmonograph
