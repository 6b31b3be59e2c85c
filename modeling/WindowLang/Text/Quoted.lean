import WindowLang.Text.Unprintable

namespace WindowLang.Text

/-!
# Quoted text

A quoted text stands between double quotes on one line. Inside, a backslash
introduces every character that would end the quotation, break the line or not
be seen: the common ones by a letter, the others by their code point in
lowercase hexadecimal digits between braces. All else stands for itself.
-/

/-- The characters that write one character inside quotes. -/
def quoteChar (c : Char) : List Char :=
  if c = '\x00' then ['\\', '0']
  else if c = '\t' then ['\\', 't']
  else if c = '\n' then ['\\', 'n']
  else if c = '\r' then ['\\', 'r']
  else if c = '"' then ['\\', '"']
  else if c = '\\' then ['\\', '\\']
  else if isUnprintable c then
    ['\\', 'u', '\x7b'] ++ Nat.toDigits 16 c.toNat ++ ['\x7d']
  else [c]

/-- The text between double quotes. -/
def quote (text : String) : String :=
  String.ofList ('"' :: text.toList.flatMap quoteChar ++ ['"'])

end WindowLang.Text
