import SwarmDeploy.Text.Printable

/-! Texts in quotes for messages.
A quote, a backslash and the usual controls are written with a backslash, and every other
character that does not print by its number. -/

namespace SwarmDeploy.Text

def quotedChar (c : Char) : List Char :=
  let n := c.toNat
  if n = 0x22 then ['\\', '"']
  else if n = 0x5C then ['\\', '\\']
  else if n = 0 then ['\\', '0']
  else if n = 0x09 then ['\\', 't']
  else if n = 0x0A then ['\\', 'n']
  else if n = 0x0D then ['\\', 'r']
  else if isPrintable c then [c]
  else ['\\', 'u', '\x7b'] ++ Nat.toDigits 16 n ++ ['\x7d']

def quoted (cs : List Char) : List Char :=
  '"' :: cs.flatMap quotedChar ++ ['"']

end SwarmDeploy.Text
