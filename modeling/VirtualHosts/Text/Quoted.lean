import VirtualHosts.Text.Invisible
import VirtualHosts.Text.Number

/-!
Text between double quotes, for messages.  Quotes, backslashes, the usual
controls and invisible characters are written as escapes, so that a message
stays on one line and can be read back.
-/

namespace VirtualHosts.Text

def escape (c : Char) : List Char :=
  if c = '"' then ['\\', '"']
  else if c = '\\' then ['\\', '\\']
  else if c = '\n' then ['\\', 'n']
  else if c = '\r' then ['\\', 'r']
  else if c = '\t' then ['\\', 't']
  else if c = '\x00' then ['\\', '0']
  else if isInvisible c then
    ['\\', 'u', '\x7b'] ++ hexadecimal c.toNat ++ ['\x7d']
  else [c]

def quoted (s : String) : String :=
  String.ofList ('"' :: s.toList.flatMap escape ++ ['"'])

end VirtualHosts.Text
