import BridgeClient.Number.Radix
import BridgeClient.Text.Unprinted

set_option autoImplicit false

/-! Characters and texts between quotes in messages, with what does not print escaped. -/
namespace BridgeClient.Quoted

/-- The lower case hex digits of a number, most significant first; zero is `0`. -/
def hexDigits (n : Nat) : List Char :=
  if n = 0 then ['0'] else ((Radix.digits 16 n).map Nat.digitChar).reverse

def codePoint (c : Char) : List Char := ['\\', 'u', '\x7b'] ++ hexDigits c.toNat ++ ['\x7d']

/-- A character as it stands between quotes. The given quotes are escaped. -/
def escaped (quotes : List Char) (c : Char) : List Char :=
  if c = '\x00' then ['\\', '0']
  else if c = '\t' then ['\\', 't']
  else if c = '\r' then ['\\', 'r']
  else if c = '\n' then ['\\', 'n']
  else if c = '\\' then ['\\', '\\']
  else if c ∈ quotes then ['\\', c]
  else if isPrinted c then [c]
  else codePoint c

/-- A character between single quotes. -/
def char (c : Char) : String := String.ofList ('\'' :: (escaped ['\''] c ++ ['\'']))

/-- A text between double quotes. -/
def text (s : String) : String :=
  String.ofList ('"' :: (s.toList.flatMap (escaped ['"']) ++ ['"']))

/-- A file's path between double quotes, where quotes of both kinds are escaped. -/
def path (s : String) : String :=
  String.ofList ('"' :: (s.toList.flatMap (escaped ['"', '\'']) ++ ['"']))

end BridgeClient.Quoted
