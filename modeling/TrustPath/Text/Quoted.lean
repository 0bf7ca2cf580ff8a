import TrustPath.Text.PrintableTable
import TrustPath.Octets

/-!
# Quoted texts

The form in which a text or a list of texts appears in a log line: between double quotes, with a
backslash before a quote and a backslash, short escapes for the usual controls, and the code
point in braces for every other character that cannot be seen.
-/

namespace TrustPath.Text

/-- The lowercase hexadecimal digits of a number, without leading zeros. -/
def hexDigits (n : Nat) : List Char :=
  (Nat.toDigits 16 n)

def quoteChar (c : Char) : List Char :=
  match c with
  | '\x00' => ['\\', '0']
  | '\t' => ['\\', 't']
  | '\n' => ['\\', 'n']
  | '\r' => ['\\', 'r']
  | '"' => ['\\', '"']
  | '\\' => ['\\', '\\']
  | ' ' => [' ']
  | c =>
    if unprintable.has c || graphemeExtend.has c then
      ['\\', 'u', '{'] ++ hexDigits c.toNat ++ ['}']
    else [c]

def quoted (s : String) : String :=
  String.ofList (['"'] ++ s.toList.flatMap quoteChar ++ ['"'])

def quotedList (ss : List String) : String :=
  "[" ++ ", ".intercalate (ss.map quoted) ++ "]"

def quotedSet (ss : List String) : String :=
  "\x7b" ++ ", ".intercalate (ss.map quoted) ++ "\x7d"

end TrustPath.Text
