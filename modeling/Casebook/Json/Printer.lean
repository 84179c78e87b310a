import Casebook.Json.Basic
import Casebook.Decimal.Notation

/-!
# Printed documents

The compact text of a document value: no blanks, members in their order, and in texts an escape only
where one is needed.
-/

namespace Casebook.Json

open Decimal (Layout)

def hexDigit (n : Nat) : Char :=
  Nat.digitChar (n % 16)

def escapeChar (c : Char) : List Char :=
  if c = '"' then ['\\', '"']
  else if c = '\\' then ['\\', '\\']
  else if c = '\n' then ['\\', 'n']
  else if c = '\r' then ['\\', 'r']
  else if c = '\t' then ['\\', 't']
  else if c.toNat = 8 then ['\\', 'b']
  else if c.toNat = 12 then ['\\', 'f']
  else if c.toNat < 0x20 then ['\\', 'u', '0', '0', hexDigit (c.toNat / 16), hexDigit c.toNat]
  else [c]

def printText (s : String) : List Char :=
  '"' :: s.toList.flatMap escapeChar ++ ['"']

def printInt (n : Int) : List Char :=
  if n < 0 then '-' :: Decimal.digits n.natAbs else Decimal.digits n.natAbs

mutual
def print : Json → List Char
  | .null => ['n', 'u', 'l', 'l']
  | .bool true => ['t', 'r', 'u', 'e']
  | .bool false => ['f', 'a', 'l', 's', 'e']
  | .int n => printInt n
  | .float d => Layout.document.render d
  | .string s => printText s
  | .array items => '[' :: printItems items ++ [']']
  | .object ms => '\x7b' :: printMembers ms ++ ['\x7d']
  | .faulty => ['n', 'u', 'l', 'l']

def printItems : List Json → List Char
  | [] => []
  | [v] => print v
  | v :: w :: r => print v ++ ',' :: printItems (w :: r)

def printMembers : List (String × Json) → List Char
  | [] => []
  | [(k, v)] => printText k ++ ':' :: print v
  | (k, v) :: m :: r => printText k ++ ':' :: print v ++ ',' :: printMembers (m :: r)
end

def text (v : Json) : String :=
  String.ofList (print v)

end Casebook.Json
