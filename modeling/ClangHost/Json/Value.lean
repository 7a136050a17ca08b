import ClangHost.Document.Node
import ClangHost.Text.Hex

/-!
JSON values that this library writes, and their compact text: no blanks, fields in their order,
and in a text only quotes, backslashes and the control characters below the space escaped.
-/
namespace ClangHost.Json

inductive Value where
  | null
  | bool (b : Bool)
  | integer (n : Int)
  | text (s : String)
  | list (items : List Value)
  | table (entries : List (String × Value))
  deriving Repr, BEq

def numberEscape (c : Char) : List Char :=
  ['\\', 'u', '0', '0'] ++ Text.hexByte c.toNat.toUInt8

def escape (c : Char) : List Char :=
  if c = '"' then ['\\', '"']
  else if c = '\\' then ['\\', '\\']
  else if c = '\x08' then ['\\', 'b']
  else if c = '\t' then ['\\', 't']
  else if c = '\n' then ['\\', 'n']
  else if c = '\x0c' then ['\\', 'f']
  else if c = '\r' then ['\\', 'r']
  else if c.toNat < 0x20 then numberEscape c
  else [c]

def quote (s : List Char) : List Char := '"' :: s.flatMap escape ++ ['"']

namespace Value

mutual

def chars : Value → List Char
  | .null => ['n', 'u', 'l', 'l']
  | .bool true => ['t', 'r', 'u', 'e']
  | .bool false => ['f', 'a', 'l', 's', 'e']
  | .integer n => (toString n).toList
  | .text s => quote s.toList
  | .list [] => ['[', ']']
  | .list (x :: rest) => '[' :: chars x ++ charsItems rest
  | .table [] => ['\x7b', '\x7d']
  | .table ((key, x) :: rest) =>
    '\x7b' :: quote key.toList ++ ':' :: chars x ++ charsEntries rest

def charsItems : List Value → List Char
  | [] => [']']
  | x :: rest => ',' :: chars x ++ charsItems rest

def charsEntries : List (String × Value) → List Char
  | [] => ['\x7d']
  | (key, x) :: rest => ',' :: quote key.toList ++ ':' :: chars x ++ charsEntries rest

end

def render (x : Value) : String := String.ofList x.chars

mutual

def node : Value → Document.Node
  | .null => .null
  | .bool b => .bool b
  | .integer n => .integer n
  | .text s => .text s
  | .list items => .list (nodeItems items) false
  | .table entries => .table (nodeEntries entries) false

def nodeItems : List Value → List (Option Document.Span × Document.Node)
  | [] => []
  | x :: rest => (none, node x) :: nodeItems rest

def nodeEntries :
    List (String × Value) → List (Document.Key × Option Document.Span × Document.Node)
  | [] => []
  | (key, x) :: rest => (⟨key, none⟩, none, node x) :: nodeEntries rest

end

end Value
end ClangHost.Json
