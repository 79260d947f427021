import FlowCluster.Json.Value

/-! # Written documents

Values written without white space, and values laid out over indented lines. Strings are escaped only where they
must be. -/

namespace FlowCluster.Json

def escapeChar (c : Char) : List Char :=
  if c = '"' then ['\\', '"']
  else if c = '\\' then ['\\', '\\']
  else if c.toNat = 0x08 then ['\\', 'b']
  else if c.toNat = 0x0C then ['\\', 'f']
  else if c = '\n' then ['\\', 'n']
  else if c = '\r' then ['\\', 'r']
  else if c = '\t' then ['\\', 't']
  else if c.toNat < 0x20 then
    ['\\', 'u', '0', '0', Nat.digitChar (c.toNat / 16), Nat.digitChar (c.toNat % 16)]
  else [c]

def stringChars (s : String) : List Char := '"' :: (s.toList.flatMap escapeChar ++ ['"'])

/-- A value without parts. -/
def Scalar.chars : Scalar → List Char
  | .null => ['n', 'u', 'l', 'l']
  | .boolean true => ['t', 'r', 'u', 'e']
  | .boolean false => ['f', 'a', 'l', 's', 'e']
  | .number n => n.chars
  | .text s => stringChars s

namespace Value

mutual

/-- A value without white space. -/
def compactChars : Value → List Char
  | .scalar x => x.chars
  | .list [] => ['[', ']']
  | .list (x :: xs) => '[' :: (compactChars x ++ compactItems xs)
  | .object [] => ['\x7b', '\x7d']
  | .object ((k, v) :: ms) => '\x7b' :: (stringChars k ++ ':' :: (compactChars v ++ compactMembers ms))

/-- The items after the first, and the closing bracket. -/
def compactItems : List Value → List Char
  | [] => [']']
  | x :: xs => ',' :: (compactChars x ++ compactItems xs)

/-- The members after the first, and the closing bracket. -/
def compactMembers : List (String × Value) → List Char
  | [] => ['\x7d']
  | (k, v) :: ms => ',' :: (stringChars k ++ ':' :: (compactChars v ++ compactMembers ms))

end

/-- The start of a line inside `depth` brackets. -/
def newline (depth : Nat) : List Char := '\n' :: List.replicate (2 * depth) ' '

mutual

/-- A value over several lines, inside `depth` brackets. -/
def prettyChars (depth : Nat) : Value → List Char
  | .scalar x => x.chars
  | .list [] => ['[', ']']
  | .list (x :: xs) => '[' :: (newline (depth + 1) ++ prettyChars (depth + 1) x ++ prettyItems depth xs)
  | .object [] => ['\x7b', '\x7d']
  | .object ((k, v) :: ms) =>
    '\x7b' :: (newline (depth + 1) ++ stringChars k ++ ':' :: ' ' :: (prettyChars (depth + 1) v ++
      prettyMembers depth ms))

/-- The items after the first, and the closing bracket. -/
def prettyItems (depth : Nat) : List Value → List Char
  | [] => newline depth ++ [']']
  | x :: xs => ',' :: (newline (depth + 1) ++ prettyChars (depth + 1) x ++ prettyItems depth xs)

/-- The members after the first, and the closing bracket. -/
def prettyMembers (depth : Nat) : List (String × Value) → List Char
  | [] => newline depth ++ ['\x7d']
  | (k, v) :: ms =>
    ',' :: (newline (depth + 1) ++ stringChars k ++ ':' :: ' ' :: (prettyChars (depth + 1) v ++
      prettyMembers depth ms))

end

/-- The text of a value without white space. -/
def compact (v : Value) : String := String.ofList v.compactChars

/-- The text of a value over several lines. -/
def pretty (v : Value) : String := String.ofList (v.prettyChars 0)

end Value
end FlowCluster.Json
