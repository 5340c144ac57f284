import ServicePlan.Decimal.Shortest
import ServicePlan.Json.Basic

/-!
# Writing JSON

Values are written in two forms: `Json.compact` without any blanks, which messages quote, and
`Json.pretty` with one member or item a line and two blanks of indentation a level, which plans
are written in.  Both write strings with the short escapes where there is one and leave every
character from the blank on unescaped, apart from the quote and the backslash.
-/

namespace ServicePlan.Json

open Decimal (Layout natDigits)

/-- Floating-point numbers are positional from `0.00001` to below `10 ^ 16`; beyond, the exponent
has a sign in both directions. -/
def numberLayout : Layout := ⟨-5, 15, true⟩

/-- The text of a number. -/
def renderNumber : Number → List Char
  | .integer (.ofNat n) => natDigits n
  | .integer (.negSucc n) => '-' :: natDigits (n + 1)
  | .float x => numberLayout.render x

/-- The digit of a number below sixteen. -/
def hexDigit (n : Nat) : Char :=
  if n < 10 then Char.ofNat (48 + n) else Char.ofNat (87 + n)

/-- A character as it stands inside a string. -/
def escapeChar (c : Char) : List Char :=
  if c = '"' then ['\\', '"']
  else if c = '\\' then ['\\', '\\']
  else if c = '\x08' then ['\\', 'b']
  else if c = '\x09' then ['\\', 't']
  else if c = '\x0a' then ['\\', 'n']
  else if c = '\x0c' then ['\\', 'f']
  else if c = '\x0d' then ['\\', 'r']
  else if c.toNat < 32 then ['\\', 'u', '0', '0', hexDigit (c.toNat / 16), hexDigit (c.toNat % 16)]
  else [c]

/-- The text of a string, quotes included. -/
def renderString (s : String) : List Char :=
  '"' :: (s.toList.flatMap escapeChar ++ ['"'])

/-- The text of a truth value. -/
def renderBool : Bool → List Char
  | true => ['t', 'r', 'u', 'e']
  | false => ['f', 'a', 'l', 's', 'e']

/-- The text of null. -/
def renderNull : List Char := ['n', 'u', 'l', 'l']

mutual

/-- The text of a value, without blanks. -/
def renderCompact : Json → List Char
  | .null => renderNull
  | .bool b => renderBool b
  | .number n => renderNumber n
  | .string s => renderString s
  | .array [] => ['[', ']']
  | .array (v :: rest) => '[' :: (renderCompact v ++ compactItems rest)
  | .object [] => ['{', '}']
  | .object ((k, v) :: rest) =>
    '{' :: (renderString k ++ ':' :: (renderCompact v ++ compactMembers rest))

/-- The items behind the first one, and the closing bracket. -/
def compactItems : List Json → List Char
  | [] => [']']
  | v :: rest => ',' :: (renderCompact v ++ compactItems rest)

/-- The members behind the first one, and the closing brace. -/
def compactMembers : List (String × Json) → List Char
  | [] => ['}']
  | (k, v) :: rest =>
    ',' :: (renderString k ++ ':' :: (renderCompact v ++ compactMembers rest))

end

/-- A new line at a level of indentation. -/
def newLine (level : Nat) : List Char := '\n' :: List.replicate (2 * level) ' '

mutual

/-- The text of a value whose container is indented by `level` levels. -/
def renderPretty (level : Nat) : Json → List Char
  | .null => renderNull
  | .bool b => renderBool b
  | .number n => renderNumber n
  | .string s => renderString s
  | .array [] => ['[', ']']
  | .array (v :: rest) =>
    '[' :: (newLine (level + 1) ++ (renderPretty (level + 1) v ++ prettyItems level rest))
  | .object [] => ['{', '}']
  | .object ((k, v) :: rest) =>
    '{' :: (newLine (level + 1) ++ (renderString k ++ ':' :: ' ' ::
      (renderPretty (level + 1) v ++ prettyMembers level rest)))

/-- The items behind the first one, and the closing bracket on its own line. -/
def prettyItems (level : Nat) : List Json → List Char
  | [] => newLine level ++ [']']
  | v :: rest =>
    ',' :: (newLine (level + 1) ++ (renderPretty (level + 1) v ++ prettyItems level rest))

/-- The members behind the first one, and the closing brace on its own line. -/
def prettyMembers (level : Nat) : List (String × Json) → List Char
  | [] => newLine level ++ ['}']
  | (k, v) :: rest =>
    ',' :: (newLine (level + 1) ++ (renderString k ++ ':' :: ' ' ::
      (renderPretty (level + 1) v ++ prettyMembers level rest)))

end

/-- A value on one line, without blanks. -/
def compact (v : Json) : String := String.ofList (renderCompact v)

/-- A value with one item or member a line. -/
def pretty (v : Json) : String := String.ofList (renderPretty 0 v)

end ServicePlan.Json
