import TargetUri.Json.Basic
import TargetUri.Text.Hex

set_option autoImplicit false

/-!
# JSON text

Two written forms of a JSON value: on one line, as in a log, and on indented lines, as in a file
that people edit.

## Main definitions

* `TargetUri.Json.quote` — a text as a JSON string.
* `TargetUri.Json.compact` — a value on one line, with no space.
* `TargetUri.Json.pretty` — a value on lines indented by two spaces a level.

## Design

Both forms write characters as they are, except for the quotation mark, the backslash and the
control characters below the space, which a JSON string may not hold. Half of a character without
the other half is written by its code. An empty list or object is written on one line in either
form.
-/

namespace TargetUri.Json

/-! ## Strings -/

/-- The escape of a unit by its code. -/
def escapeUnit (u : UInt16) : List Char :=
  let n := u.toNat
  ['\\', 'u', Hex.lowerDigit (n / 0x1000), Hex.lowerDigit (n / 0x100 % 16),
    Hex.lowerDigit (n / 16 % 16), Hex.lowerDigit (n % 16)]

/-- One character inside a JSON string. Five control characters have a short escape, the others
are written by code. -/
def escape (c : Char) : List Char :=
  if c = '"' then ['\\', '"']
  else if c = '\\' then ['\\', '\\']
  else if c = '\x08' then ['\\', 'b']
  else if c = '\t' then ['\\', 't']
  else if c = '\n' then ['\\', 'n']
  else if c = '\x0c' then ['\\', 'f']
  else if c = '\r' then ['\\', 'r']
  else if c.toNat < 0x20 then escapeUnit (UInt16.ofNat c.toNat)
  else [c]

/-- One piece inside a JSON string. -/
def escapePiece : Text.Piece → List Char
  | .char c => escape c
  | .half u => escapeUnit u

/-- A text as a JSON string. -/
def quote (w : WideString) : List Char := '"' :: w.pieces.flatMap escapePiece ++ ['"']

/-! ## Values -/

/-- The text of a value that is neither a list nor an object. -/
def scalar : Json → List Char
  | .null => "null".toList
  | .bool true => "true".toList
  | .bool false => "false".toList
  | .num d => d.render.toList
  | .str s => quote s
  | _ => []

mutual

/-- A value on one line. -/
def compactChars : Json → List Char
  | .arr [] => ['[', ']']
  | .arr (v :: vs) => '[' :: compactChars v ++ compactItems vs
  | .obj [] => ['{', '}']
  | .obj ((k, v) :: ms) => '{' :: quote k ++ ':' :: compactChars v ++ compactMembers ms
  | .null => scalar .null
  | .bool b => scalar (.bool b)
  | .num d => scalar (.num d)
  | .str s => scalar (.str s)

/-- The items of a list after the first, and the closing bracket. -/
def compactItems : List Json → List Char
  | [] => [']']
  | v :: vs => ',' :: compactChars v ++ compactItems vs

/-- The members of an object after the first, and the closing brace. -/
def compactMembers : List (String × Json) → List Char
  | [] => ['}']
  | (k, v) :: ms => ',' :: quote k ++ ':' :: compactChars v ++ compactMembers ms

end

/-- A value on one line, with no space. -/
def compact (j : Json) : String := String.ofList (compactChars j)

/-- A line break and the indentation of a level. -/
def newline (level : Nat) : List Char := '\n' :: List.replicate (2 * level) ' '

mutual

/-- A value on indented lines, the first of which is already indented to the level. -/
def prettyChars (level : Nat) : Json → List Char
  | .arr [] => ['[', ']']
  | .arr (v :: vs) =>
    '[' :: newline (level + 1) ++ prettyChars (level + 1) v ++ prettyItems level vs
  | .obj [] => ['{', '}']
  | .obj ((k, v) :: ms) =>
    '{' :: newline (level + 1) ++ quote k ++ ':' :: ' ' :: prettyChars (level + 1) v ++
      prettyMembers level ms
  | .null => scalar .null
  | .bool b => scalar (.bool b)
  | .num d => scalar (.num d)
  | .str s => scalar (.str s)

/-- The items of a list after the first, one a line, and the closing bracket on its own line. -/
def prettyItems (level : Nat) : List Json → List Char
  | [] => newline level ++ [']']
  | v :: vs => ',' :: newline (level + 1) ++ prettyChars (level + 1) v ++ prettyItems level vs

/-- The members of an object after the first, one a line, and the closing brace on its own
line. -/
def prettyMembers (level : Nat) : List (String × Json) → List Char
  | [] => newline level ++ ['}']
  | (k, v) :: ms =>
    ',' :: newline (level + 1) ++ quote k ++ ':' :: ' ' :: prettyChars (level + 1) v ++
      prettyMembers level ms

end

/-- A value on lines indented by two spaces a level. -/
def pretty (j : Json) : String := String.ofList (prettyChars 0 j)

end TargetUri.Json
