import TargetUri.Json.Basic
import TargetUri.Text.Hex

set_option autoImplicit false

/-!
# Reading JSON

The grammar of RFC 8259 and nothing more: no comments, no trailing commas, no leading zeros, no
unescaped control characters, no byte order mark.

## Main definitions

* `TargetUri.Json.read?` — the value that a text spells, or nothing when it spells none.

## Design

Every reader takes the characters ahead and gives a value with the characters after it. A string is
read unit by unit (`readUnits`): a four-digit escape spells one unit, so two of them may spell the
halves of one character, and a half without the other is kept (`WideString`). The readers of nested
values count down a number of steps that the length of the text bounds.
-/

namespace TargetUri.Json

/-- Drops the blanks ahead: space, tab, line feed, carriage return. -/
def skipBlanks (cs : List Char) : List Char :=
  cs.dropWhile fun c => c == ' ' || c == '\t' || c == '\n' || c == '\r'

/-! ## Strings -/

/-- The value of four hexadecimal digits. -/
def hexCode? (a b c d : Char) : Option Nat := do
  let a ← Hex.value? a
  let b ← Hex.value? b
  let c ← Hex.value? c
  let d ← Hex.value? d
  return ((a * 16 + b) * 16 + c) * 16 + d

/-- The character of a one-letter escape. -/
def shortEscape? : Char → Option Char
  | '"' => some '"'
  | '\\' => some '\\'
  | '/' => some '/'
  | 'b' => some '\x08'
  | 'f' => some '\x0c'
  | 'n' => some '\n'
  | 'r' => some '\r'
  | 't' => some '\t'
  | _ => none

/-- Puts units in front of the units of what was read. -/
def consUnits (us : List UInt16) (r : List UInt16 × List Char) : List UInt16 × List Char :=
  (us ++ r.1, r.2)

/-- The units of a string up to its closing quotation mark. -/
def readUnits : List Char → Option (List UInt16 × List Char)
  | [] => none
  | '"' :: cs => some ([], cs)
  | '\\' :: 'u' :: a :: b :: c :: d :: cs =>
    match hexCode? a b c d with
    | none => none
    | some n => (readUnits cs).map (consUnits [UInt16.ofNat n])
  | '\\' :: e :: cs =>
    match shortEscape? e with
    | none => none
    | some c => (readUnits cs).map (consUnits (Text.unitsOfChar c))
  | c :: cs =>
    if c = '\\' ∨ c.toNat < 0x20 then none
    else (readUnits cs).map (consUnits (Text.unitsOfChar c))

/-- The text of a string whose opening quotation mark has been read. -/
def readString (cs : List Char) : Option (WideString × List Char) :=
  (readUnits cs).map fun r => (.ofUnits r.1, r.2)

/-! ## Numbers -/

/-- The digits ahead and what follows them. -/
def digitsAhead (cs : List Char) : List Char × List Char :=
  (cs.takeWhile Char.isDigit, cs.dropWhile Char.isDigit)

/-- The value of decimal digits. -/
def digitsValue (ds : List Char) : Nat := Nat.ofDigitChars 10 ds 0

/-- The whole part of a number: a zero alone, or digits that start with none. -/
def readWhole (cs : List Char) : Option (List Char × List Char) :=
  match digitsAhead cs with
  | ([], _) => none
  | ('0' :: _ :: _, _) => none
  | r => some r

/-- The digits after a point, if there is one. -/
def readFraction : List Char → Option (List Char × List Char)
  | '.' :: cs =>
    match digitsAhead cs with
    | ([], _) => none
    | r => some r
  | cs => some ([], cs)

/-- The digits of a power of ten. -/
def readPower (negative : Bool) (cs : List Char) : Option (Int × List Char) :=
  match digitsAhead cs with
  | ([], _) => none
  | (ds, rest) => some (if negative then -(digitsValue ds : Int) else digitsValue ds, rest)

/-- The power of ten after an `e`, if there is one. -/
def readExponent : List Char → Option (Int × List Char)
  | [] => some (0, [])
  | e :: cs =>
    if e = 'e' ∨ e = 'E' then
      match cs with
      | '-' :: rest => readPower true rest
      | '+' :: rest => readPower false rest
      | rest => readPower false rest
    else some (0, e :: cs)

/-- A number without its sign. -/
def readMagnitude (negative : Bool) (cs : List Char) : Option (Decimal × List Char) := do
  let (whole, cs) ← readWhole cs
  let (fraction, cs) ← readFraction cs
  let (power, cs) ← readExponent cs
  return (⟨negative, digitsValue (whole ++ fraction), power - fraction.length⟩, cs)

/-- A number. -/
def readNumber : List Char → Option (Decimal × List Char)
  | '-' :: cs => readMagnitude true cs
  | cs => readMagnitude false cs

/-! ## Values -/

/-- What follows a word, if the word is ahead. -/
def dropWord (word cs : List Char) : Option (List Char) :=
  if word.isPrefixOf cs then some (cs.drop word.length) else none

mutual

/-- The value ahead, blanks skipped. -/
def readValue : Nat → List Char → Option (Json × List Char)
  | 0, _ => none
  | fuel + 1, cs =>
    match skipBlanks cs with
    | '"' :: cs => (readString cs).map fun r => (.str r.1, r.2)
    | '[' :: cs =>
      match skipBlanks cs with
      | ']' :: cs => some (.arr [], cs)
      | cs => (readItems fuel cs).map fun r => (.arr r.1, r.2)
    | '{' :: cs =>
      match skipBlanks cs with
      | '}' :: cs => some (.obj [], cs)
      | cs => (readMembers fuel cs).map fun r => (.obj r.1, r.2)
    | 't' :: cs => (dropWord "rue".toList cs).map fun r => (.bool true, r)
    | 'f' :: cs => (dropWord "alse".toList cs).map fun r => (.bool false, r)
    | 'n' :: cs => (dropWord "ull".toList cs).map fun r => (.null, r)
    | cs => (readNumber cs).map fun r => (.num r.1, r.2)

/-- The items of a list, at least one, up to its closing bracket. -/
def readItems : Nat → List Char → Option (List Json × List Char)
  | 0, _ => none
  | fuel + 1, cs => do
    let (v, cs) ← readValue fuel cs
    match skipBlanks cs with
    | ']' :: cs => some ([v], cs)
    | ',' :: cs => (readItems fuel cs).map fun r => (v :: r.1, r.2)
    | _ => none

/-- The members of an object, at least one, up to its closing brace. -/
def readMembers : Nat → List Char → Option (List (String × Json) × List Char)
  | 0, _ => none
  | fuel + 1, cs =>
    match skipBlanks cs with
    | '"' :: cs => do
      let (k, cs) ← readString cs
      match skipBlanks cs with
      | ':' :: cs =>
        let (v, cs) ← readValue fuel cs
        match skipBlanks cs with
        | '}' :: cs => some ([(k.repaired, v)], cs)
        | ',' :: cs => (readMembers fuel cs).map fun r => ((k.repaired, v) :: r.1, r.2)
        | _ => none
      | _ => none
    | _ => none

end

/-- The value that a text spells, or nothing when it is not one JSON value between blanks. -/
def readChars? (cs : List Char) : Option Json :=
  match readValue (2 * cs.length + 1) cs with
  | some (v, rest) => if skipBlanks rest = [] then some v else none
  | none => none

/-- The value that a text spells, or nothing when it is not one JSON value between blanks. -/
def read? (s : String) : Option Json := readChars? s.toList

end TargetUri.Json
