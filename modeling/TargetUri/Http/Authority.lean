set_option autoImplicit false

/-!
# Authorities

The authority of a URL: optional user information, a host and an optional port. Any text is read as
one; what does not look like a port stays part of the host.

## Main definitions

* `TargetUri.Authority` — an authority as received, with its host and port.
* `TargetUri.Authority.parse` — the authority of a text.
* `TargetUri.readPort?` — the value of a port.
-/

namespace TargetUri

/-- An authority as received, with the host and port that it names. -/
structure Authority where
  /-- the whole text, user information and port included -/
  raw : String
  /-- the host, without user information or port; an IPv6 literal keeps its brackets -/
  host : String
  /-- the port, if one is given -/
  port : Option Nat
deriving DecidableEq, Repr

/-- The text before and after the last occurrence of a character. -/
def splitLast (sep : Char) : List Char → Option (List Char × List Char)
  | [] => none
  | c :: cs =>
    match splitLast sep cs with
    | some (before, after) => some (c :: before, after)
    | none => if c = sep then some ([], cs) else none

/-- The value of a port: one to five decimal digits, at most 65535. -/
def readPort? (ds : List Char) : Option Nat :=
  let v := Nat.ofDigitChars 10 ds 0
  if ds ≠ [] ∧ ds.length ≤ 5 ∧ ds.all Char.isDigit ∧ v ≤ 65535 then some v else none

/-- What follows the user information: the text after the last at sign, or all of it. -/
def dropUserInfo (cs : List Char) : List Char :=
  match splitLast '@' cs with
  | some (_, after) => after
  | none => cs

/-- The host and port of a text without user information. The port stands after the last colon,
unless a bracket is closed after it: then it is a colon within an IPv6 literal. Where that is no
port, all of the text is the host. -/
def splitPort (cs : List Char) : List Char × Option Nat :=
  match splitLast ':' cs with
  | some (host, ds) =>
    if ']' ∈ ds then (cs, none)
    else
      match readPort? ds with
      | some p => (host, some p)
      | none => (cs, none)
  | none => (cs, none)

/-- The authority of a text. -/
def Authority.parse (raw : String) : Authority :=
  let r := splitPort (dropUserInfo raw.toList)
  { raw, host := String.ofList r.1, port := r.2 }

end TargetUri
