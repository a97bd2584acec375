import TargetUri.Http.Authority

set_option autoImplicit false

/-!
# Request targets

The target of a request line comes in four forms: `/path` and `*` name no authority, `scheme://…`
names an authority and a path, and a bare authority (of a tunnel request) names nothing else.

## Main definitions

* `TargetUri.RequestTarget` — an authority, if the target names one, and a path.
* `TargetUri.RequestTarget.parse` — the parts of a target.
* `TargetUri.splitScheme` — the scheme that a text begins with.
-/

namespace TargetUri

/-- What a request line asks for. -/
structure RequestTarget where
  /-- the authority, if the target names one -/
  authority : Option Authority
  /-- path and query; empty when the target is an authority alone -/
  path : String
deriving DecidableEq, Repr

/-- An ASCII letter, digit, plus, point or minus: what may follow the first letter of a scheme. -/
def isSchemeChar (c : Char) : Bool := c.isAlphanum || c == '+' || c == '.' || c == '-'

/-- The scheme that a text begins with, `://` included, and what follows it. A scheme starts with a
letter. -/
def splitScheme : List Char → Option (List Char × List Char)
  | [] => none
  | c :: cs =>
    if c.isAlpha then
      match cs.dropWhile isSchemeChar with
      | ':' :: '/' :: '/' :: rest => some (c :: cs.takeWhile isSchemeChar ++ "://".toList, rest)
      | _ => none
    else none

/-- A character that ends the authority of a URL. -/
def endsAuthority (c : Char) : Bool := c == '/' || c == '?' || c == '#'

/-- A path with its leading slash, which is put before one that lacks it. -/
def withSlash : List Char → List Char
  | '/' :: cs => '/' :: cs
  | cs => '/' :: cs

/-- The target that follows a scheme: the authority ends before the first slash, question mark or
number sign. -/
def RequestTarget.ofHierarchy (rest : List Char) : RequestTarget where
  authority := some (Authority.parse (String.ofList (rest.takeWhile (!endsAuthority ·))))
  path := String.ofList (withSlash (rest.dropWhile (!endsAuthority ·)))

/-- The parts of a target. -/
def RequestTarget.parse (raw : String) : RequestTarget :=
  match raw.toList with
  | '/' :: _ => { authority := none, path := raw }
  | ['*'] => { authority := none, path := raw }
  | cs =>
    match splitScheme cs with
    | some (_, rest) => ofHierarchy rest
    | none => { authority := some (Authority.parse raw), path := "" }

end TargetUri
