import TargetUri.Http.Authority
import TargetUri.Url.Host

set_option autoImplicit false

/-!
# URLs

Absolute URLs of the schemes `http` and `https`, read and written by the rules of the WHATWG URL
standard.

## Main definitions

* `TargetUri.Url` — a URL.
* `TargetUri.Url.isAbsolute` — whether a text is meant as a URL.
* `TargetUri.Url.parse?` — the URL of a text.
* `TargetUri.Url.href` — the text of a URL.

## Design

Text is read in one pass of cuts: the scheme, the slashes after it (any number, either way round),
the authority up to the next slash, question mark or number sign, then path, query and fragment.
Each part is written with the characters percent-encoded that it may not hold.
-/

namespace TargetUri

/-- An absolute URL of a web scheme. -/
structure Url where
  /-- whether the scheme is `https` -/
  isSecure : Bool
  /-- the user name -/
  username : String
  /-- the password -/
  password : String
  /-- the host, in its written form -/
  hostname : String
  /-- the port, unless it is the scheme's default -/
  port : Option Nat
  /-- the path, with its leading slash -/
  path : String
  /-- what follows a question mark -/
  query : Option String
  /-- what follows a number sign -/
  fragment : Option String
deriving DecidableEq, Repr

namespace Url

/-! ## Characters that parts may not hold -/

/-- A control character, or one past ASCII. -/
def outsidePrintable (c : Char) : Bool := c.toNat < 0x20 || 0x7E < c.toNat

/-- Encoded in a fragment. -/
def encodedInFragment (c : Char) : Bool :=
  outsidePrintable c || c ∈ [' ', '"', '<', '>', '\x60']

/-- Encoded in a query. -/
def encodedInQuery (c : Char) : Bool :=
  outsidePrintable c || c ∈ [' ', '"', '#', '<', '>', '\'']

/-- Encoded in a path. -/
def encodedInPath (c : Char) : Bool :=
  outsidePrintable c || c ∈ [' ', '"', '#', '<', '>', '?', '\x60', '\x7b', '\x7d']

/-- Encoded in user information. -/
def encodedInUserInfo (c : Char) : Bool :=
  encodedInPath c || c ∈ ['/', ':', ';', '=', '@', '[', '\\', ']', '^', '|']

/-- Text in which the characters of a set are percent-encoded. -/
def percentEncode (encoded : Char → Bool) (cs : List Char) : List Char :=
  cs.flatMap fun c =>
    if encoded c then (String.utf8EncodeChar c).flatMap Percent.triple else [c]

/-! ## Cutting -/

/-- Text without control characters and spaces at its ends, and without tabs and line breaks. -/
def clean (cs : List Char) : List Char :=
  let blank (c : Char) : Bool := c.toNat ≤ 0x20
  let trimmed := ((cs.dropWhile blank).reverse.dropWhile blank).reverse
  trimmed.filter fun c => c != '\t' && c != '\n' && c != '\r'

/-- The scheme that a text begins with, and what follows its colon. -/
def scheme? (cs : List Char) : Option (Bool × List Char) :=
  let word := (cs.takeWhile (· != ':')).map Char.toLower
  let rest := (cs.dropWhile (· != ':')).drop 1
  if !cs.contains ':' then none
  else if word = "http".toList then some (false, rest)
  else if word = "https".toList then some (true, rest)
  else none

/-- A slash, either way round. -/
def isSlash (c : Char) : Bool := c == '/' || c == '\\'

/-- A character that starts the query or fragment. -/
def endsPath (c : Char) : Bool := c == '?' || c == '#'

/-- The host and the text after its colon. A colon in brackets belongs to the host. -/
def cutPort (inBrackets : Bool) : List Char → List Char × List Char
  | [] => ([], [])
  | c :: cs =>
    if c = ':' ∧ !inBrackets then ([], cs)
    else
      let inBrackets := if c = '[' then true else if c = ']' then false else inBrackets
      let r := cutPort inBrackets cs
      (c :: r.1, r.2)

/-- The port of a URL: digits of a value up to 65535, or no text for none. -/
def port? (isSecure : Bool) (ds : List Char) : Option (Option Nat) :=
  let v := Nat.ofDigitChars 10 ds 0
  if ds = [] then some none
  else if !ds.all Char.isDigit || 65535 < v then none
  else if v = (if isSecure then 443 else 80) then some none
  else some (some v)

/-- What stands before the host: the user name and the password. -/
def userInfo (cs : List Char) : String × String :=
  let user := cs.takeWhile (· != ':')
  let password := (cs.dropWhile (· != ':')).drop 1
  (String.ofList (percentEncode encodedInUserInfo user),
    String.ofList (percentEncode encodedInUserInfo password))

/-! ## Paths -/

/-- A name in which each encoded point is a point. -/
def decodePoints : List Char → List Char
  | '%' :: '2' :: 'e' :: cs => '.' :: decodePoints cs
  | '%' :: '2' :: 'E' :: cs => '.' :: decodePoints cs
  | c :: cs => c :: decodePoints cs
  | [] => []

/-- The names of a path, last one first, after those that a text adds. A point adds nothing and two
points take the last name away; at the end either leaves an empty name, for the slash before it. -/
def enterNames (reached : List (List Char)) : List (List Char) → List (List Char)
  | [] => reached
  | name :: rest =>
    let points := decodePoints name
    let up := points == ['.', '.']
    let kept := if up then reached.tail else reached
    if up || points == ['.'] then
      enterNames (if rest = [] then [] :: kept else kept) rest
    else enterNames (percentEncode encodedInPath name :: reached) rest

/-- The path of a URL. -/
def pathOf (cs : List Char) : String :=
  let names := ((cs.map fun c => if c = '\\' then '/' else c).drop 1).splitOn '/'
  String.ofList ('/' :: ['/'].intercalate (enterNames [] names).reverse)

/-! ## Reading and writing -/

/-- The query and fragment of what follows a path. -/
def tailParts (cs : List Char) : Option String × Option String :=
  let fragment :=
    match cs.dropWhile (· != '#') with
    | [] => none
    | _ :: f => some (String.ofList (percentEncode encodedInFragment f))
  match cs.takeWhile (· != '#') with
  | '?' :: q => (some (String.ofList (percentEncode encodedInQuery q)), fragment)
  | _ => (none, fragment)

/-- The URL of the text after its scheme. -/
def ofHierarchy? (isSecure : Bool) (cs : List Char) : Option Url := do
  let cs := cs.dropWhile isSlash
  let authority := cs.takeWhile fun c => !(isSlash c || endsPath c)
  let rest := cs.dropWhile fun c => !(isSlash c || endsPath c)
  let (user, hostPort) := (splitLast '@' authority).getD ([], authority)
  let (hostText, portText) := cutPort false hostPort
  let hostname ← host? hostText
  let port ← port? isSecure portText
  let (username, password) := userInfo user
  let (query, fragment) := tailParts (rest.dropWhile (!endsPath ·))
  return { isSecure, username, password, hostname, port
           path := pathOf (rest.takeWhile (!endsPath ·)), query, fragment }

/-- Whether a text is meant as an absolute URL: it starts with a web scheme in lower case and two
slashes. -/
def isAbsolute (s : String) : Bool :=
  "http://".toList.isPrefixOf s.toList || "https://".toList.isPrefixOf s.toList

/-- The URL of a text. -/
def parse? (s : String) : Option Url :=
  match scheme? (clean s.toList) with
  | some (isSecure, rest) => ofHierarchy? isSecure rest
  | none => none

/-- The user information of a URL, with its at sign. -/
def userInfoText (u : Url) : String :=
  if u.username = "" ∧ u.password = "" then ""
  else u.username ++ (if u.password = "" then "" else ":" ++ u.password) ++ "@"

/-- The text of a URL. -/
def href (u : Url) : String :=
  (if u.isSecure then "https://" else "http://") ++ u.userInfoText ++ u.hostname ++
    (u.port.map fun p => ":" ++ toString p).getD "" ++ u.path ++
    (u.query.map ("?" ++ ·)).getD "" ++ (u.fragment.map ("#" ++ ·)).getD ""

end Url

end TargetUri
