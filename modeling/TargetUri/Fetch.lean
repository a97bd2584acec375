import TargetUri.Url.Basic

set_option autoImplicit false

/-!
# Requests made directly

A request that does not arrive on a socket is made from a method and from a path or a whole URL.

## Main definitions

* `TargetUri.FetchError` — why a request cannot be made.
* `TargetUri.fetchUrl` — the URL of a request.
* `TargetUri.fetchMethod` — the method of a request.

## Design

The rules are those of the WHATWG Fetch standard: a URL names no user, the methods in common use
may be spelled in any case, and methods that concern the connection itself cannot be asked for.
-/

namespace TargetUri

/-- Why a request cannot be made. -/
inductive FetchError where
  /-- a text that is no URL -/
  | invalidUrl (text : String)
  /-- a URL with a user name or password -/
  | credentials (text : String)
  /-- a method that is no token -/
  | invalidMethod (method : String)
  /-- a method that cannot be asked for -/
  | unsupportedMethod (method : String)
deriving DecidableEq, Repr

/-- The wording of an error. -/
def FetchError.message : FetchError → String
  | invalidUrl text => "Failed to parse URL from " ++ text
  | credentials text =>
    "Request cannot be constructed from a URL that includes credentials: " ++ text
  | invalidMethod method => "'" ++ method ++ "' is not a valid HTTP method."
  | unsupportedMethod method => "'" ++ method ++ "' HTTP method is unsupported."

/-! ## URLs -/

/-- The text of the URL that a request is for: the text itself when it is meant as one, else that
of a path on the local host. A missing leading slash is added. -/
def fetchText (s : String) : String :=
  if Url.isAbsolute s then s
  else "http://localhost" ++ (if s.toList.head? = some '/' then s else "/" ++ s)

/-- The URL of a request. -/
def fetchUrl (s : String) : Except FetchError Url :=
  match Url.parse? (fetchText s) with
  | none => .error (.invalidUrl (fetchText s))
  | some url =>
    if url.username = "" ∧ url.password = "" then .ok url else .error (.credentials (fetchText s))

/-! ## Methods -/

/-- A character of a token. -/
def isTokenChar (c : Char) : Bool :=
  c.isAlphanum ||
    c ∈ ['!', '#', '$', '%', '&', '\'', '*', '+', '-', '.', '^', '_', '\x60', '|', '~']

/-- The methods that are spelled in capitals whatever the case in which they are given. -/
def commonMethods : List String := ["DELETE", "GET", "HEAD", "OPTIONS", "POST", "PUT"]

/-- The methods that concern the connection itself. -/
def connectionMethods : List String := ["CONNECT", "TRACE", "TRACK"]

/-- The method of a request. -/
def fetchMethod (s : String) : Except FetchError String :=
  let upper := String.ofList (s.toList.map Char.toUpper)
  if s = "" ∨ !s.toList.all isTokenChar then .error (.invalidMethod s)
  else if upper ∈ connectionMethods then .error (.unsupportedMethod s)
  else .ok (if upper ∈ commonMethods then upper else s)

end TargetUri
