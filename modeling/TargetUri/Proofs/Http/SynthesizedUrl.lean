import TargetUri.Http.Context
import TargetUri.Proofs.Net.FallbackHost
import TargetUri.Proofs.Text.Percent

set_option autoImplicit false

/-!
# Synthesized URLs read back

The URL of a request context, read as a request target, gives back what it was put together from:
the scheme of the listener, the authority that the host names, and the path. This holds of every
request whose host does not come from a `Host` field, for such a field may hold anything, a slash
included.

## Main definitions

* `TargetUri.StaysInAuthority` — a text without a character that ends an authority.
* `TargetUri.HostIsNotFromField` — requests whose host does not come from a `Host` field.

## Main results

* `TargetUri.RequestTarget.parse_append` — a scheme, an authority and a path are cut where they
  were joined.
* `TargetUri.Address.staysInAuthority_fallbackHost` — a fallback host stays in its authority.
* `TargetUri.RequestContext.parse_url_create` — the URL of a request context reads back.
-/

namespace TargetUri

/-- A text without a character that ends an authority. -/
def StaysInAuthority (s : String) : Prop := ∀ c ∈ s.toList, endsAuthority c = false

instance (s : String) : Decidable (StaysInAuthority s) :=
  List.decidableBAll (fun c => endsAuthority c = false) s.toList

/-! ## Joining and cutting -/

/-- The scheme of a transport is recognised before any text. -/
theorem splitScheme_append_scheme (t : StreamType) (rest : List Char) :
    splitScheme (t.scheme.toList ++ rest) = some (t.scheme.toList, rest) := by
  cases t <;> rfl

/-- No character that ends an authority stands before the first one. -/
theorem endsAuthority_of_mem_takeWhile {c : Char} {cs : List Char}
    (hc : c ∈ cs.takeWhile (!endsAuthority ·)) : endsAuthority c = false := by
  simpa using List.all_eq_true.mp List.all_takeWhile c hc

namespace RequestTarget

/-- A path or an asterisk is the target as it stands. -/
theorem parse_of_head? {raw : String} (h : raw.toList.head? = some '/' ∨ raw = "*") :
    parse raw = ⟨none, raw⟩ := by
  rcases h with h | rfl
  · obtain ⟨cs, hcs⟩ := List.head?_eq_some_iff.mp h
    simp only [parse, hcs]
  · rfl

/-- A text that starts with a scheme is read by what follows it. -/
theorem parse_of_splitScheme {raw : String} {scheme rest : List Char}
    (h : splitScheme raw.toList = some (scheme, rest)) : parse raw = ofHierarchy rest := by
  unfold parse
  split
  · rename_i cs hcs
    rw [hcs] at h
    exact absurd h (by simp [splitScheme, show ('/' : Char).isAlpha = false from rfl])
  · rename_i hcs
    rw [hcs] at h
    exact absurd h (by simp [splitScheme, show ('*' : Char).isAlpha = false from rfl])
  · rw [h]

/-- An authority followed by a path is cut before the slash of the path. -/
theorem ofHierarchy_append {host : String} (hhost : StaysInAuthority host) (path : List Char) :
    ofHierarchy (host.toList ++ '/' :: path) =
      ⟨some (Authority.parse host), String.ofList ('/' :: path)⟩ := by
  have hall : ∀ c ∈ host.toList, (!endsAuthority c) = true := fun c hc => by simp [hhost c hc]
  have hend : (!endsAuthority '/') = false := by decide
  rw [ofHierarchy, List.takeWhile_append_of_pos hall, List.dropWhile_append_of_pos hall,
    List.takeWhile_cons_of_neg (by simp [hend]), List.dropWhile_cons_of_neg (by simp [hend]),
    List.append_nil, String.ofList_toList]
  rfl

/-- **A scheme, an authority and a path are cut where they were joined.** -/
theorem parse_append (t : StreamType) {host path : String} (hhost : StaysInAuthority host)
    (hpath : path.toList.head? = some '/') :
    parse (t.scheme ++ host ++ path) = ⟨some (Authority.parse host), path⟩ := by
  obtain ⟨cs, hcs⟩ : ∃ cs, path.toList = '/' :: cs := List.head?_eq_some_iff.mp hpath
  have hsplit : splitScheme (t.scheme ++ host ++ path).toList =
      some (t.scheme.toList, host.toList ++ '/' :: cs) := by
    rw [String.toList_append, String.toList_append, hcs, List.append_assoc]
    exact splitScheme_append_scheme t _
  rw [parse_of_splitScheme hsplit, ofHierarchy_append hhost, ← hcs, String.ofList_toList]

/-- The path of a URL is the target's own when that starts with a slash, and a slash otherwise. -/
theorem urlPath_eq (target : RequestTarget) :
    target.urlPath = if target.path.toList.head? = some '/' then target.path else "/" := by
  unfold urlPath
  split
  · rename_i hcs
    simp [hcs]
  · rename_i hcs
    refine (if_neg fun h => ?_).symm
    obtain ⟨cs, h⟩ := List.head?_eq_some_iff.mp h
    exact hcs cs h

/-- The path of a URL starts with a slash. -/
theorem head?_urlPath (target : RequestTarget) : target.urlPath.toList.head? = some '/' := by
  rw [urlPath_eq]
  split
  · assumption
  · rfl

/-- The authority of a target that starts with a scheme stays in its authority. -/
theorem staysInAuthority_of_splitScheme {raw : String} {scheme rest : List Char}
    (h : splitScheme raw.toList = some (scheme, rest)) :
    ∃ a, (parse raw).authority = some a ∧ StaysInAuthority a.raw ∧ StaysInAuthority a.host := by
  rw [parse_of_splitScheme h]
  have hraw : StaysInAuthority (String.ofList (rest.takeWhile (!endsAuthority ·))) := by
    intro c hc
    rw [String.toList_ofList] at hc
    exact endsAuthority_of_mem_takeWhile hc
  exact ⟨_, rfl, hraw, fun c hc => hraw c (Authority.mem_of_mem_host hc)⟩

end RequestTarget

/-! ## Hosts -/

/-- Two texts that stay in an authority do so when they are joined. -/
theorem StaysInAuthority.append {s s' : String} (h : StaysInAuthority s)
    (h' : StaysInAuthority s') : StaysInAuthority (s ++ s') := by
  intro c hc
  rw [String.toList_append] at hc
  exact (List.mem_append.mp hc).elim (h c) (h' c)

/-- A printed number stays in its authority. -/
theorem staysInAuthority_toString (n : Nat) : StaysInAuthority (toString n) := by
  intro c hc
  have hd := isDigit_of_mem_toString hc
  rw [endsAuthority, Bool.or_eq_false_iff, Bool.or_eq_false_iff]
  refine ⟨⟨?_, ?_⟩, ?_⟩ <;> rw [beq_eq_false_iff_ne] <;> rintro rfl <;> exact absurd hd (by decide)

/-- A percent token stays in its authority. -/
theorem staysInAuthority_encode (bs : Bytes) : StaysInAuthority (Percent.encode bs) := by
  intro c hc
  rw [endsAuthority, Bool.or_eq_false_iff, Bool.or_eq_false_iff]
  refine ⟨⟨?_, ?_⟩, ?_⟩ <;> rw [beq_eq_false_iff_ne] <;> rintro rfl <;>
    exact absurd (Percent.isAlphanumeric_or_eq_of_mem_encode hc) (by decide)

/-- An address whose hostname, if it has one, stays in an authority. -/
def Address.HasPlainHostname : Address → Prop
  | .ip hostname _ => StaysInAuthority hostname
  | .unix _ => True

/-- The host of a listener stays in its authority if its hostname does. -/
theorem staysInAuthority_listenerHost {hostname : String} (h : StaysInAuthority hostname) :
    StaysInAuthority (listenerHost hostname) := by
  have hopen : StaysInAuthority "[" := by decide
  have hclose : StaysInAuthority "]" := by decide
  unfold listenerHost
  split
  · decide
  · split
    · exact (hopen.append h).append hclose
    · exact h

/-- **A fallback host stays in its authority**, also one that is made of a socket path. -/
theorem Address.staysInAuthority_fallbackHost (t : StreamType) {address : Address}
    (h : address.HasPlainHostname) : StaysInAuthority (address.fallbackHost t) := by
  cases address with
  | unix path => exact staysInAuthority_encode _
  | ip hostname port =>
    by_cases hdef : t.isDefaultPort port
    · rw [fallbackHost, if_pos hdef]
      split
      · decide
      · exact h
    · have hcolon : StaysInAuthority ":" := by decide
      rw [fallbackHost_of_not_isDefaultPort _ hdef]
      exact ((staysInAuthority_listenerHost h).append hcolon).append
        (staysInAuthority_toString port)

/-- An authority without its default port stays in its authority. -/
theorem Authority.staysInAuthority_elide {a : Authority} (hraw : StaysInAuthority a.raw)
    (hhost : StaysInAuthority a.host) (t : StreamType) (localPort : Option Nat) :
    StaysInAuthority (a.elide t localPort) := by
  unfold elide
  split
  · split
    · exact hhost
    · exact hraw
  · exact hraw

/-! ## Contexts -/

/-- Requests whose host does not come from a `Host` field: any over a socket file, those whose
target starts with a scheme, and those with a path or an asterisk for a target and no such
field. -/
def HostIsNotFromField (t : StreamType) (raw : String) (headers : HeaderLookup) : Prop :=
  t = .unix ∨ (splitScheme raw.toList).isSome ∨
    (raw.toList.head? = some '/' ∨ raw = "*") ∧ headers hostField = none

/-- A path or an asterisk names no authority. -/
theorem RequestTarget.authority_parse_eq_none {raw : String}
    (h : raw.toList.head? = some '/' ∨ raw = "*") : (parse raw).authority = none := by
  rw [parse_of_head? h]

/-- The authority that a request names stays in its authority when it is not the value of a
field. -/
theorem staysInAuthority_requestAuthority {t : StreamType} {raw : String} {headers : HeaderLookup}
    (h : HostIsNotFromField t raw headers) (localPort : Option Nat) :
    ∀ s ∈ requestAuthority (.parse raw) headers t localPort, StaysInAuthority s := by
  intro s hs
  unfold requestAuthority at hs
  split at hs
  · simp at hs
  · rename_i ht
    rcases h with h | h | ⟨h, hfield⟩
    · exact absurd h ht
    · obtain ⟨⟨scheme, rest⟩, hsplit⟩ := Option.isSome_iff_exists.mp h
      obtain ⟨a, ha, hraw, hhost⟩ := RequestTarget.staysInAuthority_of_splitScheme hsplit
      rw [ha] at hs
      obtain rfl := Option.mem_some_iff.mp hs
      exact Authority.staysInAuthority_elide hraw hhost t localPort
    · rw [RequestTarget.authority_parse_eq_none h, hfield] at hs
      simp at hs

namespace RequestContext

/-- **The URL of a request context reads back**: as the scheme of the listener, the authority that
the host names, and the path of the request, or a slash when it has none of its own. The request
is any whose host does not come from a `Host` field, on a listener of any transport and address.

**Proof sketch.** The host is the fallback host or the authority of the target, as it stands or
without its port. None of them holds a character that ends an authority, so the cut after the
scheme ends where the path was joined (`RequestTarget.parse_append`). -/
theorem parse_url_create (t : StreamType) (address peer : Address) (raw : String)
    (headers : HeaderLookup) (haddress : address.HasPlainHostname)
    (hhost : HostIsNotFromField t raw headers) :
    let listen := ListenProperties.create t address
    let target := RequestTarget.parse raw
    let context := create ⟨listen, ConnectionProperties.create listen peer⟩ target headers
    (splitScheme context.url.toList).map (·.1) = some listen.scheme.toList ∧
      (RequestTarget.parse context.url).authority = some (Authority.parse context.host) ∧
      (RequestTarget.parse context.url).path =
        if target.path.toList.head? = some '/' then target.path else "/" := by
  intro listen target context
  have hstays : StaysInAuthority context.host := by
    have hauth := staysInAuthority_requestAuthority hhost address.port?
    change StaysInAuthority
      ((requestAuthority target headers t address.port?).getD (address.fallbackHost t))
    cases hr : requestAuthority target headers t address.port? with
    | none => exact Address.staysInAuthority_fallbackHost t haddress
    | some s => exact hauth s hr
  have hurl : context.url = t.scheme ++ context.host ++ target.urlPath := rfl
  have hparse := RequestTarget.parse_append t hstays (RequestTarget.head?_urlPath target)
  refine ⟨?_, ?_, ?_⟩
  · rw [hurl, String.append_assoc, String.toList_append, splitScheme_append_scheme]
    rfl
  · rw [hurl, hparse]
  · rw [hurl, hparse]
    exact RequestTarget.urlPath_eq target

/-- An absolute target wins over a `Host` field that would end the authority early. -/
theorem parse_url_create_absolute :
    let headers : HeaderLookup := fun _ => some (.text "b/c")
    let listen := ListenProperties.create .tcp (.ip "192.0.2.7" 80)
    let connection := ConnectionProperties.create listen (.ip "192.0.2.9" 50000)
    let target := RequestTarget.parse "http://u@a:80?q"
    let context := create ⟨listen, connection⟩ target headers
    (Address.ip "192.0.2.7" 80).HasPlainHostname ∧
      HostIsNotFromField .tcp "http://u@a:80?q" headers ∧ context.url = "http://a/?q" ∧
      (splitScheme context.url.toList).map (·.1) = some listen.scheme.toList ∧
      (RequestTarget.parse context.url).authority = some (Authority.parse context.host) ∧
      (RequestTarget.parse context.url).path =
        if target.path.toList.head? = some '/' then target.path else "/" := by
  intro headers listen connection target context
  have haddress : (Address.ip "192.0.2.7" 80).HasPlainHostname := by
    change StaysInAuthority "192.0.2.7"
    decide
  have hhost : HostIsNotFromField .tcp "http://u@a:80?q" headers := Or.inr (Or.inl (by decide))
  exact ⟨haddress, hhost, by decide +kernel,
    parse_url_create .tcp _ (.ip "192.0.2.9" 50000) _ headers haddress hhost⟩

end RequestContext

end TargetUri
