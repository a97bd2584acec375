import TargetUri.Proofs.Http.RequestAuthority
import TargetUri.Proofs.Http.SynthesizedUrl

set_option autoImplicit false

/-!
# Resolving an authority again

A URL that was put together for a request can come back as the target of another request to the
same listener. The authority of that request is the one of the first, with one exception: reducing
an authority to its host takes one port from it, so a text that ends in the default port twice
loses the second one only when it is resolved again.

## Main definitions

* `TargetUri.Authority.resolve` — the authority that a text stands for on a listener.
* `TargetUri.EndsInPort`, `TargetUri.EndsInDefaultPortTwice` — texts that end in a port, and in two.

## Main results

* `TargetUri.Authority.resolve_eq_self_iff` — a text without user information stays as it is unless
  it ends in the default port.
* `TargetUri.Authority.resolve_resolve_iff` — resolving twice is resolving once unless the text ends
  in the default port twice.
* `TargetUri.requestAuthority_again_iff` — the same of requests, and of the URLs made for them.
-/

namespace TargetUri

/-! ## Ports at the end of a text -/

/-- A text that ends in a colon and a port. -/
def EndsInPort (p : Nat) (cs : List Char) : Prop :=
  ∃ host ds, cs = host ++ ':' :: ds ∧ readPort? ds = some p

/-- A text that ends in the default port of a transport twice, one behind the other. -/
def EndsInDefaultPortTwice (t : StreamType) (cs : List Char) : Prop :=
  ∃ p host ds, t.defaultPort = some p ∧ cs = host ++ ':' :: ds ∧ readPort? ds = some p ∧
    EndsInPort p host

/-- A port is read from just the texts that end in it. -/
theorem endsInPort_iff {p : Nat} {cs : List Char} :
    EndsInPort p cs ↔ (splitPort cs).2 = some p := by
  constructor
  · rintro ⟨host, ds, hcs, hds⟩
    rw [splitPort_eq_some_iff.mpr ⟨ds, hcs, hds⟩]
  · intro h
    obtain ⟨ds, hcs, hds⟩ := splitPort_eq_some_iff.mp (Prod.ext rfl h)
    exact ⟨_, ds, hcs, hds⟩

/-- Two ports are read, the second from what is left by the first, from just the texts that end in
both. -/
theorem endsInDefaultPortTwice_iff {t : StreamType} (ht : t ≠ .unix) {cs : List Char} :
    EndsInDefaultPortTwice t cs ↔
      (splitPort cs).2 = t.defaultPort ∧ (splitPort (splitPort cs).1).2 = t.defaultPort := by
  obtain ⟨p, hp⟩ := StreamType.exists_defaultPort ht
  rw [hp]
  constructor
  · rintro ⟨q, host, ds, hq, hcs, hds, hhost⟩
    obtain rfl : q = p := Option.some_inj.mp (hq.symm.trans hp)
    rw [splitPort_eq_some_iff.mpr ⟨ds, hcs, hds⟩]
    exact ⟨rfl, endsInPort_iff.mp hhost⟩
  · rintro ⟨hsecond, hfirst⟩
    obtain ⟨ds, hcs, hds⟩ := splitPort_eq_some_iff.mp (Prod.ext rfl hsecond)
    exact ⟨p, _, ds, hp, hcs, hds, endsInPort_iff.mpr hfirst⟩

/-- User information does not change which ports a text ends in, for no port holds an at sign. -/
theorem endsInDefaultPortTwice_dropUserInfo_iff {t : StreamType} {cs : List Char} :
    EndsInDefaultPortTwice t (dropUserInfo cs) ↔ EndsInDefaultPortTwice t cs := by
  have hat : ∀ {ds : List Char} {p : Nat}, readPort? ds = some p → '@' ∉ ':' :: ds := by
    intro ds p h
    exact List.not_mem_cons_of_ne_of_not_mem (by decide) (not_mem_of_readPort? h (by decide))
  constructor
  · rintro ⟨p, host, ds, hp, hcs, hds, before, first, rfl, hfirst⟩
    obtain ⟨info, hinfo⟩ := isSuffix_dropUserInfo cs
    refine ⟨p, info ++ (before ++ ':' :: first), ds, hp, ?_, hds, info ++ before, first, ?_, hfirst⟩
    · rw [← hinfo, hcs]
      simp only [List.append_assoc]
    · rw [List.append_assoc]
  · rintro ⟨p, host, ds, hp, rfl, hds, before, first, rfl, hfirst⟩
    refine ⟨p, dropUserInfo before ++ ':' :: first, ds, hp, ?_, hds, _, first, rfl, hfirst⟩
    rw [dropUserInfo_append _ (hat hds), dropUserInfo_append _ (hat hfirst)]

/-! ## Resolving twice -/

namespace Authority

/-- The authority that a text stands for on a listener: the text itself, or the host in it when it
is for the default port. -/
def resolve (s : String) (t : StreamType) (localPort : Option Nat) : String :=
  (parse s).elide t localPort

/-- A text without user information is its own host just when it ends in no port. -/
theorem host_parse_eq_self_iff {s : String} (hat : '@' ∉ s.toList) :
    (parse s).host = s ↔ (parse s).port = none := by
  rw [parse_of_not_mem_at hat]
  constructor
  · intro h
    have hhost : (splitPort s.toList).1 = s.toList := by
      simpa using congrArg String.toList h
    cases hport : (splitPort s.toList).2 with
    | none => rfl
    | some p =>
      -- the host would be shorter than the text by the port and its colon
      obtain ⟨ds, hcs, -⟩ := splitPort_eq_some_iff.mp
        (show splitPort s.toList = (s.toList, some p) from Prod.ext hhost hport)
      have hlength := congrArg List.length hcs
      rw [List.length_append, List.length_cons] at hlength
      omega
  · intro h
    simp [splitPort_of_eq_none h]

/-- A host from which no port was cut ends in none. -/
theorem port_parse_host_of_eq_none {s : String} (h : (parse s).port = none) :
    (parse (parse s).host).port = none := by
  have hsplit : splitPort (dropUserInfo s.toList) = (dropUserInfo s.toList, none) :=
    splitPort_of_eq_none h
  rw [parse_of_not_mem_at (not_mem_host_at s), parse, String.toList_ofList, hsplit, hsplit]

/-- **A text without user information stays as it is unless it ends in the default port.** -/
theorem resolve_eq_self_iff {s : String} (hat : '@' ∉ s.toList) {t : StreamType} (ht : t ≠ .unix)
    (localPort : Option Nat) :
    resolve s t localPort = s ↔ (parse s).port ≠ t.defaultPort := by
  obtain ⟨p, hp⟩ := StreamType.exists_defaultPort ht
  have hhost := host_parse_eq_self_iff hat
  rw [resolve, elide_eq _ ht]
  cases hport : (parse s).port with
  | none =>
    refine iff_of_true ?_ (by simp [hp])
    split
    · exact hhost.mpr hport
    · rfl
  | some q =>
    rw [Option.some_or]
    by_cases hq : some q = t.defaultPort
    · rw [if_pos hq, hhost, hport]
      exact iff_of_false (by simp) (fun h => h hq)
    · rw [if_neg hq]
      exact iff_of_true rfl hq

/-- **Resolving twice is resolving once unless the text ends in the default port twice.**

**Proof sketch.** A text that is for another port than the default one is given as it stands, and
then again. Otherwise it is reduced to its host, which has no user information, so it is reduced
once more just when it ends in the default port (`resolve_eq_self_iff`). It cannot if no port was
cut from the text in the first place. -/
theorem resolve_resolve_iff (s : String) {t : StreamType} (ht : t ≠ .unix)
    (localPort : Option Nat) :
    resolve (resolve s t localPort) t localPort = resolve s t localPort ↔
      ¬EndsInDefaultPortTwice t s.toList := by
  have htwice : EndsInDefaultPortTwice t s.toList ↔
      (parse s).port = t.defaultPort ∧ (parse (parse s).host).port = t.defaultPort := by
    rw [← endsInDefaultPortTwice_dropUserInfo_iff, endsInDefaultPortTwice_iff ht,
      parse_of_not_mem_at (not_mem_host_at s)]
    simp only [parse, String.toList_ofList]
  obtain ⟨p, hp⟩ := StreamType.exists_defaultPort ht
  by_cases hport : (parse s).port.or localPort = t.defaultPort
  · have hresolve : resolve s t localPort = (parse s).host := by
      rw [resolve, elide_eq _ ht, if_pos hport]
    rw [hresolve, resolve_eq_self_iff (not_mem_host_at s) ht, htwice]
    cases hs : (parse s).port with
    | none =>
      rw [port_parse_host_of_eq_none hs, hp]
      simp
    | some q =>
      rw [hs, Option.some_or] at hport
      simp [hport]
  · have hresolve : resolve s t localPort = s := by
      rw [resolve, elide_eq _ ht, if_neg hport]
      rfl
    rw [hresolve, hresolve, htwice]
    refine iff_of_true rfl (fun h => hport ?_)
    rw [h.1, hp, Option.some_or]

/-- A text that stays in an authority stands for one that does. -/
theorem staysInAuthority_resolve {s : String} (h : StaysInAuthority s) (t : StreamType)
    (localPort : Option Nat) : StaysInAuthority (resolve s t localPort) :=
  staysInAuthority_elide h (fun c hc => h c (mem_of_mem_host hc)) t localPort

end Authority

/-! ## Requests -/

/-- The authority that a URL names on a listener over IP, of whatever scheme the URL is. -/
theorem requestAuthority_url {s path : String} (hs : StaysInAuthority s)
    (hpath : path.toList.head? = some '/') (scheme : StreamType) (headers : HeaderLookup)
    {t : StreamType} (ht : t ≠ .unix) (localPort : Option Nat) :
    requestAuthority (.parse (scheme.scheme ++ s ++ path)) headers t localPort =
      some (Authority.resolve s t localPort) := by
  rw [RequestTarget.parse_append scheme hs hpath]
  exact requestAuthority_of_authority rfl headers ht localPort

/-- The host of a context is the authority that the request names, if it names one. -/
theorem RequestContext.host_create {entry : ConnectionEntry} {target : RequestTarget}
    {headers : HeaderLookup} {r : String}
    (h : requestAuthority target headers entry.connection.streamType entry.connection.localPort =
      some r) : (create entry target headers).host = r := by
  rw [create, h, Option.getD_some]

/-- **A URL for an authority, sent back as a target, names that authority again unless the text
ends in the default port twice**, whatever fields the requests carry. So does the URL of the context
that is made for it, sent back to the same listener.

**Proof sketch.** Both targets are cut where they were joined, so the two authorities are those of
the text and of the first authority; the law is then `Authority.resolve_resolve_iff`. -/
theorem requestAuthority_again_iff {a : String} (ha : StaysInAuthority a) (headers : HeaderLookup)
    {t : StreamType} (ht : t ≠ .unix) (localPort : Option Nat) :
    ∃ r, requestAuthority (.parse ("http://" ++ a ++ "/")) headers t localPort = some r ∧
      (requestAuthority (.parse ("http://" ++ r ++ "/")) headers t localPort = some r ↔
        ¬EndsInDefaultPortTwice t a.toList) ∧
      ∀ (listen : ListenProperties) (connection : ConnectionProperties),
        listen.scheme = t.scheme → connection.streamType = t → connection.localPort = localPort →
        let context := RequestContext.create ⟨listen, connection⟩
          (.parse ("http://" ++ a ++ "/")) headers
        let again := RequestContext.create ⟨listen, connection⟩ (.parse context.url) headers
        context.host = r ∧ (again.host = r ↔ ¬EndsInDefaultPortTwice t a.toList) := by
  have hr := Authority.staysInAuthority_resolve ha t localPort
  have hpath : "/".toList.head? = some '/' := rfl
  have hfirst := requestAuthority_url ha hpath .tcp headers ht localPort
  have hlaw := Authority.resolve_resolve_iff a ht localPort
  refine ⟨Authority.resolve a t localPort, hfirst, ?_, ?_⟩
  · rw [show "http://" = StreamType.tcp.scheme from rfl,
      requestAuthority_url hr hpath .tcp headers ht localPort, Option.some_inj]
    exact hlaw
  · intro listen connection hscheme htype hport context again
    have hhost : context.host = Authority.resolve a t localPort := by
      refine RequestContext.host_create ?_
      rw [htype, hport]
      exact hfirst
    have hurl : context.url = t.scheme ++ context.host ++ "/" := by
      change listen.scheme ++ context.host ++ (RequestTarget.parse _).urlPath = _
      rw [hscheme, show "http://" = StreamType.tcp.scheme from rfl,
        RequestTarget.parse_append .tcp ha hpath, RequestTarget.urlPath_eq, if_pos hpath]
    have hagain : again.host = Authority.resolve (Authority.resolve a t localPort) t localPort := by
      refine RequestContext.host_create ?_
      rw [hurl, hhost, htype, hport]
      exact requestAuthority_url hr hpath t headers ht localPort
    rw [hagain]
    exact ⟨hhost, hlaw⟩

/-- A port that stands before the default one is not cut with it, nor when the authority comes
back. -/
theorem requestAuthority_again_port :
    StaysInAuthority "u@[::1]:8080:443" ∧ StreamType.tls ≠ .unix ∧
      requestAuthority (.parse ("http://" ++ "u@[::1]:8080:443" ++ "/")) (.ofRaw []) .tls
        (some 8443) = some "[::1]:8080" ∧
      requestAuthority (.parse ("http://" ++ "[::1]:8080" ++ "/")) (.ofRaw []) .tls
        (some 8443) = some "[::1]:8080" := by
  have ha : StaysInAuthority "u@[::1]:8080:443" := by decide +kernel
  have ht : StreamType.tls ≠ .unix := by decide
  have hends : ¬EndsInDefaultPortTwice .tls "u@[::1]:8080:443".toList := by
    rw [endsInDefaultPortTwice_iff ht]
    decide +kernel
  have hvalue : requestAuthority (.parse ("http://" ++ "u@[::1]:8080:443" ++ "/")) (.ofRaw [])
      .tls (some 8443) = some "[::1]:8080" := by decide +kernel
  obtain ⟨r, hr, hagain, -⟩ := requestAuthority_again_iff ha (.ofRaw []) ht (some 8443)
  obtain rfl : r = "[::1]:8080" := Option.some_inj.mp (hr.symm.trans hvalue)
  exact ⟨ha, ht, hr, hagain.mpr hends⟩

/-- The second of two default ports is lost only when the authority comes back. -/
theorem requestAuthority_again_default_ports :
    StaysInAuthority "x:80:80" ∧ StreamType.tcp ≠ .unix ∧
      requestAuthority (.parse ("http://" ++ "x:80:80" ++ "/")) (.ofRaw []) .tcp (some 8080) =
        some "x:80" ∧
      requestAuthority (.parse ("http://" ++ "x:80" ++ "/")) (.ofRaw []) .tcp (some 8080) =
        some "x" := by
  decide +kernel

end TargetUri
