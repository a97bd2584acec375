import TargetUri.Proofs.Http.RequestAuthority
import TargetUri.Proofs.Http.SynthesizedUrl
import TargetUri.Proofs.Server.Acceptance
import TargetUri.Proofs.Server.AccessLog

set_option autoImplicit false

/-!
# Requests without a host

The context of a request that names no authority has the fallback host of its listener. Whether such
a request gets as far as a context is another matter: it is routed by a URL, the URL of a request
for a path is made of the first `Host` field, and without that field the request is refused before
the application hears of it. The fallback host is left to the requests over a socket file, which
name no authority whatever their fields say.

## Main definitions

* `TargetUri.Session.Accepted` — a connection that a listener has accepted and registered.

## Main results

* `TargetUri.routingUrl?_eq_none` — what is not absolute has no URL without a `Host` field.
* `TargetUri.App.authority_eq_none_iff_of_routingUrl?` — the requests that reach the application and
  name no authority are those over a socket file.
* `TargetUri.Session.accepted_of_latest` — after any run, the connections that are accepted.
* `TargetUri.Session.request_without_host` — what becomes of a request for a path without a `Host`
  field, and what its context would be.
-/

namespace TargetUri

/-! ## The URL to route by -/

/-- A path is not meant as a URL. -/
theorem Url.isAbsolute_of_head? {target : String} (h : target.toList.head? = some '/') :
    Url.isAbsolute target = false := by
  obtain ⟨cs, hcs⟩ := List.head?_eq_some_iff.mp h
  rw [Url.isAbsolute, hcs]
  rfl

/-- What is meant as a URL names an authority. -/
theorem RequestTarget.exists_authority_of_isAbsolute {target : String}
    (h : Url.isAbsolute target) : ∃ a, (parse target).authority = some a := by
  have hscheme : ∃ t : StreamType, t.scheme.toList <+: target.toList := by
    rcases Bool.or_eq_true_iff.mp h with h | h
    · exact ⟨.tcp, List.isPrefixOf_iff_prefix.mp h⟩
    · exact ⟨.tls, List.isPrefixOf_iff_prefix.mp h⟩
  obtain ⟨t, rest, hrest⟩ := hscheme
  have hsplit := splitScheme_append_scheme t rest
  rw [hrest] at hsplit
  exact ⟨_, by rw [parse_of_splitScheme hsplit]; rfl⟩

/-- **A target that is not absolute has no URL without a `Host` field.** -/
theorem routingUrl?_eq_none {target : String} (htarget : Url.isAbsolute target = false)
    {rawHeaders : List String} (hhost : rawHeader hostField rawHeaders = none) :
    routingUrl? target rawHeaders = none := by
  unfold routingUrl?
  split
  · rfl
  · rw [htarget, hhost]
    rfl

namespace App

/-- The authority of a request over IP that has a URL to be routed by. -/
theorem exists_requestAuthority_of_routingUrl? {target : String} {rawHeaders : List String}
    {url : Url} (h : routingUrl? target rawHeaders = some url) {t : StreamType} (ht : t ≠ .unix)
    (localPort : Option Nat) :
    ∃ a, requestAuthority (.parse target) (.ofRaw rawHeaders) t localPort = some a := by
  cases hauthority : (RequestTarget.parse target).authority with
  | some a => exact ⟨_, requestAuthority_of_authority hauthority _ ht localPort⟩
  | none =>
    rw [requestAuthority_of_fields hauthority rawHeaders ht localPort, ← rawHeader_eq_head?]
    -- an absolute target would name an authority itself, so the URL is made of a `Host` field
    refine Option.ne_none_iff_exists'.mp fun hhost => ?_
    have habsolute : Url.isAbsolute target = false := by
      refine Bool.eq_false_iff.mpr fun habsolute => ?_
      obtain ⟨a, ha⟩ := RequestTarget.exists_authority_of_isAbsolute habsolute
      rw [hauthority] at ha
      exact Option.some_ne_none a ha.symm
    rw [routingUrl?_eq_none habsolute hhost] at h
    exact Option.some_ne_none url h.symm

/-- **Of the requests that reach the application, those over a socket file name no authority**, and
no others. -/
theorem authority_eq_none_iff_of_routingUrl? {r : Request} {target : String} {url : Url}
    (htarget : r.target = some target) (h : routingUrl? target r.rawHeaders = some url)
    (entry : ConnectionEntry) :
    (contextOf entry r).authority = none ↔ entry.connection.streamType = .unix := by
  have hcontext : (contextOf entry r).authority =
      requestAuthority (.parse target) (.ofRaw r.rawHeaders) entry.connection.streamType
        entry.connection.localPort := by
    simp only [contextOf, RequestContext.create, htarget, Option.getD_some]
  rw [hcontext]
  constructor
  · intro hnone
    by_contra ht
    obtain ⟨a, ha⟩ :=
      exists_requestAuthority_of_routingUrl? h ht entry.connection.localPort
    rw [ha] at hnone
    exact Option.some_ne_none a hnone
  · intro ht
    rw [ht, requestAuthority_unix]

/-- **The context of a request for a path without a `Host` field** has no authority, so its host is
the fallback host. -/
theorem contextOf_without_host {r : Request} {target : String} (htarget : r.target = some target)
    (hpath : target.toList.head? = some '/') (hhost : fieldValues hostField r.rawHeaders = [])
    (entry : ConnectionEntry) :
    (contextOf entry r).authority = none ∧
      (contextOf entry r).host = entry.listen.fallbackHost := by
  have hauthority : (contextOf entry r).authority = none := by
    simp only [contextOf, RequestContext.create, htarget, Option.getD_some]
    by_cases ht : entry.connection.streamType = .unix
    · rw [ht, requestAuthority_unix]
    · rw [requestAuthority_of_fields (RequestTarget.authority_parse_eq_none (.inl hpath)) _ ht,
        hhost, List.head?_nil]
  refine ⟨hauthority, ?_⟩
  rw [host_contextOf, hauthority, Option.getD_none]
  rfl

end App

/-! ## Accepted connections -/

/-- What a listener registers of a connection from a peer. -/
def ServedListener.entry (h : ServedListener) (peer : Address) : ConnectionEntry :=
  ⟨h.handle.listen, .create h.handle.listen peer⟩

namespace Session

/-- **A connection that a listener has accepted and registered**: the listener is served, and the
registry of its site knows the socket by the record that the listener made of it. -/
structure Accepted (s : Session) (handle socket : Nat) (h : ServedListener) (site : Site)
    (peer : Address) : Prop where
  /-- the listener is served -/
  served : s.handles[handle]? = some h
  /-- the site is that of the listener -/
  belongs : s.sites[h.registry]? = some site
  /-- the socket is registered -/
  registered : ∃ id, s.sockets[socket]? = some id ∧ site.registry.lookup id = some (h.entry peer)

/-- **After any run, a connection is accepted** when its listener is the last one of the site that
accepted the socket and could read its peer. -/
theorem accepted_of_latest (m : Machine) (logger : Logger) {steps : List SessionStep}
    (hsteps : ∀ x ∈ steps, x.bringsServer = false) {handle socket id : Nat} {a : Acceptance}
    (hserved : ((Session.start m logger).after steps).handles[handle]? = some a.listener)
    (hsocket : ((Session.start m logger).after steps).sockets[socket]? = some id)
    (ha : Acceptance.latest? ((Session.start m logger).acceptances steps) a.listener.registry id =
      some a) :
    ∃ site peer,
      ((Session.start m logger).after steps).Accepted handle socket a.listener site peer := by
  have ht := (Traced.start m logger).after hsteps
  rw [List.nil_append] at ht
  have hlt := ht.sites _ (List.mem_of_getElem? hserved)
  obtain ⟨-, hsome⟩ := Acceptance.mem_of_latest? ha
  obtain ⟨peer, hpeer⟩ := Option.isSome_iff_exists.mp hsome
  refine ⟨_, peer, hserved, List.getElem?_eq_getElem hlt, id, hsocket, ?_⟩
  have hknown := ht.known a.listener.registry id
  rw [Acceptance.known?, ha, Option.bind_some, Acceptance.record?, hpeer, registry,
    List.getElem?_eq_getElem hlt] at hknown
  exact hknown

variable {s : Session} {handle socket : Nat} {h : ServedListener} {site : Site} {peer : Address}

/-- A request on an accepted connection is answered by the site of the listener, and leaves the
session as it is. -/
theorem Accepted.step_request (ha : s.Accepted handle socket h site peer)
    (method target : String) (rawHeaders : List String) :
    ∃ id, site.registry.lookup id = some (h.entry peer) ∧
      s.step (.request handle socket method target rawHeaders) =
        ⟨.ok (.response (answerOn site.app s.machine site.registry id method target rawHeaders).1),
          s, (answerOn site.app s.machine site.registry id method target rawHeaders).2⟩ := by
  obtain ⟨hserved, hsite, id, hsocket, hlookup⟩ := ha
  refine ⟨id, hlookup, ?_⟩
  simp only [step, onHandle, hserved, stepRequest, hsite, onSocket, hsocket]

/-- **A request for a path without a `Host` field does not reach the application.** On a connection
that a listener has accepted and registered, over any transport, it is answered with the status 400
and nothing else: no record is written and nothing changes. The application would have known what to
make of it, on that connection: a context without an authority, the fallback host of the listener
for a host, and a line in the access log. Of the requests that do reach the application none is
without an authority, unless the connection is one over a socket file, where all are.

**Proof sketch.** A path is no URL, and there is no `Host` field to make one of
(`routingUrl?_eq_none`). The context is made of the same target and fields, where the lack of both
is what the fallback host is for (`App.contextOf_without_host`). -/
theorem request_without_host (ha : s.Accepted handle socket h site peer) {target : String}
    (hpath : target.toList.head? = some '/') {rawHeaders : List String}
    (hhost : fieldValues hostField rawHeaders = []) (method : String) :
    s.step (.request handle socket method target rawHeaders) =
        ⟨.ok (.response ⟨400, none⟩), s, []⟩ ∧
      (∀ r : Request, r.target = some target → r.rawHeaders = rawHeaders →
        ∃ c, App.requestContext (some (h.entry peer)) r = .ok c ∧
          c.listen = h.handle.listen ∧ c.authority = none ∧
          c.host = h.handle.listen.fallbackHost ∧
          (site.app.logger.enables .info →
            (site.app.answer (some (h.entry peer)) r).2.filter Record.isAccess =
              [site.app.accessLine ⟨some (h.entry peer), r⟩])) ∧
      ∀ (r : Request) (other : String) (url : Url), r.target = some other →
        routingUrl? other r.rawHeaders = some url →
        ∃ c, App.requestContext (some (h.entry peer)) r = .ok c ∧
          (c.authority = none ↔ h.handle.listen.streamType = .unix) := by
  refine ⟨?_, ?_, fun r other url htarget hurl => ?_⟩
  · obtain ⟨id, -, hstep⟩ := ha.step_request method target rawHeaders
    have hnone : routingUrl? target rawHeaders = none := by
      refine routingUrl?_eq_none (Url.isAbsolute_of_head? hpath) ?_
      rw [rawHeader_eq_head?, hhost, List.head?_nil]
    rw [hstep, answerOn, hnone]
  · rintro r htarget rfl
    obtain ⟨hauthority, hfallback⟩ :=
      App.contextOf_without_host htarget hpath hhost (h.entry peer)
    exact ⟨_, rfl, rfl, hauthority, hfallback,
      fun henables => App.filter_isAccess_answer henables ⟨some (h.entry peer), r⟩⟩
  · exact ⟨_, rfl, App.authority_eq_none_iff_of_routingUrl? htarget hurl (h.entry peer)⟩

/-- A run in which a connection on a port is accepted. -/
def arrival : List SessionStep :=
  [.openListener (.tcp "10.0.0.1" 8080), .serve 0,
    .connect 0 ⟨some "10.0.0.2", some 4000, none, none, false⟩]

/-- The session after that run. -/
def visited : Session :=
  (Session.start (.start ⟨"/", "/", "/"⟩ []) (.create .info [])).after arrival

/-- A request for the diagnostic route, over a connection on a port and without any fields. -/
theorem request_without_host_visited :
    ∃ h site peer, visited.Accepted 0 0 h site peer ∧ "/context".toList.head? = some '/' ∧
      fieldValues hostField [] = [] ∧
      visited.step (.request 0 0 "GET" "/context" []) =
        ⟨.ok (.response ⟨400, none⟩), visited, []⟩ ∧
      ∀ r : Request, r.target = some "/context" → r.rawHeaders = [] →
        ∃ c, App.requestContext (some (h.entry peer)) r = .ok c ∧ c.authority = none ∧
          c.host = h.handle.listen.fallbackHost := by
  have hsteps : ∀ x ∈ arrival, x.bringsServer = false := by decide
  obtain ⟨a, hlatest, hregistry, hserved⟩ : ∃ a, Acceptance.latest? ((Session.start
      (.start ⟨"/", "/", "/"⟩ []) (.create .info [])).acceptances arrival) 0 0 = some a ∧
      a.listener.registry = 0 ∧ visited.handles[0]? = some a.listener := ⟨_, rfl, rfl, rfl⟩
  have hsocket : visited.sockets[0]? = some 0 := rfl
  obtain ⟨site, peer, ha⟩ :=
    accepted_of_latest _ _ hsteps hserved hsocket (by rw [hregistry]; exact hlatest)
  have hpath : "/context".toList.head? = some '/' := by decide
  have hhost : fieldValues hostField [] = [] := rfl
  obtain ⟨hstep, hcontext, -⟩ := request_without_host ha hpath hhost "GET"
  refine ⟨_, site, peer, ha, hpath, hhost, hstep, fun r htarget hheaders => ?_⟩
  obtain ⟨c, hc, -, hauthority, hfallback, -⟩ := hcontext r htarget hheaders
  exact ⟨c, hc, hauthority, hfallback⟩

/-- An application that writes its access log is not asked, although its listener has a fallback
host: the answer has the status 400, and there is no line for the request. -/
theorem request_refused_visited :
    ∃ h site, visited.Accepted 0 0 h site (.ip "10.0.0.2" 4000) ∧
      site.app.logger.enables .info = true ∧ h.handle.listen.fallbackHost = "10.0.0.1:8080" ∧
      (visited.step (.request 0 0 "GET" "/context" [])).result =
        .ok (.response ⟨400, none⟩) ∧
      ∀ r : Request, (visited.step (.request 0 0 "GET" "/context" [])).log.filter Record.isAccess ≠
        [site.app.accessLine ⟨some (h.entry (.ip "10.0.0.2" 4000)), r⟩] := by
  refine ⟨_, _, ⟨rfl, rfl, _, rfl, rfl⟩, by decide +kernel, by decide +kernel, rfl, fun r => ?_⟩
  exact (List.cons_ne_nil _ _).symm

end Session

end TargetUri
