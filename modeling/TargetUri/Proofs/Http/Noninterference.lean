import TargetUri.Proofs.Http.RequestAuthority
import TargetUri.Proofs.Http.SynthesizedUrl

set_option autoImplicit false

/-!
# What a client can influence

Two requests on one connection, compared by what differs in their contexts. Over a socket file
nothing does but the path of the URL. Otherwise the authority decides everything else: the target's,
if both name one, whatever the fields say, and the first `Host` field if neither does, whatever
other fields, later `Host` fields and paths there are.

## Main definitions

* `TargetUri.RequestContext.SameButUrl` — contexts that differ in their URLs at most.

## Main results

* `TargetUri.RequestContext.sameButUrl_create_iff` — contexts on one connection differ beyond their
  URLs only in the authorities that the requests name.
* `TargetUri.RequestContext.noninterference` — which requests get the same context, and how far
  their URLs agree.
-/

namespace TargetUri.RequestContext

/-- Two contexts that differ in their URLs at most. -/
structure SameButUrl (c c' : RequestContext) : Prop where
  /-- the schemes agree -/
  scheme : c.scheme = c'.scheme
  /-- the authorities agree, or both requests name none -/
  authority : c.authority = c'.authority
  /-- the hosts agree -/
  host : c.host = c'.host
  /-- the listeners agree -/
  listen : c.listen = c'.listen
  /-- the connections agree -/
  connection : c.connection = c'.connection

/-- **Contexts on one connection differ beyond their URLs only in the authorities** that the
requests name. -/
theorem sameButUrl_create_iff {entry : ConnectionEntry} {target target' : RequestTarget}
    {headers headers' : HeaderLookup} :
    (create entry target headers).SameButUrl (create entry target' headers') ↔
      requestAuthority target headers entry.connection.streamType entry.connection.localPort =
        requestAuthority target' headers' entry.connection.streamType
          entry.connection.localPort := by
  constructor
  · intro h
    exact h.authority
  · intro h
    exact ⟨rfl, h, congrArg (·.getD entry.listen.fallbackHost) h, rfl, rfl⟩

/-- The URL of a context is its scheme and host, and then what the path of the target makes. -/
theorem url_create (entry : ConnectionEntry) (target : RequestTarget) (headers : HeaderLookup) :
    (create entry target headers).url = entry.listen.scheme ++ (create entry target headers).host ++
      if target.path.toList.head? = some '/' then target.path else "/" := by
  rw [← RequestTarget.urlPath_eq]
  rfl

/-- **What a client can influence.** Of two requests on one connection, whatever their targets and
fields are:

* over a socket file neither names an authority, and their contexts differ in their URLs at most;
* over IP, if both targets name the same authority, their contexts differ in their URLs at most,
  whatever the fields say; if neither names one, they do so exactly when the first `Host` values
  agree, or both are missing, whatever other fields there are;
* if their hosts agree, their URLs are one text up to the end of the host and go on with what each
  target's path makes. -/
theorem noninterference (entry : ConnectionEntry) (target target' : RequestTarget)
    (fields fields' : List String) :
    let context := create entry target (.ofRaw fields)
    let context' := create entry target' (.ofRaw fields')
    (entry.connection.streamType = .unix →
      context.authority = none ∧ context.SameButUrl context') ∧
    (entry.connection.streamType ≠ .unix →
      (target.authority ≠ none → target.authority = target'.authority →
        context.SameButUrl context') ∧
      (target.authority = none → target'.authority = none →
        (context.SameButUrl context' ↔
          (fieldValues hostField fields).head? = (fieldValues hostField fields').head?))) ∧
    (context.host = context'.host →
      ∃ base, base = context.scheme ++ context.host ∧
        context.url = base ++ (if target.path.toList.head? = some '/' then target.path else "/") ∧
        context'.url =
          base ++ if target'.path.toList.head? = some '/' then target'.path else "/") := by
  intro context context'
  refine ⟨?_, ?_, ?_⟩
  · intro hunix
    have hnone : ∀ target headers, requestAuthority target headers entry.connection.streamType
        entry.connection.localPort = none := by
      intro target headers
      rw [hunix, requestAuthority_unix]
    have hsame := (hnone target (.ofRaw fields)).trans (hnone target' (.ofRaw fields')).symm
    exact ⟨hnone target _, sameButUrl_create_iff.mpr hsame⟩
  · intro hip
    constructor
    · intro hsome hsame
      obtain ⟨a, ha⟩ := Option.ne_none_iff_exists'.mp hsome
      refine sameButUrl_create_iff.mpr ?_
      rw [requestAuthority_of_authority ha _ hip,
        requestAuthority_of_authority (hsame.symm.trans ha) _ hip]
    · intro hnone hnone'
      rw [sameButUrl_create_iff, requestAuthority_of_fields hnone _ hip,
        requestAuthority_of_fields hnone' _ hip]
  · intro hhost
    refine ⟨context.scheme ++ context.host, rfl, url_create entry target _, ?_⟩
    rw [hhost]
    exact url_create entry target' _

end TargetUri.RequestContext
