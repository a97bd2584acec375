import TargetUri.Proofs.Http.AuthorityGrammar
import TargetUri.Proofs.Http.RequestAuthority

set_option autoImplicit false

/-!
# What is left out of an authority

An authority for the transport's default port is reduced to its host, and any other is given as it
stands. The host is the text without its user information and its port, so nothing else is ever
lost: what stands behind the host is the default port, or nothing where the listener's own port is
the default one.

## Main definitions

* `TargetUri.LosesDefaultPort` — what is left out of a text that is reduced to its host.

## Main results

* `TargetUri.Authority.losesDefaultPort_host` — reducing an authority loses user information and the
  default port alone.
* `TargetUri.requestAuthority_elision` — the same of the authority that a request names, whatever
  fields it has.
-/

namespace TargetUri

/-- **What is left out of a text that is reduced to a host**: user information before it, and behind
it the default port of the transport, or nothing when the text ends in no port and the listener is
bound to the default one. -/
structure LosesDefaultPort (t : StreamType) (localPort : Option Nat) (a host : String) : Prop where
  /-- no user information is left -/
  not_mem_at : '@' ∉ host.toList
  /-- the text is made of the host and what is left out -/
  exists_parts : ∃ info part, a.toList = info ++ host.toList ++ part ∧ IsUserInfo info ∧
    ((∃ ds p, part = ':' :: ds ∧ IsPort ds p ∧ t.defaultPort = some p) ∨
      part = [] ∧ t.defaultPort = localPort ∧
        ∀ before ds p, a.toList = before ++ ':' :: ds → ¬IsPort ds p)

namespace Authority

/-- A text that ends in a colon and a port has that port, whatever user information it begins
with. -/
theorem port_of_append {a : String} {before ds : List Char} {p : Nat}
    (ha : a.toList = before ++ ':' :: ds) (hds : IsPort ds p) : (parse a).port = some p := by
  have hread : readPort? ds = some p := readPort?_eq_some_iff_isPort.mpr hds
  -- a port holds no at sign, so the last one stands before the colon
  have hat : '@' ∉ ':' :: ds := by
    rw [List.mem_cons, not_or]
    exact ⟨by decide, not_mem_of_readPort? hread (by decide)⟩
  rw [parse, ha, dropUserInfo_append before hat, splitPort_append _ hread]

/-- **Reducing an authority to its host loses user information and the default port alone**, when
its port, or the listener's for a missing one, is the default port. -/
theorem losesDefaultPort_host {a : String} {t : StreamType} {localPort : Option Nat}
    (h : (parse a).port.or localPort = t.defaultPort) :
    LosesDefaultPort t localPort a (parse a).host := by
  obtain ⟨info, part, ha, hinfo, hpart⟩ := exists_parts a
  refine ⟨not_mem_host_at a, info, part, ha, hinfo, ?_⟩
  cases hport : (parse a).port with
  | some p =>
    rw [hport] at h hpart
    cases hpart with
    | some hds => exact Or.inl ⟨_, p, rfl, hds, h.symm⟩
  | none =>
    rw [hport] at h hpart
    cases hpart with
    | none =>
      refine Or.inr ⟨rfl, h.symm, fun before ds p hcut hds => ?_⟩
      rw [port_of_append hcut hds] at hport
      exact absurd hport (by simp)

end Authority

/-- **Only user information and the default port are ever left out.** For a target with an authority
a request names one authority, the same for all header fields. It is the text of the target's
without user information and the default port, when the port of the text, or the listener's for a
missing one, is the default port of the transport, and the text as it stands in all other cases. -/
theorem requestAuthority_elision (a path : String) {t : StreamType} (ht : t ≠ .unix)
    (localPort : Option Nat) :
    ∃ r, (∀ headers, requestAuthority ⟨some (.parse a), path⟩ headers t localPort = some r) ∧
      ((Authority.parse a).port.or localPort = t.defaultPort → LosesDefaultPort t localPort a r) ∧
      ((Authority.parse a).port.or localPort ≠ t.defaultPort → r = a) := by
  refine ⟨(Authority.parse a).elide t localPort,
    fun headers => requestAuthority_of_authority rfl headers ht localPort, ?_, ?_⟩
  · intro h
    rw [Authority.elide_eq _ ht, if_pos h]
    exact Authority.losesDefaultPort_host h
  · intro h
    rw [Authority.elide_eq _ ht, if_neg h]
    rfl

/-- The default port is left out with its leading zeros, and the colon of the user information is
not taken for that of a port. -/
theorem requestAuthority_elision_leading_zeros :
    StreamType.tls ≠ .unix ∧
      (∀ headers, requestAuthority ⟨some (.parse "u:1@[::1]:00443"), "/"⟩ headers .tls (some 8443) =
        some "[::1]") ∧
      LosesDefaultPort .tls (some 8443) "u:1@[::1]:00443" "[::1]" := by
  obtain ⟨r, hr, hlose, -⟩ :=
    requestAuthority_elision "u:1@[::1]:00443" "/" (t := .tls) (by decide) (some 8443)
  have hhost : some r = some "[::1]" := by
    rw [← hr fun _ => none]
    decide +kernel
  obtain rfl : r = "[::1]" := Option.some.inj hhost
  exact ⟨by decide, hr, hlose (by decide +kernel)⟩

end TargetUri
