import TargetUri.Proofs.Net.HostPort
import TargetUri.Proofs.Net.Literal

set_option autoImplicit false

/-!
# What a fallback host names

The host that names an IP listener, read as an authority, gives back the listener: its address (or
`localhost`) and its port, the transport's default port standing for a missing one. There is one
exception. An IPv6 address of another machine is written without brackets on the default port, so
that the colons within it pass for the one before a port.

## Main definitions

* `TargetUri.listenerHost` — the host of a listener: `localhost`, or its address in the form that
  an authority asks for.
* `TargetUri.Authority.Names` — an authority that names an IP listener.

## Main results

* `TargetUri.Authority.parse_fallbackHost_names_iff` — the fallback host names its listener unless
  that is bound to an IPv6 address of another machine on the transport's default port.
-/

namespace TargetUri

/-! ## The host of a listener -/

/-- The host of a listener on an IP address: `localhost` for a local address, the address in
brackets for another IPv6 one, and the address itself otherwise. -/
def listenerHost (hostname : String) : String :=
  if Ip.isLocal hostname then "localhost"
  else if Ip.isV6 hostname then "[" ++ hostname ++ "]"
  else hostname

/-- An authority that names a listener on a port of an IP address. A missing port is the default
port of the transport. -/
def Authority.Names (a : Authority) (t : StreamType) (hostname : String) (port : Nat) : Prop :=
  a.host = listenerHost hostname ∧ a.port.or t.defaultPort = some port

/-- A number is a transport's default port when the transport has that port. -/
theorem StreamType.isDefaultPort_iff {t : StreamType} {port : Nat} :
    t.isDefaultPort port ↔ t.defaultPort = some port := by
  cases t <;> simp [isDefaultPort, defaultPort] <;> omega

/-- The host of a listener on a literal holds no at sign. -/
theorem not_mem_listenerHost_at {hostname : String} (hlit : Ip.IsLiteral hostname) :
    '@' ∉ (listenerHost hostname).toList := by
  have hat : '@' ∉ hostname.toList := fun h => absurd (hlit.isLiteralChar h) (by decide)
  unfold listenerHost
  split
  · decide
  · split
    · simpa using hat
    · exact hat

/-- Of the hosts of listeners on literals, only those in brackets hold a colon. -/
theorem not_mem_listenerHost_colon {hostname : String} (hlit : Ip.IsLiteral hostname)
    (h : Ip.isLocal hostname ∨ ¬Ip.isV6 hostname) : ':' ∉ (listenerHost hostname).toList := by
  unfold listenerHost
  split
  · decide
  · rename_i hloc
    have hv6 := h.resolve_left hloc
    obtain ⟨v, hv⟩ := Option.isSome_iff_exists.mp (hlit.resolve_right hv6)
    rw [if_neg hv6]
    intro hm
    rcases Ip.isDigit_or_eq_of_v4? hv hm with hd | hd
    · exact absurd hd (by decide)
    · exact absurd hd (by decide)

/-! ## The forms of a fallback host -/

namespace Address

/-- Next to another port than the default one the host stands with the port behind it. -/
theorem fallbackHost_of_not_isDefaultPort {t : StreamType} {port : Nat} (hostname : String)
    (hdef : ¬t.isDefaultPort port) :
    (ip hostname port).fallbackHost t = listenerHost hostname ++ ":" ++ toString port := by
  rw [fallbackHost, if_neg hdef, listenerHost]
  split
  · rfl
  · exact formatIpPort_eq hostname port

/-- On the default port the host stands alone. -/
theorem fallbackHost_of_isDefaultPort {t : StreamType} {hostname : String} {port : Nat}
    (hdef : t.isDefaultPort port) (h : Ip.isLocal hostname ∨ ¬Ip.isV6 hostname) :
    (ip hostname port).fallbackHost t = listenerHost hostname := by
  rw [fallbackHost, if_pos hdef, listenerHost]
  split
  · rfl
  · rename_i hloc
    rw [if_neg (h.resolve_left hloc)]

end Address

namespace Authority

/-- An IPv6 address without brackets is never read as the address in brackets. -/
theorem host_parse_ne_brackets {hostname : String} (hlit : Ip.IsLiteral hostname) :
    (parse hostname).host ≠ "[" ++ hostname ++ "]" := by
  intro h
  have hopen : '[' ∈ (parse hostname).host.toList := by rw [h]; simp
  exact absurd (hlit.isLiteralChar (mem_of_mem_host hopen)) (by decide)

/-- **The fallback host of an IP listener names that listener, except that of an IPv6 address of
another machine on the default port of the transport.**

**Proof sketch.** A host that is followed by a colon and the port is cut there
(`parse_append_port`), since it holds no at sign. On the default port, `localhost` and a dotted
quad hold no colon either and are read whole. An IPv6 address then stands without brackets, and
the host that is read from it is made of its characters, of which a bracket is none. -/
theorem parse_fallbackHost_names_iff {t : StreamType} {hostname : String} {port : Nat}
    (hlit : Ip.IsLiteral hostname) (hport : port ≤ 65535) :
    (parse ((Address.ip hostname port).fallbackHost t)).Names t hostname port ↔
      ¬(t.isDefaultPort port ∧ Ip.isV6 hostname ∧ ¬Ip.isLocal hostname) := by
  have hat := not_mem_listenerHost_at hlit
  by_cases hdef : t.isDefaultPort port
  · by_cases h : Ip.isLocal hostname ∨ ¬Ip.isV6 hostname
    · refine iff_of_true ?_ (fun ⟨_, hv6, hloc⟩ => h.elim hloc (fun h => h hv6))
      rw [Address.fallbackHost_of_isDefaultPort hdef h,
        parse_of_not_mem_colon hat (not_mem_listenerHost_colon hlit h)]
      exact ⟨rfl, StreamType.isDefaultPort_iff.mp hdef⟩
    · obtain ⟨hloc, hv6⟩ := not_or.mp h
      have hv6 := Decidable.not_not.mp hv6
      refine iff_of_false ?_ (fun h => h ⟨hdef, hv6, hloc⟩)
      rw [Address.fallbackHost, if_pos hdef, if_neg hloc]
      rintro ⟨hhost, -⟩
      rw [listenerHost, if_neg hloc, if_pos hv6] at hhost
      exact host_parse_ne_brackets hlit hhost
  · refine iff_of_true ?_ (fun h => hdef h.1)
    rw [Address.fallbackHost_of_not_isDefaultPort _ hdef, parse_append_port hat hport]
    exact ⟨rfl, rfl⟩

/-- An IPv6 address on the default port of the other transport is named in brackets, with its
port. -/
theorem parse_fallbackHost_names_v6 :
    Ip.IsLiteral "2001:db8::1" ∧ 80 ≤ 65535 ∧
      (parse ((Address.ip "2001:db8::1" 80).fallbackHost .tls)).Names .tls "2001:db8::1" 80 := by
  have hlit : Ip.IsLiteral "2001:db8::1" := Or.inr (by decide +kernel)
  exact ⟨hlit, by decide, (parse_fallbackHost_names_iff hlit (by decide)).mpr (by decide)⟩

/-- On the default port the last group of an IPv6 address is read as its port. -/
theorem parse_fallbackHost_v6_default_port :
    parse ((Address.ip "2001:db8::1" 80).fallbackHost .tcp) =
        ⟨"2001:db8::1", "2001:db8:", some 1⟩ ∧
      ¬(parse ((Address.ip "2001:db8::1" 80).fallbackHost .tcp)).Names .tcp "2001:db8::1" 80 := by
  have hparse : parse ((Address.ip "2001:db8::1" 80).fallbackHost .tcp) =
      ⟨"2001:db8::1", "2001:db8:", some 1⟩ := by decide +kernel
  refine ⟨hparse, ?_⟩
  rw [hparse]
  rintro ⟨-, hport⟩
  exact absurd hport (by decide)

end Authority

end TargetUri
