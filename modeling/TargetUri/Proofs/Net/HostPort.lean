import TargetUri.Net.Address
import TargetUri.Proofs.Http.AuthorityGrammar

set_option autoImplicit false

/-!
# An address and its port as an authority

An address and a port that are written one behind the other are read apart again, whatever colons
and brackets the address holds. Two things are asked for: the address holds no at sign, which would
end user information, and the port is in range.

## Main definitions

* `TargetUri.bracketed` — an address as it stands in an authority.

## Main results

* `TargetUri.formatIpPort_eq` — what is written: the address, a colon, and the port.
* `TargetUri.Authority.parse_formatIpPort_iff` — when the address and the port are read again.
-/

namespace TargetUri

/-- An address as it stands in an authority: an IPv6 literal in brackets, and any other text as it
is. -/
def bracketed (hostname : String) : String :=
  if Ip.isV6 hostname then "[" ++ hostname ++ "]" else hostname

/-- **What is written for an address and a port**: the address, a colon, and the port. -/
theorem formatIpPort_eq (hostname : String) (port : Nat) :
    formatIpPort hostname port = bracketed hostname ++ ":" ++ toString port := by
  unfold formatIpPort bracketed
  split
  · rw [show "]:" = "]" ++ ":" from rfl, ← String.append_assoc]
  · rfl

/-- Brackets aside, an address as it stands in an authority has the characters of the address. -/
theorem mem_bracketed_iff {c : Char} {hostname : String} (hopen : c ≠ '[') (hclose : c ≠ ']') :
    c ∈ (bracketed hostname).toList ↔ c ∈ hostname.toList := by
  unfold bracketed
  split
  · simp [hopen, hclose]
  · rfl

namespace Authority

/-- A port that is read is in range. -/
theorem le_of_port_parse {raw : String} {port : Nat} (h : (parse raw).port = some port) :
    port ≤ 65535 := by
  obtain ⟨ds, -, hds⟩ := splitPort_eq_some_iff.mp (Prod.ext rfl h)
  exact (readPort?_eq_some_iff_isPort.mp hds).le

/-- **An address and a port that are written one behind the other are read apart again just when the
address holds no at sign and the port is in range.** What is read then is the address as it stands
in an authority, whatever colons and brackets it holds, and that port.

**Proof sketch.** The port is printed in digits alone, so the colon before it is the last one
(`parse_append_port`). Conversely no host that is read holds an at sign, and no port that is read
is out of range. -/
theorem parse_formatIpPort_iff (hostname : String) (port : Nat) :
    parse (formatIpPort hostname port) =
        ⟨formatIpPort hostname port, bracketed hostname, some port⟩ ↔
      '@' ∉ hostname.toList ∧ port ≤ 65535 := by
  rw [← mem_bracketed_iff (c := '@') (by decide) (by decide)]
  constructor
  · intro h
    have hat := not_mem_host_at (formatIpPort hostname port)
    rw [h] at hat
    exact ⟨hat, le_of_port_parse (congrArg Authority.port h)⟩
  · rintro ⟨hat, hport⟩
    rw [formatIpPort_eq]
    exact parse_append_port hat hport

/-- An IPv6 literal with a zone, and a text of colons and brackets that is none. -/
example :
    parse (formatIpPort "fe80::1%eth0" 65535) =
        ⟨"[fe80::1%eth0]:65535", "[fe80::1%eth0]", some 65535⟩ ∧
      parse (formatIpPort "]:80:[" 0) = ⟨"]:80:[:0", "]:80:[", some 0⟩ := by
  decide +kernel

end Authority

end TargetUri
