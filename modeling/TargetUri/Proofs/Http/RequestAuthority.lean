import TargetUri.Http.Context
import TargetUri.Proofs.Net.FallbackHost

set_option autoImplicit false

/-!
# What names the authority of a request

The rules of precedence, one for each source of an authority: a request over a socket file has
none, the target's comes first otherwise, and the first `Host` field counts only for a target
without one.

## Main definitions

* `TargetUri.fieldValues` — the values of all fields of a name.

## Main results

* `TargetUri.rawHeader_eq_head?` — look-up finds the first value of a name.
* `TargetUri.Authority.elide_eq` — when an authority is reduced to its host.
* `TargetUri.requestAuthority_unix`, `TargetUri.requestAuthority_of_authority`,
  `TargetUri.requestAuthority_of_fields` — the rules of precedence.
-/

namespace TargetUri

/-! ## Fields -/

/-- The fields of a list that alternates names and values. A last name without a value is none. -/
def fieldPairs : List String → List (String × String)
  | name :: value :: rest => (name, value) :: fieldPairs rest
  | _ => []

/-- The values of all fields of a name, compared without regard to case, in their order. -/
def fieldValues (name : String) (raw : List String) : List String :=
  ((fieldPairs raw).filter fun field => Text.lower field.1 = Text.lower name).map (·.2)

/-- **Look-up finds the first value of a name.** -/
theorem rawHeader_eq_head? (name : String) (raw : List String) :
    rawHeader name raw = (fieldValues name raw).head? := by
  fun_induction rawHeader name raw with
  | case1 n v rest h => simp [fieldValues, fieldPairs, h]
  | case2 n v rest h ih =>
    rw [ih, fieldValues, fieldValues, fieldPairs, List.filter_cons_of_neg (by simpa using h)]
  | case3 raw h =>
    have hpairs : fieldPairs raw = [] := by
      unfold fieldPairs
      split
      · exact absurd rfl (h _ _ _)
      · rfl
    simp [fieldValues, hpairs]

/-! ## Precedence -/

/-- A transport over IP has a default port. -/
theorem StreamType.exists_defaultPort {t : StreamType} (ht : t ≠ .unix) :
    ∃ p, t.defaultPort = some p := by
  cases t with
  | tcp => exact ⟨80, rfl⟩
  | tls => exact ⟨443, rfl⟩
  | unix => exact absurd rfl ht

/-- **An authority is reduced to its host just when it is for the default port**, the listener's
port standing for a missing one. -/
theorem Authority.elide_eq (a : Authority) {t : StreamType} (ht : t ≠ .unix)
    (localPort : Option Nat) :
    a.elide t localPort = if a.port.or localPort = t.defaultPort then a.host else a.raw := by
  unfold elide
  split
  · rename_i p hp
    simp only [hp, StreamType.isDefaultPort_iff, eq_comm (a := some p)]
  · rename_i hp
    obtain ⟨p, hdefault⟩ := StreamType.exists_defaultPort ht
    rw [hp, hdefault, if_neg (by simp)]

/-- A request over a socket file names no authority. -/
theorem requestAuthority_unix (target : RequestTarget) (headers : HeaderLookup)
    (localPort : Option Nat) : requestAuthority target headers .unix localPort = none := rfl

/-- The authority of the target comes before any field. -/
theorem requestAuthority_of_authority {target : RequestTarget} {a : Authority}
    (h : target.authority = some a) (headers : HeaderLookup) {t : StreamType} (ht : t ≠ .unix)
    (localPort : Option Nat) :
    requestAuthority target headers t localPort = some (a.elide t localPort) := by
  unfold requestAuthority
  split
  · exact absurd rfl ht
  · rw [h]

/-- For a target without an authority the first `Host` field counts, as it stands. -/
theorem requestAuthority_of_fields {target : RequestTarget} (h : target.authority = none)
    (fields : List String) {t : StreamType} (ht : t ≠ .unix) (localPort : Option Nat) :
    requestAuthority target (.ofRaw fields) t localPort = (fieldValues hostField fields).head? := by
  unfold requestAuthority
  split
  · exact absurd rfl ht
  · rw [h, ← rawHeader_eq_head?]
    simp [HeaderLookup.ofRaw, FieldValue.toText, Function.comp_def]

end TargetUri
