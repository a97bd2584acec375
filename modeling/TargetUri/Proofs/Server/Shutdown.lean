import TargetUri.Proofs.Server.Vacancy

set_option autoImplicit false

/-!
# Closing a server in any order

The listeners of a server that was started on free addresses can be closed one by one and all
together, in any order and more than once. A listener is unbound by the first call that reaches it
and by no other. Closing it again is refused, and so is closing all of them when one of them has
been closed before; but then the others are closed all the same.

## Main definitions

* `TargetUri.CloseCall` — a call that closes one listener of a server, or all of them.
* `TargetUri.Machine.Unbound` — a server that has been closed, and its address.

## Main results

* `TargetUri.CloseCall.run_lost` — what a run of such calls takes from the machine.
* `TargetUri.CloseCall.close_run`, `TargetUri.CloseCall.closeAll_run` — how the next call ends.
* `TargetUri.Machine.FreeFor.unbound` — a listener that has been closed is unbound.
* `TargetUri.closing_in_any_order` — all of these together, and that the server can be started again
  once all listeners have been closed.
-/

namespace TargetUri

/-! ## Calls -/

/-- A call that closes something of a server, which has a number of listeners. -/
inductive CloseCall (n : Nat) where
  /-- one listener is closed -/
  | handle (i : Fin n)
  /-- all listeners are closed -/
  | server
deriving DecidableEq, Repr

namespace CloseCall

/-- Whether a call is to close a listener. -/
def Reaches {n : Nat} (i : Fin n) : CloseCall n → Prop
  | handle j => j = i
  | server => True

instance {n : Nat} (i : Fin n) (k : CloseCall n) : Decidable (k.Reaches i) :=
  match k with
  | handle j => inferInstanceAs (Decidable (j = i))
  | server => inferInstanceAs (Decidable True)

/-- Whether one of several calls is to close a listener. -/
def Closed {n : Nat} (ks : List (CloseCall n)) (i : Fin n) : Prop := ∃ k ∈ ks, k.Reaches i

instance {n : Nat} (ks : List (CloseCall n)) (i : Fin n) : Decidable (Closed ks i) :=
  inferInstanceAs (Decidable (∃ k ∈ ks, k.Reaches i))

/-- What a call does: how it ends, the machine afterwards and the records written. -/
def outcome (hs : List ServeHandle) (m : Machine) :
    CloseCall hs.length → Except Fault Unit × Machine × List Record
  | handle i => hs[i].close m
  | server => closeAll m hs

/-- The machine after calls, whether or not they are refused. -/
def run (hs : List ServeHandle) (m : Machine) : List (CloseCall hs.length) → Machine
  | [] => m
  | k :: ks => run hs (k.outcome hs m).2.1 ks

/-- The servers of the listeners that a call is to close. -/
def servers (hs : List ServeHandle) : CloseCall hs.length → List Nat
  | handle i => [hs[i].server]
  | server => hs.map (·.server)

section Runs

variable {hs : List ServeHandle} {m₀ m : Machine} {ids : List Nat}

/-- A call is to close a listener when the server of the listener is among those of the call. -/
theorem mem_servers_iff (hdistinct : (hs.map (·.server)).Nodup) (k : CloseCall hs.length)
    (i : Fin hs.length) : hs[i].server ∈ k.servers hs ↔ k.Reaches i := by
  cases k with
  | handle j =>
    refine List.mem_singleton.trans ⟨fun h => ?_, fun h => by rw [h]⟩
    have hlt : (i : Nat) < (hs.map (·.server)).length := by simp
    have hsame : (hs.map (·.server))[(i : Nat)]? = (hs.map (·.server))[(j : Nat)]? := by
      simpa using h
    exact Fin.ext ((List.getElem?_inj hlt hdistinct).mp hsame).symm
  | server => exact iff_of_true (List.mem_map_of_mem (List.getElem_mem i.isLt)) trivial

/-- One of several calls is to close a listener when its server is among those of the calls. -/
theorem mem_flatMap_servers_iff (hdistinct : (hs.map (·.server)).Nodup)
    (ks : List (CloseCall hs.length)) (i : Fin hs.length) :
    hs[i].server ∈ ks.flatMap (servers hs) ↔ Closed ks i :=
  List.mem_flatMap.trans
    (exists_congr fun k => and_congr_right fun _ => mem_servers_iff hdistinct k i)

/-- Calls one of which is to close all listeners are to close the servers of all of them. -/
theorem mem_flatMap_servers_of_mem {ks : List (CloseCall hs.length)} (h : server ∈ ks) (id : Nat) :
    id ∈ ks.flatMap (servers hs) ↔ id ∈ hs.map (·.server) := by
  refine List.mem_flatMap.trans ⟨fun ⟨k, _, hid⟩ => ?_, fun hid => ⟨server, h, hid⟩⟩
  cases k with
  | handle i =>
    rw [List.mem_singleton.mp hid]
    exact List.mem_map_of_mem (List.getElem_mem i.isLt)
  | server => exact hid

/-- **A call** takes just the servers away that it is to close, whatever has been closed before. -/
theorem outcome_lost (hopen : ∀ h ∈ hs, (m₀.serverAddress? h.server).isSome)
    (hdistinct : (hs.map (·.server)).Nodup) (hlost : m₀.Lost ids m) (k : CloseCall hs.length) :
    m₀.Lost (ids ++ k.servers hs) (k.outcome hs m).2.1 := by
  cases k with
  | handle i =>
    obtain ⟨m', log, hclose, hlost'⟩ :=
      ServeHandle.close_of_lost hlost (hopen hs[i] (List.getElem_mem i.isLt))
    rw [outcome, hclose]
    exact hlost'
  | server =>
    obtain ⟨m', log, hclose, hlost'⟩ := closeAll_of_lost hlost hopen hdistinct
    rw [outcome, hclose]
    exact hlost'

/-- **A run of calls** takes just the servers away that they are to close. -/
theorem run_lost (hopen : ∀ h ∈ hs, (m₀.serverAddress? h.server).isSome)
    (hdistinct : (hs.map (·.server)).Nodup) (hlost : m₀.Lost ids m)
    (ks : List (CloseCall hs.length)) :
    m₀.Lost (ids ++ ks.flatMap (servers hs)) (run hs m ks) := by
  induction ks generalizing m ids with
  | nil =>
    rw [List.flatMap_nil, List.append_nil]
    exact hlost
  | cons k ks ih =>
    rw [List.flatMap_cons, ← List.append_assoc]
    exact ih (outcome_lost hopen hdistinct hlost k)

/-- **Closing a listener after a run of calls** is refused just when it has been closed before. -/
theorem close_run (hopen : ∀ h ∈ hs, (m₀.serverAddress? h.server).isSome)
    (hdistinct : (hs.map (·.server)).Nodup) (ks : List (CloseCall hs.length))
    (i : Fin hs.length) : (hs[i].close (run hs m₀ ks)).1 = closeResult (Closed ks i) := by
  have hlost := run_lost hopen hdistinct (.nil m₀) ks
  obtain ⟨m', log, hclose, -⟩ :=
    ServeHandle.close_of_lost hlost (hopen hs[i] (List.getElem_mem i.isLt))
  rw [hclose]
  exact closeResult_congr (mem_flatMap_servers_iff hdistinct ks i)

/-- **Closing all listeners after a run of calls** is refused just when one of them has been closed
before. -/
theorem closeAll_run (hopen : ∀ h ∈ hs, (m₀.serverAddress? h.server).isSome)
    (hdistinct : (hs.map (·.server)).Nodup) (ks : List (CloseCall hs.length)) :
    (closeAll (run hs m₀ ks) hs).1 = closeResult (∃ i, Closed ks i) := by
  have hlost := run_lost hopen hdistinct (.nil m₀) ks
  have hclosed := mem_flatMap_servers_iff hdistinct ks
  obtain ⟨m', log, hclose, -⟩ := closeAll_of_lost hlost hopen hdistinct
  rw [hclose]
  refine closeResult_congr ⟨fun ⟨x, hx, hid⟩ => ?_, fun ⟨i, hi⟩ => ?_⟩
  · obtain ⟨i, hi, rfl⟩ := List.getElem_of_mem hx
    exact ⟨⟨i, hi⟩, (hclosed ⟨i, hi⟩).mp hid⟩
  · exact ⟨hs[i], List.getElem_mem i.isLt, (hclosed i).mpr hi⟩

end Runs

end CloseCall

/-! ## Addresses after closing -/

/-- A server that has been closed, and whose address is free again. -/
structure Machine.Unbound (m : Machine) (id : Nat) (e : Endpoint) : Prop where
  /-- the server has no address any more -/
  closed : m.serverAddress? id = none
  /-- what it held is free -/
  vacant : m.Vacant e
  /-- its socket file is gone -/
  removed : ∀ p, e = .file p → m.files.node? p = none

variable {m m₀ m₁ : Machine} {ls : List ListenerConfig} {ids : List Nat} {i : Nat} {e : Endpoint}

/-- Closing some servers leaves another one reached, unless one of them had the same address. -/
theorem Machine.Lost.reaches (h : m.Lost ids m₁) {id : Nat} (hreach : m.Reaches e id)
    (hother : ∀ j ∈ ids, m.holds? j ≠ some e) : m₁.Reaches e id := by
  have hid : id ∉ ids := fun hid => hother id hid hreach.1
  refine ⟨by rw [h.holds?_eq, if_neg hid, hreach.1], fun p hp => ?_⟩
  obtain ⟨hfind, hlast⟩ := hreach.2 p hp
  have hnode := h.others p fun j hj hholds => hother j hj (hp ▸ hholds)
  refine ⟨(h.directories.find_eq_ok_iff hnode.symm).mp hfind, fun later hlt => ?_⟩
  rw [h.holds?_eq]
  split
  · exact nofun
  · exact hlast later hlt

/-- **A listener that is closed is unbound** when its address was free before. -/
theorem Machine.FreeFor.unbound (hfree : m.FreeFor ls) (hopens : Opens m ls m₀)
    (hlost : m₀.Lost ids m₁) (he : (endpoints m.env m.nextPort ls)[i]? = some e)
    (hid : m.servers.length + i ∈ ids) : m₁.Unbound (m.servers.length + i) e := by
  have hempty : ∀ p, e = .file p → m₁.files.blocked? [] p = none ∧ m₁.files.node? p = none := by
    intro p hp
    obtain ⟨hway, hnode⟩ := FileTree.find_eq_ok_iff.mp ((hfree.reaches hopens he).2 p hp).1
    have hway' := (hlost.directories.blocked?_eq_none_iff p).mp hway
    refine ⟨hway', Option.eq_none_iff_forall_ne_some.mpr fun n hn => ?_⟩
    have hdir := hlost.gone _ hid p (hp ▸ (hopens.holds?_eq i).trans he) n
      (FileTree.find_eq_ok_iff.mpr ⟨hway', hn⟩)
    cases hnode.symm.trans ((hlost.directories p).mpr (hdir ▸ hn))
  refine ⟨by rw [hlost.serverAddress?_eq, if_pos hid], ⟨fun hheld => ?_, fun p hp => ?_⟩,
    fun p hp => (hempty p hp).2⟩
  · obtain ⟨j, hj⟩ := mem_held_iff.mp hheld
    rw [hlost.holds?_eq] at hj
    split at hj
    · cases hj
    · rename_i hopen
      rw [hfree.eq_of_holds? hopens he hj] at hopen
      exact hopen hid
  · exact ⟨(hempty p hp).1, .inl (hempty p hp).2⟩

/-! ## Starting again -/

/-- **A server can be started again** on a machine that its listeners have been opened on and closed
again, when their addresses were pairwise different and free. Where the machine is to choose ports,
it must not choose one of the others. -/
theorem Machine.Restored.exists_startServer_eq_ok {c : ServerConfig}
    (hrestored : m.Restored c.listeners m₁) (hfree : m.FreeFor c.listeners)
    (hopens : Opens m c.listeners m₀)
    (hvacant : ∀ e ∈ endpoints m.env m.nextPort c.listeners, m₁.Vacant e)
    (hchosen : ∀ l ∈ c.listeners, l.port? = some 0 →
      (endpoints m₁.env m₁.nextPort c.listeners).Nodup) (logger : Logger) :
    ∃ hs, (startServer defaultClaim logger m₁ c).result = .ok hs := by
  have hspares : m.Spares m₁ :=
    hrestored.takes.spares_iff.mpr (not_occupied_of_vacant hfree.vacant_endpoint)
  refine TargetUri.exists_startServer_eq_ok logger m₁ c (fun l hl => ?_) ?_ fun l hl hport => ?_
  · exact (hopens.gained.provided l hl).congr hrestored.env hrestored.pairFault?
      hrestored.directories hspares.files
  · by_cases hzero : ∃ l ∈ c.listeners, l.port? = some 0
    · obtain ⟨l, hl, hport⟩ := hzero
      exact hchosen l hl hport
    · rw [hrestored.env, endpoints_congr (fun l hl hport => hzero ⟨l, hl, hport⟩) _ _ m.nextPort]
      exact hfree.distinct
  · rw [hrestored.env]
    exact hvacant _ (endpoint_mem_endpoints hl hport _)

/-! ## Closing in any order -/

/-- **Closing a server in any order.** A server has been started on addresses that were pairwise
different and free, and then some of its listeners have been closed, by any calls.

* A listener that a call was to close is unbound and its address is free. Any other listener is
  still reached on its own address.
* Closing a listener is refused just when a call was to close it before.
* Closing all listeners is refused just when a call was to close one of them before.
* Once all have been closed together, nothing is left of the server on the machine, all its
  addresses are free, and the same configuration can be started again; where the machine is to
  choose ports, it must not choose one of the others. -/
theorem closing_in_any_order (logger : Logger) (m : Machine) (c : ServerConfig)
    (hs : List ServeHandle) (hstart : (startServer defaultClaim logger m c).result = .ok hs)
    (hfree : m.FreeFor c.listeners) (ks : List (CloseCall hs.length)) :
    let m₁ := CloseCall.run hs (startServer defaultClaim logger m c).machine ks
    (∀ i : Fin hs.length, ∃ e, (endpoints m.env m.nextPort c.listeners)[(i : Nat)]? = some e ∧
      if CloseCall.Closed ks i then m₁.Unbound hs[i].server e else m₁.Reaches e hs[i].server) ∧
    (∀ i : Fin hs.length, (hs[i].close m₁).1 = closeResult (CloseCall.Closed ks i)) ∧
    (closeAll m₁ hs).1 = closeResult (∃ i, CloseCall.Closed ks i) ∧
    (.server ∈ ks → m.Restored c.listeners m₁ ∧
      (∀ e ∈ endpoints m.env m.nextPort c.listeners, m₁.Vacant e) ∧
      ((∀ l ∈ c.listeners, l.port? = some 0 →
          (endpoints m₁.env m₁.nextPort c.listeners).Nodup) →
        ∀ logger', ∃ hs', (startServer defaultClaim logger' m₁ c).result = .ok hs')) := by
  intro m₁
  obtain ⟨hopens, hserved⟩ := opens_of_startServer hstart
  have hlost : Machine.Lost _ (ks.flatMap (CloseCall.servers hs)) m₁ :=
    CloseCall.run_lost hserved.isSome hserved.nodup (.nil _) ks
  have hserver : ∀ i : Fin hs.length, hs[i].server = m.servers.length + i :=
    fun i => hserved.server_getElem i.isLt
  have hclosed : ∀ i : Fin hs.length,
      m.servers.length + i ∈ ks.flatMap (CloseCall.servers hs) ↔ CloseCall.Closed ks i := by
    intro i
    rw [← hserver]
    exact CloseCall.mem_flatMap_servers_iff hserved.nodup ks i
  have hlength : (endpoints m.env m.nextPort c.listeners).length = hs.length := by
    rw [length_endpoints, hserved.length_eq]
  refine ⟨fun i => ?bound, CloseCall.close_run hserved.isSome hserved.nodup ks,
    CloseCall.closeAll_run hserved.isSome hserved.nodup ks, fun hall => ?all⟩
  case bound =>
    have he := List.getElem?_eq_getElem (Nat.lt_of_lt_of_eq i.isLt hlength.symm)
    refine ⟨_, he, ?_⟩
    rw [hserver]
    split
    · rename_i hi
      exact hfree.unbound hopens hlost he ((hclosed i).mpr hi)
    · rename_i hi
      refine hlost.reaches (hfree.reaches hopens he) fun j hj hholds => hi ((hclosed i).mp ?_)
      rwa [← hfree.eq_of_holds? hopens he hholds]
  case all =>
    have hrestored : m.Restored c.listeners m₁ := by
      refine hopens.gained.restored (hlost.congr fun id => ?_)
      rw [CloseCall.mem_flatMap_servers_of_mem hall, hserved.servers]
    have hvacant : ∀ e ∈ endpoints m.env m.nextPort c.listeners, m₁.Vacant e := by
      intro e he
      obtain ⟨i, hi, rfl⟩ := List.getElem_of_mem he
      have hid := (hclosed ⟨i, hlength ▸ hi⟩).mpr ⟨.server, hall, trivial⟩
      exact (hfree.unbound hopens hlost (List.getElem?_eq_getElem hi) hid).vacant
    exact ⟨hrestored, hvacant, hrestored.exists_startServer_eq_ok hfree hopens hvacant⟩

/-- A server on a port and a socket file, whose socket file is closed before all is closed. -/
theorem closing_in_any_order_partly_closed :
    let logger := Logger.create .info []
    let m := Machine.start ⟨"/root", "/", "/root/.request-authority"⟩ [(["run".toList], .directory)]
    let c : ServerConfig := ⟨[.tcp "::1" 8080, .unix "/run/a.sock"], .default⟩
    let hs := (startServer defaultClaim logger m c).result.toOption.getD []
    let first : Fin hs.length := ⟨0, by decide +kernel⟩
    let second : Fin hs.length := ⟨1, by decide +kernel⟩
    let m₁ := CloseCall.run hs (startServer defaultClaim logger m c).machine [.handle second]
    let m₂ := CloseCall.run hs (startServer defaultClaim logger m c).machine
      [.handle second, .server]
    (startServer defaultClaim logger m c).result = .ok hs ∧ m.FreeFor c.listeners ∧
      (hs[first].close m₁).1 = .ok () ∧ (hs[second].close m₁).1 = .error (.system .notRunning) ∧
      (closeAll m₁ hs).1 = .error (.system .notRunning) ∧ m.Restored c.listeners m₂ ∧
      ∃ hs', (startServer defaultClaim logger m₂ c).result = .ok hs' := by
  intro logger m c hs first second m₁ m₂
  have hok : (startServer defaultClaim logger m c).result.toBool = true := by decide +kernel
  have hstart : (startServer defaultClaim logger m c).result = .ok hs := by
    cases hresult : (startServer defaultClaim logger m c).result with
    | error f =>
      rw [hresult] at hok
      cases hok
    | ok hs' => simp only [hs, hresult, Except.toOption, Option.getD_some]
  have hends : endpoints m.env m.nextPort c.listeners =
      [.port "::1" 8080, .file ["run".toList, "a.sock".toList]] := by decide +kernel
  have hfree : m.FreeFor c.listeners := by
    refine ⟨by decide +kernel, fun e he => ⟨List.not_mem_nil, fun p hp => ?_⟩⟩
    rw [hends, hp] at he
    obtain rfl : p = ["run".toList, "a.sock".toList] := by simpa using he
    decide +kernel
  obtain ⟨-, hclose, hall, -⟩ := closing_in_any_order logger m c hs hstart hfree [.handle second]
  obtain ⟨-, -, -, hserver⟩ :=
    closing_in_any_order logger m c hs hstart hfree [.handle second, .server]
  obtain ⟨hrestored, -, hagain⟩ := hserver (List.mem_cons_of_mem _ List.mem_cons_self)
  have hports : ∀ l ∈ c.listeners, l.port? ≠ some 0 := by decide +kernel
  refine ⟨hstart, hfree, ?_, ?_, ?_, hrestored, ?_⟩
  · exact (hclose first).trans (if_neg (by decide +kernel))
  · exact (hclose second).trans (if_pos (by decide +kernel))
  · exact hall.trans (if_pos ⟨second, by decide +kernel⟩)
  · exact hagain (fun l hl hport => absurd hport (hports l hl)) logger

end TargetUri
