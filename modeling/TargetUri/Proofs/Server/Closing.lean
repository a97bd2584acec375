import TargetUri.Proofs.Machine.Files
import TargetUri.Server.Start

set_option autoImplicit false

/-!
# What closing listeners does to a machine

A server that is closed reports no address and holds nothing any more, and if it held a socket file,
no file is found there afterwards. Nothing else changes. Listeners that are open can all be closed,
and one that has been closed before is refused without keeping the others from it.

## Main definitions

* `TargetUri.Machine.Lost` — a machine on which servers have been closed.

## Main results

* `TargetUri.ServeHandle.close_of_lost`, `TargetUri.closeAll_of_lost` — closing one listener or
  several, some of which may have been closed before.
* `TargetUri.closeAll_lost` — closing open listeners succeeds and takes away just their servers.
-/

namespace TargetUri

variable {m m' : Machine}

/-- What a server of the machine holds. -/
def Machine.holds? (m : Machine) (id : Nat) : Option Endpoint := m.servers[id]?.bind (·.holds)

/-! ## Giving back what a server held -/

namespace Machine

variable {t : FileTree} {holds : Option Endpoint}

/-- Giving something back removes a file that was held and is found, or leaves the files alone. -/
theorem releaseFiles_cases (t : FileTree) (holds : Option Endpoint) :
    (∃ p, holds = some (.file p) ∧ t.node? p ≠ some .directory ∧
      releaseFiles t holds = t.erase p) ∨
      releaseFiles t holds = t ∧
        ∀ p, holds = some (.file p) → ∀ n, t.find p = .ok n → n = .directory := by
  unfold releaseFiles
  split
  · rename_i p
    split
    · rename_i u hunlink
      obtain ⟨n, hfind, hn, rfl⟩ := FileTree.unlink_eq_ok_iff.mp hunlink
      exact .inl ⟨p, rfl, FileTree.node?_ne_directory hfind hn, rfl⟩
    · rename_i e hunlink
      refine .inr ⟨rfl, fun q hq n hfind => Decidable.byContradiction fun hn => ?_⟩
      cases hq
      cases hunlink.symm.trans (FileTree.unlink_eq_ok_iff.mpr ⟨n, hfind, hn, rfl⟩)
  · rename_i hfile
    exact .inr ⟨rfl, fun p hp => absurd hp (hfile p)⟩

/-- Giving something back changes no directories. -/
theorem sameDirectories_releaseFiles (t : FileTree) (holds : Option Endpoint) :
    t.SameDirectories (releaseFiles t holds) := by
  rcases releaseFiles_cases t holds with ⟨p, -, hdir, heq⟩ | ⟨heq, -⟩ <;> rw [heq]
  · exact FileTree.sameDirectories_erase hdir
  · exact .refl t

/-- Giving something back leaves all places but the one that was held as they are. -/
theorem node?_releaseFiles_of_ne {p : Place} (hp : holds ≠ some (.file p)) :
    (releaseFiles t holds).node? p = t.node? p := by
  rcases releaseFiles_cases t holds with ⟨q, hq, -, heq⟩ | ⟨heq, -⟩ <;> rw [heq]
  refine FileTree.node?_erase_of_ne t fun hpq => hp ?_
  rw [hq, hpq]

/-- After a socket file has been given back no file is found in its place. -/
theorem eq_directory_of_find_releaseFiles {p : Place} {n : FileNode}
    (hp : holds = some (.file p)) (h : (releaseFiles t holds).find p = .ok n) :
    n = .directory := by
  rcases releaseFiles_cases t holds with ⟨q, hq, hdir, heq⟩ | ⟨heq, hnone⟩ <;> rw [heq] at h
  · cases hq.symm.trans hp
    exact absurd h (FileTree.find_erase_self hdir n)
  · exact hnone p hp n h

/-- What is found after something has been given back was found before. -/
theorem find_of_find_releaseFiles {p : Place} {n : FileNode}
    (h : (releaseFiles t holds).find p = .ok n) : t.find p = .ok n := by
  rcases releaseFiles_cases t holds with ⟨q, -, hdir, heq⟩ | ⟨heq, -⟩ <;> rw [heq] at h
  · have hpq : p ≠ q := by
      rintro rfl
      exact FileTree.find_erase_self hdir n h
    exact ((FileTree.sameDirectories_erase hdir).find_eq_ok_iff
      (FileTree.node?_erase_of_ne t hpq).symm).mpr h
  · exact h

end Machine

/-! ## Closing one server -/

/-- The machine without a server that holds something. -/
def Machine.closing (m : Machine) (id : Nat) : Machine :=
  { m with
    servers := m.servers.set id ⟨none, none⟩
    files := Machine.releaseFiles m.files (m.holds? id) }

/-- A server that is open can be closed. -/
theorem Machine.closeServer_of_isSome {id : Nat} (h : (m.serverAddress? id).isSome) :
    m.closeServer id = (.ok (), m.closing id) := by
  unfold serverAddress? at h
  unfold closeServer closing holds?
  cases hs : m.servers[id]? with
  | none => simp [hs] at h
  | some s =>
    obtain ⟨a, ha⟩ : ∃ a, s.address = some a := by simpa [hs, Option.isSome_iff_exists] using h
    simp [ha]

/-- A listener that is open can be closed. -/
theorem ServeHandle.close_of_isSome {h : ServeHandle} (hopen : (m.serverAddress? h.server).isSome) :
    ∃ log, h.close m = (.ok (), m.closing h.server, log) := by
  unfold close
  rw [Machine.closeServer_of_isSome hopen]
  exact ⟨_, rfl⟩

/-! ## Closing several servers -/

/-- What closing servers takes from a machine: each of them loses its address and what it held, and
its socket file. All else is as it was. -/
structure Machine.Lost (m : Machine) (ids : List Nat) (m' : Machine) : Prop where
  /-- paths mean what they meant -/
  env : m'.env = m.env
  /-- the same certificate chains go with the same keys -/
  pairFault? : m'.pairFault? = m.pairFault?
  /-- no server is removed -/
  length : m'.servers.length = m.servers.length
  /-- the servers are closed -/
  closed : ∀ id ∈ ids, m'.servers[id]? = some ⟨none, none⟩
  /-- the other servers are as they were -/
  kept : ∀ id ∉ ids, m'.servers[id]? = m.servers[id]?
  /-- the directories are the same -/
  directories : m.files.SameDirectories m'.files
  /-- no file is found where one of the servers had its socket file -/
  gone : ∀ id ∈ ids, ∀ p, m.holds? id = some (.file p) →
    ∀ n, m'.files.find p = .ok n → n = .directory
  /-- what is found was found before -/
  found : ∀ p n, m'.files.find p = .ok n → m.files.find p = .ok n
  /-- what is in other places is what was there -/
  others : ∀ p, (∀ id ∈ ids, m.holds? id ≠ some (.file p)) → m'.files.node? p = m.files.node? p

namespace Machine.Lost

/-- Closing no server takes nothing. -/
theorem nil (m : Machine) : m.Lost [] m where
  env := rfl
  pairFault? := rfl
  length := rfl
  closed _ h := absurd h List.not_mem_nil
  kept _ _ := rfl
  directories := .refl _
  gone _ h := absurd h List.not_mem_nil
  found _ _ h := h
  others _ _ := rfl

/-- A server that is closed already has nothing left to lose. -/
theorem again {id : Nat} (h : m.servers[id]? = some ⟨none, none⟩) : m.Lost [id] m where
  env := rfl
  pairFault? := rfl
  length := rfl
  closed _ hid := List.mem_singleton.mp hid ▸ h
  kept _ _ := rfl
  directories := .refl _
  gone _ hid _ hp := by
    rw [List.mem_singleton.mp hid, holds?, h] at hp
    cases hp
  found _ _ h := h
  others _ _ := rfl

/-- What closing one server takes. -/
theorem closing {id : Nat} (hid : id < m.servers.length) : m.Lost [id] (m.closing id) where
  env := rfl
  pairFault? := rfl
  length := List.length_set
  closed j hj := by
    rw [List.mem_singleton.mp hj]
    exact List.getElem?_set_self hid
  kept _ hj := List.getElem?_set_ne (Ne.symm (mt List.mem_singleton.mpr hj))
  directories := sameDirectories_releaseFiles _ _
  gone j hj p hp n hfind := by
    rw [List.mem_singleton.mp hj] at hp
    exact eq_directory_of_find_releaseFiles hp hfind
  found _ _ := find_of_find_releaseFiles
  others _ hp := node?_releaseFiles_of_ne (hp id (List.mem_singleton_self id))

variable {ids ids' : List Nat}

/-- A server that is closed holds nothing, and one that is not holds what it held. -/
theorem holds?_eq (h : m.Lost ids m') (id : Nat) :
    m'.holds? id = if id ∈ ids then none else m.holds? id := by
  split
  · rename_i hid
    rw [holds?, h.closed id hid]
    rfl
  · rename_i hid
    rw [holds?, holds?, h.kept id hid]

/-- A server that is closed has no address, and one that is not has the address that it had. -/
theorem serverAddress?_eq (h : m.Lost ids m') (id : Nat) :
    m'.serverAddress? id = if id ∈ ids then none else m.serverAddress? id := by
  split
  · rename_i hid
    rw [serverAddress?, h.closed id hid]
    rfl
  · rename_i hid
    rw [serverAddress?, serverAddress?, h.kept id hid]

/-- What closing servers takes, and what closing servers takes after it, the same ones or others. -/
theorem trans {m'' : Machine} (h : m.Lost ids m') (h' : m'.Lost ids' m'') :
    m.Lost (ids ++ ids') m'' := by
  refine
    { env := h'.env.trans h.env
      pairFault? := h'.pairFault?.trans h.pairFault?
      length := h'.length.trans h.length
      closed := ?closed
      kept := ?kept
      directories := h.directories.trans h'.directories
      gone := ?gone
      found := fun p n hfind => h.found p n (h'.found p n hfind)
      others := ?others }
  case closed =>
    intro id hid
    by_cases hlater : id ∈ ids'
    · exact h'.closed id hlater
    · rw [h'.kept id hlater]
      exact h.closed id ((List.mem_append.mp hid).resolve_right hlater)
  case kept =>
    intro id hid
    obtain ⟨hfirst, hlater⟩ := not_or.mp (mt List.mem_append.mpr hid)
    rw [h'.kept id hlater, h.kept id hfirst]
  case gone =>
    intro id hid p hp n hfind
    by_cases hfirst : id ∈ ids
    · exact h.gone id hfirst p hp n (h'.found p n hfind)
    · refine h'.gone id ((List.mem_append.mp hid).resolve_left hfirst) p ?_ n hfind
      rw [h.holds?_eq, if_neg hfirst, hp]
  case others =>
    intro p hp
    rw [h'.others p fun id hid => ?_]
    · exact h.others p fun id hid => hp id (List.mem_append_left _ hid)
    · rw [h.holds?_eq]
      split
      · exact nofun
      · exact hp id (List.mem_append_right _ hid)

/-- What was taken from a machine only depends on which servers were closed. -/
theorem congr (h : m.Lost ids m') (hids : ∀ id, id ∈ ids ↔ id ∈ ids') : m.Lost ids' m' where
  env := h.env
  pairFault? := h.pairFault?
  length := h.length
  closed id hid := h.closed id ((hids id).mpr hid)
  kept id hid := h.kept id (mt (hids id).mp hid)
  directories := h.directories
  gone id hid := h.gone id ((hids id).mpr hid)
  found := h.found
  others p hp := h.others p fun id hid => hp id ((hids id).mp hid)

end Machine.Lost

/-! ## Closing listeners once more -/

variable {m₀ : Machine} {ids : List Nat}

/-- How closing a listener ends, by whether it has been closed before. -/
def closeResult (before : Prop) [Decidable before] : Except Fault Unit :=
  if before then .error (.system .notRunning) else .ok ()

/-- How closing ends only depends on whether something has been closed before. -/
theorem closeResult_congr {p q : Prop} [Decidable p] [Decidable q] (h : p ↔ q) :
    closeResult p = closeResult q := by
  simp only [closeResult, h]

/-- **Closing a listener that was open**, after some listeners have been closed, is refused just
when it was among them; it is closed either way. -/
theorem ServeHandle.close_of_lost {h : ServeHandle} (hlost : m₀.Lost ids m)
    (hopen : (m₀.serverAddress? h.server).isSome) :
    ∃ m' log, h.close m = (closeResult (h.server ∈ ids), m', log) ∧
      m₀.Lost (ids ++ [h.server]) m' := by
  by_cases hbefore : h.server ∈ ids
  · refine ⟨m, [], ?_, hlost.trans (.again (hlost.closed _ hbefore))⟩
    rw [close, Machine.closeServer, hlost.closed _ hbefore, closeResult, if_pos hbefore]
    rfl
  · have hstill : (m.serverAddress? h.server).isSome := by
      rwa [hlost.serverAddress?_eq, if_neg hbefore]
    obtain ⟨log, hclose⟩ := close_of_isSome hstill
    refine ⟨m.closing h.server, log, ?_, hlost.trans (.closing ?_)⟩
    · rw [hclose, closeResult, if_neg hbefore]
    · refine Nat.lt_of_not_le fun hle => ?_
      rw [Machine.serverAddress?, List.getElem?_eq_none hle] at hstill
      cases hstill

/-- **Closing listeners that were open**, after some listeners have been closed, closes all of them,
and is refused just when one of them had been closed before.

**Proof sketch.** Induction on the listeners. The first is closed, whether or not that is refused,
and since the others have other servers it does not count for them as closed before. -/
theorem closeAll_of_lost {handles : List ServeHandle} (hlost : m₀.Lost ids m)
    (hopen : ∀ h ∈ handles, (m₀.serverAddress? h.server).isSome)
    (hdistinct : (handles.map (·.server)).Nodup) :
    ∃ m' log, closeAll m handles = (closeResult (∃ h ∈ handles, h.server ∈ ids), m', log) ∧
      m₀.Lost (ids ++ handles.map (·.server)) m' := by
  induction handles generalizing m ids with
  | nil =>
    refine ⟨m, [], ?_, by rwa [List.map_nil, List.append_nil]⟩
    simp [closeAll, closeResult]
  | cons h hs ih =>
    obtain ⟨hnew, hdistinct⟩ := List.nodup_cons.mp hdistinct
    obtain ⟨m₁, log, hfirst, hlost₁⟩ := h.close_of_lost hlost (hopen h List.mem_cons_self)
    obtain ⟨m', log', hrest, hlost'⟩ :=
      ih hlost₁ (fun x hx => hopen x (List.mem_cons_of_mem h hx)) hdistinct
    have hothers : (∃ x ∈ hs, x.server ∈ ids ++ [h.server]) ↔ ∃ x ∈ hs, x.server ∈ ids := by
      refine exists_congr fun x => and_congr_right fun hx => ?_
      have hne : x.server ≠ h.server := ne_of_mem_of_not_mem (List.mem_map_of_mem hx) hnew
      simp [hne]
    refine ⟨m', log ++ log', ?_, ?_⟩
    · simp only [closeAll, hfirst, hrest, closeResult, hothers, List.mem_cons, exists_eq_or_imp]
      by_cases hbefore : h.server ∈ ids <;> simp [hbefore]
    · rwa [List.append_assoc] at hlost'

/-- **Closing open listeners** succeeds and takes away just their servers. -/
theorem closeAll_lost {handles : List ServeHandle}
    (hopen : ∀ h ∈ handles, (m.serverAddress? h.server).isSome)
    (hdistinct : (handles.map (·.server)).Nodup) :
    ∃ m' log, closeAll m handles = (.ok (), m', log) ∧ m.Lost (handles.map (·.server)) m' := by
  obtain ⟨m', log, hclose, hlost⟩ := closeAll_of_lost (.nil m) hopen hdistinct
  refine ⟨m', log, ?_, hlost⟩
  simpa [closeResult] using hclose

end TargetUri
