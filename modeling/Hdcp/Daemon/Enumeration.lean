/-
The enumeration of the ports.

`EnumeratePorts` writes the port id of every connected object into an array of
`NUM_PHYSICAL_PORTS_MAX` entries.  The objects are as many as the connectors that
`InitDrmObjects` found, and their port ids are their numbers; the requests for a port refuse
the ids beyond `PORT_ID_MAX`.

`enumeration_usable`: whatever the connections are, the enumeration is in bounds, and the ports
that it lists can be used, exactly when not more objects are connected than there are entries,
and none beyond the first six.
-/
import Hdcp.Daemon.Model
import Hdcp.Port.Init
import Hdcp.Port.Steps
import Mathlib.Data.List.TakeWhile

namespace Hdcp.Enumeration

open Library Socket Daemon
open Library.Prog (exists_runs forEach runs_bind runs_ite runs_op runs_ret)
open Hdcp.Port (DrmObject FoundObject PortManager PortOp PortProg drmModeConnected enumerateLoop
  initDrmObjects initSig portSig)

abbrev PortLog : Type := List (Event portSig)

/-! ### What the array holds -/

/-- The ids in the array after the writes of a log. -/
def portIds : PortLog → (ℕ → ℕ) → ℕ → ℕ
  | [], ids => ids
  | ⟨.storePort i id _, _⟩ :: log, ids => portIds log (Function.update ids i id)
  | _ :: log, ids => portIds log ids

/-- The count after the writes of a log. -/
def portCount : PortLog → ℕ → ℕ
  | [], n => n
  | ⟨.storePortCount n, _⟩ :: log, _ => portCount log n
  | _ :: log, n => portCount log n

/-- The ids that an enumeration lists. -/
def listed (log : PortLog) : List ℕ :=
  (List.range (portCount log 0)).map (portIds log fun _ => 0)

/-- The writes are within the array. -/
def InBounds : PortOp → Prop
  | .storePort i _ _ => i < numPhysicalPortsMax
  | _ => True

/-- The kernel answers what the connectors are. -/
def AgreesWith (conn : ℕ → Option ℕ) : Event portSig → Prop
  | ⟨.drmModeGetConnector drmId, r⟩ => r = conn drmId
  | _ => True

/-! ### What an id is good for -/

/-- A request that is refused. -/
def rejected (data : SocketData) : DaemonProg SocketData :=
  .ret { data with status := HdcpStatus.errorInvalidParameter }

/-- The requests for one port do not refuse the id. -/
structure PassesRangeChecks (id : UInt32) : Prop where
  setProtectionLevel : ∀ data appId, data.portCount = onePort → data.singlePort.id = id →
    data.level ∈ [hdcpLevel0, hdcpLevel1, hdcpLevel2] →
      HdcpDaemon.setProtectionLevel data appId ≠ rejected data
  getStatus : ∀ data, data.portCount = onePort → data.singlePort.id = id →
    HdcpDaemon.getStatus data ≠ rejected data
  getKsvList : ∀ (m : HdcpDaemon) data appId, data.portCount = onePort →
    data.singlePort.id = id → m.getKsvList data appId ≠ rejected data

/-- The objects that are connected. -/
def connected (conn : ℕ → Option ℕ) (drmObjects : List DrmObject) : List DrmObject :=
  drmObjects.filter fun drmObject => conn drmObject.drmId = some drmModeConnected

/-- The connector of the object can be read. -/
def isReadable (conn : ℕ → Option ℕ) (drmObject : DrmObject) : Bool :=
  (conn drmObject.drmId).isSome

/-- What an enumeration should do: it stays within the array; when it reports success, it lists
the objects that are connected, each of them once, and every id leads to its object. -/
structure Usable (m : PortManager) (conn : ℕ → Option ℕ) (log : PortLog) (ret : Errno) : Prop where
  inBounds : ∀ e ∈ log, InBounds e.op
  exact : ret = .success →
    listed log = (connected conn m.drmObjects).map DrmObject.portId ∧ (listed log).Nodup
  count : ret = .success → portCount log 0 ≤ numPhysicalPortsMax
  passes : ret = .success → ∀ drmObject ∈ connected conn m.drmObjects,
    PassesRangeChecks (UInt32.ofNat drmObject.portId) ∧
      m.getDrmObjectByPortId (UInt32.ofNat drmObject.portId).toNat = some drmObject

/-- The objects are those that `InitDrmObjects` has found. -/
def Initialised (m : PortManager) : Prop :=
  ∃ (log : List (Event initSig)) (drmObjects : List FoundObject),
    initDrmObjects.Runs log (.ok drmObjects) ∧
      m.drmObjects.map (fun o => (⟨o.drmId, o.portId, o.propertyList⟩ : FoundObject)) = drmObjects

/-- Not more objects are connected than there are entries, up to the first connector that cannot
be read; when all can be read, only the first objects are connected. -/
structure Fits (m : PortManager) (conn : ℕ → Option ℕ) : Prop where
  few : (connected conn (m.drmObjects.takeWhile (isReadable conn))).length ≤ numPhysicalPortsMax
  first : (∀ drmObject ∈ m.drmObjects, isReadable conn drmObject) →
    connected conn (m.drmObjects.drop (portIdMax.toNat + 1)) = []

variable {m : PortManager} {conn : ℕ → Option ℕ} {log log' : PortLog} {ret : Errno}
  {drmObjects : List DrmObject} {ids : ℕ → ℕ} {n : ℕ} {id : UInt32}

lemma portIds_append : portIds (log ++ log') ids = portIds log' (portIds log ids) := by
  induction log generalizing ids with
  | nil => rfl
  | cons e log ih =>
      obtain ⟨o, r⟩ := e
      cases o <;> exact ih

lemma portCount_append : portCount (log ++ log') n = portCount log' (portCount log n) := by
  induction log generalizing n with
  | nil => rfl
  | cons e log ih =>
      obtain ⟨o, r⟩ := e
      cases o <;> exact ih

/-! ### The range checks -/

/-- The three range checks are the same one. -/
lemma passesRangeChecks_iff : PassesRangeChecks id ↔ id ≤ portIdMax := by
  constructor
  · intro h
    by_contra hid
    let port : Port := ⟨id, 0, 0⟩
    let data := { newSocketData socketDataLayout with portCount := onePort, ports := fun _ => port }
    refine h.getStatus data rfl rfl ?_
    have hlarge : data.singlePort.id > portIdMax := UInt32.not_le.1 hid
    rw [HdcpDaemon.getStatus, if_neg (not_not.2 rfl), if_pos hlarge]
    rfl
  · intro hid
    refine ⟨fun data appId hcount heq hlevel => ?_, fun data hcount heq => ?_,
      fun m data appId hcount heq => ?_⟩
    all_goals have hsmall : ¬data.singlePort.id > portIdMax := by rwa [heq, UInt32.not_lt]
    · rw [HdcpDaemon.setProtectionLevel, if_neg (not_not.2 hcount.symm), if_neg hsmall]
      simp only [List.mem_cons, List.not_mem_nil, or_false] at hlevel
      rcases hlevel with hlevel | hlevel | hlevel
      · rw [if_neg (by rw [hlevel]; decide), if_pos hlevel]
        exact fun h => by cases h
      · rw [if_pos (.inl hlevel)]
        exact fun h => by cases h
      · rw [if_pos (.inr hlevel)]
        exact fun h => by cases h
    · rw [HdcpDaemon.getStatus, if_neg (not_not.2 hcount.symm), if_neg hsmall]
      exact fun h => by cases h
    · rw [HdcpDaemon.getKsvList, if_neg (not_not.2 hcount.symm), if_neg hsmall]
      exact fun h => by cases h

/-! ### The loop -/

/-- The objects that an enumeration lists: it ends at the first connector that cannot be
read. -/
def reached (conn : ℕ → Option ℕ) (drmObjects : List DrmObject) : List DrmObject :=
  connected conn (drmObjects.takeWhile (isReadable conn))

/-- What the loop of `EnumeratePorts` does from an entry on. -/
structure Loop (conn : ℕ → Option ℕ) (drmObjects : List DrmObject) (n : ℕ) (log : PortLog)
    (ret : Errno) : Prop where
  success : ret = .success ↔ ∀ drmObject ∈ drmObjects, isReadable conn drmObject
  inBounds : (∀ e ∈ log, InBounds e.op) ↔
    ∀ i < (reached conn drmObjects).length, n + i < numPhysicalPortsMax
  count : portCount log n = n + (reached conn drmObjects).length
  ids : ∀ ids : ℕ → ℕ, (List.range (n + (reached conn drmObjects).length)).map (portIds log ids) =
    (List.range n).map ids ++ (reached conn drmObjects).map DrmObject.portId

lemma reached_cons_of_unreadable {drmObject : DrmObject} (h : conn drmObject.drmId = none) :
    reached conn (drmObject :: drmObjects) = [] := by
  rw [reached, List.takeWhile_cons_of_neg (by simp [isReadable, h])]
  rfl

lemma reached_cons {drmObject : DrmObject} {connection : ℕ}
    (h : conn drmObject.drmId = some connection) :
    reached conn (drmObject :: drmObjects) =
      if connection = drmModeConnected then drmObject :: reached conn drmObjects
      else reached conn drmObjects := by
  rw [reached, List.takeWhile_cons_of_pos (by simp [isReadable, h]), connected, List.filter_cons]
  simp only [h, Option.some.injEq, decide_eq_true_eq]
  rfl

lemma runs_enumerateLoop (h : (enumerateLoop drmObjects n).Runs log ret)
    (hlog : ∀ e ∈ log, AgreesWith conn e) : Loop conn drmObjects n log ret := by
  induction drmObjects generalizing n log with
  | nil =>
      obtain ⟨rfl, rfl⟩ := runs_ret.1 h
      exact ⟨by simp, by simp [reached, connected], rfl,
        fun ids => by simp [reached, connected, portIds]⟩
  | cons drmObject drmObjects ih =>
      obtain ⟨_, l₁, l₂, hbegin, h₂, rfl⟩ := runs_bind.1 h
      obtain rfl := runs_op.1 hbegin
      obtain ⟨connection, l₃, l₄, hget, h₄, rfl⟩ := runs_bind.1 h₂
      obtain rfl := runs_op.1 hget
      have hconn : connection = conn drmObject.drmId :=
        hlog ⟨.drmModeGetConnector drmObject.drmId, connection⟩ (by simp)
      cases (connection : Option ℕ) with
      | none =>
          obtain ⟨_, l₅, l₆, hend, hret, rfl⟩ := runs_bind.1 h₄
          obtain ⟨rfl, rfl⟩ := runs_ret.1 hret
          obtain rfl := runs_op.1 hend
          -- the loop ends at the first object that cannot be read
          have hnone : reached conn (drmObject :: drmObjects) = [] :=
            reached_cons_of_unreadable hconn.symm
          refine ⟨⟨fun hret => absurd hret (by simp), fun hall => ?_⟩, ?_, ?_, fun ids => ?_⟩
          · exact absurd (hall drmObject List.mem_cons_self) (by simp [isReadable, ← hconn])
          · simp [hnone, InBounds]
          · rw [hnone]
            rfl
          · simp [hnone, portIds]
      | some connection =>
          have hreadable : isReadable conn drmObject := by rw [isReadable, ← hconn]; rfl
          have hreached : reached conn (drmObject :: drmObjects) = _ := reached_cons hconn.symm
          obtain ⟨hon, h₄⟩ | ⟨hoff, h₄⟩ := runs_ite.1 h₄
          · rw [if_pos hon] at hreached
            obtain ⟨_, l₅, l₆, hstore, h₆, rfl⟩ := runs_bind.1 h₄
            obtain ⟨_, l₇, l₈, hcount, h₈, rfl⟩ := runs_bind.1 h₆
            obtain ⟨_, l₉, l₁₀, hset, h₁₀, rfl⟩ := runs_bind.1 h₈
            obtain ⟨_, l₁₁, l₁₂, hend, hrest, rfl⟩ := runs_bind.1 h₁₀
            obtain rfl := runs_op.1 hstore
            obtain rfl := runs_op.1 hcount
            obtain rfl := runs_op.1 hset
            obtain rfl := runs_op.1 hend
            have hloop := ih hrest fun e he => hlog e (by simp [he])
            have hlength : (reached conn (drmObject :: drmObjects)).length =
                (reached conn drmObjects).length + 1 := by rw [hreached, List.length_cons]
            refine ⟨?_, ?_, ?_, fun ids => ?_⟩
            · rw [hloop.success, List.forall_mem_cons, and_iff_right hreadable]
            · have hentry : (∀ e ∈ l₁₂, InBounds e.op) ∧ n < numPhysicalPortsMax ↔
                  ∀ i < (reached conn (drmObject :: drmObjects)).length,
                    n + i < numPhysicalPortsMax := by
                rw [hloop.inBounds, hlength]
                constructor
                · rintro ⟨hrest, hfirst⟩ i hi
                  rcases i with _ | i
                  · exact hfirst
                  · have := hrest i (by omega)
                    omega
                · intro hall
                  refine ⟨fun i hi => ?_, by simpa using hall 0 (by omega)⟩
                  have := hall (i + 1) (by omega)
                  omega
              rw [← hentry]
              simp [InBounds, and_comm]
            · exact hloop.count.trans (by rw [hlength]; omega)
            -- the rest of the loop stores behind the entry of this object
            · have hids := hloop.ids (Function.update ids n drmObject.portId)
              have hfirst : (List.range (n + 1)).map (Function.update ids n drmObject.portId) =
                  (List.range n).map ids ++ [drmObject.portId] := by
                rw [List.range_succ, List.map_append, List.map_singleton, Function.update_self]
                congr 1
                refine List.map_congr_left fun i hi => Function.update_of_ne ?_ _ _
                exact (List.mem_range.1 hi).ne
              rw [hfirst, List.append_assoc, List.singleton_append, ← List.map_cons,
                ← hreached, Nat.add_right_comm, Nat.add_assoc, ← hlength] at hids
              exact hids
          · rw [if_neg hoff] at hreached
            obtain ⟨_, l₅, l₆, hset, h₆, rfl⟩ := runs_bind.1 h₄
            obtain ⟨_, l₇, l₈, hend, hrest, rfl⟩ := runs_bind.1 h₆
            obtain rfl := runs_op.1 hset
            obtain rfl := runs_op.1 hend
            have hloop := ih hrest fun e he => hlog e (by simp [he])
            refine ⟨?_, ?_, ?_, fun ids => ?_⟩
            · rw [hloop.success, List.forall_mem_cons, and_iff_right hreadable]
            · rw [hreached, ← hloop.inBounds]
              simp [InBounds]
            · rw [hreached]
              exact hloop.count
            · rw [hreached]
              exact hloop.ids ids

/-- What an enumeration does. -/
structure Enumerates (m : PortManager) (conn : ℕ → Option ℕ) (log : PortLog) (ret : Errno) :
    Prop where
  success : ret = .success ↔ ∀ drmObject ∈ m.drmObjects, isReadable conn drmObject
  inBounds : (∀ e ∈ log, InBounds e.op) ↔
    (reached conn m.drmObjects).length ≤ numPhysicalPortsMax
  count : portCount log 0 = (reached conn m.drmObjects).length
  listed : listed log = (reached conn m.drmObjects).map DrmObject.portId

lemma runs_enumeratePorts (h : m.enumeratePorts.Runs log ret)
    (hlog : ∀ e ∈ log, AgreesWith conn e) :
    m.isValid = true ∧ Enumerates m conn log ret ∨
      m.isValid = false ∧ ret ≠ .success ∧ ∀ e ∈ log, InBounds e.op := by
  rw [PortManager.enumeratePorts] at h
  obtain ⟨_, l₁, l₂, hinit, h₂, rfl⟩ := runs_bind.1 h
  obtain ⟨_, l₃, l₄, hzero, h₄, rfl⟩ := runs_bind.1 h₂
  obtain rfl := runs_op.1 hzero
  have hbounds : ∀ e ∈ l₁, InBounds e.op := by
    have huses : (forEach (List.range numPhysicalPortsMax) fun i =>
        Port.storePort i 0 Port.portStatusDisconnected).Uses InBounds :=
      Prog.uses_forEach fun i hi => Prog.uses_op.2 (List.mem_range.1 hi)
    exact fun e he => huses.of_runs hinit he
  obtain ⟨hinvalid, hret⟩ | ⟨hvalid, hloop⟩ := runs_ite.1 h₄
  · obtain ⟨rfl, rfl⟩ := runs_ret.1 hret
    refine .inr ⟨by simpa using hinvalid, by simp, fun e he => ?_⟩
    simp only [List.append_nil, List.mem_append, List.mem_singleton] at he
    rcases he with he | rfl
    · exact hbounds e he
    · trivial
  · have hloop := runs_enumerateLoop hloop fun e he => hlog e (by simp [he])
    have hcount : portCount (l₁ ++ ([⟨.storePortCount 0, ()⟩] ++ l₄)) 0 = portCount l₄ 0 := by
      rw [portCount_append, portCount_append]
      rfl
    have hids (ids : ℕ → ℕ) : portIds (l₁ ++ ([⟨.storePortCount 0, ()⟩] ++ l₄)) ids =
        portIds l₄ (portIds l₁ ids) := by
      rw [portIds_append, portIds_append]
      rfl
    refine .inl ⟨by simpa using hvalid, hloop.success, ?_, ?_, ?_⟩
    · have hall : (∀ e ∈ l₁ ++ ([⟨.storePortCount 0, ()⟩] ++ l₄), InBounds e.op) ↔
          ∀ e ∈ l₄, InBounds e.op := by
        rw [List.forall_mem_append, List.forall_mem_append, and_iff_right hbounds,
          and_iff_right (by simp [InBounds])]
      rw [hall, hloop.inBounds]
      constructor
      · intro hsmall
        by_contra hlarge
        have := hsmall numPhysicalPortsMax (by omega)
        omega
      · intro hsmall i hi
        omega
    · rw [hcount, hloop.count, Nat.zero_add]
    · rw [listed, hcount, hids, hloop.count, hloop.ids]
      rfl

/-! ### The objects -/

lemma portId_getElem (hm : Initialised m) {i : ℕ} (hi : i < m.drmObjects.length) :
    m.drmObjects[i].portId = i := by
  obtain ⟨log, drmObjects, hruns, rfl⟩ := hm
  have hids := (Port.initDrmObjects_portIds hruns).1
  rw [List.map_map, List.length_map] at hids
  have hget := congrArg (fun l => l[i]?) hids
  simpa [hi] using hget

/-- The port manager that is made for the connectors of a kernel has the objects that
`InitDrmObjects` has found. -/
lemma initialised_portManagerOf {connectors : List Port.Connector}
    (hname : Port.OneName connectors) (isValid ias : Bool) :
    Initialised (Port.portManagerOf connectors hname isValid ias) :=
  ⟨Port.queries connectors, Port.objectsOf connectors,
    Port.runs_initDrmObjects.2 ⟨connectors, rfl, rfl⟩, Port.map_portManagerOf hname isValid ias⟩

/-- The objects beyond the first ones are those with large ids. -/
lemma connected_drop_eq_nil (hm : Initialised m) {k : ℕ} :
    connected conn (m.drmObjects.drop k) = [] ↔
      ∀ drmObject ∈ connected conn m.drmObjects, drmObject.portId < k := by
  rw [connected, connected, List.filter_eq_nil_iff]
  constructor
  · intro hnone drmObject hmem
    obtain ⟨hmem, hconn⟩ := List.mem_filter.1 hmem
    obtain ⟨i, hi, rfl⟩ := List.mem_iff_getElem.1 hmem
    rw [portId_getElem hm hi]
    by_contra hlarge
    obtain ⟨j, rfl⟩ := Nat.exists_eq_add_of_le (not_lt.1 hlarge)
    exact hnone _ (List.mem_drop_iff_getElem.2 ⟨j, by omega, rfl⟩) hconn
  · intro hall drmObject hmem hconn
    obtain ⟨i, hi, rfl⟩ := List.mem_drop_iff_getElem.1 hmem
    have hsmall := hall _ (List.mem_filter.2 ⟨List.getElem_mem _, hconn⟩)
    rw [portId_getElem hm] at hsmall
    omega

lemma reached_eq_connected (h : ∀ drmObject ∈ m.drmObjects, isReadable conn drmObject) :
    reached conn m.drmObjects = connected conn m.drmObjects := by
  rw [reached, List.takeWhile_eq_self_iff.2 h]

/-- The id of an object is good for requests when it is small. -/
lemma passes_iff {drmObject : DrmObject} (h : drmObject ∈ m.drmObjects) :
    (PassesRangeChecks (UInt32.ofNat drmObject.portId) ∧
      m.getDrmObjectByPortId (UInt32.ofNat drmObject.portId).toNat = some drmObject) ↔
      drmObject.portId < portIdMax.toNat + 1 := by
  have hmax : portIdMax.toNat = 5 := rfl
  rw [passesRangeChecks_iff, UInt32.le_iff_toNat_le, hmax]
  constructor
  · rintro ⟨hpasses, hfind⟩
    have hid := m.portId_of_getDrmObjectByPortId hfind
    omega
  · intro hsmall
    have hid : (UInt32.ofNat drmObject.portId).toNat = drmObject.portId := by
      rw [UInt32.toNat_ofNat']
      omega
    rw [hid]
    exact ⟨by omega, m.getDrmObjectByPortId_of_mem h⟩

/-! ### Usability -/

lemma Enumerates.usable_iff (hm : Initialised m) (h : Enumerates m conn log ret) :
    Usable m conn log ret ↔ Fits m conn := by
  constructor
  · intro husable
    refine ⟨h.inBounds.1 husable.inBounds, fun hall => (connected_drop_eq_nil hm).2 ?_⟩
    intro drmObject hmem
    have hpasses := husable.passes (h.success.2 hall) drmObject hmem
    exact (passes_iff (List.mem_of_mem_filter hmem)).1 hpasses
  · intro hfits
    refine ⟨h.inBounds.2 hfits.few, fun hret => ?_, fun _ => h.count ▸ hfits.few,
      fun hret drmObject hmem => ?_⟩
    · have hlisted := h.listed
      rw [reached_eq_connected (h.success.1 hret)] at hlisted
      refine ⟨hlisted, hlisted ▸ ?_⟩
      exact (List.filter_sublist.map _).nodup m.portIds_nodup
    · have hfirst := (connected_drop_eq_nil hm).1 (hfits.first (h.success.1 hret))
      exact (passes_iff (List.mem_of_mem_filter hmem)).2 (hfirst drmObject hmem)

/-- The answers of a kernel with these connectors. -/
def kernelAnswer (conn : ℕ → Option ℕ) : (o : PortOp) → o.Ans
  | .getConnection _ | .getCpType _ | .getRefAppCount _ => (0 : ℕ)
  | .drmModeGetConnector drmId => conn drmId
  | .drmModeCreatePropertyBlob _ _ => (none : Option ℕ)
  | .drmModeObjectGetProperties _ => (none : Option (List (ℕ × ℕ)))
  | .drmSetMaster | .drmDropMaster | .drmModeConnectorSetProperty _ _ _
  | .utilSetContentProtection _ _ => false
  | .setConnection _ _ | .setCpType _ _ | .addRefAppId _ _ | .removeRefAppId _ _
  | .clearRefAppId _ | .connAtomicBegin _ | .connAtomicEnd _ | .cpTypeAtomicBegin _
  | .cpTypeAtomicEnd _ | .callBackListBegin | .callBackListEnd | .sendReport _ _ | .sleep
  | .storePort _ _ _ | .storePortCount _ | .storePortStatus _ => ()

/-- The connectors can be enumerated. -/
lemma exists_enumeration (m : PortManager) (conn : ℕ → Option ℕ) :
    ∃ log ret, m.enumeratePorts.Runs log ret ∧ ∀ e ∈ log, AgreesWith conn e := by
  obtain ⟨log, ret, hruns, hans⟩ := exists_runs (S := portSig) (kernelAnswer conn) m.enumeratePorts
  refine ⟨log, ret, hruns, fun e he => ?_⟩
  obtain ⟨o, r⟩ := e
  obtain rfl : r = kernelAnswer conn o := hans _ he
  cases o <;> trivial

theorem enumeration_usable (m : PortManager) (conn : ℕ → Option ℕ) (hm : Initialised m) :
    (∀ log ret, m.enumeratePorts.Runs log ret → (∀ e ∈ log, AgreesWith conn e) →
      Usable m conn log ret) ↔ (m.isValid = true → Fits m conn) := by
  constructor
  · intro husable hvalid
    obtain ⟨log, ret, hruns, hlog⟩ := exists_enumeration m conn
    obtain ⟨-, henum⟩ | ⟨hinvalid, -⟩ := runs_enumeratePorts hruns hlog
    · exact (henum.usable_iff hm).1 (husable log ret hruns hlog)
    · rw [hvalid] at hinvalid
      exact absurd hinvalid (by simp)
  · intro hfits log ret hruns hlog
    obtain ⟨hvalid, henum⟩ | ⟨-, hret, hbounds⟩ := runs_enumeratePorts hruns hlog
    · exact (henum.usable_iff hm).2 (hfits hvalid)
    · exact ⟨hbounds, fun hs => absurd hs hret, fun hs => absurd hs hret,
        fun hs => absurd hs hret⟩

/-! ### More connectors than entries -/

/-- Six connectors with the property that protects them. -/
def sixDisplays : PortManager where
  drmObjects := (List.range 6).map fun i =>
    { drmId := 70 + i
      portId := i
      propertyList := [⟨.contentProtection, 101⟩]
      ids_inj := by simp }
  isValid := true
  ias := false
  portIds_nodup := by decide
  drmIds_nodup := by decide

/-- What the kernel answers to `InitDrmObjects`. -/
def sixConnectors : Handler initSig Unit := fun o _ =>
  match o with
  | .drmModeGetResources => (some [70, 71, 72, 73, 74, 75], ())
  | .drmModeObjectGetProperties _ => (some [101], ())
  | .drmModeGetProperty _ => (some Port.PropertyName.contentProtection.text, ())

lemma initialised_sixDisplays : Initialised sixDisplays := by
  have hval : (Prog.exec sixConnectors initDrmObjects ()).val = .ok (sixDisplays.drmObjects.map
      fun o => (⟨o.drmId, o.portId, o.propertyList⟩ : FoundObject)) := by decide
  exact ⟨_, _, hval ▸ Prog.runs_exec sixConnectors initDrmObjects (), rfl⟩

/-- The first five are connected. -/
theorem enumeration_usable_sixDisplays :
    (∀ log ret, sixDisplays.enumeratePorts.Runs log ret →
      (∀ e ∈ log, AgreesWith (fun drmId => some (if drmId < 75 then 1 else 2)) e) →
        Usable sixDisplays (fun drmId => some (if drmId < 75 then 1 else 2)) log ret) ↔
      (sixDisplays.isValid = true →
        Fits sixDisplays fun drmId => some (if drmId < 75 then 1 else 2)) :=
  enumeration_usable sixDisplays (fun drmId => some (if drmId < 75 then 1 else 2))
    initialised_sixDisplays

/-- With six connected displays the enumeration writes behind the array. -/
theorem sixth_display_overflows :
    ∃ log ret, sixDisplays.enumeratePorts.Runs log ret ∧
      (∀ e ∈ log, AgreesWith (fun _ => some drmModeConnected) e) ∧
        ¬Usable sixDisplays (fun _ => some drmModeConnected) log ret := by
  obtain ⟨log, ret, hruns, hlog⟩ := exists_enumeration sixDisplays fun _ => some drmModeConnected
  refine ⟨log, ret, hruns, hlog, fun husable => ?_⟩
  obtain ⟨-, henum⟩ | ⟨hinvalid, -⟩ := runs_enumeratePorts hruns hlog
  · exact absurd (henum.inBounds.1 husable.inBounds) (by decide)
  · exact absurd hinvalid (by decide)

end Hdcp.Enumeration
