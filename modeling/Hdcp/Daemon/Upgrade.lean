/-
An upgrade that fails.

An app asks for the level 2 on a port that another app holds at type 0.  `EnablePort` sets
the content type 1 before it knows whether the port can be protected so.  When it fails, the
session of the app asks for the level 0 on its own, and `DisablePort` returns early because
the other app still holds the port.  Neither of the two functions sets the content type back.

The requests of the session are served by the daemon, so that the program is one over the
interactions of both: `SetProtectionLevel` makes its transactions by programs of the daemon,
and these call the port manager.  The state is that of the ports, with the values that the
kernel has taken for the properties of the port.
-/
import Hdcp.Daemon.Model
import Hdcp.Port.Steps
import Hdcp.Sdk.Session

namespace Hdcp.Upgrade

open Library Socket Daemon
open Library.Prog (op Ensures Leads)
open Port (PortManager PortOp PortProg PortState DrmObject PropertyName portSig portStep cpType0
  cpType1 cpDesired u8)

/-! ### The two processes -/

/-- `SetProtectionLevel` of a session, over what makes its transactions. -/
def setProtectionLevel {S : Sig} (L : Layout)
    (transact : SocketData → Prog S (HdcpStatus × SocketData)) (portId : UInt32)
    (level : UInt8) : Prog S HdcpStatus := do
  let (ret, _) ← transact (Session.levelRequest L portId level)
  if ret ≠ HdcpStatus.successful ∧ level ≠ hdcpLevel0 then
    let _ret ← transact (Session.levelRequest L portId hdcpLevel0)
    return ret
  return HdcpStatus.successful

/-- A session makes its transactions over its socket. -/
lemma setProtectionLevel_session (L : Layout) (session : ℕ) (portId : UInt32) (level : UInt8) :
    Session.setProtectionLevel L session portId level =
      setProtectionLevel L (Session.lockedTransaction L session) portId level := rfl

/-- The interactions of the message loop and of the port manager. -/
inductive UpgradeOp where
  | daemon (o : DaemonOp)
  | port (o : PortOp)

def UpgradeOp.Ans : UpgradeOp → Type
  | daemon o => o.Ans
  | port o => o.Ans

abbrev upgradeSig : Sig := ⟨UpgradeOp, UpgradeOp.Ans⟩

abbrev UpgradeProg (α : Type) : Type := Prog upgradeSig α

/-- A program of the port manager. -/
def inPort {α : Type} (q : PortProg α) : UpgradeProg α :=
  q.subst fun o => op (S := upgradeSig) (.port o)

/-- The calls of the port manager are what it does. -/
def implement (m : PortManager) : (o : DaemonOp) → UpgradeProg o.Ans
  | .portManagerEnablePort id appId level => inPort (m.enablePort id.toNat appId level)
  | .portManagerDisablePort id appId => inPort (m.disablePort id.toNat appId)
  | o => op (S := upgradeSig) (.daemon o)

/-- A request of the app, as the daemon serves it. -/
def transact (m : PortManager) (appId : ℕ) (data : SocketData) :
    UpgradeProg (HdcpStatus × SocketData) := do
  let rsp ← (HdcpDaemon.setProtectionLevel data appId).subst (implement m)
  return (rsp.status, rsp)

/-- The app asks for the level 2. -/
def upgrade (m : PortManager) (L : Layout) (appId : ℕ) (portId : UInt32) :
    UpgradeProg HdcpStatus :=
  setProtectionLevel L (transact m appId) portId hdcpLevel2

/-! ### The properties of the port -/

/-- The ports, and the values that were written to the properties of one object, the last one
first. -/
structure UpgradeState where
  ports : PortState
  written : PropertyName → List ℕ

/-- The values that an interaction writes to a property of the object.  The kernel can refuse,
and IAS writes the content protection. -/
def writes (d : DrmObject) (name : PropertyName) : (o : PortOp) → o.Ans → List ℕ
  | .drmModeConnectorSetProperty drmId propId value, done =>
    taken done (drmId = d.drmId ∧ propId = d.getPropertyId name) value
  | .utilSetContentProtection drmId value, done =>
    taken done (drmId = d.drmId ∧ name = .contentProtection) value
  | _, _ => []
where
  taken (done isIt : Bool) (value : ℕ) : List ℕ := if done && isIt then [value] else []

/-- An interaction of the message thread while the others rest. -/
def portWrites (d : DrmObject) (o : PortOp) (r : o.Ans) (s : UpgradeState) :
    Option UpgradeState :=
  (portStep .message o r s.ports).map fun t =>
    ⟨t, fun name => writes d name o r ++ s.written name⟩

def upgradeStep (d : DrmObject) : (o : UpgradeOp) → o.Ans → UpgradeState → Option UpgradeState
  | .daemon _, _, s => some s
  | .port o, r, s => portWrites d o r s

/-- The values that an event writes to the content type of the object. -/
def typeWrites (d : DrmObject) : Event upgradeSig → List ℕ
  | ⟨.daemon _, _⟩ => []
  | ⟨.port o, r⟩ => writes d .cpContentType o r

/-- The kernel takes no content type for the port. -/
def TypeRefused (d : DrmObject) (log : List (Event upgradeSig)) : Prop :=
  ∀ e ∈ log, typeWrites d e = []

/-- What an enable at level 1 has established: the app `b` holds the port, and the properties of
the object were set last to the content type 0 and to `CP_DESIRED`. -/
structure EnabledAt (p b : ℕ) (s : UpgradeState) : Prop where
  held : b ∈ (s.ports.objects p).appIds
  contentType : (s.written .cpContentType).head? = some cpType0
  contentProtection : (s.written .contentProtection).head? = some cpDesired

/-! ### What is written -/

section

variable {d : DrmObject} {α : Type} {p a b : ℕ} {s s' s'' : UpgradeState}

/-- The value that an upgrade writes to a property. -/
def upgradeValue : PropertyName → ℕ
  | .cpContentType => cpType1
  | _ => cpDesired

/-- The app holds the port, and only values of an upgrade were written. -/
structure Upgraded (p b : ℕ) (s s' : UpgradeState) : Prop where
  held : b ∈ (s'.ports.objects p).appIds
  written : ∀ name, ∃ values, s'.written name = values ++ s.written name ∧
    ∀ value ∈ values, value = upgradeValue name

lemma Upgraded.refl (h : b ∈ (s.ports.objects p).appIds) : Upgraded p b s s :=
  ⟨h, fun _ => ⟨[], rfl, by simp⟩⟩

lemma Upgraded.trans (h : Upgraded p b s s') (h' : Upgraded p b s' s'') :
    Upgraded p b s s'' := by
  refine ⟨h'.held, fun name => ?_⟩
  obtain ⟨values, heq, hvalues⟩ := h.written name
  obtain ⟨values', heq', hvalues'⟩ := h'.written name
  refine ⟨values' ++ values, by rw [heq', heq, List.append_assoc], fun value hvalue => ?_⟩
  exact (List.mem_append.1 hvalue).elim (hvalues' value) (hvalues value)

/-- The interactions that take no app from a port and set values of an upgrade. -/
def upgrading : PortOp → Bool
  | .removeRefAppId _ _ | .clearRefAppId _ => false
  | .drmModeConnectorSetProperty _ _ value => value = cpDesired
  | .utilSetContentProtection _ value => value = cpDesired
  | _ => true

/-- `CP_TYPE_1` and `CP_DESIRED` are the same number. -/
lemma upgradeValue_eq (name : PropertyName) : upgradeValue name = cpDesired := by
  cases name <;> rfl

lemma writes_of_upgrading {o : PortOp} {r : o.Ans} (ho : upgrading o = true)
    (name : PropertyName) : ∀ value ∈ writes d name o r, value = upgradeValue name := by
  have htaken (done isIt : Bool) (v : ℕ) (hv : v = cpDesired) :
      ∀ value ∈ writes.taken done isIt v, value = upgradeValue name := by
    intro value hvalue
    rw [writes.taken] at hvalue
    split at hvalue
    · rw [List.mem_singleton.1 hvalue, hv, upgradeValue_eq]
    · exact absurd hvalue List.not_mem_nil
  cases o
  case drmModeConnectorSetProperty => exact htaken _ _ _ (of_decide_eq_true ho)
  case utilSetContentProtection => exact htaken _ _ _ (of_decide_eq_true ho)
  all_goals exact fun value hvalue => absurd hvalue List.not_mem_nil

lemma held_of_upgrading {o : PortOp} {r : o.Ans} {t t' : PortState} (ho : upgrading o = true)
    (hstep : portStep .message o r t = some t') (hb : b ∈ (t.objects p).appIds) :
    b ∈ (t'.objects p).appIds := by
  by_cases happ : o.onAppIds = false
  · rw [Port.portStep_appIds happ hstep]
    exact hb
  · cases o
    case addRefAppId q a =>
      obtain rfl := Option.some.inj hstep
      exact PortState.mem_addRefAppId.2 (.inl hb)
    case getRefAppCount q =>
      obtain ⟨-, rfl⟩ := PortState.answer_eq_some.1 hstep
      exact hb
    all_goals first | exact absurd rfl happ | exact absurd ho Bool.false_ne_true

/-- Programs that only upgrade. -/
lemma ensures_upgrading {q : PortProg α} (hq : q.Uses fun o => upgrading o = true)
    (hb : b ∈ (s.ports.objects p).appIds) :
    Ensures (portWrites d) (fun _ => Upgraded p b s) q s := by
  induction q generalizing s with
  | ret a => exact .refl hb
  | call o k ih =>
      intro r s' hstep
      obtain ⟨t, ht, rfl⟩ := Option.map_eq_some_iff.1 hstep
      have hheld := held_of_upgrading hq.1 ht hb
      have hfirst : Upgraded p b s ⟨t, fun name => writes d name o r ++ s.written name⟩ :=
        ⟨hheld, fun name => ⟨_, rfl, writes_of_upgrading hq.1 name⟩⟩
      exact (ih r (hq.2 r) hheld).mono fun _ _ h => hfirst.trans h

lemma upgrading_of_aside {o : PortOp} (h : o.aside = true) : upgrading o = true := by
  cases o <;> first | rfl | exact absurd h (by simp [PortOp.aside])

lemma upgrading_of_onProtection {o : PortOp} (h : o.onProtection = true) :
    upgrading o = true := by
  cases o <;> first | rfl | exact absurd h (by simp [PortOp.onProtection])

variable {m : PortManager}

/-- `EnablePort` at level 2 sets the content type 1 and `CP_DESIRED`. -/
lemma uses_enablePort {portId : ℕ} :
    (m.enablePort portId a Port.hdcpLevel2).Uses fun o => upgrading o = true := by
  refine Port.uses_enablePort (fun _ h _ => upgrading_of_aside h)
    (fun _ => upgrading_of_onProtection) (fun _ => rfl) fun drmId propId value hvalue => ?_
  obtain rfl : value = cpDesired := hvalue.elim id id
  exact Port.uses_setPortProperty (fun _ => rfl) rfl (fun _ => rfl) rfl

/-- `DisablePort` for an app, while another one holds the port. -/
lemma ensures_disablePort {portId : ℕ} (hp : portId = p) (hab : b ≠ a)
    (hb : b ∈ (s.ports.objects p).appIds) :
    Ensures (portWrites d) (fun _ => Upgraded p b s) (m.disablePort portId a) s := by
  obtain rfl := hp
  rw [PortManager.disablePort]
  split
  · exact .refl hb
  · rename_i d' hd'
    obtain rfl := m.portId_of_getDrmObjectByPortId hd'
    refine Ensures.op_bind fun (connection : ℕ) s₁ h₁ => ?_
    obtain ⟨t₁, ht₁, rfl⟩ := Option.map_eq_some_iff.1 h₁
    obtain ⟨-, rfl⟩ := PortState.answer_eq_some.1 ht₁
    refine Ensures.ite (fun _ => .refl hb) fun _ => ?_
    refine Ensures.op_bind fun _ s₂ h₂ => ?_
    obtain ⟨t₂, ht₂, rfl⟩ := Option.map_eq_some_iff.1 h₂
    obtain rfl := Option.some.inj ht₂
    have hb₂ : b ∈ ((s.ports.modify d'.portId fun x => x.removeRefAppId a).objects
        d'.portId).appIds := PortState.mem_removeRefAppId.2 ⟨hb, fun h => hab h.2⟩
    refine Ensures.op_bind fun (count : ℕ) s₃ h₃ => ?_
    obtain ⟨t₃, ht₃, rfl⟩ := Option.map_eq_some_iff.1 h₃
    obtain ⟨rfl, rfl⟩ := PortState.answer_eq_some.1 ht₃
    -- the other app is still counted
    refine Ensures.ite (fun _ => ⟨hb₂, fun _ => ⟨[], rfl, by simp⟩⟩) fun hzero => ?_
    exact absurd (List.length_pos_of_mem hb₂) hzero

/-- A program of the port manager is executed as such. -/
lemma ensures_inPort {Q : α → UpgradeState → Prop} {q : PortProg α}
    (h : Ensures (portWrites d) Q q s) : Ensures (upgradeStep d) Q (inPort q) s := by
  induction q generalizing s with
  | ret a => exact h
  | call o k ih => exact fun r s' hstep => ih r (h r s' hstep)

/-- A request of an app at level 2 or at level 0, as the daemon serves it. -/
lemma ensures_served {data : SocketData} (hp : data.singlePort.id.toNat = p)
    (hlevel : data.level = hdcpLevel2 ∨ data.level = hdcpLevel0) (hab : b ≠ a)
    (hb : b ∈ (s.ports.objects p).appIds) :
    Ensures (upgradeStep d) (fun _ => Upgraded p b s)
      ((HdcpDaemon.setProtectionLevel data a).subst (implement m)) s := by
  have hquiet (rsp : SocketData) : Ensures (upgradeStep d) (fun _ => Upgraded p b s)
      ((pure rsp : DaemonProg SocketData).subst (implement m)) s := Upgraded.refl hb
  -- whatever the port manager returns, the daemon only fills the response
  have hserved {q : DaemonProg Errno} {rsp rsp' : Errno → SocketData}
      (hq : Ensures (upgradeStep d) (fun _ => Upgraded p b s) (q.subst (implement m)) s) :
      Ensures (upgradeStep d) (fun _ => Upgraded p b s)
        ((q >>= fun sts => if sts ≠ .success then pure (rsp sts) else pure (rsp' sts)).subst
          (implement m)) s := by
    rw [Prog.subst_bind]
    refine hq.bind fun sts s' h => ?_
    split <;> exact h
  have hop (o : DaemonOp)
      (h : Ensures (upgradeStep d) (fun _ => Upgraded p b s) (implement m o) s) :
      Ensures (upgradeStep d) (fun _ => Upgraded p b s)
        ((op (S := daemonSig) o).subst (implement m)) s := by
    rw [Prog.subst_op]
    exact h
  rw [HdcpDaemon.setProtectionLevel]
  split
  · exact hquiet _
  split
  · exact hquiet _
  split
  · rename_i hup
    refine hserved ?_
    have hlevel2 : data.level = hdcpLevel2 := by
      rcases hlevel with h | h
      · exact h
      · rw [h] at hup
        exact absurd hup (by decide)
    rw [hlevel2]
    exact hop (.portManagerEnablePort data.singlePort.id a hdcpLevel2)
      (ensures_inPort (ensures_upgrading uses_enablePort hb))
  split
  · refine hserved ?_
    exact hop (.portManagerDisablePort data.singlePort.id a)
      (ensures_inPort (ensures_disablePort hp hab hb))
  · exact hquiet _

/-- A transaction of the session at level 2 or at level 0. -/
lemma ensures_transact {L : Layout} {portId : UInt32} {level : UInt8} (hp : portId.toNat = p)
    (hlevel : level = hdcpLevel2 ∨ level = hdcpLevel0) (hab : b ≠ a)
    (hb : b ∈ (s.ports.objects p).appIds) :
    Ensures (upgradeStep d) (fun _ => Upgraded p b s)
      (transact m a (Session.levelRequest L portId level)) s := by
  have hid : (Session.levelRequest L portId level).singlePort.id = portId := by
    simp [Session.levelRequest, Session.portRequest, SocketData.singlePort,
      SocketData.setSinglePort]
  exact (ensures_served (by rw [hid, hp]) hlevel hab hb).bind fun _ _ h => h

/-- Both requests of the session leave the app at the port, and write values of an upgrade. -/
lemma ensures_upgrade {L : Layout} {portId : UInt32} (hp : portId.toNat = p) (hab : b ≠ a)
    (hb : b ∈ (s.ports.objects p).appIds) :
    Ensures (upgradeStep d) (fun _ => Upgraded p b s) (upgrade m L a portId) s := by
  refine (ensures_transact hp (.inl rfl) hab hb).bind fun _ s₁ h₁ => ?_
  refine Ensures.ite (fun _ => ?_) fun _ => h₁
  exact (ensures_transact hp (.inr rfl) hab h₁.held).bind fun _ _ h₂ => h₁.trans h₂

/-- The values that a log writes to the content type, and whether there are any. -/
lemma written_of_leads {log : List (Event upgradeSig)} (h : Leads (upgradeStep d) log s s') :
    ∃ values, s'.written .cpContentType = values ++ s.written .cpContentType ∧
      (values = [] ↔ TypeRefused d log) := by
  induction log generalizing s with
  | nil =>
      obtain rfl : s' = s := h
      exact ⟨[], rfl, by simp [TypeRefused]⟩
  | cons e log ih =>
      obtain ⟨s₁, hstep, hrest⟩ := h
      obtain ⟨values, heq, hvalues⟩ := ih hrest
      have hfirst : s₁.written .cpContentType =
          typeWrites d e ++ s.written .cpContentType := by
        obtain ⟨o, r⟩ := e
        cases o with
        | daemon o =>
            obtain rfl := Option.some.inj hstep
            rfl
        | port o =>
            obtain ⟨t, -, rfl⟩ := Option.map_eq_some_iff.1 hstep
            rfl
      refine ⟨values ++ typeWrites d e, by rw [heq, hfirst, List.append_assoc], ?_⟩
      rw [List.append_eq_nil_iff, hvalues, TypeRefused, TypeRefused, List.forall_mem_cons]
      exact and_comm

/-! ### The failed upgrade -/

/-- After an upgrade, and after what the session does when it fails, the port is as the other app
has enabled it exactly when the kernel has taken no content type. -/
theorem upgrade_undone_iff {L : Layout} {portId : UInt32} {ret : HdcpStatus}
    {log : List (Event upgradeSig)} (hab : b ≠ a) (hs : EnabledAt portId.toNat b s)
    (hruns : (upgrade m L a portId).Runs log ret) (hleads : Leads (upgradeStep d) log s s') :
    EnabledAt portId.toNat b s' ↔ TypeRefused d log := by
  have hup := (ensures_upgrade rfl hab hs.held).of_runs hruns hleads
  obtain ⟨values, heq, hvalues⟩ := written_of_leads hleads
  rw [← hvalues]
  constructor
  · intro hs'
    -- a value that was written is 1, and the last one is 0
    obtain ⟨values', heq', hone⟩ := hup.written .cpContentType
    obtain rfl : values' = values := List.append_cancel_right (heq'.symm.trans heq)
    have hlast := hs'.contentType
    rw [heq] at hlast
    cases values' with
    | nil => rfl
    | cons value rest =>
        have hvalue := hone value List.mem_cons_self
        rw [List.cons_append, List.head?_cons, hvalue] at hlast
        exact absurd (Option.some.inj hlast) (by decide)
  · rintro rfl
    refine ⟨hup.held, by rw [heq]; exact hs.contentType, ?_⟩
    obtain ⟨values, heq, hone⟩ := hup.written .contentProtection
    rw [heq]
    cases values with
    | nil => exact hs.contentProtection
    | cons value rest =>
        rw [List.cons_append, List.head?_cons, hone value List.mem_cons_self]
        rfl

end

/-! ### Runs that show what happens -/

/-- The app 8 holds the port 0 at type 0. -/
def heldByOther : UpgradeState where
  ports := { Port.initState with objects := fun _ => ⟨Port.drmModeConnected, cpType0, [8]⟩ }
  written
    | .cpContentType => [cpType0]
    | .contentProtection => [cpDesired]
    | .cpDownstreamInfo => []

/-- The object of the port 0. -/
def portZero : DrmObject := (Port.onePort false).drmObjects.head (List.cons_ne_nil _ _)

/-- The request of the app 7 for the level 0, in which the app 8 is counted. -/
def levelZero : List (Event upgradeSig) :=
  [⟨.port (.getConnection 0), Port.drmModeConnected⟩, ⟨.port (.removeRefAppId 0 7), ()⟩,
    ⟨.port (.getRefAppCount 0), (1 : ℕ)⟩]

/-- The kernel does not make the daemon the master. -/
def noMaster : List (Event upgradeSig) :=
  [⟨.port (.getConnection 0), Port.drmModeConnected⟩, ⟨.port (.getCpType 0), cpType0⟩,
    ⟨.port .drmSetMaster, false⟩] ++ levelZero

theorem upgrade_undone_noMaster :
    ∃ s', Leads (upgradeStep portZero) noMaster heldByOther s' ∧
      (EnabledAt (0 : UInt32).toNat 8 s' ↔ TypeRefused portZero noMaster) := by
  have hs : EnabledAt (0 : UInt32).toNat 8 heldByOther := ⟨by decide, rfl, rfl⟩
  have hruns : (upgrade (Port.onePort false) socketDataLayout 7 0).Runs noMaster
      HdcpStatus.errorInternal := by
    repeat refine .call _ _ _ ?_
    exact .ret _
  have hleads : ∃ s', Leads (upgradeStep portZero) noMaster heldByOther s' :=
    ⟨_, Prog.leads_iff_follow.2 (Option.some_get (by decide +kernel)).symm⟩
  obtain ⟨s', hleads⟩ := hleads
  exact ⟨s', hleads, upgrade_undone_iff (by decide) hs hruns hleads⟩

/-- The port cannot be protected at type 1: the kernel takes the content type, but the port is
not enabled. -/
def notEnabled : List (Event upgradeSig) :=
  [⟨.port (.getConnection 0), Port.drmModeConnected⟩, ⟨.port (.getCpType 0), cpType0⟩,
    ⟨.port .drmSetMaster, true⟩, ⟨.port (.drmModeConnectorSetProperty 77 102 cpType1), true⟩,
    ⟨.port .drmDropMaster, true⟩, ⟨.port .drmSetMaster, true⟩,
    ⟨.port (.drmModeConnectorSetProperty 77 101 cpDesired), true⟩,
    ⟨.port .drmDropMaster, true⟩, ⟨.port .sleep, ()⟩, ⟨.port (.cpTypeAtomicBegin 0), ()⟩,
    ⟨.port (.drmModeObjectGetProperties 77), some [(101, cpDesired), (102, cpType1)]⟩,
    ⟨.port (.cpTypeAtomicEnd 0), ()⟩] ++ levelZero

/-- After the error and the request for the level 0, the content type of the port is 1. -/
theorem content_type_left :
    ∃ s', EnabledAt (0 : UInt32).toNat 8 heldByOther ∧
      (upgrade (Port.onePort false) socketDataLayout 7 0).Runs notEnabled
        HdcpStatus.errorInternal ∧
      Leads (upgradeStep portZero) notEnabled heldByOther s' ∧
      s'.written .cpContentType = [cpType1, cpType0] ∧
      ¬EnabledAt (0 : UInt32).toNat 8 s' := by
  have hruns : (upgrade (Port.onePort false) socketDataLayout 7 0).Runs notEnabled
      HdcpStatus.errorInternal := by
    repeat refine .call _ _ _ ?_
    exact .ret _
  refine ⟨_, ⟨by decide, rfl, rfl⟩, hruns,
    Prog.leads_iff_follow.2 (Option.some_get (by decide +kernel)).symm, by decide +kernel, ?_⟩
  intro h
  exact absurd h.contentType (by decide +kernel)

end Hdcp.Upgrade
