/-
No app switches off the protection of another app.

An app is active on a port from a successful `EnablePort` until it begins to disable
the port or to exit.  In the runs considered here an active app is recorded as a
holder exactly once, and `CP_OFF` is written to the port only in a call of the active
app itself.

There is one way in which the daemon breaks this.  With IAS, `SetPortProperty` drops
the id of the property and calls `util_set_content_protection` with the value, so that
the content type 0 is written as `CP_OFF`.  `EnablePort` does so at level 1 for a port
whose cached type is invalid, which a port with an active app has after a lost link.
The condition on the steps excludes it and nothing else.
-/
import Hdcp.Port.Release

namespace Hdcp.Port

open Library
open Library.Prog (op forEach)

/-! ### The history -/

/-- The app `b` begins to take back what it has enabled on the port `p`. -/
def releaseBegins (p b : ℕ) : PortLabel → Bool
  | .call .message c => c.releases p b
  | _ => false

/-- The app `b` has enabled the port `p` and not begun to release it. -/
def active (p b : ℕ) : PortTrace → Bool := since (enableSucceeds p b) (releaseBegins p b)

/-- The app on whose behalf a call is made. -/
def PortCall.app : PortCall → Option ℕ
  | .enablePort _ a _ | .disablePort _ a | .removeAppFromPorts a => some a
  | _ => none

/-- The interaction writes `CP_OFF` to the content protection of the port `p`. -/
def PortManager.writesCpOff (m : PortManager) (p : ℕ) : PortOp → Prop
  | .drmModeConnectorSetProperty drmId propId value =>
    value = cpOff ∧ ∃ d ∈ m.drmObjects, d.portId = p ∧ d.drmId = drmId ∧
      d.getPropertyId .contentProtection = propId
  | .utilSetContentProtection drmId value =>
    value = cpOff ∧ ∃ d ∈ m.drmObjects, d.portId = p ∧ d.drmId = drmId
  | _ => False

/-- `CP_OFF` is written on behalf of every app that is active on the port. -/
def OffByOwner (m : PortManager) : PortLabel → PortTrace → Prop
  | .op _ c e, tr => ∀ p b, m.writesCpOff p e.op → active p b tr → c.app = some b
  | _, _ => True

/-- `EnablePort`, which is going to set the content type, does not set the content type
0 with IAS while another app is active. -/
def TypeNotTakenAsOff (m : PortManager) (p a : ℕ) (level : UInt8) (currCpType : ℕ)
    (tr : PortTrace) : Prop :=
  m.ias = true → (∃ d, m.getDrmObjectByPortId p = some d ∧ d.type1Capable = true) →
    level = hdcpLevel1 → currCpType = cpTypeInvalid → ∀ b, active p b tr → b = a

/-- The condition on the steps of a run. -/
def isolationCondition (m : PortManager) : PortTrace → PortState → PortLabel → Prop
  | tr, _, .op _ (.enablePort p a level) ⟨.getCpType _, currCpType⟩ =>
    TypeNotTakenAsOff m p a level currCpType tr
  | _, _, _ => True

/-! ### The protocol -/

structure IsolationInv (m : PortManager) (tr : PortTrace) (s : PortState) : Prop where
  nodup : ∀ p, (s.objects p).appIds.Nodup
  held : ∀ p b, active p b tr → b ∈ (s.objects p).appIds
  off : EveryStep (OffByOwner m) tr

/-- What the other threads leave alone. -/
structure SameActive (tr : PortTrace) (s : PortState) (tr' : PortTrace) (s' : PortState) :
    Prop where
  appIds : ∀ p, (s'.objects p).appIds = (s.objects p).appIds
  active : ∀ p b, active p b tr' = active p b tr

lemma SameActive.trans {tr tr' tr'' : PortTrace} {s s' s'' : PortState}
    (h : SameActive tr s tr' s') (h' : SameActive tr' s' tr'' s'') :
    SameActive tr s tr'' s'' where
  appIds p := (h'.appIds p).trans (h.appIds p)
  active p b := (h'.active p b).trans (h.active p b)

def isolationProtocol (m : PortManager) :
    Protocol portSig Thread PortCall Errno PortState where
  admits := isolationCondition m
  inv := IsolationInv m
  rely i tr s tr' s' := i = .message → SameActive tr s tr' s'
  refl _ _ _ _ := ⟨fun _ => rfl, fun _ _ => rfl⟩
  trans h h' hi := (h hi).trans (h' hi)

variable {m : PortManager} {tr tr' : PortTrace} {s s' : PortState} {i : Thread} {c : PortCall}
  {o : PortOp} {r : o.Ans} {p a : ℕ}

/-- Interactions that concern no holder, and write `CP_OFF` at most for all active apps. -/
def Harmless (m : PortManager) (c : PortCall) (tr : PortTrace) (o : PortOp) : Prop :=
  o.onAppIds = false ∧ ∀ p b, m.writesCpOff p o → active p b tr → c.app = some b

lemma harmless_of_aside (h : o.aside = true) : Harmless m c tr o := by
  refine ⟨onAppIds_of_aside h, fun p b hoff => ?_⟩
  cases o
  case drmModeConnectorSetProperty => exact absurd h (by simp [PortOp.aside])
  case utilSetContentProtection => exact absurd h (by simp [PortOp.aside])
  all_goals exact absurd hoff id

lemma harmless_of_onProtection (h : o.onProtection = true) : Harmless m c tr o := by
  refine ⟨onAppIds_of_onProtection h, fun p b hoff => ?_⟩
  cases o
  case drmModeConnectorSetProperty => exact absurd h (by simp [PortOp.onProtection])
  case utilSetContentProtection => exact absurd h (by simp [PortOp.onProtection])
  all_goals exact absurd hoff id

lemma harmless_drmMaster : Harmless m c tr .drmSetMaster ∧ Harmless m c tr .drmDropMaster :=
  ⟨⟨rfl, fun _ _ hoff => absurd hoff id⟩, ⟨rfl, fun _ _ hoff => absurd hoff id⟩⟩

lemma IsolationInv.keeps (ho : Harmless m c tr o) (hinv : IsolationInv m tr s)
    (hstep : portStep i o r s = some s') :
    (isolationProtocol m).Keeps i tr s (.op i c ⟨o, r⟩) s' ∧
      (isolationProtocol m).rely i tr s (.op i c ⟨o, r⟩ :: tr) s' := by
  have hsame : SameActive tr s (.op i c ⟨o, r⟩ :: tr) s' :=
    ⟨portStep_appIds ho.1 hstep, fun _ _ => rfl⟩
  have hinv' : IsolationInv m (.op i c ⟨o, r⟩ :: tr) s' := by
    refine ⟨fun p => ?_, fun p b hb => ?_, ho.2, hinv.off⟩
    · rw [hsame.appIds]
      exact hinv.nodup p
    · rw [hsame.appIds]
      exact hinv.held p b hb
  exact ⟨⟨hinv', fun _ _ _ => hsame⟩, fun _ => hsame⟩

/-- Only the message thread is concerned by its own steps. -/
lemma IsolationInv.keepsMessage {l : PortLabel} (h : IsolationInv m (l :: tr) s') :
    (isolationProtocol m).Keeps .message tr s l s' :=
  ⟨h, fun _ hj hj' => absurd hj' hj⟩

namespace Isolation

/-! ### The message thread -/

section Message

variable {α β : Type} {Q : β → PortTrace → PortState → Prop}

lemma sat_harmless {q : PortProg α} (hq : q.Uses (Harmless m c tr)) :
    (isolationProtocol m).Sat (portSystem m) .message c
      (fun _ tr' s' => SameActive tr s tr' s') q tr s := by
  have hsat : (isolationProtocol m).Sat (portSystem m) .message c
      (fun _ tr' s' => (isolationProtocol m).rely .message tr s tr' s') q tr s := by
    refine Protocol.sat_of_uses (fun o r tr' s' s'' ho hrely hinv hstep _ => ?_) hq
    refine IsolationInv.keeps ⟨ho.1, fun p b hoff hb => ?_⟩ hinv hstep
    rw [(hrely rfl).active] at hb
    exact ho.2 p b hoff hb
  exact hsat.mono fun _ _ _ _ hrely => hrely rfl

lemma sat_harmless_bind {q : PortProg α} {f : α → PortProg β}
    (hq : q.Uses (Harmless m c tr))
    (hf : ∀ x tr' s', SameActive tr s tr' s' →
      (isolationProtocol m).Sat (portSystem m) .message c Q (f x) tr' s') :
    (isolationProtocol m).Sat (portSystem m) .message c Q (q >>= f) tr s :=
  (sat_harmless hq).bind fun x tr' s' _ hsame => hf x tr' s' hsame

/-- `AddRefAppId` makes the app a holder. -/
lemma sat_addRefAppId {f : Unit → PortProg β}
    (hf : ∀ tr' s', a ∈ (s'.objects p).appIds →
      (isolationProtocol m).Sat (portSystem m) .message c Q (f ()) tr' s') :
    (isolationProtocol m).Sat (portSystem m) .message c Q (addRefAppId p a >>= f) tr s := by
  intro tr' s' _ hinv r s'' hstep _
  obtain rfl := (Option.some.inj hstep).symm
  refine ⟨IsolationInv.keepsMessage ⟨fun q => ?_, fun q b hb => ?_, ?_, hinv.off⟩, ?_⟩
  · exact PortState.nodup_addRefAppId (hinv.nodup q)
  · exact PortState.mem_addRefAppId.2 (.inl (hinv.held q b hb))
  · exact fun _ _ hoff => absurd hoff id
  · exact hf _ _ (PortState.mem_addRefAppId.2 (.inr ⟨rfl, rfl⟩))

/-- A call may return when a successful enable has made its app a holder. -/
lemma inv_returned {x : Errno} (hinv : IsolationInv m tr s)
    (h : ∀ p b, enableSucceeds p b (.ret .message c x) → b ∈ (s.objects p).appIds) :
    IsolationInv m (.ret .message c x :: tr) s := by
  refine ⟨hinv.nodup, fun p b hb => ?_, trivial, hinv.off⟩
  rw [active, since_cons, Bool.or_eq_true] at hb
  rcases hb with hon | hb
  · exact h p b hon
  · exact hinv.held p b hb

lemma sat_ret_enablePort {x : Errno} {level : UInt8} (hc : c = .enablePort p a level)
    (h : x = .success → a ∈ (s.objects p).appIds) :
    (isolationProtocol m).Sat (portSystem m) .message c
      ((isolationProtocol m).Returned .message c) (.ret x) tr s := by
  intro tr' s' hrely hinv _
  refine IsolationInv.keepsMessage (inv_returned hinv fun q b hon => ?_)
  subst hc
  cases x
  case success =>
    simp only [enableSucceeds, Bool.decide_and, Bool.and_eq_true, decide_eq_true_eq] at hon
    obtain ⟨rfl, rfl⟩ := hon
    rw [(hrely rfl).appIds]
    exact h rfl
  all_goals exact absurd hon (by simp [enableSucceeds])

lemma sat_checkEnabled {d : DrmObject} {level : UInt8}
    (hc : c = .enablePort d.portId a level) :
    (isolationProtocol m).Sat (portSystem m) .message c
      ((isolationProtocol m).Returned .message c) (checkEnabled d a) tr s := by
  rw [checkEnabled]
  refine sat_harmless_bind (Prog.uses_op.2 (harmless_of_onProtection rfl)) fun _ tr s _ => ?_
  refine sat_harmless_bind (uses_getProtectionInfo (harmless_of_onProtection rfl))
    fun info tr s _ => ?_
  have hbusy : (isolationProtocol m).Sat (portSystem m) .message c
      ((isolationProtocol m).Returned .message c)
      (cpTypeAtomicEnd d.portId >>= fun _ => Prog.ret Errno.ebusy) tr s := by
    refine sat_harmless_bind (Prog.uses_op.2 (harmless_of_onProtection rfl)) fun _ tr s _ => ?_
    exact sat_ret_enablePort hc fun h => absurd h (by decide)
  cases info with
  | none => exact hbusy
  | some info =>
      refine Protocol.Sat.ite (fun _ => hbusy) fun _ => ?_
      refine sat_harmless_bind (Prog.uses_op.2 (harmless_of_onProtection rfl)) fun _ tr s _ => ?_
      refine sat_addRefAppId fun tr s h => ?_
      refine sat_harmless_bind (Prog.uses_op.2 (harmless_of_onProtection rfl))
        fun _ tr s hsame => ?_
      refine sat_ret_enablePort hc fun _ => ?_
      rw [hsame.appIds]
      exact h

end Message

/-! ### Writes of properties -/

/-- `CP_OFF` is the content type of level 1 only. -/
lemma eq_hdcpLevel1 {level : UInt8} (h : levelCpType level = cpOff) : level = hdcpLevel1 := by
  rw [levelCpType] at h
  split at h
  case isTrue hlevel => exact hlevel
  case isFalse =>
    split at h
    · exact absurd h (by decide)
    · exact absurd h (by decide)

/-- A byte that is not `CP_OFF` may be written at any time. -/
lemma harmless_setPortProperty {drmId propId value numRetry : ℕ}
    (h : value = cpOff → ∀ d ∈ m.drmObjects, d.drmId = drmId →
      (m.ias = false → d.getPropertyId .contentProtection = propId) →
        ∀ b, active d.portId b tr → c.app = some b) :
    (m.setPortProperty drmId propId 1 value numRetry).Uses (Harmless m c tr) := by
  refine uses_setPortProperty (fun hias => ⟨rfl, ?_⟩) harmless_drmMaster.1
    (fun hias => ⟨rfl, ?_⟩) harmless_drmMaster.2
  · rintro p b ⟨hvalue, d, hd, rfl, hdrm⟩ hb
    refine h hvalue d hd hdrm (fun hno => ?_) b hb
    rw [hias] at hno
    exact absurd hno (by decide)
  · rintro p b ⟨hvalue, d, hd, rfl, hdrm, hprop⟩ hb
    exact h hvalue d hd hdrm (fun _ => hprop) b hb

/-- The write of the content type by `EnablePort`, under the condition. -/
lemma uses_setContentType {d : DrmObject} {level : UInt8} {currCpType : ℕ}
    (hd : m.getDrmObjectByPortId d.portId = some d) (hc : c = .enablePort d.portId a level)
    (h : TypeNotTakenAsOff m d.portId a level currCpType tr)
    (hcurr : ¬(currCpType ≠ cpTypeInvalid ∧ levelPred level ≤ currCpType)) :
    (m.setContentType d level).Uses (Harmless m c tr) := by
  refine Prog.Uses.ite (fun hcap => ?_) fun _ => trivial
  refine harmless_setPortProperty fun hvalue d' hd' hdrm hprop b hb => ?_
  obtain rfl := m.eq_of_drmId_eq hd' (m.mem_of_getDrmObjectByPortId hd) hdrm
  -- only IAS takes the content type for the protection, and only level 1 is `CP_OFF`
  cases hias : m.ias with
  | false => exact absurd (hprop hias).symm (d'.contentType_ne_contentProtection hcap)
  | true =>
      have hlevel : level = hdcpLevel1 := eq_hdcpLevel1 hvalue
      have hinvalid : currCpType = cpTypeInvalid := by
        by_contra hne
        exact hcurr ⟨hne, by rw [hlevel]; exact Nat.zero_le _⟩
      obtain rfl := h hias ⟨d', hd, hcap⟩ hlevel hinvalid b hb
      rw [hc]
      rfl

/-- `GetCpType` of an enable, with what the condition says about it. -/
lemma sat_getCpType {β : Type} {Q : β → PortTrace → PortState → Prop} {f : ℕ → PortProg β}
    {level : UInt8} (hc : c = .enablePort p a level)
    (hf : ∀ currCpType tr' s', TypeNotTakenAsOff m p a level currCpType tr' →
      (isolationProtocol m).Sat (portSystem m) .message c Q (f currCpType) tr' s') :
    (isolationProtocol m).Sat (portSystem m) .message c Q (getCpType p >>= f) tr s := by
  subst hc
  intro tr' s' _ hinv currCpType s'' hstep hadm
  obtain ⟨hkeeps, -⟩ :=
    IsolationInv.keeps (o := .getCpType p) (harmless_of_onProtection rfl) hinv hstep
  refine ⟨hkeeps, hf _ _ _ ?_⟩
  exact hadm

lemma sat_enablePort {level : UInt8} (hc : c = .enablePort p a level) :
    (isolationProtocol m).Sat (portSystem m) .message c
      ((isolationProtocol m).Returned .message c) (m.enablePort p a level) tr s := by
  have hret {tr : PortTrace} {s : PortState} (x : Errno) (hx : x ≠ .success) :
      (isolationProtocol m).Sat (portSystem m) .message c
        ((isolationProtocol m).Returned .message c) (.ret x) tr s :=
    sat_ret_enablePort hc fun h => absurd h hx
  rw [PortManager.enablePort]
  split
  · exact hret _ (by decide)
  · rename_i d hd
    obtain rfl := m.portId_of_getDrmObjectByPortId hd
    refine sat_harmless_bind (Prog.uses_op.2 (harmless_of_aside rfl)) fun connection tr s _ => ?_
    refine Protocol.Sat.ite (fun _ => hret _ (by decide)) fun _ => ?_
    refine Protocol.Sat.ite (fun _ => hret _ (by decide)) fun _ => ?_
    refine sat_getCpType hc fun currCpType tr s hcond => ?_
    refine Protocol.Sat.ite (fun _ => ?_) fun hcurr => ?_
    -- the port is already enabled
    · exact sat_addRefAppId fun tr s h => sat_ret_enablePort hc fun _ => h
    · refine sat_harmless_bind (uses_setContentType hd hc hcond hcurr) fun ret tr s _ => ?_
      refine Protocol.Sat.ite (fun _ => hret _ (by decide)) fun _ => ?_
      refine sat_harmless_bind (harmless_setPortProperty fun h => absurd h (by decide))
        fun ret tr s _ => ?_
      refine Protocol.Sat.ite (fun _ => hret _ (by decide)) fun _ => ?_
      refine sat_harmless_bind (Prog.uses_op.2 (harmless_of_aside rfl)) fun _ tr s _ => ?_
      exact sat_checkEnabled hc

/-- `RemoveRefAppId`, for an app that is not active on the port any more. -/
lemma sat_removeRefAppId {β : Type} {Q : β → PortTrace → PortState → Prop}
    {f : Unit → PortProg β} (h : active p a tr = false)
    (hf : ∀ tr' s', (∀ q b, active q b tr' = active q b tr) →
      (isolationProtocol m).Sat (portSystem m) .message c Q (f ()) tr' s') :
    (isolationProtocol m).Sat (portSystem m) .message c Q (removeRefAppId p a >>= f) tr s := by
  intro tr' s' hrely hinv r s'' hstep _
  obtain rfl := (Option.some.inj hstep).symm
  refine ⟨IsolationInv.keepsMessage ⟨fun q => ?_, fun q b hb => ?_, ?_, hinv.off⟩, ?_⟩
  · exact PortState.nodup_removeRefAppId (hinv.nodup q)
  · refine PortState.mem_removeRefAppId.2 ⟨hinv.held q b hb, ?_⟩
    rintro ⟨rfl, rfl⟩
    have hb' : active q b tr' = true := hb
    rw [(hrely rfl).active, h] at hb'
    exact absurd hb' (by decide)
  · exact fun _ _ hoff => absurd hoff id
  · exact hf _ _ fun q b => (hrely rfl).active q b

/-- `GetRefAppCount`: a port without references has no active app. -/
lemma sat_getRefAppCount {β : Type} {Q : β → PortTrace → PortState → Prop}
    {f : ℕ → PortProg β}
    (hf : ∀ count tr' s', (∀ q b, active q b tr' = active q b tr) →
      (count = 0 → ∀ b, active p b tr' = false) →
      (isolationProtocol m).Sat (portSystem m) .message c Q (f count) tr' s') :
    (isolationProtocol m).Sat (portSystem m) .message c Q (getRefAppCount p >>= f) tr s := by
  intro tr' s' hrely hinv count s'' hstep _
  obtain ⟨hcount, rfl⟩ := PortState.answer_eq_some.1 hstep
  refine ⟨IsolationInv.keepsMessage ⟨hinv.nodup, hinv.held, ?_, hinv.off⟩, ?_⟩
  · exact fun _ _ hoff => absurd hoff id
  · refine hf count _ _ (fun q b => (hrely rfl).active q b) fun hzero b => ?_
    rw [hzero] at hcount
    have hnil : (s''.objects p).appIds = [] := List.length_eq_zero_iff.1 hcount.symm
    cases hb : active p b tr' with
    | false => exact hb
    | true =>
        have hmem := hinv.held p b hb
        rw [hnil] at hmem
        exact absurd hmem List.not_mem_nil

/-- `DisablePort`, called directly or for an app that exits, writes `CP_OFF` only to a port
without an active app. -/
lemma sat_disablePort (h : active p a tr = false) :
    (isolationProtocol m).Sat (portSystem m) .message c
      (fun _ tr' _ => ∀ q b, active q b tr' = active q b tr) (m.disablePort p a) tr s := by
  have hret {tr tr₁ : PortTrace} {s : PortState} {x : Errno}
      (h₁ : ∀ q b, active q b tr₁ = active q b tr) :
      (isolationProtocol m).Sat (portSystem m) .message c
        (fun _ tr' _ => ∀ q b, active q b tr' = active q b tr) (.ret x) tr₁ s :=
    fun tr' s' hrely _ q b => ((hrely rfl).active q b).trans (h₁ q b)
  rw [PortManager.disablePort]
  split
  · exact hret fun _ _ => rfl
  · rename_i d hd
    obtain rfl := m.portId_of_getDrmObjectByPortId hd
    refine sat_harmless_bind (Prog.uses_op.2 (harmless_of_aside rfl))
      fun connection tr₁ s₁ h₁ => ?_
    refine Protocol.Sat.ite (fun _ => hret h₁.active) fun _ => ?_
    refine sat_removeRefAppId (by rw [h₁.active]; exact h) fun tr₂ s₂ h₂ => ?_
    have h₂ := fun q b => (h₂ q b).trans (h₁.active q b)
    refine sat_getRefAppCount fun count tr₃ s₃ h₃ hcount => ?_
    have h₃ := fun q b => (h₃ q b).trans (h₂ q b)
    refine Protocol.Sat.ite (fun _ => hret h₃) fun hzero => ?_
    have hnone := hcount (by omega)
    refine sat_harmless_bind (harmless_setPortProperty fun _ d' hd' hdrm _ b hb => ?_)
      fun ret tr₄ s₄ h₄ => ?_
    · obtain rfl := m.eq_of_drmId_eq hd' (m.mem_of_getDrmObjectByPortId hd) hdrm
      rw [hnone b] at hb
      exact absurd hb (by decide)
    · have h₄ := fun q b => (h₄.active q b).trans (h₃ q b)
      refine Protocol.Sat.ite (fun _ => hret h₄) fun _ => ?_
      have hchecked : (checkDisabled d).Uses (Harmless m c tr₄) :=
        uses_checkDisabled (harmless_of_onProtection rfl) (harmless_of_onProtection rfl)
          (harmless_of_onProtection rfl) (harmless_of_onProtection rfl)
      refine (sat_harmless hchecked).mono ?_
      exact fun _ tr₅ s₅ _ h₅ q b => (h₅.active q b).trans (h₄ q b)

lemma sat_removeLoop (drmObjects : List DrmObject) (h : ∀ p, active p a tr = false) :
    (isolationProtocol m).Sat (portSystem m) .message c
      (fun _ _ _ => True) (m.removeLoop a drmObjects) tr s := by
  induction drmObjects generalizing tr s with
  | nil => exact fun _ _ _ _ => trivial
  | cons d drmObjects ih =>
      refine (sat_disablePort (h d.portId)).bind fun _ tr₁ s₁ _ h₁ => ?_
      exact ih fun p => (h₁ p a).trans (h p)

/-! ### Runs -/

/-- When a call begins, its app stops to be active where the call releases. -/
lemma active_call : active p a (.call .message c :: tr) = (!c.releases p a && active p a tr) :=
  rfl

lemma sat_message (hmay : portMay .message c = true) :
    (isolationProtocol m).Sat (portSystem m) .message c
      ((isolationProtocol m).Returned .message c) (m.callBody c) (.call .message c :: tr) s := by
  have hret {x : Errno} {tr : PortTrace} {s : PortState} (hinv : IsolationInv m tr s)
      (hc : ∀ p b, enableSucceeds p b (.ret .message c x) = false) :
      (isolationProtocol m).Returned .message c x tr s := by
    refine fun _ => IsolationInv.keepsMessage (inv_returned hinv fun p b hon => ?_)
    rw [hc] at hon
    exact absurd hon (by decide)
  cases c with
  | enumeratePorts =>
      refine (sat_harmless (uses_enumeratePorts fun o => harmless_of_aside)).mono ?_
      exact fun _ tr s hinv _ => hret hinv fun _ _ => rfl
  | enablePort p a level => exact sat_enablePort rfl
  | disablePort p a =>
      have hstart : active p a (.call .message (.disablePort p a) :: tr) = false := by
        simp [active_call, PortCall.releases]
      refine (sat_disablePort hstart).mono ?_
      exact fun _ tr s hinv _ => hret hinv fun _ _ => rfl
  | removeAppFromPorts a =>
      have hstart : ∀ p, active p a (.call .message (.removeAppFromPorts a) :: tr) = false := by
        intro p
        simp [active_call, PortCall.releases]
      refine (sat_removeLoop m.drmObjects hstart).mono ?_
      exact fun _ tr s hinv _ => hret hinv fun _ _ => rfl
  | getStatus p =>
      refine (sat_harmless (uses_getStatus (fun o ho _ => harmless_of_aside ho)
        fun _ => harmless_of_onProtection rfl)).mono ?_
      exact fun _ tr s hinv _ => hret hinv fun _ _ => rfl
  | processHotPlug => exact absurd hmay (by decide)
  | checkIntegrity => exact absurd hmay (by decide)

/-- The call and the return of another thread change nothing. -/
lemma keeps_other {l : PortLabel} (hi : i ≠ .message)
    (hl : l = .call i c ∨ ∃ x, l = .ret i c x) (hinv : IsolationInv m tr s) :
    (isolationProtocol m).Keeps i tr s l s := by
  have hsame : SameActive tr s (l :: tr) s := by
    refine ⟨fun _ => rfl, fun _ _ => ?_⟩
    rcases hl with rfl | ⟨x, rfl⟩
    · cases i <;> first | rfl | exact absurd rfl hi
    · cases i <;> first | rfl | exact absurd rfl hi
  have hoff : OffByOwner m l tr := by
    rcases hl with rfl | ⟨x, rfl⟩
    · trivial
    · trivial
  refine ⟨⟨hinv.nodup, fun p b hb => ?_, hoff, hinv.off⟩, fun _ _ _ => hsame⟩
  rw [hsame.active] at hb
  exact hinv.held p b hb

lemma sat_other (hi : i ≠ .message)
    (hc : (m.callBody c).Uses fun o : PortOp => ∀ tr, Harmless m c tr o) :
    (isolationProtocol m).Sat (portSystem m) i c ((isolationProtocol m).Returned i c)
      (m.callBody c) tr s := by
  refine (Protocol.sat_of_uses (A := fun o : PortOp => ∀ tr, Harmless m c tr o)
    (fun o r tr' s' s'' ho _ hinv hstep _ => IsolationInv.keeps (ho tr') hinv hstep) hc).mono ?_
  exact fun x tr s hinv _ _ => keeps_other hi (.inr ⟨x, rfl⟩) hinv

lemma inv_of_run {cfg : PortConfig}
    (hrun : (portSystem m).Run (isolationCondition m) initState tr cfg) :
    IsolationInv m tr cfg.shared := by
  refine (Protocol.sound (P := isolationProtocol m) ?_ ?_ hrun).1
  · exact ⟨fun _ => List.nodup_nil, fun _ _ hb => absurd hb Bool.false_ne_true, trivial⟩
  · intro i c tr s hmay _ hinv _
    cases i with
    | message =>
        refine ⟨IsolationInv.keepsMessage ⟨hinv.nodup, fun p b hb => ?_, trivial, hinv.off⟩, ?_⟩
        · rw [active_call, Bool.and_eq_true] at hb
          exact hinv.held p b hb.2
        · exact sat_message hmay
    | integrity =>
        obtain rfl := eq_checkIntegrity hmay
        refine ⟨keeps_other (by decide) (.inl rfl) hinv, sat_other (by decide) ?_⟩
        exact uses_checkIntegrity (fun o ho _ _ => harmless_of_aside ho)
          fun o ho _ _ => harmless_of_onProtection ho
    | uevent =>
        obtain rfl := eq_processHotPlug hmay
        refine ⟨keeps_other (by decide) (.inl rfl) hinv, sat_other (by decide) ?_⟩
        exact uses_processHotPlug fun o ho _ => harmless_of_aside ho

end Isolation

/-! ### The protection of an active app -/

/-- An active app is recorded as a holder exactly once, and only its own calls write
`CP_OFF` to its port. -/
structure AppsIsolated (m : PortManager) (tr : PortTrace) (s : PortState) : Prop where
  held : ∀ p b, active p b tr → (s.objects p).appIds.count b = 1
  off : ∀ l tr', l :: tr' <:+ tr → OffByOwner m l tr'

/-- In every run in which, with IAS, no `EnablePort` at level 1 goes on to set the content
type of a port with an invalid `m_CpType` on which another app is active, the apps are
isolated from each other. -/
theorem apps_isolated {cfg : PortConfig}
    (hrun : (portSystem m).Run (isolationCondition m) initState tr cfg) :
    AppsIsolated m tr cfg.shared := by
  have hinv := Isolation.inv_of_run hrun
  refine ⟨fun p b hb => ?_, fun l tr' hsuffix => hinv.off.of_suffix hsuffix⟩
  exact List.count_eq_one_of_mem (hinv.nodup p) (hinv.held p b hb)

/-- What a port that is protected at type 0 reads back as. -/
def readsEnabled : (o : PortOp) → PortState → o.Ans :=
  portAnswer (some drmModeConnected) (some [(101, cpEnabled), (102, cpType0)])

/-- Without IAS, the app 7 disables the port 0 that the app 8 has enabled. -/
def disableOfOther : List PortAction :=
  completeCall .message (.enablePort 0 8 hdcpLevel1) 14 readsEnabled ++
    completeCall .message (.disablePort 0 7) 3 readsEnabled

theorem apps_isolated_disableOfOther :
    ∃ x, (onePort false).scheduled (fun _ _ _ => true) disableOfOther = some x ∧
      active 0 8 x.1 ∧ AppsIsolated (onePort false) x.1 x.2.shared := by
  have hcond (tr : PortTrace) (s : PortState) (l : PortLabel) :
      isolationCondition (onePort false) tr s l := by
    rw [isolationCondition.eq_def]
    split
    · exact fun hias => absurd hias (by decide)
    · trivial
  obtain ⟨x, hx, hrun, htest⟩ := exists_run_of_scheduled (onePort false) (fun _ _ _ => true)
    (fun tr s l _ => hcond tr s l) disableOfOther (fun x => active 0 8 x.1) (by decide)
  exact ⟨x, hx, htest, apps_isolated hrun⟩

/-- With IAS, the link of the app 8 is lost and the app 7 enables the same port. -/
def enableAfterLinkLost : List PortAction :=
  completeCall .message (.enablePort 0 8 hdcpLevel1) 10 readsEnabled ++
    completeCall .integrity .checkIntegrity 8
      (portAnswer (some drmModeConnected) (some [(101, cpDesired), (102, cpType0)])) ++
    (.call .message (.enablePort 0 7 hdcpLevel1) ::
      List.replicate 3 (.op .message readsEnabled))

/-- The last step is one of the app 7 that sets the protection to `CP_OFF`, while the app
8 is active. -/
def endsWithOff : PortTrace → Bool
  | .op _ c ⟨.utilSetContentProtection drmId value, _⟩ :: tr =>
    c.app == some 7 && drmId == 77 && value == cpOff && active 0 8 tr
  | _ => false

lemma not_offByOwner_of_endsWithOff {tr : PortTrace} {s : PortState} (h : endsWithOff tr) :
    ¬AppsIsolated (onePort true) tr s := by
  rw [endsWithOff.eq_def] at h
  split at h
  · rename_i i c drmId value _ tr
    simp only [Bool.and_eq_true, beq_iff_eq] at h
    obtain ⟨⟨⟨happ, rfl⟩, rfl⟩, hactive⟩ := h
    intro hiso
    have hoff := hiso.off _ _ List.suffix_rfl 0 8
      ⟨rfl, _, List.mem_singleton_self _, rfl, rfl⟩ hactive
    rw [happ] at hoff
    exact absurd hoff (by decide)
  · exact absurd h (by decide)

theorem enable_switches_off_other :
    ∃ x, (onePort true).scheduled (fun _ _ _ => true) enableAfterLinkLost = some x ∧
      (portSystem (onePort true)).AnyRun initState x.1 x.2 ∧
      ¬AppsIsolated (onePort true) x.1 x.2.shared := by
  obtain ⟨⟨tr, cfg⟩, hx, hrun, htest⟩ := exists_run_of_scheduled (onePort true)
    (fun _ _ _ => true) (C := fun _ _ _ => True) (fun _ _ _ _ => trivial) enableAfterLinkLost
    (fun x => endsWithOff x.1) (by decide)
  exact ⟨_, hx, hrun, not_offByOwner_of_endsWithOff htest⟩

end Hdcp.Port
