/-
Apps release their ports.

An app holds a port from a successful `EnablePort` on; `DisablePort` and
`RemoveAppFromPorts` end this.  `m_AppIds` is the daemon's record of the holders.  In
the runs considered here the record names no one else: an app in `m_AppIds` has an
enable that it has not taken back.

The only way in which the daemon misses a release is the early return of
`DisablePort` for a port whose connection was last seen as disconnected, which keeps
the references of the app.  The condition on the steps excludes it and nothing else.
-/
import Hdcp.Port.Steps

namespace Hdcp.Port

open Library
open Library.Prog (op forEach)

/-! ### The history -/

/-- The call takes back what the app `a` has enabled on the port `p`. -/
def PortCall.releases (p a : ℕ) : PortCall → Bool
  | .disablePort p' a' => p' = p ∧ a' = a
  | .removeAppFromPorts a' => a' = a
  | _ => false

lemma PortCall.releases_unique {c : PortCall} {p p' a a' : ℕ} (h : c.releases p a)
    (h' : c.releases p' a') : a = a' := by
  cases c
  case disablePort q b =>
    simp only [releases, decide_eq_true_eq] at h h'
    exact h.2.symm.trans h'.2
  case removeAppFromPorts b =>
    simp only [releases, decide_eq_true_eq] at h h'
    exact h.symm.trans h'
  all_goals exact absurd h (by simp [releases])

/-- `EnablePort` returns `SUCCESS` for the app `a` and the port `p`. -/
def enableSucceeds (p a : ℕ) : PortLabel → Bool
  | .ret .message (.enablePort p' a' _) .success => p' = p ∧ a' = a
  | _ => false

/-- `DisablePort` returns `SUCCESS`, or `RemoveAppFromPorts` returns. -/
def releaseSucceeds (p a : ℕ) : PortLabel → Bool
  | .ret .message (.disablePort p' a') .success => p' = p ∧ a' = a
  | .ret .message (.removeAppFromPorts a') _ => a' = a
  | _ => false

/-- The app `a` has an enable on the port `p` that it has not taken back. -/
def outstanding (p a : ℕ) : PortTrace → Bool := since (enableSucceeds p a) (releaseSucceeds p a)

/-- A disable that finds `count` references left, and therefore does not write
`CP_OFF`, leaves the port to another app. -/
def LeftToOther (c : PortCall) (p count : ℕ) (tr : PortTrace) : Prop :=
  1 ≤ count → ∀ a, c.releases p a → ∃ b, b ≠ a ∧ outstanding p b tr

def SkipsForOther : PortLabel → PortTrace → Prop
  | .op _ c ⟨.getRefAppCount p, count⟩, tr => LeftToOther c p count tr
  | _, _ => True

/-- A disable that takes the port as disconnected does so for an app that does not
hold it. -/
def HoldsNothing (c : PortCall) (p connection : ℕ) (s : PortState) : Prop :=
  connection = drmModeDisconnected → ∀ a, c.releases p a → a ∉ (s.objects p).appIds

/-- The condition on the steps of a run. -/
def releaseCondition : PortTrace → PortState → PortLabel → Prop
  | _, s, .op _ c ⟨.getConnection p, connection⟩ => HoldsNothing c p connection s
  | _, _, _ => True

/-! ### The protocol -/

/-- Apart from the app that is being enabled, the holders are those with an enable. -/
structure ReleaseInv (m : PortManager) (tr : PortTrace) (s : PortState) : Prop where
  known : ∀ p, m.getDrmObjectByPortId p = none → (s.objects p).appIds = []
  held : ∀ p, ∀ a ∈ (s.objects p).appIds,
    outstanding p a tr ∨ ∃ level, calling .message tr = some (.enablePort p a level)
  skips : EveryStep SkipsForOther tr

/-- What the other threads leave alone. -/
structure SameHolders (tr : PortTrace) (s : PortState) (tr' : PortTrace) (s' : PortState) :
    Prop where
  appIds : ∀ p, (s'.objects p).appIds = (s.objects p).appIds
  outstanding : ∀ p a, outstanding p a tr' = outstanding p a tr
  calling : calling .message tr' = calling .message tr

lemma SameHolders.trans {tr tr' tr'' : PortTrace} {s s' s'' : PortState}
    (h : SameHolders tr s tr' s') (h' : SameHolders tr' s' tr'' s'') :
    SameHolders tr s tr'' s'' where
  appIds p := (h'.appIds p).trans (h.appIds p)
  outstanding p a := (h'.outstanding p a).trans (h.outstanding p a)
  calling := h'.calling.trans h.calling

def releaseProtocol (m : PortManager) : Protocol portSig Thread PortCall Errno PortState where
  admits := releaseCondition
  inv := ReleaseInv m
  rely i tr s tr' s' := i = .message → SameHolders tr s tr' s'
  refl _ _ _ _ := ⟨fun _ => rfl, fun _ _ => rfl, rfl⟩
  trans h h' hi := (h hi).trans (h' hi)

variable {m : PortManager} {tr tr' : PortTrace} {s s' : PortState} {i : Thread} {c : PortCall}
  {o : PortOp} {r : o.Ans} {p a : ℕ}

/-- A step that changes no holder and decides nothing by their number. -/
lemma ReleaseInv.op (hinv : ReleaseInv m tr s) (hstep : portStep i o r s = some s')
    (ho : o.onAppIds = false) :
    ReleaseInv m (.op i c ⟨o, r⟩ :: tr) s' ∧ SameHolders tr s (.op i c ⟨o, r⟩ :: tr) s' := by
  have hsame : SameHolders tr s (.op i c ⟨o, r⟩ :: tr) s' :=
    ⟨portStep_appIds ho hstep, fun _ _ => rfl, rfl⟩
  have hskip : SkipsForOther (.op i c ⟨o, r⟩) tr := by
    cases o
    case getRefAppCount => exact absurd ho (by simp [PortOp.onAppIds])
    all_goals trivial
  refine ⟨⟨fun p hp => ?_, fun p a ha => ?_, hskip, hinv.skips⟩, hsame⟩
  · rw [hsame.appIds]
    exact hinv.known p hp
  · rw [hsame.appIds] at ha
    exact hinv.held p a ha

lemma ReleaseInv.keeps (ho : o.onAppIds = false) (hinv : ReleaseInv m tr s)
    (hstep : portStep i o r s = some s') :
    (releaseProtocol m).Keeps i tr s (.op i c ⟨o, r⟩) s' ∧
      (releaseProtocol m).rely i tr s (.op i c ⟨o, r⟩ :: tr) s' := by
  obtain ⟨hinv', hsame⟩ := hinv.op (c := c) hstep ho
  exact ⟨⟨hinv', fun _ _ _ => hsame⟩, fun _ => hsame⟩

/-- Only the message thread is concerned by its own steps. -/
lemma keeps_message {l : PortLabel} (h : ReleaseInv m (l :: tr) s') :
    (releaseProtocol m).Keeps .message tr s l s' :=
  ⟨h, fun _ hj hj' => absurd hj' hj⟩

namespace Release

/-! ### The message thread -/

/-- Every holder has an enable. -/
structure Clean (c : PortCall) (tr : PortTrace) (s : PortState) : Prop where
  calling : calling .message tr = some c
  held : ∀ p, ∀ a ∈ (s.objects p).appIds, outstanding p a tr

/-- Every holder other than the app `a` on the port `p` has an enable. -/
structure Enabling (p a : ℕ) (c : PortCall) (tr : PortTrace) (s : PortState) : Prop where
  calling : calling .message tr = some c
  held : ∀ q, ∀ b ∈ (s.objects q).appIds, outstanding q b tr ∨ q = p ∧ b = a

/-- Every holder has an enable, and the app `a` holds no port in `G`. -/
structure Releasing (a : ℕ) (G : ℕ → Prop) (c : PortCall) (tr : PortTrace) (s : PortState) :
    Prop extends Clean c tr s where
  gone : ∀ p, G p → a ∉ (s.objects p).appIds

lemma Clean.of_same (h : Clean c tr s) (hsame : SameHolders tr s tr' s') : Clean c tr' s' where
  calling := hsame.calling.trans h.calling
  held p a ha := by
    rw [hsame.appIds] at ha
    rw [hsame.outstanding]
    exact h.held p a ha

lemma Enabling.of_same (h : Enabling p a c tr s) (hsame : SameHolders tr s tr' s') :
    Enabling p a c tr' s' where
  calling := hsame.calling.trans h.calling
  held q b hb := by
    rw [hsame.appIds] at hb
    rw [hsame.outstanding]
    exact h.held q b hb

lemma Releasing.of_same {G : ℕ → Prop} (h : Releasing a G c tr s)
    (hsame : SameHolders tr s tr' s') : Releasing a G c tr' s' where
  toClean := h.toClean.of_same hsame
  gone p hp := by
    rw [hsame.appIds]
    exact h.gone p hp

/-- The steps of the message thread that do not concern the holders. -/
lemma sat_aside {α : Type} {q : PortProg α} (hq : q.Uses fun o : PortOp => o.onAppIds = false) :
    (releaseProtocol m).Sat (portSystem m) .message c
      (fun _ tr' s' => SameHolders tr s tr' s') q tr s := by
  have hsat : (releaseProtocol m).Sat (portSystem m) .message c
      (fun _ tr' s' => (releaseProtocol m).rely .message tr s tr' s') q tr s :=
    Protocol.sat_of_uses (fun o r tr s s' ho _ hinv hstep _ => ReleaseInv.keeps ho hinv hstep) hq
  exact hsat.mono fun _ _ _ _ hrely => hrely rfl

lemma sat_aside_bind {α β : Type} {q : PortProg α} {f : α → PortProg β}
    {Q : β → PortTrace → PortState → Prop} (hq : q.Uses fun o : PortOp => o.onAppIds = false)
    (hf : ∀ x tr' s', SameHolders tr s tr' s' →
      (releaseProtocol m).Sat (portSystem m) .message c Q (f x) tr' s') :
    (releaseProtocol m).Sat (portSystem m) .message c Q (q >>= f) tr s :=
  (sat_aside hq).bind fun x tr' s' _ hsame => hf x tr' s' hsame

/-- What the message thread returns. -/
lemma sat_ret {x : Errno}
    (h : ∀ tr' s', ReleaseInv m tr' s' → SameHolders tr s tr' s' →
      ReleaseInv m (.ret .message c x :: tr') s') :
    (releaseProtocol m).Sat (portSystem m) .message c
      ((releaseProtocol m).Returned .message c) (.ret x) tr s := by
  intro tr' s' hrely hinv _
  exact keeps_message (h tr' s' hinv (hrely rfl))

/-- A call that leaves the holders alone may return at any time. -/
lemma Clean.returned {x : Errno} (hc : ∀ p a, c.releases p a = false) (h : Clean c tr s)
    (hinv : ReleaseInv m tr s) : ReleaseInv m (.ret .message c x :: tr) s := by
  refine ⟨hinv.known, fun p a ha => .inl ?_, trivial, hinv.skips⟩
  have hoff : releaseSucceeds p a (.ret .message c x) = false := by
    cases c
    case disablePort p' a' => exact absurd (hc p' a') (by simp [PortCall.releases])
    case removeAppFromPorts a' => exact absurd (hc p a') (by simp [PortCall.releases])
    all_goals rfl
  rw [outstanding, since_cons, hoff]
  simp only [Bool.not_false, Bool.true_and, Bool.or_eq_true]
  exact .inr (h.held p a ha)

lemma Enabling.returned {level : UInt8} (h : Enabling p a (.enablePort p a level) tr s)
    (hinv : ReleaseInv m tr s) :
    ReleaseInv m (.ret .message (.enablePort p a level) .success :: tr) s := by
  refine ⟨hinv.known, fun q b hb => .inl ?_, trivial, hinv.skips⟩
  rw [outstanding, since_cons]
  rcases h.held q b hb with hout | ⟨rfl, rfl⟩
  · have hoff : releaseSucceeds q b (.ret .message (.enablePort p a level) .success) = false := rfl
    rw [hoff]
    simp only [Bool.not_false, Bool.true_and, Bool.or_eq_true]
    exact .inr hout
  · simp [enableSucceeds]

/-- `AddRefAppId`, for the app that is being enabled. -/
lemma sat_addRefAppId {β : Type} {f : Unit → PortProg β} {d : DrmObject} {level : UInt8}
    {Q : β → PortTrace → PortState → Prop} (hd : m.getDrmObjectByPortId p = some d)
    (hc : c = .enablePort p a level) (h : Clean c tr s)
    (hf : ∀ tr' s', Enabling p a c tr' s' →
      (releaseProtocol m).Sat (portSystem m) .message c Q (f ()) tr' s') :
    (releaseProtocol m).Sat (portSystem m) .message c Q (addRefAppId p a >>= f) tr s := by
  intro tr' s' hrely hinv r s'' hstep _
  obtain rfl := (Option.some.inj hstep).symm
  have hclean := h.of_same (hrely rfl)
  refine ⟨keeps_message ⟨fun q hq => ?_, fun q b hb => ?_, trivial, hinv.skips⟩, ?_⟩
  · have hqp : q ≠ p := by
      rintro rfl
      rw [hd] at hq
      exact absurd hq (by simp)
    rw [PortState.modify_objects_of_ne hqp]
    exact hinv.known q hq
  · rcases PortState.mem_addRefAppId.1 hb with hb | ⟨rfl, rfl⟩
    · exact .inl (hclean.held q b hb)
    · exact .inr ⟨level, hclean.calling.trans (congrArg some hc)⟩
  · refine hf _ _ ⟨hclean.calling, fun q b hb => ?_⟩
    rcases PortState.mem_addRefAppId.1 hb with hb | hqb
    · exact .inl (hclean.held q b hb)
    · exact .inr hqb

lemma sat_checkEnabled {d : DrmObject} {level : UInt8}
    (hd : m.getDrmObjectByPortId p = some d) (hc : c = .enablePort p a level)
    (h : Clean c tr s) :
    (releaseProtocol m).Sat (portSystem m) .message c
      ((releaseProtocol m).Returned .message c) (checkEnabled d a) tr s := by
  obtain rfl := m.portId_of_getDrmObjectByPortId hd
  have hfree : ∀ p a, c.releases p a = false := by
    subst hc
    exact fun _ _ => rfl
  rw [checkEnabled]
  refine sat_aside_bind (Prog.uses_op.2 rfl) fun _ tr s hsame => ?_
  have h := h.of_same hsame
  refine sat_aside_bind (uses_getProtectionInfo rfl) fun info tr s hsame => ?_
  have h := h.of_same hsame
  have hbusy : (releaseProtocol m).Sat (portSystem m) .message c
      ((releaseProtocol m).Returned .message c)
      (cpTypeAtomicEnd d.portId >>= fun _ => Prog.ret Errno.ebusy) tr s := by
    refine sat_aside_bind (Prog.uses_op.2 rfl) fun _ tr s hsame => ?_
    have h := h.of_same hsame
    exact sat_ret fun tr s hinv hsame => (h.of_same hsame).returned hfree hinv
  cases info with
  | none => exact hbusy
  | some info =>
      refine Protocol.Sat.ite (fun _ => hbusy) fun _ => ?_
      refine sat_aside_bind (Prog.uses_op.2 rfl) fun _ tr s hsame => ?_
      have h := h.of_same hsame
      refine sat_addRefAppId hd hc h fun tr s h => ?_
      refine sat_aside_bind (Prog.uses_op.2 rfl) fun _ tr s hsame => ?_
      have h := h.of_same hsame
      subst hc
      exact sat_ret fun tr s hinv hsame => (h.of_same hsame).returned hinv

lemma sat_enablePort {level : UInt8} (hc : c = .enablePort p a level) (h : Clean c tr s) :
    (releaseProtocol m).Sat (portSystem m) .message c
      ((releaseProtocol m).Returned .message c) (m.enablePort p a level) tr s := by
  have hfree : ∀ p a, c.releases p a = false := by
    subst hc
    exact fun _ _ => rfl
  have hret {tr : PortTrace} {s : PortState} (x : Errno) (h : Clean c tr s) :
      (releaseProtocol m).Sat (portSystem m) .message c
        ((releaseProtocol m).Returned .message c) (.ret x) tr s :=
    sat_ret fun tr s hinv hsame => (h.of_same hsame).returned hfree hinv
  rw [PortManager.enablePort]
  split
  · exact hret _ h
  · rename_i d hd
    obtain rfl := m.portId_of_getDrmObjectByPortId hd
    refine sat_aside_bind (Prog.uses_op.2 rfl) fun connection tr s hsame => ?_
    have h := h.of_same hsame
    refine Protocol.Sat.ite (fun _ => hret _ h) fun _ => ?_
    refine Protocol.Sat.ite (fun _ => hret _ h) fun _ => ?_
    refine sat_aside_bind (Prog.uses_op.2 rfl) fun currCpType tr s hsame => ?_
    have h := h.of_same hsame
    refine Protocol.Sat.ite (fun _ => ?_) fun _ => ?_
    -- the port is already enabled
    · refine sat_addRefAppId hd hc h fun tr s h => ?_
      subst hc
      exact sat_ret fun tr s hinv hsame => (h.of_same hsame).returned hinv
    · have hset : (m.setContentType d level).Uses fun o : PortOp => o.onAppIds = false :=
        Prog.Uses.ite (fun _ => uses_setPortProperty (fun _ => rfl) rfl (fun _ => rfl) rfl)
          fun _ => trivial
      refine sat_aside_bind hset fun ret tr s hsame => ?_
      have h := h.of_same hsame
      refine Protocol.Sat.ite (fun _ => hret _ h) fun _ => ?_
      refine sat_aside_bind (uses_setPortProperty (fun _ => rfl) rfl (fun _ => rfl) rfl)
        fun ret tr s hsame => ?_
      have h := h.of_same hsame
      refine Protocol.Sat.ite (fun _ => hret _ h) fun _ => ?_
      refine sat_aside_bind (Prog.uses_op.2 rfl) fun _ tr s hsame => ?_
      exact sat_checkEnabled hd hc (h.of_same hsame)

/-- `GetConnection`: by the condition, a port that is taken as disconnected is not held by
the app. -/
lemma sat_getConnection {β : Type} {f : ℕ → PortProg β} {G : ℕ → Prop}
    {Q : β → PortTrace → PortState → Prop} (hc : c.releases p a) (h : Releasing a G c tr s)
    (hf : ∀ connection tr' s', Releasing a G c tr' s' →
      (connection = drmModeDisconnected → a ∉ (s'.objects p).appIds) →
      (releaseProtocol m).Sat (portSystem m) .message c Q (f connection) tr' s') :
    (releaseProtocol m).Sat (portSystem m) .message c Q (getConnection p >>= f) tr s := by
  intro tr' s' hrely hinv connection s'' hstep hadm
  have h := h.of_same (hrely rfl)
  obtain ⟨-, rfl⟩ := PortState.answer_eq_some.1 hstep
  refine ⟨keeps_message ⟨hinv.known, hinv.held, trivial, hinv.skips⟩, ?_⟩
  exact hf connection _ _ ⟨⟨h.calling, h.held⟩, h.gone⟩ fun hdis => hadm hdis a hc

/-- `RemoveRefAppId`. -/
lemma sat_removeRefAppId {β : Type} {f : Unit → PortProg β} {G : ℕ → Prop}
    {Q : β → PortTrace → PortState → Prop} (h : Releasing a G c tr s)
    (hf : ∀ tr' s', Releasing a (fun q => q = p ∨ G q) c tr' s' →
      (releaseProtocol m).Sat (portSystem m) .message c Q (f ()) tr' s') :
    (releaseProtocol m).Sat (portSystem m) .message c Q (removeRefAppId p a >>= f) tr s := by
  intro tr' s' hrely hinv r s'' hstep _
  obtain rfl := (Option.some.inj hstep).symm
  have h := h.of_same (hrely rfl)
  refine ⟨keeps_message ⟨fun q hq => ?_, fun q b hb => ?_, trivial, hinv.skips⟩, ?_⟩
  · refine List.eq_nil_iff_forall_not_mem.2 fun b hb => ?_
    have hb' := (PortState.mem_removeRefAppId.1 hb).1
    rw [hinv.known q hq] at hb'
    exact List.not_mem_nil hb'
  · exact hinv.held q b (PortState.mem_removeRefAppId.1 hb).1
  · have hheld : ∀ q, ∀ b ∈ ((s'.modify p fun d => d.removeRefAppId a).objects q).appIds,
        outstanding q b tr' := fun q b hb => h.held q b (PortState.mem_removeRefAppId.1 hb).1
    refine hf _ _ ⟨⟨h.calling, hheld⟩, fun q hq ha => ?_⟩
    obtain ⟨ha, hne⟩ := PortState.mem_removeRefAppId.1 ha
    rcases hq with rfl | hq
    · exact hne ⟨rfl, rfl⟩
    · exact h.gone q hq ha

/-- `GetRefAppCount`, after the references of the app have gone: who is left has an
enable. -/
lemma sat_getRefAppCount {β : Type} {f : ℕ → PortProg β} {G : ℕ → Prop}
    {Q : β → PortTrace → PortState → Prop} (hc : c.releases p a) (hG : G p)
    (h : Releasing a G c tr s)
    (hf : ∀ count tr' s', Releasing a G c tr' s' →
      (releaseProtocol m).Sat (portSystem m) .message c Q (f count) tr' s') :
    (releaseProtocol m).Sat (portSystem m) .message c Q (getRefAppCount p >>= f) tr s := by
  intro tr' s' hrely hinv count s'' hstep _
  have h := h.of_same (hrely rfl)
  obtain ⟨hcount, rfl⟩ := PortState.answer_eq_some.1 hstep
  have hskip : LeftToOther c p count tr' := by
    intro hpos a' ha'
    rw [hcount] at hpos
    obtain ⟨b, hb⟩ := List.exists_mem_of_length_pos hpos
    refine ⟨b, ?_, h.held p b hb⟩
    rintro rfl
    obtain rfl := PortCall.releases_unique ha' hc
    exact h.gone p hG hb
  refine ⟨keeps_message ⟨hinv.known, fun q b hb => ?_, hskip, hinv.skips⟩, ?_⟩
  · exact hinv.held q b hb
  · exact hf count _ _ ⟨⟨h.calling, h.held⟩, h.gone⟩

/-- `DisablePort`, called directly or for an app that exits, ends without a reference of
the app to the port. -/
lemma sat_disablePort {G : ℕ → Prop} (hc : c.releases p a) (h : Releasing a G c tr s) :
    (releaseProtocol m).Sat (portSystem m) .message c
      (fun _ => Releasing a (fun q => q = p ∨ G q) c) (m.disablePort p a) tr s := by
  have hret {tr : PortTrace} {s : PortState} {G : ℕ → Prop} (x : Errno)
      (h : Releasing a G c tr s) : (releaseProtocol m).Sat (portSystem m) .message c
        (fun _ => Releasing a G c) (.ret x) tr s :=
    fun tr s hrely _ => h.of_same (hrely rfl)
  rw [PortManager.disablePort]
  split
  · rename_i hd
    intro tr s hrely hinv
    have h := h.of_same (hrely rfl)
    refine ⟨h.toClean, fun q hq => ?_⟩
    rcases hq with rfl | hq
    · rw [hinv.known q hd]
      exact List.not_mem_nil
    · exact h.gone q hq
  · rename_i d hd
    obtain rfl := m.portId_of_getDrmObjectByPortId hd
    refine sat_getConnection hc h fun connection tr s h hgone => ?_
    refine Protocol.Sat.ite (fun hdis => ?_) fun _ => ?_
    · refine hret _ ⟨h.toClean, fun q hq => ?_⟩
      rcases hq with rfl | hq
      · exact hgone hdis
      · exact h.gone q hq
    · refine sat_removeRefAppId h fun tr s h => ?_
      refine sat_getRefAppCount hc (.inl rfl) h fun count tr s h => ?_
      refine Protocol.Sat.ite (fun _ => hret _ h) fun _ => ?_
      refine sat_aside_bind (uses_setPortProperty (fun _ => rfl) rfl (fun _ => rfl) rfl)
        fun ret tr s hsame => ?_
      have h := h.of_same hsame
      refine Protocol.Sat.ite (fun _ => hret _ h) fun _ => ?_
      refine (sat_aside (uses_checkDisabled rfl rfl rfl rfl)).mono ?_
      exact fun _ tr s _ hsame => h.of_same hsame

/-- `RemoveAppFromPorts` ends without a reference of the app to the ports that it visits. -/
lemma sat_removeLoop {G : ℕ → Prop} (hc : c = .removeAppFromPorts a)
    (drmObjects : List DrmObject) (h : Releasing a G c tr s) :
    (releaseProtocol m).Sat (portSystem m) .message c
      (fun _ => Releasing a (fun q => q ∈ drmObjects.map DrmObject.portId ∨ G q) c)
      (m.removeLoop a drmObjects) tr s := by
  induction drmObjects generalizing G tr s with
  | nil =>
      intro tr s hrely hinv
      have h := h.of_same (hrely rfl)
      exact ⟨h.toClean, fun q hq => h.gone q (by simpa using hq)⟩
  | cons d drmObjects ih =>
      have hd : c.releases d.portId a := by
        subst hc
        exact decide_eq_true rfl
      refine (sat_disablePort hd h).bind fun _ tr s _ h => ?_
      refine (ih h).mono fun _ tr s _ h => ⟨h.toClean, fun q hq => h.gone q ?_⟩
      rw [List.map_cons, List.mem_cons] at hq
      rcases hq with (hq | hq) | hq
      · exact .inr (.inl hq)
      · exact .inl hq
      · exact .inr (.inr hq)

/-! ### Returns of the releasing calls -/

/-- A releasing call may return when the app holds nothing of what it releases. -/
lemma Releasing.returned {G : ℕ → Prop} {x : Errno} (h : Releasing a G c tr s)
    (hG : ∀ q, (s.objects q).appIds ≠ [] → ∀ b, releaseSucceeds q b (.ret .message c x) →
      b = a ∧ G q) (hinv : ReleaseInv m tr s) : ReleaseInv m (.ret .message c x :: tr) s := by
  refine ⟨hinv.known, fun q b hb => .inl ?_, trivial, hinv.skips⟩
  have hoff : releaseSucceeds q b (.ret .message c x) = false := by
    by_contra hoff
    obtain ⟨rfl, hq⟩ := hG q (List.ne_nil_of_mem hb) b (by simpa using hoff)
    exact h.gone q hq hb
  rw [outstanding, since_cons, hoff]
  simp only [Bool.not_false, Bool.true_and, Bool.or_eq_true]
  exact .inr (h.held q b hb)

/-! ### Runs -/

/-- The other threads do not concern the holders. -/
lemma sat_other (hi : i ≠ .message)
    (hc : (m.callBody c).Uses fun o : PortOp => o.onAppIds = false) :
    (releaseProtocol m).Sat (portSystem m) i c ((releaseProtocol m).Returned i c)
      (m.callBody c) tr s := by
  refine (Protocol.sat_of_uses (A := fun o : PortOp => o.onAppIds = false)
    (fun o r tr s s' ho _ hinv hstep _ => ReleaseInv.keeps ho hinv hstep) hc).mono ?_
  intro x tr s hinv _ _
  have hsame : SameHolders tr s (.ret i c x :: tr) s := by
    cases i with
    | message => exact absurd rfl hi
    | integrity => exact ⟨fun _ => rfl, fun _ _ => rfl, rfl⟩
    | uevent => exact ⟨fun _ => rfl, fun _ _ => rfl, rfl⟩
  refine ⟨⟨hinv.known, fun p a ha => ?_, trivial, hinv.skips⟩, fun _ _ _ => hsame⟩
  rw [hsame.outstanding, hsame.calling]
  exact hinv.held p a ha

/-- A call of another thread begins. -/
lemma keeps_call_other (hi : i ≠ .message) (hinv : ReleaseInv m tr s) :
    (releaseProtocol m).Keeps i tr s (.call i c) s := by
  have hsame : SameHolders tr s (.call i c :: tr) s := by
    cases i with
    | message => exact absurd rfl hi
    | integrity => exact ⟨fun _ => rfl, fun _ _ => rfl, rfl⟩
    | uevent => exact ⟨fun _ => rfl, fun _ _ => rfl, rfl⟩
  refine ⟨⟨hinv.known, fun p a ha => ?_, trivial, hinv.skips⟩, fun _ _ _ => hsame⟩
  rw [hsame.outstanding, hsame.calling]
  exact hinv.held p a ha

/-- The calls of the message thread. -/
lemma sat_message (hmay : portMay .message c = true) (h : Clean c tr s) :
    (releaseProtocol m).Sat (portSystem m) .message c
      ((releaseProtocol m).Returned .message c) (m.callBody c) tr s := by
  have hquiet (hfree : ∀ p a, c.releases p a = false)
      (hc : (m.callBody c).Uses fun o : PortOp => o.onAppIds = false) :
      (releaseProtocol m).Sat (portSystem m) .message c
        ((releaseProtocol m).Returned .message c) (m.callBody c) tr s :=
    (sat_aside hc).mono fun x tr s hinv hsame _ =>
      keeps_message ((h.of_same hsame).returned hfree hinv)
  cases c with
  | enumeratePorts =>
      exact hquiet (fun _ _ => rfl) (uses_enumeratePorts fun o => onAppIds_of_aside)
  | enablePort p a level => exact sat_enablePort rfl h
  | disablePort p a =>
      have hc : (PortCall.disablePort p a).releases p a := by simp [PortCall.releases]
      have hstart : Releasing a (fun _ => False) (.disablePort p a) tr s :=
        ⟨h, fun _ hq => absurd hq id⟩
      refine (sat_disablePort hc hstart).mono fun x tr s hinv h _ => keeps_message ?_
      refine h.returned (fun q _ b hb => ?_) hinv
      cases x
      case success =>
        simp only [releaseSucceeds, Bool.decide_and, Bool.and_eq_true, decide_eq_true_eq] at hb
        exact ⟨hb.2.symm, .inl hb.1.symm⟩
      all_goals exact absurd hb (by simp [releaseSucceeds])
  | removeAppFromPorts a =>
      have hstart : Releasing a (fun _ => False) (.removeAppFromPorts a) tr s :=
        ⟨h, fun _ hq => absurd hq id⟩
      refine (sat_removeLoop rfl m.drmObjects hstart).mono fun x tr s hinv h _ =>
        keeps_message ?_
      refine h.returned (fun q hq b hb => ?_) hinv
      simp only [releaseSucceeds, decide_eq_true_eq] at hb
      refine ⟨hb.symm, .inl ?_⟩
      -- a port with holders is one of an object
      cases hd : m.getDrmObjectByPortId q with
      | none => exact absurd (hinv.known q hd) hq
      | some d =>
          rw [← m.portId_of_getDrmObjectByPortId hd]
          exact List.mem_map_of_mem (m.mem_of_getDrmObjectByPortId hd)
  | getStatus p =>
      have hc : (m.getStatus p).Uses fun o : PortOp => o.onAppIds = false :=
        uses_getStatus (fun o ho _ => onAppIds_of_aside ho) fun _ => rfl
      exact hquiet (fun _ _ => rfl) hc
  | processHotPlug => exact absurd hmay (by decide)
  | checkIntegrity => exact absurd hmay (by decide)

lemma inv_of_run {cfg : PortConfig}
    (hrun : (portSystem m).Run releaseCondition initState tr cfg) :
    ReleaseInv m tr cfg.shared := by
  refine (Protocol.sound (P := releaseProtocol m) ?_ ?_ hrun).1
  · exact ⟨fun _ _ => rfl, fun _ _ ha => absurd ha List.not_mem_nil, trivial⟩
  · intro i c tr s hmay hidle hinv _
    cases i with
    | message =>
        have hheld : ∀ p, ∀ a ∈ (s.objects p).appIds, outstanding p a tr := by
          intro p a ha
          refine (hinv.held p a ha).resolve_right ?_
          rintro ⟨level, hlevel⟩
          rw [hidle] at hlevel
          exact absurd hlevel (by simp)
        have hclean : Clean c (.call .message c :: tr) s := ⟨rfl, hheld⟩
        refine ⟨keeps_message ⟨hinv.known, fun p a ha => .inl ?_, trivial, hinv.skips⟩, ?_⟩
        · exact hheld p a ha
        · exact sat_message hmay hclean
    | integrity =>
        obtain rfl := eq_checkIntegrity hmay
        refine ⟨keeps_call_other (by decide) hinv, ?_⟩
        exact sat_other (by decide) (uses_checkIntegrity (fun o ho _ => onAppIds_of_aside ho)
          fun o ho _ => onAppIds_of_onProtection ho)
    | uevent =>
        obtain rfl := eq_processHotPlug hmay
        refine ⟨keeps_call_other (by decide) hinv, ?_⟩
        exact sat_other (by decide) (uses_processHotPlug fun o => onAppIds_of_aside)

end Release

/-! ### The record of the holders -/

/-- A release takes effect: who has taken back the enable of a port is not recorded as a
holder, unless a new `EnablePort` is in progress, and no disable is skipped for the sake
of such an app. -/
structure ReleasesTakeEffect (tr : PortTrace) (cfg : PortConfig) : Prop where
  gone : ∀ p a, ¬outstanding p a tr → a ∈ (cfg.shared.objects p).appIds →
    ∃ level q, cfg.threads .message = some (.enablePort p a level, q)
  skips : ∀ l tr', l :: tr' <:+ tr → SkipsForOther l tr'

/-- In every run in which no app that holds a port has its disable or its exit meet a
disconnected `m_Connection` of this port, releases take effect. -/
theorem releases_take_effect {cfg : PortConfig}
    (hrun : (portSystem m).Run releaseCondition initState tr cfg) :
    ReleasesTakeEffect tr cfg := by
  have hinv := Release.inv_of_run hrun
  refine ⟨fun p a hout ha => ?_, fun l tr' hsuffix => hinv.skips.of_suffix hsuffix⟩
  obtain ⟨level, hlevel⟩ := (hinv.held p a ha).resolve_left hout
  rw [hrun.calling_eq] at hlevel
  obtain ⟨⟨c, q⟩, hthread, hc⟩ := Option.map_eq_some_iff.1 hlevel
  obtain rfl : c = .enablePort p a level := hc
  exact ⟨level, q, hthread⟩

/-- The message thread enables the port 0 for the app 7 and disables it again. -/
def enableDisable : List PortAction :=
  completeCall .message (.enablePort 0 7 hdcpLevel1) 14
      (portAnswer (some drmModeConnected) (some [(101, cpEnabled), (102, cpType0)])) ++
    completeCall .message (.disablePort 0 7) 10
      (portAnswer (some drmModeConnected) (some [(101, cpOff), (102, cpType0)]))

/-- No port is taken as disconnected. -/
def staysConnected : PortTrace → PortState → PortLabel → Bool
  | _, _, .op _ _ ⟨.getConnection _, connection⟩ => notDisconnected connection
  | _, _, _ => true
where
  notDisconnected (connection : ℕ) : Bool := connection != drmModeDisconnected

lemma releaseCondition_of_staysConnected (tr : PortTrace) (s : PortState) (l : PortLabel)
    (h : staysConnected tr s l) : releaseCondition tr s l := by
  rw [releaseCondition.eq_def]
  split
  · rename_i connection
    intro hdis
    exact absurd hdis (bne_iff_ne.1 h)
  · trivial

theorem releases_take_effect_enableDisable :
    ∃ x, (onePort false).scheduled staysConnected enableDisable = some x ∧
      releaseSucceeds 0 7 (x.1.headD (.call .message .enumeratePorts)) ∧
      ReleasesTakeEffect x.1 x.2 := by
  obtain ⟨x, hx, hrun, htest⟩ := exists_run_of_scheduled (onePort false) staysConnected
    releaseCondition_of_staysConnected enableDisable
    (fun x => releaseSucceeds 0 7 (x.1.headD (.call .message .enumeratePorts))) (by decide)
  exact ⟨x, hx, htest, releases_take_effect hrun⟩

/-- The port 0 is unplugged between the enable of the app 7 and its disable. -/
def missedRelease : List PortAction :=
  completeCall .message (.enablePort 0 7 hdcpLevel1) 14
      (portAnswer (some drmModeConnected) (some [(101, cpEnabled), (102, cpType0)])) ++
    completeCall .uevent .processHotPlug 8 (portAnswer (some drmModeDisconnected) none) ++
    completeCall .message (.disablePort 0 7) 1 (portAnswer none none)

/-- After `DisablePort` has returned `SUCCESS`, the app 7 is still in `m_AppIds`. -/
theorem disconnected_port_keeps_app :
    ∃ x, (onePort false).scheduled (fun _ _ _ => true) missedRelease = some x ∧
      (portSystem (onePort false)).AnyRun initState x.1 x.2 ∧
      releaseSucceeds 0 7 (x.1.headD (.call .message .enumeratePorts)) ∧
      7 ∈ (x.2.shared.objects 0).appIds ∧ ¬ReleasesTakeEffect x.1 x.2 := by
  obtain ⟨x, hx, hrun, htest⟩ := exists_run_of_scheduled (onePort false)
    (fun _ _ _ => true) (C := fun _ _ _ => True) (fun _ _ _ _ => trivial) missedRelease
    (fun x => releaseSucceeds 0 7 (x.1.headD (.call .message .enumeratePorts)) &&
      (x.2.shared.objects 0).appIds.contains 7 && !outstanding 0 7 x.1 &&
      (x.2.threads .message).isNone) (by decide)
  simp only [Bool.and_eq_true, Bool.not_eq_true', List.contains_iff_mem,
    Option.isNone_iff_eq_none] at htest
  obtain ⟨⟨⟨hrel, hmem⟩, hout⟩, hidle⟩ := htest
  refine ⟨x, hx, hrun, hrel, hmem, fun h => ?_⟩
  obtain ⟨level, q, hthread⟩ := h.gone 0 7 (by simp [hout]) hmem
  rw [hidle] at hthread
  exact absurd hthread (by simp)

end Hdcp.Port
