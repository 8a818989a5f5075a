/-
Ports that are protected for no one.

`m_CpType` says how a port is protected, and `m_AppIds` for whom.  `EnablePort` sets
both under the lock of the type.  `DisablePort` first removes the app, and only when
the kernel has switched the protection off it takes back the type; it returns early when
a property cannot be written and when the port does not read as off.  Then a port that
nobody holds keeps its type, and no later call takes it back on its own: an app that has
exited cannot disable again.

The condition on the steps is about the kernel alone: the writes of a release, and its
reading of the port, do not fail while the port that has lost its last app still has a
type.  In the runs that meet it, every port with a type has an app, whenever the message
thread is between two calls.
-/
import Hdcp.Port.Steps

namespace Hdcp.Port

open Library
open Library.Prog (op forEach)

/-! ### The history -/

/-- The port has a type, as `GetCpType` reads it. -/
def DrmState.HasCpType (d : DrmState) : Prop := u8 d.cpType ≠ cpTypeInvalid

/-- The calls that take apps from ports. -/
def PortCall.isRelease : PortCall → Bool
  | .disablePort _ _ | .removeAppFromPorts _ => true
  | _ => false

/-- The port whose apps were counted last; the last event comes first. -/
def counted : List (Event portSig) → Option ℕ
  | [] => none
  | ⟨.getRefAppCount p, _⟩ :: _ => some p
  | _ :: events => counted events

/-- The properties of the object do not say that the protection is off. -/
def PortManager.notOff (m : PortManager) (drmId : ℕ) : Option (List (ℕ × ℕ)) → Bool
  | none => true
  | some properties =>
    match m.getDrmObjectByDrmId drmId with
    | none => true
    | some drmObject => (drmObject.protectionInfo properties).1 != cpOff

/-- The answers that make `DisablePort` return early, once it is to switch a port off. -/
def PortManager.unconfirmed (m : PortManager) : (o : PortOp) → o.Ans → Bool
  | .drmSetMaster, done => !done
  | .drmDropMaster, done => !done
  | .drmModeConnectorSetProperty _ _ _, done => !done
  | .utilSetContentProtection _ _, done => !done
  | .drmModeObjectGetProperties drmId, properties => m.notOff drmId properties
  | _, _ => false

/-- The condition on the steps of a run: a release is not stopped on a port that still has
a type. -/
def orphanCondition (m : PortManager) : PortTrace → PortState → PortLabel → Prop
  | tr, s, .op .message c e =>
    c.isRelease = true → m.unconfirmed e.op e.ans = true →
      ∀ p, counted (callEvents .message tr) = some p → ¬(s.objects p).HasCpType
  | _, _, _ => True

/-! ### The protocol -/

/-- Between two calls of the message thread, a port that has a type has an app. -/
def OrphanInv (tr : PortTrace) (s : PortState) : Prop :=
  ∀ p, (s.objects p).HasCpType → (s.objects p).appIds ≠ [] ∨ calling .message tr ≠ none

/-- What the other threads do: they take types, and leave the apps. -/
structure Spared (tr : PortTrace) (s : PortState) (tr' : PortTrace) (s' : PortState) :
    Prop where
  appIds : ∀ p, (s'.objects p).appIds = (s.objects p).appIds
  cpType : ∀ p, (s'.objects p).HasCpType → (s.objects p).HasCpType
  calling : calling .message tr' = calling .message tr
  events : callEvents .message tr' = callEvents .message tr

lemma Spared.trans {tr tr' tr'' : PortTrace} {s s' s'' : PortState} (h : Spared tr s tr' s')
    (h' : Spared tr' s' tr'' s'') : Spared tr s tr'' s'' where
  appIds p := (h'.appIds p).trans (h.appIds p)
  cpType p hp := h.cpType p (h'.cpType p hp)
  calling := h'.calling.trans h.calling
  events := h'.events.trans h.events

def orphanProtocol (m : PortManager) : Protocol portSig Thread PortCall Errno PortState where
  admits := orphanCondition m
  inv := OrphanInv
  rely i tr s tr' s' := i = .message → Spared tr s tr' s'
  refl _ _ _ _ := ⟨fun _ => rfl, fun _ h => h, rfl, rfl⟩
  trans h h' hi := (h hi).trans (h' hi)

namespace Orphan

/-! ### Steps -/

/-- The interactions that concern neither the apps nor the type of a port. -/
def steady : PortOp → Bool
  | .addRefAppId _ _ | .removeRefAppId _ _ | .getRefAppCount _ | .clearRefAppId _
  | .setCpType _ _ => false
  | _ => true

lemma steady_of_aside {o : PortOp} (h : o.aside = true) : steady o = true := by
  cases o <;> first | rfl | exact absurd h (by simp [PortOp.aside])

variable {m : PortManager} {tr tr' : PortTrace} {s s' : PortState} {i : Thread} {c : PortCall}
  {o : PortOp} {r : o.Ans} {p a : ℕ} {d : DrmObject} {B : ℕ → Prop}

lemma steady_step (ho : steady o = true) (hstep : portStep i o r s = some s') (p : ℕ) :
    (s'.objects p).appIds = (s.objects p).appIds ∧
      (s'.objects p).cpType = (s.objects p).cpType := by
  refine ⟨portStep_appIds ?_ hstep p, portStep_setCpType (fun q t hset => ?_) hstep p⟩
  · cases o <;> first | rfl | exact absurd ho (by simp [steady])
  · subst hset
    exact absurd ho (by simp [steady])

lemma counted_steady (ho : steady o = true) (events : List (Event portSig)) :
    counted (⟨o, r⟩ :: events) = counted events := by
  cases o
  case getRefAppCount => exact absurd ho (by simp [steady])
  all_goals rfl

/-- A port that has a type has an app, unless it is in `B`. -/
structure HeldBut (B : ℕ → Prop) (c : PortCall) (tr : PortTrace) (s : PortState) : Prop where
  calling : calling .message tr = some c
  held : ∀ p, ¬B p → (s.objects p).HasCpType → (s.objects p).appIds ≠ []

/-- Every port that has a type has an app. -/
abbrev Clean : PortCall → PortTrace → PortState → Prop := HeldBut fun _ => False

/-- The port `p` may have lost its last app, and its apps were counted last. -/
structure Emptied (p : ℕ) (c : PortCall) (tr : PortTrace) (s : PortState) : Prop
    extends HeldBut (· = p) c tr s where
  counted : counted (callEvents .message tr) = some p

lemma HeldBut.of_spared (h : HeldBut B c tr s) (hspared : Spared tr s tr' s') :
    HeldBut B c tr' s' where
  calling := hspared.calling.trans h.calling
  held p hp htype := by
    rw [hspared.appIds]
    exact h.held p hp (hspared.cpType p htype)

lemma Emptied.of_spared (h : Emptied p c tr s) (hspared : Spared tr s tr' s') :
    Emptied p c tr' s' where
  toHeldBut := h.toHeldBut.of_spared hspared
  counted := by rw [hspared.events, h.counted]

lemma HeldBut.steady (h : HeldBut B c tr s) (ho : steady o = true)
    (hstep : portStep .message o r s = some s') :
    HeldBut B c (.op .message c ⟨o, r⟩ :: tr) s' where
  calling := h.calling
  held p hp := by
    obtain ⟨happIds, hcpType⟩ := steady_step ho hstep p
    rw [happIds, DrmState.HasCpType, hcpType]
    exact h.held p hp

lemma Emptied.steady (h : Emptied p c tr s) (ho : steady o = true)
    (hstep : portStep .message o r s = some s') :
    Emptied p c (.op .message c ⟨o, r⟩ :: tr) s' where
  toHeldBut := h.toHeldBut.steady ho hstep
  counted := by rw [callEvents_op_self, counted_steady ho, h.counted]

/-- The exception is no longer one when the port has no type. -/
lemma HeldBut.clean (h : HeldBut (· = p) c tr s) (hp : ¬(s.objects p).HasCpType) :
    Clean c tr s where
  calling := h.calling
  held q _ htype := by
    refine h.held q ?_ htype
    rintro rfl
    exact hp htype

/-- During a call of the message thread the invariant says nothing. -/
lemma keeps_message {e : Event portSig} (h : calling .message tr = some c) :
    (orphanProtocol m).Keeps .message tr s (.op .message c e) s' := by
  refine ⟨fun p _ => .inr ?_, fun j hj hj' => absurd hj' hj⟩
  show calling .message tr ≠ none
  rw [h]
  exact Option.some_ne_none c

/-! ### The message thread -/

section Message

variable {α β : Type} {Q : β → PortTrace → PortState → Prop}

lemma sat_steady {q : PortProg α} (hq : q.Uses fun o => steady o = true)
    (h : HeldBut B c tr s) :
    (orphanProtocol m).Sat (portSystem m) .message c (fun _ => HeldBut B c) q tr s := by
  refine Protocol.sat_of_keeps hq h (fun hrely h => h.of_spared (hrely rfl)) ?_
  intro o r tr s s' ho _ h hstep _
  exact ⟨keeps_message h.calling, h.steady ho hstep⟩

lemma sat_steady_bind {q : PortProg α} {f : α → PortProg β}
    (hq : q.Uses fun o => steady o = true) (h : HeldBut B c tr s)
    (hf : ∀ x tr' s', HeldBut B c tr' s' →
      (orphanProtocol m).Sat (portSystem m) .message c Q (f x) tr' s') :
    (orphanProtocol m).Sat (portSystem m) .message c Q (q >>= f) tr s :=
  (sat_steady hq h).bind fun x tr' s' _ h => hf x tr' s' h

lemma sat_ret {B' : ℕ → Prop} {x : α} (h : HeldBut B c tr s)
    (hB : HeldBut B c tr s → HeldBut B' c tr s) :
    (orphanProtocol m).Sat (portSystem m) .message c (fun _ => HeldBut B' c) (.ret x) tr s :=
  fun _ _ hrely _ => (hB h).of_spared (hrely rfl)

/-- `AddRefAppId` gives the port an app. -/
lemma sat_addRefAppId {f : Unit → PortProg β} (h : HeldBut (· = p) c tr s)
    (hf : ∀ tr' s', Clean c tr' s' →
      (orphanProtocol m).Sat (portSystem m) .message c Q (f ()) tr' s') :
    (orphanProtocol m).Sat (portSystem m) .message c Q (addRefAppId p a >>= f) tr s := by
  intro tr' s' hrely _ r s'' hstep _
  obtain rfl := (Option.some.inj hstep).symm
  have h := h.of_spared (hrely rfl)
  refine ⟨keeps_message h.calling, hf _ _ ⟨h.calling, fun q _ htype => ?_⟩⟩
  by_cases hq : q = p
  · exact List.ne_nil_of_mem (PortState.mem_addRefAppId.2 (.inr ⟨hq, rfl⟩))
  · rw [PortState.modify_objects_of_ne hq] at htype ⊢
    exact h.held q hq htype

/-- `SetCpType`, for a port that is going to get an app. -/
lemma sat_setCpType {f : Unit → PortProg β} {t : ℕ} (h : HeldBut (· = p) c tr s)
    (hf : ∀ tr' s', HeldBut (· = p) c tr' s' →
      (orphanProtocol m).Sat (portSystem m) .message c Q (f ()) tr' s') :
    (orphanProtocol m).Sat (portSystem m) .message c Q (setCpType p t >>= f) tr s := by
  intro tr' s' hrely _ r s'' hstep _
  obtain rfl := (Option.some.inj hstep).symm
  have h := h.of_spared (hrely rfl)
  refine ⟨keeps_message h.calling, hf _ _ ⟨h.calling, fun q hq htype => ?_⟩⟩
  rw [PortState.modify_objects_of_ne hq] at htype ⊢
  exact h.held q hq htype

/-- `SetCpType`, for a port that is switched off. -/
lemma sat_setCpType_invalid {f : Unit → PortProg β} (h : HeldBut (· = p) c tr s)
    (hf : ∀ tr' s', Clean c tr' s' →
      (orphanProtocol m).Sat (portSystem m) .message c Q (f ()) tr' s') :
    (orphanProtocol m).Sat (portSystem m) .message c Q
      (setCpType p cpTypeInvalid >>= f) tr s := by
  intro tr' s' hrely _ r s'' hstep _
  obtain rfl := (Option.some.inj hstep).symm
  have h := h.of_spared (hrely rfl)
  refine ⟨keeps_message h.calling, hf _ _ ⟨h.calling, fun q _ htype => ?_⟩⟩
  by_cases hq : q = p
  · subst hq
    rw [PortState.modify_objects_self] at htype
    exact absurd rfl htype
  · rw [PortState.modify_objects_of_ne hq] at htype ⊢
    exact h.held q hq htype

/-- `RemoveRefAppId` can take the last app. -/
lemma sat_removeRefAppId {f : Unit → PortProg β} (h : Clean c tr s)
    (hf : ∀ tr' s', HeldBut (· = p) c tr' s' →
      (orphanProtocol m).Sat (portSystem m) .message c Q (f ()) tr' s') :
    (orphanProtocol m).Sat (portSystem m) .message c Q (removeRefAppId p a >>= f) tr s := by
  intro tr' s' hrely _ r s'' hstep _
  obtain rfl := (Option.some.inj hstep).symm
  have h := h.of_spared (hrely rfl)
  refine ⟨keeps_message h.calling, hf _ _ ⟨h.calling, fun q hq htype => ?_⟩⟩
  rw [PortState.modify_objects_of_ne hq] at htype ⊢
  exact h.held q id htype

/-- `GetRefAppCount` tells whether there is an app left. -/
lemma sat_getRefAppCount {f : ℕ → PortProg β} (h : HeldBut (· = p) c tr s)
    (hf : ∀ count tr' s', Emptied p c tr' s' → (1 ≤ count → Clean c tr' s') →
      (orphanProtocol m).Sat (portSystem m) .message c Q (f count) tr' s') :
    (orphanProtocol m).Sat (portSystem m) .message c Q (getRefAppCount p >>= f) tr s := by
  intro tr' s' hrely _ count s'' hstep _
  obtain ⟨hcount, rfl⟩ := PortState.answer_eq_some.1 hstep
  have h := h.of_spared (hrely rfl)
  refine ⟨keeps_message h.calling, hf count _ _ ⟨⟨h.calling, h.held⟩, ?_⟩ fun hpos => ?_⟩
  · rw [callEvents_op_self]
    rfl
  · refine ⟨h.calling, fun q _ htype => ?_⟩
    by_cases hq : q = p
    · subst hq
      rw [hcount] at hpos
      exact List.ne_nil_of_length_pos hpos
    · exact h.held q hq htype

end Message

/-! ### EnablePort -/

lemma sat_checkEnabled (h : Clean c tr s) :
    (orphanProtocol m).Sat (portSystem m) .message c (fun _ => Clean c) (checkEnabled d a)
      tr s := by
  rw [checkEnabled]
  refine sat_steady_bind (Prog.uses_op.2 rfl) h fun _ tr s h => ?_
  refine sat_steady_bind (uses_getProtectionInfo rfl) h fun info tr s h => ?_
  have hbusy : (orphanProtocol m).Sat (portSystem m) .message c (fun _ => Clean c)
      (cpTypeAtomicEnd d.portId >>= fun _ => Prog.ret Errno.ebusy) tr s :=
    sat_steady_bind (Prog.uses_op.2 rfl) h fun _ tr s h => sat_ret h id
  cases info with
  | none => exact hbusy
  | some info =>
      refine Protocol.Sat.ite (fun _ => hbusy) fun _ => ?_
      have hbut : HeldBut (· = d.portId) c tr s := ⟨h.calling, fun q _ => h.held q id⟩
      refine sat_setCpType hbut fun tr s h => ?_
      refine sat_addRefAppId h fun tr s h => ?_
      exact sat_steady_bind (Prog.uses_op.2 rfl) h fun _ tr s h => sat_ret h id

lemma sat_enablePort {level : UInt8} (h : Clean c tr s) :
    (orphanProtocol m).Sat (portSystem m) .message c (fun _ => Clean c)
      (m.enablePort p a level) tr s := by
  rw [PortManager.enablePort]
  split
  · exact sat_ret h id
  · rename_i d _
    refine sat_steady_bind (Prog.uses_op.2 rfl) h fun connection tr s h => ?_
    refine Protocol.Sat.ite (fun _ => sat_ret h id) fun _ => ?_
    refine Protocol.Sat.ite (fun _ => sat_ret h id) fun _ => ?_
    refine sat_steady_bind (Prog.uses_op.2 rfl) h fun currCpType tr s h => ?_
    refine Protocol.Sat.ite (fun _ => ?_) fun _ => ?_
    · have hbut {p : ℕ} : HeldBut (· = p) c tr s := ⟨h.calling, fun q _ => h.held q id⟩
      exact sat_addRefAppId hbut fun tr s h => sat_ret h id
    · have hset : (m.setContentType d level).Uses fun o => steady o = true :=
        Prog.Uses.ite (fun _ => uses_setPortProperty (fun _ => rfl) rfl (fun _ => rfl) rfl)
          fun _ => trivial
      refine sat_steady_bind hset h fun ret tr s h => ?_
      refine Protocol.Sat.ite (fun _ => sat_ret h id) fun _ => ?_
      refine sat_steady_bind (uses_setPortProperty (fun _ => rfl) rfl (fun _ => rfl) rfl) h
        fun ret tr s h => ?_
      refine Protocol.Sat.ite (fun _ => sat_ret h id) fun _ => ?_
      refine sat_steady_bind (Prog.uses_op.2 rfl) h fun _ tr s h => ?_
      exact sat_checkEnabled h

/-! ### DisablePort -/

/-- An interaction with the kernel about a port that may have lost its last app: by the
condition, an answer that stops the release finds the port without a type. -/
lemma sat_confirm (hc : c.isRelease = true) (ho : steady o = true) (h : Emptied p c tr s) :
    (orphanProtocol m).Sat (portSystem m) .message c
      (fun (r : o.Ans) tr' s' => Emptied p c tr' s' ∧ (m.unconfirmed o r = true → Clean c tr' s'))
      (op (S := portSig) o) tr s := by
  intro tr' s' hrely _ r s'' hstep hadm
  have h := h.of_spared (hrely rfl)
  refine ⟨keeps_message h.calling, ?_⟩
  have h' := h.steady ho hstep
  have hclean : m.unconfirmed o r = true → ¬(s''.objects p).HasCpType := by
    intro hr
    rw [DrmState.HasCpType, (steady_step ho hstep p).2]
    exact hadm hc hr p h.counted
  intro tr₁ s₁ hrely' _
  have h₁ := h'.of_spared (hrely' rfl)
  exact ⟨h₁, fun hr => (h'.toHeldBut.clean (hclean hr)).of_spared (hrely' rfl)⟩

/-- `SetPortProperty` for `CP_OFF`. -/
lemma sat_writeOff {propId : ℕ} (hd : d ∈ m.drmObjects) (hc : c.isRelease = true)
    (h : Emptied p c tr s) :
    (orphanProtocol m).Sat (portSystem m) .message c
      (fun ret tr' s' => Emptied p c tr' s' ∧ (ret ≠ .success → Clean c tr' s'))
      (m.setPortProperty d.drmId propId 1 cpOff 1) tr s := by
  have hret {tr : PortTrace} {s : PortState} (x : Errno) (h : Emptied p c tr s)
      (hx : x ≠ .success → Clean c tr s) : (orphanProtocol m).Sat (portSystem m) .message c
        (fun ret tr' s' => Emptied p c tr' s' ∧ (ret ≠ .success → Clean c tr' s'))
        (.ret x) tr s :=
    fun _ _ hrely _ =>
      ⟨h.of_spared (hrely rfl), fun hne => (hx hne).of_spared (hrely rfl)⟩
  rw [PortManager.setPortProperty, m.getDrmObjectByDrmId_of_mem hd]
  refine Protocol.Sat.ite (fun _ => ?_) fun _ => ?_
  · refine (sat_confirm hc rfl h).bind fun done tr s _ hpost => ?_
    obtain ⟨h, hdone⟩ := hpost
    refine Protocol.Sat.ite (fun hnot => hret _ h fun _ => hdone hnot) fun _ => ?_
    exact hret _ h fun hne => absurd rfl hne
  · refine (sat_confirm hc rfl h).bind fun done tr s _ hpost => ?_
    obtain ⟨h, hdone⟩ := hpost
    refine Protocol.Sat.ite (fun hnot => hret _ h fun _ => hdone hnot) fun _ => ?_
    have hvalue : propertyValue cpOff 1 = pure (some (.einval, cpOff)) := rfl
    rw [hvalue, Prog.pure_eq, Prog.ret_bind]
    have hretry : (orphanProtocol m).Sat (portSystem m) .message c
        (fun ret tr' s' => Emptied p c tr' s' ∧ (ret ≠ .success → Clean c tr' s'))
        (setPropertyRetry d.drmId propId cpOff 1 .einval) tr s := by
      rw [setPropertyRetry]
      refine (sat_confirm hc rfl h).bind fun (done : Bool) tr s _ hpost => ?_
      obtain ⟨h, hdone⟩ := hpost
      refine Protocol.Sat.ite (fun _ => hret _ h fun hne => absurd rfl hne) fun hnot => ?_
      have hnot : (!done) = true := by simpa using hnot
      exact hret _ h fun _ => hdone hnot
    refine hretry.bind fun ret tr s _ hpost => ?_
    obtain ⟨h, hclean⟩ := hpost
    refine Protocol.Sat.ite (fun hne => hret _ h fun _ => hclean hne) fun _ => ?_
    refine (sat_confirm hc rfl h).bind fun done tr s _ hpost => ?_
    obtain ⟨h, hdone⟩ := hpost
    refine Protocol.Sat.ite (fun hnot => hret _ h fun _ => hdone hnot) fun _ => ?_
    exact hret _ h fun hne => absurd rfl hne

/-- The end of `DisablePort`. -/
lemma sat_checkDisabled (hd : d ∈ m.drmObjects) (hc : c.isRelease = true)
    (h : Emptied d.portId c tr s) :
    (orphanProtocol m).Sat (portSystem m) .message c (fun _ => Clean c) (checkDisabled d)
      tr s := by
  have hbusy {tr : PortTrace} {s : PortState} (h : Clean c tr s) :
      (orphanProtocol m).Sat (portSystem m) .message c (fun _ => Clean c)
        (cpTypeAtomicEnd d.portId >>= fun _ => Prog.ret Errno.ebusy) tr s :=
    sat_steady_bind (Prog.uses_op.2 rfl) h fun _ tr s h => sat_ret h id
  rw [checkDisabled]
  refine (sat_confirm hc rfl h).bind fun _ tr s _ hpost => ?_
  obtain ⟨h, -⟩ := hpost
  show (orphanProtocol m).Sat _ _ _ _ ((_ >>= _) >>= _) tr s
  rw [Prog.bind_assoc]
  refine (sat_confirm hc rfl h).bind fun properties tr s _ hpost => ?_
  obtain ⟨h, hread⟩ := hpost
  have hread : m.notOff d.drmId properties = true → Clean c tr s := hread
  cases properties with
  | none => exact hbusy (hread rfl)
  | some properties =>
      rw [PortManager.notOff, m.getDrmObjectByDrmId_of_mem hd] at hread
      refine Protocol.Sat.ite (fun hne => hbusy (hread (bne_iff_ne.2 hne))) fun _ => ?_
      refine sat_setCpType_invalid h.toHeldBut fun tr s h => ?_
      exact sat_steady_bind (Prog.uses_op.2 rfl) h fun _ tr s h => sat_ret h id

/-- `DisablePort`, called directly or for an app that exits. -/
lemma sat_disablePort (hc : c.isRelease = true) (h : Clean c tr s) :
    (orphanProtocol m).Sat (portSystem m) .message c (fun _ => Clean c)
      (m.disablePort p a) tr s := by
  rw [PortManager.disablePort]
  split
  · exact sat_ret h id
  · rename_i d hd
    obtain rfl := m.portId_of_getDrmObjectByPortId hd
    have hmem := m.mem_of_getDrmObjectByPortId hd
    refine sat_steady_bind (Prog.uses_op.2 rfl) h fun connection tr s h => ?_
    refine Protocol.Sat.ite (fun _ => sat_ret h id) fun _ => ?_
    refine sat_removeRefAppId h fun tr s h => ?_
    refine sat_getRefAppCount h fun count tr s h hpos => ?_
    refine Protocol.Sat.ite (fun hcount => sat_ret (hpos hcount) id) fun _ => ?_
    refine (sat_writeOff hmem hc h).bind fun ret tr s _ hpost => ?_
    obtain ⟨h, hclean⟩ := hpost
    refine Protocol.Sat.ite (fun hne => sat_ret (hclean hne) id) fun _ => ?_
    exact sat_checkDisabled hmem hc h

lemma sat_removeLoop (hc : c.isRelease = true) (drmObjects : List DrmObject)
    (h : Clean c tr s) :
    (orphanProtocol m).Sat (portSystem m) .message c (fun _ => Clean c)
      (m.removeLoop a drmObjects) tr s := by
  induction drmObjects generalizing tr s with
  | nil => exact sat_ret h id
  | cons d drmObjects ih =>
      exact (sat_disablePort hc h).bind fun _ tr s _ h => ih h

/-! ### Runs -/

/-- The other threads may take a type, and call and return as they like. -/
lemma keeps_other {l : PortLabel} (hl : Spared tr s (l :: tr) s')
    (hinv : OrphanInv tr s) : (orphanProtocol m).Keeps i tr s l s' := by
  refine ⟨fun p htype => ?_, fun _ _ _ => hl⟩
  rw [hl.appIds, hl.calling]
  exact hinv p (hl.cpType p htype)

/-- The interactions of the other threads. -/
def Sparing (o : PortOp) : Prop :=
  o.onAppIds = false ∧ ∀ p t, o = .setCpType p t → t = cpTypeInvalid

lemma sparing_of_aside {o : PortOp} (h : o.aside = true) : Sparing o := by
  refine ⟨onAppIds_of_aside h, fun p t hset => ?_⟩
  subst hset
  exact absurd h (by simp [PortOp.aside])

lemma spared_op (hi : i ≠ .message) (ho : Sparing o) (hstep : portStep i o r s = some s') :
    Spared tr s (.op i c ⟨o, r⟩ :: tr) s' := by
  refine ⟨portStep_appIds ho.1 hstep, fun p htype => ?_, rfl, callEvents_op_of_ne hi⟩
  by_cases hset : ∃ q t, o = .setCpType q t
  · obtain ⟨q, t, rfl⟩ := hset
    obtain rfl := ho.2 q t rfl
    obtain rfl := Option.some.inj hstep
    by_cases hp : p = q
    · subst hp
      rw [PortState.modify_objects_self] at htype
      exact absurd rfl htype
    · rwa [PortState.modify_objects_of_ne hp] at htype
  · rw [DrmState.HasCpType, portStep_setCpType (fun q t h => hset ⟨q, t, h⟩) hstep] at htype
    exact htype

lemma spared_call (hi : i ≠ .message) : Spared tr s (.call i c :: tr) s :=
  ⟨fun _ => rfl, fun _ h => h, if_neg hi, if_neg hi⟩

lemma spared_ret {x : Errno} (hi : i ≠ .message) : Spared tr s (.ret i c x :: tr) s :=
  ⟨fun _ => rfl, fun _ h => h, if_neg hi, rfl⟩

lemma sat_other (hi : i ≠ .message) (hc : (m.callBody c).Uses Sparing) :
    (orphanProtocol m).Sat (portSystem m) i c ((orphanProtocol m).Returned i c)
      (m.callBody c) tr s := by
  have hsat : (orphanProtocol m).Sat (portSystem m) i c (fun _ _ _ => True)
      (m.callBody c) tr s := by
    refine Protocol.sat_of_keeps hc trivial (fun _ _ => trivial) ?_
    intro o r tr s s' ho hinv _ hstep _
    exact ⟨keeps_other (spared_op hi ho hstep) hinv, trivial⟩
  exact hsat.mono fun x tr s hinv _ _ => keeps_other (spared_ret hi) hinv

/-- The calls of the message thread. -/
lemma sat_message (hmay : portMay .message c = true) (h : Clean c tr s) :
    (orphanProtocol m).Sat (portSystem m) .message c (fun _ => Clean c) (m.callBody c) tr s := by
  cases c with
  | enumeratePorts => exact sat_steady (uses_enumeratePorts fun o => steady_of_aside) h
  | enablePort p a level => exact sat_enablePort h
  | disablePort p a => exact sat_disablePort rfl h
  | removeAppFromPorts a => exact sat_removeLoop rfl m.drmObjects h
  | getStatus p =>
      exact sat_steady (uses_getStatus (fun o ho _ => steady_of_aside ho) fun _ => rfl) h
  | processHotPlug => exact absurd hmay (by decide)
  | checkIntegrity => exact absurd hmay (by decide)

lemma inv_of_run {cfg : PortConfig}
    (hrun : (portSystem m).Run (orphanCondition m) initState tr cfg) :
    OrphanInv tr cfg.shared := by
  refine (Protocol.sound (P := orphanProtocol m) ?_ ?_ hrun).1
  · exact fun p htype => absurd (by decide : u8 uint32Max = cpTypeInvalid) htype
  · intro i c tr s hmay hidle hinv _
    cases i with
    | message =>
        have hclean : Clean c (.call .message c :: tr) s :=
          ⟨rfl, fun p _ htype => (hinv p htype).resolve_right fun h => h hidle⟩
        refine ⟨⟨fun p _ => .inr (Option.some_ne_none c), fun j hj hj' => absurd hj' hj⟩, ?_⟩
        refine (sat_message hmay hclean).mono fun x tr s _ h _ => ?_
        exact ⟨fun p htype => .inl (h.held p id htype), fun j hj hj' => absurd hj' hj⟩
    | integrity =>
        obtain rfl := eq_checkIntegrity hmay
        refine ⟨keeps_other (spared_call (by decide)) hinv, ?_⟩
        refine sat_other (by decide) (uses_checkIntegrity (fun o ho _ => sparing_of_aside ho) ?_)
        exact fun o ho hset => ⟨onAppIds_of_onProtection ho, hset⟩
    | uevent =>
        obtain rfl := eq_processHotPlug hmay
        refine ⟨keeps_other (spared_call (by decide)) hinv, ?_⟩
        exact sat_other (by decide) (uses_processHotPlug fun o => sparing_of_aside)

end Orphan

/-! ### No orphaned protection -/

/-- In every run in which the kernel does not stop a release on a port that still has a type,
every port with a type has an app whenever the message thread is between two calls. -/
theorem protected_ports_are_held {m : PortManager} {tr : PortTrace} {cfg : PortConfig}
    (hrun : (portSystem m).Run (orphanCondition m) initState tr cfg)
    (hidle : cfg.threads .message = none) (p : ℕ) (htype : (cfg.shared.objects p).HasCpType) :
    (cfg.shared.objects p).appIds ≠ [] := by
  refine (Orphan.inv_of_run hrun p htype).resolve_right fun hcalling => hcalling ?_
  rw [hrun.calling_eq, hidle, Option.map_none]

/-- The app 7 enables the port 0. -/
def enablePortZero : List PortAction :=
  completeCall .message (.enablePort 0 7 hdcpLevel1) 14
    (portAnswer (some drmModeConnected) (some [(101, cpEnabled), (102, cpType0)]))

/-- No release is stopped. -/
def neverStopped (m : PortManager) : PortTrace → PortState → PortLabel → Bool
  | _, _, .op _ c e => !(c.isRelease && m.unconfirmed e.op e.ans)
  | _, _, _ => true

lemma orphanCondition_of_neverStopped {m : PortManager} (tr : PortTrace) (s : PortState)
    (l : PortLabel) (h : neverStopped m tr s l) : orphanCondition m tr s l := by
  rw [orphanCondition.eq_def]
  split
  · intro hc hr
    simp [neverStopped, hc, hr] at h
  · trivial

/-- The app 8 enables the port too, and then the app 7 disables it. -/
def releaseShared : List PortAction :=
  enablePortZero ++ completeCall .message (.enablePort 0 8 hdcpLevel1) 3 (portAnswer none none) ++
    completeCall .message (.disablePort 0 7) 3 (portAnswer none none)

theorem protected_ports_are_held_releaseShared :
    ∃ x, (onePort false).scheduled (neverStopped (onePort false)) releaseShared = some x ∧
      (x.2.shared.objects 0).cpType = cpType0 ∧ (x.2.shared.objects 0).appIds ≠ [] := by
  obtain ⟨x, hx, hrun, htest⟩ := exists_run_of_scheduled (onePort false)
    (neverStopped (onePort false)) orphanCondition_of_neverStopped releaseShared
    (fun x => (x.2.threads .message).isNone && (x.2.shared.objects 0).cpType == cpType0)
    (by decide)
  simp only [Bool.and_eq_true, Option.isNone_iff_eq_none, beq_iff_eq] at htest
  refine ⟨x, hx, htest.2, protected_ports_are_held hrun htest.1 0 ?_⟩
  rw [DrmState.HasCpType, htest.2]
  decide

/-- The kernel refuses to set a property. -/
def refusingSets : (o : PortOp) → PortState → o.Ans
  | .drmModeConnectorSetProperty _ _ _, _ => false
  | o, s => portAnswer none none o s

/-- The app 7 disables the port and the kernel refuses the write. -/
def refusedRelease : List PortAction :=
  enablePortZero ++ completeCall .message (.disablePort 0 7) 5 refusingSets

/-- When all calls have returned, the port has a type and no app. -/
theorem refused_release_orphans :
    ∃ x, (onePort false).scheduled (fun _ _ _ => true) refusedRelease = some x ∧
      (portSystem (onePort false)).AnyRun initState x.1 x.2 ∧
      (∀ i, x.2.threads i = none) ∧ (x.2.shared.objects 0).HasCpType ∧
      (x.2.shared.objects 0).appIds = [] := by
  obtain ⟨x, hx, hrun, htest⟩ := exists_run_of_scheduled (onePort false)
    (fun _ _ _ => true) (C := fun _ _ _ => True) (fun _ _ _ _ => trivial) refusedRelease
    (fun x => (x.2.threads .message).isNone && (x.2.threads .integrity).isNone &&
      (x.2.threads .uevent).isNone && (x.2.shared.objects 0).cpType == cpType0 &&
      (x.2.shared.objects 0).appIds.isEmpty) (by decide)
  simp only [Bool.and_eq_true, Option.isNone_iff_eq_none, beq_iff_eq,
    List.isEmpty_iff] at htest
  obtain ⟨⟨⟨⟨hmessage, hintegrity⟩, huevent⟩, htype⟩, happs⟩ := htest
  refine ⟨x, hx, hrun, fun i => ?_, ?_, happs⟩
  · cases i with
    | message => exact hmessage
    | integrity => exact hintegrity
    | uevent => exact huevent
  · rw [DrmState.HasCpType, htype]
    decide

end Hdcp.Port
