/-
What the interactions of the port manager do, and which of them its functions make.

The fields of the DRM objects change in few interactions.  `portStep_cases` lists
them once; what the other interactions leave alone follows from it.  The rest of the
file bounds the interactions of each function that is not part of `EnablePort`,
`DisablePort` or `CheckIntegrity`, so that the arguments about those three can treat
it as a step that changes nothing.
-/
import Mathlib.Data.List.Nodup
import Hdcp.Port.Model

namespace Hdcp.Port

open Library
open Library.Prog (op forEach)

/-! ### The state -/

namespace PortState

variable {s s' : PortState} {p q x r : ℕ} {f : DrmState → DrmState}

@[simp] lemma answer_eq_some : s.answer x r = some s' ↔ r = x ∧ s' = s := by
  rw [answer]
  split
  · rename_i h
    simp [h, eq_comm]
  · rename_i h
    simp [h]

@[simp] lemma modify_objects_self : (s.modify p f).objects p = f (s.objects p) := by
  simp [modify]

lemma modify_objects_of_ne (h : q ≠ p) : (s.modify p f).objects q = s.objects q := by
  simp [modify, h]

/-- A change that keeps a field of an object keeps it in every object. -/
lemma modify_objects_field {α : Type} (field : DrmState → α)
    (hf : ∀ d, field (f d) = field d) :
    field ((s.modify p f).objects q) = field (s.objects q) := by
  by_cases hq : q = p
  · subst hq
    rw [modify_objects_self, hf]
  · rw [modify_objects_of_ne hq]

/-- `AddRefAppId` adds the app to the holders of the port. -/
lemma mem_addRefAppId {a b : ℕ} :
    b ∈ ((s.modify p fun d => d.addRefAppId a).objects q).appIds ↔
      b ∈ (s.objects q).appIds ∨ q = p ∧ b = a := by
  by_cases hq : q = p
  · subst hq
    rw [modify_objects_self, DrmState.addRefAppId]
    by_cases ha : a ∈ (s.objects q).appIds
    · rw [if_pos ha]
      refine ⟨.inl, fun h => h.elim id ?_⟩
      rintro ⟨-, rfl⟩
      exact ha
    · rw [if_neg ha, List.mem_append, List.mem_singleton]
      simp
  · rw [modify_objects_of_ne hq]
    simp [hq]

lemma nodup_addRefAppId {a : ℕ} (h : (s.objects q).appIds.Nodup) :
    ((s.modify p fun d => d.addRefAppId a).objects q).appIds.Nodup := by
  by_cases hq : q = p
  · subst hq
    rw [modify_objects_self, DrmState.addRefAppId]
    by_cases ha : a ∈ (s.objects q).appIds
    · rw [if_pos ha]
      exact h
    · rw [if_neg ha]
      refine h.append (List.nodup_singleton a) ?_
      rw [List.disjoint_singleton]
      exact ha
  · rw [modify_objects_of_ne hq]
    exact h

/-- `RemoveRefAppId` removes the app from the holders of the port. -/
lemma mem_removeRefAppId {a b : ℕ} :
    b ∈ ((s.modify p fun d => d.removeRefAppId a).objects q).appIds ↔
      b ∈ (s.objects q).appIds ∧ ¬(q = p ∧ b = a) := by
  by_cases hq : q = p
  · subst hq
    rw [modify_objects_self, DrmState.removeRefAppId, List.mem_filter]
    simp
  · rw [modify_objects_of_ne hq]
    simp [hq]

lemma nodup_removeRefAppId {a : ℕ} (h : (s.objects q).appIds.Nodup) :
    ((s.modify p fun d => d.removeRefAppId a).objects q).appIds.Nodup := by
  by_cases hq : q = p
  · subst hq
    rw [modify_objects_self]
    exact h.filter _
  · rw [modify_objects_of_ne hq]
    exact h

@[simp] lemma modify_cpTypeMutex : (s.modify p f).cpTypeMutex = s.cpTypeMutex := rfl

@[simp] lemma modify_connectionMutex :
    (s.modify p f).connectionMutex = s.connectionMutex := rfl

end PortState

/-- The interactions on the holders of a port. -/
def PortOp.onAppIds : PortOp → Bool
  | .addRefAppId _ _ | .removeRefAppId _ _ | .getRefAppCount _ | .clearRefAppId _ => true
  | _ => false

/-- The interactions on the cached type of a port, or on its mutex. -/
def PortOp.onCpType : PortOp → Bool
  | .setCpType _ _ | .cpTypeAtomicBegin _ | .cpTypeAtomicEnd _ => true
  | _ => false

/-- The port whose connection an interaction sets, or whose connection mutex it uses. -/
def PortOp.connectionOf : PortOp → Option ℕ
  | .setConnection p _ | .connAtomicBegin p | .connAtomicEnd p => some p
  | _ => none

/-- The port whose cached type an interaction sets, or whose mutex of the cached type it
uses. -/
def PortOp.cpTypeOf : PortOp → Option ℕ
  | .setCpType p _ | .cpTypeAtomicBegin p | .cpTypeAtomicEnd p => some p
  | _ => none

lemma PortOp.cpTypeOf_eq_none {o : PortOp} (h : o.onCpType = false) : o.cpTypeOf = none := by
  cases o <;> first | rfl | exact absurd h (by simp [onCpType])

variable {i : Thread} {o : PortOp} {r : o.Ans} {s s' : PortState}

/-- What an interaction can do to the fields of the objects. -/
lemma portStep_cases (h : portStep i o r s = some s') :
    s'.objects = s.objects ∨
      (∃ p c, o = .setConnection p c ∧ s' = s.modify p fun d => { d with connection := c }) ∨
      (∃ p t, o = .setCpType p t ∧ s' = s.modify p fun d => { d with cpType := t }) ∨
      (∃ p a, o = .addRefAppId p a ∧ s' = s.modify p fun d => d.addRefAppId a) ∨
      (∃ p a, o = .removeRefAppId p a ∧ s' = s.modify p fun d => d.removeRefAppId a) ∨
      (∃ p, o = .clearRefAppId p ∧ s' = s.modify p DrmState.clearRefAppId) := by
  cases o
  case setConnection p c => exact .inr (.inl ⟨p, c, rfl, (Option.some.inj h).symm⟩)
  case setCpType p t => exact .inr (.inr (.inl ⟨p, t, rfl, (Option.some.inj h).symm⟩))
  case addRefAppId p a => exact .inr (.inr (.inr (.inl ⟨p, a, rfl, (Option.some.inj h).symm⟩)))
  case removeRefAppId p a =>
    exact .inr (.inr (.inr (.inr (.inl ⟨p, a, rfl, (Option.some.inj h).symm⟩))))
  case clearRefAppId p =>
    exact .inr (.inr (.inr (.inr (.inr ⟨p, rfl, (Option.some.inj h).symm⟩))))
  -- reads, mutexes and calls of libraries
  all_goals
    left
    simp only [portStep, Option.ite_none_right_eq_some, Option.some.injEq] at h
  all_goals first | rw [(PortState.answer_eq_some.1 h).2] | rw [← h.2] | rw [← h]

/-- The holders change only in an interaction on them. -/
lemma portStep_appIds (ho : o.onAppIds = false) (h : portStep i o r s = some s') (p : ℕ) :
    (s'.objects p).appIds = (s.objects p).appIds := by
  rcases portStep_cases h with h | ⟨q, c, rfl, rfl⟩ | ⟨q, t, rfl, rfl⟩ | ⟨q, a, rfl, rfl⟩ |
    ⟨q, a, rfl, rfl⟩ | ⟨q, rfl, rfl⟩
  · rw [h]
  · exact PortState.modify_objects_field DrmState.appIds fun _ => rfl
  · exact PortState.modify_objects_field DrmState.appIds fun _ => rfl
  · exact absurd ho (by simp [PortOp.onAppIds])
  · exact absurd ho (by simp [PortOp.onAppIds])
  · exact absurd ho (by simp [PortOp.onAppIds])

/-- The cached type of a port changes only where it is set. -/
lemma portStep_setCpType (ho : ∀ p t, o ≠ .setCpType p t) (h : portStep i o r s = some s')
    (p : ℕ) : (s'.objects p).cpType = (s.objects p).cpType := by
  rcases portStep_cases h with h | ⟨q, c, rfl, rfl⟩ | ⟨q, t, rfl, rfl⟩ | ⟨q, a, rfl, rfl⟩ |
    ⟨q, a, rfl, rfl⟩ | ⟨q, rfl, rfl⟩
  · rw [h]
  · exact PortState.modify_objects_field DrmState.cpType fun _ => rfl
  · exact absurd rfl (ho q t)
  · exact PortState.modify_objects_field DrmState.cpType fun _ => rfl
  · exact PortState.modify_objects_field DrmState.cpType fun _ => rfl
  · exact PortState.modify_objects_field DrmState.cpType fun _ => rfl

/-- The cached type of a port and its mutex change only in an interaction on them. -/
lemma portStep_cpTypeOf {p : ℕ} (ho : o.cpTypeOf ≠ some p) (h : portStep i o r s = some s') :
    s'.cpTypeMutex p = s.cpTypeMutex p ∧ (s'.objects p).cpType = (s.objects p).cpType := by
  constructor
  · cases o
    case cpTypeAtomicBegin q =>
      simp only [portStep, Option.ite_none_right_eq_some, Option.some.injEq] at h
      rw [← h.2]
      exact Function.update_of_ne (fun hpq => ho (congrArg some hpq.symm)) _ _
    case cpTypeAtomicEnd q =>
      rw [← Option.some.inj h]
      exact Function.update_of_ne (fun hpq => ho (congrArg some hpq.symm)) _ _
    all_goals simp only [portStep, Option.ite_none_right_eq_some, Option.some.injEq] at h
    all_goals first
      | rw [(PortState.answer_eq_some.1 h).2]
      | rw [← h.2]
      | rw [← h, PortState.modify_cpTypeMutex]
      | rw [← h]
  · rcases portStep_cases h with h | ⟨q, c, rfl, rfl⟩ | ⟨q, t, rfl, rfl⟩ | ⟨q, a, rfl, rfl⟩ |
      ⟨q, a, rfl, rfl⟩ | ⟨q, rfl, rfl⟩
    · rw [h]
    · exact PortState.modify_objects_field DrmState.cpType fun _ => rfl
    · rw [PortState.modify_objects_of_ne fun hpq => ho (congrArg some hpq.symm)]
    · exact PortState.modify_objects_field DrmState.cpType fun _ => rfl
    · exact PortState.modify_objects_field DrmState.cpType fun _ => rfl
    · exact PortState.modify_objects_field DrmState.cpType fun _ => rfl

/-- The cached types and their mutexes change only in an interaction on them. -/
lemma portStep_cpType (ho : o.onCpType = false) (h : portStep i o r s = some s') :
    s'.cpTypeMutex = s.cpTypeMutex ∧
      ∀ p, (s'.objects p).cpType = (s.objects p).cpType := by
  have hnone (p : ℕ) : o.cpTypeOf ≠ some p := by simp [PortOp.cpTypeOf_eq_none ho]
  exact ⟨funext fun p => (portStep_cpTypeOf (hnone p) h).1,
    fun p => (portStep_cpTypeOf (hnone p) h).2⟩

/-- The connection of a port and its mutex change only in an interaction on them. -/
lemma portStep_connection {p : ℕ} (ho : o.connectionOf ≠ some p)
    (h : portStep i o r s = some s') :
    s'.connectionMutex p = s.connectionMutex p ∧
      (s'.objects p).connection = (s.objects p).connection := by
  constructor
  · cases o
    case connAtomicBegin q =>
      simp only [portStep, Option.ite_none_right_eq_some, Option.some.injEq] at h
      rw [← h.2]
      exact Function.update_of_ne (fun hpq => ho (congrArg some hpq.symm)) _ _
    case connAtomicEnd q =>
      rw [← Option.some.inj h]
      exact Function.update_of_ne (fun hpq => ho (congrArg some hpq.symm)) _ _
    all_goals simp only [portStep, Option.ite_none_right_eq_some, Option.some.injEq] at h
    all_goals first
      | rw [(PortState.answer_eq_some.1 h).2]
      | rw [← h.2]
      | rw [← h, PortState.modify_connectionMutex]
      | rw [← h]
  · rcases portStep_cases h with h | ⟨q, c, rfl, rfl⟩ | ⟨q, t, rfl, rfl⟩ | ⟨q, a, rfl, rfl⟩ |
      ⟨q, a, rfl, rfl⟩ | ⟨q, rfl, rfl⟩
    · rw [h]
    · rw [PortState.modify_objects_of_ne fun hpq => ho (congrArg some hpq.symm)]
    · exact PortState.modify_objects_field DrmState.connection fun _ => rfl
    · exact PortState.modify_objects_field DrmState.connection fun _ => rfl
    · exact PortState.modify_objects_field DrmState.connection fun _ => rfl
    · exact PortState.modify_objects_field DrmState.connection fun _ => rfl

/-! ### The threads and the objects -/

lemma eq_checkIntegrity {c : PortCall} (h : portMay .integrity c = true) :
    c = .checkIntegrity := by
  cases c <;> first | rfl | exact absurd h (by simp [portMay])

lemma eq_processHotPlug {c : PortCall} (h : portMay .uevent c = true) :
    c = .processHotPlug := by
  cases c <;> first | rfl | exact absurd h (by simp [portMay])

namespace PortManager

variable {m : PortManager} {d d' : DrmObject} {p : ℕ}

lemma portId_of_getDrmObjectByPortId (h : m.getDrmObjectByPortId p = some d) :
    d.portId = p := by
  simpa using List.find?_some h

lemma mem_of_getDrmObjectByPortId (h : m.getDrmObjectByPortId p = some d) :
    d ∈ m.drmObjects :=
  List.mem_of_find?_eq_some h

lemma getDrmObjectByPortId_of_mem (hd : d ∈ m.drmObjects) :
    m.getDrmObjectByPortId d.portId = some d := by
  rcases hfind : m.getDrmObjectByPortId d.portId with _ | d'
  · have hnone := List.find?_eq_none.1 hfind d hd
    exact absurd hnone (by simp)
  · have hid := m.portId_of_getDrmObjectByPortId hfind
    have hd' := m.mem_of_getDrmObjectByPortId hfind
    rw [List.inj_on_of_nodup_map m.portIds_nodup hd' hd hid]

lemma getDrmObjectByDrmId_of_mem (hd : d ∈ m.drmObjects) :
    m.getDrmObjectByDrmId d.drmId = some d := by
  rcases hfind : m.getDrmObjectByDrmId d.drmId with _ | d'
  · have hnone := List.find?_eq_none.1 hfind d hd
    exact absurd hnone (by simp)
  · have hid : d'.drmId = d.drmId := by simpa using List.find?_some hfind
    have hd' : d' ∈ m.drmObjects := List.mem_of_find?_eq_some hfind
    rw [List.inj_on_of_nodup_map m.drmIds_nodup hd' hd hid]

lemma eq_of_drmId_eq (hd : d ∈ m.drmObjects) (hd' : d' ∈ m.drmObjects)
    (h : d.drmId = d'.drmId) : d = d' :=
  List.inj_on_of_nodup_map m.drmIds_nodup hd hd' h

lemma drmId_ne (hd : d ∈ m.drmObjects) (hd' : d' ∈ m.drmObjects) (h : d ≠ d') :
    d.drmId ≠ d'.drmId :=
  fun heq => h (m.eq_of_drmId_eq hd hd' heq)

lemma portId_ne (hd : d ∈ m.drmObjects) (hd' : d' ∈ m.drmObjects) (h : d ≠ d') :
    d.portId ≠ d'.portId :=
  fun heq => h (List.inj_on_of_nodup_map m.portIds_nodup hd hd' heq)

end PortManager

lemma DrmObject.getPropertyId_of_ne {d : DrmObject} {name : PropertyName}
    (h : d.getPropertyId name ≠ uint32Max) :
    ∃ prop ∈ d.propertyList, prop.name = name ∧ prop.propertyId = d.getPropertyId name := by
  rcases hfind : d.propertyList.find? fun prop => prop.name == name with _ | prop
  · exact absurd (by rw [getPropertyId, hfind]) h
  · refine ⟨prop, List.mem_of_find?_eq_some hfind, ?_, by rw [getPropertyId, hfind]⟩
    simpa using List.find?_some hfind

/-- The content type and the content protection are different properties. -/
lemma DrmObject.contentType_ne_contentProtection {d : DrmObject} (h : d.type1Capable = true) :
    d.getPropertyId .cpContentType ≠ d.getPropertyId .contentProtection := by
  intro heq
  have hne : d.getPropertyId .cpContentType ≠ uint32Max := by simpa [type1Capable] using h
  obtain ⟨x, hx, hxname, hxid⟩ := d.getPropertyId_of_ne hne
  obtain ⟨y, hy, hyname, hyid⟩ := d.getPropertyId_of_ne (heq ▸ hne)
  have hname := d.ids_inj x hx y hy (by rw [hxid, hyid, heq])
  rw [hxname, hyname] at hname
  exact absurd hname (by decide)

/-- The protection type is a byte. -/
lemma DrmObject.scanProperties_snd_lt (d : DrmObject) (properties : List (ℕ × ℕ)) :
    ∀ cpValue cpType, cpType < 2 ^ 8 →
      (d.scanProperties properties cpValue cpType).2 < 2 ^ 8 := by
  induction properties with
  | nil => exact fun _ _ h => h
  | cons x properties ih =>
      intro cpValue cpType h
      rw [scanProperties]
      split
      · exact ih _ _ h
      · split
        · exact ih _ _ (Nat.mod_lt _ (by decide))
        · exact ih _ _ h

/-- An enabled port is read with a valid type. -/
lemma DrmObject.protectionInfo_snd_lt (d : DrmObject) (properties : List (ℕ × ℕ))
    (h : (d.protectionInfo properties).1 = cpEnabled) :
    (d.protectionInfo properties).2 < cpTypeInvalid := by
  have hlt := d.scanProperties_snd_lt properties cpValueInvalid cpTypeInvalid (by decide)
  rw [protectionInfo] at h ⊢
  dsimp only at h ⊢
  split
  case isTrue => exact (by decide : cpType0 < cpTypeInvalid)
  case isFalse hne =>
    rw [if_neg hne] at h
    have hvalid := fun htype => hne ⟨h, htype⟩
    exact lt_of_le_of_ne (Nat.le_of_lt_succ hlt) hvalid

/-! ### Interactions that a function makes -/

/-- The interactions that concern neither the holders nor the protection of a port. -/
def PortOp.aside : PortOp → Bool
  | .getConnection _ | .setConnection _ _ | .connAtomicBegin _ | .connAtomicEnd _
  | .callBackListBegin | .callBackListEnd | .sendReport _ _ | .drmModeGetConnector _
  | .sleep | .storePort _ _ _ | .storePortCount _ | .storePortStatus _ => true
  | _ => false

/-- The interactions that read or cache the protection of a port. -/
def PortOp.onProtection : PortOp → Bool
  | .getCpType _ | .setCpType _ _ | .cpTypeAtomicBegin _ | .cpTypeAtomicEnd _
  | .drmModeObjectGetProperties _ => true
  | _ => false

lemma onAppIds_of_aside {o : PortOp} (h : o.aside = true) : o.onAppIds = false := by
  cases o <;> first | rfl | exact absurd h (by simp [PortOp.aside])

lemma onAppIds_of_onProtection {o : PortOp} (h : o.onProtection = true) :
    o.onAppIds = false := by
  cases o <;> first | rfl | exact absurd h (by simp [PortOp.onProtection])

variable {m : PortManager} {d : DrmObject} {A : PortOp → Prop}
  {drmId propId value numRetry : ℕ}

lemma uses_setPropertyRetry (hset : A (.drmModeConnectorSetProperty drmId propId value))
    (ret : Errno) : (setPropertyRetry drmId propId value numRetry ret).Uses A := by
  induction numRetry generalizing ret with
  | zero => trivial
  | succ numRetry ih =>
      rw [setPropertyRetry]
      refine Prog.Uses.bind (Prog.uses_op.2 hset) fun r => ?_
      exact Prog.Uses.ite (fun _ => trivial) fun _ => ih _

/-- The interactions that set a property of one byte. -/
lemma uses_setPortProperty (hutil : m.ias = true → A (.utilSetContentProtection drmId value))
    (hmaster : A .drmSetMaster)
    (hset : m.ias = false → A (.drmModeConnectorSetProperty drmId propId value))
    (hdrop : A .drmDropMaster) : (m.setPortProperty drmId propId 1 value numRetry).Uses A := by
  rw [PortManager.setPortProperty]
  split
  · trivial
  · rename_i d hd
    have hdrmId : d.drmId = drmId := by simpa using List.find?_some hd
    refine Prog.Uses.ite (fun hias => ?_) fun hias => ?_
    · refine Prog.Uses.bind (Prog.uses_op.2 (hutil hias)) fun r => ?_
      exact Prog.Uses.ite (fun _ => trivial) fun _ => trivial
    · refine Prog.Uses.bind (Prog.uses_op.2 hmaster) fun r => ?_
      refine Prog.Uses.ite (fun _ => trivial) fun _ => ?_
      have hvalue : propertyValue value 1 = pure (some (.einval, value)) := rfl
      rw [hvalue, Prog.pure_eq, Prog.ret_bind, hdrmId]
      refine (uses_setPropertyRetry (hset (by simpa using hias)) _).bind fun ret => ?_
      refine Prog.Uses.ite (fun _ => trivial) fun _ => ?_
      refine Prog.Uses.bind (Prog.uses_op.2 hdrop) fun r => ?_
      exact Prog.Uses.ite (fun _ => trivial) fun _ => trivial

lemma uses_getProtectionInfo (hA : A (.drmModeObjectGetProperties d.drmId)) :
    (getProtectionInfo d).Uses A := by
  refine Prog.Uses.bind (Prog.uses_op.2 hA) fun properties => ?_
  cases properties with
  | none => trivial
  | some properties => trivial

lemma uses_reportStatus (hA : ∀ o : PortOp, o.aside = true → o.connectionOf = none → A o)
    (event : PortEvent) (p : ℕ) :
    (reportStatus event p).Uses A := by
  refine Prog.Uses.bind (Prog.uses_op.2 (hA _ rfl rfl)) fun _ => ?_
  refine Prog.Uses.bind (Prog.uses_op.2 (hA _ rfl rfl)) fun _ => ?_
  exact Prog.uses_op.2 (hA _ rfl rfl)

lemma uses_enumerateLoop (hA : ∀ o : PortOp, o.aside = true → A o) (drmObjects : List DrmObject)
    (portCount : ℕ) : (enumerateLoop drmObjects portCount).Uses A := by
  induction drmObjects generalizing portCount with
  | nil => trivial
  | cons d drmObjects ih =>
      rw [enumerateLoop]
      refine Prog.Uses.bind (Prog.uses_op.2 (hA _ rfl)) fun _ => ?_
      refine Prog.Uses.bind (Prog.uses_op.2 (hA _ rfl)) fun connection => ?_
      cases connection with
      | none => exact Prog.Uses.bind (Prog.uses_op.2 (hA _ rfl)) fun _ => trivial
      | some connection =>
          refine Prog.Uses.ite (fun _ => ?_) fun _ => ?_
          · refine Prog.Uses.bind (Prog.uses_op.2 (hA _ rfl)) fun _ => ?_
            refine Prog.Uses.bind (Prog.uses_op.2 (hA _ rfl)) fun _ => ?_
            refine Prog.Uses.bind (Prog.uses_op.2 (hA _ rfl)) fun _ => ?_
            exact Prog.Uses.bind (Prog.uses_op.2 (hA _ rfl)) fun _ => ih _
          · refine Prog.Uses.bind (Prog.uses_op.2 (hA _ rfl)) fun _ => ?_
            exact Prog.Uses.bind (Prog.uses_op.2 (hA _ rfl)) fun _ => ih _

lemma uses_enumeratePorts (hA : ∀ o : PortOp, o.aside = true → A o) :
    m.enumeratePorts.Uses A := by
  rw [PortManager.enumeratePorts]
  refine (Prog.uses_forEach fun _ _ => Prog.uses_op.2 (hA _ rfl)).bind fun _ => ?_
  refine Prog.Uses.bind (Prog.uses_op.2 (hA _ rfl)) fun _ => ?_
  exact Prog.Uses.ite (fun _ => trivial) fun _ => uses_enumerateLoop hA _ _

lemma uses_processHotPlug (hA : ∀ o : PortOp, o.aside = true → A o) :
    m.processHotPlug.Uses A := by
  rw [PortManager.processHotPlug]
  refine (Prog.uses_forEach fun d _ => ?_).bind fun _ => trivial
  rw [hotPlugRound]
  refine Prog.Uses.bind (Prog.uses_op.2 (hA _ rfl)) fun _ => ?_
  refine Prog.Uses.bind (Prog.uses_op.2 (hA _ rfl)) fun connection => ?_
  cases connection with
  | none => exact Prog.uses_op.2 (hA _ rfl)
  | some connection =>
      refine Prog.Uses.bind (Prog.uses_op.2 (hA _ rfl)) fun current => ?_
      refine Prog.Uses.ite (fun _ => Prog.uses_op.2 (hA _ rfl)) fun _ => ?_
      have hreport : (reportConnection connection d.portId).Uses A :=
        Prog.Uses.ite (fun _ => uses_reportStatus (fun o ho _ => hA o ho) _ _) fun _ =>
          Prog.Uses.ite (fun _ => uses_reportStatus (fun o ho _ => hA o ho) _ _) fun _ => trivial
      refine hreport.bind fun _ => ?_
      exact Prog.Uses.bind (Prog.uses_op.2 (hA _ rfl)) fun _ => Prog.uses_op.2 (hA _ rfl)

lemma uses_getStatus (hA : ∀ o : PortOp, o.aside = true → o.connectionOf = none → A o)
    (hproperties : ∀ drmId, A (.drmModeObjectGetProperties drmId)) {portId : ℕ} :
    (m.getStatus portId).Uses A := by
  rw [PortManager.getStatus]
  split
  · trivial
  · rename_i d _
    refine Prog.Uses.bind (Prog.uses_op.2 (hA _ rfl rfl)) fun connection => ?_
    cases connection with
    | none => trivial
    | some connection =>
        refine Prog.Uses.ite (fun _ => ?_) fun _ => ?_
        · exact Prog.Uses.bind (Prog.uses_op.2 (hA _ rfl rfl)) fun _ => trivial
        · refine Prog.Uses.bind (Prog.uses_op.2 (hA _ rfl rfl)) fun _ => ?_
          refine Prog.Uses.bind (uses_getProtectionInfo (hproperties _)) fun info => ?_
          cases info with
          | none => trivial
          | some info =>
              have hstore : (storeHdcpStatus info.1 info.2).Uses A :=
                Prog.Uses.ite (fun _ => Prog.uses_op.2 (hA _ rfl rfl)) fun _ =>
                  Prog.Uses.ite (fun _ => Prog.uses_op.2 (hA _ rfl rfl)) fun _ => trivial
              exact hstore.bind fun _ => trivial

lemma uses_integrityRound (hbegin : A (.cpTypeAtomicBegin d.portId))
    (hcached : A (.getCpType d.portId)) (hread : A (.drmModeObjectGetProperties d.drmId))
    (hreport : (reportStatus .linkLost d.portId).Uses A)
    (hreset : A (.setCpType d.portId cpTypeInvalid)) (hend : A (.cpTypeAtomicEnd d.portId)) :
    (integrityRound d).Uses A := by
  rw [integrityRound]
  refine Prog.Uses.bind (Prog.uses_op.2 hbegin) fun _ => ?_
  refine Prog.Uses.bind (Prog.uses_op.2 hcached) fun current => ?_
  refine Prog.Uses.ite (fun _ => Prog.uses_op.2 hend) fun _ => ?_
  refine Prog.Uses.bind (uses_getProtectionInfo hread) fun info => ?_
  cases info with
  | none => exact Prog.uses_op.2 hend
  | some info =>
      refine Prog.Uses.ite (fun _ => ?_) fun _ => Prog.uses_op.2 hend
      refine hreport.bind fun _ => ?_
      exact Prog.Uses.bind (Prog.uses_op.2 hreset) fun _ => Prog.uses_op.2 hend

/-- `CheckIntegrity` sets no type but the invalid one. -/
lemma uses_checkIntegrity (hA : ∀ o : PortOp, o.aside = true → o.connectionOf = none → A o)
    (hA' : ∀ o : PortOp, o.onProtection = true →
      (∀ p t, o = .setCpType p t → t = cpTypeInvalid) → A o) : m.checkIntegrity.Uses A := by
  rw [PortManager.checkIntegrity]
  refine (Prog.uses_forEach fun d _ => ?_).bind fun _ => trivial
  have hreset : A (.setCpType d.portId cpTypeInvalid) :=
    hA' _ rfl fun p t hset => (PortOp.setCpType.inj hset).2.symm
  exact uses_integrityRound (hA' _ rfl (by simp)) (hA' _ rfl (by simp)) (hA' _ rfl (by simp))
    (uses_reportStatus hA _ _) hreset (hA' _ rfl (by simp))

/-- The ends of `EnablePort` and of `DisablePort` work on their own port. -/
lemma uses_checkEnabled {appId : ℕ} (hbegin : A (.cpTypeAtomicBegin d.portId))
    (hread : A (.drmModeObjectGetProperties d.drmId)) (hset : ∀ t, A (.setCpType d.portId t))
    (hadd : A (.addRefAppId d.portId appId)) (hend : A (.cpTypeAtomicEnd d.portId)) :
    (checkEnabled d appId).Uses A := by
  have hleave (ret : Errno) : (cpTypeAtomicEnd d.portId >>= fun _ => Prog.ret ret).Uses A :=
    Prog.Uses.bind (Prog.uses_op.2 hend) fun _ => trivial
  rw [checkEnabled]
  refine Prog.Uses.bind (Prog.uses_op.2 hbegin) fun _ => ?_
  refine Prog.Uses.bind (uses_getProtectionInfo hread) fun info => ?_
  cases info with
  | none => exact hleave _
  | some info =>
      refine Prog.Uses.ite (fun _ => hleave _) fun _ => ?_
      refine Prog.Uses.bind (Prog.uses_op.2 (hset _)) fun _ => ?_
      exact Prog.Uses.bind (Prog.uses_op.2 hadd) fun _ => hleave _

lemma uses_checkDisabled (hbegin : A (.cpTypeAtomicBegin d.portId))
    (hread : A (.drmModeObjectGetProperties d.drmId))
    (hreset : A (.setCpType d.portId cpTypeInvalid)) (hend : A (.cpTypeAtomicEnd d.portId)) :
    (checkDisabled d).Uses A := by
  have hleave (ret : Errno) : (cpTypeAtomicEnd d.portId >>= fun _ => Prog.ret ret).Uses A :=
    Prog.Uses.bind (Prog.uses_op.2 hend) fun _ => trivial
  rw [checkDisabled]
  refine Prog.Uses.bind (Prog.uses_op.2 hbegin) fun _ => ?_
  refine Prog.Uses.bind (uses_getProtectionInfo hread) fun info => ?_
  cases info with
  | none => exact hleave _
  | some info =>
      refine Prog.Uses.ite (fun _ => hleave _) fun _ => ?_
      exact Prog.Uses.bind (Prog.uses_op.2 hreset) fun _ => hleave _

/-- The two properties that `EnablePort` sets are the content type of the level and
`CP_DESIRED`. -/
lemma uses_enablePort {portId appId : ℕ} {level : UInt8}
    (hA : ∀ o : PortOp, o.aside = true → o.connectionOf = none → A o)
    (hA' : ∀ o : PortOp, o.onProtection = true → A o) (hadd : ∀ p, A (.addRefAppId p appId))
    (hproperty : ∀ drmId propId value, value = levelCpType level ∨ value = cpDesired →
      (m.setPortProperty drmId propId 1 value authNumRetry).Uses A) :
    (m.enablePort portId appId level).Uses A := by
  rw [PortManager.enablePort]
  split
  · trivial
  · rename_i d _
    have hcontent : (m.setContentType d level).Uses A :=
      Prog.Uses.ite (fun _ => hproperty _ _ _ (.inl rfl)) fun _ => trivial
    refine Prog.Uses.bind (Prog.uses_op.2 (hA _ rfl rfl)) fun connection => ?_
    refine Prog.Uses.ite (fun _ => trivial) fun _ => ?_
    refine Prog.Uses.ite (fun _ => trivial) fun _ => ?_
    refine Prog.Uses.bind (Prog.uses_op.2 (hA' _ rfl)) fun currCpType => ?_
    refine Prog.Uses.ite (fun _ => ?_) fun _ => ?_
    · exact Prog.Uses.bind (Prog.uses_op.2 (hadd _)) fun _ => trivial
    · refine hcontent.bind fun ret => ?_
      refine Prog.Uses.ite (fun _ => trivial) fun _ => ?_
      refine (hproperty _ _ _ (.inr rfl)).bind fun ret => ?_
      refine Prog.Uses.ite (fun _ => trivial) fun _ => ?_
      refine Prog.Uses.bind (Prog.uses_op.2 (hA _ rfl rfl)) fun _ => ?_
      exact uses_checkEnabled (hA' _ rfl) (hA' _ rfl) (fun _ => hA' _ rfl) (hadd _) (hA' _ rfl)

/-! ### Schedules -/

/-- The state answers the reads, and the calls of libraries succeed; connectors and their
properties are as given. -/
def portAnswer (connection : Option ℕ) (properties : Option (List (ℕ × ℕ))) :
    (o : PortOp) → PortState → o.Ans
  | .getConnection p, s => (s.objects p).connection
  | .getCpType p, s => u8 (s.objects p).cpType
  | .getRefAppCount p, s => (s.objects p).appIds.length
  | .drmModeGetConnector _, _ => connection
  | .drmModeObjectGetProperties _, _ => properties
  | .drmModeCreatePropertyBlob _ _, _ => some 0
  | .drmSetMaster, _ | .drmDropMaster, _ | .drmModeConnectorSetProperty _ _ _, _
  | .utilSetContentProtection _ _, _ => true
  | .setConnection _ _, _ | .setCpType _ _, _ | .addRefAppId _ _, _ | .removeRefAppId _ _, _
  | .clearRefAppId _, _
  | .connAtomicBegin _, _ | .connAtomicEnd _, _ | .cpTypeAtomicBegin _, _
  | .cpTypeAtomicEnd _, _ | .callBackListBegin, _ | .callBackListEnd, _ | .sendReport _ _, _
  | .sleep, _ | .storePort _ _ _, _ | .storePortCount _, _ | .storePortStatus _, _ => ()

abbrev PortAction : Type := System.Action portSig Thread PortCall PortState

/-- A call with `n` interactions, without steps of other threads in between. -/
def completeCall (i : Thread) (c : PortCall) (n : ℕ)
    (answer : (o : PortOp) → PortState → o.Ans) : List PortAction :=
  .call i c :: List.replicate n (.op i answer) ++ [.ret i]

/-- The history and the state that a schedule of the daemon leads to, when all its steps
are possible and pass the check. -/
def PortManager.scheduled (m : PortManager) (check : PortTrace → PortState → PortLabel → Bool)
    (as : List PortAction) : Option (PortTrace × PortConfig) :=
  (portSystem m).schedule portMay check as [] ⟨initState, fun _ => none⟩

/-- A schedule shows that there is a run of a kind. -/
lemma exists_run_of_scheduled (m : PortManager)
    (check : PortTrace → PortState → PortLabel → Bool)
    {C : PortTrace → PortState → PortLabel → Prop} (hC : ∀ tr s l, check tr s l → C tr s l)
    (as : List PortAction) (test : PortTrace × PortConfig → Bool)
    (h : (m.scheduled check as).any test = true) :
    ∃ x, m.scheduled check as = some x ∧ (portSystem m).Run C initState x.1 x.2 ∧
      test x = true :=
  System.exists_run_of_schedule (M := portSystem m) (fun _ _ hc => hc) hC h

/-- A daemon with one connector, whose port can be protected at type 1. -/
def onePort (ias : Bool) : PortManager where
  drmObjects :=
    [{ drmId := 77
       portId := 0
       propertyList := [⟨.contentProtection, 101⟩, ⟨.cpContentType, 102⟩]
       ids_inj := by decide }]
  isValid := true
  ias := ias
  portIds_nodup := by decide
  drmIds_nodup := by decide

/-- The connector of `onePort`. -/
def port0 : DrmObject where
  drmId := 77
  portId := 0
  propertyList := [⟨.contentProtection, 101⟩, ⟨.cpContentType, 102⟩]
  ids_inj := by decide

end Hdcp.Port
