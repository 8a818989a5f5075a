/-
Losses of the link that are reported.

`CheckIntegrity` reads a port whose `m_CpType` is set, and takes it as lost when the kernel does
not say `CP_ENABLED`.  It holds the mutex of the cached type meanwhile.  `EnablePort` and
`DisablePort` take this mutex for their read-back only: what they write to the port, they write
without it.

`linkLost_right_iff`: in every run, what `CheckIntegrity` takes as lost has left `CP_ENABLED` on
its own, exactly when it does not look at a port that an operation has written and has not read
back as it wanted; and what it takes as lost, it reports once, and not again before the next
successful enable.
-/
import Hdcp.Port.Reading

namespace Hdcp.Integrity

open Library Port
open Library.Prog (op forEach)

/-! ### The history -/

/-- What the daemon has written to a port. -/
structure Written where
  /-- There is a write since `EnablePort` last read the port as enabled, or since the start. -/
  sinceEnabled : Bool
  /-- There is a write since an operation last read the port as it wanted it to be, or since the
  start. -/
  unconfirmed : Bool

/-- What `CheckIntegrity` has found of a port. -/
structure Found where
  /-- In its present round it has read the port as lost. -/
  lost : Bool
  /-- In its present round it has made a report. -/
  reported : Bool
  /-- It has made a report since the last successful enable. -/
  told : Bool

namespace Written

def write (w : Written) (succeeds : Bool) : Written :=
  ⟨w.sinceEnabled || succeeds, w.unconfirmed || succeeds⟩

/-- An operation reads the port back.  `EnablePort` wants `CP_ENABLED`, `DisablePort` wants
`CP_OFF`. -/
def readBack (w : Written) (c : PortCall) (cpValue : ℕ) : Written :=
  if c.caches cpValue then ⟨w.sinceEnabled && !decide (cpValue = cpEnabled), false⟩ else w

/-- What a step adds for the object `d`. -/
def step (d : DrmObject) (w : Written) : PortLabel → Written
  | .op .message _ ⟨.drmModeConnectorSetProperty drmId _ _, succeeds⟩ =>
    if drmId = d.drmId then w.write succeeds else w
  | .op .message _ ⟨.utilSetContentProtection drmId _, succeeds⟩ =>
    if drmId = d.drmId then w.write succeeds else w
  | .op .message c ⟨.drmModeObjectGetProperties drmId, some properties⟩ =>
    if drmId = d.drmId then w.readBack c (d.protectionInfo properties).1 else w
  | _ => w

end Written

namespace Found

def look (f : Found) (cpValue : ℕ) : Found := { f with lost := decide (cpValue ≠ cpEnabled) }

def report (f : Found) : Found := { f with reported := true, told := true }

def finish (f : Found) : Found := { f with lost := false, reported := false }

def enable (f : Found) : Found := { f with told := false }

/-- What a step adds for the object `d`.  An enable succeeds when it sets the cached type. -/
def step (d : DrmObject) (f : Found) : PortLabel → Found
  | .op .integrity _ ⟨.drmModeObjectGetProperties drmId, some properties⟩ =>
    if drmId = d.drmId then f.look (d.protectionInfo properties).1 else f
  | .op .integrity _ ⟨.sendReport _ p, _⟩ => if p = d.portId then f.report else f
  | .op .integrity _ ⟨.cpTypeAtomicEnd p, _⟩ => if p = d.portId then f.finish else f
  | .op .message (.enablePort _ _ _) ⟨.setCpType p _, _⟩ => if p = d.portId then f.enable else f
  | _ => f

end Found

def written (d : DrmObject) : PortTrace → Written
  | [] => ⟨false, false⟩
  | l :: tr => (written d tr).step d l

def found (d : DrmObject) : PortTrace → Found
  | [] => ⟨false, false, false⟩
  | l :: tr => (found d tr).step d l

/-- The port is read as lost only when the daemon has not written to it since `EnablePort` last
read it as enabled, or since the start: it has changed on its own.  A report is one of a loss
that was read in the round; it is the only one of the round, and since the last successful
enable.  A round that ends has reported the loss that it has read. -/
def Right (d : DrmObject) : PortLabel → PortTrace → Prop
  | .op .integrity _ ⟨.drmModeObjectGetProperties drmId, some properties⟩, tr =>
    drmId = d.drmId → (d.protectionInfo properties).1 ≠ cpEnabled →
      (written d tr).sinceEnabled = false
  | .op .integrity _ ⟨.sendReport event p, _⟩, tr =>
    p = d.portId → event = .linkLost ∧ (found d tr).lost = true ∧
      (found d tr).reported = false ∧ (found d tr).told = false
  | .op .integrity _ ⟨.cpTypeAtomicEnd p, _⟩, tr =>
    p = d.portId → (found d tr).reported = (found d tr).lost
  | _, _ => True

/-- The condition on the steps of a run: a port is not read as lost when an operation has
written to it and has not read it back as it wanted. -/
def Condition (d : DrmObject) : PortLabel → PortTrace → Prop
  | .op .integrity _ ⟨.drmModeObjectGetProperties drmId, some properties⟩, tr =>
    drmId = d.drmId → (d.protectionInfo properties).1 ≠ cpEnabled →
      (written d tr).unconfirmed = false
  | _, _ => True

def RightIff (d : DrmObject) (l : PortLabel) (tr : PortTrace) : Prop :=
  Right d l tr ↔ Condition d l tr

/-! ### The protocol -/

/-- While the cached type of the port is valid, what has been written since it was read as
enabled is not confirmed either, and no loss has been told; but the thread that holds the mutex
may be about to change this. -/
structure IntegrityInv (d : DrmObject) (tr : PortTrace) (s : PortState) : Prop where
  written : s.cpTypeMutex d.portId ≠ some .message → s.cachedType d.portId ≠ cpTypeInvalid →
    (written d tr).sinceEnabled = (written d tr).unconfirmed
  told : s.cpTypeMutex d.portId ≠ some .integrity → s.cachedType d.portId ≠ cpTypeInvalid →
    (found d tr).told = false
  idle : s.cpTypeMutex d.portId ≠ some .integrity →
    (found d tr).lost = false ∧ (found d tr).reported = false
  right : EveryStep (RightIff d) tr

/-- Nothing changes that concerns the thread `i`, when it holds the mutex of the port.  What is
written to the port concerns the message thread only. -/
structure Same (d : DrmObject) (i : Thread) (tr : PortTrace) (s : PortState) (tr' : PortTrace)
    (s' : PortState) : Prop where
  mutex : s'.cpTypeMutex d.portId = s.cpTypeMutex d.portId
  cachedType : s'.cachedType d.portId = s.cachedType d.portId
  found : found d tr' = found d tr
  written : i = .message → written d tr' = written d tr

variable {m : PortManager} {d d' : DrmObject} {tr tr' tr'' : PortTrace} {s s' s'' : PortState}
  {i j : Thread} {c : PortCall} {o : PortOp} {r : o.Ans} {l : PortLabel} {w : Written}
  {f : Found} {t : ℕ}

lemma Same.trans (h : Same d i tr s tr' s') (h' : Same d i tr' s' tr'' s'') :
    Same d i tr s tr'' s'' where
  mutex := h'.mutex.trans h.mutex
  cachedType := h'.cachedType.trans h.cachedType
  found := h'.found.trans h.found
  written hi := (h'.written hi).trans (h.written hi)

def integrityProtocol (d : DrmObject) : Protocol portSig Thread PortCall Errno PortState where
  admits _ _ _ := True
  inv := IntegrityInv d
  rely i tr s tr' s' := s.cpTypeMutex d.portId = some i → Same d i tr s tr' s'
  refl _ _ _ _ := ⟨rfl, rfl, rfl, fun _ => rfl⟩
  trans h h' hi := (h hi).trans (h' ((h hi).mutex.trans hi))

/-- The thread holds the mutex; the cached type and the history are known. -/
structure Held (d : DrmObject) (i : Thread) (w : Written) (f : Found) (t : ℕ) (tr : PortTrace)
    (s : PortState) : Prop where
  mutex : s.cpTypeMutex d.portId = some i
  cachedType : s.cachedType d.portId = t
  found : found d tr = f
  written : i = .message → written d tr = w

lemma Held.of_same (h : Held d i w f t tr s) (hsame : Same d i tr s tr' s') :
    Held d i w f t tr' s' where
  mutex := hsame.mutex.trans h.mutex
  cachedType := hsame.cachedType.trans h.cachedType
  found := hsame.found.trans h.found
  written hi := (hsame.written hi).trans (h.written hi)

lemma Held.of_rely (h : Held d i w f t tr s)
    (hrely : (integrityProtocol d).rely i tr s tr' s') : Held d i w f t tr' s' :=
  h.of_same (hrely h.mutex)

/-! ### Steps -/

/-- An interaction that concerns neither the cached type of the object nor what is written to
it or found of it. -/
structure Quiet (d : DrmObject) (i : Thread) (c : PortCall) (o : PortOp) : Prop where
  frame : o.cpTypeOf ≠ some d.portId
  written : ∀ r w, Written.step d w (.op i c ⟨o, r⟩) = w
  found : ∀ r f, Found.step d f (.op i c ⟨o, r⟩) = f
  right : ∀ r tr, RightIff d (.op i c ⟨o, r⟩) tr

/-- The interactions on other objects. -/
def Spares (d : DrmObject) : PortOp → Prop
  | .setCpType p _ | .cpTypeAtomicBegin p | .cpTypeAtomicEnd p | .sendReport _ p =>
    p ≠ d.portId
  | .drmModeConnectorSetProperty drmId _ _ | .utilSetContentProtection drmId _
  | .drmModeObjectGetProperties drmId => drmId ≠ d.drmId
  | _ => True

lemma quiet_of_spares (h : Spares d o) : Quiet d i c o := by
  -- one case for each interaction that the histories look at, and in it the thread that counts
  cases o
  case setCpType p x =>
    have hp : p ≠ d.portId := h
    refine ⟨fun heq => hp (Option.some.inj heq), fun _ _ => ?_, fun _ _ => ?_, fun _ _ => ?_⟩
    · cases i <;> rfl
    · cases i
      case message =>
        cases c
        case enablePort => exact if_neg hp
        all_goals rfl
      all_goals rfl
    · cases i <;> exact Iff.rfl
  case cpTypeAtomicBegin p =>
    have hp : p ≠ d.portId := h
    refine ⟨fun heq => hp (Option.some.inj heq), fun _ _ => ?_, fun _ _ => ?_, fun _ _ => ?_⟩
    · cases i <;> rfl
    · cases i <;> cases c <;> rfl
    · cases i <;> exact Iff.rfl
  case cpTypeAtomicEnd p =>
    have hp : p ≠ d.portId := h
    refine ⟨fun heq => hp (Option.some.inj heq), fun _ _ => ?_, fun _ _ => ?_, fun _ _ => ?_⟩
    · cases i <;> rfl
    · cases i
      case integrity => exact if_neg hp
      all_goals cases c <;> rfl
    · cases i
      case integrity => exact ⟨fun _ => trivial, fun _ heq => absurd heq hp⟩
      all_goals exact Iff.rfl
  case sendReport event p =>
    have hp : p ≠ d.portId := h
    refine ⟨by simp [PortOp.cpTypeOf], fun _ _ => ?_, fun _ _ => ?_, fun _ _ => ?_⟩
    · cases i <;> rfl
    · cases i
      case integrity => exact if_neg hp
      all_goals cases c <;> rfl
    · cases i
      case integrity => exact ⟨fun _ => trivial, fun _ heq => absurd heq hp⟩
      all_goals exact Iff.rfl
  case drmModeConnectorSetProperty drmId propId value =>
    have hid : drmId ≠ d.drmId := h
    refine ⟨by simp [PortOp.cpTypeOf], fun _ _ => ?_, fun _ _ => ?_, fun _ _ => ?_⟩
    · cases i
      case message => exact if_neg hid
      all_goals rfl
    · cases i <;> cases c <;> rfl
    · cases i <;> exact Iff.rfl
  case utilSetContentProtection drmId value =>
    have hid : drmId ≠ d.drmId := h
    refine ⟨by simp [PortOp.cpTypeOf], fun _ _ => ?_, fun _ _ => ?_, fun _ _ => ?_⟩
    · cases i
      case message => exact if_neg hid
      all_goals rfl
    · cases i <;> cases c <;> rfl
    · cases i <;> exact Iff.rfl
  case drmModeObjectGetProperties drmId =>
    have hid : drmId ≠ d.drmId := h
    refine ⟨by simp [PortOp.cpTypeOf], fun properties _ => ?_, fun properties _ => ?_,
      fun properties _ => ?_⟩
    · cases properties with
      | none => cases i <;> rfl
      | some properties =>
          cases i
          case message => exact if_neg hid
          all_goals rfl
    · cases properties with
      | none => cases i <;> cases c <;> rfl
      | some properties =>
          cases i
          case integrity => exact if_neg hid
          all_goals cases c <;> rfl
    · cases properties with
      | none => cases i <;> exact Iff.rfl
      | some properties =>
          cases i
          case integrity => exact ⟨fun _ heq => absurd heq hid, fun _ heq => absurd heq hid⟩
          all_goals exact Iff.rfl
  all_goals
    refine ⟨by simp [PortOp.cpTypeOf], fun _ _ => ?_, fun _ _ => ?_, fun _ _ => ?_⟩
    · cases i <;> rfl
    · cases i <;> cases c <;> rfl
    · cases i <;> exact Iff.rfl

/-- The interactions of the uevent thread. -/
lemma quiet_uevent (ho : o.cpTypeOf = none) : Quiet d .uevent c o :=
  ⟨by simp [ho], fun _ _ => rfl, fun _ _ => rfl, fun _ _ => Iff.rfl⟩

lemma quiet_getStatus {p drmId : ℕ} :
    Quiet d .message (.getStatus p) (.drmModeObjectGetProperties drmId) where
  frame := by simp [PortOp.cpTypeOf]
  written properties w := by
    cases properties with
    | none => rfl
    | some properties =>
        show (if drmId = d.drmId then w else w) = w
        exact ite_self w
  found properties f := by
    cases properties <;> rfl
  right _ _ := Iff.rfl

/-- A step that does not concern the cached type of the object.  The message thread may write to
the port. -/
lemma keeps_of_frame (hmutex : s'.cpTypeMutex d.portId = s.cpTypeMutex d.portId)
    (hcached : s'.cachedType d.portId = s.cachedType d.portId)
    (hwritten : written d (l :: tr) = written d tr ∨
      i = .message ∧ written d (l :: tr) = ⟨true, true⟩)
    (hfound : found d (l :: tr) = found d tr) (hright : RightIff d l tr)
    (hinv : IntegrityInv d tr s) : (integrityProtocol d).Keeps i tr s l s' := by
  refine ⟨⟨?_, ?_, ?_, hright, hinv.right⟩, fun j hj _ => ⟨hmutex, hcached, hfound, ?_⟩⟩
  · rw [hmutex, hcached]
    intro hfree hvalid
    rcases hwritten with heq | ⟨-, heq⟩
    · rw [heq]
      exact hinv.written hfree hvalid
    · rw [heq]
  · rw [hmutex, hcached, hfound]
    exact hinv.told
  · rw [hmutex, hfound]
    exact hinv.idle
  · rintro rfl
    exact hwritten.resolve_right fun h => hj h.1.symm

lemma cachedType_of_frame (ho : o.cpTypeOf ≠ some d.portId)
    (hstep : portStep i o r s = some s') :
    s'.cpTypeMutex d.portId = s.cpTypeMutex d.portId ∧
      s'.cachedType d.portId = s.cachedType d.portId := by
  obtain ⟨hmutex, hcp⟩ := portStep_cpTypeOf ho hstep
  exact ⟨hmutex, congrArg u8 hcp⟩

lemma quiet_step (ho : Quiet d i c o) (hinv : IntegrityInv d tr s)
    (hstep : portStep i o r s = some s') :
    (integrityProtocol d).Keeps i tr s (.op i c ⟨o, r⟩) s' ∧
      (integrityProtocol d).rely i tr s (.op i c ⟨o, r⟩ :: tr) s' := by
  obtain ⟨hmutex, hcached⟩ := cachedType_of_frame ho.frame hstep
  have hwritten : written d (.op i c ⟨o, r⟩ :: tr) = written d tr := ho.written r _
  have hfound : found d (.op i c ⟨o, r⟩ :: tr) = found d tr := ho.found r _
  exact ⟨keeps_of_frame hmutex hcached (.inl hwritten) hfound (ho.right r tr) hinv,
    fun _ => ⟨hmutex, hcached, hfound, fun _ => hwritten⟩⟩

/-- The interactions that the message thread makes without the mutex. -/
def unlocked : PortOp → Bool
  | .setCpType _ _ | .cpTypeAtomicBegin _ | .cpTypeAtomicEnd _
  | .drmModeObjectGetProperties _ => false
  | _ => true

lemma cpTypeOf_of_unlocked (ho : unlocked o = true) : o.cpTypeOf = none := by
  cases o <;> first | rfl | exact absurd ho (by simp [unlocked])

lemma Written.write_cases (w : Written) (succeeds : Bool) :
    w.write succeeds = w ∨ w.write succeeds = ⟨true, true⟩ := by
  cases succeeds with
  | false => exact .inl (by simp [write])
  | true => exact .inr (by simp [write])

lemma unlocked_step (ho : unlocked o = true) (hinv : IntegrityInv d tr s)
    (hstep : portStep .message o r s = some s') :
    (integrityProtocol d).Keeps .message tr s (.op .message c ⟨o, r⟩) s' := by
  have hframe : o.cpTypeOf ≠ some d.portId := by simp [cpTypeOf_of_unlocked ho]
  obtain ⟨hmutex, hcached⟩ := cachedType_of_frame hframe hstep
  refine keeps_of_frame hmutex hcached ?_ ?_ Iff.rfl hinv
  · cases o
    case drmModeConnectorSetProperty drmId propId value =>
      show (if drmId = d.drmId then (written d tr).write r else written d tr) = _ ∨ _ ∧
        (if drmId = d.drmId then (written d tr).write r else written d tr) = _
      split
      · exact ((written d tr).write_cases r).imp_right fun h => ⟨rfl, h⟩
      · exact .inl rfl
    case utilSetContentProtection drmId value =>
      show (if drmId = d.drmId then (written d tr).write r else written d tr) = _ ∨ _ ∧
        (if drmId = d.drmId then (written d tr).write r else written d tr) = _
      split
      · exact ((written d tr).write_cases r).imp_right fun h => ⟨rfl, h⟩
      · exact .inl rfl
    case drmModeObjectGetProperties => exact absurd ho (by simp [unlocked])
    all_goals exact .inl rfl
  · cases o
    case setCpType => exact absurd ho (by simp [unlocked])
    all_goals cases c <;> rfl

/-- A step of the thread that holds the mutex. -/
lemma held_step (hheld : Held d i w f t tr s) (hinv : IntegrityInv d tr s)
    (hmutex : s'.cpTypeMutex d.portId = some i)
    (hwritten : i ≠ .message → s'.cachedType d.portId ≠ cpTypeInvalid →
      (written d (l :: tr)).sinceEnabled = (written d (l :: tr)).unconfirmed)
    (hfound : i ≠ .integrity → (s'.cachedType d.portId ≠ cpTypeInvalid →
      (found d (l :: tr)).told = false) ∧ (found d (l :: tr)).lost = f.lost ∧
        (found d (l :: tr)).reported = f.reported)
    (hright : RightIff d l tr) : (integrityProtocol d).Keeps i tr s l s' := by
  have hne {j : Thread} (h : s'.cpTypeMutex d.portId ≠ some j) : i ≠ j := by
    rintro rfl
    exact h hmutex
  refine ⟨⟨fun h => hwritten (hne h), fun h => (hfound (hne h)).1, fun h => ?_, hright,
    hinv.right⟩, fun j hj hmj => ?_⟩
  · obtain ⟨-, hlost, hreported⟩ := hfound (hne h)
    rw [hlost, hreported, ← hheld.found]
    refine hinv.idle ?_
    rw [hheld.mutex]
    exact fun heq => hne h (Option.some.inj heq)
  · rw [hheld.mutex] at hmj
    exact absurd (Option.some.inj hmj).symm hj

/-! ### Under the mutex -/

section Programs

variable {α β : Type} {Q : β → PortTrace → PortState → Prop}

lemma sat_quiet {q : PortProg α} (hq : q.Uses (Quiet d i c)) :
    (integrityProtocol d).Sat (portSystem m) i c
      (fun _ tr' s' => (integrityProtocol d).rely i tr s tr' s') q tr s :=
  Protocol.sat_of_uses (P := integrityProtocol d)
    (fun _ _ _ _ _ ho _ hinv hstep _ => quiet_step ho hinv hstep) hq

lemma sat_quiet_bind {q : PortProg α} {g : α → PortProg β} (hq : q.Uses (Quiet d i c))
    (hg : ∀ a tr' s', (integrityProtocol d).rely i tr s tr' s' →
      (integrityProtocol d).Sat (portSystem m) i c Q (g a) tr' s') :
    (integrityProtocol d).Sat (portSystem m) i c Q (q >>= g) tr s :=
  (sat_quiet hq).bind fun a tr' s' _ hrely => hg a tr' s' hrely

/-- What the message thread does without the mutex. -/
lemma sat_unlocked {q : PortProg α} (hq : q.Uses fun o => unlocked o = true) :
    (integrityProtocol d).Sat (portSystem m) .message c (fun _ _ _ => True) q tr s :=
  Protocol.sat_of_keeps (F := fun _ _ => True) hq trivial (fun _ h => h)
    fun ho hinv _ hstep _ => ⟨unlocked_step ho hinv hstep, trivial⟩

lemma sat_unlocked_bind {q : PortProg α} {g : α → PortProg β}
    (hq : q.Uses fun o => unlocked o = true)
    (hg : ∀ a tr' s', (integrityProtocol d).Sat (portSystem m) .message c Q (g a) tr' s') :
    (integrityProtocol d).Sat (portSystem m) .message c Q (q >>= g) tr s :=
  (sat_unlocked hq).bind fun a tr' s' _ _ => hg a tr' s'

/-- What a thread finds when it takes the mutex. -/
structure Start (w : Written) (f : Found) (t : ℕ) : Prop where
  written : t ≠ cpTypeInvalid → w.sinceEnabled = w.unconfirmed
  told : t ≠ cpTypeInvalid → f.told = false
  lost : f.lost = false
  reported : f.reported = false

/-- `CpTypeAtomicBegin`. -/
lemma sat_begin {g : Unit → PortProg β}
    (hg : ∀ w f t tr' s', Start w f t → Held d i w f t tr' s' →
      (integrityProtocol d).Sat (portSystem m) i c Q (g ()) tr' s') :
    (integrityProtocol d).Sat (portSystem m) i c Q (cpTypeAtomicBegin d.portId >>= g) tr s := by
  intro tr' s' _ hinv u s'' hstep _
  have hstep : (if s'.cpTypeMutex d.portId = none then
      some { s' with cpTypeMutex := Function.update s'.cpTypeMutex d.portId (some i) }
      else none) = some s'' := hstep
  rw [Option.ite_none_right_eq_some] at hstep
  obtain ⟨hfree, hstep⟩ := hstep
  obtain rfl := Option.some.inj hstep
  have hwritten : written d (.op i c ⟨.cpTypeAtomicBegin d.portId, u⟩ :: tr') =
      written d tr' := by
    cases i <;> rfl
  have hfound : found d (.op i c ⟨.cpTypeAtomicBegin d.portId, u⟩ :: tr') = found d tr' := by
    cases i <;> cases c <;> rfl
  have hmutex : Function.update s'.cpTypeMutex d.portId (some i) d.portId = some i :=
    Function.update_self _ _ _
  obtain ⟨hlost, hreported⟩ := hinv.idle (by simp [hfree])
  have hstart : Start (written d tr') (found d tr') (s'.cachedType d.portId) :=
    ⟨hinv.written (by simp [hfree]), hinv.told (by simp [hfree]), hlost, hreported⟩
  refine ⟨⟨⟨fun _ => ?_, fun _ => ?_, fun _ => ?_, ?_, hinv.right⟩, fun j _ hj => ?_⟩, ?_⟩
  · rw [hwritten]
    exact hstart.written
  · rw [hfound]
    exact hstart.told
  · rw [hfound]
    exact ⟨hlost, hreported⟩
  · cases i <;> exact Iff.rfl
  · rw [hfree] at hj
    exact absurd hj (by simp)
  · exact hg _ _ _ _ _ hstart ⟨hmutex, rfl, hfound, fun _ => hwritten⟩

/-- `CpTypeAtomicEnd`: the thread has restored what it has found. -/
lemma sat_end {g : Unit → PortProg β} (hheld : Held d i w f t tr s)
    (hw : i = .message → t ≠ cpTypeInvalid → w.sinceEnabled = w.unconfirmed)
    (hf : i = .integrity → (t ≠ cpTypeInvalid → f.told = false) ∧ f.reported = f.lost)
    (hg : ∀ tr' s', (integrityProtocol d).Sat (portSystem m) i c Q (g ()) tr' s') :
    (integrityProtocol d).Sat (portSystem m) i c Q (cpTypeAtomicEnd d.portId >>= g) tr s := by
  intro tr' s' hrely hinv u s'' hstep _
  have hheld := hheld.of_rely hrely
  obtain rfl := (Option.some.inj hstep).symm
  have hwritten : written d (.op i c ⟨.cpTypeAtomicEnd d.portId, u⟩ :: tr') =
      written d tr' := by
    cases i <;> rfl
  have hne {j : Thread} (h : i ≠ j) : s'.cpTypeMutex d.portId ≠ some j := by
    rw [hheld.mutex]
    exact fun heq => h (Option.some.inj heq)
  have hfinish (hi : i = .integrity) :
      found d (.op i c ⟨.cpTypeAtomicEnd d.portId, u⟩ :: tr') = f.finish := by
    subst hi
    rw [← hheld.found]
    exact if_pos rfl
  have hother (hi : i ≠ .integrity) :
      found d (.op i c ⟨.cpTypeAtomicEnd d.portId, u⟩ :: tr') = found d tr' := by
    cases i
    case integrity => exact absurd rfl hi
    all_goals cases c <;> rfl
  have hcached : s'.cachedType d.portId = t := hheld.cachedType
  refine ⟨⟨⟨fun _ hvalid => ?_, fun _ hvalid => ?_, fun _ => ?_, ?_, hinv.right⟩,
    fun j hj hmj => ?_⟩, hg _ _⟩
  · rw [hwritten]
    by_cases hi : i = .message
    · rw [hheld.written hi]
      exact hw hi (hcached ▸ hvalid)
    · exact hinv.written (hne hi) hvalid
  · by_cases hi : i = .integrity
    · rw [hfinish hi]
      exact (hf hi).1 (hcached ▸ hvalid)
    · rw [hother hi]
      exact hinv.told (hne hi) hvalid
  · by_cases hi : i = .integrity
    · rw [hfinish hi]
      exact ⟨rfl, rfl⟩
    · rw [hother hi]
      exact hinv.idle (hne hi)
  · cases i
    case integrity =>
      refine ⟨fun _ => trivial, fun _ _ => ?_⟩
      rw [hheld.found]
      exact (hf rfl).2
    all_goals exact Iff.rfl
  · rw [hheld.mutex] at hmj
    exact absurd (Option.some.inj hmj).symm hj

/-! ### The message thread -/

/-- A read-back of the object. -/
lemma sat_readBack {g : Option (ℕ × ℕ) → PortProg β} (hheld : Held d .message w f t tr s)
    (hnone : ∀ tr' s', Held d .message w f t tr' s' →
      (integrityProtocol d).Sat (portSystem m) .message c Q (g none) tr' s')
    (hsome : ∀ x tr' s', Held d .message (w.readBack c x.1) f t tr' s' →
      (integrityProtocol d).Sat (portSystem m) .message c Q (g (some x)) tr' s') :
    (integrityProtocol d).Sat (portSystem m) .message c Q (getProtectionInfo d >>= g) tr s := by
  intro tr' s' hrely hinv properties s'' hstep _
  have hheld := hheld.of_rely hrely
  obtain rfl : s' = s'' := Option.some.inj hstep
  have hfound : found d (.op .message c ⟨.drmModeObjectGetProperties d.drmId, properties⟩ :: tr') =
      found d tr' := by
    cases properties <;> cases c <;> rfl
  refine ⟨held_step hheld hinv hheld.mutex (fun h => absurd rfl h) (fun _ => ?_) ?_, ?_⟩
  · rw [hfound, hheld.found]
    refine ⟨fun hvalid => ?_, rfl, rfl⟩
    rw [← hheld.found]
    exact hinv.told (by simp [hheld.mutex]) hvalid
  · cases properties <;> exact Iff.rfl
  · cases properties with
    | none => exact hnone _ _ ⟨hheld.mutex, hheld.cachedType, hfound.trans hheld.found,
        fun hi => hheld.written hi⟩
    | some properties =>
        refine hsome _ _ _ ⟨hheld.mutex, hheld.cachedType, hfound.trans hheld.found,
          fun hi => ?_⟩
        rw [← hheld.written hi]
        exact if_pos rfl

/-- The message thread sets the cached type. -/
lemma sat_setCpType {g : Unit → PortProg β} {f' : Found} {x : ℕ}
    (hheld : Held d .message w f t tr s)
    (hfound : ∀ u, Found.step d f (.op .message c ⟨.setCpType d.portId x, u⟩) = f')
    (hround : f'.lost = f.lost ∧ f'.reported = f.reported)
    (htold : u8 x ≠ cpTypeInvalid → f'.told = false)
    (hg : ∀ tr' s', Held d .message w f' (u8 x) tr' s' →
      (integrityProtocol d).Sat (portSystem m) .message c Q (g ()) tr' s') :
    (integrityProtocol d).Sat (portSystem m) .message c Q (setCpType d.portId x >>= g) tr s := by
  intro tr' s' hrely hinv u s'' hstep _
  have hheld := hheld.of_rely hrely
  obtain rfl := (Option.some.inj hstep).symm
  have hnow : found d (.op .message c ⟨.setCpType d.portId x, u⟩ :: tr') = f' := by
    rw [← hfound u, ← hheld.found]
    rfl
  have hcached : (s'.modify d.portId fun y => { y with cpType := x }).cachedType d.portId =
      u8 x := by
    rw [PortState.cachedType, PortState.modify_objects_self]
  refine ⟨held_step hheld hinv hheld.mutex (fun h => absurd rfl h) (fun _ => ?_) Iff.rfl,
    hg _ _ ⟨hheld.mutex, hcached, hnow, fun hi => hheld.written hi⟩⟩
  rw [hnow, hcached]
  exact ⟨htold, hround⟩

lemma sat_checkEnabled {p a : ℕ} {level : UInt8} (hc : c = .enablePort p a level) :
    (integrityProtocol d).Sat (portSystem m) .message c (fun _ _ _ => True)
      (checkEnabled d a) tr s := by
  subst hc
  have hend {w : Written} {f : Found} {t : ℕ} {tr : PortTrace} {s : PortState} (e : Errno)
      (hheld : Held d .message w f t tr s)
      (hw : t ≠ cpTypeInvalid → w.sinceEnabled = w.unconfirmed) :
      (integrityProtocol d).Sat (portSystem m) .message (.enablePort p a level)
        (fun _ _ _ => True) (cpTypeAtomicEnd d.portId >>= fun _ => Prog.ret e) tr s :=
    sat_end hheld (fun _ => hw) (fun hi => absurd hi (by simp)) fun _ _ _ _ _ _ => trivial
  rw [checkEnabled]
  refine sat_begin fun w f t tr s hstart hheld => ?_
  refine sat_readBack hheld (fun tr s hheld => hend _ hheld hstart.written)
    fun x tr s hheld => ?_
  refine Protocol.Sat.ite (fun hv => ?_) fun hv => ?_
  · have hsame : w.readBack (.enablePort p a level) x.1 = w := by
      simp [Written.readBack, PortCall.caches, hv]
    rw [hsame] at hheld
    exact hend _ hheld hstart.written
  · have hv : x.1 = cpEnabled := not_not.1 hv
    have hconfirmed : w.readBack (.enablePort p a level) x.1 = ⟨false, false⟩ := by
      simp [Written.readBack, PortCall.caches, hv]
    rw [hconfirmed] at hheld
    refine sat_setCpType hheld (fun _ => if_pos rfl) ⟨rfl, rfl⟩ (fun _ => rfl)
      fun tr s hheld => ?_
    refine sat_quiet_bind (Prog.uses_op.2 (quiet_of_spares trivial)) fun _ tr s hrely => ?_
    exact hend _ (hheld.of_rely hrely) fun _ => rfl

/-- The calls that disable a port. -/
lemma sat_checkDisabled (hc : (∃ p a, c = .disablePort p a) ∨ ∃ a, c = .removeAppFromPorts a) :
    (integrityProtocol d).Sat (portSystem m) .message c (fun _ _ _ => True)
      (checkDisabled d) tr s := by
  have hcaches (v : ℕ) : c.caches v = decide (v = cpOff) := by
    rcases hc with ⟨p, a, rfl⟩ | ⟨a, rfl⟩ <;> rfl
  have hstep (f : Found) (u : Unit) :
      Found.step d f (.op .message c ⟨.setCpType d.portId cpTypeInvalid, u⟩) = f := by
    rcases hc with ⟨p, a, rfl⟩ | ⟨a, rfl⟩ <;> rfl
  have hend {w : Written} {f : Found} {t : ℕ} {tr : PortTrace} {s : PortState} (e : Errno)
      (hheld : Held d .message w f t tr s)
      (hw : t ≠ cpTypeInvalid → w.sinceEnabled = w.unconfirmed) :
      (integrityProtocol d).Sat (portSystem m) .message c
        (fun _ _ _ => True) (cpTypeAtomicEnd d.portId >>= fun _ => Prog.ret e) tr s :=
    sat_end hheld (fun _ => hw) (fun hi => absurd hi (by simp)) fun _ _ _ _ _ _ => trivial
  rw [checkDisabled]
  refine sat_begin fun w f t tr s hstart hheld => ?_
  refine sat_readBack hheld (fun tr s hheld => hend _ hheld hstart.written)
    fun x tr s hheld => ?_
  refine Protocol.Sat.ite (fun hv => ?_) fun hv => ?_
  · have hsame : w.readBack c x.1 = w := by
      simp [Written.readBack, hcaches, hv]
    rw [hsame] at hheld
    exact hend _ hheld hstart.written
  · refine sat_setCpType hheld (hstep f) ⟨rfl, rfl⟩ (fun h => absurd rfl h)
      fun tr s hheld => ?_
    exact hend _ hheld fun h => absurd rfl h

/-! ### The integrity thread -/

/-- `GetCpType`, in a round. -/
lemma sat_getCpType {g : ℕ → PortProg β} (hheld : Held d .integrity w f t tr s)
    (hg : ∀ tr' s', Held d .integrity w f t tr' s' →
      (integrityProtocol d).Sat (portSystem m) .integrity c Q (g t) tr' s') :
    (integrityProtocol d).Sat (portSystem m) .integrity c Q (getCpType d.portId >>= g) tr s := by
  intro tr' s' hrely hinv current s'' hstep _
  have hheld := hheld.of_rely hrely
  obtain ⟨hcurrent, -⟩ := PortState.answer_eq_some.1 hstep
  obtain rfl : current = t := hcurrent.trans hheld.cachedType
  have hquiet : Quiet d .integrity c (.getCpType d.portId) := quiet_of_spares trivial
  obtain ⟨hkeeps, hsame⟩ := quiet_step hquiet hinv hstep
  exact ⟨hkeeps, hg _ _ (hheld.of_rely hsame)⟩

/-- A look at a port whose cached type is valid. -/
lemma sat_look {g : Option (ℕ × ℕ) → PortProg β} (hheld : Held d .integrity w f t tr s)
    (hvalid : t ≠ cpTypeInvalid)
    (hnone : ∀ tr' s', Held d .integrity w f t tr' s' →
      (integrityProtocol d).Sat (portSystem m) .integrity c Q (g none) tr' s')
    (hsome : ∀ x tr' s', Held d .integrity w (f.look x.1) t tr' s' →
      (integrityProtocol d).Sat (portSystem m) .integrity c Q (g (some x)) tr' s') :
    (integrityProtocol d).Sat (portSystem m) .integrity c Q
      (getProtectionInfo d >>= g) tr s := by
  intro tr' s' hrely hinv properties s'' hstep _
  have hheld := hheld.of_rely hrely
  obtain rfl : s' = s'' := Option.some.inj hstep
  cases properties with
  | none =>
      refine ⟨held_step hheld hinv hheld.mutex (fun _ => ?_) (fun h => absurd rfl h) Iff.rfl,
        hnone _ _ ⟨hheld.mutex, hheld.cachedType, hheld.found, fun hi => absurd hi (by simp)⟩⟩
      exact hinv.written (by simp [hheld.mutex])
  | some properties =>
      have hfound : found d (.op .integrity c
          ⟨.drmModeObjectGetProperties d.drmId, some properties⟩ :: tr') =
            f.look (d.protectionInfo properties).1 := by
        rw [← hheld.found]
        exact if_pos rfl
      have hwritten : (written d tr').sinceEnabled = (written d tr').unconfirmed :=
        hinv.written (by simp [hheld.mutex]) (hheld.cachedType.symm ▸ hvalid)
      have hright : RightIff d (.op .integrity c
          ⟨.drmModeObjectGetProperties d.drmId, some properties⟩) tr' := by
        refine ⟨fun h hid hlost => ?_, fun h hid hlost => ?_⟩
        · exact hwritten.symm.trans (h hid hlost)
        · exact hwritten.trans (h hid hlost)
      refine ⟨held_step hheld hinv hheld.mutex (fun _ _ => hwritten) (fun h => absurd rfl h)
        hright, hsome _ _ _ ⟨hheld.mutex, hheld.cachedType, hfound, fun hi => ?_⟩⟩
      exact absurd hi (by simp)

/-- The report of a loss that has not been told. -/
lemma sat_reportStatus {g : Unit → PortProg β} (hheld : Held d .integrity w f t tr s)
    (hlost : f.lost = true) (hreported : f.reported = false) (htold : f.told = false)
    (hg : ∀ tr' s', Held d .integrity w f.report t tr' s' →
      (integrityProtocol d).Sat (portSystem m) .integrity c Q (g ()) tr' s') :
    (integrityProtocol d).Sat (portSystem m) .integrity c Q
      (reportStatus .linkLost d.portId >>= g) tr s := by
  rw [reportStatus, Prog.bind_assoc]
  refine sat_quiet_bind (Prog.uses_op.2 (quiet_of_spares trivial)) fun _ tr s hrely => ?_
  have hheld := hheld.of_rely hrely
  rw [Prog.bind_assoc]
  intro tr' s' hrely hinv u s'' hstep _
  have hheld := hheld.of_rely hrely
  obtain rfl : s' = s'' := Option.some.inj hstep
  have hfound : found d (.op .integrity c ⟨.sendReport .linkLost d.portId, u⟩ :: tr') =
      f.report := by
    rw [← hheld.found]
    exact if_pos rfl
  have hright : RightIff d (.op .integrity c ⟨.sendReport .linkLost d.portId, u⟩) tr' := by
    refine ⟨fun _ => trivial, fun _ _ => ?_⟩
    rw [hheld.found]
    exact ⟨rfl, hlost, hreported, htold⟩
  refine ⟨held_step hheld hinv hheld.mutex (fun _ => ?_) (fun h => absurd rfl h) hright, ?_⟩
  · exact hinv.written (by simp [hheld.mutex])
  · refine sat_quiet_bind (q := callBackListEnd) (Prog.uses_op.2 (quiet_of_spares trivial))
      fun _ tr s hrely => ?_
    refine hg tr s (Held.of_rely ⟨hheld.mutex, hheld.cachedType, hfound, fun hi => ?_⟩ hrely)
    exact absurd hi (by simp)

/-- The port is given up. -/
lemma sat_resetCpType {g : Unit → PortProg β} (hheld : Held d .integrity w f t tr s)
    (hg : ∀ tr' s', Held d .integrity w f cpTypeInvalid tr' s' →
      (integrityProtocol d).Sat (portSystem m) .integrity c Q (g ()) tr' s') :
    (integrityProtocol d).Sat (portSystem m) .integrity c Q
      (setCpType d.portId cpTypeInvalid >>= g) tr s := by
  intro tr' s' hrely hinv u s'' hstep _
  have hheld := hheld.of_rely hrely
  obtain rfl := (Option.some.inj hstep).symm
  have hcached : (s'.modify d.portId fun y => { y with cpType := cpTypeInvalid }).cachedType
      d.portId = cpTypeInvalid := by
    rw [PortState.cachedType, PortState.modify_objects_self]
    rfl
  refine ⟨held_step hheld hinv hheld.mutex (fun _ hvalid => absurd hcached hvalid)
    (fun h => absurd rfl h) Iff.rfl, hg _ _ ⟨hheld.mutex, hcached, hheld.found, fun hi => ?_⟩⟩
  exact absurd hi (by simp)

/-- The round of `CheckIntegrity` for the object. -/
lemma sat_integrityRound :
    (integrityProtocol d).Sat (portSystem m) .integrity c (fun _ _ _ => True)
      (integrityRound d) tr s := by
  have hend {w : Written} {f : Found} {t : ℕ} {tr : PortTrace} {s : PortState}
      (hheld : Held d .integrity w f t tr s) (htold : t ≠ cpTypeInvalid → f.told = false)
      (hround : f.reported = f.lost) :
      (integrityProtocol d).Sat (portSystem m) .integrity c (fun _ _ _ => True)
        (cpTypeAtomicEnd d.portId) tr s :=
    sat_end (g := Prog.ret) hheld (fun hi => absurd hi (by simp)) (fun _ => ⟨htold, hround⟩)
      fun _ _ _ _ _ _ => trivial
  rw [integrityRound]
  refine sat_begin fun w f t tr s hstart hheld => ?_
  have hround : f.reported = f.lost := hstart.reported.trans hstart.lost.symm
  refine sat_getCpType hheld fun tr s hheld => ?_
  refine Protocol.Sat.ite (fun _ => hend hheld hstart.told hround) fun hvalid => ?_
  refine sat_look hheld hvalid (fun tr s hheld => hend hheld hstart.told hround)
    fun x tr s hheld => ?_
  refine Protocol.Sat.ite (fun hv => ?_) fun hv => ?_
  · have hlost : (f.look x.1).lost = true := decide_eq_true hv
    refine sat_reportStatus hheld hlost hstart.reported (hstart.told hvalid)
      fun tr s hheld => ?_
    refine sat_resetCpType hheld fun tr s hheld => ?_
    exact hend hheld (fun h => absurd rfl h) hlost.symm
  · have hlost : (f.look x.1).lost = false := decide_eq_false hv
    exact hend hheld (fun _ => hstart.told hvalid) (hstart.reported.trans hlost.symm)

/-! ### The calls -/

lemma unlocked_of_aside (h : o.aside = true) : unlocked o = true := by
  cases o <;> first | rfl | exact absurd h (by simp [PortOp.aside])

lemma uses_setPortProperty {drmId propId value numRetry : ℕ} :
    (m.setPortProperty drmId propId 1 value numRetry).Uses fun o => unlocked o = true :=
  Port.uses_setPortProperty (fun _ => rfl) rfl (fun _ => rfl) rfl

lemma quiet_checkEnabled {a : ℕ} (hd : d'.portId ≠ d.portId) (hid : d'.drmId ≠ d.drmId) :
    (checkEnabled d' a).Uses (Quiet d i c) :=
  uses_checkEnabled (quiet_of_spares hd) (quiet_of_spares hid) (fun _ => quiet_of_spares hd)
    (quiet_of_spares trivial) (quiet_of_spares hd)

lemma quiet_checkDisabled (hd : d'.portId ≠ d.portId) (hid : d'.drmId ≠ d.drmId) :
    (checkDisabled d').Uses (Quiet d i c) :=
  uses_checkDisabled (quiet_of_spares hd) (quiet_of_spares hid) (quiet_of_spares hd)
    (quiet_of_spares hd)

lemma quiet_integrityRound (hd : d'.portId ≠ d.portId) (hid : d'.drmId ≠ d.drmId) :
    (integrityRound d').Uses (Quiet d i c) := by
  have hreport : (reportStatus .linkLost d'.portId).Uses (Quiet d i c) := by
    refine Prog.Uses.bind (Prog.uses_op.2 (quiet_of_spares trivial)) fun _ => ?_
    refine Prog.Uses.bind (Prog.uses_op.2 (quiet_of_spares hd)) fun _ => ?_
    exact Prog.uses_op.2 (quiet_of_spares trivial)
  exact uses_integrityRound (quiet_of_spares hd) (quiet_of_spares trivial) (quiet_of_spares hid)
    hreport (quiet_of_spares hd) (quiet_of_spares hd)

lemma sat_enablePort {p a : ℕ} {level : UInt8} (hd : d ∈ m.drmObjects)
    (hc : c = .enablePort p a level) :
    (integrityProtocol d).Sat (portSystem m) .message c (fun _ _ _ => True)
      (m.enablePort p a level) tr s := by
  have hret {tr : PortTrace} {s : PortState} (e : Errno) : (integrityProtocol d).Sat
      (portSystem m) .message c (fun _ _ _ => True) (.ret e) tr s := fun _ _ _ _ => trivial
  rw [PortManager.enablePort]
  split
  · exact hret _
  · rename_i d' hd'
    refine sat_unlocked_bind (Prog.uses_op.2 rfl) fun connection tr s => ?_
    refine Protocol.Sat.ite (fun _ => hret _) fun _ => ?_
    refine Protocol.Sat.ite (fun _ => hret _) fun _ => ?_
    refine sat_unlocked_bind (Prog.uses_op.2 rfl) fun currCpType tr s => ?_
    refine Protocol.Sat.ite (fun _ => ?_) fun _ => ?_
    · exact sat_unlocked_bind (Prog.uses_op.2 rfl) fun _ tr s => hret _
    · have htype : (m.setContentType d' level).Uses fun o => unlocked o = true :=
        Prog.Uses.ite (fun _ => uses_setPortProperty) fun _ => trivial
      refine sat_unlocked_bind htype fun ret tr s => ?_
      refine Protocol.Sat.ite (fun _ => hret _) fun _ => ?_
      refine sat_unlocked_bind uses_setPortProperty fun ret tr s => ?_
      refine Protocol.Sat.ite (fun _ => hret _) fun _ => ?_
      refine sat_unlocked_bind (Prog.uses_op.2 rfl) fun _ tr s => ?_
      by_cases heq : d' = d
      · subst heq
        exact sat_checkEnabled hc
      · have hmem := m.mem_of_getDrmObjectByPortId hd'
        refine (sat_quiet ?_).mono fun _ _ _ _ _ => trivial
        exact quiet_checkEnabled (m.portId_ne hmem hd heq) (m.drmId_ne hmem hd heq)

lemma sat_disablePort {p a : ℕ} (hd : d ∈ m.drmObjects)
    (hc : (∃ p a, c = .disablePort p a) ∨ ∃ a, c = .removeAppFromPorts a) :
    (integrityProtocol d).Sat (portSystem m) .message c (fun _ _ _ => True)
      (m.disablePort p a) tr s := by
  have hret {tr : PortTrace} {s : PortState} (e : Errno) : (integrityProtocol d).Sat
      (portSystem m) .message c (fun _ _ _ => True) (.ret e) tr s := fun _ _ _ _ => trivial
  rw [PortManager.disablePort]
  split
  · exact hret _
  · rename_i d' hd'
    refine sat_unlocked_bind (Prog.uses_op.2 rfl) fun connection tr s => ?_
    refine Protocol.Sat.ite (fun _ => hret _) fun _ => ?_
    refine sat_unlocked_bind (Prog.uses_op.2 rfl) fun _ tr s => ?_
    refine sat_unlocked_bind (Prog.uses_op.2 rfl) fun count tr s => ?_
    refine Protocol.Sat.ite (fun _ => hret _) fun _ => ?_
    refine sat_unlocked_bind uses_setPortProperty fun ret tr s => ?_
    refine Protocol.Sat.ite (fun _ => hret _) fun _ => ?_
    by_cases heq : d' = d
    · subst heq
      exact sat_checkDisabled hc
    · have hmem := m.mem_of_getDrmObjectByPortId hd'
      refine (sat_quiet ?_).mono fun _ _ _ _ _ => trivial
      exact quiet_checkDisabled (m.portId_ne hmem hd heq) (m.drmId_ne hmem hd heq)

lemma sat_removeLoop {a : ℕ} (hd : d ∈ m.drmObjects) (hc : ∃ a, c = .removeAppFromPorts a)
    (drmObjects : List DrmObject) :
    (integrityProtocol d).Sat (portSystem m) .message c (fun _ _ _ => True)
      (m.removeLoop a drmObjects) tr s := by
  induction drmObjects generalizing tr s with
  | nil => exact fun _ _ _ _ => trivial
  | cons d' drmObjects ih =>
      exact (sat_disablePort hd (.inr hc)).bind fun _ tr s _ _ => ih

lemma sat_getStatus {p : ℕ} :
    (integrityProtocol d).Sat (portSystem m) .message (.getStatus p) (fun _ _ _ => True)
      (m.getStatus p) tr s := by
  have huses : (m.getStatus p).Uses fun o : PortOp =>
      unlocked o = true ∨ ∃ drmId, o = .drmModeObjectGetProperties drmId :=
    uses_getStatus (fun o ho _ => .inl (unlocked_of_aside ho)) fun drmId => .inr ⟨drmId, rfl⟩
  refine Protocol.sat_of_keeps (F := fun _ _ => True) huses trivial (fun _ h => h) ?_
  intro o r tr s s' ho hinv _ hstep _
  rcases ho with ho | ⟨drmId, rfl⟩
  · exact ⟨unlocked_step ho hinv hstep, trivial⟩
  · exact ⟨(quiet_step quiet_getStatus hinv hstep).1, trivial⟩

/-! ### Runs -/

/-- A call begins, or returns. -/
lemma keeps_outer (hl : l = .call i c ∨ ∃ e, l = .ret i c e) (hinv : IntegrityInv d tr s) :
    (integrityProtocol d).Keeps i tr s l s := by
  rcases hl with rfl | ⟨e, rfl⟩
  · exact keeps_of_frame rfl rfl (.inl rfl) rfl Iff.rfl hinv
  · exact keeps_of_frame rfl rfl (.inl rfl) rfl Iff.rfl hinv

lemma sat_callBody (hd : d ∈ m.drmObjects) (hmay : portMay i c = true) :
    (integrityProtocol d).Sat (portSystem m) i c (fun _ _ _ => True) (m.callBody c) tr s := by
  cases i with
  | message =>
      cases c with
      | enumeratePorts => exact sat_unlocked (uses_enumeratePorts fun o => unlocked_of_aside)
      | enablePort p a level => exact sat_enablePort hd rfl
      | disablePort p a => exact sat_disablePort hd (.inl ⟨p, a, rfl⟩)
      | removeAppFromPorts a => exact sat_removeLoop hd ⟨a, rfl⟩ m.drmObjects
      | getStatus p => exact sat_getStatus
      | processHotPlug => exact absurd hmay (by decide)
      | checkIntegrity => exact absurd hmay (by decide)
  | integrity =>
      obtain rfl := eq_checkIntegrity hmay
      refine (Protocol.sat_forEach fun d' hd' tr s => ?_).bind
        (f := fun _ => Prog.ret Errno.success) fun _ _ _ _ _ _ _ _ _ => trivial
      by_cases heq : d' = d
      · subst heq
        exact sat_integrityRound
      · refine (sat_quiet ?_).mono fun _ _ _ _ _ => trivial
        exact quiet_integrityRound (m.portId_ne hd' hd heq) (m.drmId_ne hd' hd heq)
  | uevent =>
      obtain rfl := eq_processHotPlug hmay
      have huses : m.processHotPlug.Uses (Quiet d .uevent .processHotPlug) :=
        uses_processHotPlug fun o ho =>
          quiet_uevent (cpTypeOf_of_unlocked (unlocked_of_aside ho))
      exact (sat_quiet huses).mono fun _ _ _ _ _ => trivial

lemma inv_of_run (hd : d ∈ m.drmObjects) {cfg : PortConfig}
    (hrun : (portSystem m).AnyRun initState tr cfg) : IntegrityInv d tr cfg.shared := by
  refine (Protocol.sound (P := integrityProtocol d) ?_ ?_ hrun).1
  · exact ⟨fun _ _ => rfl, fun _ _ => rfl, fun _ => ⟨rfl, rfl⟩, trivial⟩
  · intro i c tr s hmay _ hinv _
    refine ⟨keeps_outer (.inl rfl) hinv, (sat_callBody hd hmay).mono ?_⟩
    exact fun e tr s hinv _ _ => keeps_outer (.inr ⟨e, rfl⟩) hinv

end Programs

/-! ### The reports of CheckIntegrity -/

/-- In every run, and for every port, `CheckIntegrity` takes as lost what is lost on its own, and
reports it once, exactly when it does not look at a port with a write that has not been
confirmed. -/
theorem linkLost_right_iff (hd : d ∈ m.drmObjects) {cfg : PortConfig}
    (hrun : (portSystem m).AnyRun initState tr cfg) :
    ∀ l tr', l :: tr' <:+ tr → (Right d l tr' ↔ Condition d l tr') :=
  fun _ _ hsuffix => (inv_of_run hd hrun).right.of_suffix hsuffix

/-! ### The rounds of a call -/

/-- The port whose round ends. -/
def roundEnd : Event portSig → Option ℕ
  | ⟨.cpTypeAtomicEnd p, _⟩ => some p
  | _ => none

lemma roundEnd_integrityRound (d : DrmObject) (log : List (Event portSig))
    (h : (integrityRound d).Runs log ()) : log.filterMap roundEnd = [d.portId] := by
  obtain ⟨-, log₁, rfl, h₁⟩ := Prog.runs_op_bind.1 h
  obtain ⟨(current : ℕ), log₂, rfl, h₂⟩ := Prog.runs_op_bind.1 h₁
  rcases Prog.runs_ite.1 h₂ with ⟨-, h₃⟩ | ⟨-, h₃⟩
  · rw [Prog.runs_op.1 h₃]
    rfl
  · obtain ⟨info, first, rest, hfirst, h₄, rfl⟩ := Prog.runs_bind.1 h₃
    have hnone : first.filterMap roundEnd = [] := by
      obtain ⟨properties, log₃, rfl, h₅⟩ := Prog.runs_op_bind.1 hfirst
      have hlog : log₃ = [] := by
        cases properties with
        | none => exact (Prog.runs_ret.1 h₅).1
        | some properties => exact (Prog.runs_ret.1 h₅).1
      rw [hlog]
      rfl
    have hrest : rest.filterMap roundEnd = [d.portId] := by
      rcases info with _ | ⟨cpValue, cpType⟩
      · rw [Prog.runs_op.1 h₄]
        rfl
      · rcases Prog.runs_ite.1 h₄ with ⟨-, h₅⟩ | ⟨-, h₅⟩
        · obtain ⟨-, log₄, rfl, h₆⟩ := Prog.runs_op_bind.1 h₅
          obtain ⟨-, log₅, rfl, h₇⟩ := Prog.runs_op_bind.1 h₆
          obtain ⟨-, log₆, rfl, h₈⟩ := Prog.runs_op_bind.1 h₇
          obtain ⟨-, log₇, rfl, h₉⟩ := Prog.runs_op_bind.1 h₈
          rw [Prog.runs_op.1 h₉]
          rfl
        · rw [Prog.runs_op.1 h₅]
          rfl
    rw [List.filterMap_cons, List.filterMap_cons, List.filterMap_append, hnone, hrest]
    rfl

/-- A call of `CheckIntegrity` that returns has made one round for each port, one after the
other. -/
theorem checkIntegrity_rounds {cfg : PortConfig} {a : Errno}
    (hrun : (portSystem m).AnyRun initState tr cfg)
    (hret : .ret i .checkIntegrity a :: tr' <:+ tr) :
    (callEvents i tr').reverse.filterMap roundEnd = m.drmObjects.map (·.portId) := by
  obtain ⟨⟨⟩, log, last, hlog, hlast, heq⟩ := Prog.runs_bind.1 (hrun.runs_of_ret hret)
  obtain ⟨rfl, -⟩ := Prog.runs_ret.1 hlast
  rw [heq, List.append_nil,
    Prog.runs_forEach_filterMap (fun d _ => roundEnd_integrityRound d) hlog, ← List.map_eq_flatMap]

def reportsLinkLost : PortLabel → Bool
  | .op .integrity _ ⟨.sendReport .linkLost 0, _⟩ => true
  | _ => false

/-- A port is enabled, and is lost on its own. -/
def enableAndLose : List PortAction :=
  completeCall .message (.enablePort 0 7 hdcpLevel2) 14 (readsBack cpEnabled cpType1) ++
    completeCall .integrity .checkIntegrity 8 (readsBack cpDesired cpType1) ++
    completeCall .integrity .checkIntegrity 3 (readsBack cpDesired cpType1)

theorem linkLost_right_iff_enableAndLose :
    ∃ x, (onePort false).scheduled (fun _ _ _ => true) enableAndLose = some x ∧
      x.1.countP reportsLinkLost = 1 ∧
      ∀ l tr', l :: tr' <:+ x.1 → (Right port0 l tr' ↔ Condition port0 l tr') := by
  obtain ⟨x, hx, hrun, htest⟩ := exists_run_of_scheduled (onePort false) (fun _ _ _ => true)
    (C := fun _ _ _ => True) (fun _ _ _ _ => trivial) enableAndLose
    (fun x => x.1.countP reportsLinkLost == 1) (by decide)
  exact ⟨x, hx, beq_iff_eq.1 htest, linkLost_right_iff (List.mem_singleton.2 rfl) hrun⟩

/-- `CheckIntegrity` comes between the write of `DisablePort` and its read-back. -/
def checkDuringDisable : List PortAction :=
  completeCall .message (.enablePort 0 7 hdcpLevel2) 14 (readsBack cpEnabled cpType1) ++
    .call .message (.disablePort 0 7) ::
      List.replicate 5 (.op .message (readsBack cpOff cpType1)) ++
    completeCall .integrity .checkIntegrity 8 (readsBack cpOff cpType1)

/-- `CheckIntegrity` comes after an upgrade that the kernel has not completed. -/
def checkAfterFailedUpgrade : List PortAction :=
  completeCall .message (.enablePort 0 8 hdcpLevel1) 14 (readsBack cpEnabled cpType0) ++
    completeCall .message (.enablePort 0 7 hdcpLevel2) 12 (readsBack cpDesired cpType1) ++
    completeCall .integrity .checkIntegrity 8 (readsBack cpDesired cpType1)

/-- The port is read as lost after a write of the daemon. -/
def looksAfterWrite (d : DrmObject) : PortTrace → Bool
  | [] => false
  | .op .integrity _ ⟨.drmModeObjectGetProperties drmId, some properties⟩ :: tr =>
    drmId == d.drmId && (d.protectionInfo properties).1 != cpEnabled &&
      (written d tr).sinceEnabled || looksAfterWrite d tr
  | _ :: tr => looksAfterWrite d tr

lemma not_right_of_looksAfterWrite (h : looksAfterWrite d tr = true) :
    ¬∀ l tr', l :: tr' <:+ tr → Right d l tr' := by
  intro hall
  induction tr using looksAfterWrite.induct with
  | case1 => exact absurd h Bool.false_ne_true
  | case2 c drmId properties tr ih =>
      rw [looksAfterWrite, Bool.or_eq_true] at h
      rcases h with h | h
      · simp only [Bool.and_eq_true, beq_iff_eq, bne_iff_ne] at h
        have hsince := hall _ _ List.suffix_rfl h.1.1 h.1.2
        rw [h.2] at hsince
        exact absurd hsince (by simp)
      · exact ih h fun l tr' hsuffix => hall l tr' (hsuffix.trans (List.suffix_cons _ _))
  | case3 l tr hother ih =>
      rw [looksAfterWrite] at h
      · exact ih h fun l' tr' hsuffix => hall l' tr' (hsuffix.trans (List.suffix_cons _ _))
      · exact hother

/-- The schedule is one of a run with a report of a loss that is due to a write. -/
def LeadsToFalseReport (as : List PortAction) : Prop :=
  ∃ x, (onePort false).scheduled (fun _ _ _ => true) as = some x ∧
    (portSystem (onePort false)).AnyRun initState x.1 x.2 ∧ x.1.any reportsLinkLost = true ∧
    ¬∀ l tr', l :: tr' <:+ x.1 → Right port0 l tr'

lemma leadsToFalseReport {as : List PortAction}
    (h : ((onePort false).scheduled (fun _ _ _ => true) as).any
      (fun x => x.1.any reportsLinkLost && looksAfterWrite port0 x.1) = true) :
    LeadsToFalseReport as := by
  obtain ⟨x, hx, hrun, htest⟩ := exists_run_of_scheduled (onePort false) (fun _ _ _ => true)
    (C := fun _ _ _ => True) (fun _ _ _ _ => trivial) as _ h
  obtain ⟨hreport, hlooks⟩ := Bool.and_eq_true_iff.1 htest
  exact ⟨x, hx, hrun, hreport, not_right_of_looksAfterWrite hlooks⟩

/-- A disable in progress is reported as a loss of the link, and so is a failed upgrade. -/
theorem linkLost_not_lost :
    LeadsToFalseReport checkDuringDisable ∧ LeadsToFalseReport checkAfterFailedUpgrade :=
  ⟨leadsToFalseReport (by decide), leadsToFalseReport (by decide)⟩

end Hdcp.Integrity
