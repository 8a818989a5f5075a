/-
The ports are shared resources.

`protection_shared`: with a kernel that does what it is told, the code is the resource of
`Hdcp.Port.Share`.  In every interleaving of the three threads, whenever the message thread makes
no call, the holders of a port are the users of the resource, the cached type is its level, and
the kernel protects the port at this level; so it protects it at what each holder has asked for,
and does not protect it when there is no holder.  Each call answers accordingly.

`CheckIntegrity` may look at a port in the middle of an upgrade, read it as lost and give up its
cached type.  It does so only while the message thread has a write to read back, and the read-back
sets the cached type.
-/
import Hdcp.Port.Integrity
import Hdcp.Port.Share

namespace Hdcp.Protection

open Library Port
open Library.Prog (op forEach)
open Integrity (cachedType_of_frame)

/-! ### The protocol -/

def writesTo (d : DrmObject) : PortLabel → Bool
  | .op .message _ ⟨.drmModeConnectorSetProperty drmId _ _, _⟩ => drmId == d.drmId
  | _ => false

def takesMutex (d : DrmObject) : PortLabel → Bool
  | .op .message _ ⟨.cpTypeAtomicBegin p, _⟩ => p == d.portId
  | _ => false

/-- The message thread has written to the port, and has not begun to read it back. -/
def unread (d : DrmObject) : PortTrace → Bool := since (writesTo d) (takesMutex d)

def readsLost (d : DrmObject) : PortLabel → Bool
  | .op .integrity _ ⟨.drmModeObjectGetProperties drmId, some properties⟩ =>
    drmId == d.drmId && (d.protectionInfo properties).1 != cpEnabled
  | _ => false

def endsRound (d : DrmObject) : PortLabel → Bool
  | .op .integrity _ ⟨.cpTypeAtomicEnd p, _⟩ => p == d.portId
  | _ => false

/-- `CheckIntegrity` has read the port as lost in its present round. -/
def lost (d : DrmObject) : PortTrace → Bool := since (readsLost d) (endsRound d)

/-- The kernel protects the port at some content type. -/
def Shielded (d : DrmObject) (k : Kernel) : Prop := ∃ t, Protects d k (WithBot.some t)

/-- A valid cached type is one of a port that is protected, unless the message thread is working
on the port; and `CheckIntegrity` reads a port as lost only then. -/
structure ProtectionInv (d : DrmObject) (tr : PortTrace) (s : PortState) : Prop where
  shielded : s.cpTypeMutex d.portId ≠ some .message → unread d tr = false →
    s.cachedType d.portId ≠ cpTypeInvalid → Shielded d (kernel d tr)
  lost : lost d tr = true → unread d tr = true ∧ s.cpTypeMutex d.portId = some .integrity
  idle : calling .message tr = none → Agrees d (share d tr) tr s ∧ unread d tr = false
  answers : EveryStep (Answers d) tr

/-- What the other threads leave alone while the message thread makes a call. -/
structure Calm (d : DrmObject) (tr : PortTrace) (s : PortState) (tr' : PortTrace)
    (s' : PortState) : Prop where
  calling : calling .message tr' = calling .message tr
  events : callEvents .message tr' = callEvents .message tr
  share : share d tr' = share d tr
  kernel : kernel d tr' = kernel d tr
  reading : unread d tr' = unread d tr
  holders : (s'.objects d.portId).appIds = (s.objects d.portId).appIds
  cached : unread d tr = false ∨ s.cpTypeMutex d.portId = some .message →
    s'.cachedType d.portId = s.cachedType d.portId
  mutex : s.cpTypeMutex d.portId = some .message → s'.cpTypeMutex d.portId = some .message

/-- What the other threads leave alone while the integrity thread holds the mutex of the port. -/
structure Spared (d : DrmObject) (tr : PortTrace) (s : PortState) (tr' : PortTrace)
    (s' : PortState) : Prop where
  mutex : s'.cpTypeMutex d.portId = some .integrity
  cached : s'.cachedType d.portId = s.cachedType d.portId
  lost : lost d tr' = lost d tr
  reading : unread d tr = true → unread d tr' = true

/-- What a thread relies on. -/
def Relies (d : DrmObject) (i : Thread) (tr : PortTrace) (s : PortState) (tr' : PortTrace)
    (s' : PortState) : Prop :=
  match i with
  | .message => Calm d tr s tr' s'
  | .integrity => s.cpTypeMutex d.portId = some .integrity → Spared d tr s tr' s'
  | .uevent => True

variable {m : PortManager} {d d' : DrmObject} {tr tr' tr'' : PortTrace} {s s' s'' : PortState}
  {i : Thread} {c : PortCall} {o : PortOp} {r : o.Ans} {g g' : Share} {t : ℕ}

lemma Calm.refl : Calm d tr s tr s :=
  ⟨rfl, rfl, rfl, rfl, rfl, rfl, fun _ => rfl, fun h => h⟩

lemma Calm.trans (h : Calm d tr s tr' s') (h' : Calm d tr' s' tr'' s'') :
    Calm d tr s tr'' s'' where
  calling := h'.calling.trans h.calling
  events := h'.events.trans h.events
  share := h'.share.trans h.share
  kernel := h'.kernel.trans h.kernel
  reading := h'.reading.trans h.reading
  holders := h'.holders.trans h.holders
  cached hs := (h'.cached (hs.imp h.reading.trans h.mutex)).trans (h.cached hs)
  mutex hs := h'.mutex (h.mutex hs)

lemma Relies.trans (h : Relies d i tr s tr' s') (h' : Relies d i tr' s' tr'' s'') :
    Relies d i tr s tr'' s'' := by
  cases i with
  | message => exact Calm.trans h h'
  | integrity =>
      intro hs
      have hfirst := h hs
      have hsecond := h' hfirst.mutex
      exact ⟨hsecond.mutex, hsecond.cached.trans hfirst.cached, hsecond.lost.trans hfirst.lost,
        fun hu => hsecond.reading (hfirst.reading hu)⟩
  | uevent => trivial

def protectionProtocol (m : PortManager) (d : DrmObject) :
    Protocol portSig Thread PortCall Errno PortState where
  admits := Cooperates m
  inv := ProtectionInv d
  rely := Relies d
  refl i _ _ := by
    cases i with
    | message => exact Calm.refl
    | integrity => exact fun hs => ⟨hs, rfl, rfl, fun h => h⟩
    | uevent => trivial
  trans h h' := Relies.trans h h'

/-! ### Steps -/

/-- An interaction that neither changes the port nor has to do with what the kernel is told about
it. -/
def Apart (d : DrmObject) : PortOp → Prop
  | .setCpType p _ | .cpTypeAtomicBegin p | .cpTypeAtomicEnd p | .addRefAppId p _
  | .removeRefAppId p _ | .clearRefAppId p => p ≠ d.portId
  | .drmModeConnectorSetProperty drmId _ _ => drmId ≠ d.drmId
  | .sleep => False
  | _ => True

lemma Apart.appIds (ho : Apart d o) (hstep : portStep i o r s = some s') :
    (s'.objects d.portId).appIds = (s.objects d.portId).appIds := by
  rcases portStep_cases hstep with h | ⟨q, x, rfl, rfl⟩ | ⟨q, x, rfl, rfl⟩ | ⟨q, a, rfl, rfl⟩ |
    ⟨q, a, rfl, rfl⟩ | ⟨q, rfl, rfl⟩
  · rw [h]
  · exact PortState.modify_objects_field DrmState.appIds fun _ => rfl
  · exact PortState.modify_objects_field DrmState.appIds fun _ => rfl
  all_goals rw [PortState.modify_objects_of_ne (Ne.symm ho)]

lemma Apart.cpTypeOf (ho : Apart d o) : o.cpTypeOf ≠ some d.portId := by
  cases o
  case setCpType => exact fun heq => ho (Option.some.inj heq)
  case cpTypeAtomicBegin => exact fun heq => ho (Option.some.inj heq)
  case cpTypeAtomicEnd => exact fun heq => ho (Option.some.inj heq)
  all_goals simp [PortOp.cpTypeOf]

lemma Apart.kernel (ho : Apart d o) :
    kernel d (.op .message c ⟨o, r⟩ :: tr) = kernel d tr := by
  cases o
  case drmModeConnectorSetProperty => exact if_neg ho
  case sleep => exact absurd ho id
  all_goals rfl

lemma Apart.unread (ho : Apart d o) :
    unread d (.op .message c ⟨o, r⟩ :: tr) = unread d tr := by
  cases o
  case drmModeConnectorSetProperty => exact since_cons_of_eq (beq_false_of_ne ho) rfl
  case cpTypeAtomicBegin => exact since_cons_of_eq rfl (beq_false_of_ne ho)
  all_goals rfl

/-! ### What the message thread knows -/

/-- What the message thread knows of the port in a call. -/
structure View where
  events : List (Event portSig)
  holders : List ℕ
  kernel : Kernel
  unread : Bool
  cached : ℕ
  holding : Bool

namespace View

def saw (v : View) (e : Event portSig) : View := { v with events := e :: v.events }

def sleep (v : View) : View :=
  { v.saw ⟨.sleep, ()⟩ with kernel := { v.kernel with settled := true } }

def write (v : View) (d : DrmObject) (propId value : ℕ) : View :=
  { v.saw ⟨.drmModeConnectorSetProperty d.drmId propId value, true⟩ with
    kernel := v.kernel.write d propId value
    unread := true
    holding := false }

def begin (v : View) (d : DrmObject) (t : ℕ) : View :=
  { v.saw ⟨.cpTypeAtomicBegin d.portId, ()⟩ with unread := false, cached := t, holding := true }

def setCpType (v : View) (d : DrmObject) (t : ℕ) : View :=
  { v.saw ⟨.setCpType d.portId t, ()⟩ with cached := u8 t }

def finish (v : View) (d : DrmObject) : View :=
  { v.saw ⟨.cpTypeAtomicEnd d.portId, ()⟩ with holding := false }

/-- The holders change in an interaction. -/
def holdBy (v : View) (e : Event portSig) (holders : List ℕ) : View :=
  { v.saw e with holders := holders }

end View

variable {v v' : View}

/-- What the message thread knows is the case.  It knows the cached type unless it has written to
the port, and not yet taken the mutex to read it back. -/
structure Knows (d : DrmObject) (c : PortCall) (g : Share) (v : View) (tr : PortTrace)
    (s : PortState) : Prop where
  calling : calling .message tr = some c
  share : share d tr = g
  events : callEvents .message tr = v.events
  holders : (s.objects d.portId).appIds = v.holders
  kernel : Protection.kernel d tr = v.kernel
  reading : unread d tr = v.unread
  cached : v.unread = false ∨ v.holding = true → s.cachedType d.portId = v.cached
  mutex : v.holding = true → s.cpTypeMutex d.portId = some .message

lemma Knows.of_calm (h : Knows d c g v tr s) (hcalm : Calm d tr s tr' s') :
    Knows d c g v tr' s' where
  calling := hcalm.calling.trans h.calling
  share := hcalm.share.trans h.share
  events := hcalm.events.trans h.events
  holders := hcalm.holders.trans h.holders
  kernel := hcalm.kernel.trans h.kernel
  reading := hcalm.reading.trans h.reading
  cached hv := (hcalm.cached (hv.imp h.reading.trans h.mutex)).trans (h.cached hv)
  mutex hv := hcalm.mutex (h.mutex hv)

/-- A step of the message thread in a call. -/
lemma keeps_message {l : PortLabel} {e : Event portSig} (hl : l = .op .message c e)
    (hcalling : calling .message tr = some c) (hinv : ProtectionInv d tr s)
    (hother : s.cpTypeMutex d.portId = some .integrity → s'.cpTypeMutex d.portId = some .integrity ∧
      s'.cachedType d.portId = s.cachedType d.portId ∧
      (unread d tr = true → unread d (l :: tr) = true))
    (hshielded : s'.cpTypeMutex d.portId ≠ some .message → unread d (l :: tr) = false →
      s'.cachedType d.portId ≠ cpTypeInvalid → Shielded d (kernel d (l :: tr))) :
    (protectionProtocol m d).Keeps .message tr s l s' := by
  subst hl
  refine ⟨⟨hshielded, fun h => ?_, fun h => ?_, trivial, hinv.answers⟩, fun j hj => ?_⟩
  · obtain ⟨hunread, hmutex⟩ := hinv.lost h
    obtain ⟨hmutex', -, hunread'⟩ := hother hmutex
    exact ⟨hunread' hunread, hmutex'⟩
  · exact absurd (hcalling.symm.trans h) (by simp)
  · cases j with
    | message => exact absurd rfl hj
    | integrity =>
        intro hmutex
        obtain ⟨hmutex', hcached, hunread⟩ := hother hmutex
        exact ⟨hmutex', hcached, rfl, hunread⟩
    | uevent => trivial

lemma apart_step (ho : Apart d o) (hk : Knows d c g v tr s) (hinv : ProtectionInv d tr s)
    (hstep : portStep .message o r s = some s') :
    (protectionProtocol m d).Keeps .message tr s (.op .message c ⟨o, r⟩) s' ∧
      Knows d c g (v.saw ⟨o, r⟩) (.op .message c ⟨o, r⟩ :: tr) s' := by
  obtain ⟨hmutex, hcached⟩ := cachedType_of_frame ho.cpTypeOf hstep
  refine ⟨keeps_message rfl hk.calling hinv (fun h => ?_) fun hfree hunread hvalid => ?_, ?_⟩
  · exact ⟨hmutex.trans h, hcached, fun hunread => ho.unread.trans hunread⟩
  · rw [ho.kernel]
    exact hinv.shielded (hmutex ▸ hfree) (ho.unread ▸ hunread) (hcached ▸ hvalid)
  · refine ⟨hk.calling, hk.share, ?_, (ho.appIds hstep).trans hk.holders,
      ho.kernel.trans hk.kernel, ho.unread.trans hk.reading, fun h => ?_, fun h => ?_⟩
    · rw [callEvents_op_self, hk.events]
      rfl
    · exact hcached.trans (hk.cached h)
    · exact hmutex.trans (hk.mutex h)

/-- While the message thread sleeps, the kernel authenticates the port. -/
lemma sleep_step {u : Unit} (hk : Knows d c g v tr s) (hinv : ProtectionInv d tr s) :
    (protectionProtocol m d).Keeps .message tr s (.op .message c ⟨.sleep, u⟩) s ∧
      Knows d c g v.sleep (.op .message c ⟨.sleep, u⟩ :: tr) s := by
  have hkernel : kernel d (.op .message c ⟨.sleep, u⟩ :: tr) =
      { kernel d tr with settled := true } := rfl
  refine ⟨keeps_message rfl hk.calling hinv (fun h => ⟨h, rfl, fun hu => hu⟩)
    fun hfree hunread hvalid => ?_, ⟨hk.calling, hk.share, ?_, hk.holders, ?_, hk.reading,
      hk.cached, hk.mutex⟩⟩
  · obtain ⟨t, hprotects⟩ := hinv.shielded hfree hunread hvalid
    exact ⟨t, hprotects.settle⟩
  · rw [callEvents_op_self, hk.events]
    rfl
  · rw [hkernel, hk.kernel]
    rfl

section Programs

variable {α β : Type} {Q : β → PortTrace → PortState → Prop}

/-- An interaction that leaves the port alone.  Its answer is one of a step that is admitted. -/
lemma sat_apart {f : o.Ans → PortProg β} (ho : Apart d o) (hk : Knows d c g v tr s)
    (hf : ∀ r tr₁ s₁ s₂, Knows d c g v tr₁ s₁ → portStep .message o r s₁ = some s₂ →
      Cooperates m tr₁ s₁ (.op .message c ⟨o, r⟩) →
        ∀ tr' s', Knows d c g (v.saw ⟨o, r⟩) tr' s' →
          (protectionProtocol m d).Sat (portSystem m) .message c Q (f r) tr' s') :
    (protectionProtocol m d).Sat (portSystem m) .message c Q (op (S := portSig) o >>= f) tr s := by
  intro tr' s' hrely hinv r s'' hstep hadm
  have hk := hk.of_calm hrely
  obtain ⟨hkeeps, hk'⟩ := apart_step ho hk hinv hstep
  exact ⟨hkeeps, hf r _ _ _ hk hstep hadm _ _ hk'⟩

lemma sat_sleep {f : Unit → PortProg β} (hk : Knows d c g v tr s)
    (hf : ∀ tr' s', Knows d c g v.sleep tr' s' →
      (protectionProtocol m d).Sat (portSystem m) .message c Q (f ()) tr' s') :
    (protectionProtocol m d).Sat (portSystem m) .message c Q (sleep >>= f) tr s := by
  intro tr' s' hrely hinv u s'' hstep _
  obtain rfl : s' = s'' := Option.some.inj hstep
  obtain ⟨hkeeps, hk⟩ := sleep_step (hk.of_calm hrely) hinv
  exact ⟨hkeeps, hf _ _ hk⟩

/-- A change to the holders of the port. -/
lemma sat_holders {f : Unit → PortProg β} {o : PortOp} {u : o.Ans} {F : DrmState → DrmState}
    {holders : List ℕ} (hunit : ∀ r : o.Ans, r = u)
    (hstep : ∀ s, portStep .message o u s = some (s.modify d.portId F))
    (hkernel : ∀ tr, kernel d (.op .message c ⟨o, u⟩ :: tr) = kernel d tr)
    (hunread : ∀ tr, unread d (.op .message c ⟨o, u⟩ :: tr) = unread d tr)
    (hcpType : ∀ x, (F x).cpType = x.cpType)
    (hholders : ∀ x, x.appIds = v.holders → (F x).appIds = holders)
    (hk : Knows d c g v tr s)
    (hf : ∀ tr' s', Knows d c g (v.holdBy ⟨o, u⟩ holders) tr' s' →
      (protectionProtocol m d).Sat (portSystem m) .message c Q (f ()) tr' s') :
    (protectionProtocol m d).Sat (portSystem m) .message c Q (.call o fun _ => f ()) tr s := by
  intro tr' s' hrely hinv r s'' hs _
  have hk := hk.of_calm hrely
  obtain rfl := hunit r
  obtain rfl := (Option.some.inj ((hstep s').symm.trans hs)).symm
  have hcached : (s'.modify d.portId F).cachedType d.portId = s'.cachedType d.portId :=
    congrArg u8 (PortState.modify_objects_field DrmState.cpType hcpType)
  refine ⟨keeps_message rfl hk.calling hinv (fun h => ⟨h, hcached, (hunread tr').trans⟩)
    fun hfree hu hvalid => ?_, hf _ _ ⟨hk.calling, hk.share, ?_, ?_,
      (hkernel tr').trans hk.kernel, (hunread tr').trans hk.reading,
      fun h => hcached.trans (hk.cached h), hk.mutex⟩⟩
  · rw [hkernel tr']
    exact hinv.shielded hfree (hunread tr' ▸ hu) (hcached ▸ hvalid)
  · rw [callEvents_op_self, hk.events]
    rfl
  · rw [PortState.modify_objects_self]
    exact hholders _ hk.holders

/-- The holders after `AddRefAppId`. -/
def added (holders : List ℕ) (a : ℕ) : List ℕ := if a ∈ holders then holders else holders ++ [a]

lemma sat_addRefAppId {f : Unit → PortProg β} {a : ℕ} (hk : Knows d c g v tr s)
    (hf : ∀ tr' s', Knows d c g
      (v.holdBy ⟨.addRefAppId d.portId a, ()⟩ (added v.holders a)) tr' s' →
        (protectionProtocol m d).Sat (portSystem m) .message c Q (f ()) tr' s') :
    (protectionProtocol m d).Sat (portSystem m) .message c Q
      (addRefAppId d.portId a >>= f) tr s := by
  refine sat_holders (fun _ => rfl) (fun _ => rfl) (fun _ => rfl) (fun _ => rfl) (fun _ => rfl)
    (fun x hx => ?_) hk hf
  rw [← hx]
  rfl

lemma sat_removeRefAppId {f : Unit → PortProg β} {a : ℕ} (hk : Knows d c g v tr s)
    (hf : ∀ tr' s', Knows d c g
      (v.holdBy ⟨.removeRefAppId d.portId a, ()⟩ (v.holders.filter (· ≠ a))) tr' s' →
        (protectionProtocol m d).Sat (portSystem m) .message c Q (f ()) tr' s') :
    (protectionProtocol m d).Sat (portSystem m) .message c Q
      (removeRefAppId d.portId a >>= f) tr s := by
  refine sat_holders (fun _ => rfl) (fun _ => rfl) (fun _ => rfl) (fun _ => rfl) (fun _ => rfl)
    (fun x hx => ?_) hk hf
  rw [← hx]
  rfl

/-- A property of the port is set. -/
lemma sat_write {f : Bool → PortProg β} {propId value : ℕ} (hk : Knows d c g v tr s)
    (hf : ∀ tr' s', Knows d c g (v.write d propId value) tr' s' →
      (protectionProtocol m d).Sat (portSystem m) .message c Q (f true) tr' s') :
    (protectionProtocol m d).Sat (portSystem m) .message c Q
      (drmModeConnectorSetProperty d.drmId propId value >>= f) tr s := by
  intro tr' s' hrely hinv r s'' hstep hadm
  have hk := hk.of_calm hrely
  obtain rfl : s' = s'' := Option.some.inj hstep
  obtain rfl : r = true := hadm
  have hunread : unread d (.op .message c
      ⟨.drmModeConnectorSetProperty d.drmId propId value, true⟩ :: tr') = true :=
    since_cons_of_on (beq_self_eq_true d.drmId)
  refine ⟨keeps_message rfl hk.calling hinv (fun h => ⟨h, rfl, fun _ => hunread⟩)
    fun _ hu _ => ?_, hf _ _ ⟨hk.calling, hk.share, ?_, hk.holders, ?_, hunread,
      by simp [View.write], by simp [View.write]⟩⟩
  · exact absurd (hunread.symm.trans hu) (by simp)
  · rw [callEvents_op_self, hk.events]
    rfl
  · have hkernel : kernel d (.op .message c
        ⟨.drmModeConnectorSetProperty d.drmId propId value, true⟩ :: tr') =
          (kernel d tr').write d propId value := if_pos rfl
    rw [hkernel, hk.kernel]
    rfl

/-- `CpTypeAtomicBegin`: the message thread begins to read the port back. -/
lemma sat_begin {f : Unit → PortProg β} (hk : Knows d c g v tr s)
    (hf : ∀ t tr' s', Knows d c g (v.begin d t) tr' s' →
      (protectionProtocol m d).Sat (portSystem m) .message c Q (f ()) tr' s') :
    (protectionProtocol m d).Sat (portSystem m) .message c Q
      (cpTypeAtomicBegin d.portId >>= f) tr s := by
  intro tr' s' hrely hinv u s'' hstep _
  have hk := hk.of_calm hrely
  have hstep : (if s'.cpTypeMutex d.portId = none then
      some { s' with cpTypeMutex := Function.update s'.cpTypeMutex d.portId (some .message) }
      else none) = some s'' := hstep
  rw [Option.ite_none_right_eq_some] at hstep
  obtain ⟨hfree, hstep⟩ := hstep
  obtain rfl := Option.some.inj hstep
  have hmutex : Function.update s'.cpTypeMutex d.portId (some Thread.message) d.portId =
      some .message := Function.update_self _ _ _
  have hunread : unread d (.op .message c ⟨.cpTypeAtomicBegin d.portId, u⟩ :: tr') = false := by
    rw [unread, since_cons]
    simp [writesTo, takesMutex]
  refine ⟨keeps_message rfl hk.calling hinv (fun h => ?_) fun hne _ _ => absurd hmutex hne,
    hf (s'.cachedType d.portId) _ _ ⟨hk.calling, hk.share, ?_, hk.holders, hk.kernel, hunread,
      fun _ => rfl, fun _ => hmutex⟩⟩
  · exact absurd (hfree.symm.trans h) (by simp)
  · rw [callEvents_op_self, hk.events]
    rfl

/-- The cached type is set. -/
lemma sat_setCpType {f : Unit → PortProg β} {x : ℕ} (hk : Knows d c g v tr s)
    (hholding : v.holding = true)
    (hf : ∀ tr' s', Knows d c g (v.setCpType d x) tr' s' →
      (protectionProtocol m d).Sat (portSystem m) .message c Q (f ()) tr' s') :
    (protectionProtocol m d).Sat (portSystem m) .message c Q
      (setCpType d.portId x >>= f) tr s := by
  intro tr' s' hrely hinv u s'' hstep _
  have hk := hk.of_calm hrely
  have hmutex := hk.mutex hholding
  obtain rfl := (Option.some.inj hstep).symm
  have hcached : (s'.modify d.portId fun y => { y with cpType := x }).cachedType d.portId =
      u8 x := by
    rw [PortState.cachedType, PortState.modify_objects_self]
  have hholders : ((s'.modify d.portId fun y => { y with cpType := x }).objects d.portId).appIds =
      (s'.objects d.portId).appIds := PortState.modify_objects_field DrmState.appIds fun _ => rfl
  refine ⟨keeps_message rfl hk.calling hinv (fun h => ?_) fun hne _ _ => absurd hmutex hne,
    hf _ _ ⟨hk.calling, hk.share, ?_, hholders.trans hk.holders, hk.kernel, hk.reading,
      fun _ => hcached, fun _ => hmutex⟩⟩
  · exact absurd (hmutex.symm.trans h) (by simp)
  · rw [callEvents_op_self, hk.events]
    rfl

/-- `CpTypeAtomicEnd`: a valid cached type is one of a port that is protected. -/
lemma sat_end {f : Unit → PortProg β} (hk : Knows d c g v tr s) (hholding : v.holding = true)
    (hshielded : v.cached ≠ cpTypeInvalid → Shielded d v.kernel)
    (hf : ∀ tr' s', Knows d c g (v.finish d) tr' s' →
      (protectionProtocol m d).Sat (portSystem m) .message c Q (f ()) tr' s') :
    (protectionProtocol m d).Sat (portSystem m) .message c Q
      (cpTypeAtomicEnd d.portId >>= f) tr s := by
  intro tr' s' hrely hinv u s'' hstep _
  have hk := hk.of_calm hrely
  have hmutex := hk.mutex hholding
  have hcached := hk.cached (.inr hholding)
  obtain rfl := (Option.some.inj hstep).symm
  refine ⟨keeps_message rfl hk.calling hinv (fun h => ?_) fun _ _ hvalid => ?_,
    hf _ _ ⟨hk.calling, hk.share, ?_, hk.holders, hk.kernel, hk.reading, fun _ => hcached,
      by simp [View.finish]⟩⟩
  · exact absurd (hmutex.symm.trans h) (by simp)
  · have hkernel : kernel d (.op .message c ⟨.cpTypeAtomicEnd d.portId, u⟩ :: tr') = v.kernel :=
      hk.kernel
    rw [hkernel]
    exact hshielded fun h => hvalid (hcached.trans h)
  · rw [callEvents_op_self, hk.events]
    rfl

/-! ### The operations on the port -/

lemma connectionRead_self {p connection : ℕ} {events : List (Event portSig)} :
    connectionRead p (⟨.getConnection p, connection⟩ :: events) = some connection := by
  have hself : connectionIn p ⟨.getConnection p, connection⟩ = some connection := if_pos rfl
  rw [connectionRead, List.findSome?_cons, hself]

/-- The kernel has been told to set a property of the port. -/
structure Wrote (d : DrmObject) (propId value : ℕ) (v v' : View) : Prop where
  connection : connectionRead d.portId v'.events = connectionRead d.portId v.events
  holders : v'.holders = v.holders
  kernel : v'.kernel = v.kernel.write d propId value

lemma sat_setPortProperty {f : Errno → PortProg β} {propId value n : ℕ} (hias : m.ias = false)
    (hd : d ∈ m.drmObjects) (hk : Knows d c g v tr s)
    (hf : ∀ v' tr' s', Wrote d propId value v v' → Knows d c g v' tr' s' →
      (protectionProtocol m d).Sat (portSystem m) .message c Q (f .success) tr' s') :
    (protectionProtocol m d).Sat (portSystem m) .message c Q
      (m.setPortProperty d.drmId propId 1 value (n + 1) >>= f) tr s := by
  rw [PortManager.setPortProperty, m.getDrmObjectByDrmId_of_mem hd]
  dsimp only
  rw [hias, if_neg Bool.false_ne_true, Prog.bind_assoc]
  refine sat_apart trivial hk fun r _ _ _ _ _ hadm tr s hk => ?_
  obtain rfl : r = true := hadm
  have hvalue : propertyValue value 1 = Prog.ret (some (.einval, value)) := rfl
  rw [if_neg (by simp), hvalue, Prog.ret_bind]
  dsimp only
  rw [setPropertyRetry, Prog.bind_assoc, Prog.bind_assoc]
  refine sat_write hk fun tr s hk => ?_
  rw [if_pos rfl, Prog.pure_eq, Prog.ret_bind, if_neg (by simp), Prog.bind_assoc]
  refine sat_apart trivial hk fun r _ _ _ _ _ hadm tr s hk => ?_
  obtain rfl : r = true := hadm
  rw [if_neg (by simp), Prog.ret_bind]
  refine hf _ _ _ ?_ hk
  exact ⟨rfl, rfl, rfl⟩

/-- The port is read. -/
lemma sat_getProtectionInfo {f : Option (ℕ × ℕ) → PortProg β} (hd : d ∈ m.drmObjects)
    (hk : Knows d c g v tr s)
    (hf : ∀ properties tr' s', Tells d v.kernel properties →
      Knows d c g (v.saw ⟨.drmModeObjectGetProperties d.drmId, some properties⟩) tr' s' →
        (protectionProtocol m d).Sat (portSystem m) .message c Q
          (f (some (d.protectionInfo properties))) tr' s') :
    (protectionProtocol m d).Sat (portSystem m) .message c Q
      (getProtectionInfo d >>= f) tr s := by
  rw [getProtectionInfo, Prog.bind_assoc]
  refine sat_apart trivial hk fun r _ _ _ hk₁ _ hadm tr s hk => ?_
  obtain ⟨properties, rfl, htells⟩ := hadm d hd rfl
  exact hf properties tr s (hk₁.kernel ▸ htells) hk

/-- What the message thread knows is the state of a resource. -/
structure Fits (d : DrmObject) (g : Share) (v : View) : Prop where
  reading : v.unread = false
  holding : v.holding = false
  holders : ∀ a, a ∈ v.holders ↔ a ∈ g.users
  cached : v.cached = cachedOf g.level
  protects : Protects d v.kernel g.level

lemma Fits.saw {e : Event portSig} (h : Fits d g v) : Fits d g (v.saw e) :=
  ⟨h.reading, h.holding, h.holders, h.cached, h.protects⟩

/-- The call has brought the port into the state of the resource `g'`, and has read this
connection. -/
def Rests (d : DrmObject) (c : PortCall) (g g' : Share) (connection : Option ℕ) (tr : PortTrace)
    (s : PortState) : Prop :=
  ∃ v, Knows d c g v tr s ∧ Fits d g' v ∧ connectionRead d.portId v.events = connection

lemma Rests.of_calm {connection : Option ℕ} (h : Rests d c g g' connection tr s)
    (hcalm : Calm d tr s tr' s') : Rests d c g g' connection tr' s' := by
  obtain ⟨v, hk, hrest⟩ := h
  exact ⟨v, hk.of_calm hcalm, hrest⟩

/-- The end of a call. -/
lemma sat_ret {e : Errno} {Q : Errno → PortTrace → PortState → Prop} (hk : Knows d c g v tr s)
    (hQ : ∀ tr' s', Knows d c g v tr' s' → Q e tr' s') :
    (protectionProtocol m d).Sat (portSystem m) .message c Q (.ret e) tr s :=
  fun tr' s' hrely _ => hQ tr' s' (hk.of_calm hrely)

lemma mem_added {holders : List ℕ} {a b : ℕ} : b ∈ added holders a ↔ b = a ∨ b ∈ holders := by
  rw [added]
  split
  · rename_i ha
    refine ⟨.inr, fun h => h.elim ?_ id⟩
    rintro rfl
    exact ha
  · rw [List.mem_append, List.mem_singleton, or_comm]

/-- The cached type of a level is the level. -/
lemma cachedOf_coe (t : ℕ) : cachedOf (WithBot.some t) = t := rfl

lemma cachedOf_bot : cachedOf ⊥ = cpTypeInvalid := rfl

/-- `EnablePort` takes the cached type as sufficient when the level of the resource is. -/
lemma cachedOf_sufficient {level : UInt8} (hl : level = hdcpLevel1 ∨ level = hdcpLevel2)
    (hvalid : ∀ t, g.level = WithBot.some t → t ≤ cpType1) :
    (cachedOf g.level ≠ cpTypeInvalid ∧ levelPred level ≤ cachedOf g.level) ↔
      WithBot.some (levelCpType level) ≤ g.level := by
  have hpred : levelPred level = levelCpType level := by
    rcases hl with rfl | rfl <;> rfl
  cases hg : g.level with
  | bot => simp [cachedOf_bot]
  | coe t =>
      have hne : t ≠ cpTypeInvalid := by
        have hle := hvalid t hg
        rintro rfl
        exact absurd hle (by decide)
      rw [cachedOf_coe, hpred, WithBot.coe_le_coe]
      exact and_iff_right hne

/-- The read-back of `EnablePort` finds the port as it has been told to be. -/
lemma sat_checkEnabled {a t : ℕ} (hd : d ∈ m.drmObjects) (hk : Knows d c g v tr s)
    (hprotects : Protects d v.kernel (WithBot.some t)) (hlevel : g'.level = WithBot.some t)
    (hholders : ∀ b, b ∈ added v.holders a ↔ b ∈ g'.users) :
    (protectionProtocol m d).Sat (portSystem m) .message c
      (fun e tr s => e = .success ∧ Rests d c g g' (connectionRead d.portId v.events) tr s)
      (checkEnabled d a) tr s := by
  obtain ⟨hle, hvalue, hsettled, htype⟩ := hprotects.on t rfl
  have ht : u8 t = t := Nat.mod_eq_of_lt (lt_of_le_of_lt hle (by decide))
  rw [checkEnabled]
  refine sat_begin hk fun t₁ tr s hk => ?_
  refine sat_getProtectionInfo hd hk fun properties tr s htells hk => ?_
  have hread : d.protectionInfo properties = (cpEnabled, t) :=
    htells.on hvalue hsettled hle htype
  rw [hread]
  dsimp only
  rw [if_neg (not_not.2 rfl)]
  refine sat_setCpType hk rfl fun tr s hk => ?_
  refine sat_addRefAppId hk fun tr s hk => ?_
  refine sat_end hk rfl (fun _ => ⟨t, hprotects⟩) fun tr s hk => ?_
  refine sat_ret hk fun tr s hk => ⟨rfl, _, hk, ⟨rfl, rfl, hholders, ?_, ?_⟩, rfl⟩
  · rw [hlevel, cachedOf_coe]
    exact ht
  · rw [hlevel]
    exact hprotects

/-- The read-back of `DisablePort` finds the port off. -/
lemma sat_checkDisabled (hd : d ∈ m.drmObjects) (hk : Knows d c g v tr s)
    (hoff : v.kernel.value = cpOff) (hlevel : g'.level = ⊥)
    (hholders : ∀ b, b ∈ v.holders ↔ b ∈ g'.users) :
    (protectionProtocol m d).Sat (portSystem m) .message c
      (fun e tr s => e = .success ∧ Rests d c g g' (connectionRead d.portId v.events) tr s)
      (checkDisabled d) tr s := by
  rw [checkDisabled]
  refine sat_begin hk fun t₁ tr s hk => ?_
  refine sat_getProtectionInfo hd hk fun properties tr s htells hk => ?_
  dsimp only
  rw [if_neg (not_not.2 (htells.off hoff))]
  refine sat_setCpType hk rfl fun tr s hk => ?_
  refine sat_end hk rfl (fun h => absurd rfl h) fun tr s hk => ?_
  refine sat_ret hk fun tr s hk => ⟨rfl, _, hk, ⟨rfl, rfl, hholders, ?_, fun _ => hoff, ?_⟩, rfl⟩
  · rw [hlevel, cachedOf_bot]
    rfl
  · intro t ht
    exact absurd (hlevel.symm.trans ht).symm WithBot.coe_ne_bot

/-- What `EnablePort` has to bring about. -/
lemma protects_write {k : Kernel} (htype : d.type1Capable = true → k.cpType = t)
    (hnot : d.type1Capable ≠ true → t = cpType0) (hle : t ≤ cpType1) :
    Protects d { k.write d (d.getPropertyId .contentProtection) cpDesired with settled := true }
      (WithBot.some t) := by
  have hwrite : k.write d (d.getPropertyId .contentProtection) cpDesired =
      { k with value := cpDesired, settled := false } := if_pos rfl
  rw [hwrite]
  refine ⟨fun h => absurd h WithBot.coe_ne_bot, fun t' ht' => ?_⟩
  obtain rfl := WithBot.coe_injective ht'
  refine ⟨hle, rfl, rfl, ?_⟩
  split
  · rename_i h
    exact (htype h).symm
  · rename_i h
    exact hnot h

lemma sat_setContentType {f : Errno → PortProg β} {level : UInt8} (hias : m.ias = false)
    (hd : d ∈ m.drmObjects) (hk : Knows d c g v tr s)
    (hf : ∀ v' tr' s', Knows d c g v' tr' s' →
      connectionRead d.portId v'.events = connectionRead d.portId v.events →
      v'.holders = v.holders → (d.type1Capable = true → v'.kernel.cpType = levelCpType level) →
      (protectionProtocol m d).Sat (portSystem m) .message c Q (f .success) tr' s') :
    (protectionProtocol m d).Sat (portSystem m) .message c Q
      (m.setContentType d level >>= f) tr s := by
  rw [PortManager.setContentType]
  by_cases htype : d.type1Capable = true
  · rw [if_pos htype]
    refine sat_setPortProperty hias hd hk fun v' tr s hwrote hk => ?_
    refine hf v' tr s hk hwrote.connection hwrote.holders fun _ => ?_
    rw [hwrote.kernel, Kernel.write, if_neg (d.contentType_ne_contentProtection htype),
      if_pos rfl]
  · rw [if_neg htype, Prog.pure_eq, Prog.ret_bind]
    exact hf v tr s hk rfl rfl fun h => absurd h htype

/-- The part of `EnablePort` that raises the level of the port. -/
lemma sat_raise {a : ℕ} {level : UInt8} (hias : m.ias = false) (hd : d ∈ m.drmObjects)
    (hl : level = hdcpLevel1 ∨ level = hdcpLevel2) (hsupports : Supports d level)
    (hk : Knows d c g v tr s) (hlevel : g'.level = WithBot.some (levelCpType level))
    (husers : ∀ b, b ∈ added v.holders a ↔ b ∈ g'.users) :
    (protectionProtocol m d).Sat (portSystem m) .message c
      (fun e tr s => e = .success ∧ Rests d c g g' (connectionRead d.portId v.events) tr s)
      (do
        let ret ← m.setContentType d level
        if ret ≠ .success then
          return .ebusy
        let ret ← m.setPortProperty d.drmId (d.getPropertyId .contentProtection) 1 cpDesired
          authNumRetry
        if ret ≠ .success then
          return .ebusy
        sleep
        checkEnabled d a) tr s := by
  have hle : levelCpType level ≤ cpType1 := by
    rcases hl with rfl | rfl <;> decide
  have hnot : d.type1Capable ≠ true → levelCpType level = cpType0 := fun h => by
    rcases hl with rfl | rfl
    · rfl
    · exact absurd rfl (hsupports.resolve_left h)
  refine sat_setContentType hias hd hk fun v₁ tr s hk hconnection hholders htype => ?_
  rw [if_neg (by simp)]
  refine sat_setPortProperty hias hd hk fun v₂ tr s hwrote hk => ?_
  rw [if_neg (by simp)]
  refine sat_sleep hk fun tr s hk => ?_
  have hprotects := protects_write htype hnot hle
  rw [← hwrote.kernel] at hprotects
  have hsame : connectionRead d.portId v₂.sleep.events = connectionRead d.portId v.events :=
    hwrote.connection.trans hconnection
  have hmem : ∀ b, b ∈ added v₂.holders a ↔ b ∈ g'.users := by
    rw [hwrote.holders, hholders]
    exact husers
  rw [← hsame]
  exact sat_checkEnabled hd hk hprotects hlevel hmem

/-- `EnablePort` for the port is a request. -/
lemma sat_enablePort {a : ℕ} {level : UInt8} (hias : m.ias = false) (hd : d ∈ m.drmObjects)
    (hl : level = hdcpLevel1 ∨ level = hdcpLevel2) (hk : Knows d c g v tr s) (hfits : Fits d g v) :
    (protectionProtocol m d).Sat (portSystem m) .message c
      (fun e tr s => ∃ connection, e = enableAnswer d connection level ∧
        Rests d c g (serve d connection g (.enablePort d.portId a level)) connection tr s)
      (m.enablePort d.portId a level) tr s := by
  rw [PortManager.enablePort, m.getDrmObjectByPortId_of_mem hd]
  dsimp only
  refine sat_apart trivial hk fun (connection : ℕ) _ _ _ _ _ _ tr s hk => ?_
  have hread : connectionRead d.portId
      (v.saw ⟨.getConnection d.portId, connection⟩).events = some connection :=
    connectionRead_self
  refine Protocol.Sat.ite (fun hdisconnected => ?_) fun hconnected => ?_
  · subst hdisconnected
    refine sat_ret hk fun tr s hk => ⟨_, (if_pos rfl).symm, _, hk, ?_, hread⟩
    rw [serve, if_neg (by simp)]
    exact hfits.saw
  have hne : some connection ≠ some drmModeDisconnected :=
    fun h => hconnected (Option.some.inj h)
  refine Protocol.Sat.ite (fun hnot => ?_) fun hsupports => ?_
  · have hnot : ¬Supports d level := by
      simpa [Supports] using hnot
    refine sat_ret hk fun tr s hk => ⟨_, ?_, _, hk, ?_, hread⟩
    · rw [enableAnswer, if_neg hne, if_neg hnot]
    · rw [serve, if_neg fun h => hnot h.2.2]
      exact hfits.saw
  have hsupports : Supports d level := by
    by_contra h
    exact hsupports (by simpa [Supports] using h)
  have hanswer : enableAnswer d (some connection) level = .success := by
    rw [enableAnswer, if_neg hne, if_pos hsupports]
  have hserve : serve d (some connection) g (.enablePort d.portId a level) =
      g.request a (WithBot.some (levelCpType level)) := if_pos ⟨rfl, hne, hsupports⟩
  have husers : ∀ b, b ∈ added v.holders a ↔
      b ∈ (g.request a (WithBot.some (levelCpType level))).users := fun b => by
    rw [Resource.users_request WithBot.coe_ne_bot, Set.mem_insert_iff, mem_added, hfits.holders]
  refine sat_apart trivial hk fun (currCpType : ℕ) _ s₁ _ hk₁ hstep _ tr s hk => ?_
  obtain rfl : currCpType = cachedOf g.level :=
    ((PortState.answer_eq_some.1 hstep).1.trans (hk₁.cached (.inl hfits.reading))).trans
      hfits.cached
  have hvalid : ∀ t, g.level = WithBot.some t → t ≤ cpType1 := fun t ht =>
    (hfits.protects.on t ht).1
  refine Protocol.Sat.ite (fun hsufficient => ?_) fun hinsufficient => ?_
  · have hle := (cachedOf_sufficient hl hvalid).1 hsufficient
    refine sat_addRefAppId hk fun tr s hk => ?_
    refine sat_ret hk fun tr s hk => ⟨_, hanswer.symm, _, hk, ?_, hread⟩
    rw [hserve]
    have hlevel := Resource.level_request_of_le (i := a) hle
    refine ⟨hfits.reading, hfits.holding, husers, ?_, ?_⟩
    · rw [hlevel]
      exact hfits.cached
    · rw [hlevel]
      exact hfits.protects
  · have hlt : g.level < WithBot.some (levelCpType level) :=
      not_le.1 fun h => hinsufficient ((cachedOf_sufficient hl hvalid).2 h)
    have hlevel := Resource.level_request_of_lt (i := a) hlt
    refine (sat_raise hias hd hl hsupports hk hlevel husers).mono ?_
    rintro e tr s - ⟨rfl, hrests⟩
    have hread' : connectionRead d.portId ((v.saw ⟨.getConnection d.portId, connection⟩).saw
        ⟨.getCpType d.portId, cachedOf g.level⟩).events = some connection := hread
    rw [hread'] at hrests
    refine ⟨some connection, hanswer.symm, ?_⟩
    rw [hserve]
    exact hrests

/-- `DisablePort` for the port is a release. -/
lemma sat_disablePort {a : ℕ} (hias : m.ias = false) (hd : d ∈ m.drmObjects)
    (hk : Knows d c g v tr s) (hfits : Fits d g v) :
    (protectionProtocol m d).Sat (portSystem m) .message c
      (fun e tr s => e = .success ∧ ∃ connection,
        Rests d c g (serve d connection g (.removeAppFromPorts a)) connection tr s)
      (m.disablePort d.portId a) tr s := by
  rw [PortManager.disablePort, m.getDrmObjectByPortId_of_mem hd]
  dsimp only
  refine sat_apart trivial hk fun (connection : ℕ) _ _ _ _ _ _ tr s hk => ?_
  have hread : connectionRead d.portId
      (v.saw ⟨.getConnection d.portId, connection⟩).events = some connection :=
    connectionRead_self
  refine Protocol.Sat.ite (fun hdisconnected => ?_) fun hconnected => ?_
  · subst hdisconnected
    refine sat_ret hk fun tr s hk => ⟨rfl, _, _, hk, ?_, hread⟩
    rw [serve, if_neg (by simp)]
    exact hfits.saw
  have hserve : serve d (some connection) g (.removeAppFromPorts a) = g.release a :=
    if_pos fun h => hconnected (Option.some.inj h)
  have husers : ∀ b, b ∈ v.holders.filter (· ≠ a) ↔ b ∈ (g.release a).users := fun b => by
    rw [Resource.users_release, Set.mem_sdiff, Set.mem_singleton_iff, ← hfits.holders,
      List.mem_filter, decide_eq_true_iff]
  refine sat_removeRefAppId (a := a) hk fun tr s hk => ?_
  refine sat_apart trivial hk fun (count : ℕ) _ s₁ _ hk₁ hstep _ tr s hk => ?_
  have hcount : count = (v.holders.filter (· ≠ a)).length :=
    (PortState.answer_eq_some.1 hstep).1.trans (congrArg List.length hk₁.holders)
  refine Protocol.Sat.ite (fun hused => ?_) fun hunused => ?_
  · obtain ⟨b, hb⟩ := List.exists_mem_of_length_pos (hcount ▸ hused)
    have hlevel : (g.release a).level = g.level := by
      have hmem := (husers b).1 hb
      rw [Resource.users_release] at hmem
      exact Resource.level_release_of_mem hmem.1 hmem.2
    refine sat_ret hk fun tr s hk => ⟨rfl, some connection, _, hk, ?_, hread⟩
    rw [hserve]
    refine ⟨hfits.reading, hfits.holding, husers, ?_, ?_⟩
    · rw [hlevel]
      exact hfits.cached
    · rw [hlevel]
      exact hfits.protects
  · have hempty : v.holders.filter (· ≠ a) = [] :=
      List.eq_nil_of_length_eq_zero (by omega)
    have hlevel : (g.release a).level = ⊥ := by
      refine Resource.level_eq_bot_iff.2 (Set.eq_empty_of_forall_notMem fun b hb => ?_)
      have hmem := (husers b).2 hb
      rw [hempty] at hmem
      exact List.not_mem_nil hmem
    refine sat_setPortProperty hias hd hk fun v₁ tr s hwrote hk => ?_
    rw [if_neg (by simp)]
    have hoff : v₁.kernel.value = cpOff := by
      rw [hwrote.kernel, Kernel.write, if_pos rfl]
    have hmem : ∀ b, b ∈ v₁.holders ↔ b ∈ (g.release a).users := by
      rw [hwrote.holders]
      exact husers
    refine (sat_checkDisabled hd hk hoff hlevel hmem).mono ?_
    rintro e tr s - ⟨rfl, hrests⟩
    have hread' : connectionRead d.portId v₁.events = some connection :=
      hwrote.connection.trans hread
    rw [hread'] at hrests
    refine ⟨rfl, some connection, ?_⟩
    rw [hserve]
    exact hrests

lemma storeHdcpStatus_enabled (hle : t ≤ cpType1) :
    storeHdcpStatus cpEnabled t = storePortStatus (levelStatus (WithBot.some t)) := by
  rcases Nat.le_one_iff_eq_zero_or_eq_one.1 hle with rfl | rfl <;> rfl

/-- `GetStatus` for the port tells the level of the resource. -/
lemma sat_getStatus (hd : d ∈ m.drmObjects) (hk : Knows d c g v tr s) (hfits : Fits d g v)
    (hevents : v.events = []) :
    (protectionProtocol m d).Sat (portSystem m) .message c
      (fun e tr s => ∃ v, Knows d c g v tr s ∧ Fits d g v ∧ ∃ connection,
        connectorRead d.drmId v.events = some connection ∧
          (e, statusStored v.events) = statusAnswer connection g.level)
      (m.getStatus d.portId) tr s := by
  rw [PortManager.getStatus, m.getDrmObjectByPortId_of_mem hd]
  dsimp only
  refine sat_apart trivial hk fun (connector : Option ℕ) _ _ _ _ _ _ tr s hk => ?_
  have hself : connectorRead d.drmId [⟨.drmModeGetConnector d.drmId, connector⟩] =
      some connector := by
    have hin : connectorIn d.drmId ⟨.drmModeGetConnector d.drmId, connector⟩ = some connector :=
      if_pos rfl
    rw [connectorRead, List.findSome?_cons, hin]
  rw [← hevents] at hself
  have hnone : statusStored (⟨.drmModeGetConnector d.drmId, connector⟩ :: v.events) = none := by
    rw [hevents]
    rfl
  cases connector with
  | none =>
      exact sat_ret hk fun tr s hk => ⟨_, hk, hfits.saw, none, hself, congrArg _ hnone⟩
  | some connection =>
      dsimp only
      refine Protocol.Sat.ite (fun hdisconnected => ?_) fun hconnected => ?_
      · refine sat_apart trivial hk fun _ _ _ _ _ _ _ tr s hk => ?_
        refine sat_ret hk fun tr s hk => ⟨_, hk, hfits.saw.saw, some connection, hself, ?_⟩
        rw [statusAnswer, if_pos hdisconnected]
        rfl
      · refine sat_apart trivial hk fun _ _ _ _ _ _ _ tr s hk => ?_
        refine sat_getProtectionInfo hd hk fun properties tr s htells hk => ?_
        dsimp only
        have hanswer : statusAnswer (some connection) g.level =
            (.success, some (levelStatus g.level)) := if_neg hconnected
        have hprotects := hfits.protects
        cases hlevel : g.level with
        | bot =>
            have hoff : (d.protectionInfo properties).1 = cpOff :=
              htells.off (hprotects.off hlevel)
            rw [storeHdcpStatus, hoff, if_neg (by simp), if_neg (by simp), Prog.pure_eq,
              Prog.ret_bind]
            rw [hlevel] at hanswer
            exact sat_ret hk fun tr s hk =>
              ⟨_, hk, hfits.saw.saw.saw, some connection, hself, hanswer.symm⟩
        | coe t =>
            obtain ⟨hle, hvalue, hsettled, htype⟩ := hprotects.on t hlevel
            have hon : d.protectionInfo properties = (cpEnabled, t) :=
              htells.on hvalue hsettled hle htype
            rw [hon, storeHdcpStatus_enabled hle]
            rw [hlevel] at hanswer
            refine sat_apart trivial hk fun _ _ _ _ _ _ _ tr s hk => ?_
            exact sat_ret hk fun tr s hk =>
              ⟨_, hk, hfits.saw.saw.saw.saw, some connection, hself, hanswer.symm⟩

/-! ### The operations on other ports -/

/-- An interaction that has nothing to do with the port, or the sleep of `EnablePort`. -/
def Beside (d : DrmObject) (o : PortOp) : Prop := Apart d o ∨ o = .sleep

lemma Fits.sleep (h : Fits d g v) : Fits d g v.sleep :=
  ⟨h.reading, h.holding, h.holders, h.cached, h.protects.settle⟩

lemma connectionRead_of_ne {p : ℕ} {events : List (Event portSig)} (ho : o ≠ .getConnection p) :
    connectionRead p (⟨o, r⟩ :: events) = connectionRead p events := by
  have hnone : connectionIn p ⟨o, r⟩ = none := by
    cases o
    case getConnection q => exact if_neg fun hq => ho (congrArg PortOp.getConnection hq)
    all_goals rfl
  rw [connectionRead, List.findSome?_cons, hnone]
  rfl

lemma beside_step {connection : Option ℕ} (ho : Beside d o)
    (hr : Rests d c g g' connection tr s) (hinv : ProtectionInv d tr s)
    (hstep : portStep .message o r s = some s') :
    (protectionProtocol m d).Keeps .message tr s (.op .message c ⟨o, r⟩) s' ∧
      ∃ connection', Rests d c g g' connection' (.op .message c ⟨o, r⟩ :: tr) s' ∧
        (o ≠ .getConnection d.portId → connection' = connection) := by
  obtain ⟨v, hk, hfits, rfl⟩ := hr
  rcases ho with ho | rfl
  · obtain ⟨hkeeps, hk⟩ := apart_step ho hk hinv hstep
    exact ⟨hkeeps, _, ⟨_, hk, hfits.saw, rfl⟩, fun hne => connectionRead_of_ne hne⟩
  · obtain rfl : s = s' := Option.some.inj hstep
    obtain ⟨hkeeps, hk⟩ := sleep_step hk hinv
    exact ⟨hkeeps, _, ⟨_, hk, hfits.sleep, rfl⟩, fun _ => rfl⟩

/-- A program that works on other ports. -/
lemma sat_beside {q : PortProg α} {connection : Option ℕ} (hq : q.Uses (Beside d))
    (hr : Rests d c g g' connection tr s) :
    (protectionProtocol m d).Sat (portSystem m) .message c
      (fun _ tr s => ∃ connection, Rests d c g g' connection tr s) q tr s := by
  refine Protocol.sat_of_keeps (F := fun tr s => ∃ connection, Rests d c g g' connection tr s) hq
    ⟨connection, hr⟩ (fun hrely ⟨connection, h⟩ => ⟨connection, h.of_calm hrely⟩) ?_
  rintro o r tr s s' ho hinv ⟨connection, hr⟩ hstep -
  obtain ⟨hkeeps, connection', hr', -⟩ := beside_step ho hr hinv hstep
  exact ⟨hkeeps, connection', hr'⟩

/-- A program that works on other ports and does not read the connection of the port. -/
lemma sat_elsewhere {q : PortProg α} {connection : Option ℕ}
    (hq : q.Uses fun o : PortOp => Apart d o ∧ o ≠ .getConnection d.portId)
    (hr : Rests d c g g' connection tr s) :
    (protectionProtocol m d).Sat (portSystem m) .message c
      (fun _ => Rests d c g g' connection) q tr s := by
  refine Protocol.sat_of_keeps (F := Rests d c g g' connection) hq hr
    (fun hrely h => h.of_calm hrely) ?_
  rintro o r tr s s' ⟨ho, hne⟩ hinv hr hstep -
  obtain ⟨hkeeps, connection', hr', heq⟩ := beside_step (.inl ho) hr hinv hstep
  obtain rfl := heq hne
  exact ⟨hkeeps, hr'⟩

lemma beside_of_aside (ho : o.aside = true) : Beside d o := by
  cases o
  case sleep => exact .inr rfl
  all_goals first | exact .inl trivial | exact absurd ho (by simp [PortOp.aside])

lemma apart_disablePort {a : ℕ} (hd : d ∈ m.drmObjects) (hd' : d' ∈ m.drmObjects)
    (hne : d' ≠ d) :
    (m.disablePort d'.portId a).Uses fun o : PortOp =>
      Apart d o ∧ o ≠ .getConnection d.portId := by
  have hport := m.portId_ne hd' hd hne
  have hdrm := m.drmId_ne hd' hd hne
  rw [PortManager.disablePort, m.getDrmObjectByPortId_of_mem hd']
  dsimp only
  refine Prog.Uses.op_bind ⟨trivial, fun h => hport (PortOp.getConnection.inj h)⟩
    fun (_ : ℕ) => ?_
  refine Prog.Uses.ite (fun _ => trivial) fun _ => ?_
  refine Prog.Uses.op_bind ⟨hport, by simp⟩ fun _ => ?_
  refine Prog.Uses.op_bind ⟨trivial, by simp⟩ fun (_ : ℕ) => ?_
  refine Prog.Uses.ite (fun _ => trivial) fun _ => ?_
  refine Prog.Uses.bind (uses_setPortProperty (fun _ => ⟨trivial, by simp⟩) ⟨trivial, by simp⟩
    (fun _ => ⟨hdrm, by simp⟩) ⟨trivial, by simp⟩) fun _ => ?_
  refine Prog.Uses.ite (fun _ => trivial) fun _ => ?_
  exact uses_checkDisabled ⟨hport, by simp⟩ ⟨trivial, by simp⟩ ⟨hport, by simp⟩ ⟨hport, by simp⟩

lemma beside_enablePort {p a : ℕ} {level : UInt8} (hd : d ∈ m.drmObjects) (hp : p ≠ d.portId) :
    (m.enablePort p a level).Uses (Beside d) := by
  rw [PortManager.enablePort]
  split
  · trivial
  · rename_i d' hd'
    have hmem := m.mem_of_getDrmObjectByPortId hd'
    have hne : d' ≠ d := by
      rintro rfl
      exact hp (m.portId_of_getDrmObjectByPortId hd').symm
    have hport := m.portId_ne hmem hd hne
    have hdrm := m.drmId_ne hmem hd hne
    have hset {propId value : ℕ} :
        (m.setPortProperty d'.drmId propId 1 value authNumRetry).Uses (Beside d) :=
      uses_setPortProperty (fun _ => .inl trivial) (.inl trivial) (fun _ => .inl hdrm)
        (.inl trivial)
    have htype : (m.setContentType d' level).Uses (Beside d) :=
      Prog.Uses.ite (fun _ => hset) fun _ => trivial
    refine Prog.Uses.op_bind (.inl trivial) fun (_ : ℕ) => ?_
    refine Prog.Uses.ite (fun _ => trivial) fun _ => ?_
    refine Prog.Uses.ite (fun _ => trivial) fun _ => ?_
    refine Prog.Uses.op_bind (.inl trivial) fun (_ : ℕ) => ?_
    refine Prog.Uses.ite (fun _ => ?_) fun _ => ?_
    · exact Prog.Uses.op_bind (.inl hport) fun _ => trivial
    · refine htype.bind fun _ => Prog.Uses.ite (fun _ => trivial) fun _ => ?_
      refine hset.bind fun _ => Prog.Uses.ite (fun _ => trivial) fun _ => ?_
      refine Prog.Uses.op_bind (.inr rfl) fun _ => ?_
      exact uses_checkEnabled (.inl hport) (.inl trivial) (fun _ => .inl hport) (.inl hport)
        (.inl hport)

/-- The loop of `RemoveAppFromPorts` over other ports. -/
lemma sat_removeLoop_other {a : ℕ} {connection : Option ℕ} (hd : d ∈ m.drmObjects)
    (drmObjects : List DrmObject) (hall : ∀ d' ∈ drmObjects, d' ∈ m.drmObjects ∧ d' ≠ d)
    (hr : Rests d c g g' connection tr s) :
    (protectionProtocol m d).Sat (portSystem m) .message c
      (fun _ => Rests d c g g' connection) (m.removeLoop a drmObjects) tr s := by
  induction drmObjects generalizing tr s with
  | nil => exact fun tr' s' hrely _ => hr.of_calm hrely
  | cons d' drmObjects ih =>
      obtain ⟨hd', hne⟩ := hall d' List.mem_cons_self
      refine (sat_elsewhere (apart_disablePort hd hd' hne) hr).bind fun _ tr s _ hr => ?_
      exact ih (fun x hx => hall x (List.mem_cons_of_mem d' hx)) hr

/-- `RemoveAppFromPorts` is a release. -/
lemma sat_removeLoop {a : ℕ} (hias : m.ias = false) (hd : d ∈ m.drmObjects)
    (drmObjects : List DrmObject) (hsub : ∀ d' ∈ drmObjects, d' ∈ m.drmObjects)
    (hnodup : drmObjects.Nodup) (hmem : d ∈ drmObjects) (hr : Rests d c g g none tr s) :
    (protectionProtocol m d).Sat (portSystem m) .message c
      (fun _ tr s => ∃ connection,
        Rests d c g (serve d connection g (.removeAppFromPorts a)) connection tr s)
      (m.removeLoop a drmObjects) tr s := by
  induction drmObjects generalizing tr s with
  | nil => exact absurd hmem List.not_mem_nil
  | cons d' drmObjects ih =>
      have hrest : ∀ x ∈ drmObjects, x ∈ m.drmObjects := fun x hx =>
        hsub x (List.mem_cons_of_mem d' hx)
      rw [List.nodup_cons] at hnodup
      by_cases heq : d' = d
      · subst heq
        obtain ⟨v, hk, hfits, -⟩ := hr
        refine (sat_disablePort hias hd hk hfits).bind ?_
        rintro e tr s - ⟨-, connection, hr⟩
        have hall : ∀ x ∈ drmObjects, x ∈ m.drmObjects ∧ x ≠ d' := fun x hx =>
          ⟨hrest x hx, fun hxd => hnodup.1 (hxd ▸ hx)⟩
        exact (sat_removeLoop_other hd drmObjects hall hr).mono fun _ _ _ _ hr => ⟨connection, hr⟩
      · refine (sat_elsewhere (apart_disablePort hd (hsub d' List.mem_cons_self) heq) hr).bind
          fun _ tr s _ hr => ?_
        exact ih hrest hnodup.2 ((List.mem_cons.1 hmem).resolve_left (Ne.symm heq)) hr

/-! ### The other threads -/

/-- The thread that makes a step. -/
def threadOf : PortLabel → Thread
  | .call i _ | .op i _ _ | .ret i _ _ => i

/-- What the message thread has done is not changed by steps of the others. -/
lemma history_of_foreign (d : DrmObject) (tr : PortTrace) {l : PortLabel}
    (hl : threadOf l ≠ .message) :
    (calling .message (l :: tr) = calling .message tr ∧
      callEvents .message (l :: tr) = callEvents .message tr) ∧
    share d (l :: tr) = share d tr ∧ kernel d (l :: tr) = kernel d tr ∧
      unread d (l :: tr) = unread d tr := by
  cases l with
  | call i c =>
      cases i
      case message => exact absurd rfl hl
      all_goals exact ⟨⟨rfl, rfl⟩, rfl, rfl, rfl⟩
  | op i c e =>
      cases i
      case message => exact absurd rfl hl
      all_goals exact ⟨⟨rfl, rfl⟩, rfl, rfl, rfl⟩
  | ret i c e =>
      cases i
      case message => exact absurd rfl hl
      all_goals exact ⟨⟨rfl, rfl⟩, rfl, rfl, rfl⟩

/-- A step of another thread: it gives up the cached type at most, and only while the message
thread has a write to read back. -/
lemma keeps_foreign {l : PortLabel} (hl : threadOf l ≠ .message) (hinv : ProtectionInv d tr s)
    (hholders : (s'.objects d.portId).appIds = (s.objects d.portId).appIds)
    (hmutex : s'.cpTypeMutex d.portId = some .message ↔ s.cpTypeMutex d.portId = some .message)
    (hcached : unread d tr = false ∨ s.cpTypeMutex d.portId = some .message →
      s'.cachedType d.portId = s.cachedType d.portId)
    (hlost : lost d (l :: tr) = true →
      unread d tr = true ∧ s'.cpTypeMutex d.portId = some .integrity)
    (hspared : threadOf l = .uevent → s.cpTypeMutex d.portId = some .integrity →
      Spared d tr s (l :: tr) s') :
    (protectionProtocol m d).Keeps (threadOf l) tr s l s' := by
  obtain ⟨⟨hcalling, hevents⟩, hshare, hkernel, hunread⟩ := history_of_foreign d tr hl
  refine ⟨⟨fun hfree hu hvalid => ?_, fun h => ?_, fun hidle => ?_, ?_, hinv.answers⟩,
    fun j hj => ?_⟩
  · rw [hunread] at hu
    rw [hcached (.inl hu)] at hvalid
    rw [hkernel]
    exact hinv.shielded (fun h => hfree (hmutex.2 h)) hu hvalid
  · rw [hunread]
    exact hlost h
  · obtain ⟨hagrees, hu⟩ := hinv.idle (hcalling.symm.trans hidle)
    rw [hshare, hunread]
    refine ⟨⟨?_, (hcached (.inl hu)).trans hagrees.cached, ?_⟩, hu⟩
    · rw [hholders]
      exact hagrees.holders
    · rw [hkernel]
      exact hagrees.protects
  · cases l with
    | call i c => trivial
    | op i c e => trivial
    | ret i c e =>
        cases i
        case message => exact absurd rfl hl
        all_goals trivial
  · cases j with
    | message =>
        exact ⟨hcalling, hevents, hshare, hkernel, hunread, hholders, hcached, hmutex.2⟩
    | integrity =>
        intro hheld
        refine hspared ?_ hheld
        cases hi : threadOf l with
        | message => exact absurd hi hl
        | integrity => exact absurd hi.symm hj
        | uevent => rfl
    | uevent => trivial

lemma keeps_integrity {e : Event portSig} (hinv : ProtectionInv d tr s)
    (hholders : (s'.objects d.portId).appIds = (s.objects d.portId).appIds)
    (hmutex : s'.cpTypeMutex d.portId = some .message ↔ s.cpTypeMutex d.portId = some .message)
    (hcached : unread d tr = false ∨ s.cpTypeMutex d.portId = some .message →
      s'.cachedType d.portId = s.cachedType d.portId)
    (hlost : lost d (.op .integrity c e :: tr) = true →
      unread d tr = true ∧ s'.cpTypeMutex d.portId = some .integrity) :
    (protectionProtocol m d).Keeps .integrity tr s (.op .integrity c e) s' :=
  keeps_foreign (l := .op .integrity c e) (by simp [threadOf]) hinv hholders hmutex hcached hlost
    fun h => absurd h (by simp [threadOf])

lemma Beside.frame (ho : Beside d o) (hstep : portStep i o r s = some s') :
    (s'.objects d.portId).appIds = (s.objects d.portId).appIds ∧
      s'.cpTypeMutex d.portId = s.cpTypeMutex d.portId ∧
        s'.cachedType d.portId = s.cachedType d.portId := by
  rcases ho with ho | rfl
  · exact ⟨ho.appIds hstep, cachedType_of_frame ho.cpTypeOf hstep⟩
  · obtain rfl : s = s' := Option.some.inj hstep
    exact ⟨rfl, rfl, rfl⟩

/-- What the other threads do beside the port. -/
structure Distant (d : DrmObject) (o : PortOp) : Prop where
  beside : Beside d o
  unread : o ≠ .drmModeObjectGetProperties d.drmId

lemma lost_of_distant (ho : Distant d o) : lost d (.op i c ⟨o, r⟩ :: tr) = lost d tr := by
  cases i
  case integrity =>
    cases o
    case drmModeObjectGetProperties drmId =>
      have hne : drmId ≠ d.drmId :=
        fun h => ho.unread (congrArg PortOp.drmModeObjectGetProperties h)
      cases r with
      | none => rfl
      | some properties =>
          refine since_cons_of_eq ?_ rfl
          simp [readsLost, hne]
    case cpTypeAtomicEnd p =>
      have hp : p ≠ d.portId := ho.beside.resolve_right (by simp)
      exact since_cons_of_eq rfl (beq_false_of_ne hp)
    all_goals rfl
  all_goals rfl

lemma distant_step (hi : i ≠ .message) (ho : Distant d o) (hinv : ProtectionInv d tr s)
    (hstep : portStep i o r s = some s') :
    (protectionProtocol m d).Keeps i tr s (.op i c ⟨o, r⟩) s' ∧
      (protectionProtocol m d).rely i tr s (.op i c ⟨o, r⟩ :: tr) s' := by
  obtain ⟨hholders, hmutex, hcached⟩ := ho.beside.frame hstep
  have hlost : lost d (.op i c ⟨o, r⟩ :: tr) = lost d tr := lost_of_distant ho
  have hspared (h : s.cpTypeMutex d.portId = some .integrity) :
      Spared d tr s (.op i c ⟨o, r⟩ :: tr) s' := by
    refine ⟨hmutex.trans h, hcached, hlost, fun hu => ?_⟩
    rw [(history_of_foreign d tr (l := .op i c ⟨o, r⟩) hi).2.2.2]
    exact hu
  refine ⟨keeps_foreign (l := .op i c ⟨o, r⟩) hi hinv hholders (by rw [hmutex])
    (fun _ => hcached) (fun h => ?_) fun _ => hspared, ?_⟩
  · rw [hmutex]
    exact hinv.lost (hlost ▸ h)
  · cases i with
    | message => exact absurd rfl hi
    | integrity => exact hspared
    | uevent => trivial

lemma sat_distant {q : PortProg α} (hi : i ≠ .message) (hq : q.Uses (Distant d)) :
    (protectionProtocol m d).Sat (portSystem m) i c
      (fun _ tr' s' => (protectionProtocol m d).rely i tr s tr' s') q tr s :=
  Protocol.sat_of_uses (P := protectionProtocol m d)
    (fun _ _ _ _ _ ho _ hinv hstep _ => distant_step hi ho hinv hstep) hq

lemma distant_of_aside (ho : o.aside = true) : Distant d o := by
  refine ⟨beside_of_aside ho, ?_⟩
  rintro rfl
  exact absurd ho (by simp [PortOp.aside])

/-! ### The integrity thread -/

/-- The integrity thread holds the mutex of the port; if it has read it as lost, the message
thread has a write to read back. -/
structure Checking (d : DrmObject) (t : ℕ) (b : Bool) (tr : PortTrace) (s : PortState) : Prop where
  mutex : s.cpTypeMutex d.portId = some .integrity
  cached : s.cachedType d.portId = t
  lost : lost d tr = b

lemma Checking.of_rely {b : Bool} (h : Checking d t b tr s)
    (hrely : (protectionProtocol m d).rely .integrity tr s tr' s') : Checking d t b tr' s' := by
  have hspared : Spared d tr s tr' s' := hrely h.mutex
  exact ⟨hspared.mutex, hspared.cached.trans h.cached, hspared.lost.trans h.lost⟩

lemma sat_beginCheck {f : Unit → PortProg β}
    (hf : ∀ t tr' s', Checking d t false tr' s' →
      (protectionProtocol m d).Sat (portSystem m) .integrity c Q (f ()) tr' s') :
    (protectionProtocol m d).Sat (portSystem m) .integrity c Q
      (cpTypeAtomicBegin d.portId >>= f) tr s := by
  intro tr' s' _ hinv u s'' hstep _
  have hstep : (if s'.cpTypeMutex d.portId = none then
      some { s' with cpTypeMutex := Function.update s'.cpTypeMutex d.portId (some .integrity) }
      else none) = some s'' := hstep
  rw [Option.ite_none_right_eq_some] at hstep
  obtain ⟨hfree, hstep⟩ := hstep
  obtain rfl := Option.some.inj hstep
  have hmutex : Function.update s'.cpTypeMutex d.portId (some Thread.integrity) d.portId =
      some .integrity := Function.update_self _ _ _
  have hlost : lost d (.op .integrity c ⟨.cpTypeAtomicBegin d.portId, u⟩ :: tr') = false := by
    rw [Bool.eq_false_iff]
    intro h
    exact absurd (hfree.symm.trans (hinv.lost h).2) (by simp)
  refine ⟨keeps_integrity hinv rfl ?_ (fun _ => rfl) fun h => ?_,
    hf _ _ _ ⟨hmutex, rfl, hlost⟩⟩
  · refine ⟨fun h => absurd (hmutex.symm.trans h) (by simp), fun h => ?_⟩
    exact absurd (hfree.symm.trans h) (by simp)
  · exact absurd (hlost.symm.trans h) (by simp)

lemma sat_readCached {f : ℕ → PortProg β} {b : Bool} (hcheck : Checking d t b tr s)
    (hf : ∀ tr' s', Checking d t b tr' s' →
      (protectionProtocol m d).Sat (portSystem m) .integrity c Q (f t) tr' s') :
    (protectionProtocol m d).Sat (portSystem m) .integrity c Q
      (getCpType d.portId >>= f) tr s := by
  intro tr' s' hrely hinv current s'' hstep _
  have hcheck := hcheck.of_rely hrely
  obtain rfl : current = t := (PortState.answer_eq_some.1 hstep).1.trans hcheck.cached
  have hread : Distant d (.getCpType d.portId) := ⟨.inl trivial, by simp⟩
  obtain ⟨hkeeps, hown⟩ := distant_step (i := .integrity) (by simp) hread hinv hstep
  exact ⟨hkeeps, hf _ _ (hcheck.of_rely hown)⟩

/-- A port that `CheckIntegrity` reads as lost has a write of the message thread. -/
lemma sat_look {f : Option (ℕ × ℕ) → PortProg β} (hd : d ∈ m.drmObjects)
    (hcheck : Checking d t false tr s) (hvalid : t ≠ cpTypeInvalid)
    (hf : ∀ x tr' s', Checking d t (x.1 != cpEnabled) tr' s' →
      (protectionProtocol m d).Sat (portSystem m) .integrity c Q (f (some x)) tr' s') :
    (protectionProtocol m d).Sat (portSystem m) .integrity c Q
      (getProtectionInfo d >>= f) tr s := by
  intro tr' s' hrely hinv r s'' hstep hadm
  have hcheck := hcheck.of_rely hrely
  obtain rfl : s' = s'' := Option.some.inj hstep
  obtain ⟨properties, rfl, htells⟩ := hadm d hd rfl
  have hlost : lost d (.op .integrity c
      ⟨.drmModeObjectGetProperties d.drmId, some properties⟩ :: tr') =
        ((d.protectionInfo properties).1 != cpEnabled) := by
    rw [lost, since_cons, ← lost, hcheck.lost]
    simp [readsLost]
  refine ⟨keeps_integrity hinv rfl Iff.rfl (fun _ => rfl) fun h => ⟨?_, hcheck.mutex⟩,
    hf _ _ _ ⟨hcheck.mutex, hcheck.cached, hlost⟩⟩
  -- a port without such a write is protected, and is read as enabled
  by_contra hu
  obtain ⟨t', hprotects⟩ := hinv.shielded (by simp [hcheck.mutex])
    (Bool.eq_false_iff.2 hu) (hcheck.cached.symm ▸ hvalid)
  obtain ⟨hle, hvalue, hsettled, htype⟩ := hprotects.on t' rfl
  rw [hlost, htells.on hvalue hsettled hle htype] at h
  exact absurd h (by simp)

/-- The cached type is given up. -/
lemma sat_giveUp {f : Unit → PortProg β} (hcheck : Checking d t true tr s)
    (hf : ∀ tr' s', Checking d cpTypeInvalid true tr' s' →
      (protectionProtocol m d).Sat (portSystem m) .integrity c Q (f ()) tr' s') :
    (protectionProtocol m d).Sat (portSystem m) .integrity c Q
      (setCpType d.portId cpTypeInvalid >>= f) tr s := by
  intro tr' s' hrely hinv u s'' hstep _
  have hcheck := hcheck.of_rely hrely
  obtain ⟨hunread, hmutex⟩ := hinv.lost hcheck.lost
  obtain rfl := (Option.some.inj hstep).symm
  have hcached : (s'.modify d.portId fun y => { y with cpType := cpTypeInvalid }).cachedType
      d.portId = cpTypeInvalid := by
    rw [PortState.cachedType, PortState.modify_objects_self]
    rfl
  refine ⟨keeps_integrity hinv (PortState.modify_objects_field DrmState.appIds fun _ => rfl)
    Iff.rfl (fun h => ?_) fun _ => ⟨hunread, hmutex⟩, hf _ _ ⟨hmutex, hcached, hcheck.lost⟩⟩
  rcases h with h | h
  · exact absurd (hunread.symm.trans h) (by simp)
  · exact absurd (hmutex.symm.trans h) (by simp)

lemma sat_endCheck {b : Bool} (hcheck : Checking d t b tr s) :
    (protectionProtocol m d).Sat (portSystem m) .integrity c (fun _ _ _ => True)
      (cpTypeAtomicEnd d.portId) tr s := by
  intro tr' s' hrely hinv u s'' hstep _
  have hmutex := (hcheck.of_rely hrely).mutex
  obtain rfl := (Option.some.inj hstep).symm
  have hfree : Function.update s'.cpTypeMutex d.portId none d.portId = none :=
    Function.update_self _ _ _
  have hlost : lost d (.op .integrity c ⟨.cpTypeAtomicEnd d.portId, u⟩ :: tr') = false := by
    rw [lost, since_cons]
    simp [readsLost, endsRound]
  refine ⟨keeps_integrity hinv rfl ?_ (fun _ => rfl) fun h => ?_, fun _ _ _ _ => trivial⟩
  · refine ⟨fun h => absurd (hfree.symm.trans h) (by simp), fun h => ?_⟩
    exact absurd (hmutex.symm.trans h) (by simp)
  · exact absurd (hlost.symm.trans h) (by simp)

/-- The round of `CheckIntegrity` for the port. -/
lemma sat_integrityRound (hd : d ∈ m.drmObjects) :
    (protectionProtocol m d).Sat (portSystem m) .integrity c (fun _ _ _ => True)
      (integrityRound d) tr s := by
  have hreport : (reportStatus .linkLost d.portId).Uses (Distant d) :=
    uses_reportStatus (fun o ho _ => distant_of_aside ho) _ _
  rw [integrityRound]
  refine sat_beginCheck fun t tr s hcheck => ?_
  refine sat_readCached hcheck fun tr s hcheck => ?_
  refine Protocol.Sat.ite (fun _ => sat_endCheck hcheck) fun hvalid => ?_
  refine sat_look hd hcheck hvalid fun x tr s hcheck => ?_
  dsimp only
  refine Protocol.Sat.ite (fun hv => ?_) fun hv => sat_endCheck hcheck
  rw [bne_iff_ne.2 hv] at hcheck
  refine (sat_distant (by simp) hreport).bind fun _ tr s _ hrely => ?_
  refine sat_giveUp (hcheck.of_rely hrely) fun tr s hcheck => ?_
  exact sat_endCheck hcheck

/-! ### The calls -/

/-- The call is over: the port is in the state that it is to be in, and the answer is right. -/
def Finishes (d : DrmObject) (c : PortCall) (g : Share) (e : Errno) (tr : PortTrace)
    (s : PortState) : Prop :=
  ∃ v, Knows d c g v tr s ∧ Fits d (serve d (connectionRead d.portId v.events) g c) v ∧
    Answers d (.ret .message c e) tr

/-- A call that has nothing to do with the port. -/
lemma sat_otherCall {q : PortProg Errno} {connection : Option ℕ} (hq : q.Uses (Beside d))
    (hr : Rests d c g g connection tr s) (hserve : ∀ connection, serve d connection g c = g)
    (hanswers : ∀ e tr, Answers d (.ret .message c e) tr) :
    (protectionProtocol m d).Sat (portSystem m) .message c (Finishes d c g) q tr s := by
  refine (sat_beside hq hr).mono ?_
  rintro e tr s - ⟨_, v, hk, hfits, -⟩
  refine ⟨v, hk, ?_, hanswers e tr⟩
  rw [hserve]
  exact hfits

lemma beside_disablePort {p a : ℕ} (hd : d ∈ m.drmObjects) (hp : p ≠ d.portId) :
    (m.disablePort p a).Uses (Beside d) := by
  cases hfind : m.getDrmObjectByPortId p with
  | none =>
      rw [PortManager.disablePort, hfind]
      trivial
  | some d' =>
      have hid := m.portId_of_getDrmObjectByPortId hfind
      have hne : d' ≠ d := by
        rintro rfl
        exact hp hid.symm
      rw [← hid]
      have huses := apart_disablePort (a := a) hd (m.mem_of_getDrmObjectByPortId hfind) hne
      exact huses.mono fun _ h => .inl h.1

lemma sat_callBody (hias : m.ias = false) (hd : d ∈ m.drmObjects)
    (hmay : portMay .message c = true)
    (hl : ∀ p a level, c = .enablePort p a level → level = hdcpLevel1 ∨ level = hdcpLevel2)
    (hk : Knows d c g v tr s) (hfits : Fits d g v) (hevents : v.events = []) :
    (protectionProtocol m d).Sat (portSystem m) .message c (Finishes d c g) (m.callBody c)
      tr s := by
  have hr : Rests d c g g none tr s := by
    refine ⟨v, hk, hfits, ?_⟩
    rw [hevents]
    rfl
  cases c with
  | enumeratePorts =>
      exact sat_otherCall (uses_enumeratePorts fun o => beside_of_aside) hr (fun _ => rfl)
        fun _ _ => trivial
  | enablePort p a level =>
      by_cases hp : p = d.portId
      · subst hp
        refine (sat_enablePort hias hd (hl _ _ _ rfl) hk hfits).mono ?_
        rintro e tr s - ⟨_, he, v, hk, hfits, rfl⟩
        refine ⟨v, hk, hfits, fun _ => ?_⟩
        rw [hk.events]
        exact he
      · exact sat_otherCall (beside_enablePort hd hp) hr (fun _ => if_neg fun h => hp h.1)
          fun _ _ h => absurd h hp
  | disablePort p a =>
      by_cases hp : p = d.portId
      · subst hp
        refine (sat_disablePort (a := a) hias hd hk hfits).mono ?_
        rintro e tr s - ⟨he, _, v, hk, hfits, rfl⟩
        refine ⟨v, hk, ?_, fun _ => he⟩
        have hserve : serve d (connectionRead d.portId v.events) g (.disablePort d.portId a) =
            serve d (connectionRead d.portId v.events) g (.removeAppFromPorts a) := by
          simp [serve]
        rw [hserve]
        exact hfits
      · exact sat_otherCall (beside_disablePort hd hp) hr (fun _ => if_neg fun h => hp h.1)
          fun _ _ h => absurd h hp
  | removeAppFromPorts a =>
      have hnodup : m.drmObjects.Nodup := List.Nodup.of_map _ m.portIds_nodup
      refine (sat_removeLoop (a := a) hias hd m.drmObjects (fun _ h => h) hnodup hd hr).mono ?_
      rintro e tr s - ⟨_, v, hk, hfits, rfl⟩
      exact ⟨v, hk, hfits, trivial⟩
  | getStatus p =>
      by_cases hp : p = d.portId
      · subst hp
        refine (sat_getStatus hd hk hfits hevents).mono ?_
        rintro e tr s - ⟨v, hk, hfits, connection, hread, hanswer⟩
        refine ⟨v, hk, hfits, fun _ => ⟨connection, ?_, ?_⟩⟩
        · rw [hk.events]
          exact hread
        · rw [hk.events, hk.share]
          exact hanswer
      · refine sat_otherCall (uses_getStatus (fun o ho _ => beside_of_aside ho)
          fun _ => .inl trivial) hr (fun _ => rfl) fun _ _ h => absurd h hp
  | processHotPlug => exact absurd hmay (by decide)
  | checkIntegrity => exact absurd hmay (by decide)

/-- The other threads keep the invariant in all that they do. -/
lemma sat_foreign (hd : d ∈ m.drmObjects) (hi : i ≠ .message) (hmay : portMay i c = true) :
    (protectionProtocol m d).Sat (portSystem m) i c (fun _ _ _ => True) (m.callBody c) tr s := by
  cases i with
  | message => exact absurd rfl hi
  | integrity =>
      obtain rfl := eq_checkIntegrity hmay
      refine (Protocol.sat_forEach fun d' hd' tr s => ?_).bind
        (f := fun _ => Prog.ret Errno.success) fun _ _ _ _ _ _ _ _ _ => trivial
      by_cases heq : d' = d
      · subst heq
        exact sat_integrityRound hd'
      · have hport := m.portId_ne hd' hd heq
        have hdrm := m.drmId_ne hd' hd heq
        have huses : (integrityRound d').Uses (Distant d) :=
          uses_integrityRound ⟨.inl hport, by simp⟩ ⟨.inl trivial, by simp⟩
            ⟨.inl trivial, fun h => hdrm (PortOp.drmModeObjectGetProperties.inj h)⟩
            (uses_reportStatus (fun o ho _ => distant_of_aside ho) _ _) ⟨.inl hport, by simp⟩
            ⟨.inl hport, by simp⟩
        exact (sat_distant hi huses).mono fun _ _ _ _ _ => trivial
  | uevent =>
      obtain rfl := eq_processHotPlug hmay
      have huses : m.processHotPlug.Uses (Distant d) :=
        uses_processHotPlug fun o ho => distant_of_aside ho
      exact (sat_distant hi huses).mono fun _ _ _ _ _ => trivial

end Programs

/-! ### Runs -/

/-- A call of the message thread that has finished returns. -/
lemma keeps_ret {e : Errno} (hinv : ProtectionInv d tr s) (hfinishes : Finishes d c g e tr s) :
    (protectionProtocol m d).Keeps .message tr s (.ret .message c e) s := by
  obtain ⟨v, hk, hfits, hanswers⟩ := hfinishes
  have hshare : share d (.ret .message c e :: tr) =
      serve d (connectionRead d.portId v.events) g c := by
    rw [share, hk.events, hk.share]
  have hkernel : kernel d (.ret .message c e :: tr) = v.kernel := hk.kernel
  refine ⟨⟨hinv.shielded, hinv.lost, fun _ => ⟨⟨?_, ?_, ?_⟩, hk.reading.trans hfits.reading⟩,
    hanswers, hinv.answers⟩, fun j hj => ?_⟩
  · rw [hk.holders, hshare]
    exact hfits.holders
  · rw [hk.cached (.inl hfits.reading), hshare]
    exact hfits.cached
  · rw [hkernel, hshare]
    exact hfits.protects
  · cases j with
    | message => exact absurd rfl hj
    | integrity => exact fun h => ⟨h, rfl, rfl, fun hu => hu⟩
    | uevent => trivial

/-- A call of the message thread begins. -/
lemma keeps_call (hinv : ProtectionInv d tr s) :
    (protectionProtocol m d).Keeps .message tr s (.call .message c) s := by
  refine ⟨⟨hinv.shielded, hinv.lost, fun h => absurd h (by simp [calling]), trivial,
    hinv.answers⟩, fun j hj => ?_⟩
  cases j with
  | message => exact absurd rfl hj
  | integrity => exact fun h => ⟨h, rfl, rfl, fun hu => hu⟩
  | uevent => trivial

/-- The calls of the other threads begin and return. -/
lemma keeps_outer {l : PortLabel} (hl : l = .call i c ∨ ∃ e, l = .ret i c e) (hi : i ≠ .message)
    (hinv : ProtectionInv d tr s) : (protectionProtocol m d).Keeps i tr s l s := by
  have hthread : threadOf l = i := by
    rcases hl with rfl | ⟨e, rfl⟩ <;> rfl
  have hlost : lost d (l :: tr) = lost d tr := by
    rcases hl with rfl | ⟨e, rfl⟩ <;> rfl
  have hunread := (history_of_foreign d tr (hthread.trans_ne hi)).2.2.2
  have hkeeps : (protectionProtocol m d).Keeps (threadOf l) tr s l s :=
    keeps_foreign (hthread.trans_ne hi) hinv rfl Iff.rfl (fun _ => rfl)
      (fun h => hinv.lost (hlost ▸ h)) fun _ h => ⟨h, rfl, hlost, hunread.trans⟩
  rwa [hthread] at hkeeps

lemma inv_of_run (hias : m.ias = false) (hd : d ∈ m.drmObjects) {cfg : PortConfig}
    (hrun : (portSystem m).Run (Cooperates m) initState tr cfg) :
    ProtectionInv d tr cfg.shared := by
  refine (Protocol.sound (P := protectionProtocol m d) ?_ ?_ hrun).1
  · have hinvalid : initState.cachedType d.portId = cpTypeInvalid :=
      (by decide : u8 uint32Max = cpTypeInvalid)
    refine ⟨fun _ _ h => absurd hinvalid h, fun h => absurd h (by simp [lost, since]),
      fun _ => ⟨⟨fun a => ?_, ?_, fun _ => rfl, fun t ht => ?_⟩, rfl⟩, trivial⟩
    · rw [share, Resource.users_idle]
      exact iff_of_false List.not_mem_nil (Set.notMem_empty a)
    · rw [share]
      exact hinvalid
    · exact absurd ht.symm WithBot.coe_ne_bot
  · intro i c tr s hmay hidle hinv hadm
    by_cases hi : i = .message
    · subst hi
      obtain ⟨hagrees, hunread⟩ := hinv.idle hidle
      refine ⟨keeps_call hinv, ?_⟩
      have hk : Knows d c (share d tr) ⟨[], (s.objects d.portId).appIds, kernel d tr, false,
          s.cachedType d.portId, false⟩ (.call .message c :: tr) s :=
        ⟨rfl, rfl, rfl, rfl, rfl, hunread, fun _ => rfl, by simp⟩
      have hl : ∀ p a level, c = .enablePort p a level → level = hdcpLevel1 ∨
          level = hdcpLevel2 := by
        rintro p a level rfl
        exact hadm
      refine (sat_callBody hias hd hmay hl hk
        ⟨rfl, rfl, hagrees.holders, hagrees.cached, hagrees.protects⟩ rfl).mono ?_
      exact fun e tr s hinv hfinishes _ => keeps_ret hinv hfinishes
    · refine ⟨keeps_outer (.inl rfl) hi hinv, (sat_foreign hd hi hmay).mono ?_⟩
      exact fun e tr s hinv _ _ => keeps_outer (.inr ⟨e, rfl⟩) hi hinv

/-! ### The ports as resources -/

end Hdcp.Protection
