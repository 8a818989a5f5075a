/-
A successful enable is backed by what the kernel last said.

`EnablePort`, `DisablePort` and `CheckIntegrity` read the protection of a port and cache
its type; `EnablePort` trusts the cache.  In the runs considered here the cache is
invalid, or the last reading said that the port is enabled at this type or a higher one,
or a thread that holds the mutex of the port is about to update the cache.  So a port
is enabled, according to the last reading, whenever `EnablePort` returns `SUCCESS`.

The condition on the steps excludes the readings that the functions ignore or take for
a success although they do not support the cached type, and a loss of the link that
`CheckIntegrity` reads, or has read and not recorded yet, while `EnablePort` decides.
-/
import Hdcp.Port.Steps

namespace Hdcp.Port

open Library
open Library.Prog (op forEach)

/-! ### Readings -/

/-- The calls whose readings are considered. -/
def PortCall.reads : PortCall → Bool
  | .enablePort _ _ _ | .disablePort _ _ | .removeAppFromPorts _ | .checkIntegrity => true
  | _ => false

/-- What a step reads of the port `p`: the protection value and the type. -/
def PortManager.reading (m : PortManager) (p : ℕ) : PortLabel → Option (ℕ × ℕ)
  | .op _ c ⟨.drmModeObjectGetProperties drmId, some properties⟩ =>
    match m.getDrmObjectByPortId p with
    | some d =>
      if c.reads = true ∧ d.drmId = drmId then some (d.protectionInfo properties) else none
    | none => none
  | _ => none

/-- The last reading of the port. -/
def PortManager.lastReading (m : PortManager) (p : ℕ) (tr : PortTrace) : Option (ℕ × ℕ) :=
  tr.findSome? (m.reading p)

/-- The last reading says that the port is enabled, at the type `cpType` at least. -/
def Backs (cpType : ℕ) (last : Option (ℕ × ℕ)) : Prop :=
  ∃ t, last = some (cpEnabled, t) ∧ cpType ≤ t

/-- When `EnablePort` returns `SUCCESS`, the last reading supports the level. -/
def SuccessBacked (m : PortManager) : PortLabel → PortTrace → Prop
  | .ret _ (.enablePort p _ level) .success, tr => Backs (level.toNat - 1) (m.lastReading p tr)
  | _, _ => True

/-! ### The cached type -/

def PortState.cachedType (s : PortState) (p : ℕ) : ℕ := u8 (s.objects p).cpType

/-- A call that reads this protection value goes on to set the cached type. -/
def PortCall.caches (c : PortCall) (cpValue : ℕ) : Bool :=
  match c with
  | .enablePort _ _ _ => cpValue = cpEnabled
  | .disablePort _ _ | .removeAppFromPorts _ => cpValue = cpOff
  | .checkIntegrity => cpValue ≠ cpEnabled
  | _ => false

def PortManager.readsToCache (m : PortManager) (p : ℕ) : PortLabel → Bool
  | .op i c e => (m.reading p (.op i c e)).any fun x => c.caches x.1
  | _ => false

def setsCpType (p : ℕ) : PortLabel → Bool
  | .op _ _ ⟨.setCpType q _, _⟩ => q == p
  | _ => false

/-- The cached type of the port is about to be set according to a reading. -/
def PortManager.pending (m : PortManager) (p : ℕ) : PortTrace → Bool :=
  since (m.readsToCache p) (setsCpType p)

/-- `EnablePort` returns `SUCCESS` on account of the cached type. -/
def takesCached (level : UInt8) (currCpType : ℕ) : Bool :=
  currCpType ≠ cpTypeInvalid ∧ levelPred level ≤ currCpType

lemma takesCached_iff {level : UInt8} {currCpType : ℕ} :
    takesCached level currCpType ↔ currCpType ≠ cpTypeInvalid ∧ levelPred level ≤ currCpType :=
  decide_eq_true_iff

/-- `EnablePort` takes the cached type of the port as sufficient, or sets it. -/
def decides (p : ℕ) : PortLabel → Bool
  | .op .message (.enablePort q _ level) ⟨.getCpType q', currCpType⟩ =>
    q == p && q' == p && takesCached level currCpType
  | .op .message (.enablePort q _ _) ⟨.setCpType q' _, _⟩ => q == p && q' == p
  | _ => false

def callEnds : PortLabel → Bool
  | .call .message _ | .ret .message _ _ => true
  | _ => false

/-- An `EnablePort` on the port is in progress that is going to return `SUCCESS`. -/
def decided (p : ℕ) : PortTrace → Bool := since (decides p) callEnds

/-! ### The condition -/

/-- The readings under which the functions do what is claimed.  `cached` is the cached
type before the reading. -/
def PortCall.Accepts (c : PortCall) (cached cpValue cpType : ℕ) (decided : Bool) : Prop :=
  match c with
  | .enablePort _ _ level =>
    if cpValue = cpEnabled then level.toNat ≤ cpType + 1 else cached = cpTypeInvalid
  | .disablePort _ _ | .removeAppFromPorts _ =>
    cpValue = cpOff ∨ cached = cpTypeInvalid ∨ cpValue = cpEnabled ∧ cached ≤ cpType
  | .checkIntegrity => if cpValue = cpEnabled then cached ≤ cpType else decided = false
  | _ => True

/-- The condition on the steps of a run. -/
structure ReadingCondition (m : PortManager) (tr : PortTrace) (s : PortState)
    (l : PortLabel) : Prop where
  reading : ∀ i c e, l = .op i c e → ∀ p v t, m.reading p l = some (v, t) →
    c.Accepts (s.cachedType p) v t (decided p tr)
  cached : ∀ p a level r, l = .op .message (.enablePort p a level) ⟨.getCpType p, r⟩ →
    takesCached level r → m.pending p tr = false

/-! ### The protocol -/

/-- The cached type of a port is backed, but while an update is pending; then the mutex of
the port is held and no enable has been decided. -/
structure PortBacked (m : PortManager) (p : ℕ) (tr : PortTrace) (s : PortState) : Prop where
  cache : s.cachedType p ≠ cpTypeInvalid →
    m.pending p tr ∨ Backs (s.cachedType p) (m.lastReading p tr)
  mutex : m.pending p tr → s.cpTypeMutex p ≠ none
  decided : decided p tr → m.pending p tr = false

structure ReadingInv (m : PortManager) (tr : PortTrace) (s : PortState) : Prop where
  port : ∀ p, PortBacked m p tr s
  backed : EveryStep (SuccessBacked m) tr

/-- Nothing changes that concerns the cached type of the port `p`. -/
structure SamePort (m : PortManager) (p : ℕ) (tr : PortTrace) (s : PortState)
    (tr' : PortTrace) (s' : PortState) : Prop where
  mutex : s'.cpTypeMutex p = s.cpTypeMutex p
  cachedType : s'.cachedType p = s.cachedType p
  lastReading : m.lastReading p tr' = m.lastReading p tr
  pending : m.pending p tr' = m.pending p tr

/-- A decision of the message thread keeps its ground. -/
def KeepsDecision (i : Thread) (tr : PortTrace) (s : PortState) (tr' : PortTrace)
    (s' : PortState) : Prop :=
  i = .message → ∀ p, decided p tr' = decided p tr ∧
    (decided p tr → s'.cachedType p = s.cachedType p)

/-- What a thread relies on: the ports whose mutex it holds are left alone, and so is what
it has decided. -/
structure ReadingRely (m : PortManager) (i : Thread) (tr : PortTrace) (s : PortState)
    (tr' : PortTrace) (s' : PortState) : Prop where
  owned : ∀ p, s.cpTypeMutex p = some i → SamePort m p tr s tr' s'
  decided : KeepsDecision i tr s tr' s'

variable {m : PortManager} {tr tr' tr'' : PortTrace} {s s' s'' : PortState} {i : Thread}
  {c : PortCall} {o : PortOp} {r : o.Ans} {p q a : ℕ} {l : PortLabel}

lemma SamePort.refl : SamePort m p tr s tr s := ⟨rfl, rfl, rfl, rfl⟩

lemma SamePort.trans (h : SamePort m p tr s tr' s') (h' : SamePort m p tr' s' tr'' s'') :
    SamePort m p tr s tr'' s'' where
  mutex := h'.mutex.trans h.mutex
  cachedType := h'.cachedType.trans h.cachedType
  lastReading := h'.lastReading.trans h.lastReading
  pending := h'.pending.trans h.pending

lemma KeepsDecision.trans (h : KeepsDecision i tr s tr' s')
    (h' : KeepsDecision i tr' s' tr'' s'') : KeepsDecision i tr s tr'' s'' := by
  intro hi p
  obtain ⟨hdec, hkeep⟩ := h hi p
  obtain ⟨hdec', hkeep'⟩ := h' hi p
  exact ⟨hdec'.trans hdec, fun hd => (hkeep' (hdec.trans hd)).trans (hkeep hd)⟩

lemma ReadingRely.trans (h : ReadingRely m i tr s tr' s')
    (h' : ReadingRely m i tr' s' tr'' s'') : ReadingRely m i tr s tr'' s'' where
  owned p hp := (h.owned p hp).trans (h'.owned p ((h.owned p hp).mutex.trans hp))
  decided := h.decided.trans h'.decided

def readingProtocol (m : PortManager) : Protocol portSig Thread PortCall Errno PortState where
  admits := ReadingCondition m
  inv := ReadingInv m
  rely := ReadingRely m
  refl _ _ _ := ⟨fun _ _ => .refl, fun _ _ => ⟨rfl, fun _ => rfl⟩⟩
  trans h h' := h.trans h'

namespace Reading

/-! ### Labels -/

lemma reading_of_ne (h : ∀ drmId, o ≠ .drmModeObjectGetProperties drmId) :
    m.reading p (.op i c ⟨o, r⟩) = none := by
  cases o
  case drmModeObjectGetProperties drmId => exact absurd rfl (h drmId)
  all_goals rfl

/-- A reading of the object is one of its port. -/
lemma reading_self {d : DrmObject} (i : Thread) (properties : List (ℕ × ℕ))
    (hd : d ∈ m.drmObjects) (hc : c.reads = true) :
    m.reading d.portId (.op i c ⟨.drmModeObjectGetProperties d.drmId, some properties⟩) =
      some (d.protectionInfo properties) := by
  rw [PortManager.reading, m.getDrmObjectByPortId_of_mem hd]
  exact if_pos ⟨hc, rfl⟩

/-- ... and of no other port. -/
lemma reading_other {d : DrmObject} (i : Thread) (c : PortCall)
    (properties : Option (List (ℕ × ℕ))) (hd : d ∈ m.drmObjects) (hp : p ≠ d.portId) :
    m.reading p (.op i c ⟨.drmModeObjectGetProperties d.drmId, properties⟩) = none := by
  cases properties with
  | none => rfl
  | some properties =>
      rw [PortManager.reading]
      cases hd' : m.getDrmObjectByPortId p with
      | none => rfl
      | some d' =>
          refine if_neg ?_
          rintro ⟨-, hdrm⟩
          obtain rfl := m.eq_of_drmId_eq (m.mem_of_getDrmObjectByPortId hd') hd hdrm
          exact hp (m.portId_of_getDrmObjectByPortId hd').symm

lemma lastReading_of_none (h : m.reading p l = none) :
    m.lastReading p (l :: tr) = m.lastReading p tr := by
  rw [PortManager.lastReading, List.findSome?_cons, h]
  rfl

lemma lastReading_of_some {x : ℕ × ℕ} (h : m.reading p l = some x) :
    m.lastReading p (l :: tr) = some x := by
  rw [PortManager.lastReading, List.findSome?_cons, h]

lemma pending_of_none (h : m.reading p l = none) (hset : setsCpType p l = false) :
    m.pending p (l :: tr) = m.pending p tr := by
  refine since_cons_of_eq ?_ hset
  cases l with
  | op i c e =>
      show ((m.reading p _).any fun x => c.caches x.1) = false
      rw [h]
      rfl
  | call i c => rfl
  | ret i c x => rfl

/-- The interactions in which `EnablePort` decides. -/
def deciding : PortOp → Bool
  | .getCpType _ | .setCpType _ _ => true
  | _ => false

lemma decides_eq_false
    (h : i ≠ .message ∨ (∀ p a level, c ≠ .enablePort p a level) ∨ deciding o = false) :
    decides p (.op i c ⟨o, r⟩) = false := by
  cases i
  case message =>
    cases c
    case enablePort q a level =>
      have ho : deciding o = false := by
        rcases h with h | h | h
        · exact absurd rfl h
        · exact absurd rfl (h q a level)
        · exact h
      cases o
      case getCpType => exact absurd ho (by simp [deciding])
      case setCpType => exact absurd ho (by simp [deciding])
      all_goals rfl
    all_goals rfl
  all_goals rfl

lemma decided_op (h : decides p (.op i c ⟨o, r⟩) = false) :
    decided p (.op i c ⟨o, r⟩ :: tr) = decided p tr :=
  since_cons_of_eq h rfl

/-! ### Steps -/

/-- What is needed for the others when a step concerns one port only. -/
lemma rely_others (hp : ∀ j, j ≠ i → s.cpTypeMutex p ≠ some j)
    (hother : ∀ q, q ≠ p → SamePort m q tr s (l :: tr) s')
    (hdec : i ≠ .message → ∀ q, decided q (l :: tr) = decided q tr ∧
      (decided q tr → s'.cachedType q = s.cachedType q)) (j : Thread) (hj : j ≠ i) :
    ReadingRely m j tr s (l :: tr) s' where
  owned q hq := by
    by_cases hqp : q = p
    · subst hqp
      exact absurd hq (hp j hj)
    · exact hother q hqp
  decided hjm := hdec fun him => hj (hjm.trans him.symm)

lemma portBacked_of_same (h : PortBacked m p tr s) (hsame : SamePort m p tr s tr' s')
    (hdec : decided p tr' → decided p tr) : PortBacked m p tr' s' where
  cache := by
    rw [hsame.cachedType, hsame.lastReading, hsame.pending]
    exact h.cache
  mutex := by
    rw [hsame.mutex, hsame.pending]
    exact h.mutex
  decided hd := by
    rw [hsame.pending]
    exact h.decided (hdec hd)

lemma samePort_of_quiet (ho : o.onCpType = false)
    (hread : m.reading p (.op i c ⟨o, r⟩) = none) (hstep : portStep i o r s = some s') :
    SamePort m p tr s (.op i c ⟨o, r⟩ :: tr) s' := by
  obtain ⟨hmutex, hcp⟩ := portStep_cpType ho hstep
  have hset : setsCpType p (.op i c ⟨o, r⟩) = false := by
    cases o
    case setCpType => exact absurd ho (by simp [PortOp.onCpType])
    all_goals rfl
  refine ⟨congrFun hmutex p, ?_, lastReading_of_none hread, pending_of_none hread hset⟩
  rw [PortState.cachedType, hcp]
  rfl

/-- An interaction that concerns no cached type and reads no protection. -/
structure Quiet (m : PortManager) (c : PortCall) (o : PortOp) : Prop where
  frame : o.onCpType = false
  reading : ∀ i r q, m.reading q (.op i c ⟨o, r⟩) = none
  decides : ∀ i r q, decides q (.op i c ⟨o, r⟩) = false

lemma quiet_of_not_onProtection (h : o.onProtection = false) : Quiet m c o where
  frame := by
    cases o
    case setCpType | cpTypeAtomicBegin | cpTypeAtomicEnd =>
      exact absurd h (by simp [PortOp.onProtection])
    all_goals rfl
  reading i r q := by
    refine reading_of_ne fun drmId => ?_
    rintro rfl
    exact absurd h (by simp [PortOp.onProtection])
  decides i r q := by
    refine decides_eq_false (.inr (.inr ?_))
    cases o
    case getCpType | setCpType => exact absurd h (by simp [PortOp.onProtection])
    all_goals rfl

lemma quiet_of_aside (h : o.aside = true) : Quiet m c o := by
  refine quiet_of_not_onProtection ?_
  cases o <;> first | rfl | exact absurd h (by simp [PortOp.aside])

lemma quiet_getCpType (hc : ∀ p a level, c ≠ .enablePort p a level) :
    Quiet m c (.getCpType p) :=
  ⟨rfl, fun _ _ _ => rfl, fun _ _ _ => decides_eq_false (.inr (.inl hc))⟩

lemma quiet_getStatus {drmId : ℕ} :
    Quiet m (.getStatus p) (.drmModeObjectGetProperties drmId) where
  frame := rfl
  reading i r q := by
    cases r with
    | none => rfl
    | some properties =>
        rw [PortManager.reading]
        split
        · exact if_neg fun h => absurd h.1 Bool.false_ne_true
        · rfl
  decides i r q := decides_eq_false (.inr (.inr rfl))

/-- A step that concerns no cached type and reads no protection. -/
lemma quiet_step (ho : o.onCpType = false)
    (hread : ∀ q, m.reading q (.op i c ⟨o, r⟩) = none)
    (hdec : ∀ q, decides q (.op i c ⟨o, r⟩) = false) (hinv : ReadingInv m tr s)
    (hstep : portStep i o r s = some s') :
    (readingProtocol m).Keeps i tr s (.op i c ⟨o, r⟩) s' ∧
      ReadingRely m i tr s (.op i c ⟨o, r⟩ :: tr) s' := by
  have hsame (q : ℕ) : SamePort m q tr s (.op i c ⟨o, r⟩ :: tr) s' :=
    samePort_of_quiet ho (hread q) hstep
  have hrely (j : Thread) : ReadingRely m j tr s (.op i c ⟨o, r⟩ :: tr) s' :=
    ⟨fun q _ => hsame q, fun _ q => ⟨decided_op (hdec q), fun _ => (hsame q).cachedType⟩⟩
  refine ⟨⟨⟨fun q => ?_, trivial, hinv.backed⟩, fun j _ => hrely j⟩, hrely i⟩
  refine portBacked_of_same (hinv.port q) (hsame q) fun hd => ?_
  rwa [decided_op (hdec q)] at hd

/-- A step of the thread `i` on the port `p`. -/
lemma step_on (hp : ∀ j, j ≠ i → s.cpTypeMutex p ≠ some j)
    (hother : ∀ q, q ≠ p → SamePort m q tr s (.op i c ⟨o, r⟩ :: tr) s')
    (hdec : ∀ q, q ≠ p → decides q (.op i c ⟨o, r⟩) = false)
    (hkeep : i ≠ .message → decided p tr → s'.cachedType p = s.cachedType p)
    (hinv : ReadingInv m tr s) (hport : PortBacked m p (.op i c ⟨o, r⟩ :: tr) s') :
    (readingProtocol m).Keeps i tr s (.op i c ⟨o, r⟩) s' := by
  refine ⟨⟨fun q => ?_, trivial, hinv.backed⟩, rely_others hp hother fun hi q => ⟨?_, ?_⟩⟩
  · by_cases hqp : q = p
    · subst hqp
      exact hport
    · refine portBacked_of_same (hinv.port q) (hother q hqp) fun hd => ?_
      rwa [decided_op (hdec q hqp)] at hd
  · exact decided_op (decides_eq_false (.inl hi))
  · intro hd
    by_cases hqp : q = p
    · subst hqp
      exact hkeep hi hd
    · exact (hother q hqp).cachedType

/-- The thread holds the mutex of the port, and has no update to make. -/
structure Locked (m : PortManager) (i : Thread) (p : ℕ) (tr : PortTrace) (s : PortState) :
    Prop where
  mutex : s.cpTypeMutex p = some i
  pending : m.pending p tr = false

/-- No enable has been decided by the thread. -/
def Undecided (i : Thread) (tr : PortTrace) : Prop := i = .message → ∀ p, decided p tr = false

lemma Undecided.of_keeps (h : Undecided i tr) (hkeeps : KeepsDecision i tr s tr' s') :
    Undecided i tr' :=
  fun hi p => ((hkeeps hi p).1).trans (h hi p)

lemma Undecided.op (h : Undecided i tr) (hdec : ∀ q, decides q (.op i c ⟨o, r⟩) = false) :
    Undecided i (.op i c ⟨o, r⟩ :: tr) :=
  fun hi p => (decided_op (hdec p)).trans (h hi p)

lemma Locked.of_rely (h : Locked m i p tr s) (hrely : ReadingRely m i tr s tr' s') :
    Locked m i p tr' s' where
  mutex := (hrely.owned p h.mutex).mutex.trans h.mutex
  pending := (hrely.owned p h.mutex).pending.trans h.pending

lemma level_le_of_levelPred_le {level : UInt8} {cpType : ℕ} (h : levelPred level ≤ cpType) :
    level.toNat ≤ cpType + 1 := by
  have hlt := level.toNat_lt
  rw [levelPred, u32] at h
  omega

/-- `EnablePort` has decided to return `SUCCESS` for the level. -/
structure Chosen (p : ℕ) (level : UInt8) (tr : PortTrace) (s : PortState) : Prop where
  decided : decided p tr
  valid : s.cachedType p ≠ cpTypeInvalid
  level_le : level.toNat ≤ s.cachedType p + 1

lemma Chosen.of_keeps {level : UInt8} (h : Chosen p level tr s)
    (hkeeps : KeepsDecision .message tr s tr' s') : Chosen p level tr' s' := by
  obtain ⟨hdec, hsame⟩ := hkeeps rfl p
  have hcached := hsame h.decided
  exact ⟨hdec.trans h.decided, hcached ▸ h.valid, hcached ▸ h.level_le⟩

lemma begin_step {u : Unit} (hinv : ReadingInv m tr s)
    (hstep : portStep i (.cpTypeAtomicBegin p) u s = some s') :
    (readingProtocol m).Keeps i tr s (.op i c ⟨.cpTypeAtomicBegin p, u⟩) s' ∧
      Locked m i p (.op i c ⟨.cpTypeAtomicBegin p, u⟩ :: tr) s' := by
  simp only [portStep, Option.ite_none_right_eq_some, Option.some.injEq] at hstep
  obtain ⟨hfree, rfl⟩ := hstep
  have hdec (q : ℕ) : decides q (.op i c ⟨.cpTypeAtomicBegin p, u⟩) = false :=
    decides_eq_false (.inr (.inr rfl))
  -- a port whose mutex is free has no pending update
  have hpending : m.pending p tr = false := by
    by_contra hpend
    exact (hinv.port p).mutex (by simpa using hpend) hfree
  have hport : PortBacked m p (.op i c ⟨.cpTypeAtomicBegin p, u⟩ :: tr)
      { s with cpTypeMutex := Function.update s.cpTypeMutex p (some i) } :=
    ⟨(hinv.port p).cache, fun h => absurd (hpending.symm.trans h) (by decide),
      fun _ => hpending⟩
  refine ⟨step_on (p := p) ?_ ?_ (fun q _ => hdec q) (fun _ _ => rfl) hinv hport, ?_⟩
  · intro j _ hj
    rw [hfree] at hj
    exact absurd hj (by simp)
  · intro q hqp
    exact ⟨Function.update_of_ne hqp _ _, rfl, rfl, rfl⟩
  · exact ⟨Function.update_self _ _ _, hpending⟩

lemma end_step {u : Unit} (hlock : Locked m i p tr s) (hinv : ReadingInv m tr s)
    (hstep : portStep i (.cpTypeAtomicEnd p) u s = some s') :
    (readingProtocol m).Keeps i tr s (.op i c ⟨.cpTypeAtomicEnd p, u⟩) s' ∧
      KeepsDecision i tr s (.op i c ⟨.cpTypeAtomicEnd p, u⟩ :: tr) s' := by
  obtain rfl := (Option.some.inj hstep).symm
  have hdec (q : ℕ) : decides q (.op i c ⟨.cpTypeAtomicEnd p, u⟩) = false :=
    decides_eq_false (.inr (.inr rfl))
  have hport : PortBacked m p (.op i c ⟨.cpTypeAtomicEnd p, u⟩ :: tr)
      { s with cpTypeMutex := Function.update s.cpTypeMutex p none } :=
    ⟨(hinv.port p).cache, fun h => absurd (hlock.pending.symm.trans h) (by decide),
      fun _ => hlock.pending⟩
  refine ⟨step_on (p := p) ?_ ?_ (fun q _ => hdec q) (fun _ _ => rfl) hinv hport,
    fun _ q => ⟨decided_op (hdec q), fun _ => rfl⟩⟩
  · intro j hji hj
    rw [hlock.mutex] at hj
    exact hji (Option.some.inj hj).symm
  · intro q hqp
    exact ⟨Function.update_of_ne hqp _ _, rfl, rfl, rfl⟩

/-- The thread has read the port, and holds its mutex since then. -/
structure Fresh (m : PortManager) (i : Thread) (c : PortCall) (p : ℕ) (x : ℕ × ℕ)
    (tr : PortTrace) (s : PortState) : Prop where
  mutex : s.cpTypeMutex p = some i
  last : m.lastReading p tr = some x
  pending : m.pending p tr = c.caches x.1
  accepted : ∃ cached decided, c.Accepts cached x.1 x.2 decided
  typed : x.1 = cpEnabled → x.2 < cpTypeInvalid

lemma Fresh.of_rely {x : ℕ × ℕ} (h : Fresh m i c p x tr s)
    (hrely : ReadingRely m i tr s tr' s') : Fresh m i c p x tr' s' where
  mutex := (hrely.owned p h.mutex).mutex.trans h.mutex
  last := (hrely.owned p h.mutex).lastReading.trans h.last
  pending := (hrely.owned p h.mutex).pending.trans h.pending
  accepted := h.accepted
  typed := h.typed

lemma Fresh.locked {x : ℕ × ℕ} (h : Fresh m i c p x tr s) (hc : c.caches x.1 = false) :
    Locked m i p tr s :=
  ⟨h.mutex, h.pending.trans hc⟩

/-- An accepted reading backs the cached type, or the cache is going to be updated. -/
lemma backs_of_accepts {cached decided} {x : ℕ × ℕ} (hc : c.reads = true)
    (hacc : c.Accepts cached x.1 x.2 decided) (hcached : cached ≠ cpTypeInvalid) :
    c.caches x.1 ∨ Backs cached (some x) := by
  obtain ⟨v, t⟩ := x
  cases c with
  | enablePort p a level =>
      by_cases hv : v = cpEnabled
      · exact .inl (decide_eq_true hv)
      · exact absurd ((if_neg hv).mp hacc) hcached
  | disablePort p a =>
      rcases hacc with hv | hinvalid | ⟨rfl, ht⟩
      · exact .inl (decide_eq_true hv)
      · exact absurd hinvalid hcached
      · exact .inr ⟨t, rfl, ht⟩
  | removeAppFromPorts a =>
      rcases hacc with hv | hinvalid | ⟨rfl, ht⟩
      · exact .inl (decide_eq_true hv)
      · exact absurd hinvalid hcached
      · exact .inr ⟨t, rfl, ht⟩
  | checkIntegrity =>
      by_cases hv : v = cpEnabled
      · subst hv
        have ht : if cpEnabled = cpEnabled then cached ≤ t else decided = false := hacc
        rw [if_pos rfl] at ht
        exact .inr ⟨t, rfl, ht⟩
      · exact .inl (decide_eq_true hv)
  | enumeratePorts | getStatus | processHotPlug => exact absurd hc Bool.false_ne_true

/-- A reading by a thread that holds the mutex of the port. -/
lemma reading_step {d : DrmObject} {properties : List (ℕ × ℕ)} (hd : d ∈ m.drmObjects)
    (hc : c.reads = true) (hi : i = .message ∨ c = .checkIntegrity) (hund : Undecided i tr)
    (hlock : Locked m i d.portId tr s) (hinv : ReadingInv m tr s)
    (hadm : ReadingCondition m tr s
      (.op i c ⟨.drmModeObjectGetProperties d.drmId, some properties⟩)) :
    (readingProtocol m).Keeps i tr s
        (.op i c ⟨.drmModeObjectGetProperties d.drmId, some properties⟩) s ∧
      Fresh m i c d.portId (d.protectionInfo properties)
        (.op i c ⟨.drmModeObjectGetProperties d.drmId, some properties⟩ :: tr) s := by
  have hread := reading_self i properties hd hc
  have hacc := hadm.reading i c _ rfl d.portId _ _ hread
  have hlast : m.lastReading d.portId
      (.op i c ⟨.drmModeObjectGetProperties d.drmId, some properties⟩ :: tr) =
        some (d.protectionInfo properties) := lastReading_of_some hread
  have hpending : m.pending d.portId
      (.op i c ⟨.drmModeObjectGetProperties d.drmId, some properties⟩ :: tr) =
        c.caches (d.protectionInfo properties).1 := by
    have hcaches : m.readsToCache d.portId
        (.op i c ⟨.drmModeObjectGetProperties d.drmId, some properties⟩) =
          c.caches (d.protectionInfo properties).1 := by
      show ((m.reading _ _).any fun x => c.caches x.1) = _
      rw [hread, Option.any_some]
    have hbefore : since (m.readsToCache d.portId) (setsCpType d.portId) tr = false :=
      hlock.pending
    rw [PortManager.pending, since_cons, hcaches, hbefore, Bool.and_false, Bool.or_false]
  have hdec (q : ℕ) : decides q
      (.op i c ⟨.drmModeObjectGetProperties d.drmId, some properties⟩) = false :=
    decides_eq_false (.inr (.inr rfl))
  refine ⟨step_on (p := d.portId) ?_ ?_ (fun q _ => hdec q) (fun _ _ => rfl) hinv ?_,
    hlock.mutex, hlast, hpending, ⟨_, _, hacc⟩, d.protectionInfo_snd_lt properties⟩
  · intro j hji hj
    rw [hlock.mutex] at hj
    exact hji (Option.some.inj hj).symm
  · intro q hqp
    have hnone := reading_other i c (some properties) hd hqp
    exact ⟨rfl, rfl, lastReading_of_none hnone, pending_of_none hnone rfl⟩
  · refine ⟨fun hcached => ?_, fun _ => ?_, fun hdecided => ?_⟩
    · rw [hpending, hlast]
      exact backs_of_accepts hc hacc hcached
    · rw [hlock.mutex]
      exact Option.some_ne_none i
    · -- a decided enable is one of the message thread, and the loss of its link is excluded
      rw [decided_op (hdec _)] at hdecided
      rw [hpending]
      rcases hi with hi | rfl
      · rw [hund hi] at hdecided
        exact absurd hdecided (by decide)
      · by_cases hv : (d.protectionInfo properties).1 = cpEnabled
        · exact decide_eq_false (not_not.2 hv)
        · have hno := (if_neg hv).mp hacc
          rw [hdecided] at hno
          exact absurd hno (by decide)

/-- An update of the cached type by a thread that holds the mutex of the port. -/
lemma setCpType_step {u : Unit} {x : ℕ × ℕ} {t : ℕ} (hfresh : Fresh m i c p x tr s)
    (hx : c.caches x.1 = true) (ht : u8 t ≠ cpTypeInvalid → Backs (u8 t) (some x))
    (hinv : ReadingInv m tr s) (hstep : portStep i (.setCpType p t) u s = some s') :
    (readingProtocol m).Keeps i tr s (.op i c ⟨.setCpType p t, u⟩) s' ∧
      Locked m i p (.op i c ⟨.setCpType p t, u⟩ :: tr) s' ∧ s'.cachedType p = u8 t := by
  obtain rfl := (Option.some.inj hstep).symm
  have hpending : m.pending p (.op i c ⟨.setCpType p t, u⟩ :: tr) = false := by
    rw [PortManager.pending, since_cons]
    have hset : setsCpType p (.op i c ⟨.setCpType p t, u⟩) = true := beq_self_eq_true p
    rw [hset]
    rfl
  have hcached : (s.modify p fun d => { d with cpType := t }).cachedType p = u8 t := by
    rw [PortState.cachedType, PortState.modify_objects_self]
  refine ⟨step_on (p := p) ?_ (fun q hqp => ⟨rfl, ?_, ?_, ?_⟩) (fun q hqp => ?_) ?_ hinv ?_,
    ⟨hfresh.mutex, hpending⟩, hcached⟩
  · intro j hji hj
    rw [hfresh.mutex] at hj
    exact hji (Option.some.inj hj).symm
  · rw [PortState.cachedType, PortState.modify_objects_of_ne hqp]
    rfl
  · exact lastReading_of_none rfl
  · exact pending_of_none rfl (by simpa [setsCpType] using Ne.symm hqp)
  · cases i
    case message =>
      cases c
      case enablePort q' a level => simp [decides, Ne.symm hqp]
      all_goals rfl
    all_goals rfl
  · -- while the update was pending, no enable was decided
    intro _ hdecided
    have hno := (hinv.port p).decided hdecided
    rw [hfresh.pending, hx] at hno
    exact absurd hno (by decide)
  · refine ⟨fun hne => .inr ?_, fun h => absurd (hpending.symm.trans h) (by decide),
      fun _ => hpending⟩
    rw [hcached] at hne ⊢
    have hlast : m.lastReading p (.op i c ⟨.setCpType p t, u⟩ :: tr) = some x :=
      (lastReading_of_none rfl).trans hfresh.last
    rw [hlast]
    exact ht hne

/-! ### Programs -/

section Programs

variable {α β : Type} {Q : β → PortTrace → PortState → Prop}

lemma sat_quiet {q : PortProg α} (hq : q.Uses (Quiet m c)) :
    (readingProtocol m).Sat (portSystem m) i c
      (fun _ tr' s' => ReadingRely m i tr s tr' s') q tr s :=
  Protocol.sat_of_uses (P := readingProtocol m)
    (fun _ r _ _ _ ho _ hinv hstep _ =>
      quiet_step ho.frame (ho.reading i r) (ho.decides i r) hinv hstep) hq

lemma sat_quiet_bind {q : PortProg α} {f : α → PortProg β} (hq : q.Uses (Quiet m c))
    (hf : ∀ x tr' s', ReadingRely m i tr s tr' s' →
      (readingProtocol m).Sat (portSystem m) i c Q (f x) tr' s') :
    (readingProtocol m).Sat (portSystem m) i c Q (q >>= f) tr s :=
  (sat_quiet hq).bind fun x tr' s' _ hrely => hf x tr' s' hrely

lemma sat_begin {f : Unit → PortProg β} (hund : Undecided i tr)
    (hf : ∀ tr' s', Undecided i tr' → Locked m i p tr' s' →
      (readingProtocol m).Sat (portSystem m) i c Q (f ()) tr' s') :
    (readingProtocol m).Sat (portSystem m) i c Q (cpTypeAtomicBegin p >>= f) tr s := by
  intro tr' s' hrely hinv u s'' hstep _
  obtain ⟨hkeeps, hlock⟩ := begin_step (c := c) hinv hstep
  refine ⟨hkeeps, hf _ _ ?_ hlock⟩
  exact (hund.of_keeps hrely.decided).op fun _ => decides_eq_false (.inr (.inr rfl))

lemma sat_end {f : Unit → PortProg β} (hlock : Locked m i p tr s)
    (hf : ∀ tr' s', KeepsDecision i tr s tr' s' →
      (readingProtocol m).Sat (portSystem m) i c Q (f ()) tr' s') :
    (readingProtocol m).Sat (portSystem m) i c Q (cpTypeAtomicEnd p >>= f) tr s := by
  intro tr' s' hrely hinv u s'' hstep _
  obtain ⟨hkeeps, hdec⟩ := end_step (c := c) (hlock.of_rely hrely) hinv hstep
  exact ⟨hkeeps, hf _ _ (hrely.decided.trans hdec)⟩

lemma sat_getProtectionInfo {d : DrmObject} {f : Option (ℕ × ℕ) → PortProg β}
    (hd : d ∈ m.drmObjects) (hc : c.reads = true) (hi : i = .message ∨ c = .checkIntegrity)
    (hund : Undecided i tr) (hlock : Locked m i d.portId tr s)
    (hnone : ∀ tr' s', Undecided i tr' → Locked m i d.portId tr' s' →
      (readingProtocol m).Sat (portSystem m) i c Q (f none) tr' s')
    (hsome : ∀ x tr' s', Undecided i tr' → Fresh m i c d.portId x tr' s' →
      (readingProtocol m).Sat (portSystem m) i c Q (f (some x)) tr' s') :
    (readingProtocol m).Sat (portSystem m) i c Q (getProtectionInfo d >>= f) tr s := by
  intro tr' s' hrely hinv properties s'' hstep hadm
  have hlock := hlock.of_rely hrely
  have hund' : Undecided i (.op i c ⟨.drmModeObjectGetProperties d.drmId, properties⟩ :: tr') :=
    (hund.of_keeps hrely.decided).op fun _ => decides_eq_false (.inr (.inr rfl))
  obtain rfl : s' = s'' := Option.some.inj hstep
  cases properties with
  | none =>
      have hquiet := quiet_step (i := i) (c := c) (o := .drmModeObjectGetProperties d.drmId)
        (r := (none : Option (List (ℕ × ℕ)))) rfl (fun _ => rfl)
        (fun _ => decides_eq_false (.inr (.inr rfl))) hinv hstep
      exact ⟨hquiet.1, hnone _ _ hund' ⟨hlock.mutex, hlock.pending⟩⟩
  | some properties =>
      obtain ⟨hkeeps, hfresh⟩ :=
        reading_step hd hc hi (hund.of_keeps hrely.decided) hlock hinv hadm
      exact ⟨hkeeps, hsome _ _ _ hund' hfresh⟩

/-- The cached type is set to `CP_TYPE_INVALID`. -/
lemma sat_resetCpType {x : ℕ × ℕ} {f : Unit → PortProg β}
    (hc : ∀ p a level, c ≠ .enablePort p a level) (hund : Undecided i tr)
    (hfresh : Fresh m i c p x tr s) (hx : c.caches x.1 = true)
    (hf : ∀ tr' s', Undecided i tr' → Locked m i p tr' s' →
      (readingProtocol m).Sat (portSystem m) i c Q (f ()) tr' s') :
    (readingProtocol m).Sat (portSystem m) i c Q
      (setCpType p cpTypeInvalid >>= f) tr s := by
  intro tr' s' hrely hinv u s'' hstep _
  obtain ⟨hkeeps, hlock, -⟩ := setCpType_step (hfresh.of_rely hrely) hx
    (fun h => absurd rfl h) hinv hstep
  refine ⟨hkeeps, hf _ _ ?_ hlock⟩
  exact (hund.of_keeps hrely.decided).op fun _ => decides_eq_false (.inr (.inl hc))

/-- A round of `CheckIntegrity`. -/
lemma sat_integrityRound {d : DrmObject} (hd : d ∈ m.drmObjects) (hi : i ≠ .message) :
    (readingProtocol m).Sat (portSystem m) i .checkIntegrity (fun _ _ _ => True)
      (integrityRound d) tr s := by
  have hund (tr : PortTrace) : Undecided i tr := fun him => absurd him hi
  have hnotEnable (p a : ℕ) (level : UInt8) : PortCall.checkIntegrity ≠ .enablePort p a level := by
    simp
  have hend {tr : PortTrace} {s : PortState} (hlock : Locked m i d.portId tr s) :
      (readingProtocol m).Sat (portSystem m) i .checkIntegrity (fun _ _ _ => True)
        (cpTypeAtomicEnd d.portId) tr s :=
    sat_end (f := Prog.ret) hlock fun _ _ _ _ _ _ _ => trivial
  rw [integrityRound]
  refine sat_begin (hund _) fun tr s _ hlock => ?_
  refine sat_quiet_bind (Prog.uses_op.2 (quiet_getCpType hnotEnable)) fun current tr s hrely => ?_
  have hlock := hlock.of_rely hrely
  refine Protocol.Sat.ite (fun _ => hend hlock) fun _ => ?_
  refine sat_getProtectionInfo hd rfl (.inr rfl) (hund _) hlock (fun tr s _ hlock => hend hlock)
    fun x tr s _ hfresh => ?_
  refine Protocol.Sat.ite (fun hv => ?_) fun hv => ?_
  · refine sat_quiet_bind (uses_reportStatus (fun o ho _ => quiet_of_aside ho) _ _)
      fun _ tr s hrely => ?_
    refine sat_resetCpType hnotEnable (hund _) (hfresh.of_rely hrely) (decide_eq_true hv)
      fun tr s _ hlock => hend hlock
  · exact hend (hfresh.locked (decide_eq_false hv))

/-- The cached type is set to the type of a reading by `EnablePort`. -/
lemma sat_setCpType {x : ℕ × ℕ} {level : UInt8} {f : Unit → PortProg β}
    (hc : c = .enablePort p a level) (hfresh : Fresh m .message c p x tr s)
    (hx : x.1 = cpEnabled)
    (hf : ∀ tr' s', Locked m .message p tr' s' → Chosen p level tr' s' →
      (readingProtocol m).Sat (portSystem m) .message c Q (f ()) tr' s') :
    (readingProtocol m).Sat (portSystem m) .message c Q (setCpType p x.2 >>= f) tr s := by
  subst hc
  intro tr' s' hrely hinv u s'' hstep _
  have hfresh := hfresh.of_rely hrely
  have htype := hfresh.typed hx
  obtain ⟨cached, decided, hacc⟩ := hfresh.accepted
  have hlevel : level.toNat ≤ x.2 + 1 := by
    have hacc : if x.1 = cpEnabled then level.toNat ≤ x.2 + 1 else cached = cpTypeInvalid := hacc
    rwa [if_pos hx] at hacc
  have hu8 : u8 x.2 = x.2 := Nat.mod_eq_of_lt (htype.trans (by decide))
  have hbacks : Backs (u8 x.2) (some x) := ⟨x.2, by rw [← hx], hu8.le⟩
  obtain ⟨hkeeps, hlock, hcached⟩ := setCpType_step hfresh (decide_eq_true hx)
    (fun _ => hbacks) hinv hstep
  rw [hu8] at hcached
  refine ⟨hkeeps, hf _ _ hlock ⟨since_cons_of_on ?_, ?_, ?_⟩⟩
  · simp [decides]
  · rw [hcached]
    exact htype.ne
  · rw [hcached]
    exact hlevel

/-- `GetCpType` of `EnablePort`. -/
lemma sat_getCpType {level : UInt8} {f : ℕ → PortProg β} (hc : c = .enablePort p a level)
    (hund : Undecided .message tr)
    (hf : ∀ currCpType tr' s', (takesCached level currCpType = true → Chosen p level tr' s') →
      (takesCached level currCpType = false → Undecided .message tr') →
      (readingProtocol m).Sat (portSystem m) .message c Q (f currCpType) tr' s') :
    (readingProtocol m).Sat (portSystem m) .message c Q (getCpType p >>= f) tr s := by
  subst hc
  intro tr' s' hrely hinv currCpType s'' hstep hadm
  obtain ⟨hcurr, rfl⟩ := PortState.answer_eq_some.1 hstep
  have hund := hund.of_keeps hrely.decided
  have hsame (q : ℕ) : SamePort m q tr' s''
      (.op .message (.enablePort p a level) ⟨.getCpType p, currCpType⟩ :: tr') s'' :=
    ⟨rfl, rfl, rfl, rfl⟩
  refine ⟨⟨⟨fun q => ?_, trivial, hinv.backed⟩, fun j hj => ?_⟩, hf _ _ _ ?_ ?_⟩
  · refine ⟨(hinv.port q).cache, (hinv.port q).mutex, fun hdecided => ?_⟩
    have hq : decides q
        (.op .message (.enablePort p a level) ⟨.getCpType p, currCpType⟩) = true := by
      rw [decided, since_cons, Bool.or_eq_true] at hdecided
      refine hdecided.resolve_right fun hbefore => ?_
      have hno : since (decides q) callEnds tr' = false := hund rfl q
      rw [hno, Bool.and_false] at hbefore
      exact absurd hbefore (by decide)
    simp only [decides, Bool.and_eq_true, beq_iff_eq] at hq
    obtain ⟨⟨rfl, -⟩, htakes⟩ := hq
    exact hadm.cached p a level currCpType rfl htakes
  · exact ⟨fun q _ => hsame q, fun hjm => absurd hjm hj⟩
  · intro htakes
    have hdecides : decides p
        (.op .message (.enablePort p a level) ⟨.getCpType p, currCpType⟩) = true := by
      simp [decides, htakes]
    obtain ⟨hvalid, hle⟩ := takesCached_iff.1 htakes
    rw [hcurr] at hvalid hle
    exact ⟨since_cons_of_on hdecides, hvalid, level_le_of_levelPred_le hle⟩
  · intro htakes _ q
    refine (decided_op ?_).trans (hund rfl q)
    simp [decides, htakes]

/-- The end of `DisablePort`. -/
lemma sat_checkDisabled {d : DrmObject} (hd : d ∈ m.drmObjects) (hc : c.reads = true)
    (hcaches : ∀ v, c.caches v = decide (v = cpOff))
    (hnotEnable : ∀ p a level, c ≠ .enablePort p a level) (hund : Undecided .message tr) :
    (readingProtocol m).Sat (portSystem m) .message c (fun _ tr' _ => Undecided .message tr')
      (checkDisabled d) tr s := by
  have hend {tr : PortTrace} {s : PortState} {x : Errno} (hund : Undecided .message tr)
      (hlock : Locked m .message d.portId tr s) :
      (readingProtocol m).Sat (portSystem m) .message c
        (fun _ tr' _ => Undecided .message tr')
        (cpTypeAtomicEnd d.portId >>= fun _ => Prog.ret x) tr s := by
    refine sat_end hlock fun tr s hkeeps => ?_
    exact fun tr' s' hrely _ => (hund.of_keeps hkeeps).of_keeps hrely.decided
  rw [checkDisabled]
  refine sat_begin hund fun tr s hund hlock => ?_
  refine sat_getProtectionInfo hd hc (.inl rfl) hund hlock (fun tr s => hend)
    fun x tr s hund hfresh => ?_
  refine Protocol.Sat.ite (fun hv => ?_) fun hv => ?_
  · exact hend hund (hfresh.locked ((hcaches _).trans (decide_eq_false hv)))
  · refine sat_resetCpType hnotEnable hund hfresh ?_ fun tr s => hend
    exact (hcaches _).trans (decide_eq_true (not_not.1 hv))

/-! ### Calls and returns -/

/-- A call or a return. -/
lemma outer_step (hread : ∀ q, m.reading q l = none) (hset : ∀ q, setsCpType q l = false)
    (hdec : ∀ q, decides q l = false) (hends : i ≠ .message → callEnds l = false)
    (hbacked : SuccessBacked m l tr) (hinv : ReadingInv m tr s) :
    (readingProtocol m).Keeps i tr s l s := by
  have hsame (q : ℕ) : SamePort m q tr s (l :: tr) s :=
    ⟨rfl, rfl, lastReading_of_none (hread q), pending_of_none (hread q) (hset q)⟩
  refine ⟨⟨fun q => ?_, hbacked, hinv.backed⟩, fun j hj => ⟨fun q _ => hsame q, ?_⟩⟩
  · refine portBacked_of_same (hinv.port q) (hsame q) fun hdecided => ?_
    rw [decided, since_cons, hdec, Bool.false_or, Bool.and_eq_true] at hdecided
    exact hdecided.2
  · intro hjm q
    refine ⟨since_cons_of_eq (hdec q) (hends ?_), fun _ => rfl⟩
    rintro rfl
    exact hj hjm

/-- The message thread returns something else than the success of an enable. -/
lemma sat_ret {x : Errno} (h : x ≠ .success ∨ ∀ p a level, c ≠ .enablePort p a level) :
    (readingProtocol m).Sat (portSystem m) .message c
      ((readingProtocol m).Returned .message c) (.ret x) tr s := by
  intro tr' s' _ hinv _
  refine outer_step (fun _ => rfl) (fun _ => rfl) (fun _ => rfl) (fun h => absurd rfl h) ?_ hinv
  cases c with
  | enablePort p a level =>
      cases x with
      | success => exact h.elim (absurd rfl) fun h => absurd rfl (h p a level)
      | _ => trivial
  | _ => trivial

/-- An enable that has been decided returns `SUCCESS`. -/
lemma sat_ret_chosen {level : UInt8} (hc : c = .enablePort p a level)
    (h : Chosen p level tr s) :
    (readingProtocol m).Sat (portSystem m) .message c
      ((readingProtocol m).Returned .message c) (.ret .success) tr s := by
  subst hc
  intro tr' s' hrely hinv _
  refine outer_step (fun _ => rfl) (fun _ => rfl) (fun _ => rfl) (fun h => absurd rfl h) ?_ hinv
  have h := h.of_keeps hrely.decided
  have hno := (hinv.port p).decided h.decided
  rcases (hinv.port p).cache h.valid with hpending | ⟨t, hlast, ht⟩
  · exact absurd (hno.symm.trans hpending) (by decide)
  · exact ⟨t, hlast, (Nat.sub_le_of_le_add h.level_le).trans ht⟩

lemma sat_checkEnabled {d : DrmObject} {level : UInt8} (hd : d ∈ m.drmObjects)
    (hc : c = .enablePort d.portId a level) (hund : Undecided .message tr) :
    (readingProtocol m).Sat (portSystem m) .message c
      ((readingProtocol m).Returned .message c) (checkEnabled d a) tr s := by
  have hreads : c.reads = true := by
    subst hc
    rfl
  have hbusy {tr : PortTrace} {s : PortState} (hlock : Locked m .message d.portId tr s) :
      (readingProtocol m).Sat (portSystem m) .message c
        ((readingProtocol m).Returned .message c)
        (cpTypeAtomicEnd d.portId >>= fun _ => Prog.ret Errno.ebusy) tr s :=
    sat_end hlock fun tr s _ => sat_ret (.inl (by decide))
  rw [checkEnabled]
  refine sat_begin hund fun tr s hund hlock => ?_
  refine sat_getProtectionInfo hd hreads (.inl rfl) hund hlock (fun tr s _ => hbusy)
    fun x tr s hund hfresh => ?_
  refine Protocol.Sat.ite (fun hv => ?_) fun hv => ?_
  · refine hbusy (hfresh.locked ?_)
    subst hc
    exact decide_eq_false hv
  · refine sat_setCpType hc hfresh (not_not.1 hv) fun tr s hlock hchosen => ?_
    refine sat_quiet_bind (Prog.uses_op.2 (quiet_of_not_onProtection rfl)) fun _ tr s hrely => ?_
    refine sat_end (hlock.of_rely hrely) fun tr s hkeeps => ?_
    exact sat_ret_chosen hc ((hchosen.of_keeps hrely.decided).of_keeps hkeeps)

lemma uses_setPortProperty_quiet {drmId propId value numRetry : ℕ} :
    (m.setPortProperty drmId propId 1 value numRetry).Uses (Quiet m c) :=
  uses_setPortProperty (fun _ => quiet_of_not_onProtection rfl) (quiet_of_not_onProtection rfl)
    (fun _ => quiet_of_not_onProtection rfl) (quiet_of_not_onProtection rfl)

lemma sat_enablePort {level : UInt8} (hc : c = .enablePort p a level)
    (hund : Undecided .message tr) :
    (readingProtocol m).Sat (portSystem m) .message c
      ((readingProtocol m).Returned .message c) (m.enablePort p a level) tr s := by
  have hret {tr : PortTrace} {s : PortState} {x : Errno} (hx : x ≠ .success) :
      (readingProtocol m).Sat (portSystem m) .message c
        ((readingProtocol m).Returned .message c) (.ret x) tr s := sat_ret (.inl hx)
  rw [PortManager.enablePort]
  split
  · exact hret (by decide)
  · rename_i d hd
    obtain rfl := m.portId_of_getDrmObjectByPortId hd
    refine sat_quiet_bind (Prog.uses_op.2 (quiet_of_aside rfl)) fun connection tr s hrely => ?_
    have hund := hund.of_keeps hrely.decided
    refine Protocol.Sat.ite (fun _ => hret (by decide)) fun _ => ?_
    refine Protocol.Sat.ite (fun _ => hret (by decide)) fun _ => ?_
    refine sat_getCpType hc hund fun currCpType tr s htakes hnot => ?_
    refine Protocol.Sat.ite (fun hcurr => ?_) fun hcurr => ?_
    -- the port is already enabled
    · have hchosen := htakes (takesCached_iff.2 hcurr)
      refine sat_quiet_bind (Prog.uses_op.2 (quiet_of_not_onProtection rfl))
        fun _ tr s hrely => ?_
      exact sat_ret_chosen hc (hchosen.of_keeps hrely.decided)
    · have hund := hnot (decide_eq_false hcurr)
      have hset : (m.setContentType d level).Uses (Quiet m c) :=
        Prog.Uses.ite (fun _ => uses_setPortProperty_quiet) fun _ => trivial
      refine sat_quiet_bind hset fun ret tr s hrely => ?_
      have hund := hund.of_keeps hrely.decided
      refine Protocol.Sat.ite (fun _ => hret (by decide)) fun _ => ?_
      refine sat_quiet_bind uses_setPortProperty_quiet fun ret tr s hrely => ?_
      have hund := hund.of_keeps hrely.decided
      refine Protocol.Sat.ite (fun _ => hret (by decide)) fun _ => ?_
      refine sat_quiet_bind (Prog.uses_op.2 (quiet_of_aside rfl)) fun _ tr s hrely => ?_
      exact sat_checkEnabled (m.mem_of_getDrmObjectByPortId hd) hc
        (hund.of_keeps hrely.decided)

/-- The calls that disable a port. -/
lemma sat_disablePort (hc : c.reads = true) (hcaches : ∀ v, c.caches v = decide (v = cpOff))
    (hnotEnable : ∀ p a level, c ≠ .enablePort p a level) (hund : Undecided .message tr) :
    (readingProtocol m).Sat (portSystem m) .message c (fun _ tr' _ => Undecided .message tr')
      (m.disablePort p a) tr s := by
  have hret {tr : PortTrace} {s : PortState} {x : Errno} (hund : Undecided .message tr) :
      (readingProtocol m).Sat (portSystem m) .message c
        (fun _ tr' _ => Undecided .message tr') (.ret x) tr s :=
    fun tr' s' hrely _ => hund.of_keeps hrely.decided
  rw [PortManager.disablePort]
  split
  · exact hret hund
  · rename_i d hd
    refine sat_quiet_bind (Prog.uses_op.2 (quiet_of_aside rfl)) fun connection tr s hrely => ?_
    have hund := hund.of_keeps hrely.decided
    refine Protocol.Sat.ite (fun _ => hret hund) fun _ => ?_
    refine sat_quiet_bind (Prog.uses_op.2 (quiet_of_not_onProtection rfl))
      fun _ tr s hrely => ?_
    have hund := hund.of_keeps hrely.decided
    refine sat_quiet_bind (Prog.uses_op.2 (quiet_of_not_onProtection rfl))
      fun count tr s hrely => ?_
    have hund := hund.of_keeps hrely.decided
    refine Protocol.Sat.ite (fun _ => hret hund) fun _ => ?_
    refine sat_quiet_bind uses_setPortProperty_quiet fun ret tr s hrely => ?_
    have hund := hund.of_keeps hrely.decided
    refine Protocol.Sat.ite (fun _ => hret hund) fun _ => ?_
    exact sat_checkDisabled (m.mem_of_getDrmObjectByPortId hd) hc hcaches hnotEnable hund

lemma sat_removeLoop (hc : c = .removeAppFromPorts a) (drmObjects : List DrmObject)
    (hund : Undecided .message tr) :
    (readingProtocol m).Sat (portSystem m) .message c (fun _ tr' _ => Undecided .message tr')
      (m.removeLoop a drmObjects) tr s := by
  subst hc
  induction drmObjects generalizing tr s with
  | nil => exact fun tr' s' hrely _ => hund.of_keeps hrely.decided
  | cons d drmObjects ih =>
      refine (sat_disablePort rfl (fun _ => rfl) (by simp) hund).bind fun _ tr s _ hund => ?_
      exact ih hund

/-! ### Runs -/

lemma sat_message (hmay : portMay .message c = true) :
    (readingProtocol m).Sat (portSystem m) .message c
      ((readingProtocol m).Returned .message c) (m.callBody c) (.call .message c :: tr) s := by
  -- a new call has decided nothing
  have hund : Undecided .message (.call .message c :: tr) := fun _ _ => rfl
  have hend (hnotEnable : ∀ p a level, c ≠ .enablePort p a level) (x : Errno) (tr : PortTrace)
      (s : PortState) (hinv : ReadingInv m tr s) :
      (readingProtocol m).Returned .message c x tr s :=
    (sat_ret (.inr hnotEnable) : (readingProtocol m).Sat (portSystem m) .message c
      ((readingProtocol m).Returned .message c) (.ret x) tr s) tr s
        ((readingProtocol m).refl _ _ _) hinv
  cases c with
  | enumeratePorts =>
      refine (sat_quiet (uses_enumeratePorts fun o => quiet_of_aside)).mono ?_
      exact fun x tr s hinv _ => hend (by simp) x tr s hinv
  | enablePort p a level => exact sat_enablePort rfl hund
  | disablePort p a =>
      refine (sat_disablePort rfl (fun _ => rfl) (by simp) hund).mono ?_
      exact fun x tr s hinv _ => hend (by simp) x tr s hinv
  | removeAppFromPorts a =>
      refine (sat_removeLoop rfl m.drmObjects hund).mono ?_
      exact fun x tr s hinv _ => hend (by simp) x tr s hinv
  | getStatus p =>
      refine (sat_quiet (uses_getStatus (fun o ho _ => quiet_of_aside ho) fun _ => ?_)).mono ?_
      · exact quiet_getStatus
      · exact fun x tr s hinv _ => hend (by simp) x tr s hinv
  | processHotPlug => exact absurd hmay (by decide)
  | checkIntegrity => exact absurd hmay (by decide)

end Programs

lemma keeps_outer_other (hi : i ≠ .message) (hl : l = .call i c ∨ ∃ x, l = .ret i c x)
    (hc : ∀ p a level, c ≠ .enablePort p a level) (hinv : ReadingInv m tr s) :
    (readingProtocol m).Keeps i tr s l s := by
  rcases hl with rfl | ⟨x, rfl⟩
  · refine outer_step (fun _ => rfl) (fun _ => rfl) (fun _ => rfl) (fun _ => ?_) trivial hinv
    cases i <;> first | rfl | exact absurd rfl hi
  · refine outer_step (fun _ => rfl) (fun _ => rfl) (fun _ => rfl) (fun _ => ?_) ?_ hinv
    · cases i <;> first | rfl | exact absurd rfl hi
    · cases c with
      | enablePort p a level => exact absurd rfl (hc p a level)
      | _ => trivial

lemma inv_of_run {cfg : PortConfig}
    (hrun : (portSystem m).Run (ReadingCondition m) initState tr cfg) :
    ReadingInv m tr cfg.shared := by
  refine (Protocol.sound (P := readingProtocol m) ?_ ?_ hrun).1
  · have hinvalid (p : ℕ) : initState.cachedType p = cpTypeInvalid :=
      (by decide : u8 uint32Max = cpTypeInvalid)
    exact ⟨fun p => ⟨fun h => absurd (hinvalid p) h, fun h => absurd h Bool.false_ne_true,
      fun h => absurd h Bool.false_ne_true⟩, trivial⟩
  · intro i c tr s hmay _ hinv _
    cases i with
    | message =>
        refine ⟨?_, sat_message hmay⟩
        exact outer_step (fun _ => rfl) (fun _ => rfl) (fun _ => rfl) (fun h => absurd rfl h)
          trivial hinv
    | integrity =>
        obtain rfl := eq_checkIntegrity hmay
        refine ⟨keeps_outer_other (by decide) (.inl rfl) (by simp) hinv, ?_⟩
        refine Protocol.Sat.bind (p := forEach m.drmObjects integrityRound)
          (Protocol.sat_forEach fun d hd tr s => sat_integrityRound hd (by decide))
          fun _ tr s _ _ => ?_
        intro tr' s' _ hinv' _
        exact keeps_outer_other (by decide) (.inr ⟨_, rfl⟩) (by simp) hinv'
    | uevent =>
        obtain rfl := eq_processHotPlug hmay
        refine ⟨keeps_outer_other (by decide) (.inl rfl) (by simp) hinv, ?_⟩
        refine (sat_quiet (uses_processHotPlug fun o => quiet_of_aside)).mono ?_
        exact fun x tr s hinv _ _ =>
          keeps_outer_other (by decide) (.inr ⟨_, rfl⟩) (by simp) hinv

end Reading

/-! ### The condition is decidable -/

instance (cpType : ℕ) : (last : Option (ℕ × ℕ)) → Decidable (Backs cpType last)
  | none => isFalse fun ⟨_, h, _⟩ => nomatch h
  | some (v, t) => decidable_of_iff (v = cpEnabled ∧ cpType ≤ t) <| by
      constructor
      · rintro ⟨rfl, h⟩
        exact ⟨t, rfl, h⟩
      · rintro ⟨t', h, hle⟩
        obtain ⟨rfl, rfl⟩ := Prod.mk.inj (Option.some.inj h)
        exact ⟨rfl, hle⟩

instance (c : PortCall) (cached v t : ℕ) (decided : Bool) :
    Decidable (c.Accepts cached v t decided) :=
  match c with
  | .enablePort _ _ level =>
    inferInstanceAs (Decidable (if v = cpEnabled then level.toNat ≤ t + 1 else _ = _))
  | .disablePort _ _ | .removeAppFromPorts _ => inferInstanceAs (Decidable (_ ∨ _ ∨ _ ∧ _))
  | .checkIntegrity => inferInstanceAs (Decidable (if v = cpEnabled then cached ≤ t else _ = _))
  | .enumeratePorts | .getStatus _ | .processHotPlug => inferInstanceAs (Decidable True)

/-- The first part of the condition, for all the ports of the daemon. -/
def PortManager.readingCheck (m : PortManager) (tr : PortTrace) (s : PortState) :
    PortLabel → Bool
  | .op i c e => m.drmObjects.all fun d => (m.reading d.portId (.op i c e)).all fun x =>
      c.Accepts (s.cachedType d.portId) x.1 x.2 (decided d.portId tr)
  | _ => true

/-- The second part. -/
def PortManager.decisionCheck (m : PortManager) (tr : PortTrace) : PortLabel → Bool
  | .op .message (.enablePort p _ level) ⟨.getCpType _, r⟩ =>
    !(takesCached level r && m.pending p tr)
  | _ => true

lemma PortManager.mem_of_reading {x : ℕ × ℕ} (h : m.reading p l = some x) :
    ∃ d ∈ m.drmObjects, d.portId = p := by
  rw [reading.eq_def] at h
  split at h
  · split at h
    · rename_i d hd
      exact ⟨d, m.mem_of_getDrmObjectByPortId hd, m.portId_of_getDrmObjectByPortId hd⟩
    · exact absurd h (by simp)
  · exact absurd h (by simp)

def PortManager.conditionCheck (m : PortManager) (tr : PortTrace) (s : PortState)
    (l : PortLabel) : Bool :=
  m.readingCheck tr s l && m.decisionCheck tr l

lemma readingCondition_of_check (tr : PortTrace) (s : PortState) (l : PortLabel)
    (h : m.conditionCheck tr s l) : ReadingCondition m tr s l := by
  obtain ⟨hreading, hdecision⟩ := Bool.and_eq_true_iff.1 h
  constructor
  · rintro i c e rfl p v t hread
    obtain ⟨d, hd, rfl⟩ := m.mem_of_reading hread
    have hd := List.all_eq_true.1 hreading d hd
    rw [hread] at hd
    exact of_decide_eq_true hd
  · rintro p a level r rfl htakes
    simp only [PortManager.decisionCheck, htakes, Bool.true_and, Bool.not_eq_true'] at hdecision
    exact hdecision

/-! ### The success of an enable -/

/-- In every run whose steps meet the condition, `EnablePort` returns `SUCCESS` only when
the last reading of the port said that it is enabled, at a type that suffices. -/
theorem success_backed {cfg : PortConfig}
    (hrun : (portSystem m).Run (ReadingCondition m) initState tr cfg) :
    ∀ l tr', l :: tr' <:+ tr → SuccessBacked m l tr' :=
  fun _ _ hsuffix => (Reading.inv_of_run hrun).backed.of_suffix hsuffix

/-- What the port 0 reads back as. -/
def readsBack (cpValue cpType : ℕ) : (o : PortOp) → PortState → o.Ans :=
  portAnswer (some drmModeConnected) (some [(101, cpValue), (102, cpType)])

/-- Two apps enable the port, one after the other, and the second takes the cached type. -/
def enableTwice : List PortAction :=
  completeCall .message (.enablePort 0 8 hdcpLevel2) 14 (readsBack cpEnabled cpType1) ++
    completeCall .message (.enablePort 0 7 hdcpLevel1) 3 (readsBack cpEnabled cpType1)

theorem success_backed_enableTwice :
    ∃ x, (onePort false).scheduled (onePort false).conditionCheck enableTwice = some x ∧
      ∀ l tr', l :: tr' <:+ x.1 → SuccessBacked (onePort false) l tr' := by
  obtain ⟨x, hx, hrun, -⟩ := exists_run_of_scheduled (onePort false)
    (onePort false).conditionCheck readingCondition_of_check enableTwice (fun _ => true)
    (by decide)
  exact ⟨x, hx, success_backed hrun⟩

/-- The request of level 2 is read back at type 0. -/
def enableAtLowerType : List PortAction :=
  completeCall .message (.enablePort 0 7 hdcpLevel2) 14 (readsBack cpEnabled cpType0)

/-- A failed upgrade reads that the port is not enabled any more, and leaves the cache. -/
def enableAfterFailedUpgrade : List PortAction :=
  completeCall .message (.enablePort 0 8 hdcpLevel1) 14 (readsBack cpEnabled cpType0) ++
    completeCall .message (.enablePort 0 7 hdcpLevel2) 12 (readsBack cpDesired cpType1) ++
    completeCall .message (.enablePort 0 9 hdcpLevel1) 3 (readsBack cpDesired cpType1)

/-- The last step is the success of an enable that the last reading does not support. -/
def endsUnbacked (m : PortManager) : PortTrace → Bool
  | .ret _ (.enablePort p _ level) .success :: tr =>
    !decide (Backs (level.toNat - 1) (m.lastReading p tr))
  | _ => false

lemma not_backed_of_endsUnbacked {tr : PortTrace} (h : endsUnbacked m tr) :
    ¬∀ l tr', l :: tr' <:+ tr → SuccessBacked m l tr' := by
  rw [endsUnbacked.eq_def] at h
  split at h
  · intro hall
    have hback := hall _ _ List.suffix_rfl
    simp only [Bool.not_eq_true', decide_eq_false_iff_not] at h
    exact h hback
  · exact absurd h (by decide)

/-- The schedule is one of a run in which `EnablePort` succeeds unsupported. -/
def LeadsToUnbacked (as : List PortAction) : Prop :=
  ∃ x, (onePort false).scheduled (fun _ _ _ => true) as = some x ∧
    (portSystem (onePort false)).AnyRun initState x.1 x.2 ∧
    ¬∀ l tr', l :: tr' <:+ x.1 → SuccessBacked (onePort false) l tr'

lemma leadsToUnbacked_of_ends {as : List PortAction}
    (h : ((onePort false).scheduled (fun _ _ _ => true) as).any
      (fun x => endsUnbacked (onePort false) x.1) = true) : LeadsToUnbacked as := by
  obtain ⟨x, hx, hrun, htest⟩ := exists_run_of_scheduled (onePort false) (fun _ _ _ => true)
    (C := fun _ _ _ => True) (fun _ _ _ _ => trivial) as _ h
  exact ⟨x, hx, hrun, not_backed_of_endsUnbacked htest⟩

theorem success_not_backed :
    LeadsToUnbacked enableAtLowerType ∧ LeadsToUnbacked enableAfterFailedUpgrade :=
  ⟨leadsToUnbacked_of_ends (by decide), leadsToUnbacked_of_ends (by decide)⟩

end Hdcp.Port
