/-
Sessions are freed once, and not while they are in use.

A session is freed by `DestroySession`, by the last `IteratorCriticalSectionExit`, by
`DestroyCallback` and, when it could not be initialised, by `CreateSession`.  Three
mechanisms have to agree: the iterator count, the queue of pending destructions and the
references of the session.  In the runs considered here a session is queued once, the
teardown of the callback connection finds nobody inside, no wait of a destructor ends
while there are references, and handles are unique.

While the iterator mutex is free, the list and the queue are `Settled`; the thread that
holds the mutex may break this and has to restore it.
-/
import Mathlib.Data.List.Nodup
import Hdcp.Sdk.Steps

namespace Hdcp.Sdk

open Library
open Library.Prog (op forEach)

variable {ι : Type} [DecidableEq ι]

/-! ### The history -/

/-- The threads that hold a reference to the session, once for each reference. -/
def holders (x : ℕ) : SdkTrace ι → List ι
  | .op i _ ⟨.increaseReference y, _⟩ :: tr => if y = x then i :: holders x tr else holders x tr
  | .op i _ ⟨.decreaseReference y, _⟩ :: tr =>
    if y = x then (holders x tr).erase i else holders x tr
  | _ :: tr => holders x tr
  | [] => []

/-- The memory of the session has been released. -/
def isFreed (x : ℕ) : SdkTrace ι → Bool
  | .op _ _ ⟨.free y, _⟩ :: tr => decide (y = x) || isFreed x tr
  | _ :: tr => isFreed x tr
  | [] => false

/-- The session is in the list. -/
def isListed (x : ℕ) : SdkTrace ι → Bool
  | .op _ _ ⟨.pushFront y _, _⟩ :: tr => decide (y = x) || isListed x tr
  | .op _ _ ⟨.remove y, _⟩ :: tr => !decide (y = x) && isListed x tr
  | _ :: tr => isListed x tr
  | [] => false

/-- The thread that has created the session and not yet entered it into the list. -/
def creator (x : ℕ) : SdkTrace ι → Option ι
  | .op i _ ⟨.newSession _, r⟩ :: tr => if isAddress r then some i else creator x tr
  | .op _ _ ⟨.pushFront y _, _⟩ :: tr => if y = x then none else creator x tr
  | _ :: tr => creator x tr
  | [] => none
where
  isAddress (r : Option ℕ) : Bool := r = some x

/-- A session is freed for the first time, nobody holds a reference to it, and nobody is
inside the iterator critical section if it is still in the list. -/
structure Unused (x : ℕ) (tr : SdkTrace ι) : Prop where
  first : isFreed x tr = false
  unheld : holders x tr = []
  alone : isListed x tr = true → insiders tr = []

def FreesUnused : SdkLabel ι → SdkTrace ι → Prop
  | .op _ _ ⟨.free x, _⟩, tr => Unused x tr
  | _, _ => True

/-- The condition on the steps of a run. -/
def reclaimCondition : SdkTrace ι → SdkState ι → SdkLabel ι → Prop
  | _, s, .op _ _ ⟨.pushPending x, _⟩ => x ∉ s.pendingDestroyQueue
  | _, s, .op _ .disconnect ⟨.getSessionList, _⟩ => s.iteratorReference = 0 ∨ s.sessionList = []
  | _, s, .op _ _ ⟨.waitEnd x, _⟩ => s.activeReferences x = 0
  | _, s, .op _ _ ⟨.pushFront _ handle, _⟩ => ∀ x ∈ s.sessionList, (s.sessions x).handle ≠ handle
  | _, s, .op _ _ ⟨.increaseIterator, _⟩ => s.iteratorReference + 1 < 2 ^ 32
  | _, s, .op _ _ ⟨.increaseReference x, _⟩ => s.activeReferences x + 1 < 2 ^ 32
  | _, _, _ => True

namespace Reclaim

/-! ### The protocol -/

/-- The sessions of the list are live, and those of the queue are in the list. -/
structure Orderly (tr : SdkTrace ι) (s : SdkState ι) : Prop where
  queued : ∀ x ∈ s.pendingDestroyQueue, x ∈ s.sessionList
  live : ∀ x ∈ s.sessionList, isFreed x tr = false

/-- What holds of the list and the queue while nobody holds the iterator mutex. -/
structure Settled (tr : SdkTrace ι) (s : SdkState ι) : Prop extends Orderly tr s where
  awaited : s.pendingDestroyQueue ≠ [] → insiders tr ≠ []

structure Inv (tr : SdkTrace ι) (s : SdkState ι) : Prop where
  reference : s.iteratorReference = (insiders tr).length
  bound : s.iteratorReference < 2 ^ 32
  active : ∀ x, s.activeReferences x = (holders x tr).length
  activeBound : ∀ x, s.activeReferences x < 2 ^ 32
  allocated : ∀ x ∈ s.sessionList, x < s.allocated
  unique : ∀ x ∈ s.sessionList, ∀ y ∈ s.sessionList,
    (s.sessions x).handle = (s.sessions y).handle → x = y
  listed : ∀ x, isListed x tr = true ↔ x ∈ s.sessionList
  held : ∀ x, holders x tr ≠ [] → x ∈ s.sessionList
  created : ∀ x i, creator x tr = some i → x < s.allocated ∧ x ∉ s.sessionList
  freed : ∀ x, isFreed x tr = true → x < s.allocated
  nodup : s.pendingDestroyQueue.Nodup
  nodup' : s.sessionList.Nodup
  settled : s.iteratorMutex = none → Settled tr s
  unused : EveryStep FreesUnused tr

/-- What the others leave alone while a thread holds the iterator mutex. -/
structure Locked (i : ι) (tr : SdkTrace ι) (s : SdkState ι) (tr' : SdkTrace ι)
    (s' : SdkState ι) : Prop where
  mutex : s'.iteratorMutex = some i
  list : s'.sessionList = s.sessionList
  queue : s'.pendingDestroyQueue = s.pendingDestroyQueue
  insiders : insiders tr' = insiders tr
  live : ∀ x ∈ s.sessionList, isFreed x tr' = isFreed x tr
  unheld : Sdk.insiders tr = [] → ∀ x, holders x tr' = holders x tr

/-- What the others leave alone. -/
structure Others (i : ι) (tr : SdkTrace ι) (s : SdkState ι) (tr' : SdkTrace ι)
    (s' : SdkState ι) : Prop where
  count : (insiders tr').count i = (insiders tr).count i
  held : ∀ x, (holders x tr').count i = (holders x tr).count i
  allocated : s.allocated ≤ s'.allocated
  sessions : ∀ x < s.allocated, s'.sessions x = s.sessions x
  created : ∀ x, creator x tr = some i → creator x tr' = some i ∧ isFreed x tr' = isFreed x tr
  listed : i ∈ insiders tr → ∀ x ∈ s.sessionList, x ∈ s'.sessionList
  locked : s.iteratorMutex = some i → Locked i tr s tr' s'

variable {t i j : ι} {c : SdkCall} {o : SdkOp} {r : o.Ans} {tr tr' tr'' : SdkTrace ι}
  {s s' s'' : SdkState ι} {l : SdkLabel ι} {x y h n : ℕ}

lemma Locked.trans (h : Locked i tr s tr' s') (h' : Locked i tr' s' tr'' s'') :
    Locked i tr s tr'' s'' where
  mutex := h'.mutex
  list := h'.list.trans h.list
  queue := h'.queue.trans h.queue
  insiders := h'.insiders.trans h.insiders
  live x hx := (h'.live x (by rw [h.list]; exact hx)).trans (h.live x hx)
  unheld halone x := (h'.unheld (h.insiders.trans halone) x).trans (h.unheld halone x)

lemma Others.refl (i : ι) (tr : SdkTrace ι) (s : SdkState ι) : Others i tr s tr s :=
  ⟨rfl, fun _ => rfl, le_rfl, fun _ _ => rfl, fun _ h => ⟨h, rfl⟩, fun _ _ hx => hx,
    fun h => ⟨h, rfl, rfl, rfl, fun _ _ => rfl, fun _ _ => rfl⟩⟩

lemma Others.mem_insiders (h : Others i tr s tr' s') : i ∈ insiders tr' ↔ i ∈ insiders tr := by
  rw [← List.count_pos_iff, h.count, List.count_pos_iff]

lemma Others.trans (h : Others i tr s tr' s') (h' : Others i tr' s' tr'' s'') :
    Others i tr s tr'' s'' where
  count := h'.count.trans h.count
  held x := (h'.held x).trans (h.held x)
  allocated := h.allocated.trans h'.allocated
  sessions x hx := (h'.sessions x (hx.trans_le h.allocated)).trans (h.sessions x hx)
  created x hx :=
    ⟨(h'.created x (h.created x hx).1).1,
      (h'.created x (h.created x hx).1).2.trans (h.created x hx).2⟩
  listed hi x hx := h'.listed (h.mem_insiders.2 hi) x (h.listed hi x hx)
  locked hmutex := (h.locked hmutex).trans (h'.locked (h.locked hmutex).mutex)

def protocol : Protocol sdkSig ι SdkCall Unit (SdkState ι) where
  admits := reclaimCondition
  inv := Inv
  rely := Others
  refl := Others.refl
  trans := Others.trans

/-! ### The steps -/

/-- The interactions that change what the invariant speaks of. -/
def onLife : SdkOp → Bool
  | .iteratorBegin | .iteratorEnd | .increaseIterator | .decreaseIterator | .pushFront _ _
  | .remove _ | .pushPending _ | .clearPending | .newSession _ | .increaseReference _
  | .decreaseReference _ | .free _ => true
  | _ => false

/-- The history and the state tell the same about the sessions. -/
structure Same (tr : SdkTrace ι) (s : SdkState ι) (tr' : SdkTrace ι) (s' : SdkState ι) : Prop
    extends SameList s s' where
  insiders : insiders tr' = insiders tr
  holders : ∀ x, holders x tr' = holders x tr
  freed : ∀ x, isFreed x tr' = isFreed x tr
  listed : ∀ x, isListed x tr' = isListed x tr
  creator : ∀ x, creator x tr' = creator x tr
  active : s'.activeReferences = s.activeReferences

omit [DecidableEq ι] in
lemma active_acquire (hstep : s.acquire i x = some s') :
    s'.activeReferences = s.activeReferences := by
  obtain ⟨-, rfl⟩ := SdkState.acquire_eq_some.1 hstep
  rfl

omit [DecidableEq ι] in
lemma active_wakeUp {spurious : Bool} (hstep : s.wakeUp i x spurious = some s') :
    s'.activeReferences = s.activeReferences := by
  rw [SdkState.wakeUp] at hstep
  split at hstep
  · obtain ⟨-, rfl⟩ := SdkState.acquire_eq_some.1 hstep
    rfl
  · split at hstep
    · obtain ⟨-, rfl⟩ := SdkState.acquire_eq_some.1 hstep
      rfl
    · exact absurd hstep (by simp)

omit [DecidableEq ι] in
lemma sdkStep_quiet (ho : onLife o = false) (hstep : sdkStep i o r s = some s') :
    SameList s s' ∧ s'.activeReferences = s.activeReferences := by
  cases o
  case findToDestroy =>
    rw [(SdkState.answer_eq_some.1 hstep).2]
    exact ⟨.refl s, rfl⟩
  case destroyed | invoke =>
    obtain rfl := Option.some.inj hstep
    exact ⟨.refl s, rfl⟩
  case iteratorBegin | iteratorEnd | increaseIterator | decreaseIterator | pushFront | remove |
    pushPending | clearPending | newSession | increaseReference | decreaseReference | free =>
    exact absurd ho (by simp [onLife])
  all_goals refine ⟨sdkStep_list rfl hstep, ?_⟩
  case referenceBegin x => exact active_acquire hstep
  case waitEnd x => exact active_wakeUp hstep
  case signal x =>
    obtain rfl := Option.some.inj hstep
    rw [SdkState.signal]
    split <;> rfl
  case getUniqueHandle | getIteratorReference | findSession | getSessionList | isPending |
    getPendingQueue | getActiveReferences | getSession =>
    rw [(SdkState.answer_eq_some.1 hstep).2]
  all_goals
    obtain rfl := Option.some.inj hstep
    rfl

lemma same_of_quiet (ho : onLife o = false) (hstep : sdkStep i o r s = some s') :
    Same tr s (.op i c ⟨o, r⟩ :: tr) s' := by
  obtain ⟨hlist, hactive⟩ := sdkStep_quiet ho hstep
  cases o
  case iteratorBegin | iteratorEnd | increaseIterator | decreaseIterator | pushFront | remove |
    pushPending | clearPending | newSession | increaseReference | decreaseReference | free =>
    exact absurd ho (by simp [onLife])
  all_goals exact ⟨hlist, rfl, fun _ => rfl, fun _ => rfl, fun _ => rfl, fun _ => rfl, hactive⟩

lemma Same.others (h : Same tr s tr' s') (i : ι) : Others i tr s tr' s' where
  count := by rw [h.insiders]
  held x := by rw [h.holders]
  allocated := h.allocated.ge
  sessions x _ := congrFun h.sessions x
  created x hx := ⟨(h.creator x).trans hx, h.freed x⟩
  listed _ x hx := by rwa [h.list]
  locked hmutex := ⟨h.mutex.trans hmutex, h.list, h.queue, h.insiders, fun x _ => h.freed x,
    fun _ => h.holders⟩

lemma Same.inv (h : Same tr s (l :: tr) s') (hinv : Inv tr s) (hl : FreesUnused l tr) :
    Inv (l :: tr) s' := by
  constructor
  · rw [h.reference, h.insiders]
    exact hinv.reference
  · rw [h.reference]
    exact hinv.bound
  · intro x
    rw [h.active, h.holders]
    exact hinv.active x
  · rw [h.active]
    exact hinv.activeBound
  · rw [h.list, h.allocated]
    exact hinv.allocated
  · rw [h.list, h.sessions]
    exact hinv.unique
  · intro x
    rw [h.listed, h.list]
    exact hinv.listed x
  · intro x
    rw [h.holders, h.list]
    exact hinv.held x
  · intro x i
    rw [h.creator, h.allocated, h.list]
    exact hinv.created x i
  · intro x
    rw [h.freed, h.allocated]
    exact hinv.freed x
  · rw [h.queue]
    exact hinv.nodup
  · rw [h.list]
    exact hinv.nodup'
  · intro hmutex
    rw [h.mutex] at hmutex
    have hsettled := hinv.settled hmutex
    refine ⟨⟨?_, fun x => ?_⟩, ?_⟩
    · rw [h.queue, h.list]
      exact hsettled.queued
    · rw [h.list, h.freed]
      exact hsettled.live x
    · rw [h.queue, h.insiders]
      exact hsettled.awaited
  · exact ⟨hl, hinv.unused⟩

/-- What concerns no session. -/
lemma keeps_quiet (ho : onLife o = false) (hinv : Inv tr s)
    (hstep : sdkStep i o r s = some s') :
    (protocol (ι := ι)).Keeps i tr s (.op i c ⟨o, r⟩) s' ∧
      ∀ j, Others j tr s (.op i c ⟨o, r⟩ :: tr) s' := by
  have hsame : Same tr s (.op i c ⟨o, r⟩ :: tr) s' := same_of_quiet ho hstep
  have hunused : FreesUnused (.op i c ⟨o, r⟩) tr := by
    cases o
    case free => exact absurd ho (by simp [onLife])
    all_goals trivial
  exact ⟨⟨hsame.inv hinv hunused, fun j _ => hsame.others j⟩, hsame.others⟩

/-- Another thread does not hold the iterator mutex. -/
lemma locked_of_ne (hmutex : s.iteratorMutex = some i) (hj : j ≠ i)
    (hmutex' : s.iteratorMutex = some j) : Locked j tr s tr' s' := by
  rw [hmutex] at hmutex'
  exact absurd (Option.some.inj hmutex').symm hj

/-! ### What a thread knows -/

/-- How often the thread is inside, and how many references it holds. -/
structure Known (i : ι) (n : ℕ) (R : ℕ → ℕ) (tr : SdkTrace ι) : Prop where
  count : (insiders tr).count i = n
  held : ∀ x, (holders x tr).count i = R x

/-- The same for a thread that holds the iterator mutex. -/
structure Holds (i : ι) (n : ℕ) (R : ℕ → ℕ) (tr : SdkTrace ι) (s : SdkState ι) : Prop
    extends Known i n R tr where
  mutex : s.iteratorMutex = some i

variable {R : ℕ → ℕ} {α β : Type} {Q : β → SdkTrace ι → SdkState ι → Prop}

lemma Known.of_others (hk : Known i n R tr) (ho : Others i tr s tr' s') : Known i n R tr' where
  count := ho.count.trans hk.count
  held x := (ho.held x).trans (hk.held x)

lemma Holds.of_others (hk : Holds i n R tr s) (ho : Others i tr s tr' s') :
    Holds i n R tr' s' where
  toKnown := hk.toKnown.of_others ho
  mutex := (ho.locked hk.mutex).mutex

lemma Orderly.of_locked (h : Orderly tr s) (hl : Locked i tr s tr' s') : Orderly tr' s' where
  queued := by
    rw [hl.queue, hl.list]
    exact h.queued
  live x hx := by
    rw [hl.list] at hx
    rw [hl.live x hx]
    exact h.live x hx

lemma Settled.of_locked (h : Settled tr s) (hl : Locked i tr s tr' s') : Settled tr' s' where
  toOrderly := h.toOrderly.of_locked hl
  awaited := by
    rw [hl.queue, hl.insiders]
    exact h.awaited

lemma created_of_others {d : Session} (hx : Created x d s) (ho : Others i tr s tr' s') :
    Created x d s' :=
  ⟨hx.1.trans_le ho.allocated, (ho.sessions x hx.1).trans hx.2⟩

/-- A session that the thread has created and not yet entered into the list. -/
structure Fresh (i : ι) (x : ℕ) (d : Session) (tr : SdkTrace ι) (s : SdkState ι) : Prop where
  created : Created x d s
  creator : creator x tr = some i
  live : isFreed x tr = false

lemma Fresh.of_others {d : Session} (hx : Fresh i x d tr s) (ho : Others i tr s tr' s') :
    Fresh i x d tr' s' where
  created := created_of_others hx.created ho
  creator := (ho.created x hx.creator).1
  live := (ho.created x hx.creator).2.trans hx.live

/-- The steps that concern no session. -/
lemma sat_quiet {p : SdkProg α} (hp : p.Uses fun o : SdkOp => onLife o = false) :
    protocol.Sat (sdkSystem t) i c (fun _ tr' s' => Others i tr s tr' s') p tr s := by
  refine Protocol.sat_of_uses (P := protocol) ?_ hp
  intro o r tr' s' s'' ho _ hinv hstep _
  obtain ⟨hkeeps, hothers⟩ := keeps_quiet (c := c) ho hinv hstep
  exact ⟨hkeeps, hothers i⟩

lemma sat_quiet_bind {p : SdkProg α} {f : α → SdkProg β}
    (hp : p.Uses fun o : SdkOp => onLife o = false)
    (hf : ∀ a tr' s', Others i tr s tr' s' → protocol.Sat (sdkSystem t) i c Q (f a) tr' s') :
    protocol.Sat (sdkSystem t) i c Q (p >>= f) tr s :=
  (sat_quiet hp).bind fun a tr' s' _ ho => hf a tr' s' ho

/-! ### The iterator critical section -/

/-- `iteratorBegin`. -/
lemma sat_iteratorBegin {f : Unit → SdkProg β} (hk : Known i n R tr)
    (hf : ∀ tr' s', Holds i n R tr' s' → Settled tr' s' →
      (∀ x d, Fresh i x d tr s → Fresh i x d tr' s') →
      protocol.Sat (sdkSystem t) i c Q (f ()) tr' s') :
    protocol.Sat (sdkSystem t) i c Q (iteratorBegin >>= f) tr s := by
  intro tr' s' hrely hinv r s'' hstep _
  have hk := hk.of_others hrely
  obtain ⟨hfree, rfl⟩ := (sdkStep_iteratorBegin r).1 hstep
  refine ⟨⟨?_, fun j _ => ?_⟩, hf _ _ ⟨⟨hk.count, hk.held⟩, rfl⟩ ?_ fun x d hx => ?_⟩
  · exact { hinv with
      settled := fun h => absurd h (by simp)
      unused := ⟨trivial, hinv.unused⟩ }
  · refine ⟨rfl, fun _ => rfl, le_rfl, fun _ _ => rfl, fun _ hx => ⟨hx, rfl⟩, fun _ _ hx => hx,
      fun hmutex => ?_⟩
    rw [hfree] at hmutex
    exact absurd hmutex (by simp)
  · have hsettled := hinv.settled hfree
    exact ⟨⟨hsettled.queued, hsettled.live⟩, hsettled.awaited⟩
  · have hx' : Fresh i x d tr' s' := hx.of_others hrely
    exact ⟨hx'.created, hx'.creator, hx'.live⟩

/-- `iteratorEnd`, when everything is settled. -/
lemma sat_iteratorEnd (hk : Holds i n R tr s) (hs : Settled tr s) :
    protocol.Sat (sdkSystem t) i c (fun _ tr' _ => Known i n R tr') iteratorEnd tr s := by
  intro tr' s' hrely hinv r s'' hstep _
  have hs := hs.of_locked (hrely.locked hk.mutex)
  have hk := hk.of_others hrely
  obtain rfl := Option.some.inj hstep
  refine ⟨⟨?_, fun j hj => ?_⟩, fun tr'' s'' hrely' _ => ?_⟩
  · exact { hinv with
      settled := fun _ => ⟨⟨hs.queued, hs.live⟩, hs.awaited⟩
      unused := ⟨trivial, hinv.unused⟩ }
  · exact ⟨rfl, fun _ => rfl, le_rfl, fun _ _ => rfl, fun _ hx => ⟨hx, rfl⟩, fun _ _ hx => hx,
      locked_of_ne hk.mutex hj⟩
  · have hk' : Known i n R (.op i c ⟨.iteratorEnd, r⟩ :: tr') := ⟨hk.count, hk.held⟩
    exact hk'.of_others hrely'

/-- `increaseIterator`. -/
lemma sat_increaseIterator {f : Unit → SdkProg β} (hk : Holds i n R tr s) (hs : Settled tr s)
    (hf : ∀ tr' s', Holds i (n + 1) R tr' s' → Settled tr' s' →
      protocol.Sat (sdkSystem t) i c Q (f ()) tr' s') :
    protocol.Sat (sdkSystem t) i c Q (increaseIterator >>= f) tr s := by
  intro tr' s' hrely hinv r s'' hstep hadm
  have hs := hs.of_locked (hrely.locked hk.mutex)
  have hk := hk.of_others hrely
  obtain rfl := Option.some.inj hstep
  have hu32 : u32 (s'.iteratorReference + 1) = (insiders tr').length + 1 := by
    rw [← hinv.reference]
    exact u32_of_lt hadm
  refine ⟨⟨?_, fun j hj => ?_⟩, hf _ _ ⟨⟨?_, hk.held⟩, hk.mutex⟩ ⟨⟨hs.queued, hs.live⟩, ?_⟩⟩
  · exact { hinv with
      reference := hu32
      bound := u32_lt _
      settled := fun h => absurd (hk.mutex.symm.trans h) (by simp)
      unused := ⟨trivial, hinv.unused⟩ }
  · refine ⟨?_, fun _ => rfl, le_rfl, fun _ _ => rfl, fun _ hx => ⟨hx, rfl⟩, fun _ _ hx => hx,
      locked_of_ne hk.mutex hj⟩
    exact List.count_cons_of_ne (Ne.symm hj)
  · show (i :: insiders tr').count i = n + 1
    rw [List.count_cons_self, hk.count]
  · exact fun _ => List.cons_ne_nil _ _

/-- `decreaseIterator`: the count is that of the threads that are left inside. -/
lemma sat_decreaseIterator {f : ℕ → SdkProg β} (hk : Holds i (n + 1) R tr s)
    (ho : Orderly tr s)
    (hf : ∀ r tr' s', Holds i n R tr' s' → Orderly tr' s' → (r = 0 ↔ insiders tr' = []) →
      protocol.Sat (sdkSystem t) i c Q (f r) tr' s') :
    protocol.Sat (sdkSystem t) i c Q (decreaseIterator >>= f) tr s := by
  intro tr' s' hrely hinv r s'' hstep _
  have ho := ho.of_locked (hrely.locked hk.mutex)
  have hk := hk.of_others hrely
  have hmem : i ∈ insiders tr' := List.count_pos_iff.1 (by rw [hk.count]; exact n.succ_pos)
  obtain ⟨hr, rfl⟩ := SdkState.answer_eq_some.1 hstep
  have hlength : decrement s'.iteratorReference = ((insiders tr').erase i).length := by
    rw [List.length_erase_of_mem hmem, ← hinv.reference]
    refine decrement_of_pos ?_ hinv.bound
    rw [hinv.reference]
    exact List.length_pos_of_mem hmem
  refine ⟨⟨?_, fun j hj => ?_⟩, hf _ _ _ ⟨⟨?_, hk.held⟩, hk.mutex⟩ ⟨ho.queued, ho.live⟩ ?_⟩
  · exact { hinv with
      reference := hlength
      bound := u32_lt _
      settled := fun h => absurd (hk.mutex.symm.trans h) (by simp)
      unused := ⟨trivial, hinv.unused⟩ }
  · refine ⟨?_, fun _ => rfl, le_rfl, fun _ _ => rfl, fun _ hx => ⟨hx, rfl⟩, fun _ _ hx => hx,
      locked_of_ne hk.mutex hj⟩
    exact List.count_erase_of_ne hj
  · show ((insiders tr').erase i).count i = n
    rw [List.count_erase_self, hk.count, Nat.add_sub_cancel]
  · refine (Eq.congr_left hr).trans ?_
    rw [hlength, List.length_eq_zero_iff]
    rfl

/-! ### The list and the queue -/

/-- `pushFront`, for a session that the thread has created. -/
lemma sat_pushFront {f : Unit → SdkProg β} {d : Session} (hk : Holds i n R tr s)
    (hs : Settled tr s) (hx : Fresh i x d tr s) (hh : d.handle = h)
    (hf : ∀ tr' s', Holds i n R tr' s' → Settled tr' s' →
      protocol.Sat (sdkSystem t) i c Q (f ()) tr' s') :
    protocol.Sat (sdkSystem t) i c Q (pushFront x h >>= f) tr s := by
  intro tr' s' hrely hinv r s'' hstep hadm
  have hs := hs.of_locked (hrely.locked hk.mutex)
  have hk := hk.of_others hrely
  have hx : Fresh i x d tr' s' := hx.of_others hrely
  obtain rfl := Option.some.inj hstep
  have hhandle : (s'.sessions x).handle = h := by rw [hx.created.2, hh]
  have hmem {y : ℕ} (hy : y ∈ s'.sessionList) : y ∈ x :: s'.sessionList :=
    List.mem_cons_of_mem x hy
  refine ⟨⟨?_, fun j hj => ?_⟩, hf _ _ ⟨⟨hk.count, hk.held⟩, hk.mutex⟩
    ⟨⟨fun y hy => hmem (hs.queued y hy), ?_⟩, hs.awaited⟩⟩
  · exact { hinv with
      allocated := by
        intro y hy
        rcases List.mem_cons.1 hy with rfl | hy
        · exact hx.created.1
        · exact hinv.allocated y hy
      unique := by
        intro y hy z hz hyz
        rcases List.mem_cons.1 hy with rfl | hy'
        · rcases List.mem_cons.1 hz with rfl | hz'
          · rfl
          · exact absurd (hyz.symm.trans hhandle) (hadm z hz')
        · rcases List.mem_cons.1 hz with rfl | hz'
          · exact absurd (hyz.trans hhandle) (hadm y hy')
          · exact hinv.unique y hy' z hz' hyz
      listed := by
        intro y
        show (decide (x = y) || isListed y tr') = true ↔ y ∈ x :: s'.sessionList
        rw [Bool.or_eq_true, decide_eq_true_eq, hinv.listed, List.mem_cons, eq_comm]
      held := fun y hy => hmem (hinv.held y hy)
      created := by
        intro y j hy
        have hne : x ≠ y ∧ creator y tr' = some j := by
          have hcases : (if x = y then none else creator y tr') = some j := hy
          by_cases hxy : x = y
          · rw [if_pos hxy] at hcases
            exact absurd hcases (by simp)
          · rw [if_neg hxy] at hcases
            exact ⟨hxy, hcases⟩
        obtain ⟨hlt, hout⟩ := hinv.created y j hne.2
        exact ⟨hlt, fun hy => (List.mem_cons.1 hy).elim (fun h => hne.1 h.symm) hout⟩
      nodup' := List.nodup_cons.2 ⟨(hinv.created x i hx.creator).2, hinv.nodup'⟩
      settled := fun h => absurd (hk.mutex.symm.trans h) (by simp)
      unused := ⟨trivial, hinv.unused⟩ }
  · refine ⟨rfl, fun _ => rfl, le_rfl, fun _ _ => rfl, fun y hy => ⟨?_, rfl⟩, fun _ _ => hmem,
      locked_of_ne hk.mutex hj⟩
    have hxy : x ≠ y := by
      rintro rfl
      rw [hx.creator] at hy
      exact hj (Option.some.inj hy).symm
    show (if x = y then none else creator y tr') = some j
    rw [if_neg hxy, hy]
  · intro y hy
    rcases List.mem_cons.1 hy with rfl | hy
    · exact hx.live
    · exact hs.live y hy

/-- `pushPending`, while somebody is inside: by the condition, the session is not queued. -/
lemma sat_pushPending {f : Unit → SdkProg β} (hk : Holds i n R tr s) (hs : Settled tr s)
    (hx : x ∈ s.sessionList) (hinside : insiders tr ≠ [])
    (hf : ∀ tr' s', Holds i n R tr' s' → Settled tr' s' →
      protocol.Sat (sdkSystem t) i c Q (f ()) tr' s') :
    protocol.Sat (sdkSystem t) i c Q (pushPending x >>= f) tr s := by
  intro tr' s' hrely hinv r s'' hstep hadm
  have hl := hrely.locked hk.mutex
  rw [← hl.list] at hx
  rw [← hl.insiders] at hinside
  have hs := hs.of_locked hl
  have hk := hk.of_others hrely
  obtain rfl := Option.some.inj hstep
  refine ⟨⟨?_, fun j hj => ?_⟩, hf _ _ ⟨⟨hk.count, hk.held⟩, hk.mutex⟩
    ⟨⟨?_, hs.live⟩, fun _ => hinside⟩⟩
  · exact { hinv with
      nodup := by
        refine List.Nodup.append hinv.nodup (List.nodup_singleton x) ?_
        rw [List.disjoint_singleton]
        exact hadm
      settled := fun h => absurd (hk.mutex.symm.trans h) (by simp)
      unused := ⟨trivial, hinv.unused⟩ }
  · exact ⟨rfl, fun _ => rfl, le_rfl, fun _ _ => rfl, fun _ hx => ⟨hx, rfl⟩, fun _ _ hx => hx,
      locked_of_ne hk.mutex hj⟩
  · intro y hy
    rcases List.mem_append.1 hy with hy | hy
    · exact hs.queued y hy
    · rw [List.mem_singleton.1 hy]
      exact hx

/-! ### The destructor -/

/-- The thread may delete the session: it has removed everybody else from the list on which
the session is, or it has just created the session. -/
structure Deletable (i : ι) (x : ℕ) (tr : SdkTrace ι) (s : SdkState ι) : Prop where
  live : isFreed x tr = false
  owned : s.iteratorMutex = some i ∧ insiders tr = [] ∧ x ∈ s.sessionList ∨ creator x tr = some i

lemma Deletable.of_others (hd : Deletable i x tr s) (ho : Others i tr s tr' s') :
    Deletable i x tr' s' := by
  rcases hd.owned with ⟨hmutex, halone, hx⟩ | hcreator
  · have hl := ho.locked hmutex
    refine ⟨(hl.live x hx).trans hd.live, .inl ⟨hl.mutex, hl.insiders.trans halone, ?_⟩⟩
    rw [hl.list]
    exact hx
  · obtain ⟨hcreator', hfreed⟩ := ho.created x hcreator
    exact ⟨hfreed.trans hd.live, .inr hcreator'⟩

/-- Nobody gets a reference to a session that may be deleted. -/
lemma Deletable.unheld (hd : Deletable i x tr s) (hx : holders x tr = [])
    (ho : Others i tr s tr' s') (hinv : Inv tr' s') : holders x tr' = [] := by
  rcases hd.owned with ⟨hmutex, halone, -⟩ | hcreator
  · exact ((ho.locked hmutex).unheld halone x).trans hx
  · by_contra hheld
    exact (hinv.created x i (ho.created x hcreator).1).2 (hinv.held x hheld)

/-- `getActiveReferences`. -/
lemma sat_getActiveReferences {f : ℕ → SdkProg β}
    (hf : ∀ r tr' s', Others i tr s tr' s' → (r = 0 → holders x tr' = []) →
      protocol.Sat (sdkSystem t) i c Q (f r) tr' s') :
    protocol.Sat (sdkSystem t) i c Q (getActiveReferences x >>= f) tr s := by
  intro tr' s' hrely hinv r s'' hstep _
  obtain ⟨hr, rfl⟩ := SdkState.answer_eq_some.1 hstep
  obtain ⟨hkeeps, hothers⟩ :=
    keeps_quiet (c := c) (o := .getActiveReferences x) rfl hinv hstep
  refine ⟨hkeeps, hf r _ _ (hrely.trans (hothers i)) fun hzero => ?_⟩
  show holders x tr' = []
  rw [← List.length_eq_zero_iff, ← hinv.active, ← hr, hzero]

/-- `waitEnd`: by the condition, there are no references. -/
lemma sat_waitEnd {f : Bool → SdkProg β}
    (hf : ∀ r tr' s', Others i tr s tr' s' → holders x tr' = [] →
      protocol.Sat (sdkSystem t) i c Q (f r) tr' s') :
    protocol.Sat (sdkSystem t) i c Q (waitEnd x >>= f) tr s := by
  intro tr' s' hrely hinv r s'' hstep hadm
  obtain ⟨hkeeps, hothers⟩ := keeps_quiet (c := c) (o := .waitEnd x) rfl hinv hstep
  refine ⟨hkeeps, hf r _ _ (hrely.trans (hothers i)) ?_⟩
  show holders x tr' = []
  have hzero : s'.activeReferences x = 0 := hadm
  rw [← List.length_eq_zero_iff, ← hinv.active, hzero]

/-- `free`. -/
lemma sat_free {Q' : SdkTrace ι → SdkState ι → Prop}
    (hQ' : ∀ tr s tr' s', Q' tr s → Others i tr s tr' s' → Q' tr' s')
    (hd : Deletable i x tr s) (hx : holders x tr = [])
    (hfree : ∀ r tr' s', Others i tr s tr' s' → holders x tr' = [] →
      Q' (.op i c ⟨.free x, r⟩ :: tr') s') :
    protocol.Sat (sdkSystem t) i c (fun _ => Q') (free x) tr s := by
  intro tr' s' hrely hinv r s'' hstep _
  have hx := hd.unheld hx hrely hinv
  have hd := hd.of_others hrely
  obtain rfl := Option.some.inj hstep
  have hfreed (y : ℕ) : isFreed y (.op i c ⟨.free x, r⟩ :: tr') =
      (decide (x = y) || isFreed y tr') := rfl
  have hother {y : ℕ} (hxy : x ≠ y) : isFreed y (.op i c ⟨.free x, r⟩ :: tr') = isFreed y tr' := by
    rw [hfreed, decide_eq_false hxy, Bool.false_or]
  have hlt : x < s'.allocated :=
    hd.owned.elim (fun h => hinv.allocated x h.2.2) fun h => (hinv.created x i h).1
  have hunused : Unused x tr' := by
    refine ⟨hd.live, hx, fun hlisted => ?_⟩
    refine hd.owned.elim (fun h => h.2.1) fun h => ?_
    exact absurd ((hinv.listed x).1 hlisted) (hinv.created x i h).2
  refine ⟨⟨?_, fun j hj => ?_⟩, fun tr'' s'' hrely' _ => hQ' _ _ _ _ (hfree r _ _ hrely hx) hrely'⟩
  · exact { hinv with
      freed := by
        intro y hy
        rw [hfreed, Bool.or_eq_true, decide_eq_true_eq] at hy
        rcases hy with rfl | hy
        · exact hlt
        · exact hinv.freed y hy
      settled := by
        intro hmutex
        have hs := hinv.settled hmutex
        refine ⟨⟨hs.queued, fun y hy => ?_⟩, hs.awaited⟩
        have hcreator := hd.owned.resolve_left fun h => by
          rw [hmutex] at h
          exact absurd h.1 (by simp)
        have hxy : x ≠ y := by
          rintro rfl
          exact (hinv.created x i hcreator).2 hy
        exact (hother hxy).trans (hs.live y hy)
      unused := ⟨hunused, hinv.unused⟩ }
  · refine ⟨rfl, fun _ => rfl, le_rfl, fun _ _ => rfl, fun y hy => ⟨hy, hother ?_⟩,
      fun _ _ hx => hx, fun hmutex => ?_⟩
    · rintro rfl
      rcases hd.owned with ⟨-, -, hlist⟩ | hcreator
      · exact (hinv.created x j hy).2 hlist
      · rw [hcreator] at hy
        exact hj (Option.some.inj hy).symm
    · rcases hd.owned with ⟨hmutex', -, -⟩ | hcreator
      · exact locked_of_ne hmutex' hj hmutex
      · refine ⟨hmutex, rfl, rfl, rfl, fun y hy => hother ?_, fun _ _ => rfl⟩
        rintro rfl
        exact (hinv.created x i hcreator).2 hy

/-- The destructor, and what it leaves. -/
lemma sat_deleteSession {Q' : SdkTrace ι → SdkState ι → Prop}
    (hQ' : ∀ tr s tr' s', Q' tr s → Others i tr s tr' s' → Q' tr' s')
    (hd : Deletable i x tr s)
    (hfree : ∀ r tr' s', Others i tr s tr' s' → holders x tr' = [] →
      Q' (.op i c ⟨.free x, r⟩ :: tr') s') :
    protocol.Sat (sdkSystem t) i c (fun _ => Q') (deleteSession x) tr s := by
  -- after the last reference has gone
  have hrelease {tr₁ : SdkTrace ι} {s₁ : SdkState ι} (ho₁ : Others i tr s tr₁ s₁)
      (hx : holders x tr₁ = []) :
      protocol.Sat (sdkSystem t) i c (fun _ => Q')
        (referenceEnd x >>= fun _ => free x) tr₁ s₁ := by
    intro tr₂ s₂ hrely hinv r s₃ hstep _
    obtain ⟨hkeeps, hothers⟩ := keeps_quiet (c := c) (o := .referenceEnd x) rfl hinv hstep
    have hx := (hd.of_others ho₁).unheld hx hrely hinv
    refine ⟨hkeeps, ?_⟩
    have ho₃ := (ho₁.trans hrely).trans (hothers i)
    exact sat_free hQ' (hd.of_others ho₃) hx fun r tr' s' ho hx => hfree r tr' s' (ho₃.trans ho) hx
  refine sat_quiet_bind (Prog.uses_op.2 rfl) fun _ tr₁ s₁ ho₁ => ?_
  refine sat_getActiveReferences fun r tr₂ s₂ ho₂ hzero => ?_
  refine Protocol.Sat.ite (fun _ => ?_) fun hpos => ?_
  · show protocol.Sat (sdkSystem t) i c (fun _ => Q')
      (waitBegin x >>= fun _ => waitEnd x >>= fun _ => referenceEnd x >>= fun _ => free x) tr₂ s₂
    refine sat_quiet_bind (Prog.uses_op.2 rfl) fun _ tr₃ s₃ ho₃ => ?_
    refine sat_waitEnd fun _ tr₄ s₄ ho₄ hx => ?_
    exact hrelease (((ho₁.trans ho₂).trans ho₃).trans ho₄) hx
  · exact hrelease (ho₁.trans ho₂) (hzero (Nat.eq_zero_of_not_pos hpos))

/-! ### Removing sessions from the list -/

/-- The thread deletes and removes sessions of the list, of which `todo` are left to do;
nobody is inside.  The session in `deleted` has been freed and not yet removed. -/
structure Removing (i : ι) (n : ℕ) (R : ℕ → ℕ) (pending todo : List ℕ) (deleted : Option ℕ)
    (tr : SdkTrace ι) (s : SdkState ι) : Prop extends Holds i n R tr s where
  alone : insiders tr = []
  queue : s.pendingDestroyQueue = pending
  live : ∀ x ∈ s.sessionList, deleted ≠ some x → isFreed x tr = false
  unheld : ∀ x, deleted = some x → holders x tr = []
  todo : ∀ x ∈ todo, x ∈ s.sessionList

variable {pending todo : List ℕ} {deleted : Option ℕ}

lemma Removing.of_others (hr : Removing i n R pending todo deleted tr s)
    (ho : Others i tr s tr' s') : Removing i n R pending todo deleted tr' s' := by
  have hl := ho.locked hr.mutex
  refine ⟨hr.toHolds.of_others ho, hl.insiders.trans hr.alone, hl.queue.trans hr.queue,
    fun x hx hne => ?_, fun x hx => (hl.unheld hr.alone x).trans (hr.unheld x hx), ?_⟩
  · rw [hl.list] at hx
    exact (hl.live x hx).trans (hr.live x hx hne)
  · rw [hl.list]
    exact hr.todo

/-- `remove`. -/
lemma sat_remove (hr : Removing i n R pending todo (some x) tr s) (hx : x ∉ todo) :
    protocol.Sat (sdkSystem t) i c (fun _ => Removing i n R pending todo none) (remove x)
      tr s := by
  intro tr' s' hrely hinv r s'' hstep _
  have hr := hr.of_others hrely
  obtain rfl := Option.some.inj hstep
  have hmem {y : ℕ} : y ∈ s'.sessionList.filter (fun z => decide (z ≠ x)) ↔
      y ∈ s'.sessionList ∧ y ≠ x := by
    rw [List.mem_filter, decide_eq_true_eq]
  refine ⟨⟨?_, fun j hj => ?_⟩, fun tr'' s'' hrely' _ => ?_⟩
  · exact { hinv with
      allocated := fun y hy => hinv.allocated y (hmem.1 hy).1
      unique := fun y hy z hz => hinv.unique y (hmem.1 hy).1 z (hmem.1 hz).1
      listed := by
        intro y
        show (!decide (x = y) && isListed y tr') = true ↔
          y ∈ s'.sessionList.filter fun z => decide (z ≠ x)
        rw [Bool.and_eq_true, hinv.listed, hmem, and_comm, Bool.not_eq_true',
          decide_eq_false_iff_not, eq_comm]
      held := by
        intro y hy
        refine hmem.2 ⟨hinv.held y hy, ?_⟩
        rintro rfl
        exact hy (hr.unheld y rfl)
      created := by
        intro y j hy
        obtain ⟨hlt, hout⟩ := hinv.created y j hy
        exact ⟨hlt, fun hy => hout (hmem.1 hy).1⟩
      nodup' := hinv.nodup'.filter _
      settled := fun h => absurd (hr.mutex.symm.trans h) (by simp)
      unused := ⟨trivial, hinv.unused⟩ }
  · refine ⟨rfl, fun _ => rfl, le_rfl, fun _ _ => rfl, fun _ hy => ⟨hy, rfl⟩, fun hin => ?_,
      locked_of_ne hr.mutex hj⟩
    rw [hr.alone] at hin
    exact absurd hin List.not_mem_nil
  · have hr' : Removing i n R pending todo none (.op i c ⟨.remove x, r⟩ :: tr')
        { s' with sessionList := s'.sessionList.filter (· ≠ x) } := by
      refine ⟨⟨⟨hr.count, hr.held⟩, hr.mutex⟩, hr.alone, hr.queue, fun y hy _ => ?_,
        fun y hy => absurd hy (by simp), fun y hy => ?_⟩
      · obtain ⟨hy, hne⟩ := hmem.1 hy
        exact hr.live y hy fun heq => hne (Option.some.inj heq).symm
      · refine hmem.2 ⟨hr.todo y hy, ?_⟩
        rintro rfl
        exact hx hy
    exact hr'.of_others hrely'

lemma sat_deleteAndRemove (hr : Removing i n R pending (x :: todo) none tr s)
    (hx : x ∉ todo) :
    protocol.Sat (sdkSystem t) i c (fun _ => Removing i n R pending todo none)
      (deleteAndRemove x) tr s := by
  have hlist : x ∈ s.sessionList := hr.todo x List.mem_cons_self
  have hd : Deletable i x tr s :=
    ⟨hr.live x hlist (by simp), .inl ⟨hr.mutex, hr.alone, hlist⟩⟩
  have hdelete : protocol.Sat (sdkSystem t) i c
      (fun _ => Removing i n R pending todo (some x)) (deleteSession x) tr s := by
    refine sat_deleteSession (fun _ _ _ _ hr ho => hr.of_others ho) hd fun r tr' s' ho hx => ?_
    have hr := hr.of_others ho
    refine ⟨⟨⟨hr.count, hr.held⟩, hr.mutex⟩, hr.alone, hr.queue, fun y hy hne => ?_,
      fun y hy => ?_, fun y hy => hr.todo y (List.mem_cons_of_mem x hy)⟩
    · have hxy : x ≠ y := fun heq => hne (congrArg some heq)
      show (decide (x = y) || isFreed y tr') = false
      rw [decide_eq_false hxy, Bool.false_or]
      exact hr.live y hy (by simp)
    · rw [← Option.some.inj hy]
      exact hx
  exact hdelete.bind fun _ tr' s' _ hr => sat_remove hr hx

/-- A loop of removals. -/
lemma sat_forEach_deleteAndRemove (hr : Removing i n R pending todo none tr s)
    (hnodup : todo.Nodup) :
    protocol.Sat (sdkSystem t) i c (fun _ => Removing i n R pending [] none)
      (forEach todo deleteAndRemove) tr s := by
  induction todo generalizing tr s with
  | nil => exact fun _ _ hrely _ => hr.of_others hrely
  | cons x todo ih =>
      obtain ⟨hx, hnodup⟩ := List.nodup_cons.1 hnodup
      exact (sat_deleteAndRemove hr hx).bind fun _ tr' s' _ hr => ih hr hnodup

/-- With an empty queue everything is settled. -/
lemma Removing.settled (hr : Removing i n R [] todo none tr s) : Settled tr s where
  queued := by
    rw [hr.queue]
    exact fun x hx => absurd hx List.not_mem_nil
  live x hx := hr.live x hx (by simp)
  awaited h := absurd hr.queue h

/-- `m_PendingDestroyQueue.clear`. -/
lemma sat_clearPending {f : Unit → SdkProg β} (hr : Removing i n R pending [] none tr s)
    (hf : ∀ tr' s', Removing i n R [] [] none tr' s' →
      protocol.Sat (sdkSystem t) i c Q (f ()) tr' s') :
    protocol.Sat (sdkSystem t) i c Q (clearPending >>= f) tr s := by
  intro tr' s' hrely hinv r s'' hstep _
  have hr := hr.of_others hrely
  obtain rfl := Option.some.inj hstep
  refine ⟨⟨?_, fun j hj => ?_⟩, hf _ _ ⟨⟨⟨hr.count, hr.held⟩, hr.mutex⟩, hr.alone, rfl, hr.live,
    hr.unheld, hr.todo⟩⟩
  · exact { hinv with
      nodup := List.nodup_nil
      settled := fun h => absurd (hr.mutex.symm.trans h) (by simp)
      unused := ⟨trivial, hinv.unused⟩ }
  · exact ⟨rfl, fun _ => rfl, le_rfl, fun _ _ => rfl, fun _ hx => ⟨hx, rfl⟩, fun _ _ hx => hx,
      locked_of_ne hr.mutex hj⟩

/-! ### The iterator critical section -/

lemma sat_iteratorCriticalSectionEnter (hk : Known i n R tr) :
    protocol.Sat (sdkSystem t) i c (fun _ tr' _ => Known i (n + 1) R tr')
      iteratorCriticalSectionEnter tr s := by
  refine sat_iteratorBegin hk fun tr s hk hs _ => ?_
  refine sat_increaseIterator hk hs fun tr s hk hs => ?_
  exact sat_iteratorEnd hk hs

/-- `getPendingQueue`. -/
lemma sat_getPendingQueue {f : List ℕ → SdkProg β} (hk : Holds i n R tr s)
    (ho : Orderly tr s) (halone : insiders tr = [])
    (hf : ∀ pending tr' s', Removing i n R pending pending none tr' s' → pending.Nodup →
      protocol.Sat (sdkSystem t) i c Q (f pending) tr' s') :
    protocol.Sat (sdkSystem t) i c Q (getPendingQueue >>= f) tr s := by
  intro tr' s' hrely hinv r s'' hstep _
  have hl := hrely.locked hk.mutex
  have ho := ho.of_locked hl
  have hk := hk.of_others hrely
  have halone : insiders tr' = [] := hl.insiders.trans halone
  obtain ⟨rfl, rfl⟩ := SdkState.answer_eq_some.1 hstep
  obtain ⟨hkeeps, hothers⟩ := keeps_quiet (c := c) (o := .getPendingQueue) rfl hinv hstep
  refine ⟨hkeeps, hf _ _ _ ⟨hk.of_others (hothers i), halone, rfl, fun x hx _ => ?_,
    fun x hx => absurd hx (by simp), ho.queued⟩ hinv.nodup⟩
  exact ho.live x hx

lemma sat_iteratorCriticalSectionExit (hk : Known i (n + 1) R tr) :
    protocol.Sat (sdkSystem t) i c (fun _ tr' _ => Known i n R tr')
      iteratorCriticalSectionExit tr s := by
  refine sat_iteratorBegin hk fun tr s hk hs _ => ?_
  refine sat_decreaseIterator hk hs.toOrderly fun r tr s hk ho hzero => ?_
  refine Protocol.Sat.ite (fun hr => ?_) fun hr => ?_
  -- nobody is inside: the queue is emptied
  · refine sat_getPendingQueue hk ho (hzero.1 hr) fun pending tr s hr hnodup => ?_
    refine (sat_forEach_deleteAndRemove hr hnodup).bind fun _ tr s _ hr => ?_
    refine sat_clearPending hr fun tr s hr => ?_
    exact sat_iteratorEnd hr.toHolds hr.settled
  · exact sat_iteratorEnd hk ⟨ho, fun _ halone => hr (hzero.2 halone)⟩

/-! ### References -/

/-- The thread is inside, so that nobody removes a session. -/
lemma Known.mem_insiders (hk : Known i (n + 1) R tr) : i ∈ insiders tr :=
  List.count_pos_iff.1 (by rw [hk.count]; exact n.succ_pos)

/-- `++m_ActiveReferences`, on a session of the list. -/
lemma sat_incrementReferences {f : Unit → SdkProg β} (hk : Known i (n + 1) R tr)
    (hx : x ∈ s.sessionList)
    (hf : ∀ tr' s', Known i (n + 1) (Function.update R x (R x + 1)) tr' →
      protocol.Sat (sdkSystem t) i c Q (f ()) tr' s') :
    protocol.Sat (sdkSystem t) i c Q (incrementReferences x >>= f) tr s := by
  intro tr' s' hrely hinv r s'' hstep hadm
  have hx := hrely.listed hk.mem_insiders x hx
  have hk := hk.of_others hrely
  obtain rfl := Option.some.inj hstep
  have hself : holders x (.op i c ⟨.increaseReference x, r⟩ :: tr') = i :: holders x tr' :=
    if_pos rfl
  have hother {y : ℕ} (hxy : x ≠ y) :
      holders y (.op i c ⟨.increaseReference x, r⟩ :: tr') = holders y tr' := if_neg hxy
  have hu32 : u32 (s'.activeReferences x + 1) = s'.activeReferences x + 1 := u32_of_lt hadm
  refine ⟨⟨?_, fun j hj => ?_⟩, hf _ _ ⟨hk.count, fun y => ?_⟩⟩
  · exact { hinv with
      active := by
        intro y
        show Function.update s'.activeReferences x (u32 (s'.activeReferences x + 1)) y = _
        by_cases hxy : x = y
        · subst hxy
          rw [Function.update_self, hself, List.length_cons, hu32, hinv.active]
        · rw [Function.update_of_ne (Ne.symm hxy), hother hxy, hinv.active]
      activeBound := by
        intro y
        show Function.update s'.activeReferences x (u32 (s'.activeReferences x + 1)) y < _
        by_cases hxy : x = y
        · subst hxy
          rw [Function.update_self]
          exact u32_lt _
        · rw [Function.update_of_ne (Ne.symm hxy)]
          exact hinv.activeBound y
      held := by
        intro y hy
        by_cases hxy : x = y
        · rwa [← hxy]
        · rw [hother hxy] at hy
          exact hinv.held y hy
      settled := by
        intro hmutex
        have hs := hinv.settled hmutex
        exact ⟨⟨hs.queued, hs.live⟩, hs.awaited⟩
      unused := ⟨trivial, hinv.unused⟩ }
  · refine ⟨rfl, fun y => ?_, le_rfl, fun _ _ => rfl, fun _ hx => ⟨hx, rfl⟩, fun _ _ hx => hx,
      fun hmutex => ⟨hmutex, rfl, rfl, rfl, fun _ _ => rfl, fun halone => ?_⟩⟩
    · by_cases hxy : x = y
      · subst hxy
        rw [hself, List.count_cons_of_ne (Ne.symm hj)]
      · rw [hother hxy]
    · have hin := hk.mem_insiders
      rw [halone] at hin
      exact absurd hin List.not_mem_nil
  · by_cases hxy : x = y
    · subst hxy
      rw [hself, List.count_cons_self, Function.update_self, hk.held]
    · rw [hother hxy, Function.update_of_ne (Ne.symm hxy), hk.held]

/-- `--m_ActiveReferences`, by a thread that holds a reference. -/
lemma sat_decrementReferences {f : ℕ → SdkProg β}
    (hk : Known i (n + 1) (Function.update R x (R x + 1)) tr)
    (hf : ∀ r tr' s', Known i (n + 1) R tr' → protocol.Sat (sdkSystem t) i c Q (f r) tr' s') :
    protocol.Sat (sdkSystem t) i c Q (decrementReferences x >>= f) tr s := by
  intro tr' s' hrely hinv r s'' hstep _
  have hk := hk.of_others hrely
  have hcount : (holders x tr').count i = R x + 1 := by rw [hk.held, Function.update_self]
  have hmem : i ∈ holders x tr' := List.count_pos_iff.1 (by rw [hcount]; exact (R x).succ_pos)
  have hsome : holders x tr' ≠ [] := List.ne_nil_of_mem hmem
  obtain ⟨-, rfl⟩ := SdkState.answer_eq_some.1 hstep
  have hself : holders x (.op i c ⟨.decreaseReference x, r⟩ :: tr') = (holders x tr').erase i :=
    if_pos rfl
  have hother {y : ℕ} (hxy : x ≠ y) :
      holders y (.op i c ⟨.decreaseReference x, r⟩ :: tr') = holders y tr' := if_neg hxy
  have hlength : decrement (s'.activeReferences x) = ((holders x tr').erase i).length := by
    rw [List.length_erase_of_mem hmem, ← hinv.active]
    refine decrement_of_pos ?_ (hinv.activeBound x)
    rw [hinv.active]
    exact List.length_pos_of_mem hmem
  refine ⟨⟨?_, fun j hj => ?_⟩, hf _ _ _ ⟨hk.count, fun y => ?_⟩⟩
  · exact { hinv with
      active := by
        intro y
        show Function.update s'.activeReferences x (decrement (s'.activeReferences x)) y = _
        by_cases hxy : x = y
        · subst hxy
          rw [Function.update_self, hself, hlength]
        · rw [Function.update_of_ne (Ne.symm hxy), hother hxy, hinv.active]
      activeBound := by
        intro y
        show Function.update s'.activeReferences x (decrement (s'.activeReferences x)) y < _
        by_cases hxy : x = y
        · subst hxy
          rw [Function.update_self]
          exact u32_lt _
        · rw [Function.update_of_ne (Ne.symm hxy)]
          exact hinv.activeBound y
      held := by
        intro y hy
        by_cases hxy : x = y
        · rw [← hxy]
          exact hinv.held x hsome
        · rw [hother hxy] at hy
          exact hinv.held y hy
      settled := by
        intro hmutex
        have hs := hinv.settled hmutex
        exact ⟨⟨hs.queued, hs.live⟩, hs.awaited⟩
      unused := ⟨trivial, hinv.unused⟩ }
  · refine ⟨rfl, fun y => ?_, le_rfl, fun _ _ => rfl, fun _ hx => ⟨hx, rfl⟩, fun _ _ hx => hx,
      fun hmutex => ⟨hmutex, rfl, rfl, rfl, fun _ _ => rfl, fun halone => ?_⟩⟩
    · by_cases hxy : x = y
      · subst hxy
        rw [hself, List.count_erase_of_ne hj]
      · rw [hother hxy]
    · have hin := hk.mem_insiders
      rw [halone] at hin
      exact absurd hin List.not_mem_nil
  · by_cases hxy : x = y
    · subst hxy
      rw [hself, List.count_erase_self, hcount, Nat.add_sub_cancel]
    · rw [hother hxy, hk.held, Function.update_of_ne (Ne.symm hxy)]

lemma sat_increaseReference (hk : Known i (n + 1) R tr) (hx : x ∈ s.sessionList) :
    protocol.Sat (sdkSystem t) i c
      (fun _ tr' _ => Known i (n + 1) (Function.update R x (R x + 1)) tr')
      (increaseReference x) tr s := by
  refine sat_quiet_bind (Prog.uses_op.2 rfl) fun _ tr' s' ho => ?_
  have hx := ho.listed hk.mem_insiders x hx
  refine sat_incrementReferences (hk.of_others ho) hx fun tr s hk => ?_
  exact (sat_quiet (Prog.uses_op.2 rfl)).mono fun _ _ _ _ ho => hk.of_others ho

lemma sat_decreaseReference (hk : Known i (n + 1) (Function.update R x (R x + 1)) tr) :
    protocol.Sat (sdkSystem t) i c (fun _ tr' _ => Known i (n + 1) R tr')
      (decreaseReference x) tr s := by
  refine sat_quiet_bind (Prog.uses_op.2 rfl) fun _ tr' s' ho => ?_
  refine sat_decrementReferences (hk.of_others ho) fun r tr s hk => ?_
  have hend {tr : SdkTrace ι} {s : SdkState ι} (hk : Known i (n + 1) R tr) :
      protocol.Sat (sdkSystem t) i c (fun _ tr' _ => Known i (n + 1) R tr') (referenceEnd x)
        tr s :=
    (sat_quiet (Prog.uses_op.2 rfl)).mono fun _ _ _ _ ho => hk.of_others ho
  refine Protocol.Sat.ite (fun _ => ?_) fun _ => hend hk
  exact sat_quiet_bind (Prog.uses_op.2 rfl) fun _ tr s ho => hend (hk.of_others ho)

/-! ### The functions of the session manager -/

/-- `newSession`. -/
lemma sat_newSession {f : Option ℕ → SdkProg β} {d : Session} (hk : Known i n R tr)
    (hf : ∀ r tr' s', Known i n R tr' →
      (∀ x, r = some x → Fresh i x d tr' s') →
      protocol.Sat (sdkSystem t) i c Q (f r) tr' s') :
    protocol.Sat (sdkSystem t) i c Q (newSession d >>= f) tr s := by
  intro tr' s' hrely hinv r s'' hstep _
  have hk := hk.of_others hrely
  rcases (sdkStep_newSession i r).1 hstep with ⟨rfl, rfl⟩ | ⟨rfl, rfl⟩
  -- the memory is exhausted
  · have hcreator (y : ℕ) : creator y (.op i c ⟨.newSession d, none⟩ :: tr') = creator y tr' := rfl
    have hsame : Same tr' s'' (.op i c ⟨.newSession d, none⟩ :: tr') s'' :=
      ⟨.refl s'', rfl, fun _ => rfl, fun _ => rfl, fun _ => rfl, hcreator, rfl⟩
    refine ⟨⟨hsame.inv hinv trivial, fun j _ => hsame.others j⟩, hf none _ _ ⟨hk.count, hk.held⟩ ?_⟩
    exact fun x hx => absurd hx (by simp)
  · have hself : creator s'.allocated (.op i c ⟨.newSession d, some s'.allocated⟩ :: tr') =
        some i := if_pos (decide_eq_true rfl)
    have hother {y : ℕ} (hy : y ≠ s'.allocated) :
        creator y (.op i c ⟨.newSession d, some s'.allocated⟩ :: tr') = creator y tr' := by
      refine if_neg ?_
      rw [creator.isAddress, decide_eq_true_eq]
      exact fun heq => hy (Option.some.inj heq).symm
    have hold {y : ℕ} (hy : y < s'.allocated) :
        Function.update s'.sessions s'.allocated d y = s'.sessions y :=
      Function.update_of_ne hy.ne _ _
    refine ⟨⟨?_, fun j _ => ?_⟩, hf _ _ _ ⟨hk.count, hk.held⟩ fun x hx => ?_⟩
    · exact { hinv with
        allocated := fun y hy => Nat.lt_succ_of_lt (hinv.allocated y hy)
        unique := by
          intro y hy z hz
          show (Function.update s'.sessions s'.allocated d y).handle =
            (Function.update s'.sessions s'.allocated d z).handle → y = z
          rw [hold (hinv.allocated y hy), hold (hinv.allocated z hz)]
          exact hinv.unique y hy z hz
        created := by
          intro y j hy
          by_cases hyx : y = s'.allocated
          · subst hyx
            exact ⟨Nat.lt_succ_self _, fun hy => lt_irrefl _ (hinv.allocated _ hy)⟩
          · rw [hother hyx] at hy
            obtain ⟨hlt, hout⟩ := hinv.created y j hy
            exact ⟨Nat.lt_succ_of_lt hlt, hout⟩
        freed := fun y hy => Nat.lt_succ_of_lt (hinv.freed y hy)
        settled := by
          intro hmutex
          have hs := hinv.settled hmutex
          exact ⟨⟨hs.queued, hs.live⟩, hs.awaited⟩
        unused := ⟨trivial, hinv.unused⟩ }
    · refine ⟨rfl, fun _ => rfl, Nat.le_succ _, fun y hy => hold hy, fun y hy => ⟨?_, rfl⟩,
        fun _ _ hx => hx, fun hmutex => ⟨hmutex, rfl, rfl, rfl, fun _ _ => rfl, fun _ _ => rfl⟩⟩
      rw [hother (hinv.created y j hy).1.ne, hy]
    · obtain rfl := Option.some.inj hx
      refine ⟨⟨Nat.lt_succ_self _, Function.update_self _ _ _⟩, hself, ?_⟩
      show isFreed s'.allocated tr' = false
      by_contra hfreed
      exact lt_irrefl _ (hinv.freed _ (Bool.not_eq_false _ ▸ hfreed))

lemma sat_createSession {func : Option ℕ} {context : ℕ} (hk : Known i n R tr) :
    protocol.Sat (sdkSystem t) i c (fun _ tr' _ => Known i n R tr') (createSession func context)
      tr s := by
  have hret {tr : SdkTrace ι} {s : SdkState ι} (r : ℕ) (hk : Known i n R tr) :
      protocol.Sat (sdkSystem t) i c (fun _ tr' _ => Known i n R tr') (.ret r) tr s :=
    fun _ _ hrely _ => hk.of_others hrely
  refine sat_quiet_bind (Prog.uses_op.2 rfl) fun handle tr s ho => ?_
  have hk := hk.of_others ho
  refine sat_quiet_bind (Prog.uses_op.2 rfl) fun initialized tr s ho => ?_
  have hk := hk.of_others ho
  refine Protocol.Sat.ite (fun _ => hret _ hk) fun _ => ?_
  refine sat_newSession hk fun session tr s hk hx => ?_
  rcases session with _ | x
  · exact hret _ hk
  have hx := hx x rfl
  refine sat_quiet_bind (Prog.uses_op.2 rfl) fun valid tr s ho => ?_
  have hk := hk.of_others ho
  have hx := hx.of_others ho
  refine Protocol.Sat.ite (fun _ => ?_) fun _ => ?_
  -- the session could not be initialised: nobody has a reference to it
  · refine Protocol.Sat.bind (Q := fun _ tr' _ => Known i n R tr') ?_ fun _ tr s _ hk => hret _ hk
    refine sat_deleteSession (fun _ _ _ _ hk ho => hk.of_others ho) ⟨hx.live, .inr hx.creator⟩ ?_
    intro r tr' s' ho _
    have hk := hk.of_others ho
    exact ⟨hk.count, hk.held⟩
  · refine sat_iteratorBegin hk fun tr s hk hs hfresh => ?_
    refine sat_pushFront hk hs (hfresh x _ hx) rfl fun tr s hk hs => ?_
    exact (sat_iteratorEnd hk hs).bind fun _ tr s _ hk => hret _ hk

/-- The loops that search the list for a handle. -/
lemma sat_find {f : Option ℕ → SdkProg β} {p : SdkProg (Option ℕ)}
    (hp : p = findSession h ∨ p = findToDestroy h)
    (hf : ∀ r tr' s', Others i tr s tr' s' → Inv tr' s' → s'.find h = r →
      protocol.Sat (sdkSystem t) i c Q (f r) tr' s') :
    protocol.Sat (sdkSystem t) i c Q (p >>= f) tr s := by
  have hquiet (o : SdkOp) (ho : onLife o = false) (r : o.Ans) {tr' : SdkTrace ι}
      {s' : SdkState ι} (hrely : Others i tr s tr' s') (hinv : Inv tr' s')
      (hstep : sdkStep i o r s' = some s') :
      protocol.Keeps i tr' s' (.op i c ⟨o, r⟩) s' ∧
        Others i tr s (.op i c ⟨o, r⟩ :: tr') s' := by
    obtain ⟨hkeeps, hothers⟩ := keeps_quiet (c := c) ho hinv hstep
    exact ⟨hkeeps, hrely.trans (hothers i)⟩
  rcases hp with rfl | rfl
  · intro tr' s' hrely hinv r s'' hstep _
    obtain ⟨hr, rfl⟩ := SdkState.answer_eq_some.1 hstep
    obtain ⟨hkeeps, ho⟩ := hquiet (.findSession h) rfl r hrely hinv hstep
    exact ⟨hkeeps, hf r _ _ ho hkeeps.1 hr.symm⟩
  · intro tr' s' hrely hinv r s'' hstep _
    obtain ⟨hr, rfl⟩ := SdkState.answer_eq_some.1 hstep
    obtain ⟨hkeeps, ho⟩ := hquiet (.findToDestroy h) rfl r hrely hinv hstep
    exact ⟨hkeeps, hf r _ _ ho hkeeps.1 hr.symm⟩

/-- `getIteratorReference`. -/
lemma sat_getIteratorReference {f : ℕ → SdkProg β}
    (hf : ∀ r tr' s', Others i tr s tr' s' → (r = 0 ↔ insiders tr' = []) →
      protocol.Sat (sdkSystem t) i c Q (f r) tr' s') :
    protocol.Sat (sdkSystem t) i c Q (getIteratorReference >>= f) tr s := by
  intro tr' s' hrely hinv r s'' hstep _
  obtain ⟨hr, rfl⟩ := SdkState.answer_eq_some.1 hstep
  obtain ⟨hkeeps, hothers⟩ := keeps_quiet (c := c) (o := .getIteratorReference) rfl hinv hstep
  refine ⟨hkeeps, hf r _ _ (hrely.trans (hothers i)) ((Eq.congr_left hr).trans ?_)⟩
  rw [hinv.reference, List.length_eq_zero_iff]
  rfl

/-- The list, once nobody is inside. -/
lemma Holds.removing (hk : Holds i n R tr s) (hs : Settled tr s) (halone : insiders tr = [])
    (htodo : ∀ x ∈ todo, x ∈ s.sessionList) : Removing i n R [] todo none tr s where
  toHolds := hk
  alone := halone
  queue := by
    by_contra hqueue
    exact hs.awaited hqueue halone
  live x hx _ := hs.live x hx
  unheld x hx := absurd hx (by simp)
  todo := htodo

lemma sat_destroySession (hk : Known i n R tr) :
    protocol.Sat (sdkSystem t) i c (fun _ tr' _ => Known i n R tr') (destroySession h) tr s := by
  have hend {tr : SdkTrace ι} {s : SdkState ι} (hk : Holds i n R tr s) (hs : Settled tr s) :
      protocol.Sat (sdkSystem t) i c (fun _ tr' _ => Known i n R tr')
        (destroyed h >>= fun _ => iteratorEnd) tr s :=
    sat_quiet_bind (Prog.uses_op.2 rfl) fun _ tr s ho =>
      sat_iteratorEnd (hk.of_others ho) (hs.of_locked (ho.locked hk.mutex))
  refine sat_iteratorBegin hk fun tr s hk hs _ => ?_
  refine sat_find (.inr rfl) fun found tr s ho _ hfound => ?_
  have hs := hs.of_locked (ho.locked hk.mutex)
  have hk := hk.of_others ho
  rcases found with _ | x
  · exact hend hk hs
  have hx := (SdkState.find_eq_some hfound).1
  refine sat_getIteratorReference fun reference tr s ho hzero => ?_
  have hl := ho.locked hk.mutex
  rw [← hl.list] at hx
  have hs := hs.of_locked hl
  have hk := hk.of_others ho
  refine Protocol.Sat.ite (fun hpos => ?_) fun hpos => ?_
  · have hinside : insiders tr ≠ [] := fun halone => hpos.ne' (hzero.2 halone)
    exact sat_pushPending hk hs hx hinside fun tr s hk hs => hend hk hs
  · have halone := hzero.1 (Nat.eq_zero_of_not_pos hpos)
    have hr : Removing i n R [] [x] none tr s := by
      refine hk.removing hs halone fun y hy => ?_
      rw [List.mem_singleton.1 hy]
      exact hx
    exact (sat_deleteAndRemove hr List.not_mem_nil).bind fun _ tr s _ hr =>
      hend hr.toHolds hr.settled

/-- The fields of a session do not change, whatever the thread does. -/
lemma sat_frame_created {p : SdkProg α} {Q : α → SdkTrace ι → SdkState ι → Prop} {d : Session}
    (hp : protocol.Sat (sdkSystem t) i c Q p tr s) (hd : Created x d s) :
    protocol.Sat (sdkSystem t) i c (fun a tr' s' => Q a tr' s' ∧ Created x d s') p tr s :=
  hp.frame (F := fun _ s => Created x d s) hd (fun ho hd => created_of_others hd ho)
    fun hstep hd => hd.step hstep

/-- What `GetInstance` returns: a reference, when there is a session. -/
def Got (i : ι) (n : ℕ) (R : ℕ → ℕ) (h : ℕ) : Option ℕ → SdkTrace ι → SdkState ι → Prop
  | none, tr, _ => Known i n R tr
  | some x, tr, s =>
    Known i n (Function.update R x (R x + 1)) tr ∧ ∃ d, Created x d s ∧ d.handle = h

lemma Got.of_others {r : Option ℕ} (hg : Got i n R h r tr s) (ho : Others i tr s tr' s') :
    Got i n R h r tr' s' := by
  rcases r with _ | x
  · exact Known.of_others hg ho
  · obtain ⟨hk, d, hd, hh⟩ := hg
    exact ⟨hk.of_others ho, d, created_of_others hd ho, hh⟩

lemma sat_getInstance (hk : Known i n R tr) :
    protocol.Sat (sdkSystem t) i c (Got i n R h) (getInstance h) tr s := by
  have hexit {tr : SdkTrace ι} {s : SdkState ι} (hk : Known i (n + 1) R tr) :
      protocol.Sat (sdkSystem t) i c (Got i n R h)
        (iteratorCriticalSectionExit >>= fun _ => .ret none) tr s :=
    (sat_iteratorCriticalSectionExit hk).bind fun _ _ _ _ hk _ _ hrely _ =>
      hk.of_others hrely
  refine (sat_iteratorCriticalSectionEnter hk).bind fun _ tr s _ hk => ?_
  refine sat_find (.inl rfl) fun found tr s ho hinv hfound => ?_
  have hk := hk.of_others ho
  rcases found with _ | x
  · exact hexit hk
  obtain ⟨hx, hh⟩ := SdkState.find_eq_some hfound
  have hd : Created x (s.sessions x) s := ⟨hinv.allocated x hx, rfl⟩
  refine sat_quiet_bind (Prog.uses_op.2 rfl) fun pending tr s ho => ?_
  have hx := ho.listed hk.mem_insiders x hx
  have hd := created_of_others hd ho
  have hk := hk.of_others ho
  refine Protocol.Sat.ite (fun _ => hexit hk) fun _ => ?_
  refine (sat_frame_created (sat_increaseReference hk hx) hd).bind fun _ tr s _ hkd => ?_
  have hexit := sat_frame_created (sat_iteratorCriticalSectionExit (t := t) (c := c) (s := s)
    hkd.1) hkd.2
  refine hexit.bind fun _ tr s _ hkd tr' s' hrely _ => ?_
  have hg : Got i n R h (some x) tr s := ⟨hkd.1, _, hkd.2, hh⟩
  exact hg.of_others hrely

/-- `PutInstance` finds the session to which the thread holds a reference. -/
lemma sat_putInstance (hg : Got i n R h (some x) tr s) :
    protocol.Sat (sdkSystem t) i c (fun _ tr' _ => Known i n R tr') (putInstance h) tr s := by
  obtain ⟨hk, d, hd, hh⟩ := hg
  have henter := sat_frame_created (sat_iteratorCriticalSectionEnter (t := t) (c := c) (s := s)
    hk) hd
  refine henter.bind fun _ tr s _ hkd => ?_
  refine sat_find (.inl rfl) fun found tr' s' ho hinv hfound => ?_
  have hk := hkd.1.of_others ho
  have hd := created_of_others hkd.2 ho
  have hfound' : found = some x := by
    have hmem : i ∈ holders x tr' := List.count_pos_iff.1 (by
      rw [hk.held, Function.update_self]
      exact (R x).succ_pos)
    have hx : x ∈ s'.sessionList := hinv.held x (List.ne_nil_of_mem hmem)
    have hhandle : (s'.sessions x).handle = h := by rw [hd.2, hh]
    rcases found with _ | y
    · exact absurd hhandle (SdkState.find_eq_none hfound x hx)
    · obtain ⟨hy, hyhandle⟩ := SdkState.find_eq_some hfound
      rw [hinv.unique y hy x hx (hyhandle.trans hhandle.symm)]
  rw [hfound']
  refine (sat_decreaseReference hk).bind fun _ tr s _ hk => ?_
  exact sat_iteratorCriticalSectionExit hk

/-- The entry points return the references that they have got. -/
lemma sat_apiCall (call : ApiCall) (hk : Known i n R tr) :
    protocol.Sat (sdkSystem t) i c (fun _ tr' _ => Known i n R tr') (apiCall call) tr s := by
  have hret {tr : SdkTrace ι} {s : SdkState ι} (hk : Known i n R tr) :
      protocol.Sat (sdkSystem t) i c (fun _ tr' _ => Known i n R tr') (.ret ()) tr s :=
    fun _ _ hrely _ => hk.of_others hrely
  cases call with
  | create func context =>
      refine (sat_createSession hk).bind fun handle tr s _ hk => ?_
      refine Protocol.Sat.ite (fun _ => hret hk) fun _ => ?_
      refine (sat_getInstance hk).bind fun session tr s _ hg => ?_
      rcases session with _ | x
      · exact hret hg
      refine sat_quiet_bind (Prog.uses_op.2 rfl) fun successful tr s ho => ?_
      refine (sat_putInstance (hg.of_others ho)).bind fun _ tr s _ hk => ?_
      exact Protocol.Sat.ite (fun _ => sat_destroySession hk) fun _ => hret hk
  | destroy handle => exact sat_destroySession hk
  | request handle =>
      refine (sat_getInstance hk).bind fun session tr s _ hg => ?_
      rcases session with _ | x
      · exact hret hg
      refine sat_quiet_bind (Prog.uses_op.2 rfl) fun _ tr s ho => ?_
      exact sat_putInstance (hg.of_others ho)

/-! ### The callback thread -/

/-- `getSessionList` in `DestroyCallback`: by the condition, nobody is inside, or there is
nothing to delete. -/
lemma sat_getSessionList {f : List ℕ → SdkProg β} (hk : Holds i n R tr s) (hs : Settled tr s)
    (hnil : ∀ tr' s', Holds i n R tr' s' → Settled tr' s' →
      protocol.Sat (sdkSystem t) i .disconnect Q (f []) tr' s')
    (hf : ∀ sessions tr' s', Removing i n R [] sessions none tr' s' → sessions.Nodup →
      protocol.Sat (sdkSystem t) i .disconnect Q (f sessions) tr' s') :
    protocol.Sat (sdkSystem t) i .disconnect Q (getSessionList >>= f) tr s := by
  intro tr' s' hrely hinv r s'' hstep hadm
  have hs := hs.of_locked (hrely.locked hk.mutex)
  have hk := hk.of_others hrely
  obtain ⟨rfl, rfl⟩ := SdkState.answer_eq_some.1 hstep
  obtain ⟨hkeeps, hothers⟩ := keeps_quiet (c := .disconnect) (o := .getSessionList) rfl hinv hstep
  refine ⟨hkeeps, ?_⟩
  have hs' := hs.of_locked ((hothers i).locked hk.mutex)
  have hk' := hk.of_others (hothers i)
  have hcond : s''.iteratorReference = 0 ∨ s''.sessionList = [] := hadm
  rcases hcond with hzero | hempty
  · have halone : insiders tr' = [] := by
      rw [← List.length_eq_zero_iff, ← hinv.reference, hzero]
    exact hf _ _ _ (hk'.removing hs' halone fun x hx => hx) hinv.nodup'
  · have heq : f s''.sessionList = f [] := congrArg f hempty
    have hnext := hnil _ _ hk' hs'
    rw [← heq] at hnext
    exact hnext

lemma sat_destroyCallback (hk : Known i n R tr) :
    protocol.Sat (sdkSystem t) i .disconnect (fun _ tr' _ => Known i n R tr') destroyCallback
      tr s := by
  have hend {tr : SdkTrace ι} {s : SdkState ι} (hk : Holds i n R tr s) (hs : Settled tr s) :
      protocol.Sat (sdkSystem t) i .disconnect (fun _ tr' _ => Known i n R tr')
        (deleteCallBackSocket >>= fun _ => iteratorEnd) tr s :=
    sat_quiet_bind (Prog.uses_op.2 rfl) fun _ tr s ho =>
      sat_iteratorEnd (hk.of_others ho) (hs.of_locked (ho.locked hk.mutex))
  refine sat_iteratorBegin hk fun tr s hk hs _ => ?_
  refine sat_getSessionList hk hs (fun tr s hk hs => hend hk hs) fun sessions tr s hr hnodup => ?_
  refine (sat_forEach_deleteAndRemove hr hnodup).bind fun _ tr s _ hr => ?_
  exact hend hr.toHolds hr.settled

lemma sat_forEach_known {α : Type} {f : α → SdkProg Unit}
    (hf : ∀ a tr s, Known i n R tr →
      protocol.Sat (sdkSystem t) i c (fun _ tr' _ => Known i n R tr') (f a) tr s)
    (l : List α) (hk : Known i n R tr) :
    protocol.Sat (sdkSystem t) i c (fun _ tr' _ => Known i n R tr') (forEach l f) tr s := by
  induction l generalizing tr s with
  | nil => exact fun _ _ hrely _ => hk.of_others hrely
  | cons a l ih => exact (hf a tr s hk).bind fun _ tr s _ hk => ih hk

lemma sat_deliverTo (hk : Known i n R tr) :
    protocol.Sat (sdkSystem t) i c (fun _ tr' _ => Known i n R tr') (deliverTo x) tr s := by
  refine sat_quiet_bind (p := getSession x) (Prog.uses_op.2 rfl) fun d tr s ho => ?_
  have hk := hk.of_others ho
  rcases d.callBack with _ | func
  · exact fun _ _ hrely _ => hk.of_others hrely
  refine sat_quiet_bind (p := invoke func d.handle d.context) (Prog.uses_op.2 rfl)
    fun calls tr s ho => ?_
  exact sat_forEach_known (fun call _ _ => sat_apiCall call) calls (hk.of_others ho)

lemma sat_deliver (hk : Known i n R tr) :
    protocol.Sat (sdkSystem t) i c (fun _ tr' _ => Known i n R tr') deliver tr s := by
  refine (sat_iteratorCriticalSectionEnter hk).bind fun _ tr s _ hk => ?_
  refine sat_quiet_bind (p := getSessionList) (Prog.uses_op.2 rfl) fun sessions tr s ho => ?_
  have hloop := sat_forEach_known (t := t) (c := c) (s := s)
    (fun x _ _ => sat_deliverTo (x := x)) sessions (hk.of_others ho)
  exact hloop.bind fun _ tr s _ hk => sat_iteratorCriticalSectionExit hk

/-! ### The runs -/

lemma sat_callBody (c : SdkCall) (hk : Known i n R tr) :
    protocol.Sat (sdkSystem t) i c (fun _ tr' _ => Known i n R tr') (callBody c) tr s := by
  cases c with
  | api call => exact sat_apiCall call hk
  | deliver => exact sat_deliver hk
  | disconnect => exact sat_destroyCallback hk

lemma inv_initState : Inv ([] : SdkTrace ι) initState where
  reference := rfl
  bound := Nat.two_pow_pos 32
  active _ := rfl
  activeBound _ := Nat.two_pow_pos 32
  allocated _ hx := absurd hx List.not_mem_nil
  unique _ hx := absurd hx List.not_mem_nil
  listed _ := ⟨fun h => absurd h Bool.false_ne_true, fun hx => absurd hx List.not_mem_nil⟩
  held _ hx := absurd rfl hx
  created _ i hx := absurd hx.symm (Option.some_ne_none i)
  freed _ hx := absurd hx Bool.false_ne_true
  nodup := List.nodup_nil
  nodup' := List.nodup_nil
  settled _ := ⟨⟨fun _ hx => absurd hx List.not_mem_nil, fun _ hx => absurd hx List.not_mem_nil⟩,
    fun h => absurd rfl h⟩
  unused := trivial

lemma inv_of_run {cfg : SdkConfig ι}
    (hrun : (sdkSystem t).Run reclaimCondition initState tr cfg) : Inv tr cfg.shared := by
  -- calls and returns concern no session
  have hkeeps (l : SdkLabel ι) (tr : SdkTrace ι) (s : SdkState ι) (i : ι)
      (hsame : Same tr s (l :: tr) s) (hl : FreesUnused l tr) (hinv : Inv tr s) :
      protocol.Keeps i tr s l s := ⟨hsame.inv hinv hl, fun j _ => hsame.others j⟩
  refine (Protocol.sound (P := protocol) inv_initState ?_ hrun).1
  intro i c tr s _ _ hinv _
  constructor
  · refine hkeeps _ _ _ _ ?_ trivial hinv
    exact ⟨.refl s, rfl, fun _ => rfl, fun _ => rfl, fun _ => rfl, fun _ => rfl, rfl⟩
  · have hk : Known i ((insiders tr).count i) (fun x => (holders x tr).count i)
        (.call i c :: tr) := ⟨rfl, fun _ => rfl⟩
    refine (sat_callBody c hk).mono fun a tr' s' hinv' _ _ => ?_
    refine hkeeps _ _ _ _ ?_ trivial hinv'
    exact ⟨.refl s', rfl, fun _ => rfl, fun _ => rfl, fun _ => rfl, fun _ => rfl, rfl⟩

end Reclaim

/-- In every run that meets the condition, each session that is freed is freed for the first
time, nobody holds a reference to it, and nobody is inside the iterator critical section of
a list that contains it. -/
theorem frees_only_unused {t : ι} {tr : SdkTrace ι} {cfg : SdkConfig ι}
    (hrun : (sdkSystem t).Run reclaimCondition initState tr cfg) : EveryStep FreesUnused tr :=
  (Reclaim.inv_of_run hrun).unused

/-- A session is destroyed while an event is delivered to it; the end of the delivery frees
it. -/
def destroyQueued : List (SdkAction ℕ) :=
  createCall 1 1 5 ++ .call 0 .deliver :: steps 0 4 (sdkAnswer false []) ++
    System.completeCall 1 (.api (.destroy 1)) 6 (sdkAnswer false []) ++
    steps 0 12 (sdkAnswer false []) ++ [.ret 0]

/-- The conditions of the run `destroyQueued`. -/
def reclaimCheck : SdkTrace ℕ → SdkState ℕ → SdkLabel ℕ → Bool
  | _, s, .op _ _ ⟨.pushPending x, _⟩ => decide (x ∉ s.pendingDestroyQueue)
  | _, _, .op _ .disconnect ⟨.getSessionList, _⟩ => false
  | _, _, .op _ _ ⟨.waitEnd _, _⟩ => false
  | _, s, .op _ _ ⟨.pushFront _ _, _⟩ => s.sessionList.isEmpty
  | _, s, .op _ _ ⟨.increaseIterator, _⟩ => s.iteratorReference + 1 < 2 ^ 32
  | _, s, .op _ _ ⟨.increaseReference x, _⟩ => s.activeReferences x + 1 < 2 ^ 32
  | _, _, _ => true

lemma reclaimCondition_of_check (tr : SdkTrace ℕ) (s : SdkState ℕ) (l : SdkLabel ℕ)
    (h : reclaimCheck tr s l) : reclaimCondition tr s l := by
  rw [reclaimCondition.eq_def]
  split
  · exact of_decide_eq_true h
  · exact absurd h Bool.false_ne_true
  · exact absurd h Bool.false_ne_true
  · intro x hx
    rw [List.isEmpty_iff.1 h] at hx
    exact absurd hx List.not_mem_nil
  · exact of_decide_eq_true h
  · exact of_decide_eq_true h
  · trivial

theorem frees_only_unused_destroyQueued :
    ∃ x, scheduled reclaimCheck destroyQueued = some x ∧ isFreed 0 x.1 = true ∧
      EveryStep FreesUnused x.1 := by
  obtain ⟨x, hx, hrun, htest⟩ := exists_run_of_scheduled reclaimCheck reclaimCondition_of_check
    destroyQueued (fun x => isFreed 0 x.1) (by decide)
  exact ⟨x, hx, htest, frees_only_unused hrun⟩

/-- `HDCPDestroy` is called twice for a handle while an event is delivered. -/
def destroyTwice : List (SdkAction ℕ) :=
  createCall 1 1 5 ++ .call 0 .deliver :: steps 0 4 (sdkAnswer false []) ++
    System.completeCall 1 (.api (.destroy 1)) 6 (sdkAnswer false []) ++
    System.completeCall 1 (.api (.destroy 1)) 6 (sdkAnswer false []) ++
    steps 0 14 (sdkAnswer false [])

/-- `HDCPDestroy` waits for a request of another thread and wakes up spuriously. -/
def wakeUpSpuriously : List (SdkAction ℕ) :=
  createCall 1 1 5 ++ .call 1 (.api (.request 1)) :: steps 1 13 (sdkAnswer false []) ++
    .call 2 (.api (.destroy 1)) :: steps 2 9 (sdkAnswer true [])

/-- The daemon disconnects while a request is inside `GetInstance`. -/
def tearDownInside : List (SdkAction ℕ) :=
  createCall 1 1 5 ++ .call 1 (.api (.request 1)) :: steps 1 3 (sdkAnswer false []) ++
    .call 0 .disconnect :: steps 0 6 (sdkAnswer false [])

/-- The last step frees the session 0, which is in use. -/
def freesUsed : SdkTrace ℕ → Bool
  | .op _ _ ⟨.free 0, _⟩ :: tr =>
    isFreed 0 tr || !(holders 0 tr).isEmpty || isListed 0 tr && !(insiders tr).isEmpty
  | _ => false

lemma not_freesUnused_of_freesUsed {tr : SdkTrace ℕ} (h : freesUsed tr = true) :
    ¬EveryStep FreesUnused tr := by
  rw [freesUsed.eq_def] at h
  split at h
  · intro hevery
    have hunused : Unused 0 _ := hevery.1
    rw [hunused.first, hunused.unheld, Bool.false_or, List.isEmpty_nil, Bool.not_true,
      Bool.false_or, Bool.and_eq_true] at h
    rw [hunused.alone h.1] at h
    exact absurd h.2 Bool.false_ne_true
  · exact absurd h Bool.false_ne_true

lemma exists_run_freesUsed (as : List (SdkAction ℕ))
    (h : (scheduled (fun _ _ _ => true) as).any (fun x => freesUsed x.1) = true) :
    ∃ x, scheduled (fun _ _ _ => true) as = some x ∧
      (sdkSystem 0).AnyRun initState x.1 x.2 ∧ ¬EveryStep FreesUnused x.1 := by
  obtain ⟨x, hx, hrun, htest⟩ := exists_run_of_scheduled (fun _ _ _ => true)
    (C := fun _ _ _ => True) (fun _ _ _ _ => trivial) as (fun x => freesUsed x.1) h
  exact ⟨x, hx, hrun, not_freesUnused_of_freesUsed htest⟩

/-- Each of the mechanisms can fail alone. -/
theorem frees_used :
    (∃ x, scheduled (fun _ _ _ => true) destroyTwice = some x ∧
      (sdkSystem 0).AnyRun initState x.1 x.2 ∧ ¬EveryStep FreesUnused x.1) ∧
    (∃ x, scheduled (fun _ _ _ => true) wakeUpSpuriously = some x ∧
      (sdkSystem 0).AnyRun initState x.1 x.2 ∧ ¬EveryStep FreesUnused x.1) ∧
    ∃ x, scheduled (fun _ _ _ => true) tearDownInside = some x ∧
      (sdkSystem 0).AnyRun initState x.1 x.2 ∧ ¬EveryStep FreesUnused x.1 :=
  ⟨exists_run_freesUsed destroyTwice (by decide),
    exists_run_freesUsed wakeUpSpuriously (by decide),
    exists_run_freesUsed tearDownInside (by decide)⟩

end Hdcp.Sdk
