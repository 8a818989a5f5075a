/-
No callback after destroy.

`DestroySession` does not remove a session from the list while a thread is inside the
iterator critical section; it queues the session.  `CallBackManager` does not look at the
queue, so that it invokes the callback function of a session that has been destroyed when
the destruction falls into its loop.  In the runs considered here it meets no queued
session; then it never invokes the callback function of a destroyed handle.
-/
import Hdcp.Sdk.Steps

namespace Hdcp.Sdk

open Library
open Library.Prog (op forEach)

variable {ι : Type} [DecidableEq ι]

/-- An invocation of a callback function is for a handle that has not been destroyed. -/
def SilentAfterDestroy : SdkLabel ι → SdkTrace ι → Prop
  | .op _ _ ⟨.invoke _ handle _, _⟩, tr => isDestroyed handle tr = false
  | _, _ => True

/-- At most one session of the list has the handle. -/
def UniqueHandle (s : SdkState ι) (handle : ℕ) : Prop :=
  ∀ x ∈ s.sessionList, ∀ y ∈ s.sessionList, (s.sessions x).handle = handle →
    (s.sessions y).handle = handle → x = y

/-- No session that awaits its destruction has the handle. -/
def NotPending (s : SdkState ι) (handle : ℕ) : Prop :=
  ∀ x ∈ s.pendingDestroyQueue, (s.sessions x).handle ≠ handle

/-- The condition on the steps of a run. -/
def deliveryCondition : SdkTrace ι → SdkState ι → SdkLabel ι → Prop
  | _, s, .op _ _ ⟨.invoke _ handle _, _⟩ => NotPending s handle
  | _, s, .op _ _ ⟨.findToDestroy handle, _⟩ => UniqueHandle s handle
  | _, s, .op _ _ ⟨.increaseIterator, _⟩ => s.iteratorReference + 1 < 2 ^ 32
  | _, _, _ => True

/-! ### The protocol -/

structure DeliveryInv (tr : SdkTrace ι) (s : SdkState ι) : Prop where
  reference : s.iteratorReference = (insiders tr).length
  bound : s.iteratorReference < 2 ^ 32
  allocated : ∀ x ∈ s.sessionList, x < s.allocated
  queued : ∀ h, isDestroyed h tr = true → ∀ x ∈ s.sessionList, (s.sessions x).handle = h →
    x ∈ s.pendingDestroyQueue
  silent : EveryStep SilentAfterDestroy tr

/-- What the others leave alone while a thread holds the iterator mutex. -/
structure Locked (i : ι) (tr : SdkTrace ι) (s : SdkState ι) (tr' : SdkTrace ι)
    (s' : SdkState ι) : Prop where
  mutex : s'.iteratorMutex = some i
  list : s'.sessionList = s.sessionList
  queue : s'.pendingDestroyQueue = s.pendingDestroyQueue
  reference : s'.iteratorReference = s.iteratorReference
  insiders : insiders tr' = insiders tr
  destroyed : ∀ h, isDestroyed h tr' = isDestroyed h tr

/-- What the others leave alone.  The list grows while the thread `t` is inside the iterator
critical section. -/
structure Others (t i : ι) (tr : SdkTrace ι) (s : SdkState ι) (tr' : SdkTrace ι)
    (s' : SdkState ι) : Prop where
  count : (insiders tr').count i = (insiders tr).count i
  allocated : s.allocated ≤ s'.allocated
  sessions : ∀ x < s.allocated, s'.sessions x = s.sessions x
  listed : i = t → i ∈ insiders tr → ∀ x ∈ s.sessionList, x ∈ s'.sessionList
  locked : s.iteratorMutex = some i → Locked i tr s tr' s'

variable {t i j : ι} {c : SdkCall} {o : SdkOp} {r : o.Ans} {tr tr' tr'' : SdkTrace ι}
  {s s' s'' : SdkState ι} {l : SdkLabel ι}

lemma Locked.trans (h : Locked i tr s tr' s') (h' : Locked i tr' s' tr'' s'') :
    Locked i tr s tr'' s'' where
  mutex := h'.mutex
  list := h'.list.trans h.list
  queue := h'.queue.trans h.queue
  reference := h'.reference.trans h.reference
  insiders := h'.insiders.trans h.insiders
  destroyed x := (h'.destroyed x).trans (h.destroyed x)

lemma Others.refl (t i : ι) (tr : SdkTrace ι) (s : SdkState ι) : Others t i tr s tr s :=
  ⟨rfl, le_rfl, fun _ _ => rfl, fun _ _ _ hx => hx,
    fun h => ⟨h, rfl, rfl, rfl, rfl, fun _ => rfl⟩⟩

lemma Others.mem_insiders (h : Others t i tr s tr' s') :
    i ∈ insiders tr' ↔ i ∈ insiders tr := by
  rw [← List.count_pos_iff, h.count, List.count_pos_iff]

lemma Others.trans (h : Others t i tr s tr' s') (h' : Others t i tr' s' tr'' s'') :
    Others t i tr s tr'' s'' where
  count := h'.count.trans h.count
  allocated := h.allocated.trans h'.allocated
  sessions x hx := (h'.sessions x (hx.trans_le h.allocated)).trans (h.sessions x hx)
  listed ht hi x hx := h'.listed ht (h.mem_insiders.2 hi) x (h.listed ht hi x hx)
  locked hmutex := (h.locked hmutex).trans (h'.locked (h.locked hmutex).mutex)

def deliveryProtocol (t : ι) : Protocol sdkSig ι SdkCall Unit (SdkState ι) where
  admits := deliveryCondition
  inv := DeliveryInv
  rely := Others t
  refl := Others.refl t
  trans := Others.trans

/-! ### The steps -/

/-- What does not concern the list. -/
lemma DeliveryInv.step (ho : o.onList = false) (hinv : DeliveryInv tr s)
    (hstep : sdkStep i o r s = some s') :
    DeliveryInv (.op i c ⟨o, r⟩ :: tr) s' ∧ ∀ j, Others t j tr s (.op i c ⟨o, r⟩ :: tr) s' := by
  have hsame := sdkStep_list ho hstep
  have hinsiders : insiders (.op i c ⟨o, r⟩ :: tr) = insiders tr := insiders_cons ho
  have hdestroyed (h : ℕ) : isDestroyed h (.op i c ⟨o, r⟩ :: tr) = isDestroyed h tr :=
    isDestroyed_cons ho
  have hsilent : SilentAfterDestroy (.op i c ⟨o, r⟩) tr := by
    cases o
    case invoke => exact absurd ho (by simp [SdkOp.onList])
    all_goals trivial
  constructor
  · constructor
    · rw [hsame.reference, hinsiders]
      exact hinv.reference
    · rw [hsame.reference]
      exact hinv.bound
    · rw [hsame.list, hsame.allocated]
      exact hinv.allocated
    · intro h hh
      rw [hdestroyed] at hh
      rw [hsame.list, hsame.sessions, hsame.queue]
      exact hinv.queued h hh
    · exact ⟨hsilent, hinv.silent⟩
  · intro j
    constructor
    · rw [hinsiders]
    · rw [hsame.allocated]
    · exact fun x _ => congrFun hsame.sessions x
    · intro _ _ x hx
      rw [hsame.list]
      exact hx
    · intro hmutex
      refine ⟨hsame.mutex.trans hmutex, hsame.list, hsame.queue, hsame.reference, hinsiders, ?_⟩
      exact hdestroyed

/-- The steps of the thread that holds the iterator mutex. -/
lemma keeps_of_mutex (hmutex : s.iteratorMutex = some i) (hinv : DeliveryInv (l :: tr) s')
    (hcount : ∀ j, j ≠ i → (insiders (l :: tr)).count j = (insiders tr).count j)
    (hallocated : s'.allocated = s.allocated) (hsessions : s'.sessions = s.sessions)
    (hlisted : ∀ j, j ≠ i → j = t → j ∈ insiders tr → ∀ x ∈ s.sessionList, x ∈ s'.sessionList) :
    (deliveryProtocol t).Keeps i tr s l s' := by
  refine ⟨hinv, fun j hj => ?_⟩
  constructor
  · exact hcount j hj
  · exact hallocated.ge
  · exact fun x _ => congrFun hsessions x
  · exact hlisted j hj
  · intro hmutex'
    rw [hmutex] at hmutex'
    exact absurd (Option.some.inj hmutex').symm hj

lemma Listed.of_others {P : ℕ → Session → Prop} (hl : Listed P s)
    (hmutex : s.iteratorMutex = some i) (ho : Others t i tr s tr' s') : Listed P s' := by
  intro x hx
  rw [(ho.locked hmutex).list] at hx
  obtain ⟨hlt, hP⟩ := hl x hx
  rw [ho.sessions x hlt]
  exact ⟨hlt.trans_le ho.allocated, hP⟩

lemma Created.of_others {x : ℕ} {d : Session} (h : Created x d s) (ho : Others t i tr s tr' s') :
    Created x d s' :=
  ⟨h.1.trans_le ho.allocated, (ho.sessions x h.1).trans h.2⟩

namespace Delivery

/-- How often the thread is inside, and the sessions that it knows to be in the list when it
is the thread `t`. -/
structure Known (t i : ι) (n : ℕ) (L : List ℕ) (tr : SdkTrace ι) (s : SdkState ι) : Prop where
  count : (insiders tr).count i = n
  listed : i = t → ∀ x ∈ L, x ∈ s.sessionList

/-- The same for a thread that holds the iterator mutex. -/
structure Holds (t i : ι) (n : ℕ) (L : List ℕ) (tr : SdkTrace ι) (s : SdkState ι) : Prop
    extends Known t i n L tr s where
  mutex : s.iteratorMutex = some i

variable {n : ℕ} {L : List ℕ} {α β : Type} {Q : β → SdkTrace ι → SdkState ι → Prop} {x h : ℕ}

lemma Known.of_others (hn : L ≠ [] → 0 < n) (hk : Known t i n L tr s)
    (ho : Others t i tr s tr' s') : Known t i n L tr' s' where
  count := ho.count.trans hk.count
  listed ht x hx := by
    have hpos : 0 < n := hn (List.ne_nil_of_mem hx)
    rw [← hk.count] at hpos
    exact ho.listed ht (List.count_pos_iff.1 hpos) x (hk.listed ht x hx)

lemma Holds.of_others (hk : Holds t i n L tr s) (ho : Others t i tr s tr' s') :
    Holds t i n L tr' s' where
  count := ho.count.trans hk.count
  listed ht x hx := by
    rw [(ho.locked hk.mutex).list]
    exact hk.listed ht x hx
  mutex := (ho.locked hk.mutex).mutex

/-- A thread that is not inside knows of no session. -/
lemma Known.eq_nil (hk : Known t i n L tr s) (hn : L ≠ [] → 0 < n) (halone : insiders tr = []) :
    L = [] := by
  by_contra hL
  have hpos := hn hL
  rw [← hk.count, halone, List.count_nil] at hpos
  exact absurd hpos (lt_irrefl 0)

/-- The steps that do not concern the list. -/
lemma sat_quiet {p : SdkProg α} (hp : p.Uses fun o : SdkOp => o.onList = false) :
    (deliveryProtocol t).Sat (sdkSystem t) i c (fun _ tr' s' => Others t i tr s tr' s') p tr s := by
  refine Protocol.sat_of_uses (P := deliveryProtocol t) ?_ hp
  intro o r tr' s' s'' ho _ hinv hstep _
  obtain ⟨hinv', hothers⟩ := hinv.step (t := t) (c := c) ho hstep
  exact ⟨⟨hinv', fun j _ => hothers j⟩, hothers i⟩

lemma sat_quiet_bind {p : SdkProg α} {f : α → SdkProg β}
    (hp : p.Uses fun o : SdkOp => o.onList = false)
    (hf : ∀ a tr' s', Others t i tr s tr' s' →
      (deliveryProtocol t).Sat (sdkSystem t) i c Q (f a) tr' s') :
    (deliveryProtocol t).Sat (sdkSystem t) i c Q (p >>= f) tr s :=
  (sat_quiet hp).bind fun a tr' s' _ ho => hf a tr' s' ho

/-! ### The interactions on the list -/

/-- `iteratorBegin`. -/
lemma sat_iteratorBegin {f : Unit → SdkProg β} (hn : L ≠ [] → 0 < n) (hk : Known t i n L tr s)
    (hf : ∀ tr' s', Holds t i n L tr' s' → (∀ x d, Created x d s → Created x d s') →
      (deliveryProtocol t).Sat (sdkSystem t) i c Q (f ()) tr' s') :
    (deliveryProtocol t).Sat (sdkSystem t) i c Q (iteratorBegin >>= f) tr s := by
  intro tr' s' hrely hinv r s'' hstep _
  have hk := hk.of_others hn hrely
  obtain ⟨hfree, rfl⟩ := (sdkStep_iteratorBegin r).1 hstep
  have hcreated (x : ℕ) (d : Session) (hx : Created x d s) : Created x d s' :=
    hx.of_others hrely
  refine ⟨⟨?_, fun j hj => ?_⟩, hf _ _ ⟨⟨hk.count, hk.listed⟩, rfl⟩ hcreated⟩
  · exact ⟨hinv.reference, hinv.bound, hinv.allocated, hinv.queued, trivial, hinv.silent⟩
  · refine ⟨rfl, le_rfl, fun _ _ => rfl, fun _ _ _ hx => hx, fun hmutex => ?_⟩
    rw [hfree] at hmutex
    exact absurd hmutex (by simp)

/-- `iteratorEnd`. -/
lemma sat_iteratorEnd (hn : L ≠ [] → 0 < n) (hk : Holds t i n L tr s) :
    (deliveryProtocol t).Sat (sdkSystem t) i c (fun _ => Known t i n L) iteratorEnd tr s := by
  intro tr' s' hrely hinv r s'' hstep _
  have hk := hk.of_others hrely
  obtain rfl := Option.some.inj hstep
  refine ⟨keeps_of_mutex hk.mutex ?_ (fun _ _ => rfl) rfl rfl fun _ _ _ _ _ hx => hx, ?_⟩
  · exact ⟨hinv.reference, hinv.bound, hinv.allocated, hinv.queued, trivial, hinv.silent⟩
  · intro tr'' s'' hrely' _
    have hk' : Known t i n L (.op i c ⟨.iteratorEnd, r⟩ :: tr')
        { s' with iteratorMutex := none } := ⟨hk.count, hk.listed⟩
    exact hk'.of_others hn hrely'

/-- `increaseIterator`. -/
lemma sat_increaseIterator {f : Unit → SdkProg β} (hk : Holds t i n L tr s)
    (hf : ∀ tr' s', Holds t i (n + 1) L tr' s' →
      (deliveryProtocol t).Sat (sdkSystem t) i c Q (f ()) tr' s') :
    (deliveryProtocol t).Sat (sdkSystem t) i c Q (increaseIterator >>= f) tr s := by
  intro tr' s' hrely hinv r s'' hstep hadm
  have hk := hk.of_others hrely
  obtain rfl := Option.some.inj hstep
  have hu32 : u32 (s'.iteratorReference + 1) = s'.iteratorReference + 1 := u32_of_lt hadm
  refine ⟨keeps_of_mutex hk.mutex ?_ ?_ rfl rfl fun _ _ _ _ _ hx => hx, hf _ _ ⟨⟨?_, ?_⟩, ?_⟩⟩
  · refine ⟨?_, ?_, hinv.allocated, hinv.queued, trivial, hinv.silent⟩
    · show u32 (s'.iteratorReference + 1) = (insiders tr').length + 1
      rw [hu32, hinv.reference]
    · exact u32_lt _
  · intro j hj
    exact List.count_cons_of_ne (Ne.symm hj)
  · show (i :: insiders tr').count i = n + 1
    rw [List.count_cons_self, hk.count]
  · exact hk.listed
  · exact hk.mutex

/-- `decreaseIterator`: the count is that of the threads that are left inside. -/
lemma sat_decreaseIterator {f : ℕ → SdkProg β} (hk : Holds t i (n + 1) L tr s)
    (hf : ∀ r tr' s', Holds t i n L tr' s' → (r = 0 → insiders tr' = []) →
      (deliveryProtocol t).Sat (sdkSystem t) i c Q (f r) tr' s') :
    (deliveryProtocol t).Sat (sdkSystem t) i c Q (decreaseIterator >>= f) tr s := by
  intro tr' s' hrely hinv r s'' hstep _
  have hk := hk.of_others hrely
  have hmem : i ∈ insiders tr' := List.count_pos_iff.1 (by rw [hk.count]; exact n.succ_pos)
  obtain ⟨hr, rfl⟩ := SdkState.answer_eq_some.1 hstep
  have hlength : decrement s'.iteratorReference = ((insiders tr').erase i).length := by
    rw [List.length_erase_of_mem hmem, ← hinv.reference]
    refine decrement_of_pos ?_ hinv.bound
    rw [hinv.reference]
    exact List.length_pos_of_mem hmem
  refine ⟨keeps_of_mutex hk.mutex ?_ ?_ rfl rfl fun _ _ _ _ _ hx => hx,
    hf _ _ _ ⟨⟨?_, hk.listed⟩, hk.mutex⟩ ?_⟩
  · refine ⟨hlength, ?_, hinv.allocated, hinv.queued, trivial, hinv.silent⟩
    exact u32_lt _
  · intro j hj
    exact List.count_erase_of_ne hj
  · show ((insiders tr').erase i).count i = n
    rw [List.count_erase_self, hk.count, Nat.add_sub_cancel]
  · intro hzero
    show (insiders tr').erase i = []
    rw [← List.length_eq_zero_iff, ← hlength, ← hr, hzero]

variable {P P' : ℕ → Session → Prop}

/-- `findToDestroy`: by the condition, there is no other session with the handle. -/
lemma sat_findToDestroy {f : Option ℕ → SdkProg β} (hk : Holds t i n L tr s)
    (hf : ∀ r tr' s', Holds t i n L tr' s' →
      Listed (fun x d => d.handle = h → r = some x) s' →
      (deliveryProtocol t).Sat (sdkSystem t) i c Q (f r) tr' s') :
    (deliveryProtocol t).Sat (sdkSystem t) i c Q (findToDestroy h >>= f) tr s := by
  intro tr' s' hrely hinv r s'' hstep hadm
  have hk := hk.of_others hrely
  obtain ⟨hr, rfl⟩ := SdkState.answer_eq_some.1 hstep
  refine ⟨keeps_of_mutex hk.mutex ?_ (fun _ _ => rfl) rfl rfl fun _ _ _ _ _ hx => hx, ?_⟩
  · exact ⟨hinv.reference, hinv.bound, hinv.allocated, hinv.queued, trivial, hinv.silent⟩
  · refine hf r _ _ ⟨⟨hk.count, hk.listed⟩, hk.mutex⟩ fun x hx => ?_
    refine ⟨hinv.allocated x hx, fun hhandle => ?_⟩
    rcases hfind : s''.find h with _ | y
    · exact absurd hhandle (SdkState.find_eq_none hfind x hx)
    · obtain ⟨hy, hyhandle⟩ := SdkState.find_eq_some hfind
      rw [hr, hfind, hadm x hx y hy hhandle hyhandle]

/-- `getIteratorReference`. -/
lemma sat_getIteratorReference {f : ℕ → SdkProg β} (hk : Holds t i n L tr s) (hl : Listed P s)
    (hf : ∀ r tr' s', Holds t i n L tr' s' → Listed P s' → (r = 0 → insiders tr' = []) →
      (deliveryProtocol t).Sat (sdkSystem t) i c Q (f r) tr' s') :
    (deliveryProtocol t).Sat (sdkSystem t) i c Q (getIteratorReference >>= f) tr s := by
  intro tr' s' hrely hinv r s'' hstep _
  have hl := hl.of_others hk.mutex hrely
  have hk := hk.of_others hrely
  obtain ⟨hr, rfl⟩ := SdkState.answer_eq_some.1 hstep
  obtain ⟨hinv', hothers⟩ := hinv.step (t := t) (c := c) (o := .getIteratorReference) rfl hstep
  refine ⟨⟨hinv', fun j _ => hothers j⟩, hf r _ _ (hk.of_others (hothers i)) hl fun hzero => ?_⟩
  show insiders tr' = []
  rw [← List.length_eq_zero_iff, ← hinv.reference, ← hr, hzero]

/-- `destroyed`: what is left with the handle awaits its destruction. -/
lemma sat_destroyed {f : Unit → SdkProg β} (hk : Holds t i n L tr s)
    (hl : Listed (fun x d => d.handle = h → x ∈ s.pendingDestroyQueue) s)
    (hf : ∀ tr' s', Holds t i n L tr' s' →
      (deliveryProtocol t).Sat (sdkSystem t) i c Q (f ()) tr' s') :
    (deliveryProtocol t).Sat (sdkSystem t) i c Q (destroyed h >>= f) tr s := by
  intro tr' s' hrely hinv r s'' hstep _
  have hl := hl.of_others hk.mutex hrely
  rw [← (hrely.locked hk.mutex).queue] at hl
  have hk := hk.of_others hrely
  obtain rfl := Option.some.inj hstep
  refine ⟨keeps_of_mutex hk.mutex ?_ (fun _ _ => rfl) rfl rfl fun _ _ _ _ _ hx => hx, ?_⟩
  · refine ⟨hinv.reference, hinv.bound, hinv.allocated, ?_, trivial, hinv.silent⟩
    intro h' hh' x hx hhandle
    rw [isDestroyed, since_cons] at hh'
    rcases (Bool.or_eq_true _ _).mp hh' with hon | hoff
    · have heq : h = h' := of_decide_eq_true hon
      exact (hl x hx).2 (hhandle.trans heq.symm)
    · rw [Bool.and_eq_true] at hoff
      exact hinv.queued h' hoff.2 x hx hhandle
  · exact hf _ _ ⟨⟨hk.count, hk.listed⟩, hk.mutex⟩

/-- `pushPending`. -/
lemma sat_pushPending {f : Unit → SdkProg β} (hk : Holds t i n L tr s) (hl : Listed P s)
    (hf : ∀ tr' s', Holds t i n L tr' s' → Listed P s' → x ∈ s'.pendingDestroyQueue →
      (deliveryProtocol t).Sat (sdkSystem t) i c Q (f ()) tr' s') :
    (deliveryProtocol t).Sat (sdkSystem t) i c Q (pushPending x >>= f) tr s := by
  intro tr' s' hrely hinv r s'' hstep _
  have hl := hl.of_others hk.mutex hrely
  have hk := hk.of_others hrely
  obtain rfl := Option.some.inj hstep
  refine ⟨keeps_of_mutex hk.mutex ?_ (fun _ _ => rfl) rfl rfl fun _ _ _ _ _ hx => hx, ?_⟩
  · refine ⟨hinv.reference, hinv.bound, hinv.allocated, ?_, trivial, hinv.silent⟩
    intro h hh y hy hhandle
    exact List.mem_append_left _ (hinv.queued h hh y hy hhandle)
  · refine hf _ _ ⟨⟨hk.count, hk.listed⟩, hk.mutex⟩ hl ?_
    exact List.mem_append_right _ (List.mem_singleton_self x)

/-- `pushFront`. -/
lemma sat_pushFront {f : Unit → SdkProg β} {d : Session} (hk : Holds t i n L tr s)
    (hx : Created x d s)
    (hh : d.handle = h)
    (hf : ∀ tr' s', Holds t i n L tr' s' →
      (deliveryProtocol t).Sat (sdkSystem t) i c Q (f ()) tr' s') :
    (deliveryProtocol t).Sat (sdkSystem t) i c Q (pushFront x h >>= f) tr s := by
  intro tr' s' hrely hinv r s'' hstep _
  have hx := hx.of_others hrely
  have hhandle : (s'.sessions x).handle = h := by rw [hx.2, hh]
  have hk := hk.of_others hrely
  obtain rfl := Option.some.inj hstep
  refine ⟨keeps_of_mutex hk.mutex ?_ (fun _ _ => rfl) rfl rfl
    fun _ _ _ _ _ hy => List.mem_cons_of_mem x hy, ?_⟩
  · refine ⟨hinv.reference, hinv.bound, fun y hy => ?_, ?_, trivial, hinv.silent⟩
    · rcases List.mem_cons.1 hy with rfl | hy
      · exact hx.1
      · exact hinv.allocated y hy
    · intro h' hh' y hy hyhandle
      rw [isDestroyed, since_cons] at hh'
      have hoff : creates h' (.op i c ⟨.pushFront x h, r⟩) = false ∧ isDestroyed h' tr' = true := by
        simpa [destroys, isDestroyed] using hh'
      have hne : h ≠ h' := of_decide_eq_false hoff.1
      rcases List.mem_cons.1 hy with rfl | hy
      · exact absurd (hhandle.symm.trans hyhandle) hne
      · exact hinv.queued h' hoff.2 y hy hyhandle
  · exact hf _ _ ⟨⟨hk.count, fun ht y hy => List.mem_cons_of_mem x (hk.listed ht y hy)⟩, hk.mutex⟩

/-! ### Removing sessions from the list -/

/-- The thread removes sessions from the list: it is the thread `t`, or nobody is inside. -/
structure Removing (t i : ι) (n : ℕ) (P : ℕ → Session → Prop) (pending : List ℕ)
    (tr : SdkTrace ι) (s : SdkState ι) : Prop extends Holds t i n [] tr s where
  alone : i = t ∨ insiders tr = []
  listed' : Listed P s
  queue : s.pendingDestroyQueue = pending

variable {pending : List ℕ}

lemma Removing.of_others (hr : Removing t i n P pending tr s) (ho : Others t i tr s tr' s') :
    Removing t i n P pending tr' s' where
  toHolds := hr.toHolds.of_others ho
  alone := hr.alone.imp_right fun h => (ho.locked hr.mutex).insiders.trans h
  listed' := hr.listed'.of_others hr.mutex ho
  queue := (ho.locked hr.mutex).queue.trans hr.queue

/-- `remove`. -/
lemma sat_remove (hr : Removing t i n P pending tr s) :
    (deliveryProtocol t).Sat (sdkSystem t) i c
      (fun _ => Removing t i n (fun y d => P y d ∧ y ≠ x) pending) (remove x) tr s := by
  intro tr' s' hrely hinv r s'' hstep _
  have hr := hr.of_others hrely
  obtain rfl := Option.some.inj hstep
  have hmem {y : ℕ} : y ∈ s'.sessionList.filter (fun z => decide (z ≠ x)) ↔
      y ∈ s'.sessionList ∧ y ≠ x := by
    rw [List.mem_filter, decide_eq_true_eq]
  refine ⟨keeps_of_mutex hr.mutex ?_ (fun _ _ => rfl) rfl rfl ?_, ?_⟩
  · refine ⟨hinv.reference, hinv.bound, fun y hy => ?_, fun h hh y hy hhandle => ?_, trivial,
      hinv.silent⟩
    · exact hinv.allocated y (hmem.1 hy).1
    · exact hinv.queued h hh y (hmem.1 hy).1 hhandle
  · intro j hj ht hi
    rcases hr.alone with halone | halone
    · exact absurd (ht.trans halone.symm) hj
    · rw [halone] at hi
      exact absurd hi List.not_mem_nil
  · intro tr'' s'' hrely' _
    refine Removing.of_others ?_ hrely'
    refine ⟨⟨⟨hr.count, fun _ _ hy => absurd hy List.not_mem_nil⟩, hr.mutex⟩, hr.alone,
      fun y hy => ?_, hr.queue⟩
    obtain ⟨hy, hne⟩ := hmem.1 hy
    exact ⟨(hr.listed' y hy).1, (hr.listed' y hy).2, hne⟩

lemma sat_deleteAndRemove (hr : Removing t i n P pending tr s) :
    (deliveryProtocol t).Sat (sdkSystem t) i c
      (fun _ => Removing t i n (fun y d => P y d ∧ y ≠ x) pending) (deleteAndRemove x) tr s :=
  sat_quiet_bind (uses_deleteSession onList_of_onSession) fun _ _ _ ho =>
    sat_remove (hr.of_others ho)

/-- A loop of removals. -/
lemma sat_forEach_deleteAndRemove (l : List ℕ) (hr : Removing t i n P pending tr s) :
    (deliveryProtocol t).Sat (sdkSystem t) i c
      (fun _ => Removing t i n (fun y d => P y d ∧ y ∉ l) pending)
      (forEach l deleteAndRemove) tr s := by
  induction l generalizing P tr s with
  | nil =>
      intro tr' s' hrely _
      have hr := hr.of_others hrely
      exact ⟨hr.toHolds, hr.alone, hr.listed'.mono fun _ _ _ h => ⟨h, List.not_mem_nil⟩, hr.queue⟩
  | cons x l ih =>
      refine (sat_deleteAndRemove hr).bind fun _ tr' s' _ hr => ?_
      refine (ih hr).mono fun _ tr' s' _ hr => ?_
      refine ⟨hr.toHolds, hr.alone, hr.listed'.mono fun y _ d h => ?_, hr.queue⟩
      obtain ⟨⟨hP, hne⟩, hl⟩ := h
      exact ⟨hP, fun hy => (List.mem_cons.1 hy).elim hne hl⟩

/-- `m_PendingDestroyQueue.clear`, when no session of the list is queued. -/
lemma sat_clearPending {f : Unit → SdkProg β}
    (hr : Removing t i n (fun y d => P y d ∧ y ∉ pending) pending tr s)
    (hf : ∀ tr' s', Holds t i n [] tr' s' →
      (deliveryProtocol t).Sat (sdkSystem t) i c Q (f ()) tr' s') :
    (deliveryProtocol t).Sat (sdkSystem t) i c Q (clearPending >>= f) tr s := by
  intro tr' s' hrely hinv r s'' hstep _
  have hr := hr.of_others hrely
  obtain rfl := Option.some.inj hstep
  refine ⟨keeps_of_mutex hr.mutex ?_ (fun _ _ => rfl) rfl rfl fun _ _ _ _ _ hx => hx, ?_⟩
  · refine ⟨hinv.reference, hinv.bound, hinv.allocated, ?_, trivial, hinv.silent⟩
    intro h hh y hy hhandle
    have hpending := hinv.queued h hh y hy hhandle
    rw [hr.queue] at hpending
    exact absurd hpending (hr.listed' y hy).2.2
  · exact hf _ _ ⟨⟨hr.count, hr.listed⟩, hr.mutex⟩

/-! ### The functions of the session manager -/

lemma sat_iteratorCriticalSectionEnter (hn : L ≠ [] → 0 < n) (hk : Known t i n L tr s) :
    (deliveryProtocol t).Sat (sdkSystem t) i c (fun _ => Known t i (n + 1) L)
      iteratorCriticalSectionEnter tr s := by
  refine sat_iteratorBegin hn hk fun tr s hk _ => ?_
  refine sat_increaseIterator hk fun tr s hk => ?_
  exact sat_iteratorEnd (fun _ => n.succ_pos) hk

lemma sat_iteratorCriticalSectionExit (hn : L ≠ [] → 0 < n) (hk : Known t i (n + 1) L tr s) :
    (deliveryProtocol t).Sat (sdkSystem t) i c (fun _ => Known t i n L)
      iteratorCriticalSectionExit tr s := by
  refine sat_iteratorBegin (fun _ => n.succ_pos) hk fun tr s hk _ => ?_
  refine sat_decreaseIterator hk fun r tr s hk hzero => ?_
  refine Protocol.Sat.ite (fun hr => ?_) fun _ => sat_iteratorEnd hn hk
  -- nobody is inside: in particular, the thread knows of no session
  have halone := hzero hr
  obtain rfl := hk.eq_nil hn halone
  intro tr' s' hrely hinv pending s'' hstep _
  have halone : insiders tr' = [] := (hrely.locked hk.mutex).insiders.trans halone
  have hk := hk.of_others hrely
  obtain ⟨rfl, rfl⟩ := SdkState.answer_eq_some.1 hstep
  obtain ⟨hinv', hothers⟩ := hinv.step (t := t) (c := c) (o := .getPendingQueue) rfl hstep
  refine ⟨⟨hinv', fun j _ => hothers j⟩, ?_⟩
  have hr : Removing t i n (fun _ _ => True) s''.pendingDestroyQueue
      (.op i c ⟨.getPendingQueue, s''.pendingDestroyQueue⟩ :: tr') s'' :=
    ⟨hk.of_others (hothers i), .inr halone, fun x hx => ⟨hinv.allocated x hx, trivial⟩, rfl⟩
  refine (sat_forEach_deleteAndRemove _ hr).bind fun _ tr s _ hr => ?_
  exact sat_clearPending hr fun tr s hk => sat_iteratorEnd hn hk

lemma sat_destroyed_iteratorEnd (hn : L ≠ [] → 0 < n) (hk : Holds t i n L tr s)
    (hl : Listed (fun x d => d.handle = h → x ∈ s.pendingDestroyQueue) s) :
    (deliveryProtocol t).Sat (sdkSystem t) i c (fun _ => Known t i n L)
      (destroyed h >>= fun _ => iteratorEnd) tr s :=
  sat_destroyed hk hl fun _ _ hk => sat_iteratorEnd hn hk

lemma sat_destroySession (hn : L ≠ [] → 0 < n) (hk : Known t i n L tr s) :
    (deliveryProtocol t).Sat (sdkSystem t) i c (fun _ => Known t i n L) (destroySession h)
      tr s := by
  refine sat_iteratorBegin hn hk fun tr s hk _ => ?_
  refine sat_findToDestroy hk fun found tr s hk hl => ?_
  rcases found with _ | x
  · refine sat_destroyed_iteratorEnd hn hk (hl.mono fun y _ d hnone hhandle => ?_)
    exact absurd (hnone hhandle) (by simp)
  · refine sat_getIteratorReference hk hl fun reference tr s hk hl hzero => ?_
    refine Protocol.Sat.ite (fun _ => ?_) fun hpos => ?_
    -- the session is queued
    · refine sat_pushPending hk hl fun tr s hk hl hx => ?_
      refine sat_destroyed_iteratorEnd hn hk (hl.mono fun y _ d honly hhandle => ?_)
      rw [← Option.some.inj (honly hhandle)]
      exact hx
    -- nobody is inside: the session is deleted and removed
    · have halone := hzero (Nat.eq_zero_of_not_pos hpos)
      obtain rfl := hk.eq_nil hn halone
      have hr : Removing t i n (fun y d => d.handle = h → some x = some y)
          s.pendingDestroyQueue tr s := ⟨hk, .inr halone, hl, rfl⟩
      refine (sat_deleteAndRemove hr).bind fun _ tr s _ hr => ?_
      refine sat_destroyed_iteratorEnd hn hr.toHolds (hr.listed'.mono fun y _ d h hhandle => ?_)
      exact absurd (Option.some.inj (h.1 hhandle)).symm h.2

lemma sat_destroyCallback (hk : Known t t n [] tr s) :
    (deliveryProtocol t).Sat (sdkSystem t) t c (fun _ => Known t t n []) destroyCallback tr s := by
  have hn : ([] : List ℕ) ≠ [] → 0 < n := fun h => absurd rfl h
  refine sat_iteratorBegin hn hk fun tr s hk _ => ?_
  intro tr' s' hrely hinv sessions s'' hstep _
  have hk := hk.of_others hrely
  obtain ⟨rfl, rfl⟩ := SdkState.answer_eq_some.1 hstep
  obtain ⟨hinv', hothers⟩ := hinv.step (t := t) (c := c) (o := .getSessionList) rfl hstep
  refine ⟨⟨hinv', fun j _ => hothers j⟩, ?_⟩
  have hr : Removing t t n (fun _ _ => True) s''.pendingDestroyQueue
      (.op t c ⟨.getSessionList, s''.sessionList⟩ :: tr') s'' :=
    ⟨hk.of_others (hothers t), .inl rfl, fun x hx => ⟨hinv.allocated x hx, trivial⟩, rfl⟩
  refine (sat_forEach_deleteAndRemove _ hr).bind fun _ tr s _ hr => ?_
  refine sat_quiet_bind (Prog.uses_op.2 rfl) fun _ tr' s' ho => ?_
  exact sat_iteratorEnd hn (hr.toHolds.of_others ho)

/-- `newSession`. -/
lemma sat_newSession {f : Option ℕ → SdkProg β} {d : Session} (hn : L ≠ [] → 0 < n)
    (hk : Known t i n L tr s)
    (hf : ∀ r tr' s', Known t i n L tr' s' → (∀ x, r = some x → Created x d s') →
      (deliveryProtocol t).Sat (sdkSystem t) i c Q (f r) tr' s') :
    (deliveryProtocol t).Sat (sdkSystem t) i c Q (newSession d >>= f) tr s := by
  intro tr' s' hrely hinv r s'' hstep _
  have hk := hk.of_others hn hrely
  rcases (sdkStep_newSession i r).1 hstep with ⟨rfl, rfl⟩ | ⟨rfl, rfl⟩
  -- the memory is exhausted
  · refine ⟨⟨?_, fun j _ => ?_⟩, hf none _ _ ⟨hk.count, hk.listed⟩ fun x hx => absurd hx (by simp)⟩
    · exact ⟨hinv.reference, hinv.bound, hinv.allocated, hinv.queued, trivial, hinv.silent⟩
    · refine ⟨rfl, le_rfl, fun _ _ => rfl, fun _ _ _ hx => hx, fun hmutex => ?_⟩
      exact ⟨hmutex, rfl, rfl, rfl, rfl, fun _ => rfl⟩
  · have hold (x : ℕ) (hx : x < s'.allocated) :
        Function.update s'.sessions s'.allocated d x = s'.sessions x :=
      Function.update_of_ne hx.ne _ _
    refine ⟨⟨?_, fun j _ => ?_⟩, hf _ _ _ ⟨hk.count, hk.listed⟩ fun x hx => ?_⟩
    · refine ⟨hinv.reference, hinv.bound, fun x hx => ?_, fun h hh x hx hhandle => ?_, trivial,
        hinv.silent⟩
      · exact Nat.lt_succ_of_lt (hinv.allocated x hx)
      · have hhandle : (s'.sessions x).handle = h := by
          rw [← hold x (hinv.allocated x hx)]
          exact hhandle
        exact hinv.queued h hh x hx hhandle
    · refine ⟨rfl, Nat.le_succ _, hold, fun _ _ _ hx => hx, fun hmutex => ?_⟩
      exact ⟨hmutex, rfl, rfl, rfl, rfl, fun _ => rfl⟩
    · obtain rfl := Option.some.inj hx
      exact ⟨Nat.lt_succ_self _, Function.update_self _ _ _⟩

lemma sat_createSession {func : Option ℕ} {context : ℕ} (hn : L ≠ [] → 0 < n)
    (hk : Known t i n L tr s) :
    (deliveryProtocol t).Sat (sdkSystem t) i c (fun _ => Known t i n L)
      (createSession func context) tr s := by
  have hret {tr : SdkTrace ι} {s : SdkState ι} (r : ℕ) (hk : Known t i n L tr s) :
      (deliveryProtocol t).Sat (sdkSystem t) i c (fun _ => Known t i n L) (.ret r) tr s :=
    fun _ _ hrely _ => hk.of_others hn hrely
  refine sat_quiet_bind (Prog.uses_op.2 rfl) fun handle tr s ho => ?_
  have hk := hk.of_others hn ho
  refine sat_quiet_bind (Prog.uses_op.2 rfl) fun initialized tr s ho => ?_
  have hk := hk.of_others hn ho
  refine Protocol.Sat.ite (fun _ => hret _ hk) fun _ => ?_
  refine sat_newSession hn hk fun session tr s hk hx => ?_
  rcases session with _ | x
  · exact hret _ hk
  have hx := hx x rfl
  refine sat_quiet_bind (Prog.uses_op.2 rfl) fun valid tr s ho => ?_
  have hk := hk.of_others hn ho
  have hx := hx.of_others ho
  refine Protocol.Sat.ite (fun _ => ?_) fun _ => ?_
  · refine sat_quiet_bind (uses_deleteSession onList_of_onSession) fun _ tr s ho => ?_
    exact hret _ (hk.of_others hn ho)
  · refine sat_iteratorBegin hn hk fun tr s hk hsame => ?_
    refine sat_pushFront hk (hsame x _ hx) rfl fun tr s hk => ?_
    exact (sat_iteratorEnd hn hk).bind fun _ tr s _ hk => hret _ hk

lemma sat_getInstance (hn : L ≠ [] → 0 < n) (hk : Known t i n L tr s) :
    (deliveryProtocol t).Sat (sdkSystem t) i c (fun _ => Known t i n L) (getInstance h) tr s := by
  have hpos : L ≠ [] → 0 < n + 1 := fun _ => n.succ_pos
  have hexit {tr : SdkTrace ι} {s : SdkState ι} (r : Option ℕ) (hk : Known t i (n + 1) L tr s) :
      (deliveryProtocol t).Sat (sdkSystem t) i c (fun _ => Known t i n L)
        (iteratorCriticalSectionExit >>= fun _ => .ret r) tr s :=
    (sat_iteratorCriticalSectionExit hn hk).bind fun _ _ _ _ hk _ _ hrely _ =>
      hk.of_others hn hrely
  refine (sat_iteratorCriticalSectionEnter hn hk).bind fun _ tr s _ hk => ?_
  refine sat_quiet_bind (Prog.uses_op.2 rfl) fun found tr s ho => ?_
  have hk := hk.of_others hpos ho
  rcases found with _ | x
  · exact hexit none hk
  refine sat_quiet_bind (Prog.uses_op.2 rfl) fun pending tr s ho => ?_
  have hk := hk.of_others hpos ho
  refine Protocol.Sat.ite (fun _ => hexit none hk) fun _ => ?_
  refine sat_quiet_bind (uses_increaseReference onList_of_onSession) fun _ tr s ho => ?_
  exact hexit (some x) (hk.of_others hpos ho)

lemma sat_putInstance (hn : L ≠ [] → 0 < n) (hk : Known t i n L tr s) :
    (deliveryProtocol t).Sat (sdkSystem t) i c (fun _ => Known t i n L) (putInstance h) tr s := by
  have hpos : L ≠ [] → 0 < n + 1 := fun _ => n.succ_pos
  refine (sat_iteratorCriticalSectionEnter hn hk).bind fun _ tr s _ hk => ?_
  refine sat_quiet_bind (Prog.uses_op.2 rfl) fun found tr s ho => ?_
  have hk := hk.of_others hpos ho
  rcases found with _ | x
  · exact sat_iteratorCriticalSectionExit hn hk
  refine sat_quiet_bind (uses_decreaseReference onList_of_onSession) fun _ tr s ho => ?_
  exact sat_iteratorCriticalSectionExit hn (hk.of_others hpos ho)

/-! ### The entry points -/

lemma sat_apiCall (hn : L ≠ [] → 0 < n) (call : ApiCall) (hk : Known t i n L tr s) :
    (deliveryProtocol t).Sat (sdkSystem t) i c (fun _ => Known t i n L) (apiCall call) tr s := by
  have hret {tr : SdkTrace ι} {s : SdkState ι} (hk : Known t i n L tr s) :
      (deliveryProtocol t).Sat (sdkSystem t) i c (fun _ => Known t i n L) (.ret ()) tr s :=
    fun _ _ hrely _ => hk.of_others hn hrely
  cases call with
  | create func context =>
      refine (sat_createSession hn hk).bind fun handle tr s _ hk => ?_
      refine Protocol.Sat.ite (fun _ => hret hk) fun _ => ?_
      refine (sat_getInstance hn hk).bind fun session tr s _ hk => ?_
      rcases session with _ | x
      · exact hret hk
      refine sat_quiet_bind (Prog.uses_op.2 rfl) fun successful tr s ho => ?_
      refine (sat_putInstance hn (hk.of_others hn ho)).bind fun _ tr s _ hk => ?_
      exact Protocol.Sat.ite (fun _ => sat_destroySession hn hk) fun _ => hret hk
  | destroy handle => exact sat_destroySession hn hk
  | request handle =>
      refine (sat_getInstance hn hk).bind fun session tr s _ hk => ?_
      rcases session with _ | x
      · exact hret hk
      refine sat_quiet_bind (Prog.uses_op.2 rfl) fun _ tr s ho => ?_
      exact sat_putInstance hn (hk.of_others hn ho)

/-! ### The callback thread -/

/-- `invoke`, for a session of the list: by the condition, it is not queued. -/
lemma sat_invoke {f : List ApiCall → SdkProg β} {func : ℕ} {d : Session}
    (hn : L ≠ [] → 0 < n) (hk : Known t t n L tr s) (hL : x ∈ L) (hx : Created x d s)
    (hf : ∀ r tr' s', Known t t n L tr' s' →
      (deliveryProtocol t).Sat (sdkSystem t) t c Q (f r) tr' s') :
    (deliveryProtocol t).Sat (sdkSystem t) t c Q (invoke func d.handle d.context >>= f) tr s := by
  intro tr' s' hrely hinv r s'' hstep hadm
  have hk := hk.of_others hn hrely
  have hx := hx.of_others hrely
  obtain rfl := Option.some.inj hstep
  have hsilent : isDestroyed d.handle tr' = false := by
    by_contra hdestroyed
    have hhandle : (s'.sessions x).handle = d.handle := by rw [hx.2]
    have hqueued := hinv.queued _ (Bool.not_eq_false _ ▸ hdestroyed) x (hk.listed rfl x hL) hhandle
    exact hadm x hqueued hhandle
  refine ⟨⟨?_, fun j _ => ?_⟩, hf r _ _ ⟨hk.count, hk.listed⟩⟩
  · exact ⟨hinv.reference, hinv.bound, hinv.allocated, hinv.queued, hsilent, hinv.silent⟩
  · refine ⟨rfl, le_rfl, fun _ _ => rfl, fun _ _ _ hy => hy, fun hmutex => ?_⟩
    exact ⟨hmutex, rfl, rfl, rfl, rfl, fun _ => rfl⟩

lemma sat_apiCalls (hn : L ≠ [] → 0 < n) (calls : List ApiCall) (hk : Known t i n L tr s) :
    (deliveryProtocol t).Sat (sdkSystem t) i c (fun _ => Known t i n L)
      (forEach calls apiCall) tr s := by
  induction calls generalizing tr s with
  | nil => exact fun _ _ hrely _ => hk.of_others hn hrely
  | cons call calls ih => exact (sat_apiCall hn call hk).bind fun _ _ _ _ hk => ih hk

/-- `getSession`, for a session of the list. -/
lemma sat_getSession {f : Session → SdkProg β} (hn : L ≠ [] → 0 < n) (hk : Known t t n L tr s)
    (hL : x ∈ L)
    (hf : ∀ d tr' s', Known t t n L tr' s' → Created x d s' →
      (deliveryProtocol t).Sat (sdkSystem t) t c Q (f d) tr' s') :
    (deliveryProtocol t).Sat (sdkSystem t) t c Q (getSession x >>= f) tr s := by
  intro tr' s' hrely hinv d s'' hstep _
  have hk := hk.of_others hn hrely
  obtain ⟨hd, rfl⟩ := SdkState.answer_eq_some.1 hstep
  obtain ⟨hinv', hothers⟩ := hinv.step (t := t) (c := c) (o := .getSession x) rfl hstep
  refine ⟨⟨hinv', fun j _ => hothers j⟩, hf d _ _ (hk.of_others hn (hothers t)) ?_⟩
  exact ⟨hinv.allocated x (hk.listed rfl x hL), hd.symm⟩

lemma sat_deliverTo (hn : L ≠ [] → 0 < n) (hk : Known t t n L tr s) (hL : x ∈ L) :
    (deliveryProtocol t).Sat (sdkSystem t) t c (fun _ => Known t t n L) (deliverTo x) tr s := by
  refine sat_getSession hn hk hL fun d tr s hk hx => ?_
  rcases d.callBack with _ | func
  · exact fun _ _ hrely _ => hk.of_others hn hrely
  · exact sat_invoke hn hk hL hx fun calls tr s hk => sat_apiCalls hn calls hk

/-- The loop over the sessions, each of which stays in the list. -/
lemma sat_forEach_deliverTo (hn : L ≠ [] → 0 < n) (hk : Known t t n L tr s) :
    ∀ l : List ℕ, (∀ x ∈ l, x ∈ L) →
      (deliveryProtocol t).Sat (sdkSystem t) t c (fun _ => Known t t n L)
        (forEach l deliverTo) tr s := by
  intro l
  induction l generalizing tr s with
  | nil => exact fun _ _ _ hrely _ => hk.of_others hn hrely
  | cons x l ih =>
      intro hl
      refine (sat_deliverTo hn hk (hl x List.mem_cons_self)).bind fun _ tr' s' _ hk => ?_
      exact ih hk fun y hy => hl y (List.mem_cons_of_mem x hy)

lemma sat_deliver (hk : Known t t n [] tr s) :
    (deliveryProtocol t).Sat (sdkSystem t) t c (fun _ => Known t t n []) deliver tr s := by
  have hnil : ([] : List ℕ) ≠ [] → 0 < n := fun h => absurd rfl h
  refine (sat_iteratorCriticalSectionEnter hnil hk).bind fun _ tr s _ hk => ?_
  intro tr' s' hrely hinv sessions s'' hstep _
  have hk := hk.of_others (fun _ => n.succ_pos) hrely
  obtain ⟨rfl, rfl⟩ := SdkState.answer_eq_some.1 hstep
  obtain ⟨hinv', hothers⟩ := hinv.step (t := t) (c := c) (o := .getSessionList) rfl hstep
  refine ⟨⟨hinv', fun j _ => hothers j⟩, ?_⟩
  have hk : Known t t (n + 1) s''.sessionList
      (.op t c ⟨.getSessionList, s''.sessionList⟩ :: tr') s'' := ⟨hk.count, fun _ x hx => hx⟩
  have hloop := sat_forEach_deliverTo (c := c) (fun _ => n.succ_pos) hk s''.sessionList
    fun x hx => hx
  refine hloop.bind fun _ tr s _ hk => ?_
  exact sat_iteratorCriticalSectionExit hnil ⟨hk.count, fun _ _ hx => absurd hx List.not_mem_nil⟩

/-! ### The calls -/

lemma sat_callBody (hmay : sdkMay t i c = true) (hk : Known t i n [] tr s) :
    (deliveryProtocol t).Sat (sdkSystem t) i c (fun _ => Known t i n []) (callBody c) tr s := by
  cases c with
  | api call => exact sat_apiCall (fun h => absurd rfl h) call hk
  | deliver =>
      obtain rfl : i = t := of_decide_eq_true hmay
      exact sat_deliver hk
  | disconnect =>
      obtain rfl : i = t := of_decide_eq_true hmay
      exact sat_destroyCallback hk

/-- Calls and returns do not concern the list. -/
lemma keeps_of_eq (hinv : DeliveryInv tr s) (hinsiders : insiders (l :: tr) = insiders tr)
    (hdestroyed : ∀ h, isDestroyed h (l :: tr) = isDestroyed h tr)
    (hsilent : SilentAfterDestroy l tr) : (deliveryProtocol t).Keeps i tr s l s := by
  constructor
  · refine ⟨?_, hinv.bound, hinv.allocated, fun h hh => ?_, hsilent, hinv.silent⟩
    · rw [hinsiders]
      exact hinv.reference
    · rw [hdestroyed] at hh
      exact hinv.queued h hh
  · intro j _
    refine ⟨?_, le_rfl, fun _ _ => rfl, fun _ _ _ hx => hx, fun hmutex => ?_⟩
    · rw [hinsiders]
    · exact ⟨hmutex, rfl, rfl, rfl, hinsiders, hdestroyed⟩

lemma inv_of_run {cfg : SdkConfig ι}
    (hrun : (sdkSystem t).Run deliveryCondition initState tr cfg) :
    DeliveryInv tr cfg.shared := by
  refine (Protocol.sound (P := deliveryProtocol t) ?_ ?_ hrun).1
  · refine ⟨rfl, ?_, fun x hx => absurd hx List.not_mem_nil, fun h hh => ?_, trivial⟩
    · exact Nat.two_pow_pos 32
    · exact absurd hh Bool.false_ne_true
  · intro i c tr s hmay _ hinv _
    refine ⟨keeps_of_eq hinv rfl (fun _ => rfl) trivial, ?_⟩
    have hk : Known t i ((insiders tr).count i) [] (.call i c :: tr) s :=
      ⟨rfl, fun _ _ hx => absurd hx List.not_mem_nil⟩
    refine (sat_callBody hmay hk).mono fun a tr' s' hinv' _ _ => ?_
    exact keeps_of_eq hinv' rfl (fun _ => rfl) trivial

end Delivery

/-- In every run in which `CallBackManager` invokes no callback function for the handle of a
queued session, handles are unique when they are destroyed, and the iterator count does not
overflow, no callback function is invoked for a destroyed handle. -/
theorem no_callback_after_destroy {cfg : SdkConfig ι}
    (hrun : (sdkSystem t).Run deliveryCondition initState tr cfg) :
    EveryStep SilentAfterDestroy tr :=
  (Delivery.inv_of_run hrun).silent

/-- A session is created, an event is delivered to it, and it is destroyed; another event
follows. -/
def createDeliverDestroy : List (SdkAction ℕ) :=
  createCall 1 1 5 ++
    System.completeCall 0 .deliver 11 (sdkAnswer false []) ++
    System.completeCall 1 (.api (.destroy 1)) 10 (sdkAnswer false []) ++
    System.completeCall 0 .deliver 9 (sdkAnswer false [])

/-- The queue is empty when a callback function is invoked, and there is one session. -/
def nothingPending : SdkTrace ℕ → SdkState ℕ → SdkLabel ℕ → Bool
  | _, s, .op _ _ ⟨.invoke _ _ _, _⟩ => s.pendingDestroyQueue.isEmpty
  | _, s, .op _ _ ⟨.findToDestroy _, _⟩ => s.sessionList.length ≤ 1
  | _, s, .op _ _ ⟨.increaseIterator, _⟩ => s.iteratorReference + 1 < 2 ^ 32
  | _, _, _ => true

lemma uniqueHandle_of_length_le {s : SdkState ℕ} (h : s.sessionList.length ≤ 1) (handle : ℕ) :
    UniqueHandle s handle := by
  intro x hx y hy _ _
  rcases hlist : s.sessionList with _ | ⟨z, l⟩
  · rw [hlist] at hx
    exact absurd hx List.not_mem_nil
  · have hl : l = [] := by
      rw [hlist, List.length_cons] at h
      exact List.eq_nil_of_length_eq_zero (Nat.le_zero.1 (Nat.le_of_succ_le_succ h))
    rw [hlist, hl, List.mem_singleton] at hx hy
    rw [hx, hy]

lemma deliveryCondition_of_nothingPending (tr : SdkTrace ℕ) (s : SdkState ℕ) (l : SdkLabel ℕ)
    (h : nothingPending tr s l) : deliveryCondition tr s l := by
  rw [deliveryCondition.eq_def]
  split
  · intro x hx
    rw [List.isEmpty_iff.1 h] at hx
    exact absurd hx List.not_mem_nil
  · exact uniqueHandle_of_length_le (of_decide_eq_true h) _
  · exact of_decide_eq_true h
  · trivial

/-- The label is an invocation of a callback function. -/
def isInvocation : SdkLabel ℕ → Bool
  | .op _ _ ⟨.invoke _ _ _, _⟩ => true
  | _ => false

theorem no_callback_after_destroy_createDeliverDestroy :
    ∃ x, scheduled nothingPending createDeliverDestroy = some x ∧ x.1.any isInvocation = true ∧
      isDestroyed 1 x.1 = true ∧ EveryStep SilentAfterDestroy x.1 := by
  obtain ⟨x, hx, hrun, htest⟩ := exists_run_of_scheduled nothingPending
    deliveryCondition_of_nothingPending createDeliverDestroy
    (fun x => x.1.any isInvocation && isDestroyed 1 x.1) (by decide)
  rw [Bool.and_eq_true] at htest
  exact ⟨x, hx, htest.1, htest.2, no_callback_after_destroy hrun⟩

/-- `HDCPDestroy` of the first session returns while an event is delivered to the second one;
the delivery goes on. -/
def destroyDuringDelivery : List (SdkAction ℕ) :=
  createCall 1 1 5 ++ createCall 1 2 6 ++ .call 0 .deliver :: steps 0 6 (sdkAnswer false []) ++
    System.completeCall 1 (.api (.destroy 1)) 6 (sdkAnswer false []) ++
    steps 0 2 (sdkAnswer false [])

/-- The last step invokes the callback function of the handle 1, which has been destroyed. -/
def invokesDestroyed : SdkTrace ℕ → Bool
  | .op _ _ ⟨.invoke _ 1 _, _⟩ :: tr => isDestroyed 1 tr
  | _ => false

/-- `HDCPDestroy` has returned for the handle 1. -/
def destroyReturned : SdkLabel ℕ → Bool
  | .ret _ (.api (.destroy 1)) _ => true
  | _ => false

lemma not_silent_of_invokesDestroyed {tr : SdkTrace ℕ} (h : invokesDestroyed tr = true) :
    ¬EveryStep SilentAfterDestroy tr := by
  rw [invokesDestroyed.eq_def] at h
  split at h
  · intro hevery
    exact absurd (hevery.1.symm.trans h) Bool.false_ne_true
  · exact absurd h Bool.false_ne_true

theorem callback_after_destroy :
    ∃ x, scheduled (fun _ _ _ => true) destroyDuringDelivery = some x ∧
      (sdkSystem 0).AnyRun initState x.1 x.2 ∧ x.1.any destroyReturned = true ∧
      ¬EveryStep SilentAfterDestroy x.1 := by
  obtain ⟨x, hx, hrun, htest⟩ := exists_run_of_scheduled (fun _ _ _ => true)
    (C := fun _ _ _ => True) (fun _ _ _ _ => trivial) destroyDuringDelivery
    (fun x => x.1.any destroyReturned && invokesDestroyed x.1) (by decide)
  rw [Bool.and_eq_true] at htest
  exact ⟨x, hx, hrun, htest.1, not_silent_of_invokesDestroyed htest.2⟩

end Hdcp.Sdk
