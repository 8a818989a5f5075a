/-
When the session manager cannot deadlock.

The locks are `m_IteratorMutex` and, above it, the `m_ReferenceMutex` of each session; all
functions take them in this order.  What breaks the order is the destructor: it waits on
the condition variable of a session while its caller holds `m_IteratorMutex`, which
`PutInstance` needs to return the reference.  In the runs in which every destructor finds
no reference nobody waits but for a lock, and the order of the locks rules out deadlocks.
-/
import Hdcp.Library.Locks
import Hdcp.Sdk.Steps

namespace Hdcp.Sdk

open Library
open Library.Prog (op forEach)

variable {ι : Type} [DecidableEq ι]

/-- The locks of the session manager. -/
inductive SdkLock where
  | iterator
  | reference (session : ℕ)
deriving DecidableEq, Repr

/-- `m_IteratorMutex` is acquired before the mutex of a session. -/
def SdkLock.rank : SdkLock → ℕ
  | .iterator => 0
  | .reference _ => 1

def SdkState.holder (s : SdkState ι) : SdkLock → Option ι
  | .iterator => s.iteratorMutex
  | .reference x => s.referenceMutex x

def SdkOp.acquires : SdkOp → Option SdkLock
  | .iteratorBegin => some .iterator
  | .referenceBegin x => some (.reference x)
  | _ => none

def SdkOp.releases : SdkOp → Option SdkLock
  | .iteratorEnd => some .iterator
  | .referenceEnd x => some (.reference x)
  | _ => none

/-- The interactions with the condition variable. -/
def SdkOp.waits : SdkOp → Bool
  | .waitBegin _ | .waitEnd _ => true
  | _ => false

/-- The step goes on with a call that has begun, and does not count on a spurious
wake-up. -/
def goesOn : SdkLabel ι → Bool
  | .call _ _ => false
  | .op _ _ ⟨.waitEnd _, r⟩ => !isSpurious r
  | _ => true
where
  isSpurious (r : Bool) : Bool := r

/-- If some call has not ended, then some step is possible. -/
def NotStuck (t : ι) (cfg : SdkConfig ι) : Prop :=
  (∃ i, cfg.threads i ≠ none) → ∃ l cfg', (sdkSystem t).Step cfg l cfg' ∧ goesOn l = true

/-- The condition on the steps of a run: a destructor finds no reference. -/
def unheldCondition : SdkTrace ι → SdkState ι → SdkLabel ι → Prop
  | _, s, .op _ _ ⟨.getActiveReferences x, _⟩ => s.activeReferences x = 0
  | _, _, _ => True

namespace Deadlock

variable {t i : ι} {o : SdkOp} {r : o.Ans} {s s' : SdkState ι} {x h : ℕ}

omit [DecidableEq ι] in
lemma holder_congr (hiterator : s'.iteratorMutex = s.iteratorMutex)
    (hreference : s'.referenceMutex = s.referenceMutex) : s'.holder = s.holder := by
  ext l
  cases l with
  | iterator => rw [SdkState.holder, SdkState.holder, hiterator]
  | reference x => rw [SdkState.holder, SdkState.holder, hreference]

omit [DecidableEq ι] in
lemma holder_step (hw : o.waits = false) (ha : o.acquires = none) (hr : o.releases = none)
    (hstep : sdkStep i o r s = some s') : s'.holder = s.holder := by
  cases o
  case waitBegin | waitEnd => exact absurd hw (by simp [SdkOp.waits])
  case iteratorBegin | referenceBegin => exact absurd ha (by simp [SdkOp.acquires])
  case iteratorEnd | referenceEnd => exact absurd hr (by simp [SdkOp.releases])
  case newSession =>
    rcases (sdkStep_newSession i r).1 hstep with ⟨-, rfl⟩ | ⟨-, rfl⟩
    · rfl
    · rfl
  case signal x =>
    obtain rfl := Option.some.inj hstep
    refine holder_congr sameList_signal.mutex ?_
    rw [SdkState.signal]
    split <;> rfl
  case getUniqueHandle | decreaseIterator | getIteratorReference | findSession | findToDestroy |
    getSessionList | isPending | getPendingQueue | getActiveReferences | decreaseReference |
    getSession =>
    obtain ⟨-, rfl⟩ := SdkState.answer_eq_some.1 hstep
    exact holder_congr rfl rfl
  all_goals
    obtain rfl := Option.some.inj hstep
    exact holder_congr rfl rfl

omit [DecidableEq ι] in
/-- An interaction that waits for nothing is possible. -/
lemma exists_step (i : ι) (o : SdkOp) (s : SdkState ι) (hw : o.waits = false)
    (hfree : ∀ l, o.acquires = some l → s.holder l = none) :
    ∃ r s', sdkStep i o r s = some s' := by
  have hanswer {α : Type} [DecidableEq α] (s : SdkState ι) (x : α) :
      s.answer x x = some s := SdkState.answer_eq_some.2 ⟨rfl, rfl⟩
  cases o
  case waitBegin | waitEnd => exact absurd hw (by simp [SdkOp.waits])
  case iteratorBegin => exact ⟨(), _, (sdkStep_iteratorBegin ()).2 ⟨hfree _ rfl, rfl⟩⟩
  case referenceBegin x => exact ⟨(), _, SdkState.acquire_eq_some.2 ⟨hfree _ rfl, rfl⟩⟩
  case newSession => exact ⟨none, s, rfl⟩
  case initCallBack | isValid | connect => exact ⟨true, s, rfl⟩
  case invoke => exact ⟨[], s, rfl⟩
  case getUniqueHandle | decreaseIterator | getIteratorReference | findSession | findToDestroy |
    getSessionList | isPending | getPendingQueue | getActiveReferences | decreaseReference |
    getSession => exact ⟨_, _, hanswer _ _⟩
  all_goals exact ⟨(), _, rfl⟩

omit [DecidableEq ι] in
/-- Who holds the locks after the mutex of a session has changed hands. -/
lemma holder_update (s : SdkState ι) (x : ℕ) (u : Option ι) :
    { s with referenceMutex := Function.update s.referenceMutex x u }.holder =
      Function.update s.holder (SdkLock.reference x) u := by
  funext l
  cases l with
  | iterator =>
      have hne : SdkLock.iterator ≠ .reference x := SdkLock.noConfusion
      exact (Function.update_of_ne hne _ _).symm
  | reference y =>
      have hinj : Function.Injective SdkLock.reference := fun _ _ => SdkLock.reference.inj
      exact (Function.update_apply_of_injective s.holder hinj x u y).symm

omit [DecidableEq ι] in
lemma holder_updateIterator (s : SdkState ι) (u : Option ι) :
    { s with iteratorMutex := u }.holder =
      Function.update s.holder SdkLock.iterator u := by
  funext l
  cases l with
  | iterator => exact (Function.update_self SdkLock.iterator u s.holder).symm
  | reference y =>
      have hne : SdkLock.reference y ≠ .iterator := SdkLock.noConfusion
      exact (Function.update_of_ne hne _ _).symm

/-- The order of the locks. -/
def locking (t : ι) : Locking (sdkSystem t) SdkLock where
  acquires := SdkOp.acquires
  releases := SdkOp.releases
  waits := SdkOp.waits
  holder := SdkState.holder
  rank := SdkLock.rank
  bound := 2
  rank_lt
    | .iterator => Nat.zero_lt_two
    | .reference _ => Nat.one_lt_two
  acquire := by
    intro i o r s s' l ha hstep
    cases o
    case iteratorBegin =>
      obtain rfl := Option.some.inj ha
      obtain ⟨hfree, rfl⟩ := (sdkStep_iteratorBegin r).1 hstep
      exact ⟨hfree, holder_updateIterator _ _⟩
    case referenceBegin x =>
      obtain rfl := Option.some.inj ha
      obtain ⟨hfree, rfl⟩ := SdkState.acquire_eq_some.1 hstep
      exact ⟨hfree, holder_update _ x _⟩
    all_goals exact absurd ha (by simp [SdkOp.acquires])
  release := by
    intro i o r s s' l ha hr hstep
    cases o
    case iteratorEnd =>
      obtain rfl := Option.some.inj hr
      obtain rfl := Option.some.inj hstep
      exact holder_updateIterator _ _
    case referenceEnd =>
      obtain rfl := Option.some.inj hr
      obtain rfl := Option.some.inj hstep
      exact holder_update _ _ _
    all_goals exact absurd hr (by simp [SdkOp.releases])
  other := holder_step
  ready := exists_step

/-! ### The functions take the locks in their order -/

/-- A destructor is told that there is no reference. -/
def expects : (o : SdkOp) → o.Ans → Prop
  | .getActiveReferences _, r => isZero r
  | _, _ => True
where
  isZero (r : ℕ) : Prop := r = 0

/-- The program takes its locks in their order; it begins with the locks `held` and ends
with `held'`. -/
abbrev Takes {α : Type} (t : ι) (held : List SdkLock) (p : SdkProg α) (held' : List SdkLock) :
    Prop :=
  (locking t).Disciplined expects held' p held

variable {α β : Type} {held held' held'' : List SdkLock} {p : SdkProg α}

lemma Takes.bind {f : α → SdkProg β} (hp : Takes t held p held')
    (hf : ∀ a, Takes t held' (f a) held'') : Takes t held (p >>= f) held'' :=
  Locking.Disciplined.bind hp hf

/-- What takes no lock and waits for nothing. -/
lemma takes_op {o : SdkOp} (hw : o.waits = false) (ha : o.acquires = none)
    (hr : o.releases = none) : Takes t held (op (S := sdkSig) o) held :=
  (Locking.disciplined_other (K := locking t) ha hr).2
    ⟨hw, fun _ _ => Locking.disciplined_ret⟩

lemma takes_ret {a : α} : Takes t held (return a) held := Locking.disciplined_ret

lemma takes_iteratorBegin : Takes t [] iteratorBegin [.iterator] :=
  (Locking.disciplined_acquire (K := locking t) rfl).2
    ⟨rfl, fun _ h => absurd h List.not_mem_nil, fun _ _ => Locking.disciplined_ret⟩

lemma takes_iteratorEnd : Takes t [.iterator] iteratorEnd [] :=
  (Locking.disciplined_release (K := locking t) rfl rfl).2
    ⟨rfl, List.mem_singleton_self _, fun _ _ => Locking.disciplined_ret⟩

/-- The mutex of a session is acquired with `m_IteratorMutex` or without. -/
lemma takes_referenceBegin (hheld : ∀ l ∈ held, l = .iterator) :
    Takes t held (referenceBegin x) (.reference x :: held) := by
  refine (Locking.disciplined_acquire (K := locking t) rfl).2 ⟨rfl, ?_, fun _ _ => ?_⟩
  · intro l hl
    rw [hheld l hl]
    exact Nat.zero_lt_one
  · exact Locking.disciplined_ret

lemma takes_referenceEnd : Takes t (.reference x :: held) (referenceEnd x) held := by
  refine (Locking.disciplined_release (K := locking t) rfl rfl).2
    ⟨rfl, List.mem_cons_self, fun _ _ => ?_⟩
  rw [List.erase_cons_head]
  exact Locking.disciplined_ret

lemma takes_getActiveReferences {f : ℕ → SdkProg α} (hf : Takes t held (f 0) held') :
    Takes t held (getActiveReferences x >>= f) held' := by
  refine (Locking.disciplined_other (K := locking t) rfl rfl).2 ⟨rfl, fun r hr => ?_⟩
  have hzero : r = (0 : ℕ) := hr
  rw [hzero]
  exact hf

/-- The destructor does not wait. -/
lemma takes_deleteSession (hheld : ∀ l ∈ held, l = .iterator) :
    Takes t held (deleteSession x) held := by
  refine (takes_referenceBegin hheld).bind fun _ => takes_getActiveReferences ?_
  rw [if_neg (Nat.lt_irrefl 0)]
  exact takes_referenceEnd.bind fun _ => takes_op rfl rfl rfl

lemma takes_increaseReference : Takes t [] (increaseReference x) [] := by
  refine (takes_referenceBegin fun _ h => absurd h List.not_mem_nil).bind fun _ => ?_
  exact Takes.bind (takes_op rfl rfl rfl) fun _ => takes_referenceEnd

lemma takes_decreaseReference : Takes t [] (decreaseReference x) [] := by
  refine (takes_referenceBegin fun _ h => absurd h List.not_mem_nil).bind fun _ => ?_
  refine Takes.bind (takes_op rfl rfl rfl) fun activeReferences => ?_
  refine Locking.Disciplined.ite (fun _ => ?_) fun _ => takes_referenceEnd
  exact Takes.bind (takes_op rfl rfl rfl) fun _ => takes_referenceEnd

lemma takes_enter : Takes t [] iteratorCriticalSectionEnter [] := by
  refine takes_iteratorBegin.bind fun _ => ?_
  exact Takes.bind (takes_op rfl rfl rfl) fun _ => takes_iteratorEnd

/-- The loops over sessions that are deleted. -/
lemma takes_deleteAll (sessions : List ℕ) :
    Takes t [.iterator] (forEach sessions deleteAndRemove) [.iterator] := by
  refine Locking.disciplined_forEach sessions fun x => ?_
  refine (takes_deleteSession fun l hl => List.mem_singleton.1 hl).bind fun _ => ?_
  exact takes_op rfl rfl rfl

lemma takes_exit : Takes t [] iteratorCriticalSectionExit [] := by
  refine takes_iteratorBegin.bind fun _ => ?_
  refine Takes.bind (takes_op rfl rfl rfl) fun iteratorReference => ?_
  refine Locking.Disciplined.ite (fun _ => ?_) fun _ => takes_iteratorEnd
  refine Takes.bind (takes_op rfl rfl rfl) fun pending => ?_
  refine (takes_deleteAll pending).bind fun _ => ?_
  exact Takes.bind (takes_op rfl rfl rfl) fun _ => takes_iteratorEnd

lemma takes_destroyCallback : Takes t [] destroyCallback [] := by
  refine takes_iteratorBegin.bind fun _ => ?_
  refine Takes.bind (takes_op rfl rfl rfl) fun sessions => ?_
  refine (takes_deleteAll sessions).bind fun _ => ?_
  exact Takes.bind (takes_op rfl rfl rfl) fun _ => takes_iteratorEnd

lemma takes_createSession {func : Option ℕ} {context : ℕ} :
    Takes t [] (createSession func context) [] := by
  refine Takes.bind (takes_op rfl rfl rfl) fun handle => ?_
  refine Takes.bind (takes_op rfl rfl rfl) fun initialised => ?_
  refine Locking.Disciplined.ite (fun _ => takes_ret) fun _ => ?_
  refine Takes.bind (takes_op rfl rfl rfl) ?_
  rintro (_ | session)
  · exact takes_ret
  refine Takes.bind (takes_op rfl rfl rfl) fun valid => ?_
  refine Locking.Disciplined.ite (fun _ => ?_) fun _ => ?_
  · exact (takes_deleteSession fun _ h => absurd h List.not_mem_nil).bind fun _ => takes_ret
  · refine takes_iteratorBegin.bind fun _ => ?_
    refine Takes.bind (takes_op rfl rfl rfl) fun _ => ?_
    exact takes_iteratorEnd.bind fun _ => takes_ret

lemma takes_destroySession : Takes t [] (destroySession h) [] := by
  refine takes_iteratorBegin.bind fun _ => ?_
  refine Takes.bind (takes_op rfl rfl rfl) ?_
  rintro (_ | session)
  · exact Takes.bind (takes_op rfl rfl rfl) fun _ => takes_iteratorEnd
  refine Takes.bind (takes_op rfl rfl rfl) fun iteratorReference => ?_
  refine Locking.Disciplined.ite (fun _ => ?_) fun _ => ?_
  · refine Takes.bind (takes_op rfl rfl rfl) fun _ => ?_
    exact Takes.bind (takes_op rfl rfl rfl) fun _ => takes_iteratorEnd
  · refine (Takes.bind (takes_deleteSession fun l hl => List.mem_singleton.1 hl) fun _ =>
      takes_op rfl rfl rfl).bind fun _ => ?_
    exact Takes.bind (takes_op rfl rfl rfl) fun _ => takes_iteratorEnd

lemma takes_getInstance : Takes t [] (getInstance h) [] := by
  refine takes_enter.bind fun _ => Takes.bind (takes_op rfl rfl rfl) ?_
  rintro (_ | session)
  · exact takes_exit.bind fun _ => takes_ret
  refine Takes.bind (takes_op rfl rfl rfl) fun pending => ?_
  refine Locking.Disciplined.ite (fun _ => ?_) fun _ => ?_
  · exact takes_exit.bind fun _ => takes_ret
  · exact takes_increaseReference.bind fun _ => takes_exit.bind fun _ => takes_ret

lemma takes_putInstance : Takes t [] (putInstance h) [] := by
  refine takes_enter.bind fun _ => Takes.bind (takes_op rfl rfl rfl) ?_
  rintro (_ | session)
  · exact takes_exit
  · exact takes_decreaseReference.bind fun _ => takes_exit

lemma takes_apiCall (c : ApiCall) : Takes t [] (apiCall c) [] := by
  cases c with
  | create func context =>
      refine takes_createSession.bind fun handle => Locking.Disciplined.ite (fun _ => takes_ret)
        fun _ => takes_getInstance.bind ?_
      rintro (_ | session)
      · exact takes_ret
      refine Takes.bind (takes_op rfl rfl rfl) fun successful => takes_putInstance.bind fun _ => ?_
      exact Locking.Disciplined.ite (fun _ => takes_destroySession) fun _ => takes_ret
  | destroy handle => exact takes_destroySession
  | request handle =>
      refine takes_getInstance.bind ?_
      rintro (_ | session)
      · exact takes_ret
      · exact Takes.bind (takes_op rfl rfl rfl) fun _ => takes_putInstance

lemma takes_deliverTo (session : ℕ) : Takes t [] (deliverTo session) [] := by
  refine Takes.bind (takes_op rfl rfl rfl) fun (fields : Session) => ?_
  rcases fields with ⟨handle, _ | func, context⟩
  · exact takes_ret
  refine Takes.bind (takes_op rfl rfl rfl) fun calls => ?_
  exact Locking.disciplined_forEach calls takes_apiCall

lemma takes_deliver : Takes t [] deliver [] := by
  refine takes_enter.bind fun _ => Takes.bind (takes_op rfl rfl rfl) fun sessions => ?_
  refine Takes.bind (Locking.disciplined_forEach sessions takes_deliverTo) fun _ => ?_
  exact takes_exit

lemma takes_callBody (c : SdkCall) : Takes t [] (callBody c) [] := by
  cases c with
  | api c => exact takes_apiCall c
  | deliver => exact takes_deliver
  | disconnect => exact takes_destroyCallback

omit [DecidableEq ι] in
lemma goesOn_of_waits {c : SdkCall} (h : o.waits = false) :
    goesOn (.op i c ⟨o, r⟩ : SdkLabel ι) = true := by
  cases o
  case waitEnd => exact absurd h (by simp [SdkOp.waits])
  all_goals rfl

omit [DecidableEq ι] in
lemma expects_of_condition (tr : SdkTrace ι) (s : SdkState ι) (i : ι) (c : SdkCall) (o : SdkOp)
    (r : o.Ans) (s' : SdkState ι) (hC : unheldCondition tr s (.op i c ⟨o, r⟩))
    (hstep : sdkStep i o r s = some s') : expects o r := by
  cases o
  case getActiveReferences x => exact (SdkState.answer_eq_some.1 hstep).1.trans hC
  all_goals trivial

end Deadlock

open Deadlock in
/-- In every run in which each destructor finds no reference, some call can go on unless no
call is being made. -/
theorem not_stuck {t : ι} {tr : SdkTrace ι} {cfg : SdkConfig ι}
    (hrun : (sdkSystem t).Run unheldCondition initState tr cfg) : NotStuck t cfg := by
  rintro ⟨i, hi⟩
  obtain ⟨⟨c, q⟩, hq⟩ := Option.ne_none_iff_exists'.1 hi
  have horderly : (locking t).AllOrderly expects cfg := by
    refine Locking.allOrderly_of_run (C := unheldCondition) ?_ ?_ ?_ hrun
    · intro l
      cases l with
      | iterator => rfl
      | reference x => rfl
    · exact expects_of_condition
    · exact fun i c _ => takes_callBody c
  obtain ⟨j, c', q', hj, hready⟩ := horderly.exists_ready hq
  cases q' with
  | ret a => exact ⟨_, _, .ret hj, rfl⟩
  | call o k =>
      obtain ⟨hwaits, r, s', hstep⟩ := hready
      exact ⟨_, _, .op hj hstep, goesOn_of_waits hwaits⟩

/-- A request has ended, and `HDCPDestroy` deletes the session while another thread would make
a request. -/
def requestThenDestroy : List (SdkAction ℕ) :=
  createCall 1 1 5 ++ System.completeCall 1 (.api (.request 1)) 27 (sdkAnswer false []) ++
    .call 2 (.api (.destroy 1)) :: steps 2 5 (sdkAnswer false []) ++ [.call 1 (.api (.request 1))]

/-- A destructor finds no reference. -/
def unheld : SdkTrace ℕ → SdkState ℕ → SdkLabel ℕ → Bool
  | _, s, .op _ _ ⟨.getActiveReferences x, _⟩ => s.activeReferences x = 0
  | _, _, _ => true

lemma unheldCondition_of_unheld (tr : SdkTrace ℕ) (s : SdkState ℕ) (l : SdkLabel ℕ)
    (h : unheld tr s l) : unheldCondition tr s l := by
  rw [unheldCondition.eq_def]
  split
  · exact of_decide_eq_true h
  · trivial

/-- The next interaction of a thread. -/
def nextOp (cfg : SdkConfig ι) (i : ι) : Option SdkOp :=
  match cfg.threads i with
  | some (_, .call o _) => some o
  | _ => none

theorem not_stuck_requestThenDestroy :
    ∃ x, scheduled unheld requestThenDestroy = some x ∧
      nextOp x.2 1 = some .iteratorBegin ∧ x.2.shared.iteratorMutex = some 2 ∧ NotStuck 0 x.2 := by
  obtain ⟨x, hx, hrun, htest⟩ := exists_run_of_scheduled unheld unheldCondition_of_unheld
    requestThenDestroy
    (fun x => nextOp x.2 1 = some .iteratorBegin ∧ x.2.shared.iteratorMutex = some 2) (by decide)
  obtain ⟨hnext, hmutex⟩ := of_decide_eq_true htest
  exact ⟨x, hx, hnext, hmutex, not_stuck hrun⟩

/-- `HDCPDestroy` is called while another thread makes a request on the session. -/
def destroyDuringRequest : List (SdkAction ℕ) :=
  createCall 1 1 5 ++ .call 1 (.api (.request 1)) :: steps 1 14 (sdkAnswer false []) ++
    .call 2 (.api (.destroy 1)) :: steps 2 6 (sdkAnswer false [])

/-- The label is a step of one of the threads 1 and 2. -/
def ofTwo : SdkLabel ℕ → Bool
  | .call i _ | .op i _ _ | .ret i _ _ => i = 1 ∨ i = 2

/-- The thread 2 holds `m_IteratorMutex` and waits to be signalled, and the thread 1 waits for
the mutex. -/
def waitsForEachOther (x : SdkTrace ℕ × SdkConfig ℕ) : Bool :=
  x.1.all ofTwo && nextOp x.2 1 = some .iteratorBegin && nextOp x.2 2 = some (.waitEnd 0) &&
    x.2.shared.iteratorMutex = some 2 && x.2.shared.wakeUps 0 = 0

/-- The threads that appear in no label make no call. -/
lemma calling_eq_none {tr : SdkTrace ℕ} {i : ℕ} (h : tr.all ofTwo = true) (h1 : i ≠ 1)
    (h2 : i ≠ 2) : calling i tr = none := by
  induction tr with
  | nil => rfl
  | cons l tr ih =>
      rw [List.all_cons, Bool.and_eq_true] at h
      cases l with
      | op j c e => exact ih h.2
      | call j c | ret j c a =>
          have hj : j ≠ i := by
            rintro rfl
            exact (of_decide_eq_true h.1).elim h1 h2
          rw [calling, if_neg hj]
          exact ih h.2

lemma not_notStuck {x : SdkTrace ℕ × SdkConfig ℕ} (hrun : (sdkSystem 0).AnyRun initState x.1 x.2)
    (h : waitsForEachOther x = true) : ¬NotStuck 0 x.2 := by
  simp only [waitsForEachOther, Bool.and_eq_true, decide_eq_true_eq] at h
  obtain ⟨⟨⟨⟨htwo, hfirst⟩, hsecond⟩, hmutex⟩, hwakeUps⟩ := h
  have hidle (i : ℕ) (h1 : i ≠ 1) (h2 : i ≠ 2) : x.2.threads i = none := by
    rw [← Option.map_eq_none_iff, ← System.Run.calling_eq _ hrun i]
    exact calling_eq_none htwo h1 h2
  intro hnot
  obtain ⟨l, cfg', hstep, hl⟩ := hnot ⟨1, fun hnone => by simp [nextOp, hnone] at hfirst⟩
  have hthread {i : ℕ} {c : SdkCall} {q : SdkProg Unit} (hi : x.2.threads i = some (c, q)) :
      i = 1 ∨ i = 2 := by
    by_contra hne
    rw [not_or] at hne
    rw [hidle i hne.1 hne.2] at hi
    exact absurd hi (by simp)
  cases hstep with
  | call hi hc => exact absurd hl Bool.false_ne_true
  | @op i c o k r s' hi hr =>
      rcases hthread hi with rfl | rfl
      · rw [nextOp, hi] at hfirst
        obtain rfl := Option.some.inj hfirst
        have hfree := ((sdkStep_iteratorBegin r).1 hr).1
        rw [hmutex] at hfree
        exact absurd hfree (by simp)
      · rw [nextOp, hi] at hsecond
        obtain rfl := Option.some.inj hsecond
        cases (r : Bool) with
        | true => exact absurd hl Bool.false_ne_true
        | false =>
            have hwake : SdkState.wakeUp x.2.shared 2 0 false = some s' := hr
            rw [SdkState.wakeUp, hwakeUps] at hwake
            exact absurd hwake (by simp)
  | @ret i c a hi =>
      rcases hthread hi with rfl | rfl
      · rw [nextOp, hi] at hfirst
        exact absurd hfirst (by simp)
      · rw [nextOp, hi] at hsecond
        exact absurd hsecond (by simp)

theorem stuck_destroyDuringRequest :
    ∃ x, scheduled (fun _ _ _ => true) destroyDuringRequest = some x ∧
      (sdkSystem 0).AnyRun initState x.1 x.2 ∧ ¬NotStuck 0 x.2 := by
  obtain ⟨x, hx, hrun, htest⟩ := exists_run_of_scheduled (fun _ _ _ => true)
    (C := fun _ _ _ => True) (fun _ _ _ _ => trivial) destroyDuringRequest waitsForEachOther
    (by decide)
  exact ⟨x, hx, hrun, not_notStuck hrun htest⟩

end Hdcp.Sdk
