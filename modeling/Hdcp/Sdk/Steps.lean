/-
What the interactions of the session manager do.

The list of sessions, the queue of pending destructions, the iterator count and the
iterator mutex change in few interactions; `sdkStep_list` says that the others leave all
of them alone.  Who is between `IteratorCriticalSectionEnter` and
`IteratorCriticalSectionExit`, and which handles have been destroyed, is read off the
history of a run.
-/
import Hdcp.Sdk.Model

namespace Hdcp.Sdk

open Library
open Library.Prog (op forEach)

variable {ι : Type}

/-! ### The history -/

/-- The threads that are inside the iterator critical section, once for each time that
they have entered it. -/
def insiders [DecidableEq ι] : SdkTrace ι → List ι
  | .op i _ ⟨.increaseIterator, _⟩ :: tr => i :: insiders tr
  | .op i _ ⟨.decreaseIterator, _⟩ :: tr => (insiders tr).erase i
  | _ :: tr => insiders tr
  | [] => []

/-- `DestroySession` is done with the handle. -/
def destroys (handle : ℕ) : SdkLabel ι → Bool
  | .op _ _ ⟨.destroyed handle', _⟩ => handle' = handle
  | _ => false

/-- A session with the handle enters the list. -/
def creates (handle : ℕ) : SdkLabel ι → Bool
  | .op _ _ ⟨.pushFront _ handle', _⟩ => handle' = handle
  | _ => false

/-- `DestroySession` has ended its work on the handle, and no session with this handle has
entered the list since. -/
def isDestroyed (handle : ℕ) : SdkTrace ι → Bool := since (destroys handle) (creates handle)

/-! ### The interactions on the list -/

/-- The interactions that change the list, the queue, the iterator count, the iterator
mutex or the history of the handles, and the invocations of callback functions. -/
def SdkOp.onList : SdkOp → Bool
  | .iteratorBegin | .iteratorEnd | .increaseIterator | .decreaseIterator | .pushFront _ _
  | .remove _ | .destroyed _ | .pushPending _ | .clearPending | .newSession _
  | .findToDestroy _ | .invoke _ _ _ => true
  | _ => false

/-- The parts of the state that concern the list are the same. -/
structure SameList (s s' : SdkState ι) : Prop where
  list : s'.sessionList = s.sessionList
  queue : s'.pendingDestroyQueue = s.pendingDestroyQueue
  reference : s'.iteratorReference = s.iteratorReference
  mutex : s'.iteratorMutex = s.iteratorMutex
  sessions : s'.sessions = s.sessions
  allocated : s'.allocated = s.allocated

variable {i j : ι} {c : SdkCall} {o : SdkOp} {r : o.Ans} {s s' : SdkState ι}
  {tr : SdkTrace ι} {x h n : ℕ}

namespace SdkState

@[simp] lemma answer_eq_some {α : Type} [DecidableEq α] {x r : α} :
    s.answer x r = some s' ↔ r = x ∧ s' = s := by
  rw [answer]
  split
  · rename_i h
    simp [h, eq_comm]
  · rename_i h
    simp [h]

lemma acquire_eq_some : s.acquire i x = some s' ↔ s.referenceMutex x = none ∧
    s' = { s with referenceMutex := Function.update s.referenceMutex x (some i) } := by
  rw [acquire]
  split
  · rename_i h
    simp [h, eq_comm]
  · rename_i h
    simp [h]

end SdkState

lemma decrement_of_pos (hpos : 0 < n) (hn : n < 2 ^ 32) : decrement n = n - 1 := by
  obtain ⟨m, rfl⟩ := Nat.exists_eq_succ_of_ne_zero hpos.ne'
  have hsum : m + 1 + (2 ^ 32 - 1) = m + 2 ^ 32 := by omega
  rw [decrement, Nat.succ_eq_add_one, hsum, u32, Nat.add_mod_right, Nat.add_sub_cancel]
  exact Nat.mod_eq_of_lt (Nat.lt_of_succ_lt hn)

lemma SameList.refl (s : SdkState ι) : SameList s s := ⟨rfl, rfl, rfl, rfl, rfl, rfl⟩

lemma sameList_acquire (h : s.acquire i x = some s') : SameList s s' := by
  obtain ⟨-, rfl⟩ := SdkState.acquire_eq_some.1 h
  exact ⟨rfl, rfl, rfl, rfl, rfl, rfl⟩

lemma sameList_wakeUp {spurious : Bool} (h : s.wakeUp i x spurious = some s') :
    SameList s s' := by
  rw [SdkState.wakeUp] at h
  split at h
  · obtain ⟨-, rfl⟩ := SdkState.acquire_eq_some.1 h
    exact ⟨rfl, rfl, rfl, rfl, rfl, rfl⟩
  · split at h
    · obtain ⟨-, rfl⟩ := SdkState.acquire_eq_some.1 h
      exact ⟨rfl, rfl, rfl, rfl, rfl, rfl⟩
    · exact absurd h (by simp)

lemma sameList_signal : SameList s (s.signal x) := by
  rw [SdkState.signal]
  split
  · exact ⟨rfl, rfl, rfl, rfl, rfl, rfl⟩
  · exact .refl s

/-- What does not concern the list leaves it alone. -/
lemma sdkStep_list (ho : o.onList = false) (h : sdkStep i o r s = some s') : SameList s s' := by
  cases o
  case referenceBegin x => exact sameList_acquire h
  case waitEnd x => exact sameList_wakeUp h
  case signal x =>
    obtain rfl := Option.some.inj h
    exact sameList_signal
  case iteratorBegin | iteratorEnd | increaseIterator | decreaseIterator | pushFront | remove |
    destroyed | pushPending | clearPending | newSession | findToDestroy | invoke =>
    exact absurd ho (by simp [SdkOp.onList])
  case getUniqueHandle | getIteratorReference | findSession | getSessionList | isPending |
    getPendingQueue | getActiveReferences | decreaseReference | getSession =>
    rw [(SdkState.answer_eq_some.1 h).2]
    exact ⟨rfl, rfl, rfl, rfl, rfl, rfl⟩
  all_goals
    obtain rfl := Option.some.inj h
    exact ⟨rfl, rfl, rfl, rfl, rfl, rfl⟩

lemma sdkStep_iteratorBegin (r : Unit) :
    sdkStep i .iteratorBegin r s = some s' ↔
      s.iteratorMutex = none ∧ s' = { s with iteratorMutex := some i } := by
  show (if s.iteratorMutex = none then some { s with iteratorMutex := some i } else none) =
    some s' ↔ _
  rw [Option.ite_none_right_eq_some, Option.some.injEq, eq_comm (b := s')]

lemma sdkStep_newSession {session : Session} (i : ι) (r : Option ℕ) :
    sdkStep i (.newSession session) r s = some s' ↔
      r = none ∧ s' = s ∨ r = some s.allocated ∧ s' = { s with
        sessions := Function.update s.sessions s.allocated session
        allocated := s.allocated + 1 } := by
  show s.allocate session r = some s' ↔ _
  rcases r with _ | address
  · simp [SdkState.allocate, eq_comm]
  · by_cases haddress : address = s.allocated
    · subst haddress
      simp [SdkState.allocate, eq_comm]
    · simp [SdkState.allocate, haddress]

/-- What does not concern the list tells nothing about it. -/
lemma insiders_cons [DecidableEq ι] (ho : o.onList = false) :
    insiders (.op i c ⟨o, r⟩ :: tr) = insiders tr := by
  cases o
  case increaseIterator | decreaseIterator => exact absurd ho (by simp [SdkOp.onList])
  all_goals rfl

lemma isDestroyed_cons (ho : o.onList = false) :
    isDestroyed h (.op i c ⟨o, r⟩ :: tr) = isDestroyed h tr := by
  cases o
  case destroyed | pushFront => exact absurd ho (by simp [SdkOp.onList])
  all_goals rfl

lemma SdkState.find_eq_some (h : s.find n = some x) :
    x ∈ s.sessionList ∧ (s.sessions x).handle = n :=
  ⟨List.mem_of_find?_eq_some h, by simpa using List.find?_some h⟩

lemma SdkState.find_eq_none (h : s.find n = none) :
    ∀ x ∈ s.sessionList, (s.sessions x).handle ≠ n := by
  intro x hx
  simpa using List.find?_eq_none.1 h x hx

/-- What holds of every session of the list and its fields. -/
def Listed (P : ℕ → Session → Prop) (s : SdkState ι) : Prop :=
  ∀ x ∈ s.sessionList, x < s.allocated ∧ P x (s.sessions x)

lemma Listed.mono {P P' : ℕ → Session → Prop} (hl : Listed P s)
    (h : ∀ x ∈ s.sessionList, ∀ d, P x d → P' x d) : Listed P' s :=
  fun x hx => ⟨(hl x hx).1, h x hx _ (hl x hx).2⟩

/-- The session at the address `x` has been created with the fields `d`. -/
def Created (x : ℕ) (d : Session) (s : SdkState ι) : Prop := x < s.allocated ∧ s.sessions x = d

/-- The fields of a session do not change. -/
lemma Created.step {d : Session} (hx : Created x d s) (hstep : sdkStep i o r s = some s') :
    Created x d s' := by
  by_cases ho : o.onList = false
  · have hsame := sdkStep_list ho hstep
    rw [Created, hsame.allocated, hsame.sessions]
    exact hx
  cases o
  case newSession session =>
    rcases (sdkStep_newSession i r).1 hstep with ⟨-, rfl⟩ | ⟨-, rfl⟩
    · exact hx
    · exact ⟨Nat.lt_succ_of_lt hx.1, (Function.update_of_ne hx.1.ne _ _).trans hx.2⟩
  case iteratorBegin =>
    obtain ⟨-, rfl⟩ := (sdkStep_iteratorBegin r).1 hstep
    exact hx
  case findToDestroy =>
    rw [(SdkState.answer_eq_some.1 hstep).2]
    exact hx
  case decreaseIterator =>
    rw [(SdkState.answer_eq_some.1 hstep).2]
    exact ⟨hx.1, hx.2⟩
  case iteratorEnd | increaseIterator | pushFront | remove | destroyed | pushPending |
    clearPending | invoke =>
    obtain rfl := Option.some.inj hstep
    exact hx
  all_goals exact absurd rfl ho

/-! ### Interactions that a function makes -/

/-- The interactions with the references of a session and with its memory. -/
def SdkOp.onSession : SdkOp → Bool
  | .referenceBegin _ | .referenceEnd _ | .getActiveReferences _ | .increaseReference _
  | .decreaseReference _ | .signal _ | .waitBegin _ | .waitEnd _ | .free _ => true
  | _ => false

/-- The interactions of the entry points. -/
def SdkOp.ofApi : SdkOp → Bool
  | .getSessionList | .getSession _ | .invoke _ _ _ | .deleteCallBackSocket => false
  | _ => true

lemma onList_of_onSession (o : SdkOp) (ho : o.onSession = true) : o.onList = false := by
  cases o
  case referenceBegin | referenceEnd | getActiveReferences | increaseReference |
    decreaseReference | signal | waitBegin | waitEnd | free => rfl
  all_goals exact absurd ho (by simp [SdkOp.onSession])

lemma ofApi_of_onSession (o : SdkOp) (ho : o.onSession = true) : o.ofApi = true := by
  cases o
  case getSessionList | getSession | invoke | deleteCallBackSocket =>
    exact absurd ho (by simp [SdkOp.onSession])
  all_goals rfl

section Uses

variable {A : SdkOp → Prop}

lemma uses_deleteSession (hA : ∀ o : SdkOp, o.onSession = true → A o) :
    (deleteSession x).Uses A := by
  refine Prog.Uses.op_bind (hA _ rfl) fun _ => ?_
  refine Prog.Uses.op_bind (hA _ rfl) fun (activeReferences : ℕ) => ?_
  refine Prog.Uses.ite (fun _ => ?_) fun _ => ?_
  · have hwait : (waitCv x).Uses A :=
      Prog.Uses.op_bind (hA _ rfl) fun _ => Prog.Uses.op_bind (hA _ rfl) fun _ => trivial
    refine hwait.bind fun _ => ?_
    exact Prog.Uses.op_bind (hA _ rfl) fun _ => Prog.uses_op.2 (hA _ rfl)
  · exact Prog.Uses.op_bind (hA _ rfl) fun _ => Prog.uses_op.2 (hA _ rfl)

lemma uses_increaseReference (hA : ∀ o : SdkOp, o.onSession = true → A o) :
    (increaseReference x).Uses A := by
  refine Prog.Uses.op_bind (hA _ rfl) fun _ => ?_
  exact Prog.Uses.op_bind (hA _ rfl) fun _ => Prog.uses_op.2 (hA _ rfl)

lemma uses_decreaseReference (hA : ∀ o : SdkOp, o.onSession = true → A o) :
    (decreaseReference x).Uses A := by
  refine Prog.Uses.op_bind (hA _ rfl) fun _ => ?_
  refine Prog.Uses.op_bind (hA _ rfl) fun (activeReferences : ℕ) => ?_
  refine Prog.Uses.ite (fun _ => ?_) fun _ => Prog.uses_op.2 (hA _ rfl)
  exact Prog.Uses.op_bind (hA _ rfl) fun _ => Prog.uses_op.2 (hA _ rfl)

variable (hA : ∀ o : SdkOp, o.ofApi = true → A o)

include hA

lemma uses_deleteAndRemove : (deleteAndRemove x).Uses A :=
  (uses_deleteSession fun o ho => hA o (ofApi_of_onSession o ho)).bind fun _ =>
    Prog.uses_op.2 (hA _ rfl)

lemma uses_enter : iteratorCriticalSectionEnter.Uses A :=
  Prog.Uses.op_bind (hA _ rfl) fun _ =>
    Prog.Uses.op_bind (hA _ rfl) fun _ => Prog.uses_op.2 (hA _ rfl)

lemma uses_exit : iteratorCriticalSectionExit.Uses A := by
  refine Prog.Uses.op_bind (hA _ rfl) fun _ => Prog.Uses.op_bind (hA _ rfl) fun (count : ℕ) => ?_
  refine Prog.Uses.ite (fun _ => ?_) fun _ => Prog.uses_op.2 (hA _ rfl)
  refine Prog.Uses.op_bind (hA _ rfl) fun pending => ?_
  refine (Prog.uses_forEach fun session _ => uses_deleteAndRemove hA).bind fun _ => ?_
  exact Prog.Uses.op_bind (hA _ rfl) fun _ => Prog.uses_op.2 (hA _ rfl)

lemma uses_destroySession (handle : ℕ) : (destroySession handle).Uses A := by
  refine Prog.Uses.op_bind (hA _ rfl) fun _ => Prog.Uses.op_bind (hA _ rfl) ?_
  rintro (_ | session)
  · exact Prog.Uses.op_bind (hA _ rfl) fun _ => Prog.uses_op.2 (hA _ rfl)
  refine Prog.Uses.op_bind (hA _ rfl) fun (count : ℕ) => Prog.Uses.ite (fun _ => ?_) fun _ => ?_
  · refine Prog.Uses.op_bind (hA _ rfl) fun _ => ?_
    exact Prog.Uses.op_bind (hA _ rfl) fun _ => Prog.uses_op.2 (hA _ rfl)
  · refine (uses_deleteAndRemove hA).bind fun _ => ?_
    exact Prog.Uses.op_bind (hA _ rfl) fun _ => Prog.uses_op.2 (hA _ rfl)

lemma uses_getInstance (handle : ℕ) : (getInstance handle).Uses A := by
  refine (uses_enter hA).bind fun _ => Prog.Uses.op_bind (hA _ rfl) ?_
  rintro (_ | session)
  · exact (uses_exit hA).bind fun _ => trivial
  refine Prog.Uses.op_bind (hA _ rfl) fun (pending : Bool) =>
    Prog.Uses.ite (fun _ => ?_) fun _ => ?_
  · exact (uses_exit hA).bind fun _ => trivial
  · refine (uses_increaseReference fun o ho => hA o (ofApi_of_onSession o ho)).bind fun _ => ?_
    exact (uses_exit hA).bind fun _ => trivial

lemma uses_putInstance (handle : ℕ) : (putInstance handle).Uses A := by
  refine (uses_enter hA).bind fun _ => Prog.Uses.op_bind (hA _ rfl) ?_
  rintro (_ | session)
  · exact uses_exit hA
  refine (uses_decreaseReference fun o ho => hA o (ofApi_of_onSession o ho)).bind fun _ => ?_
  exact uses_exit hA

lemma uses_createSession (func : Option ℕ) (context : ℕ) :
    (createSession func context).Uses A := by
  refine Prog.Uses.op_bind (hA _ rfl) fun _ => Prog.Uses.op_bind (hA _ rfl) fun (b : Bool) => ?_
  refine Prog.Uses.ite (fun _ => trivial) fun _ => Prog.Uses.op_bind (hA _ rfl) ?_
  rintro (_ | session)
  · trivial
  refine Prog.Uses.op_bind (hA _ rfl) fun (b : Bool) => Prog.Uses.ite (fun _ => ?_) fun _ => ?_
  · refine (uses_deleteSession fun o ho => hA o (ofApi_of_onSession o ho)).bind fun _ => ?_
    trivial
  · exact Prog.Uses.op_bind (hA _ rfl) fun _ => Prog.Uses.op_bind (hA _ rfl) fun _ =>
      Prog.Uses.op_bind (hA _ rfl) fun _ => trivial

/-- The interactions of an entry point are among those that `A` allows. -/
lemma uses_apiCall (c : ApiCall) : (apiCall c).Uses A := by
  cases c with
  | create func context =>
      refine (uses_createSession hA func context).bind fun handle => ?_
      refine Prog.Uses.ite (fun _ => trivial) fun _ => (uses_getInstance hA handle).bind ?_
      rintro (_ | session)
      · trivial
      refine Prog.Uses.op_bind (hA _ rfl) fun (b : Bool) => ?_
      refine (uses_putInstance hA handle).bind fun _ => ?_
      exact Prog.Uses.ite (fun _ => uses_destroySession hA handle) fun _ => trivial
  | destroy handle => exact uses_destroySession hA handle
  | request handle =>
      refine (uses_getInstance hA handle).bind ?_
      rintro (_ | session)
      · trivial
      exact Prog.Uses.op_bind (hA _ rfl) fun _ => uses_putInstance hA handle

end Uses

/-! ### Schedules -/

/-- The state answers the reads, nothing fails, and wake-ups are spurious as given; a callback
function makes the given calls. -/
def sdkAnswer (spurious : Bool) (calls : List ApiCall) : (o : SdkOp) → SdkState ι → o.Ans
  | .getUniqueHandle, s => s.handleIncrementor
  | .initCallBack, _ | .isValid _, _ | .connect _, _ => true
  | .newSession _, s => some s.allocated
  | .decreaseIterator, s => decrement s.iteratorReference
  | .getIteratorReference, s => s.iteratorReference
  | .findSession handle, s | .findToDestroy handle, s => s.find handle
  | .getSessionList, s => s.sessionList
  | .isPending session, s => decide (session ∈ s.pendingDestroyQueue)
  | .getPendingQueue, s => s.pendingDestroyQueue
  | .getActiveReferences session, s => s.activeReferences session
  | .decreaseReference session, s => decrement (s.activeReferences session)
  | .waitEnd _, _ => spurious
  | .getSession session, s => s.sessions session
  | .invoke _ _ _, _ => calls
  | .iteratorBegin, _ | .iteratorEnd, _ | .increaseIterator, _ | .pushFront _ _, _
  | .remove _, _ | .destroyed _, _ | .pushPending _, _ | .clearPending, _
  | .referenceBegin _, _ | .referenceEnd _, _ | .increaseReference _, _ | .signal _, _
  | .waitBegin _, _ | .free _, _ | .transaction _, _ | .deleteCallBackSocket, _ => ()

abbrev SdkAction (ι : Type) : Type := System.Action sdkSig ι SdkCall (SdkState ι)

/-- The history and the state that a schedule leads to, when all its steps are possible and
pass the check.  The thread 0 executes `CallBackManager`. -/
def scheduled (check : SdkTrace ℕ → SdkState ℕ → SdkLabel ℕ → Bool) (as : List (SdkAction ℕ)) :
    Option (SdkTrace ℕ × SdkConfig ℕ) :=
  (sdkSystem 0).schedule (sdkMay 0) check as [] ⟨initState, fun _ => none⟩

/-- A schedule shows that there is a run of a kind. -/
lemma exists_run_of_scheduled (check : SdkTrace ℕ → SdkState ℕ → SdkLabel ℕ → Bool)
    {C : SdkTrace ℕ → SdkState ℕ → SdkLabel ℕ → Prop} (hC : ∀ tr s l, check tr s l → C tr s l)
    (as : List (SdkAction ℕ)) (test : SdkTrace ℕ × SdkConfig ℕ → Bool)
    (h : (scheduled check as).any test = true) :
    ∃ x, scheduled check as = some x ∧ (sdkSystem 0).Run C initState x.1 x.2 ∧ test x = true :=
  System.exists_run_of_schedule (M := sdkSystem 0) (fun _ _ hc => hc) hC h

/-- `n` interactions of the thread `i`. -/
def steps (i n : ℕ) (answer : (o : SdkOp) → SdkState ℕ → o.Ans) : List (SdkAction ℕ) :=
  List.replicate n (.op i answer)

/-- The application creates a session, without steps of other threads in between. -/
def createCall (i func context : ℕ) : List (SdkAction ℕ) :=
  System.completeCall i (.api (.create (some func) context)) 34 (sdkAnswer false [])

end Hdcp.Sdk
