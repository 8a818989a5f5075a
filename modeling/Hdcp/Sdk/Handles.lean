/-
Handles.

A handle is the value of a 32-bit counter, which every call of `HDCPCreate` increments.  The
counter runs through `BAD_SESSION_HANDLE`, the value that stands for an error, and through 0,
and then gives the handles of sessions that may still be there.

`handles_identify`: in every sequence of calls of `HDCPCreate` and `HDCPDestroy` in which no
session is created when the counter has reached `BAD_SESSION_HANDLE`, a handle stands for the
session that was created with it, and a call of `HDCPCreate` that fails leaves nothing behind.

Between two calls no thread is inside the session manager (`Rest`); what a call does from there
is computed exactly.
-/
import Mathlib.Data.List.Nodup
import Hdcp.Sdk.Steps

namespace Hdcp.Handles

open Library Sdk
open Library.Prog (Leads Ensures ensures_call ensures_ret ensures_op forEach)

/-! ### Calls -/

/-- The end of `HDCPCreate`: whether it returns `HDCP_STATUS_SUCCESSFUL`. -/
def createOnDaemonStatus (handle : ℕ) : SdkProg Bool := do
  match ← getInstance handle with
  | none => return false
  | some session =>
    let successful ← connect session
    putInstance handle
    if !successful then
      destroySession handle
      return false
    return true

/-- `HDCPCreate`, with the handle that it returns when it is successful. -/
def hdcpCreateStatus (func : Option ℕ) (context : ℕ) : SdkProg (Option ℕ) := do
  let handle ← createSession func context
  if handle = badSessionHandle then
    return none
  if ← createOnDaemonStatus handle then
    return some handle
  return none

inductive HandleCall where
  | create (func : Option ℕ) (context : ℕ)
  | destroy (handle : ℕ)
deriving DecidableEq

def handleBody : HandleCall → SdkProg (Option ℕ)
  | .create func context => hdcpCreateStatus func context
  | .destroy handle => do
    hdcpDestroy handle
    return none

/-- A call that was made: its result, and the address that a session created by it has. -/
structure Made where
  call : HandleCall
  result : Option ℕ
  address : ℕ

section

variable {ι : Type}

/-- Calls one after the other, the last one first, whose steps meet the condition `C`. -/
inductive HandleRun (th : ι) (C : SdkState ι → HandleCall → Prop) :
    List Made → SdkState ι → Prop where
  | start : HandleRun th C [] initState
  | step {past : List Made} {s s' : SdkState ι} {call : HandleCall} {log : List (Event sdkSig)}
      {result : Option ℕ} (hpast : HandleRun th C past s) (hC : C s call)
      (h : (handleBody call).Runs log result) (hleads : Leads (sdkStep th) log s s') :
      HandleRun th C (⟨call, result, s.allocated⟩ :: past) s'

/-- The counter has not reached `BAD_SESSION_HANDLE` when a session is created. -/
def CounterLeft (s : SdkState ι) (call : HandleCall) : Prop :=
  ∀ func context, call = .create func context → s.handleIncrementor ≠ badSessionHandle

/-- A handle stands for one session. -/
structure Identified (th : ι) (past : List Made) (s : SdkState ι) : Prop where
  distinct : (s.sessionList.map fun session => (s.sessions session).handle).Nodup
  proper : ∀ session ∈ s.sessionList,
    (s.sessions session).handle ≠ 0 ∧ (s.sessions session).handle ≠ badSessionHandle
  /-- `GetInstance` returns the session that was created with the handle. -/
  instances : ∀ made ∈ past, ∀ handle, made.result = some handle → made.address ∈ s.sessionList →
    ∀ log r s', (getInstance handle).Runs log r → Leads (sdkStep th) log s s' →
      r = some made.address

/-- A call of `HDCPCreate` that fails leaves no session behind. -/
def FailsCleanly (th : ι) (s : SdkState ι) : Prop :=
  ∀ func context log s', CounterLeft s (.create func context) →
    (hdcpCreateStatus func context).Runs log none → Leads (sdkStep th) log s s' →
      s'.sessionList = s.sessionList

lemma hdcpCreate_eq (func : Option ℕ) (context : ℕ) :
    hdcpCreate func context = hdcpCreateStatus func context >>= fun _ => return () := by
  have hstatus (handle : ℕ) : createOnDaemon handle =
      createOnDaemonStatus handle >>= fun _ => return () := by
    rw [createOnDaemon, createOnDaemonStatus, Prog.bind_assoc]
    refine congrArg (getInstance handle >>= ·) (funext fun r => ?_)
    cases r with
    | none => rfl
    | some session =>
        refine congrArg (Prog.call (S := sdkSig) (.connect session))
          (funext fun (successful : Bool) => ?_)
        show _ = (putInstance handle >>= _) >>= _
        rw [Prog.bind_assoc]
        cases successful with
        | true => rfl
        | false =>
            refine congrArg (putInstance handle >>= ·) (funext fun _ => ?_)
            show destroySession handle = (destroySession handle >>= _) >>= _
            rw [Prog.bind_assoc]
            exact (Prog.bind_ret (destroySession handle)).symm
  rw [hdcpCreate, hdcpCreateStatus, Prog.bind_assoc]
  refine congrArg (createSession func context >>= ·) (funext fun handle => ?_)
  by_cases hbad : handle = badSessionHandle
  · rw [if_pos hbad, if_pos hbad]
    rfl
  · rw [if_neg hbad, if_neg hbad, hstatus, Prog.bind_assoc]
    refine congrArg (createOnDaemonStatus handle >>= ·) (funext fun b => ?_)
    cases b with
    | true => rfl
    | false => rfl

/-! ### Between two calls -/

/-- No thread is inside the session manager. -/
structure Rest (s : SdkState ι) : Prop where
  iteratorMutex : s.iteratorMutex = none
  iteratorReference : s.iteratorReference = 0
  pending : s.pendingDestroyQueue = []
  activeReferences : s.activeReferences = fun _ => 0
  referenceMutex : s.referenceMutex = fun _ => none
  waiting : s.waiting = fun _ => 0

variable {th : ι} {s s' : SdkState ι} {session handle : ℕ}

/-! ### The parts of a call -/

lemma ensures_enter (h : s.iteratorMutex = none) :
    Ensures (sdkStep th) (fun _ s' => s' = { s with
      iteratorReference := u32 (s.iteratorReference + 1) }) iteratorCriticalSectionEnter s := by
  refine Ensures.op_bind fun _ s₁ h₁ => Ensures.op_bind fun _ s₂ h₂ => fun _ s₃ h₃ => ?_
  obtain ⟨-, h₁⟩ := Option.ite_none_right_eq_some.1 h₁
  obtain rfl := Option.some.inj h₁
  obtain rfl := Option.some.inj h₂
  obtain rfl := Option.some.inj h₃
  show (_ : SdkState ι) = _
  rw [← h]

/-- The last thread leaves the iterator critical section, and no session is to be destroyed. -/
lemma ensures_exit (h : s.iteratorMutex = none) (hone : s.iteratorReference = 1)
    (hpending : s.pendingDestroyQueue = []) :
    Ensures (sdkStep th) (fun _ s' => s' = { s with iteratorReference := 0 })
      iteratorCriticalSectionExit s := by
  have hzero : decrement s.iteratorReference = 0 := by
    rw [hone]
    exact decrement_of_pos (by decide) (by decide)
  refine Ensures.op_bind fun _ s₁ h₁ => Ensures.op_bind fun (n : ℕ) s₂ h₂ => ?_
  obtain ⟨-, h₁⟩ := Option.ite_none_right_eq_some.1 h₁
  obtain rfl := Option.some.inj h₁
  obtain ⟨hn, rfl⟩ := SdkState.answer_eq_some.1 h₂
  have hn : n = 0 := hn.trans hzero
  subst hn
  refine Ensures.op_bind fun (pending : List ℕ) s₃ h₃ => ?_
  obtain ⟨hp, rfl⟩ := SdkState.answer_eq_some.1 h₃
  have hp : pending = [] := hp.trans hpending
  subst hp
  refine Ensures.op_bind fun _ s₄ h₄ => fun _ s₅ h₅ => ?_
  obtain rfl := Option.some.inj h₄
  obtain rfl := Option.some.inj h₅
  show (_ : SdkState ι) = _
  rw [hzero, ← h, ← hpending]

/-- A mutex that is released is free, as it was before. -/
lemma update_none {mutex : ℕ → Option ι} (h : mutex session = none) :
    Function.update mutex session none = mutex := by
  rw [← h, Function.update_eq_self]

lemma ensures_increaseReference (h : s.referenceMutex session = none) :
    Ensures (sdkStep th) (fun _ s' => s' = s.countReferences session
      (u32 (s.activeReferences session + 1))) (increaseReference session) s := by
  refine Ensures.op_bind fun _ s₁ h₁ => Ensures.op_bind fun _ s₂ h₂ => fun _ s₃ h₃ => ?_
  obtain ⟨-, rfl⟩ := SdkState.acquire_eq_some.1 h₁
  obtain rfl := Option.some.inj h₂
  obtain rfl := Option.some.inj h₃
  show (_ : SdkState ι) = _
  simp [SdkState.countReferences, update_none h]

lemma ensures_decreaseReference (h : s.referenceMutex session = none)
    (hone : s.activeReferences session = 1) (hwaiting : s.waiting session = 0) :
    Ensures (sdkStep th) (fun _ s' => s' = s.countReferences session 0)
      (decreaseReference session) s := by
  have hzero : decrement (s.activeReferences session) = 0 := by
    rw [hone]
    exact decrement_of_pos (by decide) (by decide)
  refine Ensures.op_bind fun _ s₁ h₁ => Ensures.op_bind fun (n : ℕ) s₂ h₂ => ?_
  obtain ⟨-, rfl⟩ := SdkState.acquire_eq_some.1 h₁
  obtain ⟨hn, rfl⟩ := SdkState.answer_eq_some.1 h₂
  have hn : n = 0 := hn.trans hzero
  subst hn
  refine Ensures.op_bind fun _ s₃ h₃ => fun _ s₄ h₄ => ?_
  -- nobody waits for the signal
  have hsignal (t : SdkState ι) (ht : t.waiting session = 0) : t.signal session = t := by
    rw [SdkState.signal, if_neg (by omega)]
  obtain rfl : s₃ = _ := (Option.some.inj h₃).symm.trans (hsignal _ hwaiting)
  obtain rfl := Option.some.inj h₄
  show (_ : SdkState ι) = _
  simp [SdkState.countReferences, update_none h, hzero]

/-- A session that no thread refers to is deleted at once. -/
lemma ensures_deleteSession (h : s.referenceMutex session = none)
    (hzero : s.activeReferences session = 0) :
    Ensures (sdkStep th) (fun _ s' => s' = s) (deleteSession session) s := by
  refine Ensures.op_bind fun _ s₁ h₁ => Ensures.op_bind fun (n : ℕ) s₂ h₂ => ?_
  obtain ⟨-, rfl⟩ := SdkState.acquire_eq_some.1 h₁
  obtain ⟨hn, rfl⟩ := SdkState.answer_eq_some.1 h₂
  have hn : n = 0 := hn.trans hzero
  subst hn
  refine Ensures.op_bind fun _ s₃ h₃ => fun _ s₄ h₄ => ?_
  obtain rfl := Option.some.inj h₃
  obtain rfl := Option.some.inj h₄
  show (_ : SdkState ι) = _
  simp [update_none h]

lemma ensures_deleteAndRemove (h : s.referenceMutex session = none)
    (hzero : s.activeReferences session = 0) :
    Ensures (sdkStep th) (fun _ s' => s' = { s with
      sessionList := s.sessionList.filter (· ≠ session) }) (deleteAndRemove session) s := by
  refine (ensures_deleteSession h hzero).bind ?_
  rintro - s₁ rfl _ s₂ h₂
  exact (Option.some.inj h₂).symm

/-- The session is found, and referred to. -/
lemma ensures_getInstance (h : Rest s) (handle : ℕ) :
    Ensures (sdkStep th) (fun r s' => r = s.find handle ∧
      s' = match s.find handle with
        | none => s
        | some session => s.countReferences session 1) (getInstance handle) s := by
  obtain ⟨hmutex, hiterators, hpending, hreferences, hmutexes, -⟩ := h
  have hone : u32 (s.iteratorReference + 1) = 1 := by
    rw [hiterators]
    decide
  refine (ensures_enter hmutex).bind ?_
  rintro - s₁ rfl
  rw [hone]
  refine Ensures.op_bind fun (r : Option ℕ) s₂ h₂ => ?_
  obtain ⟨hr, rfl⟩ := SdkState.answer_eq_some.1 h₂
  have hr : r = s.find handle := hr
  rcases hfind : s.find handle with _ | session
  · obtain rfl : r = none := hr.trans hfind
    refine (ensures_exit ?_ rfl ?_).bind ?_
    · exact hmutex
    · exact hpending
    rintro - s₃ rfl
    refine ⟨rfl, ?_⟩
    show ({ s with iteratorReference := 0 } : SdkState ι) = s
    rw [← hiterators]
  · obtain rfl : r = some session := hr.trans hfind
    refine Ensures.op_bind fun (b : Bool) s₃ h₃ => ?_
    obtain ⟨hb, rfl⟩ := SdkState.answer_eq_some.1 h₃
    have hb : b = false := by simpa [hpending] using hb
    subst hb
    refine (ensures_increaseReference ?_).bind ?_
    · exact congrFun hmutexes session
    rintro - s₄ rfl
    refine (ensures_exit ?_ rfl ?_).bind ?_
    · exact hmutex
    · exact hpending
    rintro - s₅ rfl
    have hcount : u32 (s.activeReferences session + 1) = 1 := by
      rw [hreferences]
      rfl
    refine ⟨rfl, ?_⟩
    simp only [SdkState.countReferences, hcount]
    rw [← hiterators]

/-- The session is found again, and no longer referred to. -/
lemma ensures_putInstance (h : Rest s) (hfind : s.find handle = some session) :
    Ensures (sdkStep th) (fun _ s' => s' = s) (putInstance handle)
      (s.countReferences session 1) := by
  obtain ⟨hmutex, hiterators, hpending, hreferences, hmutexes, hwaiting⟩ := h
  have hone : u32 ((s.countReferences session 1).iteratorReference + 1) = 1 := by
    show u32 (s.iteratorReference + 1) = 1
    rw [hiterators]
    decide
  refine (ensures_enter ?_).bind ?_
  · exact hmutex
  rintro - s₁ rfl
  rw [hone]
  refine Ensures.op_bind fun (r : Option ℕ) s₂ h₂ => ?_
  obtain ⟨hr, rfl⟩ := SdkState.answer_eq_some.1 h₂
  obtain rfl : r = some session := hr.trans hfind
  refine (ensures_decreaseReference ?_ ?_ ?_).bind ?_
  · exact congrFun hmutexes session
  · simp [SdkState.countReferences]
  · exact congrFun hwaiting session
  rintro - s₃ rfl
  refine (ensures_exit ?_ rfl ?_).mono ?_
  · exact hmutex
  · exact hpending
  rintro - s₄ rfl
  have hcount : Function.update s.activeReferences session 0 = s.activeReferences := by
    rw [hreferences]
    exact Function.update_eq_self session _
  simp only [SdkState.countReferences, Function.update_idem, hcount]
  rw [← hiterators]

/-- `DestroySession` takes the session off the list. -/
lemma ensures_destroySession (h : Rest s) (handle : ℕ) :
    Ensures (sdkStep th) (fun _ s' => s' = { s with
      sessionList := s.sessionList.filter fun session => s.find handle ≠ some session })
      (destroySession handle) s := by
  obtain ⟨hmutex, hiterators, -, hreferences, hmutexes, -⟩ := h
  refine Ensures.op_bind fun _ s₁ h₁ => Ensures.op_bind fun (r : Option ℕ) s₂ h₂ => ?_
  obtain ⟨-, h₁⟩ := Option.ite_none_right_eq_some.1 h₁
  obtain rfl := Option.some.inj h₁
  obtain ⟨hr, rfl⟩ := SdkState.answer_eq_some.1 h₂
  have hr : r = s.find handle := hr
  rcases hfind : s.find handle with _ | session
  · obtain rfl : r = none := hr.trans hfind
    refine Ensures.op_bind fun _ s₃ h₃ => fun _ s₄ h₄ => ?_
    obtain rfl := Option.some.inj h₃
    obtain rfl := Option.some.inj h₄
    show (_ : SdkState ι) = _
    simp only [ne_eq, reduceCtorEq, not_false_eq_true, decide_true, List.filter_true]
    rw [← hmutex]
  · obtain rfl : r = some session := hr.trans hfind
    refine Ensures.op_bind fun (n : ℕ) s₃ h₃ => ?_
    obtain ⟨hn, rfl⟩ := SdkState.answer_eq_some.1 h₃
    have hn : n = 0 := hn.trans hiterators
    subst hn
    refine (ensures_deleteAndRemove ?_ ?_).bind ?_
    · exact congrFun hmutexes session
    · exact congrFun hreferences session
    rintro - s₄ rfl
    refine Ensures.op_bind fun _ s₅ h₅ => fun _ s₆ h₆ => ?_
    obtain rfl := Option.some.inj h₅
    obtain rfl := Option.some.inj h₆
    show (_ : SdkState ι) = _
    have hsame : s.sessionList.filter (fun x => some session ≠ some x) =
        s.sessionList.filter (fun x => x ≠ session) := by
      refine List.filter_congr fun x _ => ?_
      simp [eq_comm]
    rw [hsame, ← hmutex]

/-- What `CreateSession` leaves behind, when it begins with the state `s`: the counter is
incremented, and a session is in the list when the handle is that of a session. -/
def Created (s : SdkState ι) (func : Option ℕ) (context handle : ℕ) (s' : SdkState ι) : Prop :=
  s' = { s with
      handleIncrementor := u32 (s.handleIncrementor + 1)
      sessions := Function.update s.sessions s.allocated ⟨handle, func, context⟩
      allocated := s.allocated + 1
      sessionList := s.allocated :: s.sessionList } ∧ handle = s.handleIncrementor

/-- Nothing is left of a session that could not be created. -/
structure NotCreated (s s' : SdkState ι) : Prop where
  rest : Rest s → Rest s'
  counter : s'.handleIncrementor = u32 (s.handleIncrementor + 1)
  list : s'.sessionList = s.sessionList
  allocated : s.allocated ≤ s'.allocated
  sessions : ∀ session < s.allocated, s'.sessions session = s.sessions session

lemma ensures_createSession (h : Rest s) (func : Option ℕ) (context : ℕ) :
    Ensures (sdkStep th) (fun handle s' => Created s func context handle s' ∨
      handle = badSessionHandle ∧ NotCreated s s') (createSession func context) s := by
  obtain ⟨hmutex, hiterators, hpending, hreferences, hmutexes, hwaiting⟩ := h
  refine Ensures.op_bind fun (handle : ℕ) s₁ h₁ => Ensures.op_bind fun (b : Bool) s₂ h₂ => ?_
  obtain ⟨rfl, rfl⟩ := SdkState.answer_eq_some.1 h₁
  obtain rfl := Option.some.inj h₂
  refine Ensures.ite (fun _ => ?_) fun _ => ?_
  · exact .inr ⟨rfl, fun h => ⟨h.1, h.2, h.3, h.4, h.5, h.6⟩, rfl, rfl, Nat.le_refl _,
      fun _ _ => rfl⟩
  refine Ensures.op_bind fun (r : Option ℕ) s₃ h₃ => ?_
  rcases r with _ | address
  · obtain rfl := Option.some.inj h₃
    exact .inr ⟨rfl, fun h => ⟨h.1, h.2, h.3, h.4, h.5, h.6⟩, rfl, rfl, Nat.le_refl _,
      fun _ _ => rfl⟩
  obtain ⟨hnew, h₃⟩ := Option.ite_none_right_eq_some.1 h₃
  obtain rfl := Option.some.inj h₃
  obtain rfl : address = s.allocated := hnew
  refine Ensures.op_bind fun (valid : Bool) s₄ h₄ => ?_
  obtain rfl := Option.some.inj h₄
  refine Ensures.ite (fun _ => ?_) fun _ => ?_
  · refine (ensures_deleteSession ?_ ?_).bind ?_
    · exact congrFun hmutexes _
    · exact congrFun hreferences _
    rintro - s₅ rfl
    refine .inr ⟨rfl, fun h => ⟨h.1, h.2, h.3, h.4, h.5, h.6⟩, rfl, rfl, Nat.le_succ _, ?_⟩
    exact fun session hlt => Function.update_of_ne (Nat.ne_of_lt hlt) _ _
  · refine Ensures.op_bind fun _ s₅ h₅ => Ensures.op_bind fun _ s₆ h₆ =>
      Ensures.op_bind fun _ s₇ h₇ => ?_
    obtain ⟨-, h₅⟩ := Option.ite_none_right_eq_some.1 h₅
    obtain rfl := Option.some.inj h₅
    obtain rfl := Option.some.inj h₆
    obtain rfl := Option.some.inj h₇
    refine .inl ⟨?_, rfl⟩
    rw [← hmutex]

/-- A session that the daemon does not take is destroyed. -/
lemma ensures_createOnDaemonStatus (h : Rest s) (hfind : s.find handle = some session) :
    Ensures (sdkStep th) (fun b s' => s' = if b then s else { s with
      sessionList := s.sessionList.filter (· ≠ session) }) (createOnDaemonStatus handle) s := by
  refine (ensures_getInstance h handle).bind ?_
  rintro r s₁ ⟨rfl, rfl⟩
  simp only [hfind]
  refine Ensures.op_bind fun (b : Bool) s₂ h₂ => ?_
  obtain rfl := Option.some.inj h₂
  refine (ensures_putInstance h hfind).bind ?_
  rintro - s₃ rfl
  cases b with
  | true => exact rfl
  | false =>
      refine (ensures_destroySession h handle).bind ?_
      rintro - s₄ rfl
      have hsame : s₃.sessionList.filter (fun x => s₃.find handle ≠ some x) =
          s₃.sessionList.filter (fun x => x ≠ session) := by
        refine List.filter_congr fun x _ => ?_
        simp [hfind, eq_comm]
      show (_ : SdkState ι) = _
      rw [hsame]
      rfl

/-- What `HDCPCreate` leaves behind.  A session whose handle is `BAD_SESSION_HANDLE` is in the
list although the call fails. -/
lemma ensures_hdcpCreateStatus (h : Rest s)
    (hfresh : ∀ session ∈ s.sessionList, session < s.allocated) (func : Option ℕ)
    (context : ℕ) :
    Ensures (sdkStep th) (fun r s' =>
      (∃ handle, Created s func context handle s' ∧
        (r = some handle ∨ r = none ∧ handle = badSessionHandle)) ∨
        r = none ∧ NotCreated s s') (hdcpCreateStatus func context) s := by
  refine (ensures_createSession h func context).bind ?_
  rintro handle s₁ (⟨rfl, rfl⟩ | ⟨rfl, hnot⟩)
  · by_cases hbad : s.handleIncrementor = badSessionHandle
    · rw [if_pos hbad]
      exact .inl ⟨_, ⟨rfl, rfl⟩, .inr ⟨rfl, hbad⟩⟩
    rw [if_neg hbad]
    refine (ensures_createOnDaemonStatus ?_ (?_ : SdkState.find _ _ = some s.allocated)).bind ?_
    · exact ⟨h.1, h.2, h.3, h.4, h.5, h.6⟩
    · simp [SdkState.find]
    rintro (_ | _) s₂ rfl
    · -- the session is off the list again
      have hlist : (s.allocated :: s.sessionList).filter (· ≠ s.allocated) = s.sessionList := by
        rw [List.filter_cons_of_neg (by simp)]
        refine List.filter_eq_self.2 fun session hmem => ?_
        simpa using Nat.ne_of_lt (hfresh session hmem)
      refine .inr ⟨rfl, fun h => ⟨h.1, h.2, h.3, h.4, h.5, h.6⟩, rfl, hlist, Nat.le_succ _, ?_⟩
      exact fun session hlt => Function.update_of_ne (Nat.ne_of_lt hlt) _ _
    · exact .inl ⟨_, ⟨rfl, rfl⟩, .inl rfl⟩
  · exact .inr ⟨rfl, hnot⟩

/-! ### Runs -/

/-- What holds between two calls, as long as the counter is not used up. -/
structure Inv (past : List Made) (s : SdkState ι) : Prop where
  rest : Rest s
  counter : 0 < s.handleIncrementor ∧ s.handleIncrementor ≤ badSessionHandle
  fresh : ∀ session ∈ s.sessionList, session < s.allocated
  handles : ∀ session ∈ s.sessionList,
    0 < (s.sessions session).handle ∧ (s.sessions session).handle < s.handleIncrementor
  distinct : (s.sessionList.map fun session => (s.sessions session).handle).Nodup
  made : ∀ made ∈ past, ∀ handle, made.result = some handle →
    made.address < s.allocated ∧ (s.sessions made.address).handle = handle

variable {past : List Made} {made : Made}

lemma inv_initState : Inv [] (initState : SdkState ι) where
  rest := ⟨rfl, rfl, rfl, rfl, rfl, rfl⟩
  counter := ⟨Nat.one_pos, (by decide : 1 ≤ badSessionHandle)⟩
  fresh := by simp [initState]
  handles := by simp [initState]
  distinct := List.nodup_nil
  made := by simp

/-- The counter does not wrap. -/
lemma Inv.u32_succ (h : Inv past s) (hleft : s.handleIncrementor ≠ badSessionHandle) :
    u32 (s.handleIncrementor + 1) = s.handleIncrementor + 1 := by
  have hlt : s.handleIncrementor < 2 ^ 32 - 1 := lt_of_le_of_ne h.counter.2 hleft
  exact Nat.mod_eq_of_lt (by omega)

lemma Inv.succ_le (h : Inv past s) (hleft : s.handleIncrementor ≠ badSessionHandle) :
    s.handleIncrementor + 1 ≤ badSessionHandle := lt_of_le_of_ne h.counter.2 hleft

/-- Nothing happens to the sessions that are there. -/
lemma Inv.notCreated (h : Inv past s) (hleft : s.handleIncrementor ≠ badSessionHandle)
    (hnot : NotCreated s s') (hmade : made.result = none) : Inv (made :: past) s' := by
  have hcounter : s'.handleIncrementor = s.handleIncrementor + 1 := by
    rw [hnot.counter, h.u32_succ hleft]
  have hsame (session : ℕ) (hmem : session ∈ s.sessionList) :
      s'.sessions session = s.sessions session := hnot.sessions session (h.fresh session hmem)
  constructor
  · exact hnot.rest h.rest
  · rw [hcounter]
    exact ⟨Nat.succ_pos _, h.succ_le hleft⟩
  · intro session hmem
    rw [hnot.list] at hmem
    exact (h.fresh session hmem).trans_le hnot.allocated
  · intro session hmem
    rw [hnot.list] at hmem
    obtain ⟨hpos, hlt⟩ := h.handles session hmem
    rw [hsame session hmem, hcounter]
    exact ⟨hpos, Nat.lt_succ_of_lt hlt⟩
  · have hmap : s'.sessionList.map (fun session => (s'.sessions session).handle) =
        s.sessionList.map fun session => (s.sessions session).handle := by
      rw [hnot.list]
      exact List.map_congr_left fun session hmem => by rw [hsame session hmem]
    rw [hmap]
    exact h.distinct
  · intro made' hmem handle hresult
    rcases List.mem_cons.1 hmem with rfl | hmem
    · exact absurd (hmade.symm.trans hresult) (by simp)
    · obtain ⟨hlt, hhandle⟩ := h.made made' hmem handle hresult
      rw [hnot.sessions _ hlt]
      exact ⟨hlt.trans_le hnot.allocated, hhandle⟩

/-- A session comes with a handle that is larger than all others. -/
lemma Inv.created {func : Option ℕ} {context : ℕ} {call : HandleCall} (h : Inv past s)
    (hleft : s.handleIncrementor ≠ badSessionHandle) (hcreated : Created s func context handle s') :
    Inv (⟨call, some handle, s.allocated⟩ :: past) s' := by
  obtain ⟨hs', rfl⟩ := hcreated
  have hcounter : s'.handleIncrementor = s.handleIncrementor + 1 := by
    rw [hs']
    exact h.u32_succ hleft
  have hlist : s'.sessionList = s.allocated :: s.sessionList := by rw [hs']
  have hallocated : s'.allocated = s.allocated + 1 := by rw [hs']
  have hself : (s'.sessions s.allocated).handle = s.handleIncrementor := by simp [hs']
  have hothers (session : ℕ) (hlt : session < s.allocated) :
      s'.sessions session = s.sessions session := by
    rw [hs']
    exact Function.update_of_ne (Nat.ne_of_lt hlt) _ _
  constructor
  · rw [hs']
    exact ⟨h.rest.1, h.rest.2, h.rest.3, h.rest.4, h.rest.5, h.rest.6⟩
  · rw [hcounter]
    exact ⟨Nat.succ_pos _, h.succ_le hleft⟩
  · intro session hmem
    rw [hlist] at hmem
    rw [hallocated]
    rcases List.mem_cons.1 hmem with rfl | hmem
    · exact Nat.lt_succ_self _
    · exact Nat.lt_succ_of_lt (h.fresh session hmem)
  · intro session hmem
    rw [hlist] at hmem
    rw [hcounter]
    rcases List.mem_cons.1 hmem with rfl | hmem
    · rw [hself]
      exact ⟨h.counter.1, Nat.lt_succ_self _⟩
    · rw [hothers session (h.fresh session hmem)]
      exact ⟨(h.handles session hmem).1, Nat.lt_succ_of_lt (h.handles session hmem).2⟩
  · have hmap : s.sessionList.map (fun session => (s'.sessions session).handle) =
        s.sessionList.map fun session => (s.sessions session).handle :=
      List.map_congr_left fun session hmem => by rw [hothers session (h.fresh session hmem)]
    rw [hlist, List.map_cons, hmap, hself]
    refine List.nodup_cons.2 ⟨fun hmem => ?_, h.distinct⟩
    obtain ⟨session, hsession, hhandle⟩ := List.mem_map.1 hmem
    exact absurd hhandle (Nat.ne_of_lt (h.handles session hsession).2)
  · intro made' hmem handle hresult
    rw [hallocated]
    rcases List.mem_cons.1 hmem with rfl | hmem
    · obtain rfl := Option.some.inj hresult
      exact ⟨Nat.lt_succ_self _, hself⟩
    · obtain ⟨hlt, hhandle⟩ := h.made made' hmem handle hresult
      rw [hothers _ hlt]
      exact ⟨Nat.lt_succ_of_lt hlt, hhandle⟩

/-- Sessions are destroyed. -/
lemma Inv.filter (h : Inv past s) (p : ℕ → Bool) (hmade : made.result = none) :
    Inv (made :: past) { s with sessionList := s.sessionList.filter p } := by
  constructor
  · exact ⟨h.rest.1, h.rest.2, h.rest.3, h.rest.4, h.rest.5, h.rest.6⟩
  · exact h.counter
  · exact fun session hmem => h.fresh session (List.mem_of_mem_filter hmem)
  · exact fun session hmem => h.handles session (List.mem_of_mem_filter hmem)
  · exact h.distinct.sublist (List.filter_sublist.map _)
  · intro made' hmem handle hresult
    rcases List.mem_cons.1 hmem with rfl | hmem
    · exact absurd (hmade.symm.trans hresult) (by simp)
    · exact h.made made' hmem handle hresult

lemma inv_of_run (h : HandleRun th CounterLeft past s) : Inv past s := by
  induction h with
  | start => exact inv_initState
  | @step past s s' call log result hpast hC h hleads ih =>
      cases call with
      | create func context =>
          have hleft := hC func context rfl
          have hends :=
            (ensures_hdcpCreateStatus ih.rest ih.fresh func context).of_runs h hleads
          rcases hends with ⟨handle, hcreated, rfl | ⟨rfl, hbad⟩⟩ | ⟨rfl, hnot⟩
          · exact ih.created hleft hcreated
          · exact absurd (hcreated.2.symm.trans hbad) hleft
          · exact ih.notCreated hleft hnot rfl
      | destroy handle =>
          have hends : Ensures (sdkStep th) (fun r s' => r = none ∧ s' = { s with
              sessionList := s.sessionList.filter fun session => s.find handle ≠ some session })
              (handleBody (.destroy handle)) s :=
            (ensures_destroySession ih.rest handle).bind fun _ s' hs' => ⟨rfl, hs'⟩
          obtain ⟨rfl, rfl⟩ := hends.of_runs h hleads
          exact ih.filter _ rfl

/-- In the runs in which the counter is not used up, a handle identifies the session that was
created with it, and a call that fails leaves no session behind. -/
theorem handles_identify (th : ι) (past : List Made) (s : SdkState ι)
    (h : HandleRun th CounterLeft past s) : Identified th past s ∧ FailsCleanly th s := by
  have hinv := inv_of_run h
  refine ⟨⟨hinv.distinct, fun session hmem => ?_, ?_⟩, ?_⟩
  · obtain ⟨hpos, hlt⟩ := hinv.handles session hmem
    have hle := hinv.counter.2
    exact ⟨hpos.ne', by omega⟩
  · intro made hmade handle hresult hmem log r s' hrun hleads
    obtain ⟨rfl, -⟩ := (ensures_getInstance hinv.rest handle).of_runs hrun hleads
    obtain ⟨-, hhandle⟩ := hinv.made made hmade handle hresult
    rcases hfind : s.find handle with _ | session
    · have hnone := List.find?_eq_none.1 hfind made.address hmem
      exact absurd hhandle (by simpa using hnone)
    · have hsession : (s.sessions session).handle = handle := by
        simpa using List.find?_some hfind
      have hin : session ∈ s.sessionList := List.mem_of_find?_eq_some hfind
      rw [List.inj_on_of_nodup_map hinv.distinct hin hmem (hsession.trans hhandle.symm)]
  · intro func context log s' hC hrun hleads
    have hends :=
      (ensures_hdcpCreateStatus hinv.rest hinv.fresh func context).of_runs hrun hleads
    rcases hends with ⟨handle, hcreated, hsome | ⟨-, hbad⟩⟩ | ⟨-, hnot⟩
    · exact absurd hsome (by simp)
    · exact absurd (hcreated.2.symm.trans hbad) (hC func context rfl)
    · exact hnot.list

end

/-! ### Runs that show what happens -/

/-- The answers of the state; the daemon accepts the connection of the session or not. -/
def answerOf (connected : Bool) (s : SdkState Unit) : (o : SdkOp) → o.Ans
  | .getUniqueHandle => s.handleIncrementor
  | .decreaseIterator => decrement s.iteratorReference
  | .getIteratorReference => s.iteratorReference
  | .getActiveReferences session => s.activeReferences session
  | .decreaseReference session => decrement (s.activeReferences session)
  | .initCallBack | .isValid _ | .waitEnd _ => true
  | .isPending session => decide (session ∈ s.pendingDestroyQueue)
  | .connect _ => connected
  | .newSession _ => some s.allocated
  | .findSession handle | .findToDestroy handle => s.find handle
  | .getSessionList => s.sessionList
  | .getPendingQueue => s.pendingDestroyQueue
  | .getSession session => s.sessions session
  | .invoke _ _ _ => ([] : List ApiCall)
  | .iteratorBegin | .iteratorEnd | .increaseIterator | .pushFront _ _ | .remove _ | .destroyed _
  | .pushPending _ | .clearPending | .referenceBegin _ | .referenceEnd _ | .increaseReference _
  | .signal _ | .waitBegin _ | .free _ | .transaction _ | .deleteCallBackSocket => ()

/-- A session is created, or not. -/
def created (connected : Bool) (context : ℕ) (s : SdkState Unit) :
    Option (Result sdkSig (SdkState Unit) (Option ℕ)) :=
  Prog.answered (answerOf connected) (sdkStep ()) (handleBody (.create none context)) s

def firstCreation : Result sdkSig (SdkState Unit) (Option ℕ) :=
  (created true 5 initState).get (by decide +kernel)

/-- The daemon does not accept the session. -/
def secondCreation : Result sdkSig (SdkState Unit) (Option ℕ) :=
  (created false 6 firstCreation.st).get (by decide +kernel)

def thirdCreation : Result sdkSig (SdkState Unit) (Option ℕ) :=
  (created true 7 secondCreation.st).get (by decide +kernel)

/-- The calls, the last one first. -/
def creations : List Made :=
  [⟨.create none 7, some 3, 2⟩, ⟨.create none 6, none, 1⟩, ⟨.create none 5, some 1, 0⟩]

lemma handleRun_creations : HandleRun () CounterLeft creations thirdCreation.st := by
  have hleft {s : SdkState Unit} (context : ℕ) (h : s.handleIncrementor ≠ badSessionHandle) :
      CounterLeft s (.create none context) := fun _ _ _ => h
  have hfirst : firstCreation.val = some 1 := by decide +kernel
  have hsecond : secondCreation.val = none := by decide +kernel
  have hthird : thirdCreation.val = some 3 := by decide +kernel
  have hrun₁ : created true 5 initState = some firstCreation := (Option.some_get _).symm
  have hrun₂ : created false 6 firstCreation.st = some secondCreation := (Option.some_get _).symm
  have hrun₃ : created true 7 secondCreation.st = some thirdCreation := (Option.some_get _).symm
  obtain ⟨hruns₁, hleads₁⟩ := Prog.of_answered hrun₁
  obtain ⟨hruns₂, hleads₂⟩ := Prog.of_answered hrun₂
  obtain ⟨hruns₃, hleads₃⟩ := Prog.of_answered hrun₃
  rw [hfirst] at hruns₁
  rw [hsecond] at hruns₂
  rw [hthird] at hruns₃
  have hone : HandleRun () CounterLeft [⟨.create none 5, some 1, 0⟩] firstCreation.st :=
    .step .start (hleft 5 (by decide)) hruns₁ hleads₁
  have htwo : HandleRun () CounterLeft
      [⟨.create none 6, none, 1⟩, ⟨.create none 5, some 1, 0⟩] secondCreation.st :=
    hone.step (hleft 6 (by decide +kernel)) hruns₂ hleads₂
  exact htwo.step (hleft 7 (by decide +kernel)) hruns₃ hleads₃

theorem handles_identify_creations :
    thirdCreation.st.sessionList = [2, 0] ∧ Identified () creations thirdCreation.st ∧
      FailsCleanly () thirdCreation.st :=
  ⟨by decide +kernel, handles_identify () creations thirdCreation.st handleRun_creations⟩

/-- Every call fails to connect for the callbacks. -/
lemma exists_failing_run (n : ℕ) :
    ∃ past, HandleRun () (fun _ _ => True) past
      { (initState : SdkState Unit) with handleIncrementor := u32 (1 + n) } := by
  induction n with
  | zero => exact ⟨[], .start⟩
  | succ n ih =>
      obtain ⟨past, hpast⟩ := ih
      have hrun : (handleBody (.create none 0)).Runs
          [⟨.getUniqueHandle, u32 (1 + n)⟩, ⟨.initCallBack, false⟩] none :=
        .call _ _ _ (.call _ _ _ (.ret _))
      refine ⟨_, .step hpast trivial hrun ⟨_, if_pos rfl, _, rfl, ?_⟩⟩
      have hnext : u32 (u32 (1 + n) + 1) = u32 (1 + (n + 1)) := Nat.mod_add_mod _ _ _
      show _ = _
      rw [← hnext]

/-- The counter has reached `BAD_SESSION_HANDLE`, and a session is created. -/
theorem bad_handle_in_list :
    ¬∀ (past : List Made) (s : SdkState Unit), HandleRun () (fun _ _ => True) past s →
      Identified () past s ∧ FailsCleanly () s := by
  intro h
  obtain ⟨past, hpast⟩ := exists_failing_run (2 ^ 32 - 2)
  have hcounter : u32 (1 + (2 ^ 32 - 2)) = badSessionHandle := by decide
  rw [hcounter] at hpast
  have hrun : (handleBody (.create none 0)).Runs
      [⟨.getUniqueHandle, badSessionHandle⟩, ⟨.initCallBack, true⟩,
        ⟨.newSession ⟨badSessionHandle, none, 0⟩, some 0⟩, ⟨.isValid 0, true⟩,
        ⟨.iteratorBegin, ()⟩, ⟨.pushFront 0 badSessionHandle, ()⟩, ⟨.iteratorEnd, ()⟩] none := by
    repeat refine .call _ _ _ ?_
    exact .ret _
  have hend := hpast.step trivial hrun ⟨_, SdkState.answer_eq_some.2 ⟨rfl, rfl⟩, _, rfl, _, rfl, _,
    rfl, _, rfl, _, rfl, _, rfl, rfl⟩
  exact absurd rfl ((h _ _ hend).1.proper 0 List.mem_cons_self).2

end Hdcp.Handles
