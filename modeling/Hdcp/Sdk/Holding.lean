/-
What a thread holds in the session manager.

A thread changes the list of sessions while it holds `m_IteratorMutex`, and makes the channel of
the callbacks step by step while it holds `m_HandleIncrementorMutex`.  `Standing` is what a call
has come to; `channelMonitor` says what it may do from there.  All calls keep to the monitor
(`sat_channelBody`), and return without a mutex.
-/
import Hdcp.Library.Monitor
import Hdcp.Sdk.Channel

namespace Hdcp.Channel

open Library Sdk Socket Handles
open Library.Prog (iter op forEach)

/-! ### Where a call is -/

/-- How far `InitCallBack` has come. -/
inductive Stage where
  | outside
  | inside
  | unset
  | fresh
  | connected
  | registered
  | created
deriving DecidableEq

/-- What a call has come to: whether it holds `m_IteratorMutex`, the list of sessions that it has
read since; whether it knows that the callback thread was created, and is one of a session with a
callback function; the session that it has made; whether it has destroyed the channel. -/
structure Standing where
  iterator : Bool
  list : Option (List ℕ)
  stage : Stage
  ready : Bool
  strict : Bool
  own : Option (ℕ × Option ℕ)
  gone : Bool

namespace Standing

def start (strict : Bool) : Standing := ⟨false, none, .outside, false, strict, none, false⟩

def lock (q : Standing) : Standing := { q with iterator := true, list := none }

def unlock (q : Standing) : Standing := { q with iterator := false, list := none }

def mapList (q : Standing) (f : List ℕ → List ℕ) : Standing := { q with list := q.list.map f }

def reach (q : Standing) (stage : Stage) : Standing := { q with stage := stage }

/-- The flag was read. -/
def readFlag (q : Standing) (r : Bool) : Standing :=
  if r then { q with ready := true } else if q.stage = .inside then q.reach .unset else q

def afterSdk (q : Standing) : Event sdkSig → Standing
  | ⟨.iteratorBegin, _⟩ => q.lock
  | ⟨.iteratorEnd, _⟩ => q.unlock
  | ⟨.newSession session, r⟩ => { q with own := Option.map (·, session.callBack) r }
  | ⟨.getSessionList, r⟩ => { q with list := if q.iterator then some r else none }
  | ⟨.pushFront session _, _⟩ => q.mapList (session :: ·)
  | ⟨.remove session, _⟩ => q.mapList (·.filter (· ≠ session))
  | _ => q

def after (q : Standing) : Event channelSig → Standing
  | ⟨.sdk o, r⟩ => q.afterSdk ⟨o, r⟩
  | ⟨.isCallBackInitialized, r⟩ => q.readFlag r
  | ⟨.setCallBackInitialized, _⟩ => q.reach .inside
  | ⟨.handleBegin, _⟩ => q.reach .inside
  | ⟨.handleEnd, _⟩ => q.reach .outside
  | ⟨.newSocket, (r : Bool)⟩ => if r then q.reach .fresh else q
  | ⟨.connectCallBack, (ret : ℕ)⟩ => if ret = success then q.reach .connected else q
  | ⟨.sendCreateCallBack, (ret : ℕ)⟩ => if ret = success then q.reach .registered else q
  | ⟨.createThread, r⟩ =>
    if (r : ℕ × ℕ).1 = success then { q.reach .created with ready := true } else q
  | ⟨.deleteSocket, _⟩ =>
    if q.stage = .registered then q.reach .unset else { q with gone := true }
  | ⟨.enterThread, _⟩ => { q with ready := true }
  | _ => q

end Standing

/-- What the functions of the session manager may do. -/
def sdkMay (q : Standing) : SdkOp → Prop
  | .iteratorBegin => q.iterator = false
  | .iteratorEnd | .remove _ => q.iterator = true
  | .pushFront session _ => q.iterator = true ∧
    ∃ func, q.own = some (session, func) ∧ (func ≠ none → q.ready = true)
  | .initCallBack => q.stage = .outside
  | .deleteCallBackSocket => q.stage = .outside ∧ q.ready = true ∧ q.iterator = true ∧
    q.list = some []
  | _ => True

/-- What a thread may do. -/
def opMay (q : Standing) : ChannelOp → Prop
  | .sdk o => sdkMay q o
  | .handleBegin => q.stage = .outside
  | .handleEnd => q.stage ≠ .outside ∧ q.stage ≠ .created
  | .newSocket => q.stage = .unset
  | .connectCallBack => q.stage = .fresh
  | .sendCreateCallBack => q.stage = .connected
  | .createThread => q.stage = .registered
  | .setCallBackInitialized => q.stage = .created
  | .deleteSocket =>
    q.stage = .registered ∨
      q.stage = .outside ∧ q.ready = true ∧ q.iterator = true ∧ q.list = some []
  | .exitThread => q.gone = true
  | _ => True

/-- A thread that cannot be created has an error, in a call with a callback function. -/
def Expected (q : Standing) : Event channelSig → Prop
  | ⟨.createThread, (ret, errno)⟩ => q.strict = true → ret ≠ 0 → errno ≠ 0
  | _ => True

def channelMonitor : Monitor channelSig Standing where
  may := opMay
  next q o r q' := Expected q ⟨o, r⟩ ∧ q' = q.after ⟨o, r⟩

/-- What `InitCallBack` and the check before it leave: when they are successful, a call with a
callback function knows that the thread was created. -/
def Checked (successful : Bool) (q q' : Standing) : Prop :=
  ∃ ready, q' = { q with ready := ready } ∧ (q.ready = true → ready = true) ∧
    (successful = true → q.strict = true → ready = true)

/-- The monitor of the functions of the session manager. -/
def sdkMonitor : Monitor sdkSig Standing where
  may := sdkMay
  next q o r q' :=
    match o, r with
    | .initCallBack, r => Checked r q q'
    | .deleteCallBackSocket, _ => q' = { q with gone := true }
    | o, r => q' = q.afterSdk ⟨o, r⟩

abbrev SdkSat {α : Type} (Q : α → Standing → Prop) : SdkProg α → Standing → Prop :=
  sdkMonitor.Sat Q

abbrev ChannelSat {α : Type} (Q : α → Standing → Prop) : ChannelProg α → Standing → Prop :=
  channelMonitor.Sat Q

variable {q q' : Standing} {session handle : ℕ} {α : Type}

/-! ### The functions of the session manager -/

/-- The thread holds no mutex. -/
structure Free (q : Standing) : Prop where
  iterator : q.iterator = false
  stage : q.stage = .outside

/-- The thread holds no mutex again, and what it knew is still so. -/
structure Later (q q' : Standing) : Prop where
  free : Free q'
  ready : q.ready = true → q'.ready = true
  strict : q'.strict = q.strict

lemma Free.later (h : Free q) : Later q q := ⟨h, fun h => h, rfl⟩

lemma Later.trans {q'' : Standing} (h : Later q q') (h' : Later q' q'') : Later q q'' :=
  ⟨h'.free, fun hr => h'.ready (h.ready hr), h'.strict.trans h.strict⟩

lemma Free.unlock (h : Free q) (l : Option (List ℕ)) :
    Later q { q with iterator := true, list := l }.unlock :=
  ⟨⟨rfl, h.stage⟩, fun h => h, rfl⟩

/-- The interactions that do not matter here. -/
def indifferent : SdkOp → Bool
  | .iteratorBegin | .iteratorEnd | .newSession _ | .getSessionList | .pushFront _ _ | .remove _
  | .initCallBack | .deleteCallBackSocket => false
  | _ => true

lemma sdkMonitor_of_indifferent (q : Standing) (o : SdkOp) (ho : indifferent o = true) :
    sdkMonitor.may q o ∧ ∀ r q', sdkMonitor.next q o r q' → q' = q := by
  cases o
  case iteratorBegin | iteratorEnd | newSession | getSessionList | pushFront | remove |
    initCallBack | deleteCallBackSocket => exact absurd ho (by simp [indifferent])
  all_goals exact ⟨trivial, fun _ _ h => h⟩

lemma sat_aside {p : SdkProg α} (hp : p.Uses fun o : SdkOp => indifferent o = true) :
    SdkSat (fun _ q' => q' = q) p q :=
  Monitor.sat_of_uses hp sdkMonitor_of_indifferent

lemma sat_one {o : SdkOp} (ho : indifferent o = true) :
    SdkSat (fun _ q' => q' = q) (op (S := sdkSig) o) q :=
  sat_aside (Prog.uses_op.2 ho)

lemma indifferent_of_onSession (o : SdkOp) (ho : o.onSession = true) : indifferent o = true := by
  cases o
  case iteratorBegin | iteratorEnd | newSession | getSessionList | pushFront | remove |
    initCallBack | deleteCallBackSocket => exact absurd ho (by simp [SdkOp.onSession])
  all_goals rfl

lemma sat_deleteSession : SdkSat (fun _ q' => q' = q) (deleteSession session) q :=
  sat_aside (uses_deleteSession indifferent_of_onSession)

lemma sat_iteratorBegin (h : Free q) : SdkSat (fun _ q' => q' = q.lock) iteratorBegin q :=
  Monitor.sat_op h.iterator fun _ _ h => h

lemma sat_iteratorEnd (h : q.iterator = true) :
    SdkSat (fun _ q' => q' = q.unlock) iteratorEnd q :=
  Monitor.sat_op h fun _ _ h => h

/-- What comes before the end of a section does not matter. -/
lemma sat_endAfter {o : SdkOp} (h : Free q) (ho : indifferent o = true) {l : Option (List ℕ)} :
    SdkSat (fun _ q' => Later q q') (op (S := sdkSig) o >>= fun _ => iteratorEnd)
      { q with iterator := true, list := l } := by
  refine (sat_one ho).bind ?_
  rintro - _ rfl
  refine (sat_iteratorEnd rfl).mono ?_
  rintro - _ rfl
  exact h.unlock l

lemma sat_enter (h : Free q) : SdkSat (fun _ q' => Later q q') iteratorCriticalSectionEnter q := by
  refine (sat_iteratorBegin h).bind ?_
  rintro - _ rfl
  exact sat_endAfter h rfl

/-- A session is deleted and removed from the list. -/
lemma sat_deleteAndRemove (h : q.iterator = true) :
    SdkSat (fun _ q' => q' = q.mapList (·.filter (· ≠ session))) (deleteAndRemove session) q := by
  refine sat_deleteSession.bind ?_
  rintro - _ rfl
  exact Monitor.sat_op h fun _ _ h => h

lemma sat_deleteAll (sessions : List ℕ) (h : q.iterator = true) :
    SdkSat (fun _ q' => q' = q.mapList (·.filter (· ∉ sessions)))
      (forEach sessions deleteAndRemove) q := by
  induction sessions generalizing q with
  | nil =>
      show q = _
      simp [Standing.mapList]
  | cons session sessions ih =>
      refine (sat_deleteAndRemove h).bind ?_
      rintro - _ rfl
      refine (ih (by exact h)).mono ?_
      rintro - _ rfl
      simp only [Standing.mapList, Option.map_map]
      congr 2
      ext l : 1
      simp [List.filter_filter, Bool.and_comm]

lemma sat_exit (h : Free q) : SdkSat (fun _ q' => Later q q') iteratorCriticalSectionExit q := by
  refine (sat_iteratorBegin h).bind ?_
  rintro - _ rfl
  refine (sat_one (o := .decreaseIterator) rfl).bind ?_
  rintro (iteratorReference : ℕ) _ rfl
  refine Monitor.Sat.ite (fun _ => ?_) fun _ => ?_
  · refine (sat_one (o := .getPendingQueue) rfl).bind ?_
    rintro pending _ rfl
    refine (sat_deleteAll pending rfl).bind ?_
    rintro - _ rfl
    exact sat_endAfter h rfl
  · refine (sat_iteratorEnd rfl).mono ?_
    rintro - _ rfl
    exact h.unlock none

lemma sat_destroySession (h : Free q) (handle : ℕ) :
    SdkSat (fun _ q' => Later q q') (destroySession handle) q := by
  refine (sat_iteratorBegin h).bind ?_
  rintro - _ rfl
  refine (sat_one (o := .findToDestroy handle) rfl).bind ?_
  rintro (_ | session) _ rfl
  · exact sat_endAfter h rfl
  refine (sat_one (o := .getIteratorReference) rfl).bind ?_
  rintro (iteratorReference : ℕ) _ rfl
  refine Monitor.Sat.ite (fun _ => ?_) fun _ => ?_
  · refine (sat_one (o := .pushPending session) rfl).bind ?_
    rintro - _ rfl
    exact sat_endAfter h rfl
  · refine (sat_deleteAndRemove rfl).bind ?_
    rintro - _ rfl
    exact sat_endAfter h rfl

lemma sat_getInstance (h : Free q) (handle : ℕ) :
    SdkSat (fun _ q' => Later q q') (getInstance handle) q := by
  refine (sat_enter h).bind fun _ q₁ h₁ => ?_
  refine (sat_one (o := .findSession handle) rfl).bind ?_
  have hleave {a : Option ℕ} {q₂ : Standing} (h₂ : Later q q₂) :
      SdkSat (fun _ q' => Later q q') (iteratorCriticalSectionExit >>= fun _ => return a) q₂ :=
    (sat_exit h₂.free).bind fun _ _ h₃ => h₂.trans h₃
  rintro (_ | session) _ rfl
  · exact hleave h₁
  refine (sat_one (o := .isPending session) rfl).bind ?_
  rintro (pending : Bool) _ rfl
  refine Monitor.Sat.ite (fun _ => hleave h₁) fun _ => ?_
  refine (sat_aside (uses_increaseReference indifferent_of_onSession)).bind ?_
  rintro - _ rfl
  exact hleave h₁

lemma sat_putInstance (h : Free q) (handle : ℕ) :
    SdkSat (fun _ q' => Later q q') (putInstance handle) q := by
  refine (sat_enter h).bind fun _ q₁ h₁ => ?_
  refine (sat_one (o := .findSession handle) rfl).bind ?_
  rintro (_ | session) _ rfl
  · exact (sat_exit h₁.free).mono fun _ _ h₂ => h₁.trans h₂
  refine (sat_aside (uses_decreaseReference indifferent_of_onSession)).bind ?_
  rintro - _ rfl
  exact (sat_exit h₁.free).mono fun _ _ h₂ => h₁.trans h₂

/-- A session with a callback function enters the list when it is known that the thread was
created. -/
lemma sat_createSession (h : Free q) (func : Option ℕ) (context : ℕ)
    (hfunc : func ≠ none → q.strict = true ∨ q.ready = true) :
    SdkSat (fun _ q' => Later q q') (createSession func context) q := by
  refine (sat_one (o := .getUniqueHandle) rfl).bind ?_
  rintro (handle : ℕ) q rfl
  refine (Monitor.sat_op (μ := sdkMonitor) (o := .initCallBack)
    (Q := fun r q' => Checked r q q') h.stage fun _ _ h => h).bind ?_
  rintro (initialized : Bool) _ ⟨ready, rfl, hready, hmade⟩
  have h₁ : Later q { q with ready := ready } := ⟨⟨h.iterator, h.stage⟩, hready, rfl⟩
  refine Monitor.Sat.ite (fun _ => h₁) fun hinitialized => ?_
  have hready' : func ≠ none → ready = true := by
    intro hsome
    exact (hfunc hsome).elim (hmade (by simpa using hinitialized)) hready
  refine (Monitor.sat_op (μ := sdkMonitor) (o := .newSession ⟨handle, func, context⟩)
    (Q := fun (r : Option ℕ) q' => q' = { q with ready := ready, own := r.map (·, func) }) trivial
    ?_).bind ?_
  · rintro r _ rfl
    rfl
  rintro (_ | session) _ rfl
  · exact ⟨⟨h.iterator, h.stage⟩, hready, rfl⟩
  have h₂ : Later q { q with ready := ready, own := some (session, func) } :=
    ⟨⟨h.iterator, h.stage⟩, hready, rfl⟩
  refine (sat_one (o := .isValid session) rfl).bind ?_
  rintro (valid : Bool) _ rfl
  refine Monitor.Sat.ite (fun _ => ?_) fun _ => ?_
  · refine sat_deleteSession.bind ?_
    rintro - _ rfl
    exact h₂
  · refine (sat_iteratorBegin h₂.free).bind ?_
    rintro - _ rfl
    refine (Monitor.sat_op (μ := sdkMonitor) (o := .pushFront session handle)
      (Q := fun _ q' => q' = _) ⟨rfl, func, rfl, hready'⟩ fun _ _ h => h).bind ?_
    rintro - _ rfl
    refine (sat_iteratorEnd rfl).bind ?_
    rintro - _ rfl
    exact h₂.trans (h₂.free.unlock none)

lemma sat_hdcpCreateStatus (h : Free q) (func : Option ℕ) (context : ℕ)
    (hfunc : func ≠ none → q.strict = true ∨ q.ready = true) :
    SdkSat (fun _ q' => Later q q') (hdcpCreateStatus func context) q := by
  refine (sat_createSession h func context hfunc).bind fun (handle : ℕ) q₁ h₁ => ?_
  refine Monitor.Sat.ite (fun _ => h₁) fun _ => ?_
  have hstatus : SdkSat (fun _ q' => Later q q') (createOnDaemonStatus handle) q₁ := by
    refine (sat_getInstance h₁.free handle).bind ?_
    rintro (_ | session) q₂ h₂
    · exact h₁.trans h₂
    refine (sat_one (o := .connect session) rfl).bind ?_
    rintro (successful : Bool) _ rfl
    refine (sat_putInstance h₂.free handle).bind fun _ q₃ h₃ => ?_
    have h₃ := (h₁.trans h₂).trans h₃
    refine Monitor.Sat.ite (fun _ => ?_) fun _ => h₃
    exact (sat_destroySession h₃.free handle).bind fun _ _ h₄ => h₃.trans h₄
  exact hstatus.bind fun _ _ h₂ => Monitor.Sat.ite (fun _ => h₂) fun _ => h₂

lemma sat_hdcpRequest (h : Free q) (handle : ℕ) :
    SdkSat (fun _ q' => Later q q') (hdcpRequest handle) q := by
  refine (sat_getInstance h handle).bind ?_
  rintro (_ | session) q₁ h₁
  · exact h₁
  refine (sat_one (o := .transaction session) rfl).bind ?_
  rintro - _ rfl
  exact (sat_putInstance h₁.free handle).mono fun _ _ h₂ => h₁.trans h₂

/-- What a callback function asks of the SDK: the thread that executes it was created. -/
lemma sat_apiCall (h : Free q) (hready : q.ready = true) (c : ApiCall) :
    SdkSat (fun _ q' => Later q q') (apiCall c) q := by
  cases c with
  | create func context =>
      show SdkSat _ (hdcpCreate func context) q
      rw [hdcpCreate_eq]
      exact (sat_hdcpCreateStatus h func context fun _ => .inr hready).bind fun _ _ h₁ => h₁
  | destroy handle => exact sat_destroySession h handle
  | request handle => exact sat_hdcpRequest h handle

/-- A loop whose rounds begin and end without a mutex. -/
lemma sat_rounds {l : List α} {f : α → SdkProg Unit}
    (hf : ∀ a q, Free q → q.ready = true → SdkSat (fun _ q' => Later q q') (f a) q) (h : Free q)
    (hready : q.ready = true) : SdkSat (fun _ q' => Later q q') (forEach l f) q := by
  induction l generalizing q with
  | nil => exact h.later
  | cons a l ih =>
      refine (hf a q h hready).bind fun _ q₁ h₁ => ?_
      exact (ih h₁.free (h₁.ready hready)).mono fun _ _ h₂ => h₁.trans h₂

lemma sat_getSessionList (h : Free q) :
    SdkSat (fun _ q' => q' = { q with list := none }) getSessionList q := by
  refine Monitor.sat_op trivial ?_
  rintro r _ rfl
  rw [Standing.afterSdk, h.iterator]
  rfl

lemma sat_deliver (h : Free q) (hready : q.ready = true) :
    SdkSat (fun _ q' => Later q q') deliver q := by
  refine (sat_enter h).bind fun _ q₁ h₁ => ?_
  refine (sat_getSessionList h₁.free).bind ?_
  rintro (sessions : List ℕ) _ rfl
  have h₂ : Later q { q₁ with list := none } :=
    ⟨⟨h₁.free.iterator, h₁.free.stage⟩, h₁.ready, h₁.strict⟩
  refine (sat_rounds (fun session q h hready => ?_) h₂.free (h₂.ready hready)).bind
    fun _ q₃ h₃ => ?_
  · refine (sat_one (o := .getSession session) rfl).bind ?_
    rintro ⟨handle, _ | func, context⟩ _ rfl
    · exact h.later
    refine (sat_one (o := .invoke func handle context) rfl).bind ?_
    rintro (calls : List ApiCall) _ rfl
    exact sat_rounds (fun c q h hready => sat_apiCall h hready c) h hready
  · have h₃ := h₂.trans h₃
    exact (sat_exit h₃.free).mono fun _ _ h₄ => h₃.trans h₄

/-- The list is empty when the socket is deleted. -/
lemma sat_destroyCallback (h : Free q) (hready : q.ready = true) :
    SdkSat (fun _ q' => Later q q' ∧ q'.gone = true) destroyCallback q := by
  refine (sat_iteratorBegin h).bind ?_
  rintro - _ rfl
  refine (Monitor.sat_op (μ := sdkMonitor) (o := .getSessionList)
    (Q := fun (r : List ℕ) q' => q' = { q with iterator := true, list := some r }) trivial ?_).bind
    ?_
  · rintro r _ rfl
    rfl
  rintro (sessions : List ℕ) _ rfl
  refine (sat_deleteAll sessions rfl).bind ?_
  rintro - _ rfl
  have hempty : sessions.filter (· ∉ sessions) = [] := by simp
  refine (Monitor.sat_op (μ := sdkMonitor) (o := .deleteCallBackSocket)
    (Q := fun _ q' => q' = _) ?_ fun _ _ h => h).bind ?_
  · exact ⟨h.stage, hready, rfl, congrArg some hempty⟩
  rintro - _ rfl
  refine (sat_iteratorEnd rfl).mono ?_
  rintro - _ rfl
  exact ⟨⟨⟨rfl, h.stage⟩, fun h => h, rfl⟩, rfl⟩

/-! ### The channel -/

/-- `InitCallBack`, under its mutex: success means that a call with a callback function knows that
the thread was created. -/
structure Tried (successful : Bool) (q q' : Standing) : Prop where
  same : ∃ stage ready, q' = { q with stage := stage, ready := ready } ∧
    stage ≠ .outside ∧ stage ≠ .created
  ready : q.ready = true → q'.ready = true
  made : successful = true → q.strict = true → q'.ready = true

/-- The step to the next stage, or the end. -/
lemma Tried.of_failure {sts : ℕ} (stage : Stage) (hsts : sts ≠ success)
    (hstage : stage ≠ .outside ∧ stage ≠ .created) :
    Tried (sts = success) q (q.reach stage) :=
  ⟨⟨stage, q.ready, rfl, hstage⟩, fun h => h, fun h => absurd (of_decide_eq_true h) hsts⟩

lemma sat_channelOp {o : ChannelOp} (q : Standing) (ho : opMay q o) :
    ChannelSat (fun r q' => Expected q ⟨o, r⟩ ∧ q' = q.after ⟨o, r⟩) (op (S := channelSig) o) q :=
  Monitor.sat_op ho fun _ _ h => h

lemma sat_initCallBack (h : q.stage = .inside) :
    ChannelSat (fun sts q' => Tried (sts = success) q q') initCallBack q := by
  refine (sat_channelOp (o := .isCallBackInitialized) q trivial).bind ?_
  rintro (_ | _) _ ⟨-, rfl⟩
  · -- the flag is not set
    have hunset : q.after ⟨.isCallBackInitialized, false⟩ = q.reach .unset := if_pos h
    rw [hunset]
    refine (sat_channelOp (o := .newSocket) (q.reach .unset) rfl).bind ?_
    rintro (_ | _) _ ⟨-, rfl⟩
    · exact .of_failure .unset (by decide) (by decide)
    refine (sat_channelOp (o := .connectCallBack) (q.reach .fresh) rfl).bind ?_
    rintro (ret : ℕ) _ ⟨-, rfl⟩
    rw [Standing.after]
    refine Monitor.Sat.ite (fun hret => ?_) fun hret => ?_
    · rw [if_neg hret]
      exact .of_failure .fresh hret (by decide)
    rw [if_pos (not_not.1 hret)]
    refine (sat_channelOp (o := .sendCreateCallBack) (q.reach .connected) rfl).bind ?_
    rintro (ret : ℕ) _ ⟨-, rfl⟩
    rw [Standing.after]
    refine Monitor.Sat.ite (fun hret => ?_) fun hret => ?_
    · rw [if_neg hret]
      exact .of_failure .connected hret (by decide)
    rw [if_pos (not_not.1 hret)]
    refine (sat_channelOp (o := .createThread) (q.reach .registered) rfl).bind ?_
    rintro ⟨ret, errno⟩ _ ⟨hsilent, rfl⟩
    have hafter : (q.reach .registered).after ⟨.createThread, (ret, errno)⟩ =
        if ret = success then { q.reach .created with ready := true } else q.reach .registered :=
      rfl
    rw [hafter]
    refine Monitor.Sat.ite (fun (hret : ret ≠ 0) => ?_) fun (hret : ¬ret ≠ 0) => ?_
    · -- the thread cannot be created: `errno` is returned
      rw [if_neg hret]
      refine (sat_channelOp (o := .deleteSocket) (q.reach .registered) (.inl rfl)).bind ?_
      rintro - _ ⟨-, rfl⟩
      refine ⟨⟨.unset, q.ready, rfl, by decide⟩, fun h => h, fun herrno hstrict => ?_⟩
      exact absurd (of_decide_eq_true herrno) (hsilent hstrict hret)
    · rw [if_pos (not_not.1 hret)]
      refine (sat_channelOp (o := .setCallBackInitialized)
        { q.reach .created with ready := true } rfl).bind ?_
      rintro - _ ⟨-, rfl⟩
      exact ⟨⟨.inside, true, rfl, by decide⟩, fun _ => rfl, fun _ _ => rfl⟩
  · -- the thread was created before
    refine ⟨⟨.inside, true, ?_, by decide⟩, fun _ => rfl, fun _ _ => rfl⟩
    rw [← h]
    rfl

lemma sat_checkCallBack (h : q.stage = .outside) :
    ChannelSat (fun r q' => Checked r q q') checkCallBack q := by
  refine (sat_channelOp (o := .isCallBackInitialized) q trivial).bind ?_
  rintro (_ | _) _ ⟨-, rfl⟩
  · have hsame : q.after ⟨.isCallBackInitialized, false⟩ = q := by
      have hstage : q.stage ≠ .inside := by
        rw [h]
        decide
      exact if_neg hstage
    rw [hsame]
    refine (sat_channelOp (o := .handleBegin) q h).bind ?_
    rintro - _ ⟨-, rfl⟩
    refine (sat_initCallBack (q := q.reach .inside) rfl).bind ?_
    rintro (sts : ℕ) _ ⟨⟨stage, ready, rfl, hstage⟩, hready, hmade⟩
    refine (sat_channelOp (o := .handleEnd) { q with stage := stage, ready := ready }
      hstage).bind ?_
    rintro - _ ⟨-, rfl⟩
    refine ⟨ready, ?_, hready, hmade⟩
    rw [Standing.after, Standing.reach, ← h]
  · exact ⟨true, rfl, fun _ => rfl, fun _ _ => rfl⟩

/-- What implements an interaction of the session manager does what its monitor says. -/
lemma sat_implement (q : Standing) (o : SdkOp) (ho : sdkMonitor.may q o) :
    ChannelSat (fun r q' => sdkMonitor.next q o r q') (implement o) q := by
  cases o
  case initCallBack => exact sat_checkCallBack ho
  case deleteCallBackSocket =>
    refine (sat_channelOp (o := .deleteSocket) q (.inr ho)).mono ?_
    rintro r _ ⟨-, rfl⟩
    have hstage : q.stage ≠ .registered := by
      rw [ho.1]
      decide
    exact if_neg hstage
  all_goals exact Monitor.sat_op (μ := channelMonitor) ho fun _ _ h => h.2

lemma sat_subst {Q : α → Standing → Prop} {p : SdkProg α} (h : SdkSat Q p q) :
    ChannelSat Q (p.subst implement) q :=
  Monitor.Sat.subst sat_implement h

/-- A round of the callback thread. -/
lemma sat_callBackRound {L : Layout} (h : Free q) (hready : q.ready = true) :
    ChannelSat (Monitor.Round (fun _ q' => Free q' ∧ q'.ready = true) fun _ q' => Free q')
      (callBackRound L ()) q := by
  refine (Monitor.sat_op (μ := channelMonitor) (o := .getMessage)
    (Q := fun _ q' => q' = q) trivial fun _ _ h => h.2).bind ?_
  rintro (sts | data) _ rfl
  · refine Monitor.Sat.ite (fun _ => ?_) fun _ => ⟨h, hready⟩
    refine (sat_subst (sat_destroyCallback h hready)).bind ?_
    rintro - q₁ ⟨h₁, hgone⟩
    refine (Monitor.sat_op (μ := channelMonitor) (o := .exitThread)
      (Q := fun _ q' => q' = q₁) hgone fun _ _ h => h.2).bind ?_
    rintro - _ rfl
    exact h₁.free
  · refine Monitor.Sat.ite (fun _ => ⟨h, hready⟩) fun _ => ?_
    refine Monitor.Sat.ite (fun _ => ⟨h, hready⟩) fun _ => ?_
    exact (sat_subst (sat_deliver h hready)).bind fun _ _ h₁ => ⟨h₁.free, h₁.ready hready⟩

/-- A call with a callback function. -/
def withCallBack : ChannelCall → Bool
  | .api (.create (some _) _) => true
  | _ => false

/-- All calls keep to the monitor, and return without a mutex. -/
lemma sat_channelBody (L : Layout) (c : ChannelCall) :
    ChannelSat (fun _ q' => Free q') (channelBody L c) (.start (withCallBack c)) := by
  have hstart (strict : Bool) : Free (.start strict) := ⟨rfl, rfl⟩
  cases c with
  | api c =>
      cases c with
      | create func context =>
          refine (sat_subst (sat_hdcpCreateStatus (hstart _) func context fun hsome => ?_)).mono
            fun _ _ h => h.free
          obtain ⟨f, rfl⟩ := Option.ne_none_iff_exists'.1 hsome
          exact .inl rfl
      | destroy handle =>
          exact sat_subst ((sat_destroySession (hstart _) handle).bind fun _ _ h => h.free)
  | request handle =>
      exact (sat_subst (sat_hdcpRequest (hstart _) handle)).bind fun _ _ h => h.free
  | listen rounds =>
      refine (Monitor.sat_op (μ := channelMonitor) (o := .enterThread)
        (Q := fun _ q' => q' = { Standing.start false with ready := true }) trivial
        fun _ _ h => h.2).bind ?_
      rintro - _ rfl
      refine (Monitor.sat_iter (I := fun _ q' => Free q' ∧ q'.ready = true)
        (Q := fun _ q' => Free q')
        (fun _ q h => sat_callBackRound h.1 h.2) rounds ⟨⟨rfl, rfl⟩, rfl⟩).bind ?_
      rintro (_ | _) q' h
      · obtain ⟨-, h⟩ := h
        exact h.1
      · exact h
  | disconnect ends =>
      refine (Monitor.sat_op (μ := channelMonitor) (o := .disconnect ends)
        (Q := fun _ q' => q' = .start false) trivial fun _ _ h => h.2).bind ?_
      rintro - _ rfl
      exact hstart _
  | restart =>
      refine (Monitor.sat_op (μ := channelMonitor) (o := .restart)
        (Q := fun _ q' => q' = .start false) trivial fun _ _ h => h.2).bind ?_
      rintro - _ rfl
      exact hstart _

end Hdcp.Channel
