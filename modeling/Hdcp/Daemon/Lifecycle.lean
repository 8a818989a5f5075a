/-
The connections of the daemon.

A connection that the daemon has accepted and not closed is an entry of `m_SessionFdArray`
or of `m_CallBackList`.  `GetTask` takes it from the array by the `Command` of a request
only, and leaves the rest to `DispatchCommand`, which is not called for a request with a
wrong `Size`, and which closes nothing.  In the runs in which no client sends such a request
every open connection is in one place whenever the message loop waits for a request.
-/
import Mathlib.Data.List.Count
import Hdcp.Daemon.Steps

namespace Hdcp.Daemon

open Library Socket
open Library.Prog (op iter)

variable {ι : Type}

/-! ### Where a descriptor is -/

/-- The descriptor leaves `m_SessionFdArray`. -/
def frees (fd : ℕ) : Event daemonSig → Bool
  | ⟨.freeSlot _, r⟩ => held r
  | _ => false
where
  held (r : Option ℕ) : Bool := r = some fd

/-- The descriptor enters `m_CallBackList`. -/
def enters (fd : ℕ) : Event daemonSig → Bool
  | ⟨.pushBackCallBack fd', _⟩ => fd' = fd
  | _ => false

def closes (fd : ℕ) : Event daemonSig → Bool
  | ⟨.close fd', _⟩ => fd' = fd
  | _ => false

/-- `PortManagerHandleAppExit` is called for the descriptor. -/
def exits (fd : ℕ) : Event daemonSig → Bool
  | ⟨.portManagerHandleAppExit fd', _⟩ => fd' = fd
  | _ => false

def accepts (fd : ℕ) : Event daemonSig → Bool
  | ⟨.accept, r⟩ => accepted r
  | _ => false
where
  accepted : Except Errno ℕ → Bool
    | .ok fd' => fd' = fd
    | .error _ => false

/-- The label is an interaction of a kind. -/
def isOp (p : Event daemonSig → Bool) : DaemonLabel ι → Bool
  | .op _ _ e => p e
  | _ => false

/-- The descriptor was obtained from `accept` and has not been closed since. -/
def isOpen (fd : ℕ) : DaemonTrace ι → Bool := since (isOp (accepts fd)) (isOp (closes fd))

/-- The entries of `m_SessionFdArray` that hold the descriptor. -/
def slotCount (s : DaemonState ι) (fd : ℕ) : ℕ :=
  (List.range sessionCountMax).countP fun i => (s.sessionFdArray i).fd = some fd

def placeCount (s : DaemonState ι) (fd : ℕ) : ℕ := slotCount s fd + s.callBackList.count fd

/-- Every connection is in one place. -/
def OnePlace (tr : DaemonTrace ι) (s : DaemonState ι) : Prop :=
  ∀ fd, isOpen fd tr = true → placeCount s fd = 1

/-- What left the array and did not enter the list was closed, and the port manager was told
that the app is gone. -/
def Released (events : List (Event daemonSig)) : Prop :=
  ∀ fd, events.any (frees fd) = true → events.any (enters fd) = true ∨
    events.any (closes fd) = true ∧ events.any (exits fd) = true

/-! ### The condition -/

/-- The bytes that were read. -/
def received : List (Event daemonSig) → List UInt8
  | [] => []
  | ⟨.read _ _, r⟩ :: es => received es ++ bytesOf r
  | _ :: es => received es
where
  bytesOf : Except Errno (List UInt8) → List UInt8
    | .ok bytes => bytes
    | .error _ => []

/-- A request for which `GetTask` and `DispatchCommand` do the same: it does not ask to
destroy the connection, and is as long as it says when it asks for callbacks. -/
def FrameOk (m : HdcpDaemon) (req : SocketData) : Prop :=
  req.command ≠ HdcpApi.destroy ∧
    (req.command = HdcpApi.createCallBack → req.size = m.sizeofSocketData)

/-- The first message of a call, once it is complete. -/
def FirstFrameOk (m : HdcpDaemon) (bytes : List UInt8) : Prop :=
  bytes.length = m.layout.size → FrameOk m (m.layout.decode bytes)

/-- `accept` gives no descriptor of the list. -/
def Unlisted (s : DaemonState ι) : Except Errno ℕ → Prop
  | .ok fd => fd ∉ s.callBackList
  | .error _ => True

/-- The condition on the steps of a run. -/
def lifecycleCondition [DecidableEq ι] (m : HdcpDaemon) :
    DaemonTrace ι → DaemonState ι → DaemonLabel ι → Prop
  | _, s, .op _ _ ⟨.accept, r⟩ => Unlisted s r
  | tr, _, .op i _ ⟨.read _ _, r⟩ =>
    FirstFrameOk m (received (callEvents i tr) ++ received.bytesOf r)
  | _, _, _ => True

variable {m : HdcpDaemon} {main i j : ι} {c : DaemonCall} {o : DaemonOp} {r : o.Ans}
  {s s' : DaemonState ι} {tr tr' : DaemonTrace ι} {fd n : ℕ}

/-! ### The entries of the array -/

lemma countP_update {α : Type} (f : ℕ → α) (p : α → Prop) [DecidablePred p] (x : α) {l : List ℕ}
    (hl : l.Nodup) {i : ℕ} (hi : i ∈ l) :
    l.countP (fun k => p (Function.update f i x k)) + (if p (f i) then 1 else 0) =
      l.countP (fun k => p (f k)) + if p x then 1 else 0 := by
  induction l with
  | nil => exact absurd hi List.not_mem_nil
  | cons k l ih =>
      rw [List.nodup_cons] at hl
      rcases List.mem_cons.1 hi with rfl | hmem
      · have hrest : l.countP (fun k => p (Function.update f i x k)) =
            l.countP (fun k => p (f k)) := by
          refine List.countP_congr fun k hk => ?_
          have hne : k ≠ i := by
            rintro rfl
            exact hl.1 hk
          rw [Function.update_of_ne hne]
        simp only [List.countP_cons, Function.update_self, hrest, decide_eq_true_eq]
        omega
      · have hne : k ≠ i := by
          rintro rfl
          exact hl.1 hmem
        have htail := ih hl.2 hmem
        simp only [List.countP_cons, Function.update_of_ne hne, decide_eq_true_eq]
        omega

/-- What the change of an entry does to the number of entries with a descriptor. -/
lemma slotCount_setEntry (s : DaemonState ι) {i : ℕ} (hi : i < sessionCountMax) (x : PollFd)
    (fd : ℕ) :
    slotCount (s.setEntry i x) fd + (if (s.sessionFdArray i).fd = some fd then 1 else 0) =
      slotCount s fd + if x.fd = some fd then 1 else 0 := by
  have h := countP_update s.sessionFdArray (fun e => e.fd = some fd) x
    List.nodup_range (List.mem_range.2 hi)
  exact h

lemma slotCount_congr (h : ∀ i, (s'.sessionFdArray i).fd = (s.sessionFdArray i).fd) (fd : ℕ) :
    slotCount s' fd = slotCount s fd := by
  rw [slotCount, slotCount]
  exact List.countP_congr fun i _ => by rw [h i]

lemma slotCount_pos {i : ℕ} (hi : i < sessionCountMax)
    (h : (s.sessionFdArray i).fd = some fd) : 0 < slotCount s fd :=
  List.countP_pos_iff.2 ⟨i, List.mem_range.2 hi, by simpa using h⟩

lemma slotCount_eq_zero (h : ∀ i < sessionCountMax, (s.sessionFdArray i).fd ≠ some fd) :
    slotCount s fd = 0 := by
  rw [slotCount, List.countP_eq_zero]
  intro i hi
  simpa using h i (List.mem_range.1 hi)

/-! ### Interactions that a function makes -/

def DaemonOp.isRead : DaemonOp → Bool
  | .read _ _ => true
  | _ => false

/-- What changes no places. -/
def Still (o : DaemonOp) : Prop := o.onPlaces = false

/-- What changes no places and reads nothing. -/
def Quiet (o : DaemonOp) : Prop := o.onPlaces = false ∧ o.isRead = false

lemma still_op {o : DaemonOp} (h : o.onPlaces = false) : (op (S := daemonSig) o).Uses Still :=
  Prog.uses_op.2 h

lemma still_of_quiet (o : DaemonOp) (h : Quiet o) : Still o := h.1

lemma uses_sendResponse {rsp : SocketData} : (m.sendResponse rsp fd).Uses Quiet :=
  uses_writeLoop (fun _ => Prog.uses_op.2 ⟨rfl, rfl⟩) _ _

lemma uses_sendStill {rsp : SocketData} : (m.sendResponse rsp fd).Uses Still :=
  uses_sendResponse.mono still_of_quiet

lemma still_of_serves (o : DaemonOp) (h : Serves fd o) : Still o := by
  rcases h with hinternal | ⟨n, rfl⟩ | ⟨bytes, rfl⟩
  · cases o with
    | new | portManagerHandleAppExit | portManagerEnumeratePorts | portManagerEnablePort
    | portManagerDisablePort | portManagerGetStatus | portManagerGetKsvList
    | portManagerSendSrmData | storeSrm | getSrmVersion | srmConfig => rfl
    | _ => exact hinternal.elim
  · rfl
  · rfl

/-- Only `CREATE_CALLBACK` changes places. -/
lemma uses_answerTask {task : HdcpDaemon.Task} (h : task.req.command ≠ HdcpApi.createCallBack) :
    (m.answerTask task).Uses Still :=
  (serves_answerTask h).mono still_of_serves

/-! ### The invariant -/

namespace Lifecycle

/-- Every descriptor is in place, except perhaps for `moving`. -/
structure Placed (m : HdcpDaemon) (moving : Option ℕ) (s : DaemonState ι) : Prop where
  slots : ∀ i < sessionCountMax, ∀ fd, (s.sessionFdArray i).fd = some fd → some fd ≠ moving →
    fd = m.fd ∨ s.opened fd = true
  one : ∀ fd, s.opened fd = true → some fd ≠ moving → placeCount s fd = 1

/-- `Released`, except perhaps for `moving`. -/
def ReleasedBut (moving : Option ℕ) (events : List (Event daemonSig)) : Prop :=
  ∀ fd, some fd ≠ moving → events.any (frees fd) = true → events.any (enters fd) = true ∨
    events.any (closes fd) = true ∧ events.any (exits fd) = true

/-- What the other threads do while the message loop serves a request: they close
descriptors of the list and remove closed ones from it. -/
structure Later (main : ι) (s s' : DaemonState ι) : Prop where
  fds : ∀ i, (s'.sessionFdArray i).fd = (s.sessionFdArray i).fd
  count_le : ∀ fd, s'.callBackList.count fd ≤ s.callBackList.count fd
  count : ∀ fd, s'.opened fd = true → s'.callBackList.count fd = s.callBackList.count fd
  opened_of : ∀ fd, s'.opened fd = true → s.opened fd = true
  opened : ∀ fd, s.callBackList.count fd = 0 → s'.opened fd = s.opened fd
  mutex : s.callBackListMutex = some main →
    s'.callBackListMutex = some main ∧ s'.callBackList = s.callBackList

/-- What the others do while the thread `i` holds `m_CallBackListMutex`. -/
def Guarded (i : ι) (s s' : DaemonState ι) : Prop :=
  s.callBackListMutex = some i → s'.callBackListMutex = some i ∧
    s'.callBackList = s.callBackList ∧
    ∀ fd ∈ s.callBackList, s'.opened fd = true → s.opened fd = true

variable {moving : Option ℕ} {events : List (Event daemonSig)} {e : Event daemonSig}

lemma Later.refl (s : DaemonState ι) : Later main s s where
  fds _ := rfl
  count_le _ := le_rfl
  count _ _ := rfl
  opened_of _ h := h
  opened _ _ := rfl
  mutex h := ⟨h, rfl⟩

lemma Later.trans {s'' : DaemonState ι} (h : Later main s s') (h' : Later main s' s'') :
    Later main s s'' where
  fds i := (h'.fds i).trans (h.fds i)
  count_le fd := (h'.count_le fd).trans (h.count_le fd)
  count fd hfd := (h'.count fd hfd).trans (h.count fd (h'.opened_of fd hfd))
  opened_of fd hfd := h.opened_of fd (h'.opened_of fd hfd)
  opened fd hfd := by
    have hzero : s'.callBackList.count fd = 0 := Nat.eq_zero_of_le_zero (hfd ▸ h.count_le fd)
    rw [h'.opened fd hzero, h.opened fd hfd]
  mutex hmutex := by
    obtain ⟨hmutex', hlist⟩ := h.mutex hmutex
    obtain ⟨hmutex'', hlist'⟩ := h'.mutex hmutex'
    exact ⟨hmutex'', hlist'.trans hlist⟩

lemma later_of_same (h : SamePlaces s s') : Later main s s' where
  fds := h.fds
  count_le fd := by rw [h.list]
  count fd _ := by rw [h.list]
  opened_of fd hfd := by rwa [h.opened] at hfd
  opened fd _ := by rw [h.opened]
  mutex hmutex := ⟨h.mutex.trans hmutex, h.list⟩

lemma Guarded.refl (i : ι) (s : DaemonState ι) : Guarded i s s :=
  fun h => ⟨h, rfl, fun _ _ hfd => hfd⟩

lemma Guarded.trans {s'' : DaemonState ι} (h : Guarded i s s') (h' : Guarded i s' s'') :
    Guarded i s s'' := by
  intro hmutex
  obtain ⟨hmutex', hlist, hopened⟩ := h hmutex
  obtain ⟨hmutex'', hlist', hopened'⟩ := h' hmutex'
  refine ⟨hmutex'', hlist'.trans hlist, fun fd hfd hfd' => hopened fd hfd ?_⟩
  exact hopened' fd (hlist ▸ hfd) hfd'

lemma guarded_of_same (h : SamePlaces s s') : Guarded i s s' :=
  fun hmutex => ⟨h.mutex.trans hmutex, h.list, fun fd _ hfd => by rwa [h.opened] at hfd⟩

/-- Who does not hold the mutex guards nothing. -/
lemma guarded_of_ne (h : s.callBackListMutex ≠ some i) : Guarded i s s' :=
  fun hmutex => absurd hmutex h

/-- A descriptor of the array that is open is not in the list. -/
lemma Placed.count_eq_zero (h : Placed m moving s) {i : ℕ} (hi : i < sessionCountMax)
    (hfd : (s.sessionFdArray i).fd = some fd) (hopened : s.opened fd = true)
    (hne : some fd ≠ moving) : s.callBackList.count fd = 0 := by
  have hone := h.one fd hopened hne
  have hpos := slotCount_pos hi hfd
  rw [placeCount] at hone
  omega

lemma Later.placeCount_le (h : Later main s s') (fd : ℕ) : placeCount s' fd ≤ placeCount s fd := by
  rw [placeCount, placeCount, slotCount_congr h.fds]
  exact Nat.add_le_add_left (h.count_le fd) _

lemma Placed.later (h : Placed m moving s) (hlater : Later main s s') :
    Placed m moving s' := by
  constructor
  · intro i hi fd hfd hne
    rw [hlater.fds] at hfd
    rcases h.slots i hi fd hfd hne with hlistener | hopened
    · exact .inl hlistener
    · right
      rw [hlater.opened fd (h.count_eq_zero hi hfd hopened hne)]
      exact hopened
  · intro fd hfd hne
    rw [placeCount, slotCount_congr hlater.fds, hlater.count fd hfd]
    exact h.one fd (hlater.opened_of fd hfd) hne

lemma Placed.mono (h : Placed m none s) : Placed m moving s :=
  ⟨fun i hi fd hfd _ => h.slots i hi fd hfd (by simp), fun fd hfd _ => h.one fd hfd (by simp)⟩

lemma ReleasedBut.cons (h : ReleasedBut moving events)
    (he : ∀ fd, some fd ≠ moving → frees fd e = false) : ReleasedBut moving (e :: events) := by
  intro fd hne hfrees
  rw [List.any_cons, he fd hne, Bool.false_or] at hfrees
  rcases h fd hne hfrees with henters | ⟨hcloses, hexits⟩
  · left
    rw [List.any_cons, henters, Bool.or_true]
  · right
    rw [List.any_cons, List.any_cons, hcloses, hexits, Bool.or_true, Bool.or_true]
    exact ⟨rfl, rfl⟩

lemma ReleasedBut.mono (h : ReleasedBut none events) : ReleasedBut moving events :=
  fun fd _ => h fd (by simp)

/-! ### Changes of places -/

/-- The descriptor is open and nowhere. -/
def Carried (fd : ℕ) (s : DaemonState ι) : Prop := placeCount s fd = 0 ∧ s.opened fd = true

lemma Carried.later (h : Carried fd s) (hlater : Later main s s') : Carried fd s' := by
  refine ⟨Nat.eq_zero_of_le_zero (h.1 ▸ hlater.placeCount_le fd), ?_⟩
  have hcount : s.callBackList.count fd = 0 := (Nat.add_eq_zero_iff.1 h.1).2
  rw [hlater.opened fd hcount]
  exact h.2

lemma Later.closed (h : Later main s s') (hfd : s.opened fd = false) : s'.opened fd = false := by
  by_contra hopen
  rw [h.opened_of fd (Bool.not_eq_false _ ▸ hopen)] at hfd
  exact absurd hfd (by simp)

/-- The descriptor that moves has found its place. -/
lemma Placed.settle (h : Placed m (some fd) s)
    (hslots : 0 < slotCount s fd → fd = m.fd ∨ s.opened fd = true)
    (hone : s.opened fd = true → placeCount s fd = 1) : Placed m none s := by
  constructor
  · intro i hi fd' hfd' _
    by_cases heq : fd' = fd
    · subst heq
      exact hslots (slotCount_pos hi hfd')
    · exact h.slots i hi fd' hfd' (by simpa using heq)
  · intro fd' hfd' _
    by_cases heq : fd' = fd
    · subst heq
      exact hone hfd'
    · exact h.one fd' hfd' (by simpa using heq)

lemma Placed.setOpened (h : Placed m (some fd) s) (b : Bool) :
    Placed m (some fd) (s.setOpened fd b) := by
  constructor
  · intro i hi fd' hfd' hne
    rcases h.slots i hi fd' hfd' hne with hlistener | hopened
    · exact .inl hlistener
    · right
      rw [DaemonState.setOpened_opened, Function.update_of_ne (by simpa using hne)]
      exact hopened
  · intro fd' hfd' hne
    rw [DaemonState.setOpened_opened, Function.update_of_ne (by simpa using hne)] at hfd'
    exact h.one fd' hfd' hne

/-- An entry that is not in use, or holds the descriptor, is changed. -/
lemma Placed.setEntry {x : PollFd} (h : Placed m (some fd) s) (hi : n < sessionCountMax)
    (hold : ∀ fd', (s.sessionFdArray n).fd = some fd' → fd' = fd)
    (hnew : ∀ fd', x.fd = some fd' → fd' = fd) :
    Placed m (some fd) (s.setEntry n x) := by
  constructor
  · intro i hi fd' hfd' hne
    rw [DaemonState.setEntry_array] at hfd'
    by_cases heq : i = n
    · subst heq
      rw [Function.update_self] at hfd'
      exact absurd (hnew fd' hfd') (by simpa using hne)
    · rw [Function.update_of_ne heq] at hfd'
      exact h.slots i hi fd' hfd' hne
  · intro fd' hfd' hne
    have hcount := slotCount_setEntry s hi x fd'
    rw [if_neg fun hmem => hne (congrArg some (hold fd' hmem)),
      if_neg fun hmem => hne (congrArg some (hnew fd' hmem)), Nat.add_zero, Nat.add_zero] at hcount
    rw [placeCount, DaemonState.setEntry_list, hcount]
    exact h.one fd' hfd' hne

lemma Placed.setList {fds : List ℕ} (h : Placed m (some fd) s)
    (hcount : ∀ fd' ≠ fd, fds.count fd' = s.callBackList.count fd') :
    Placed m (some fd) (s.setList fds) := by
  constructor
  · exact h.slots
  · intro fd' hfd' hne
    rw [placeCount, DaemonState.setList_list, hcount fd' (by simpa using hne)]
    exact h.one fd' hfd' hne

/-- A descriptor of the array that is open is in one entry of it. -/
lemma Placed.slotCount_eq_one (h : Placed m none s) (hi : n < sessionCountMax)
    (hfd : (s.sessionFdArray n).fd = some fd) (hopened : s.opened fd = true) :
    slotCount s fd = 1 := by
  have hone := h.one fd hopened (by simp)
  rw [placeCount, h.count_eq_zero hi hfd hopened (by simp)] at hone
  exact hone

/-- The number of entries when one of them that holds the descriptor is freed. -/
lemma slotCount_free (hi : n < sessionCountMax) (hfd : (s.sessionFdArray n).fd = some fd)
    (hone : slotCount s fd = 1) : slotCount (s.setEntry n ⟨none, 0⟩) fd = 0 := by
  have hcount := slotCount_setEntry s hi ⟨none, 0⟩ fd
  rw [if_pos hfd, if_neg (by simp), hone] at hcount
  omega

/-! ### Steps -/

lemma frees_of_still (ho : o.onPlaces = false) (fd : ℕ) : frees fd ⟨o, r⟩ = false := by
  cases o
  case freeSlot => exact absurd ho (by simp [DaemonOp.onPlaces])
  all_goals rfl

lemma isOpen_of_still (ho : o.onPlaces = false) (fd : ℕ) :
    isOpen fd (.op i c ⟨o, r⟩ :: tr) = isOpen fd tr := by
  cases o
  case accept | close => exact absurd ho (by simp [DaemonOp.onPlaces])
  all_goals rfl

/-- The history tells which descriptors are open. -/
lemma opened_step (hopened : ∀ fd, s.opened fd = isOpen fd tr)
    (hstep : m.step i o r s = some s') (fd : ℕ) :
    s'.opened fd = isOpen fd (.op i c ⟨o, r⟩ :: tr) := by
  by_cases ho : o.onPlaces = false
  · rw [(step_places ho hstep).opened, hopened, isOpen_of_still ho]
  cases o
  case accept =>
    cases (r : Except Errno ℕ) with
    | error e =>
        obtain rfl := Option.some.inj hstep
        exact hopened fd
    | ok fd' =>
        obtain ⟨-, hs⟩ := Option.ite_none_right_eq_some.1 hstep
        obtain rfl := Option.some.inj hs
        rw [DaemonState.setOpened_opened]
        by_cases hfd : fd = fd'
        · subst hfd
          rw [Function.update_self]
          exact (since_cons_of_on (decide_eq_true rfl)).symm
        · rw [Function.update_of_ne hfd, hopened]
          exact (since_cons_of_eq (decide_eq_false (Ne.symm hfd)) rfl).symm
  case close fd' =>
    obtain rfl := Option.some.inj hstep
    rw [DaemonState.setOpened_opened, isOpen, since_cons]
    by_cases hfd : fd = fd'
    · subst hfd
      simp [isOp, accepts, closes]
    · rw [Function.update_of_ne hfd, hopened]
      simp [isOp, accepts, closes, Ne.symm hfd, isOpen]
  case freeSlot =>
    rw [(DaemonState.answer_eq_some.1 hstep).2]
    exact hopened fd
  case callBackBegin =>
    obtain ⟨-, hs⟩ := Option.ite_none_right_eq_some.1 hstep
    obtain rfl := Option.some.inj hs
    exact hopened fd
  case setSlot | callBackEnd | removeCallBack | pushBackCallBack | eraseCallBackAt =>
    obtain rfl := Option.some.inj hstep
    exact hopened fd
  all_goals exact absurd rfl ho

variable [DecidableEq ι]

/-- Whenever the message loop waits, everything is in place and the last request has released
what it had to. -/
def lifecycleProtocol (m : HdcpDaemon) (main : ι) :
    Protocol daemonSig ι DaemonCall Unit (DaemonState ι) where
  admits := lifecycleCondition m
  inv tr s := (∀ fd, s.opened fd = isOpen fd tr) ∧
    (calling main tr = none → Placed m none s ∧ ReleasedBut none (callEvents main tr))
  rely i tr s tr' s' :=
    (i = main → calling main tr' = calling main tr ∧ callEvents main tr' = callEvents main tr ∧
      Later main s s') ∧ (i ≠ main → Guarded i s s')
  refl i _ s := ⟨fun _ => ⟨rfl, rfl, .refl s⟩, fun _ => .refl i s⟩
  trans h h' := by
    constructor
    · intro hi
      obtain ⟨hcalling, hevents, hlater⟩ := h.1 hi
      obtain ⟨hcalling', hevents', hlater'⟩ := h'.1 hi
      exact ⟨hcalling'.trans hcalling, hevents'.trans hevents, hlater.trans hlater'⟩
    · exact fun hi => (h.2 hi).trans (h'.2 hi)

/-! ### The message loop -/

/-- What the message loop knows while it serves a request.  The descriptor `moving` may be out
of place, and `leaving` has been taken from the array. -/
structure Serving (m : HdcpDaemon) (main : ι) (c : DaemonCall) (moving leaving : Option ℕ)
    (tr : DaemonTrace ι) (s : DaemonState ι) : Prop where
  busy : calling main tr = some c
  placed : Placed m moving s
  released : ReleasedBut leaving (callEvents main tr)

/-- The message loop executes a program. -/
abbrev MainSat {α : Type} (m : HdcpDaemon) (main : ι) (c : DaemonCall)
    (Q : α → DaemonTrace ι → DaemonState ι → Prop) (p : DaemonProg α) (tr : DaemonTrace ι)
    (s : DaemonState ι) : Prop :=
  (lifecycleProtocol m main).Sat (m.system main) main c Q p tr s

variable {α β : Type} {p : DaemonProg α} {Q : α → DaemonTrace ι → DaemonState ι → Prop}
  {moving' leaving leaving' : Option ℕ}

lemma Serving.of_rely (h : Serving m main c moving leaving tr s)
    (hrely : (lifecycleProtocol m main).rely main tr s tr' s') :
    Serving m main c moving leaving tr' s' := by
  obtain ⟨hcalling, hevents, hlater⟩ := hrely.1 rfl
  exact ⟨hcalling.trans h.busy, h.placed.later hlater, hevents ▸ h.released⟩

/-- A step of the message loop that the threads in `ReportStatus` allow. -/
lemma Serving.step (h : Serving m main c moving leaving tr s)
    (hinv : (lifecycleProtocol m main).inv tr s) (hstep : (m.system main).step main o r s = some s')
    (hguarded : ∀ j, j ≠ main → Guarded j s s') (hplaced : Placed m moving' s')
    (hreleased : ReleasedBut leaving' (⟨o, r⟩ :: callEvents main tr)) :
    (lifecycleProtocol m main).Keeps main tr s (.op main c ⟨o, r⟩) s' ∧
      Serving m main c moving' leaving' (.op main c ⟨o, r⟩ :: tr) s' := by
  refine ⟨⟨⟨opened_step hinv.1 hstep, fun hidle => ?_⟩, fun j hj => ?_⟩, h.busy, hplaced, ?_⟩
  · have hcalling : calling main tr = none := hidle
    rw [h.busy] at hcalling
    exact absurd hcalling (by simp)
  · exact ⟨fun hj' => absurd hj' hj, fun _ => hguarded j hj⟩
  · rw [callEvents_op_self]
    exact hreleased

lemma Serving.still (h : Serving m main c moving leaving tr s) (ho : o.onPlaces = false)
    (hinv : (lifecycleProtocol m main).inv tr s)
    (hstep : (m.system main).step main o r s = some s') :
    (lifecycleProtocol m main).Keeps main tr s (.op main c ⟨o, r⟩) s' ∧
      Serving m main c moving leaving (.op main c ⟨o, r⟩ :: tr) s' ∧ Later main s s' := by
  have hsame := step_places ho hstep
  have hlater : Later main s s' := later_of_same hsame
  obtain ⟨hkeeps, h'⟩ := h.step hinv hstep (fun j _ => guarded_of_same hsame)
    (h.placed.later hlater) (h.released.cons fun fd _ => frees_of_still ho fd)
  exact ⟨hkeeps, h', hlater⟩

/-- What changes no places; `G` is a fact about the interactions of the request so far. -/
lemma sat_still {A : DaemonOp → Prop} {G : List (Event daemonSig) → Prop}
    (hA : ∀ o, A o → o.onPlaces = false) (hG : ∀ o r es, A o → G es → G (⟨o, r⟩ :: es))
    (hp : p.Uses A) (h : Serving m main c moving leaving tr s) (hGtr : G (callEvents main tr)) :
    MainSat m main c (fun _ tr' s' => Serving m main c moving leaving tr' s' ∧ Later main s s' ∧
      G (callEvents main tr')) p tr s := by
  refine Protocol.sat_of_keeps hp ⟨h, .refl s, hGtr⟩ ?_ ?_
  · rintro tr s₁ tr' s' hrely ⟨h₁, hlater, hG₁⟩
    refine ⟨h₁.of_rely hrely, hlater.trans (hrely.1 rfl).2.2, ?_⟩
    rw [(hrely.1 rfl).2.1]
    exact hG₁
  · rintro o r tr s₁ s' ho hinv ⟨h₁, hlater, hG₁⟩ hstep -
    obtain ⟨hkeeps, h', hlater'⟩ := h₁.still (hA o ho) hinv hstep
    refine ⟨hkeeps, h', hlater.trans hlater', ?_⟩
    rw [callEvents_op_self]
    exact hG o r _ ho hG₁

/-- Until the request is read. -/
structure Waiting (m : HdcpDaemon) (main : ι) (c : DaemonCall) (moving : Option ℕ)
    (tr : DaemonTrace ι) (s : DaemonState ι) : Prop extends Serving m main c moving none tr s where
  received : received (callEvents main tr) = []

lemma Waiting.of_rely (h : Waiting m main c moving tr s)
    (hrely : (lifecycleProtocol m main).rely main tr s tr' s') :
    Waiting m main c moving tr' s' :=
  ⟨h.toServing.of_rely hrely, (congrArg _ (hrely.1 rfl).2.1).trans h.received⟩

omit [DecidableEq ι] in
lemma received_cons (ho : o.isRead = false) : received (⟨o, r⟩ :: events) = received events := by
  cases o
  case read => exact absurd ho (by simp [DaemonOp.isRead])
  all_goals rfl

/-- A step before the request is read. -/
lemma Waiting.step (h : Waiting m main c moving tr s)
    (hinv : (lifecycleProtocol m main).inv tr s) (hstep : (m.system main).step main o r s = some s')
    (ho : o.isRead = false) (hguarded : ∀ j, j ≠ main → Guarded j s s')
    (hfrees : ∀ fd, frees fd ⟨o, r⟩ = false) (hplaced : Placed m moving' s') :
    (lifecycleProtocol m main).Keeps main tr s (.op main c ⟨o, r⟩) s' ∧
      Waiting m main c moving' (.op main c ⟨o, r⟩ :: tr) s' := by
  obtain ⟨hkeeps, h'⟩ := h.toServing.step hinv hstep hguarded hplaced
    (h.released.cons fun fd _ => hfrees fd)
  refine ⟨hkeeps, h', ?_⟩
  rw [callEvents_op_self, received_cons ho]
  exact h.received

lemma sat_quiet (hp : p.Uses Quiet) (h : Waiting m main c moving tr s) :
    MainSat m main c (fun _ tr' s' => Waiting m main c moving tr' s' ∧ Later main s s') p tr s := by
  refine (sat_still (G := fun es => received es = []) still_of_quiet ?_ hp h.toServing
    h.received).mono ?_
  · intro o r es ho hes
    rw [received_cons ho.2, hes]
  · rintro a tr' s' - ⟨hserving, hlater, hreceived⟩
    exact ⟨⟨hserving, hreceived⟩, hlater⟩

/-- The read of an entry of the array. -/
lemma sat_getSlot {k : PollFd → DaemonProg α} (h : Waiting m main c moving tr s)
    (hk : ∀ tr' s', Waiting m main c moving tr' s' → Later main s s' →
      MainSat m main c Q (k (s'.sessionFdArray n)) tr' s') :
    MainSat m main c Q (getSlot n >>= k) tr s := by
  intro tr' s' hrely hinv r s'' hstep _
  have h' := h.of_rely hrely
  obtain ⟨rfl, rfl⟩ := DaemonState.answer_eq_some.1 hstep
  obtain ⟨hkeeps, h''⟩ := h'.step (o := .getSlot n) hinv hstep rfl (fun j _ => .refl j s'')
    (fun _ => rfl) h'.placed
  exact ⟨hkeeps, hk _ _ h'' (hrely.1 rfl).2.2⟩

lemma sat_findEmptySlot (h : Waiting m main c moving tr s) (todo i : ℕ) :
    MainSat m main c (fun r tr' s' => Waiting m main c moving tr' s' ∧ Later main s s' ∧
      ∀ j ∈ r, i ≤ j ∧ j < i + todo ∧ (s'.sessionFdArray j).fd = none)
      (HdcpDaemon.findEmptySlot todo i) tr s := by
  induction todo generalizing i tr s with
  | zero =>
      intro tr' s' hrely _
      exact ⟨h.of_rely hrely, (hrely.1 rfl).2.2, by simp⟩
  | succ todo ih =>
      refine sat_getSlot h fun tr₁ s₁ h₁ hlater₁ => Protocol.Sat.ite (fun hnone => ?_) fun _ => ?_
      · intro tr' s' hrely _
        have hlater := (hrely.1 rfl).2.2
        refine ⟨h₁.of_rely hrely, hlater₁.trans hlater, ?_⟩
        rintro j hj
        obtain rfl : i = j := by simpa using hj
        exact ⟨le_rfl, by omega, (hlater.fds i).trans hnone⟩
      · refine (ih h₁ (i + 1)).mono ?_
        rintro r tr' s' - ⟨h', hlater, hr⟩
        refine ⟨h', hlater₁.trans hlater, fun j hj => ?_⟩
        obtain ⟨hle, hlt, hfd⟩ := hr j hj
        exact ⟨by omega, by omega, hfd⟩

/-! ### Connections that come -/

/-- A connection is accepted. -/
lemma sat_accept {k : Except Errno ℕ → DaemonProg α} (h : Waiting m main c none tr s)
    (herror : ∀ e tr' s', Waiting m main c none tr' s' → MainSat m main c Q (k (.error e)) tr' s')
    (hok : ∀ fd tr' s', Waiting m main c (some fd) tr' s' → Carried fd s' →
      MainSat m main c Q (k (.ok fd)) tr' s') :
    MainSat m main c Q (accept >>= k) tr s := by
  intro tr' s' hrely hinv r s'' hstep hadm
  have h' := h.of_rely hrely
  cases (r : Except Errno ℕ) with
  | error e =>
      obtain rfl := Option.some.inj hstep
      obtain ⟨hkeeps, h''⟩ := h'.step (o := .accept) hinv hstep rfl (fun j _ => .refl j s')
        (fun _ => rfl) h'.placed
      exact ⟨hkeeps, herror e _ _ h''⟩
  | ok fd =>
      obtain ⟨⟨hlistener, hclosed⟩, hs⟩ := Option.ite_none_right_eq_some.1 hstep
      obtain rfl := Option.some.inj hs
      have hunlisted : fd ∉ s'.callBackList := hadm
      have hguarded (j : ι) (_ : j ≠ main) : Guarded j s' (s'.setOpened fd true) := by
        intro hmutex
        refine ⟨hmutex, rfl, fun fd' hmem hfd' => ?_⟩
        have hne : fd' ≠ fd := by
          rintro rfl
          exact hunlisted hmem
        rwa [DaemonState.setOpened_opened, Function.update_of_ne hne] at hfd'
      have hslot : slotCount s' fd = 0 := by
        refine slotCount_eq_zero fun i hi hfd => ?_
        rcases h'.placed.slots i hi fd hfd (by simp) with heq | hopen
        · exact hlistener heq
        · exact absurd (hopen.symm.trans hclosed) (by simp)
      obtain ⟨hkeeps, h''⟩ := h'.step (o := .accept) hinv hstep rfl hguarded
        (fun _ => rfl) (h'.placed.mono.setOpened true)
      refine ⟨hkeeps, hok fd _ _ h'' ⟨?_, Function.update_self _ _ _⟩⟩
      rw [placeCount, DaemonState.setOpened_list, List.count_eq_zero.2 hunlisted]
      exact hslot

omit [DecidableEq ι] in
lemma guarded_close (j : ι) : Guarded j s (s.setOpened fd false) := by
  intro hmutex
  refine ⟨hmutex, rfl, fun fd' _ hfd' => ?_⟩
  by_cases hne : fd' = fd
  · subst hne
    rw [DaemonState.setOpened_opened, Function.update_self] at hfd'
    exact absurd hfd' Bool.false_ne_true
  · rwa [DaemonState.setOpened_opened, Function.update_of_ne hne] at hfd'

/-- A connection for which there is no entry is closed. -/
lemma sat_refuse {k : Errno → DaemonProg α} (h : Waiting m main c (some fd) tr s)
    (hcarried : Carried fd s)
    (hk : ∀ e tr' s', Waiting m main c none tr' s' → MainSat m main c Q (k e) tr' s') :
    MainSat m main c Q (close fd >>= k) tr s := by
  intro tr' s' hrely hinv r s'' hstep _
  have h' := h.of_rely hrely
  have hcarried' := hcarried.later (hrely.1 rfl).2.2
  obtain rfl := Option.some.inj hstep
  have hplaced : Placed m none (s'.setOpened fd false) := by
    refine (h'.placed.setOpened false).settle (fun hpos => ?_) fun hopened => ?_
    · have hzero : slotCount s' fd = 0 := (Nat.add_eq_zero_iff.1 hcarried'.1).1
      exact absurd hpos (Nat.not_lt.2 hzero.le)
    · rw [DaemonState.setOpened_opened, Function.update_self] at hopened
      exact absurd hopened Bool.false_ne_true
  obtain ⟨hkeeps, h''⟩ := h'.step (o := .close fd) hinv hstep rfl (fun j _ => guarded_close j)
    (fun _ => rfl) hplaced
  exact ⟨hkeeps, hk _ _ _ h''⟩

/-- A connection enters an entry that is not in use. -/
lemma sat_setSlot {k : Unit → DaemonProg α} (h : Waiting m main c (some fd) tr s)
    (hcarried : Carried fd s) (hn : n < sessionCountMax) (hfree : (s.sessionFdArray n).fd = none)
    (hk : ∀ u tr' s', Waiting m main c none tr' s' → MainSat m main c Q (k u) tr' s') :
    MainSat m main c Q (setSlot n fd >>= k) tr s := by
  intro tr' s' hrely hinv r s'' hstep _
  have h' := h.of_rely hrely
  have hlater := (hrely.1 rfl).2.2
  obtain ⟨hnowhere, hopened⟩ := hcarried.later hlater
  have hfree' : (s'.sessionFdArray n).fd = none := (hlater.fds n).trans hfree
  obtain rfl := Option.some.inj hstep
  have hplaced : Placed m none (s'.setEntry n ⟨some fd, 0⟩) := by
    refine (h'.placed.setEntry hn (by simp [hfree']) (by simp)).settle
      (fun _ => .inr hopened) fun _ => ?_
    have hcount := slotCount_setEntry s' hn ⟨some fd, 0⟩ fd
    rw [if_neg (by simp [hfree']), if_pos rfl, (Nat.add_eq_zero_iff.1 hnowhere).1] at hcount
    rw [placeCount, DaemonState.setEntry_list, (Nat.add_eq_zero_iff.1 hnowhere).2]
    omega
  obtain ⟨hkeeps, h''⟩ := h'.step (o := .setSlot n fd) hinv hstep rfl
    (fun j _ hmutex => ⟨hmutex, rfl, fun _ _ hfd => hfd⟩) (fun _ => rfl) hplaced
  exact ⟨hkeeps, hk _ _ _ h''⟩

lemma sat_acceptLoop (h : Waiting m main c none tr s) (rounds emptyIndex : ℕ) :
    MainSat m main c (fun _ tr' s' => Waiting m main c none tr' s')
      (m.acceptLoop rounds emptyIndex) tr s := by
  induction rounds generalizing emptyIndex tr s with
  | zero => exact fun _ _ hrely _ => h.of_rely hrely
  | succ rounds ih =>
      refine sat_accept h (fun e tr₁ s₁ h₁ => ?_) fun fd tr₁ s₁ h₁ hcarried => ?_
      · exact fun _ _ hrely _ => h₁.of_rely hrely
      refine (sat_findEmptySlot h₁ _ emptyIndex).bind ?_
      rintro r tr₂ s₂ - ⟨h₂, hlater, hr⟩
      rcases r with _ | i
      · refine sat_refuse h₂ (hcarried.later hlater) fun _ _ _ h₃ => ?_
        exact fun _ _ hrely _ => h₃.of_rely hrely
      · obtain ⟨hle, hlt, hfree⟩ := hr i rfl
        refine sat_setSlot h₂ (hcarried.later hlater) (by omega) hfree fun _ _ _ h₃ => ?_
        refine (sat_quiet uses_sendResponse h₃).bind ?_
        rintro e tr₄ s₄ - ⟨h₄, -⟩
        exact ih h₄ i

/-! ### The request is read -/

/-- The step that reads a part of the request. -/
lemma sat_read {k : Except Errno (List UInt8) → DaemonProg α}
    (h : Serving m main c none none tr s)
    (hk : ∀ r tr' s', Serving m main c none none tr' s' → Later main s s' → readAnswer n r →
      received (callEvents main tr') = received (callEvents main tr) ++ received.bytesOf r →
      FirstFrameOk m (received (callEvents main tr')) → MainSat m main c Q (k r) tr' s') :
    MainSat m main c Q (read fd n >>= k) tr s := by
  intro tr' s' hrely hinv r s'' hstep hadm
  obtain ⟨hanswer, hs⟩ := Option.ite_none_right_eq_some.1 hstep
  obtain rfl := Option.some.inj hs
  obtain ⟨hkeeps, h', -⟩ := (h.of_rely hrely).still (o := .read fd n) rfl hinv hstep
  have hreceived : received (callEvents main (.op main c ⟨.read fd n, r⟩ :: tr')) =
      received (callEvents main tr) ++ received.bytesOf r := by
    rw [callEvents_op_self, (hrely.1 rfl).2.1]
    rfl
  refine ⟨hkeeps, hk r _ _ h' (hrely.1 rfl).2.2 hanswer hreceived ?_⟩
  rw [hreceived, ← (hrely.1 rfl).2.1]
  exact hadm

lemma sat_readLoop {data : List UInt8} (fd rounds : ℕ) (h : Serving m main c none none tr s)
    (hdata : received (callEvents main tr) = data) (hfirst : FirstFrameOk m data)
    (hsum : data.length + n = m.layout.size) (hrounds : n ≤ rounds) :
    MainSat m main c (fun r tr' s' => Serving m main c none none tr' s' ∧ Later main s s' ∧
      ∀ bytes, r = .ok bytes → bytes.length = m.layout.size ∧ FirstFrameOk m bytes)
      (readLoop (read fd) rounds n data) tr s := by
  have hdone (hn : n = 0) (bytes : List UInt8)
      (hbytes : (Except.ok data : Except Errno (List UInt8)) = .ok bytes) :
      bytes.length = m.layout.size ∧ FirstFrameOk m bytes := by
    obtain rfl := Except.ok.inj hbytes
    exact ⟨by omega, hfirst⟩
  induction rounds generalizing n data tr s with
  | zero =>
      intro tr' s' hrely _
      exact ⟨h.of_rely hrely, (hrely.1 rfl).2.2, hdone (by omega)⟩
  | succ rounds ih =>
      refine Protocol.Sat.ite (fun hn => ?_) fun hn => ?_
      · intro tr' s' hrely _
        exact ⟨h.of_rely hrely, (hrely.1 rfl).2.2, hdone hn⟩
      refine sat_read h fun r tr₁ s₁ h₁ hlater hanswer hreceived hok => ?_
      rcases r with e | bytes
      · intro tr' s' hrely _
        exact ⟨h₁.of_rely hrely, hlater.trans (hrely.1 rfl).2.2, by simp⟩
      refine Protocol.Sat.ite (fun _ => ?_) fun hne => ?_
      · intro tr' s' hrely _
        exact ⟨h₁.of_rely hrely, hlater.trans (hrely.1 rfl).2.2, by simp⟩
      have hlen : bytes.length ≤ n := of_decide_eq_true hanswer
      have hpos : 0 < bytes.length := by
        rw [List.length_pos_iff]
        simpa using hne
      have hnew : received (callEvents main tr₁) = data ++ bytes := by
        rw [hreceived, hdata]
        rfl
      rw [hnew] at hok
      refine (ih h₁ hnew hok (by rw [List.length_append]; omega) (by omega) ?_).mono ?_
      · intro hn' bytes' hbytes'
        obtain rfl := Except.ok.inj hbytes'
        exact ⟨by rw [List.length_append]; omega, hok⟩
      · rintro r tr' s' - ⟨h', hlater', hr⟩
        exact ⟨h', hlater.trans hlater', hr⟩

lemma sat_getRequest (fd : ℕ) (h : Waiting m main c none tr s) :
    MainSat m main c (fun r tr' s' => Serving m main c none none tr' s' ∧ Later main s s' ∧
      ∀ req, r = .ok req → FrameOk m req) (m.getRequest fd) tr s := by
  have hpos := layout_size_pos m.layout
  refine (sat_readLoop fd m.layout.size (n := m.layout.size) h.toServing h.received ?_
    (Nat.zero_add _) le_rfl).bind ?_
  · intro hzero
    rw [List.length_nil] at hzero
    omega
  rintro r tr' s' - ⟨h', hlater, hr⟩
  rcases r with e | bytes
  · intro tr'' s'' hrely _
    exact ⟨h'.of_rely hrely, hlater.trans (hrely.1 rfl).2.2, by simp⟩
  · intro tr'' s'' hrely _
    refine ⟨h'.of_rely hrely, hlater.trans (hrely.1 rfl).2.2, fun req hreq => ?_⟩
    obtain rfl := Except.ok.inj hreq
    obtain ⟨hlen, hok⟩ := hr bytes rfl
    exact hok hlen

/-- What `GetTask` has done for a request. -/
inductive Served (m : HdcpDaemon) (main : ι) (c : DaemonCall) (task : HdcpDaemon.Task)
    (tr : DaemonTrace ι) (s : DaemonState ι) : Prop where
  | kept (h : Serving m main c none none tr s)
      (hcommand : task.req.command ≠ HdcpApi.createCallBack)
  | callBack (h : Serving m main c (some task.appId) (some task.appId) tr s)
      (hcarried : Carried task.appId s) (hcommand : task.req.command = HdcpApi.createCallBack)
      (hsize : task.req.size = m.sizeofSocketData)
  | gone (h : Serving m main c none (some task.appId) tr s)
      (hclosed : (callEvents main tr).any (closes task.appId) = true)
      (hcommand : task.req.command = HdcpApi.destroy) (hsize : task.req.size = m.sizeofSocketData)

lemma Served.of_rely {task : HdcpDaemon.Task} (h : Served m main c task tr s)
    (hrely : (lifecycleProtocol m main).rely main tr s tr' s') :
    Served m main c task tr' s' := by
  obtain ⟨-, hevents, hlater⟩ := hrely.1 rfl
  cases h with
  | kept h hcommand => exact .kept (h.of_rely hrely) hcommand
  | callBack h hcarried hcommand hsize =>
      exact .callBack (h.of_rely hrely) (hcarried.later hlater) hcommand hsize
  | gone h hclosed hcommand hsize =>
      exact .gone (h.of_rely hrely) (hevents ▸ hclosed) hcommand hsize

lemma sat_served {task : HdcpDaemon.Task} (hp : p.Uses Still) (h : Served m main c task tr s) :
    MainSat m main c (fun _ tr' s' => Served m main c task tr' s') p tr s := by
  cases h with
  | kept h hcommand =>
      refine (sat_still (G := fun _ => True) (fun _ ho => ho) (fun _ _ _ _ _ => trivial) hp h
        trivial).mono ?_
      rintro a tr' s' - ⟨h', -, -⟩
      exact .kept h' hcommand
  | callBack h hcarried hcommand hsize =>
      refine (sat_still (G := fun _ => True) (fun _ ho => ho) (fun _ _ _ _ _ => trivial) hp h
        trivial).mono ?_
      rintro a tr' s' - ⟨h', hlater, -⟩
      exact .callBack h' (hcarried.later hlater) hcommand hsize
  | gone h hclosed hcommand hsize =>
      refine (sat_still (G := fun es => es.any (closes task.appId) = true) (fun _ ho => ho) ?_ hp h
        hclosed).mono ?_
      · intro o r es _ hes
        rw [List.any_cons, hes, Bool.or_true]
      · rintro a tr' s' - ⟨h', -, hclosed'⟩
        exact .gone h' hclosed' hcommand hsize

/-- The step that frees the entry of a descriptor. -/
lemma Serving.free {r : Option ℕ} (h : Serving m main c moving none tr s)
    (hinv : (lifecycleProtocol m main).inv tr s)
    (hstep : (m.system main).step main (.freeSlot n) r s = some s')
    (hslot : (s.sessionFdArray n).fd = some fd)
    (hplaced : Placed m moving' (s.setEntry n ⟨none, 0⟩)) :
    s' = s.setEntry n ⟨none, 0⟩ ∧
      (lifecycleProtocol m main).Keeps main tr s (.op main c ⟨.freeSlot n, r⟩) s' ∧
      Serving m main c moving' (some fd) (.op main c ⟨.freeSlot n, r⟩ :: tr) s' := by
  obtain ⟨hr, rfl⟩ := DaemonState.answer_eq_some.1 hstep
  refine ⟨rfl, h.step (o := .freeSlot n) hinv hstep
    (fun j _ hmutex => ⟨hmutex, rfl, fun _ _ hfd => hfd⟩) hplaced ?_⟩
  refine h.released.mono.cons fun fd' hne => ?_
  rw [hslot] at hr
  subst hr
  exact decide_eq_false (by simpa [eq_comm] using hne)

/-- An app asks for callbacks. -/
lemma sat_freeSlot {k : Option ℕ → DaemonProg α} (h : Serving m main c none none tr s)
    (hn : n < sessionCountMax) (hslot : (s.sessionFdArray n).fd = some fd) (hne : fd ≠ m.fd)
    (hk : ∀ r tr' s', Serving m main c (some fd) (some fd) tr' s' → Carried fd s' →
      MainSat m main c Q (k r) tr' s') :
    MainSat m main c Q (freeSlot n >>= k) tr s := by
  intro tr' s' hrely hinv r s'' hstep _
  have h' := h.of_rely hrely
  have hslot' : (s'.sessionFdArray n).fd = some fd := ((hrely.1 rfl).2.2.fds n).trans hslot
  have hopened : s'.opened fd = true :=
    (h'.placed.slots n hn fd hslot' (by simp)).resolve_left hne
  have hplaced : Placed m (some fd) (s'.setEntry n ⟨none, 0⟩) :=
    h'.placed.mono.setEntry hn (by simp [hslot']) (by simp)
  obtain ⟨rfl, hkeeps, h''⟩ := h'.free hinv hstep hslot' hplaced
  refine ⟨hkeeps, hk r _ _ h'' ⟨?_, hopened⟩⟩
  rw [placeCount, slotCount_free hn hslot' (h'.placed.slotCount_eq_one hn hslot' hopened),
    DaemonState.setEntry_list, Nat.zero_add]
  exact h'.placed.count_eq_zero hn hslot' hopened (by simp)

/-- The connection is closed, because the client is gone. -/
lemma sat_closeSlot {k : Option ℕ → DaemonProg α} (h : Serving m main c none none tr s)
    (hn : n < sessionCountMax) (hslot : (s.sessionFdArray n).fd = some fd) (hne : fd ≠ m.fd)
    (hk : ∀ r tr' s', Serving m main c none (some fd) tr' s' →
      (callEvents main tr').any (closes fd) = true → MainSat m main c Q (k r) tr' s') :
    MainSat m main c Q (close fd >>= fun _ => freeSlot n >>= k) tr s := by
  intro tr₁ s₁ hrely hinv e s₂ hstep _
  have h₁ := h.of_rely hrely
  have hslot₁ : (s₁.sessionFdArray n).fd = some fd := ((hrely.1 rfl).2.2.fds n).trans hslot
  have hone : slotCount s₁ fd = 1 := h₁.placed.slotCount_eq_one hn hslot₁
    ((h₁.placed.slots n hn fd hslot₁ (by simp)).resolve_left hne)
  obtain rfl := Option.some.inj hstep
  obtain ⟨hkeeps, h₂⟩ := h₁.step (o := .close fd) hinv hstep (fun j _ => guarded_close j)
    (h₁.placed.mono.setOpened false) (h₁.released.cons fun _ _ => rfl)
  refine ⟨hkeeps, ?_⟩
  -- between the two steps the entry holds a closed descriptor
  intro tr₃ s₃ hrely₃ hinv₃ r s₄ hstep₃ _
  have h₃ := h₂.of_rely hrely₃
  obtain ⟨-, hevents, hlater⟩ := hrely₃.1 rfl
  have hslot₃ : (s₃.sessionFdArray n).fd = some fd := (hlater.fds n).trans hslot₁
  have hone₃ : slotCount s₃ fd = 1 := (slotCount_congr hlater.fds fd).trans hone
  have hclosed : s₃.opened fd = false := hlater.closed (Function.update_self _ _ _)
  have hplaced : Placed m none (s₃.setEntry n ⟨none, 0⟩) := by
    refine (h₃.placed.setEntry hn (by simp [hslot₃]) (by simp)).settle (fun hpos => ?_)
      fun hopened => ?_
    · rw [slotCount_free hn hslot₃ hone₃] at hpos
      exact absurd hpos (Nat.lt_irrefl 0)
    · exact absurd (hclosed.symm.trans hopened) Bool.false_ne_true
  obtain ⟨rfl, hkeeps', h₄⟩ := h₃.free hinv₃ hstep₃ hslot₃ hplaced
  refine ⟨hkeeps', hk r _ _ h₄ ?_⟩
  rw [callEvents_op_self, hevents, callEvents_op_self]
  simp [closes]

lemma sat_serveSlot (h : Waiting m main c none tr s) (hn : n < sessionCountMax)
    (hslot : (s.sessionFdArray n).fd = some fd) (hne : fd ≠ m.fd) :
    MainSat m main c (fun task tr' s' => Served m main c task tr' s') (m.serveSlot n fd) tr s := by
  refine (sat_getRequest fd h).bind ?_
  rintro r tr₁ s₁ - ⟨h₁, hlater, hr⟩
  have hslot₁ : (s₁.sessionFdArray n).fd = some fd := (hlater.fds n).trans hslot
  rcases r with e | req
  · refine sat_closeSlot h₁ hn hslot₁ hne fun _ tr₂ s₂ h₂ hclosed => ?_
    exact fun _ _ hrely _ => (Served.gone h₂ hclosed rfl rfl).of_rely hrely
  · obtain ⟨hdestroy, hsize⟩ := hr req rfl
    refine Protocol.Sat.ite (fun hcommand => ?_) fun hcommand => ?_
    · have hcallBack := hcommand.resolve_right hdestroy
      refine sat_freeSlot h₁ hn hslot₁ hne fun _ tr₂ s₂ h₂ hcarried => ?_
      exact fun _ _ hrely _ =>
        (Served.callBack h₂ hcarried hcallBack (hsize hcallBack)).of_rely hrely
    · exact fun _ _ hrely _ => (Served.kept h₁ (not_or.1 hcommand).1).of_rely hrely

/-- What is known when `GetTask` has polled. -/
def Polled (m : HdcpDaemon) (main : ι) (c : DaemonCall) (task : Option HdcpDaemon.Task)
    (tr : DaemonTrace ι) (s : DaemonState ι) : Prop :=
  match task with
  | none => Waiting m main c none tr s
  | some task => Served m main c task tr s

lemma sat_getTaskLoop (h : Waiting m main c none tr s) (fdIndex todo i : ℕ) :
    MainSat m main c (fun r tr' s' => match r with
      | .error _ => Waiting m main c none tr' s'
      | .ok (_, task) => Polled m main c task tr' s') (m.getTaskLoop fdIndex todo i) tr s := by
  induction todo generalizing i tr s with
  | zero => exact fun _ _ hrely _ => h.of_rely hrely
  | succ todo ih =>
      refine Protocol.Sat.ite (fun _ => fun _ _ hrely _ => h.of_rely hrely) fun hrange => ?_
      have hi : i < sessionCountMax := Nat.not_le.1 (not_or.1 hrange).2
      refine sat_getSlot h fun tr₁ s₁ h₁ _ => ?_
      rcases hslot : s₁.sessionFdArray i with ⟨_ | fd, revents⟩
      · exact ih h₁ _
      refine Protocol.Sat.ite (fun _ => ih h₁ _) fun _ => ?_
      refine Protocol.Sat.ite (fun _ => ?_) fun hne => ?_
      · refine (sat_acceptLoop h₁ _ _).bind ?_
        rintro ret tr₂ s₂ - h₂
        refine Protocol.Sat.ite (fun _ => ?_) fun _ => ih h₂ _
        exact fun _ _ hrely _ => h₂.of_rely hrely
      · refine (sat_serveSlot h₁ hi (congrArg PollFd.fd hslot) (Ne.symm hne)).bind ?_
        rintro task tr₂ s₂ - h₂
        exact fun _ _ hrely _ => h₂.of_rely hrely

/-- `GetTask` ends with a request, or nothing has changed. -/
lemma sat_getTask (h : Waiting m main c none tr s) (rounds : ℕ) :
    MainSat m main c (fun r tr' s' => match r with
      | some (.ok task) => Served m main c task tr' s'
      | _ => Waiting m main c none tr' s') (m.getTask rounds) tr s := by
  rw [HdcpDaemon.getTask]
  induction rounds generalizing tr s with
  | zero => exact fun _ _ hrely _ => h.of_rely hrely
  | succ rounds ih =>
      rw [Prog.iter_succ]
      have hround : MainSat m main c (fun r tr' s' => match r with
          | .inl _ => Waiting m main c none tr' s'
          | .inr (.ok task) => Served m main c task tr' s'
          | .inr (.error _) => Waiting m main c none tr' s') m.getTaskRound tr s := by
        have hpoll : pollForEvent.Uses Quiet := Prog.uses_op.2 ⟨rfl, rfl⟩
        refine (sat_quiet hpoll h).bind ?_
        rintro (e | revents) tr₁ s₁ - ⟨h₁, -⟩
        · exact fun _ _ hrely _ => h₁.of_rely hrely
        have hget : getFdIndex.Uses Quiet := Prog.uses_op.2 ⟨rfl, rfl⟩
        refine (sat_quiet hget h₁).bind ?_
        rintro fdIndex tr₂ s₂ - ⟨h₂, -⟩
        refine (sat_getTaskLoop h₂ fdIndex _ _).bind ?_
        rintro (e | ⟨i, _ | task⟩) tr₃ s₃ - h₃
        · exact fun _ _ hrely _ => Waiting.of_rely h₃ hrely
        · have hset : (setFdIndex i).Uses Quiet := Prog.uses_op.2 ⟨rfl, rfl⟩
          refine (sat_quiet hset h₃).bind ?_
          rintro - tr₄ s₄ - ⟨h₄, -⟩
          exact fun _ _ hrely _ => h₄.of_rely hrely
        · refine (sat_served (still_op rfl) h₃).bind ?_
          rintro - tr₄ s₄ - h₄
          exact fun _ _ hrely _ => Served.of_rely h₄ hrely
      refine hround.bind ?_
      rintro (⟨⟩ | e | task) tr' s' - h'
      · exact ih h'
      · exact fun _ _ hrely _ => Waiting.of_rely h' hrely
      · exact fun _ _ hrely _ => Served.of_rely h' hrely

/-! ### The request is answered -/

lemma ReleasedBut.settle (h : ReleasedBut (some fd) events)
    (hfd : events.any (enters fd) = true ∨
      events.any (closes fd) = true ∧ events.any (exits fd) = true) : ReleasedBut none events := by
  intro fd' _ hfrees
  by_cases heq : fd' = fd
  · subst heq
    exact hfd
  · exact h fd' (by simpa using heq) hfrees

/-- The port manager is told that the app of a closed connection is gone. -/
lemma sat_handleAppExit {k : Unit → DaemonProg α} (h : Serving m main c none (some fd) tr s)
    (hclosed : (callEvents main tr).any (closes fd) = true)
    (hk : ∀ u tr' s', Serving m main c none none tr' s' → MainSat m main c Q (k u) tr' s') :
    MainSat m main c Q (portManagerHandleAppExit fd >>= k) tr s := by
  intro tr' s' hrely hinv r s'' hstep _
  have h' := h.of_rely hrely
  obtain rfl := Option.some.inj hstep
  have hreleased : ReleasedBut none
      (⟨.portManagerHandleAppExit fd, r⟩ :: callEvents main tr') := by
    refine (h'.released.cons fun _ _ => rfl).settle (.inr ⟨?_, ?_⟩)
    · rw [List.any_cons, (hrely.1 rfl).2.1, hclosed, Bool.or_true]
    · rw [List.any_cons]
      simp [exits]
  obtain ⟨hkeeps, h''⟩ := h'.step (o := .portManagerHandleAppExit fd) hinv hstep
    (fun j _ => .refl j _) h'.placed hreleased
  exact ⟨hkeeps, hk _ _ _ h''⟩

omit [DecidableEq ι] in
lemma count_filter_ne (l : List ℕ) {fd' : ℕ} (hne : fd' ≠ fd) :
    (l.filter (· ≠ fd)).count fd' = l.count fd' :=
  List.count_filter (by simpa using hne)

/-- The message loop holds the mutex of the list. -/
structure Locked (m : HdcpDaemon) (main : ι) (c : DaemonCall) (moving : Option ℕ)
    (tr : DaemonTrace ι) (s : DaemonState ι) : Prop
    extends Serving m main c moving moving tr s where
  mutex : s.callBackListMutex = some main

lemma Locked.of_rely (h : Locked m main c moving tr s)
    (hrely : (lifecycleProtocol m main).rely main tr s tr' s') :
    Locked m main c moving tr' s' :=
  ⟨h.toServing.of_rely hrely, ((hrely.1 rfl).2.2.mutex h.mutex).1⟩

omit [DecidableEq ι] in
/-- While the message loop holds the mutex, nobody guards the list against it. -/
lemma guarded_of_locked (hmutex : s.callBackListMutex = some main) (hj : j ≠ main) :
    Guarded j s s' :=
  guarded_of_ne (by simpa [hmutex] using Ne.symm hj)

lemma sat_callBackBegin {k : Unit → DaemonProg α}
    (h : Serving m main c (some fd) (some fd) tr s) (hcarried : Carried fd s)
    (hk : ∀ u tr' s', Locked m main c (some fd) tr' s' → Carried fd s' →
      MainSat m main c Q (k u) tr' s') :
    MainSat m main c Q (callBackBegin >>= k) tr s := by
  intro tr' s' hrely hinv r s'' hstep _
  have h' := h.of_rely hrely
  obtain ⟨hfree, hs⟩ := Option.ite_none_right_eq_some.1 hstep
  obtain rfl := Option.some.inj hs
  have hguarded (j : ι) (_ : j ≠ main) : Guarded j s' (s'.setMutex (some main)) :=
    guarded_of_ne (by simp [hfree])
  have hplaced : Placed m (some fd) (s'.setMutex (some main)) := ⟨h'.placed.slots, h'.placed.one⟩
  obtain ⟨hkeeps, h''⟩ := h'.step (o := .callBackBegin) hinv hstep hguarded hplaced
    (h'.released.cons fun _ _ => rfl)
  have hcarried' : Carried fd s' := hcarried.later (hrely.1 rfl).2.2
  exact ⟨hkeeps, hk _ _ _ ⟨h'', rfl⟩ hcarried'⟩

lemma sat_removeCallBack {k : Unit → DaemonProg α} (h : Locked m main c (some fd) tr s)
    (hcarried : Carried fd s)
    (hk : ∀ u tr' s', Locked m main c (some fd) tr' s' → Carried fd s' →
      MainSat m main c Q (k u) tr' s') :
    MainSat m main c Q (removeCallBack fd >>= k) tr s := by
  intro tr' s' hrely hinv r s'' hstep _
  have h' := h.of_rely hrely
  obtain ⟨hnowhere, hopened⟩ := hcarried.later (hrely.1 rfl).2.2
  obtain rfl := Option.some.inj hstep
  obtain ⟨hkeeps, h''⟩ := h'.toServing.step (o := .removeCallBack fd) hinv hstep
    (fun j hj => guarded_of_locked h'.mutex hj)
    (h'.placed.setList fun _ => count_filter_ne _) (h'.released.cons fun _ _ => rfl)
  refine ⟨hkeeps, hk _ _ _ ⟨h'', h'.mutex⟩ ⟨?_, hopened⟩⟩
  have hslot : slotCount s' fd = 0 := (Nat.add_eq_zero_iff.1 hnowhere).1
  rw [placeCount, DaemonState.setList_list, List.count_eq_zero.2 (by simp), Nat.add_zero]
  exact hslot

/-- The connection becomes an entry of the list. -/
lemma sat_pushBackCallBack {k : Unit → DaemonProg α} (h : Locked m main c (some fd) tr s)
    (hcarried : Carried fd s)
    (hk : ∀ u tr' s', Locked m main c none tr' s' → MainSat m main c Q (k u) tr' s') :
    MainSat m main c Q (pushBackCallBack fd >>= k) tr s := by
  intro tr' s' hrely hinv r s'' hstep _
  have h' := h.of_rely hrely
  obtain ⟨hnowhere, hopened⟩ := hcarried.later (hrely.1 rfl).2.2
  obtain rfl := Option.some.inj hstep
  have hplaced : Placed m none (s'.setList (s'.callBackList ++ [fd])) := by
    refine (h'.placed.setList fun fd' hne => ?_).settle (fun _ => .inr hopened) fun _ => ?_
    · simp [Ne.symm hne]
    · have hslot : slotCount (s'.setList (s'.callBackList ++ [fd])) fd = 0 :=
        (Nat.add_eq_zero_iff.1 hnowhere).1
      rw [placeCount, hslot, DaemonState.setList_list, List.count_append,
        (Nat.add_eq_zero_iff.1 hnowhere).2, List.count_singleton_self]
  have hreleased : ReleasedBut none (⟨.pushBackCallBack fd, r⟩ :: callEvents main tr') := by
    refine (h'.released.cons fun _ _ => rfl).settle (.inl ?_)
    rw [List.any_cons]
    simp [enters]
  obtain ⟨hkeeps, h''⟩ := h'.toServing.step (o := .pushBackCallBack fd) hinv hstep
    (fun j hj => guarded_of_locked h'.mutex hj) hplaced hreleased
  exact ⟨hkeeps, hk _ _ _ ⟨h'', h'.mutex⟩⟩

lemma sat_callBackEnd {k : Unit → DaemonProg α} (h : Locked m main c none tr s)
    (hk : ∀ u tr' s', Serving m main c none none tr' s' → MainSat m main c Q (k u) tr' s') :
    MainSat m main c Q (callBackEnd >>= k) tr s := by
  intro tr' s' hrely hinv r s'' hstep _
  have h' := h.of_rely hrely
  obtain rfl := Option.some.inj hstep
  have hplaced : Placed m none (s'.setMutex none) := ⟨h'.placed.slots, h'.placed.one⟩
  obtain ⟨hkeeps, h''⟩ := h'.toServing.step (o := .callBackEnd) hinv hstep
    (fun j hj => guarded_of_locked h'.mutex hj) hplaced (h'.released.cons fun _ _ => rfl)
  exact ⟨hkeeps, hk _ _ _ h''⟩

/-- After the answer everything is in place. -/
lemma sat_answerTask {task : HdcpDaemon.Task} (h : Served m main c task tr s) :
    MainSat m main c (fun _ tr' s' => Serving m main c none none tr' s') (m.answerTask task)
      tr s := by
  have hdone {tr s} (h : Serving m main c none none tr s) :
      MainSat m main c (fun _ tr' s' => Serving m main c none none tr' s')
        (return () : DaemonProg Unit) tr s := fun _ _ hrely _ => h.of_rely hrely
  cases h with
  | kept h hcommand =>
      refine (sat_still (G := fun _ => True) (fun _ ho => ho) (fun _ _ _ _ _ => trivial)
        (uses_answerTask hcommand) h trivial).mono ?_
      rintro a tr' s' - ⟨h', -, -⟩
      exact h'
  | callBack h hcarried hcommand hsize =>
      rw [HdcpDaemon.answerTask, if_neg (not_not.2 hsize.symm), HdcpDaemon.dispatchCommand,
        hcommand]
      refine sat_callBackBegin h hcarried fun _ _ _ h₁ hcarried₁ => ?_
      refine sat_removeCallBack h₁ hcarried₁ fun _ _ _ h₂ hcarried₂ => ?_
      refine sat_pushBackCallBack h₂ hcarried₂ fun _ _ _ h₃ => ?_
      exact sat_callBackEnd h₃ fun _ _ _ h₄ => hdone h₄
  | gone h hclosed hcommand hsize =>
      rw [HdcpDaemon.answerTask, if_neg (not_not.2 hsize.symm), HdcpDaemon.dispatchCommand,
        hcommand]
      exact sat_handleAppExit h hclosed fun _ _ _ h₁ => hdone h₁

lemma sat_messageResponse (h : Waiting m main c none tr s) (rounds : ℕ) :
    MainSat m main c (fun _ tr' s' => Serving m main c none none tr' s')
      (m.messageResponse rounds) tr s := by
  refine (sat_getTask h rounds).bind ?_
  rintro (_ | e | task) tr' s' - h'
  · exact fun _ _ hrely _ => (Waiting.of_rely h' hrely).toServing
  · exact fun _ _ hrely _ => (Waiting.of_rely h' hrely).toServing
  · exact sat_answerTask h'

/-! ### Reports -/

/-- A thread executes a program of `ReportStatus`. -/
abbrev ReporterSat {α : Type} (m : HdcpDaemon) (main i : ι) (c : DaemonCall)
    (Q : α → DaemonTrace ι → DaemonState ι → Prop) (p : DaemonProg α) (tr : DaemonTrace ι)
    (s : DaemonState ι) : Prop :=
  (lifecycleProtocol m main).Sat (m.system main) i c Q p tr s

/-- The thread holds the mutex of the list, which is `fds`. -/
def Holds (i : ι) (fds : List ℕ) (s : DaemonState ι) : Prop :=
  s.callBackListMutex = some i ∧ s.callBackList = fds

lemma Holds.of_rely {fds : List ℕ} (h : Holds i fds s) (hi : i ≠ main)
    (hrely : (lifecycleProtocol m main).rely i tr s tr' s') : Holds i fds s' := by
  obtain ⟨hmutex, hlist, -⟩ := hrely.2 hi h.1
  exact ⟨hmutex, hlist.trans h.2⟩

/-- A step of a report that the message loop allows. -/
lemma keeps_reporter (hi : i ≠ main) (hinv : (lifecycleProtocol m main).inv tr s)
    (hstep : (m.system main).step i o r s = some s') (hlater : Later main s s')
    (hguarded : ∀ j, j ≠ i → Guarded j s s') :
    (lifecycleProtocol m main).Keeps i tr s (.op i c ⟨o, r⟩) s' := by
  have hevents : callEvents main (.op i c ⟨o, r⟩ :: tr) = callEvents main tr :=
    callEvents_op_of_ne hi
  refine ⟨⟨opened_step hinv.1 hstep, fun hidle => ?_⟩, fun j hj => ⟨?_, fun _ => hguarded j hj⟩⟩
  · obtain ⟨hplaced, hreleased⟩ := hinv.2 hidle
    rw [hevents]
    exact ⟨hplaced.later hlater, hreleased⟩
  · rintro rfl
    exact ⟨rfl, hevents, hlater⟩

/-- What changes no places. -/
lemma sat_reporterStill {fds : List ℕ} (hi : i ≠ main) (hp : p.Uses Still) (h : Holds i fds s) :
    ReporterSat m main i c (fun _ _ s' => Holds i fds s') p tr s := by
  refine Protocol.sat_of_keeps hp h (fun hrely h' => h'.of_rely hi hrely) ?_
  intro o r tr s s' ho hinv h' hstep _
  have hsame := step_places ho hstep
  exact ⟨keeps_reporter hi hinv hstep (later_of_same hsame) fun j _ => guarded_of_same hsame,
    hsame.mutex.trans h'.1, hsame.list.trans h'.2⟩

omit [DecidableEq ι] in
/-- Who holds the mutex may do what it likes, as far as the other reports are concerned. -/
lemma Holds.guarded {fds : List ℕ} (h : Holds i fds s) (hj : j ≠ i) : Guarded j s s' :=
  guarded_of_ne (by simpa [h.1] using Ne.symm hj)

omit [DecidableEq ι] in
lemma later_close (hmem : fd ∈ s.callBackList) (hmutex : s.callBackListMutex ≠ some main) :
    Later main s (s.setOpened fd false) := by
  have hopened (fd' : ℕ) (h : (s.setOpened fd false).opened fd' = true) :
      s.opened fd' = true := by
    by_cases hne : fd' = fd
    · subst hne
      rw [DaemonState.setOpened_opened, Function.update_self] at h
      exact absurd h Bool.false_ne_true
    · rwa [DaemonState.setOpened_opened, Function.update_of_ne hne] at h
  constructor
  · exact fun _ => rfl
  · exact fun _ => le_rfl
  · exact fun _ _ => rfl
  · exact hopened
  · intro fd' hzero
    have hne : fd' ≠ fd := by
      rintro rfl
      exact List.count_eq_zero.1 hzero hmem
    rw [DaemonState.setOpened_opened, Function.update_of_ne hne]
  · exact fun h => absurd h hmutex

omit [DecidableEq ι] in
lemma later_erase {done fds : List ℕ} (hlist : s.callBackList = done ++ fd :: fds)
    (hclosed : s.opened fd = false) (hmutex : s.callBackListMutex ≠ some main) :
    Later main s (s.setList (done ++ fds)) := by
  constructor
  · exact fun _ => rfl
  · intro fd'
    rw [DaemonState.setList_list, hlist, List.count_append, List.count_append, List.count_cons]
    omega
  · intro fd' hfd'
    have hne : fd ≠ fd' := by
      rintro rfl
      exact absurd (hclosed.symm.trans hfd') Bool.false_ne_true
    rw [DaemonState.setList_list, hlist, List.count_append, List.count_append,
      List.count_cons_of_ne hne]
  · exact fun _ h => h
  · exact fun _ _ => rfl
  · exact fun h => absurd h hmutex

/-- A connection that cannot be written is closed and erased. -/
lemma sat_closeErase {done fds : List ℕ} {k : Unit → DaemonProg α} (hi : i ≠ main)
    (h : Holds i (done ++ fd :: fds) s)
    (hk : ∀ u tr' s', Holds i (done ++ fds) s' → ReporterSat m main i c Q (k u) tr' s') :
    ReporterSat m main i c Q (close fd >>= fun _ => eraseCallBackAt done.length >>= k) tr s := by
  have hne : (some i : Option ι) ≠ some main := by simpa using hi
  intro tr₁ s₁ hrely hinv e s₂ hstep _
  have h₁ := h.of_rely hi hrely
  obtain rfl := Option.some.inj hstep
  have hmem : fd ∈ s₁.callBackList := by simp [h₁.2]
  refine ⟨keeps_reporter (o := .close fd) hi hinv hstep (later_close hmem (h₁.1 ▸ hne))
    fun j hj => h₁.guarded hj, ?_⟩
  intro tr₃ s₃ hrely₃ hinv₃ r s₄ hstep₃ _
  have h₂ : Holds i (done ++ fd :: fds) (s₁.setOpened fd false) := h₁
  have h₃ := h₂.of_rely hi hrely₃
  have hclosed : s₃.opened fd = false := by
    by_contra hopen
    have hbefore := (hrely₃.2 hi h₂.1).2.2 fd hmem (Bool.not_eq_false _ ▸ hopen)
    rw [DaemonState.setOpened_opened, Function.update_self] at hbefore
    exact absurd hbefore Bool.false_ne_true
  obtain rfl := Option.some.inj hstep₃
  have herase : s₃.callBackList.eraseIdx done.length = done ++ fds := by
    rw [h₃.2, List.eraseIdx_append_of_length_le le_rfl, Nat.sub_self]
    rfl
  have hlater : Later main s₃ (s₃.setList (s₃.callBackList.eraseIdx done.length)) := by
    rw [herase]
    exact later_erase h₃.2 hclosed (h₃.1 ▸ hne)
  refine ⟨keeps_reporter (o := .eraseCallBackAt done.length) hi hinv₃ hstep₃ hlater
    fun j hj => h₃.guarded hj, ?_⟩
  exact hk _ _ _ ⟨h₃.1, herase⟩

lemma sat_reportLoop {data : SocketData} (hi : i ≠ main) (fds done : List ℕ)
    (h : Holds i (done ++ fds) s) :
    ReporterSat m main i c (fun _ _ s' => ∃ fds', Holds i fds' s')
      (m.reportLoop data fds done.length) tr s := by
  induction fds generalizing done tr s with
  | nil => exact fun _ _ hrely _ => ⟨_, h.of_rely hi hrely⟩
  | cons fd fds ih =>
      refine (sat_reporterStill hi uses_sendStill h).bind ?_
      rintro sts tr₁ s₁ - h₁
      refine Protocol.Sat.ite (fun _ => ?_) fun _ => ?_
      · exact sat_closeErase hi h₁ fun _ _ _ h₂ => ih done h₂
      · have happend : done ++ fd :: fds = (done ++ [fd]) ++ fds := by simp
        rw [happend] at h₁
        rw [show done.length + 1 = (done ++ [fd]).length by simp]
        exact ih (done ++ [fd]) h₁

lemma sat_reportStatus (event portId : UInt32) (hi : i ≠ main) :
    ReporterSat m main i c (fun _ _ _ => True) (m.reportStatus event portId) tr s := by
  -- the mutex is acquired
  intro tr₁ s₁ hrely₁ hinv₁ _ s₁' hstep₁ _
  obtain ⟨hfree, hs⟩ := Option.ite_none_right_eq_some.1 hstep₁
  obtain rfl := Option.some.inj hs
  have hlater : Later main s₁ (s₁.setMutex (some i)) :=
    ⟨fun _ => rfl, fun _ => le_rfl, fun _ _ => rfl, fun _ h => h, fun _ _ => rfl,
      fun h => absurd h (by simp [hfree])⟩
  refine ⟨keeps_reporter (o := .callBackBegin) hi hinv₁ hstep₁ hlater
    fun j _ => guarded_of_ne (by simp [hfree]), ?_⟩
  -- the list is read
  intro tr₂ s₂ hrely₂ hinv₂ fds s₂' hstep₂ _
  have h₂ : Holds i s₁.callBackList s₂ :=
    Holds.of_rely (s := s₁.setMutex (some i)) ⟨rfl, rfl⟩ hi hrely₂
  obtain ⟨rfl, rfl⟩ := DaemonState.answer_eq_some.1 hstep₂
  refine ⟨keeps_reporter (o := .getCallBackList) hi hinv₂ hstep₂ (.refl _) fun j _ => .refl j _, ?_⟩
  refine Protocol.Sat.bind (p := m.reportLoop _ s₂'.callBackList 0) (f := fun _ => callBackEnd)
    (sat_reportLoop hi _ [] ⟨h₂.1, rfl⟩) ?_
  rintro - tr₃ s₃ - ⟨fds', h₃⟩
  -- the mutex is released
  intro tr₄ s₄ hrely₄ hinv₄ _ s₄' hstep₄ _
  have h₄ := h₃.of_rely hi hrely₄
  obtain rfl := Option.some.inj hstep₄
  have hne : (some i : Option ι) ≠ some main := by simpa using hi
  have hlater₄ : Later main s₄ (s₄.setMutex none) :=
    ⟨fun _ => rfl, fun _ => le_rfl, fun _ _ => rfl, fun _ h => h, fun _ _ => rfl,
      fun h => absurd (h₄.1.symm.trans h) hne⟩
  refine ⟨keeps_reporter (o := .callBackEnd) hi hinv₄ hstep₄ hlater₄
    fun j hj => h₄.guarded hj, ?_⟩
  exact fun _ _ _ _ => trivial

/-! ### Runs -/

omit [DecidableEq ι] in
lemma placed_initState : Placed m none (m.initState : DaemonState ι) := by
  constructor
  · intro i _ fd hfd _
    left
    by_cases hi : i = 0
    · subst hi
      simpa [HdcpDaemon.initState, eq_comm] using hfd
    · simp [HdcpDaemon.initState, hi] at hfd
  · intro fd hfd _
    exact absurd hfd Bool.false_ne_true

/-- The message loop waits again. -/
lemma keeps_ret_main (hinv : (lifecycleProtocol m main).inv tr s)
    (h : Serving m main c none none tr s) :
    (lifecycleProtocol m main).Keeps main tr s (.ret main c ()) s :=
  ⟨⟨hinv.1, fun _ => ⟨h.placed, h.released⟩⟩,
    fun j hj => ⟨fun h => absurd h hj, fun _ => .refl j s⟩⟩

lemma inv_of_run {cfg : DaemonConfig ι}
    (hrun : (m.system main).Run (lifecycleCondition m) m.initState tr cfg) :
    (lifecycleProtocol m main).inv tr cfg.shared := by
  refine (Protocol.sound (P := lifecycleProtocol m main) ?_ ?_ hrun).1
  · exact ⟨fun _ => rfl, fun _ => ⟨placed_initState, fun _ _ h => absurd h Bool.false_ne_true⟩⟩
  intro i c tr s hmay hidle hinv _
  cases c with
  | messageResponse rounds =>
      obtain rfl : i = main := of_decide_eq_true hmay
      have hevents : callEvents i (.call i (.messageResponse rounds) :: tr : DaemonTrace ι) = [] :=
        if_pos rfl
      have hcalling : calling i (.call i (.messageResponse rounds) :: tr : DaemonTrace ι) =
          some (.messageResponse rounds) := if_pos rfl
      have hwaiting : Waiting m i (.messageResponse rounds) none
          (.call i (.messageResponse rounds) :: tr) s := by
        refine ⟨⟨hcalling, (hinv.2 hidle).1, ?_⟩, ?_⟩
        · rw [hevents]
          exact fun _ _ h => absurd h Bool.false_ne_true
        · rw [hevents]
          rfl
      refine ⟨⟨⟨hinv.1, fun h => ?_⟩, fun j hj => ⟨fun h => absurd h hj, fun _ => .refl j s⟩⟩, ?_⟩
      · rw [hcalling] at h
        exact absurd h (by simp)
      · refine (sat_messageResponse hwaiting rounds).mono ?_
        intro a tr' s' hinv' h' _
        exact keeps_ret_main hinv' h'
  | reportStatus event portId =>
      have hi : i ≠ main := of_decide_eq_true hmay
      have hcalling (c' : DaemonCall) :
          calling main (.call i c' :: tr : DaemonTrace ι) = calling main tr := if_neg hi
      have hevents (c' : DaemonCall) :
          callEvents main (.call i c' :: tr : DaemonTrace ι) = callEvents main tr := if_neg hi
      have hret {tr' : DaemonTrace ι} {c' : DaemonCall} :
          calling main (.ret i c' () :: tr' : DaemonTrace ι) = calling main tr' := if_neg hi
      refine ⟨⟨⟨hinv.1, fun h => ?_⟩, fun j hj => ⟨?_, fun _ => .refl j s⟩⟩, ?_⟩
      · rw [hevents]
        exact hinv.2 ((hcalling _).symm.trans h)
      · rintro rfl
        exact ⟨hcalling _, hevents _, .refl s⟩
      · refine (sat_reportStatus event portId hi).mono ?_
        intro a tr' s' hinv' _ _
        refine ⟨⟨hinv'.1, fun h => hinv'.2 (hret.symm.trans h)⟩,
          fun j hj => ⟨?_, fun _ => .refl j s'⟩⟩
        rintro rfl
        exact ⟨hret, rfl, .refl s'⟩

end Lifecycle

variable [DecidableEq ι]

/-- In every run in which no client sends a request that `GetTask` and `DispatchCommand` take
differently, and `accept` gives no descriptor of the list: whenever the message loop waits,
every open connection is in one place, and what left the array with the last request has
entered the list or was closed. -/
theorem connections_in_place {cfg : DaemonConfig ι}
    (hrun : (m.system main).Run (lifecycleCondition m) m.initState tr cfg)
    (hidle : cfg.threads main = none) :
    OnePlace tr cfg.shared ∧ Released (callEvents main tr) := by
  obtain ⟨hopened, hwaits⟩ := Lifecycle.inv_of_run hrun
  have hcalling : calling main tr = none := by
    rw [System.Run.calling_eq _ hrun main, hidle]
    rfl
  obtain ⟨hplaced, hreleased⟩ := hwaits hcalling
  constructor
  · intro fd hfd
    rw [← hopened] at hfd
    exact hplaced.one fd hfd (by simp)
  · exact fun fd => hreleased fd (by simp)

/-! ### Schedules -/

/-- The answers to the system calls of a step: the events on the entries, the connection that
comes, the message that is read, and whether a message can be sent. -/
structure Sockets where
  revents : ℕ → ℕ
  incoming : Except Errno ℕ
  message : List UInt8
  sends : Bool

/-- The state answers the reads, and the functions of other modules succeed. -/
def daemonAnswer (x : Sockets) : (o : DaemonOp) → DaemonState ℕ → o.Ans
  | .pollForEvent, _ => .ok x.revents
  | .accept, _ => x.incoming
  | .read _ _, _ => .ok x.message
  | .send _ data, _ => if x.sends then .ok data.length else .error .eio
  | .getFdIndex, s => s.fdIndex
  | .getSlot i, s => s.sessionFdArray i
  | .freeSlot i, s => (s.sessionFdArray i).fd
  | .getCallBackList, s => s.callBackList
  | .new _, _ => true
  | .portManagerEnumeratePorts, _ => ⟨.success, fun _ => ⟨0, 0, 0⟩, 0⟩
  | .portManagerGetStatus _, _ => (.success, 0)
  | .portManagerGetKsvList _, _ => ⟨.success, 0, 0, fun _ => 0⟩
  | .getSrmVersion, _ => (.success, 0)
  | .close _, _ | .portManagerEnablePort _ _ _, _ | .portManagerDisablePort _ _, _
  | .portManagerSendSrmData _, _ | .storeSrm _, _ | .srmConfig _, _ => Errno.success
  | .setFdIndex _, _ | .setSlot _ _, _ | .callBackBegin, _ | .callBackEnd, _
  | .removeCallBack _, _ | .pushBackCallBack _, _ | .eraseCallBackAt _, _
  | .portManagerHandleAppExit _, _ => ()

abbrev DaemonAction : Type := System.Action daemonSig ℕ DaemonCall (DaemonState ℕ)

/-- The history and the state that a schedule leads to, when all its steps are possible and
pass the check.  The thread 0 executes the message loop. -/
def scheduled (check : DaemonTrace ℕ → DaemonState ℕ → DaemonLabel ℕ → Bool)
    (as : List DaemonAction) : Option (DaemonTrace ℕ × DaemonConfig ℕ) :=
  (usualDaemon.system 0).schedule (daemonMay 0) check as [] ⟨usualDaemon.initState, fun _ => none⟩

lemma exists_run_of_scheduled (check : DaemonTrace ℕ → DaemonState ℕ → DaemonLabel ℕ → Bool)
    {C : DaemonTrace ℕ → DaemonState ℕ → DaemonLabel ℕ → Prop}
    (hC : ∀ tr s l, check tr s l → C tr s l) (as : List DaemonAction)
    (test : DaemonTrace ℕ × DaemonConfig ℕ → Bool)
    (h : (scheduled check as).any test = true) :
    ∃ x, scheduled check as = some x ∧
      (usualDaemon.system 0).Run C usualDaemon.initState x.1 x.2 ∧ test x = true :=
  System.exists_run_of_schedule (M := usualDaemon.system 0) (fun _ _ hc => hc) hC h

def steps (i n : ℕ) (x : Sockets) : List DaemonAction := List.replicate n (.op i (daemonAnswer x))

/-- An event on the entry `i`. -/
def eventOn (i : ℕ) : ℕ → ℕ := fun j => if j = i then pollIn else 0

/-- The message loop accepts the connection 4. -/
def acceptConnection : List DaemonAction :=
  .call 0 (.messageResponse 1) :: steps 0 8 ⟨eventOn 0, .ok 4, [], true⟩ ++
    steps 0 6 ⟨eventOn 0, .error .eagain, [], true⟩ ++ [.ret 0]

/-- The message loop reads a request from the connection 4 and makes `n` further steps. -/
def serveRequest (req : SocketData) (n : ℕ) : List DaemonAction :=
  .call 0 (.messageResponse 1) ::
    steps 0 (8 + n) ⟨eventOn 1, .ok 4, socketDataLayout.encode req, true⟩ ++ [.ret 0]

/-- A request that has only a size and a command. -/
def request (size : UInt32) (command : HdcpApiType) : SocketData :=
  { newSocketData socketDataLayout with size := size, command := command }

/-- An app registers for callbacks with a message of the right size. -/
def registerCallBack : List DaemonAction :=
  acceptConnection ++ serveRequest (request 100 HdcpApi.createCallBack) 4

instance (req : SocketData) : Decidable (FrameOk usualDaemon req) :=
  inferInstanceAs (Decidable (_ ∧ _))

instance (bytes : List UInt8) : Decidable (FirstFrameOk usualDaemon bytes) :=
  inferInstanceAs (Decidable (_ → _))

/-- The condition, as far as it is decided here. -/
def lifecycleCheck : DaemonTrace ℕ → DaemonState ℕ → DaemonLabel ℕ → Bool
  | _, s, .op _ _ ⟨.accept, r⟩ => unlisted s r
  | tr, _, .op i _ ⟨.read _ _, r⟩ =>
    FirstFrameOk usualDaemon (received (callEvents i tr) ++ received.bytesOf r)
  | _, _, _ => true
where
  unlisted (s : DaemonState ℕ) : Except Errno ℕ → Bool
    | .ok fd => fd ∉ s.callBackList
    | .error _ => true

lemma lifecycleCondition_of_check (tr : DaemonTrace ℕ) (s : DaemonState ℕ) (l : DaemonLabel ℕ)
    (h : lifecycleCheck tr s l) : lifecycleCondition usualDaemon tr s l := by
  rw [lifecycleCondition.eq_def]
  split
  · rename_i r
    cases (r : Except Errno ℕ) with
    | error e => trivial
    | ok fd => exact of_decide_eq_true (p := fd ∉ s.callBackList) h
  · exact of_decide_eq_true h
  · trivial

/-- The connection 4 is open, and the message loop waits. -/
def waitsWithConnection (x : DaemonTrace ℕ × DaemonConfig ℕ) : Bool :=
  (x.2.threads 0).isNone && isOpen 4 x.1

theorem connections_in_place_registerCallBack :
    ∃ x, scheduled lifecycleCheck registerCallBack = some x ∧ isOpen 4 x.1 = true ∧
      OnePlace x.1 x.2.shared ∧ Released (callEvents 0 x.1) := by
  obtain ⟨x, hx, hrun, htest⟩ := exists_run_of_scheduled lifecycleCheck
    lifecycleCondition_of_check registerCallBack waitsWithConnection (by decide)
  rw [waitsWithConnection, Bool.and_eq_true, Option.isNone_iff_eq_none] at htest
  exact ⟨x, hx, htest.2, connections_in_place hrun htest.1⟩

/-- An app registers for callbacks with a message of a wrong size. -/
def registerWrongSize : List DaemonAction :=
  acceptConnection ++ serveRequest (request 99 HdcpApi.createCallBack) 1

/-- An app asks to destroy its connection and does not close it. -/
def destroyConnection : List DaemonAction :=
  acceptConnection ++ serveRequest (request 100 HdcpApi.destroy) 1

/-- A report closes the connection of an app that is gone, and the message loop accepts a new
connection with this descriptor before the report erases it. -/
def reuseDescriptor : List DaemonAction :=
  registerCallBack ++ .call 1 (.reportStatus 1 1) :: steps 1 4 ⟨eventOn 0, .ok 4, [], false⟩ ++
    .call 0 (.messageResponse 2) :: steps 0 16 ⟨eventOn 0, .ok 4, [], true⟩ ++
    steps 0 6 ⟨eventOn 0, .error .eagain, [], true⟩ ++ [.ret 0]

lemma exists_run_misplaced (as : List DaemonAction)
    (h : (scheduled (fun _ _ _ => true) as).any
      (fun x => waitsWithConnection x && placeCount x.2.shared 4 ≠ 1) = true) :
    ∃ x, scheduled (fun _ _ _ => true) as = some x ∧
      (usualDaemon.system 0).AnyRun usualDaemon.initState x.1 x.2 ∧ x.2.threads 0 = none ∧
      ¬OnePlace x.1 x.2.shared := by
  obtain ⟨x, hx, hrun, htest⟩ := exists_run_of_scheduled (fun _ _ _ => true)
    (C := fun _ _ _ => True) (fun _ _ _ _ => trivial) as
    (fun x => waitsWithConnection x && placeCount x.2.shared 4 ≠ 1) h
  rw [waitsWithConnection, Bool.and_eq_true, Bool.and_eq_true, Option.isNone_iff_eq_none] at htest
  refine ⟨x, hx, hrun, htest.1.1, fun hone => ?_⟩
  exact of_decide_eq_true htest.2 (hone 4 htest.1.2)

/-- Each part of the condition is needed. -/
theorem connection_misplaced :
    (∃ x, scheduled (fun _ _ _ => true) registerWrongSize = some x ∧
      (usualDaemon.system 0).AnyRun usualDaemon.initState x.1 x.2 ∧ x.2.threads 0 = none ∧
      ¬OnePlace x.1 x.2.shared) ∧
    (∃ x, scheduled (fun _ _ _ => true) destroyConnection = some x ∧
      (usualDaemon.system 0).AnyRun usualDaemon.initState x.1 x.2 ∧ x.2.threads 0 = none ∧
      ¬OnePlace x.1 x.2.shared) ∧
    ∃ x, scheduled (fun _ _ _ => true) reuseDescriptor = some x ∧
      (usualDaemon.system 0).AnyRun usualDaemon.initState x.1 x.2 ∧ x.2.threads 0 = none ∧
      ¬OnePlace x.1 x.2.shared :=
  ⟨exists_run_misplaced registerWrongSize (by decide),
    exists_run_misplaced destroyConnection (by decide),
    exists_run_misplaced reuseDescriptor (by decide)⟩

end Hdcp.Daemon
