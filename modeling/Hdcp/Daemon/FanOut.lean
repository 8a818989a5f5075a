/-
The fan-out of an event.

`ReportStatus` goes through `m_CallBackList` under its mutex, and erases the descriptors that
it cannot send the event to from the list that it goes through.  The list grows in
`CREATE_CALLBACK`, in another thread.

`fan_out`: in every run of the daemon the list has no descriptor twice; and when a report
releases the mutex, it has offered the event to each descriptor that was in the list when it
acquired the mutex, once and in the order of the list, has closed those that failed, each of them
once, and has left the others in the list.  No call of `ReportStatus` returns before it has done
so.  A `send` that fails sets `errno`.
-/
import Hdcp.Daemon.Lifecycle

namespace Hdcp.FanOut

open Library Socket Daemon
open Library.Prog (runs_bind runs_op runs_ret)

section

variable {ι : Type}

abbrev DaemonLog : Type := List (Event daemonSig)

/-! ### What a log says -/

def isError : Except Errno ℕ → Bool
  | .error _ => true
  | .ok _ => false

/-- The descriptors that the frame is offered to as a whole. -/
def attemptsOf (frame : List UInt8) (log : DaemonLog) : List ℕ :=
  log.filterMap fun
    | ⟨.send fd data, _⟩ => if data = frame then some fd else none
    | _ => none

/-- The descriptors that are closed. -/
def closesOf (log : DaemonLog) : List ℕ :=
  log.filterMap fun
    | ⟨.close fd, _⟩ => some fd
    | _ => none

/-- A `send` to the descriptor fails. -/
def hasFailed (log : DaemonLog) (fd : ℕ) : Bool :=
  log.any fun
    | ⟨.send fd' _, r⟩ => fd' = fd && isError r
    | _ => false

/-- What the kernel promises: a `send` that fails sets `errno`. -/
def Possible : Event daemonSig → Prop
  | ⟨.send _ data, r⟩ => sendAnswer data.length r ∧ r ≠ .error .success
  | _ => True

/-- What a report should have done with the list `before` when it leaves the list `after`. -/
structure Fanned (frame : List UInt8) (log : DaemonLog) (before after : List ℕ) : Prop where
  attempts : attemptsOf frame log = before
  nodup : before.Nodup
  list : after = before.filter fun fd => !hasFailed log fd
  closed : closesOf log = before.filter (hasFailed log)

variable {m : HdcpDaemon} {log log' : DaemonLog} {frame : List UInt8} {fd fd' : ℕ} {sts : Errno}

lemma attempts_append :
    attemptsOf frame (log ++ log') = attemptsOf frame log ++ attemptsOf frame log' :=
  List.filterMap_append

lemma closed_append : closesOf (log ++ log') = closesOf log ++ closesOf log' :=
  List.filterMap_append

lemma failed_append : hasFailed (log ++ log') fd = (hasFailed log fd || hasFailed log' fd) :=
  List.any_append

/-! ### One attempt -/

/-- What an attempt to send the frame does: it offers the frame once, and fails when a `send`
fails. -/
structure Attempt (frame : List UInt8) (fd : ℕ) (offers : List ℕ) (log : DaemonLog)
    (sts : Errno) : Prop where
  attempts : attemptsOf frame log = offers
  closed : closesOf log = []
  failed : ∀ fd', hasFailed log fd' = (decide (fd = fd') && decide (sts ≠ .success))

/-- Nothing is left to be sent. -/
lemma attempt_done {data : List UInt8} (hdata : data = [])
    (hframe : data = frame ∧ frame ≠ [] ∨ data.length < frame.length)
    (h : (Prog.ret Errno.success : DaemonProg Errno).Runs log sts) :
    Attempt frame fd (if data = frame then [fd] else []) log sts := by
  obtain ⟨rfl, rfl⟩ := runs_ret.1 h
  have hne : data ≠ frame := by
    rcases hframe with ⟨rfl, hframe⟩ | hlt
    · exact absurd hdata hframe
    · rintro rfl
      exact absurd hlt (Nat.lt_irrefl _)
  rw [if_neg hne]
  exact ⟨rfl, rfl, fun fd' => by simp [hasFailed]⟩

/-- The rest of the frame is not the frame. -/
lemma runs_writeLoop (rounds : ℕ) {data : List UInt8} (hrounds : data.length ≤ rounds)
    (hframe : data = frame ∧ frame ≠ [] ∨ data.length < frame.length)
    (h : (writeLoop (Daemon.send fd) rounds data).Runs log sts) (hlog : ∀ e ∈ log, Possible e) :
    Attempt frame fd (if data = frame then [fd] else []) log sts := by
  induction rounds generalizing data log with
  | zero => exact attempt_done (List.eq_nil_of_length_eq_zero (Nat.le_zero.1 hrounds)) hframe h
  | succ rounds ih =>
      rw [writeLoop] at h
      by_cases hempty : data.isEmpty = true
      · rw [if_pos hempty] at h
        exact attempt_done (List.isEmpty_iff.1 hempty) hframe h
      · rw [if_neg hempty] at h
        obtain ⟨r, l, l', hsend, hround, rfl⟩ := runs_bind.1 h
        obtain rfl := runs_op.1 hsend
        obtain ⟨hl, hl'⟩ := List.forall_mem_append.1 hlog
        obtain ⟨hsent, herror⟩ := hl _ List.mem_cons_self
        have hoffer : attemptsOf frame [(⟨.send fd data, r⟩ : Event daemonSig)] =
            if data = frame then [fd] else [] := by
          by_cases hdata : data = frame
          · simp [attemptsOf, hdata]
          · simp [attemptsOf, hdata]
        cases (r : Except Errno ℕ) with
        | error e =>
            obtain ⟨rfl, rfl⟩ := runs_ret.1 hround
            have he : sts ≠ .success := by
              rintro rfl
              exact herror rfl
            exact ⟨hoffer, rfl, fun fd' => by simp [hasFailed, isError, he]⟩
        | ok count =>
            obtain ⟨hpos, hcount⟩ := of_decide_eq_true hsent
            have hshort : (data.drop count).length < frame.length := by
              rw [List.length_drop]
              rcases hframe with ⟨rfl, -⟩ | hlt
              · omega
              · omega
            have hne : data.drop count ≠ frame := by
              intro heq
              exact absurd hshort (by rw [heq]; exact Nat.lt_irrefl _)
            have hrest := ih (by rw [List.length_drop]; omega) (.inr hshort) hround hl'
            rw [if_neg hne] at hrest
            refine ⟨?_, ?_, fun fd' => ?_⟩
            · rw [attempts_append, hoffer, hrest.attempts, List.append_nil]
            · rw [closed_append, hrest.closed]
              rfl
            · rw [failed_append, hrest.failed]
              simp [hasFailed, isError]

lemma runs_sendResponse {data : SocketData} (h : (m.sendResponse data fd).Runs log sts)
    (hlog : ∀ e ∈ log, Possible e) : Attempt (m.layout.encode data) fd [fd] log sts := by
  have hframe : m.layout.encode data ≠ [] := by
    rw [ne_eq, ← List.length_eq_zero_iff, m.layout.length_encode]
    exact (layout_size_pos m.layout).ne'
  have hattempt := runs_writeLoop _ le_rfl (.inl ⟨rfl, hframe⟩) h hlog
  rwa [if_pos rfl] at hattempt

/-! ### A report that is under way -/

/-- A report has come past the descriptors `past`: it has kept `kept` of them. -/
structure Underway (frame : List UInt8) (past kept : List ℕ) (log : DaemonLog) : Prop where
  attempts : attemptsOf frame log = past
  kept : kept = past.filter fun fd => !hasFailed log fd
  closed : closesOf log = past.filter (hasFailed log)
  failed : ∀ fd, hasFailed log fd = true → fd ∈ past

variable {fds past kept : List ℕ}

/-- One more attempt, on a descriptor that is not among those before it. -/
lemma Underway.attempt (h : Underway frame past kept log) (hfd : fd ∉ past)
    (hattempt : Attempt frame fd [fd] log' sts) :
    (sts = .success → Underway frame (past ++ [fd]) (kept ++ [fd]) (log ++ log')) ∧
      (sts ≠ .success → ∀ rest, attemptsOf frame rest = [] → closesOf rest = [fd] →
        (∀ fd', hasFailed rest fd' = false) →
        Underway frame (past ++ [fd]) kept (log ++ log' ++ rest)) := by
  have hnot : hasFailed log fd = false := by
    by_contra hfailed
    exact hfd (h.failed fd (by simpa using hfailed))
  have hbefore (fd' : ℕ) (hmem : fd' ∈ past) : hasFailed (log ++ log') fd' = hasFailed log fd' := by
    have hne : fd ≠ fd' := by
      rintro rfl
      exact hfd hmem
    rw [failed_append, hattempt.failed]
    simp [hne]
  constructor
  · intro hsts
    have hsame : hasFailed (log ++ log') = hasFailed log := by
      ext fd'
      rw [failed_append, hattempt.failed]
      simp [hsts]
    refine ⟨?_, ?_, ?_, fun fd' hfailed => ?_⟩
    · rw [attempts_append, h.attempts, hattempt.attempts]
    · rw [hsame, h.kept, List.filter_append, List.filter_cons_of_pos (by simp [hnot])]
      rfl
    · rw [hsame, closed_append, h.closed, hattempt.closed, List.filter_append,
        List.filter_cons_of_neg (by simp [hnot])]
      rfl
    · rw [hsame] at hfailed
      exact List.mem_append_left _ (h.failed fd' hfailed)
  · intro hsts rest hoffers hclosed hfine
    have hsame : hasFailed (log ++ log' ++ rest) = hasFailed (log ++ log') := by
      ext fd'
      rw [failed_append, hfine, Bool.or_false]
    have hnow : hasFailed (log ++ log') fd = true := by
      rw [failed_append, hattempt.failed]
      simp [hsts]
    refine ⟨?_, ?_, ?_, fun fd' hfailed => ?_⟩
    · rw [attempts_append, attempts_append, h.attempts, hattempt.attempts, hoffers,
        List.append_nil]
    · have hpast : past.filter (fun fd' => !hasFailed (log ++ log') fd') = kept := by
        rw [h.kept]
        exact List.filter_congr fun fd' hmem => by rw [hbefore fd' hmem]
      rw [hsame, List.filter_append, hpast, List.filter_cons_of_neg (by simp [hnow])]
      exact (List.append_nil kept).symm
    · have hpast : past.filter (hasFailed (log ++ log')) = closesOf log := by
        rw [h.closed]
        exact List.filter_congr fun fd' hmem => hbefore fd' hmem
      rw [hsame, List.filter_append, hpast, closed_append, closed_append, hattempt.closed,
        hclosed, List.append_nil, List.filter_cons_of_pos hnow]
      rfl
    · rw [hsame, failed_append, hattempt.failed] at hfailed
      rcases Bool.or_eq_true_iff.1 hfailed with hold | hnew
      · exact List.mem_append_left _ (h.failed fd' hold)
      · obtain ⟨rfl, -⟩ : fd = fd' ∧ sts ≠ .success := by simpa using hnew
        simp

/-- A report that has come past all of the list. -/
lemma Underway.fanned (h : Underway frame fds kept log) (hnodup : fds.Nodup) :
    Fanned frame log fds kept := ⟨h.attempts, hnodup, h.kept, h.closed⟩

end

/-! ### The list -/

section

variable {ι : Type}

/-- The list after an interaction. -/
def listAfter : Event daemonSig → List ℕ → List ℕ
  | ⟨.removeCallBack fd, _⟩, fds => fds.filter (· ≠ fd)
  | ⟨.pushBackCallBack fd, _⟩, fds => fds ++ [fd]
  | ⟨.eraseCallBackAt i, _⟩, fds => fds.eraseIdx i
  | _, fds => fds

/-- The list after a history. -/
def listOf : DaemonTrace ι → List ℕ
  | [] => []
  | .op _ _ e :: tr => listAfter e (listOf tr)
  | .call _ _ :: tr | .ret _ _ _ :: tr => listOf tr

/-- The interactions with the list and its mutex. -/
def onList : DaemonOp → Bool
  | .callBackBegin | .callBackEnd | .getCallBackList | .removeCallBack _ | .pushBackCallBack _
  | .eraseCallBackAt _ => true
  | _ => false

def Aside (o : DaemonOp) : Prop := onList o = false

/-- The message of an event. -/
def eventData (m : HdcpDaemon) (event portId : UInt32) : SocketData :=
  let data := { newSocketData m.layout with
    command := HdcpApi.reportStatus
    portCount := 1 }
  data.setSinglePort { data.singlePort with event := event, id := portId }

lemma reportStatus_eq (m : HdcpDaemon) (event portId : UInt32) :
    m.reportStatus event portId = (do
      callBackBegin
      let fds ← getCallBackList
      m.reportLoop (eventData m event portId) fds 0
      callBackEnd) := rfl

variable [DecidableEq ι]

/-- The list when the thread has last acquired its mutex. -/
def listAtBegin (i : ι) : DaemonTrace ι → List ℕ
  | [] => []
  | .op j _ ⟨.callBackBegin, _⟩ :: tr => if j = i then listOf tr else listAtBegin i tr
  | _ :: tr => listAtBegin i tr

/-- What the report of a thread has done with the list since it has acquired the mutex. -/
def FannedOut (m : HdcpDaemon) (i : ι) (event portId : UInt32) (tr : DaemonTrace ι) : Prop :=
  Fanned (m.layout.encode (eventData m event portId)) (callEvents i tr).reverse (listAtBegin i tr)
    (listOf tr)

/-- A report has released the mutex at the end of the call, and had done what it should. -/
def Reported (m : HdcpDaemon) (i : ι) (event portId : UInt32) (tr : DaemonTrace ι) : Prop :=
  ∃ tr', .op i (.reportStatus event portId) ⟨.callBackEnd, ()⟩ :: tr' <:+ tr ∧
    callEvents i tr = ⟨.callBackEnd, ()⟩ :: callEvents i tr' ∧ FannedOut m i event portId tr'

/-- A report goes through the list, has done what it should when it releases the mutex, and
does not return before. -/
def OnStep (m : HdcpDaemon) : DaemonLabel ι → DaemonTrace ι → Prop
  | .op i (.reportStatus event portId) ⟨.callBackEnd, _⟩, tr => FannedOut m i event portId tr
  | .ret i (.reportStatus event portId) _, tr => Reported m i event portId tr
  | _, _ => True

/-- The answers of the kernel that are considered. -/
def PossibleStep : DaemonLabel ι → Prop
  | .op _ _ e => Possible e
  | _ => True

/-- While a thread holds the mutex, the others leave it and the list alone. -/
def Guarded (i : ι) (s s' : DaemonState ι) : Prop :=
  s.callBackListMutex = some i →
    s'.callBackListMutex = some i ∧ s'.callBackList = s.callBackList

def fanOutProtocol (m : HdcpDaemon) : Protocol daemonSig ι DaemonCall Unit (DaemonState ι) where
  admits := fun _ _ l => PossibleStep l
  inv tr s := s.callBackList = listOf tr ∧ s.callBackList.Nodup ∧ EveryStep (OnStep m) tr
  rely i tr s tr' s' := callEvents i tr' = callEvents i tr ∧ tr <:+ tr' ∧
    listAtBegin i tr' = listAtBegin i tr ∧ Guarded i s s'
  refl := fun _ _ _ => ⟨rfl, List.suffix_refl _, rfl, fun h => ⟨h, rfl⟩⟩
  trans := fun h h' => ⟨h'.1.trans h.1, h.2.1.trans h'.2.1, h'.2.2.1.trans h.2.2.1,
    fun hmutex => by
      obtain ⟨hmutex', hlist⟩ := h.2.2.2 hmutex
      obtain ⟨hmutex'', hlist'⟩ := h'.2.2.2 hmutex'
      exact ⟨hmutex'', hlist'.trans hlist⟩⟩

variable {α : Type} {m : HdcpDaemon} {main i j : ι} {c : DaemonCall} {o : DaemonOp} {r : o.Ans}
  {tr tr' : DaemonTrace ι} {s s' : DaemonState ι} {fds : List ℕ} {fd n : ℕ}
  {p : DaemonProg α}
  {Q : α → DaemonTrace ι → DaemonState ι → Prop}

abbrev FanSat (m : HdcpDaemon) (main i : ι) (c : DaemonCall)
    (Q : α → DaemonTrace ι → DaemonState ι → Prop) (p : DaemonProg α) (tr : DaemonTrace ι)
    (s : DaemonState ι) : Prop :=
  (fanOutProtocol m).Sat (m.system main) i c Q p tr s

omit [DecidableEq ι] in
lemma step_aside (ho : onList o = false) (h : m.step i o r s = some s') :
    s'.callBackListMutex = s.callBackListMutex ∧ s'.callBackList = s.callBackList := by
  by_cases hplaces : o.onPlaces = false
  · have hsame := step_places hplaces h
    exact ⟨hsame.mutex, hsame.list⟩
  cases o
  case accept =>
    cases (r : Except Errno ℕ) with
    | error e =>
        obtain rfl := Option.some.inj h
        exact ⟨rfl, rfl⟩
    | ok fd =>
        obtain ⟨-, hs⟩ := Option.ite_none_right_eq_some.1 h
        rw [← Option.some.inj hs]
        exact ⟨rfl, rfl⟩
  case close | setSlot =>
    rw [← Option.some.inj h]
    exact ⟨rfl, rfl⟩
  case freeSlot =>
    rw [(DaemonState.answer_eq_some.1 h).2]
    exact ⟨rfl, rfl⟩
  case callBackBegin | callBackEnd | removeCallBack | pushBackCallBack | eraseCallBackAt =>
    exact absurd ho (by simp [onList])
  all_goals exact absurd rfl hplaces

omit [DecidableEq ι] in
lemma step_list (h : m.step i o r s = some s') :
    s'.callBackList = listAfter ⟨o, r⟩ s.callBackList := by
  by_cases ho : onList o = false
  · rw [(step_aside ho h).2]
    cases o <;> first | rfl | exact absurd ho (by simp [onList])
  cases o
  case callBackBegin =>
    obtain ⟨-, hs⟩ := Option.ite_none_right_eq_some.1 h
    rw [← Option.some.inj hs]
    rfl
  case getCallBackList =>
    rw [(DaemonState.answer_eq_some.1 h).2]
    rfl
  case callBackEnd | removeCallBack | pushBackCallBack | eraseCallBackAt =>
    rw [← Option.some.inj h]
    rfl
  all_goals exact absurd rfl ho

lemma listAtBegin_op (ho : i = j → o ≠ .callBackBegin) :
    listAtBegin j (.op i c ⟨o, r⟩ :: tr) = listAtBegin j tr := by
  cases o
  case callBackBegin => exact if_neg fun heq => ho heq rfl
  all_goals rfl

/-- A step that the others allow. -/
lemma keeps_step (hinv : (fanOutProtocol m).inv tr s)
    (hstep : (m.system main).step i o r s = some s') (hnodup : s'.callBackList.Nodup)
    (hrelease : OnStep m (.op i c ⟨o, r⟩) tr) (hothers : ∀ j, j ≠ i → Guarded j s s') :
    (fanOutProtocol m).Keeps i tr s (.op i c ⟨o, r⟩) s' := by
  obtain ⟨hlist, -, hevery⟩ := hinv
  refine ⟨⟨?_, hnodup, hrelease, hevery⟩, fun j hj => ⟨callEvents_op_of_ne hj.symm,
    List.suffix_cons _ _, listAtBegin_op fun heq => absurd heq.symm hj, hothers j hj⟩⟩
  rw [step_list hstep, hlist]
  rfl

lemma onStep_of_ne (hend : o ≠ .callBackEnd) : OnStep m (.op i c ⟨o, r⟩) tr := by
  cases c with
  | messageResponse rounds => trivial
  | reportStatus event portId =>
      cases o
      case callBackEnd => exact absurd rfl hend
      all_goals trivial

/-- What leaves the list alone. -/
lemma keeps_aside (ho : Aside o) (hinv : (fanOutProtocol m).inv tr s)
    (hstep : (m.system main).step i o r s = some s') :
    (fanOutProtocol m).Keeps i tr s (.op i c ⟨o, r⟩) s' := by
  obtain ⟨hmutex, hlist⟩ := step_aside ho hstep
  refine keeps_step hinv hstep (hlist ▸ hinv.2.1) (onStep_of_ne ?_)
    fun j _ hj => ⟨hmutex.trans hj, hlist⟩
  rintro rfl
  exact absurd ho (by simp [Aside, onList])

lemma sat_aside (hp : p.Uses Aside) : FanSat m main i c (fun _ _ _ => True) p tr s := by
  refine Protocol.sat_of_keeps (F := fun _ _ => True) hp trivial (fun _ _ => trivial) ?_
  intro o r tr s s' ho hinv _ hstep _
  exact ⟨keeps_aside ho hinv hstep, trivial⟩

/-- The thread holds the mutex of the list, which is `fds`. -/
def Holds (i : ι) (fds : List ℕ) (s : DaemonState ι) : Prop :=
  s.callBackListMutex = some i ∧ s.callBackList = fds

lemma Holds.of_rely (h : Holds i fds s) (hrely : (fanOutProtocol m).rely i tr s tr' s') :
    Holds i fds s' := by
  obtain ⟨hmutex, hlist⟩ := hrely.2.2.2 h.1
  exact ⟨hmutex, hlist.trans h.2⟩

omit [DecidableEq ι] in
/-- Who holds the mutex may do what it likes. -/
lemma Holds.others (h : Holds i fds s) (j : ι) (hj : j ≠ i) : Guarded j s s' :=
  fun hmutex => absurd (Option.some.inj (h.1.symm.trans hmutex)) hj.symm

/-- The mutex is acquired. -/
lemma sat_callBackBegin {k : Unit → DaemonProg α}
    (hk : ∀ (tr' : DaemonTrace ι) (s' : DaemonState ι), callEvents i tr' = callEvents i tr →
      s'.callBackList = listOf tr' → FanSat m main i c Q (k ())
        (.op i c ⟨.callBackBegin, ()⟩ :: tr') (s'.setMutex (some i))) :
    FanSat m main i c Q (callBackBegin >>= k) tr s := by
  intro tr' s' hrely hinv _ s'' hstep _
  obtain ⟨hfree, hs⟩ := Option.ite_none_right_eq_some.1 hstep
  obtain rfl := Option.some.inj hs
  refine ⟨keeps_step (o := .callBackBegin) hinv hstep hinv.2.1
    (onStep_of_ne (by simp)) ?_, hk tr' s' hrely.1 hinv.1⟩
  exact fun j _ hmutex => absurd (hfree.symm.trans hmutex) (by simp)

/-- The mutex is released. -/
lemma sat_callBackEnd {k : Unit → DaemonProg α} (h : Holds i fds s)
    (hrelease : ∀ tr', callEvents i tr' = callEvents i tr →
      listAtBegin i tr' = listAtBegin i tr → listOf tr' = fds →
      OnStep m (.op i c ⟨.callBackEnd, ()⟩) tr')
    (hk : ∀ tr' s', callEvents i tr' = callEvents i tr →
      listAtBegin i tr' = listAtBegin i tr → listOf tr' = fds →
      FanSat m main i c Q (k ()) (.op i c ⟨.callBackEnd, ()⟩ :: tr') s') :
    FanSat m main i c Q (callBackEnd >>= k) tr s := by
  intro tr' s' hrely hinv _ s'' hstep _
  have h' := h.of_rely hrely
  obtain rfl := Option.some.inj hstep
  have hlist : listOf tr' = fds := hinv.1.symm.trans h'.2
  exact ⟨keeps_step (o := .callBackEnd) hinv hstep hinv.2.1
    (hrelease tr' hrely.1 hrely.2.2.1 hlist) h'.others, hk _ _ hrely.1 hrely.2.2.1 hlist⟩

/-! ### `CREATE_CALLBACK` -/

lemma sat_register {k : Unit → DaemonProg α}
    (hk : ∀ tr' s', FanSat m main i (.messageResponse n) Q (k ()) tr' s') :
    FanSat m main i (.messageResponse n) Q
      (do callBackBegin; removeCallBack fd; pushBackCallBack fd; callBackEnd; k ()) tr s := by
  refine sat_callBackBegin fun tr₁ s₁ _ _ => ?_
  -- the descriptor is removed from the list
  intro tr₂ s₂ hrely₂ hinv₂ _ s₂' hstep₂ _
  have h₂ : Holds i s₁.callBackList s₂ :=
    Holds.of_rely (s := s₁.setMutex (some i)) ⟨rfl, rfl⟩ hrely₂
  obtain rfl := Option.some.inj hstep₂
  have hnodup₂ : (s₂.callBackList.filter (· ≠ fd)).Nodup := hinv₂.2.1.filter _
  refine ⟨keeps_step (o := .removeCallBack fd) hinv₂ hstep₂ hnodup₂ trivial h₂.others, ?_⟩
  -- it is added to the end of the list, which it is not in
  intro tr₃ s₃ hrely₃ hinv₃ _ s₃' hstep₃ _
  have h₃ : Holds i (s₂.callBackList.filter (· ≠ fd)) s₃ :=
    Holds.of_rely (s := s₂.setList (s₂.callBackList.filter (· ≠ fd))) ⟨h₂.1, rfl⟩ hrely₃
  obtain rfl := Option.some.inj hstep₃
  have hnodup₃ : (s₃.callBackList ++ [fd]).Nodup := by
    rw [h₃.2, List.nodup_append]
    refine ⟨hnodup₂, by simp, ?_⟩
    rintro fd₁ hmem fd₂ hmem' rfl
    obtain rfl := List.mem_singleton.1 hmem'
    exact absurd (List.mem_filter.1 hmem).2 (by simp)
  refine ⟨keeps_step (o := .pushBackCallBack fd) hinv₃ hstep₃ hnodup₃ trivial h₃.others, ?_⟩
  have h₄ : Holds i (s₃.callBackList ++ [fd]) (s₃.setList (s₃.callBackList ++ [fd])) := ⟨h₃.1, rfl⟩
  exact sat_callBackEnd h₄ (fun _ _ _ _ => trivial) fun _ _ _ _ _ => hk _ _

omit [DecidableEq ι] in
lemma aside_of_inTask (o : DaemonOp) (h : InTask o) : Aside o := by
  cases o <;> first | rfl | exact absurd h (by simp [InTask, DaemonOp.inTask])

omit [DecidableEq ι] in
lemma aside_of_serves (o : DaemonOp) (h : Serves fd o) : Aside o := by
  rcases h with hinternal | ⟨n, rfl⟩ | ⟨data, rfl⟩
  · cases o <;> first | rfl | exact hinternal.elim
  · rfl
  · rfl

lemma uses_getTask (rounds : ℕ) : (m.getTask rounds).Uses Aside := by
  refine Prog.uses_iter (fun _ => ?_) rounds ()
  refine Prog.Uses.bind (Prog.uses_op.2 rfl) ?_
  rintro (e | revents)
  · trivial
  refine Prog.Uses.bind (Prog.uses_op.2 rfl) fun fdIndex => ?_
  refine ((uses_getTaskLoop _ _ _).mono aside_of_inTask).bind ?_
  rintro (e | ⟨i, _ | task⟩)
  · trivial
  · exact Prog.Uses.bind (Prog.uses_op.2 rfl) fun _ => trivial
  · exact Prog.Uses.bind (Prog.uses_op.2 rfl) fun _ => trivial

lemma sat_messageResponse (rounds : ℕ) :
    FanSat m main i (.messageResponse n) (fun _ _ _ => True) (m.messageResponse rounds) tr s := by
  refine (sat_aside (uses_getTask rounds)).bind ?_
  rintro (_ | (e | task)) tr₁ s₁ - -
  · exact fun _ _ _ _ => trivial
  · exact fun _ _ _ _ => trivial
  · by_cases hcommand : task.req.command = HdcpApi.createCallBack
    · refine Protocol.Sat.ite (fun _ => sat_aside (serves_respond.mono aside_of_serves)) fun _ => ?_
      rw [dispatchCommand_createCallBack hcommand]
      exact sat_register fun _ _ => fun _ _ _ _ => trivial
    · exact sat_aside ((serves_answerTask hcommand).mono aside_of_serves)

/-! ### Reports -/

/-- A report holds the mutex and has come so far. -/
structure Reporting (m : HdcpDaemon) (data : SocketData) (i : ι) (fds past kept rest : List ℕ)
    (tr : DaemonTrace ι) (s : DaemonState ι) : Prop where
  holds : Holds i (kept ++ rest) s
  before : listAtBegin i tr = fds
  underway : Underway (m.layout.encode data) past kept (callEvents i tr).reverse

variable {data : SocketData} {past kept rest : List ℕ}

lemma Reporting.of_rely (h : Reporting m data i fds past kept rest tr s)
    (hrely : (fanOutProtocol m).rely i tr s tr' s') :
    Reporting m data i fds past kept rest tr' s' :=
  ⟨h.holds.of_rely hrely, hrely.2.2.1.trans h.before, hrely.1 ▸ h.underway⟩

/-- An attempt leaves the list as it is. -/
lemma sat_sendResponse (h : Holds i fds s) :
    FanSat m main i c (fun sts tr' s' => Holds i fds s' ∧
      listAtBegin i tr' = listAtBegin i tr ∧ ∃ log,
        Attempt (m.layout.encode data) fd [fd] log sts ∧
          (callEvents i tr').reverse = (callEvents i tr).reverse ++ log)
      (m.sendResponse data fd) tr s := by
  have huses : (m.sendResponse data fd).Uses Aside :=
    serves_sendResponse.mono aside_of_serves
  refine (Protocol.sat_runs (P := fanOutProtocol m)
    (F := fun tr' s' => Holds i fds s' ∧ listAtBegin i tr' = listAtBegin i tr) (K := Possible)
    huses ⟨h, rfl⟩ (fun hrely => ⟨hrely.1, fun h => ⟨h.1.of_rely hrely,
      hrely.2.2.1.trans h.2⟩⟩) ?_).mono ?_
  · rintro o r tr' s s' ho hinv ⟨h, hbefore⟩ hstep hadm
    obtain ⟨hmutex, hlist⟩ := step_aside ho hstep
    have hnot : o ≠ .callBackBegin := by
      rintro rfl
      exact absurd ho (by simp [Aside, onList])
    exact ⟨keeps_aside ho hinv hstep, ⟨⟨hmutex.trans h.1, hlist.trans h.2⟩,
      (listAtBegin_op fun _ => hnot).trans hbefore⟩, hadm⟩
  · rintro sts tr' s' - ⟨⟨h', hbefore⟩, log, hruns, hlog, hevents⟩
    refine ⟨h', hbefore, log, runs_sendResponse hruns hlog, ?_⟩
    rw [hevents, List.reverse_append, List.reverse_reverse]

/-- A descriptor that failed is closed and erased. -/
lemma sat_closeErase {k : Unit → DaemonProg α} (h : Holds i (kept ++ fd :: rest) s)
    (hk : ∀ (tr' : DaemonTrace ι) (s' : DaemonState ι) (e : Errno), Holds i (kept ++ rest) s' →
      listAtBegin i tr' = listAtBegin i tr →
      (callEvents i tr').reverse = (callEvents i tr).reverse ++
        [⟨.close fd, e⟩, ⟨.eraseCallBackAt kept.length, ()⟩] →
      FanSat m main i c Q (k ()) tr' s') :
    FanSat m main i c Q (close fd >>= fun _ => eraseCallBackAt kept.length >>= k) tr s := by
  intro tr₁ s₁ hrely₁ hinv₁ e s₁' hstep₁ _
  have h₁ := h.of_rely hrely₁
  refine ⟨keeps_aside (o := .close fd) rfl hinv₁ hstep₁, ?_⟩
  obtain rfl := Option.some.inj hstep₁
  intro tr₂ s₂ hrely₂ hinv₂ _ s₂' hstep₂ _
  have h₂ : Holds i (kept ++ fd :: rest) s₂ :=
    Holds.of_rely (s := s₁.setOpened fd false) ⟨h₁.1, h₁.2⟩ hrely₂
  obtain rfl := Option.some.inj hstep₂
  have herase : s₂.callBackList.eraseIdx kept.length = kept ++ rest := by
    rw [h₂.2, List.eraseIdx_append_of_length_le le_rfl, Nat.sub_self]
    rfl
  have hnodup : (s₂.callBackList.eraseIdx kept.length).Nodup :=
    (List.eraseIdx_sublist _ _).nodup hinv₂.2.1
  refine ⟨keeps_step (o := .eraseCallBackAt kept.length) hinv₂ hstep₂ hnodup
    (onStep_of_ne (by simp)) h₂.others,
    hk _ _ e ⟨h₂.1, herase⟩ (hrely₂.2.2.1.trans hrely₁.2.2.1) ?_⟩
  rw [callEvents_op_self, hrely₂.1, callEvents_op_self, hrely₁.1, List.reverse_cons,
    List.reverse_cons, List.append_assoc]
  rfl

/-- The loop comes past the rest of the list. -/
lemma sat_reportLoop (past : List ℕ) (hnodup : fds.Nodup) (hfds : fds = past ++ rest)
    (h : Reporting m data i fds past kept rest tr s) :
    FanSat m main i c (fun _ tr' s' => ∃ kept', Reporting m data i fds fds kept' [] tr' s')
      (m.reportLoop data rest kept.length) tr s := by
  induction rest generalizing past kept tr s with
  | nil =>
      rw [List.append_nil] at hfds
      subst hfds
      exact fun _ _ hrely _ => ⟨kept, h.of_rely hrely⟩
  | cons fd rest ih =>
      have hpast : fds = (past ++ [fd]) ++ rest := by simp [hfds]
      have hfd : fd ∉ past := by
        rw [hfds, List.nodup_append] at hnodup
        exact fun hmem => hnodup.2.2 fd hmem fd List.mem_cons_self rfl
      refine (sat_sendResponse h.holds).bind ?_
      rintro sts tr₁ s₁ - ⟨h₁, hbefore₁, log, hattempt, hevents⟩
      obtain ⟨hsuccess, hfailure⟩ := h.underway.attempt hfd hattempt
      refine Protocol.Sat.ite (fun hsts => ?_) fun hsts => ?_
      · refine sat_closeErase h₁ fun tr₂ s₂ e h₂ hbefore₂ hevents₂ => ih _ hpast
          ⟨h₂, hbefore₂.trans (hbefore₁.trans h.before), ?_⟩
        rw [hevents₂, hevents]
        exact hfailure hsts _ rfl rfl fun _ => rfl
      · have hkept : kept ++ fd :: rest = (kept ++ [fd]) ++ rest := by simp
        rw [hkept] at h₁
        rw [show kept.length + 1 = (kept ++ [fd]).length by simp]
        refine ih _ hpast ⟨h₁, hbefore₁.trans h.before, ?_⟩
        rw [hevents]
        exact hsuccess (not_not.1 hsts)

lemma Reported.of_rely {event portId : UInt32} (h : Reported m i event portId tr)
    (hrely : (fanOutProtocol m).rely i tr s tr' s') : Reported m i event portId tr' := by
  obtain ⟨tr₀, hsuffix, hevents, hfanned⟩ := h
  exact ⟨tr₀, hsuffix.trans hrely.2.1, hrely.1.trans hevents, hfanned⟩

lemma sat_reportStatus (event portId : UInt32) (hstart : callEvents i tr = []) :
    FanSat m main i (.reportStatus event portId)
      (fun _ tr' _ => Reported m i event portId tr') (m.reportStatus event portId) tr s := by
  rw [reportStatus_eq]
  refine sat_callBackBegin fun tr₁ s₁ hevents₁ hlist₁ => ?_
  -- the list is read
  intro tr₂ s₂ hrely₂ hinv₂ fds s₂' hstep₂ _
  have h₂ : Holds i s₁.callBackList s₂ :=
    Holds.of_rely (s := s₁.setMutex (some i)) ⟨rfl, rfl⟩ hrely₂
  obtain ⟨rfl, rfl⟩ := DaemonState.answer_eq_some.1 hstep₂
  refine ⟨keeps_step (o := .getCallBackList) hinv₂ hstep₂ hinv₂.2.1 trivial
    fun _ _ h => ⟨h, rfl⟩, ?_⟩
  have hbefore : listAtBegin i tr₂ = s₂'.callBackList := by
    rw [hrely₂.2.2.1, h₂.2, hlist₁]
    exact if_pos rfl
  have hreporting : Reporting m (eventData m event portId) i s₂'.callBackList [] []
      s₂'.callBackList (.op i (.reportStatus event portId)
        (⟨.getCallBackList, s₂'.callBackList⟩ : Event daemonSig) :: tr₂) s₂' := by
    refine ⟨⟨h₂.1, rfl⟩, hbefore, ?_⟩
    rw [callEvents_op_self, hrely₂.1, callEvents_op_self, hevents₁, hstart]
    exact ⟨rfl, rfl, rfl, fun fd hfailed => by simp [hasFailed] at hfailed⟩
  refine Protocol.Sat.bind (p := m.reportLoop _ s₂'.callBackList 0) (f := fun _ => callBackEnd)
    (sat_reportLoop [] hinv₂.2.1 rfl hreporting) ?_
  rintro - tr₃ s₃ - ⟨kept, h₃⟩
  -- the mutex is released
  have hfanned (tr₄ : DaemonTrace ι) (hevents₄ : callEvents i tr₄ = callEvents i tr₃)
      (hbefore₄ : listAtBegin i tr₄ = listAtBegin i tr₃) (hlist₄ : listOf tr₄ = kept ++ []) :
      FannedOut m i event portId tr₄ := by
    rw [FannedOut, hevents₄, hbefore₄, h₃.before, hlist₄, List.append_nil]
    exact h₃.underway.fanned hinv₂.2.1
  refine sat_callBackEnd (k := Prog.ret) h₃.holds hfanned fun tr₄ s₄ hevents₄ hbefore₄ hlist₄ => ?_
  have hreported : Reported m i event portId
      (.op i (.reportStatus event portId) ⟨.callBackEnd, ()⟩ :: tr₄) :=
    ⟨tr₄, List.suffix_refl _, callEvents_op_self, hfanned tr₄ hevents₄ hbefore₄ hlist₄⟩
  exact fun tr₅ s₅ hrely₅ _ => hreported.of_rely hrely₅

/-! ### Runs -/

lemma sat_callBody (hstart : callEvents i tr = []) :
    FanSat m main i c (fun a tr' _ => OnStep m (.ret i c a) tr') (m.callBody c) tr s := by
  cases c with
  | messageResponse rounds => exact (sat_messageResponse rounds).mono fun _ _ _ _ _ => trivial
  | reportStatus event portId => exact sat_reportStatus event portId hstart

theorem fan_out {cfg : DaemonConfig ι}
    (hrun : (m.system main).Run (fun _ _ l => PossibleStep l) m.initState tr cfg) :
    cfg.shared.callBackList = listOf tr ∧ cfg.shared.callBackList.Nodup ∧
      EveryStep (OnStep m) tr := by
  have hstart : (fanOutProtocol m).inv ([] : DaemonTrace ι) m.initState :=
    ⟨rfl, List.nodup_nil, trivial⟩
  refine (Protocol.sound hstart (fun i c tr s _ _ hinv _ => ?_) hrun).1
  have hother (j : ι) (hj : j ≠ i) : callEvents j (.call i c :: tr) = callEvents j tr :=
    if_neg hj.symm
  refine ⟨⟨⟨hinv.1, hinv.2.1, trivial, hinv.2.2⟩, fun j hj =>
    ⟨hother j hj, List.suffix_cons _ _, rfl, fun h => ⟨h, rfl⟩⟩⟩, ?_⟩
  have hself : callEvents i (.call i c :: tr) = [] := if_pos rfl
  refine (sat_callBody hself).mono fun a tr' s' hinv' hret _ => ?_
  exact ⟨⟨hinv'.1, hinv'.2.1, hret, hinv'.2.2⟩, fun j _ =>
    ⟨rfl, List.suffix_cons _ _, rfl, fun h => ⟨h, rfl⟩⟩⟩

end

/-! ### A report -/

/-- `send` sets `errno` when it fails. -/
def setsErrno : Except Errno ℕ → Bool
  | .error e => e ≠ .success
  | .ok _ => true

def possibleCheck : DaemonTrace ℕ → DaemonState ℕ → DaemonLabel ℕ → Bool
  | _, _, .op _ _ ⟨.send _ data, r⟩ => sendAnswer data.length r && setsErrno r
  | _, _, _ => true

lemma possibleStep_of_check (tr : DaemonTrace ℕ) (s : DaemonState ℕ) (l : DaemonLabel ℕ)
    (h : possibleCheck tr s l) : PossibleStep l := by
  cases l with
  | call | ret => trivial
  | op i c e =>
      obtain ⟨o, r⟩ := e
      cases o
      case send fd data =>
        obtain ⟨hanswer, herrno⟩ := Bool.and_eq_true_iff.1 h
        refine ⟨hanswer, ?_⟩
        rintro rfl
        exact absurd herrno (by decide)
      all_goals trivial

/-- An app registers for callbacks, and the event cannot be sent to it. -/
def reportToGone : List DaemonAction :=
  registerCallBack ++ .call 1 (.reportStatus 1 1) :: steps 1 6 ⟨eventOn 0, .ok 4, [], false⟩ ++
    [.ret 1]

theorem fan_out_reportToGone :
    ∃ x, scheduled possibleCheck reportToGone = some x ∧
      closesOf (callEvents 1 x.1).reverse = [4] ∧ x.2.shared.callBackList = listOf x.1 ∧
      x.2.shared.callBackList.Nodup ∧ EveryStep (OnStep usualDaemon) x.1 := by
  obtain ⟨x, hx, hrun, htest⟩ := exists_run_of_scheduled possibleCheck possibleStep_of_check
    reportToGone (fun x => closesOf (callEvents 1 x.1).reverse = [4]) (by decide)
  exact ⟨x, hx, of_decide_eq_true htest, fan_out hrun⟩

end Hdcp.FanOut
