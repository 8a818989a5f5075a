/-
An event on its way to the callback functions.

A thread of the port manager calls `ReportStatus` in the daemon; `CallBackManager` calls the
callback functions in a process of an application.  Between them are the list of connections and
its mutex, the message loop that registers connections and serves all the clients meanwhile, the
parts in which messages are written and read, and the checks of the listening thread.

`events_delivered`: on a connection that does not fail, nothing of this can be noticed.  The
thread calls the callback functions for the reports since the registration, one report after the
other, none left out, none twice, and with the event and the port of the report; once it has
heard all that was written and no report is under way, it has delivered all of them.  Every call
of `ReportStatus` makes one of these reports before it returns.
-/
import Hdcp.Daemon.Reports
import Hdcp.Sdk.Listener

namespace Hdcp.Events

open Library Socket Daemon Reports Listener

variable {ι : Type} [DecidableEq ι] {m : HdcpDaemon} {main : ι} {y : ℕ} {tr : DaemonTrace ι}
  {cfg : DaemonConfig ι} {fields : ℕ → Sdk.Session} {rounds : ℕ} {log : ListenerLog}
  {r : Option Unit}

/-- The listening thread accepts the messages of the daemon. -/
lemma frames_of_daemon (hsize : m.layout.size < 2 ^ 32) : Frames m.layout (frame m) := by
  have hsame (report : UInt32 × UInt32) : m.layout.decode (frame m report) =
      FanOut.eventData m report.1 report.2 := m.layout.decode_encode _
  constructor
  · exact fun report => m.layout.length_encode _
  · intro report
    rw [hsame]
    exact UInt32.toNat_ofNat_of_lt' hsize
  all_goals
    intro report
    rw [hsame]
    rfl

lemma length_frames (reports : List (UInt32 × UInt32)) :
    (frames m reports).length = reports.length * m.layout.size := by
  induction reports with
  | nil => exact (Nat.zero_mul _).symm
  | cons report reports ih =>
      rw [frames, List.flatMap_cons, List.length_append, ← frames, ih, frame,
        m.layout.length_encode, List.length_cons, Nat.succ_mul, Nat.add_comm]

/-- The reports since the registration are delivered; the calls that have returned are among
them, each call once. -/
theorem events_delivered (hsize : m.layout.size < 2 ^ 32)
    (hrun : (m.system main).Run (Works y) m.initState tr cfg) (hy : isRegistered y tr = true)
    (hlisten : (Listener.callBackManager m.layout rounds).Runs log r)
    (hworks : ∀ e ∈ log, (listener fields).works e)
    (hwire : (listener fields).heardIn log <+: saidSince y tr) :
    EveryStep (ReportsOnce main) tr ∧
      ((returnedSince y tr).map Prod.snd).Subperm (reportsSince y tr) ∧
      r = none ∧ Delivered fields ((reportsSince y tr).take rounds) log ∧
      rounds ≤ (reportsSince y tr).length ∧
      (cfg.shared.callBackListMutex = none →
        (listener fields).heardIn log = saidSince y tr → rounds = (reportsSince y tr).length) := by
  obtain ⟨-, hsaid, hwhole⟩ := said_reports hrun hy
  have hframes := frames_of_daemon hsize
  obtain ⟨rfl, hle, hheard, hdelivered⟩ :=
    does_callBackManager hframes rounds hlisten hworks _ (hwire.trans hsaid)
  refine ⟨reports_once hrun, returned_reports hrun, rfl, ?_, hle, fun hfree hall => ?_⟩
  · have hlists := hdelivered.lists
    have hcalls := hdelivered.calls
    rw [listsOf_innerIn] at hlists hcalls
    rw [callsOf_innerIn] at hcalls
    exact ⟨hlists, hcalls⟩
  · have hlength := congrArg List.length (hheard.symm.trans (hall.trans (hwhole hfree)))
    rw [← frames, length_frames, length_frames, List.length_take, Nat.min_eq_left hle] at hlength
    exact Nat.eq_of_mul_eq_mul_right (layout_size_pos m.layout) hlength

/-! ### Two reports -/

def worksCheck : DaemonTrace ℕ → DaemonState ℕ → DaemonLabel ℕ → Bool
  | _, _, .op _ (.reportStatus _ _) ⟨.send fd _, r⟩ => fd ≠ 4 || sent r
  | _, _, _ => true
where
  sent (r : Except Errno ℕ) : Bool := Except.isOk r

lemma works_of_check (tr : DaemonTrace ℕ) (s : DaemonState ℕ) (l : DaemonLabel ℕ)
    (h : worksCheck tr s l) : Works 4 tr s l := by
  rw [Works.eq_def]
  split
  · rename_i r
    intro hfd
    subst hfd
    exact h
  · trivial

/-- Two threads report at the same time, after an app has registered for callbacks. -/
def reportBoth : List DaemonAction :=
  registerCallBack ++ .call 1 (.reportStatus 1 1) :: .call 2 (.reportStatus 2 1) ::
    steps 2 4 ⟨eventOn 0, .ok 4, [], true⟩ ++ steps 1 4 ⟨eventOn 0, .ok 4, [], true⟩ ++
    [.ret 1, .ret 2]

/-- The only session of the application, and its callback function. -/
def onlySession : Sdk.Session := ⟨1, some 7, 9⟩

/-- What the thread does for a report. -/
def listenRound (event portId : UInt32) : ListenerLog :=
  [⟨.read 100, (.ok (frame usualDaemon (event, portId)) : Except Errno (List UInt8))⟩,
    ⟨.channel (.sdk .iteratorBegin), ()⟩, ⟨.channel (.sdk .increaseIterator), ()⟩,
    ⟨.channel (.sdk .iteratorEnd), ()⟩, ⟨.channel (.sdk .getSessionList), ([0] : List ℕ)⟩,
    ⟨.channel (.sdk (.getSession 0)), onlySession⟩,
    ⟨.invoke 7 1 portId event 9, ([] : List Sdk.ApiCall)⟩,
    ⟨.channel (.sdk .iteratorBegin), ()⟩, ⟨.channel (.sdk .decreaseIterator), (0 : ℕ)⟩,
    ⟨.channel (.sdk .getPendingQueue), ([] : List ℕ)⟩, ⟨.channel (.sdk .clearPending), ()⟩,
    ⟨.channel (.sdk .iteratorEnd), ()⟩]

def listenBoth : ListenerLog := listenRound 2 1 ++ listenRound 1 1

lemma runs_listenBoth : (Listener.callBackManager socketDataLayout 2).Runs listenBoth none := by
  have hfirst : (Listener.callBackRound socketDataLayout ()).Runs (listenRound 2 1) (.inl ()) :=
    .call _ _ _ (.call _ _ _ (.call _ _ _ (.call _ _ _ (.call _ _ _ (.call _ _ _ (.call _ _ _
      (.call _ _ _ (.call _ _ _ (.call _ _ _ (.call _ _ _ (.call _ _ _ (.ret _))))))))))))
  have hsecond : (Listener.callBackRound socketDataLayout ()).Runs (listenRound 1 1) (.inl ()) :=
    .call _ _ _ (.call _ _ _ (.call _ _ _ (.call _ _ _ (.call _ _ _ (.call _ _ _ (.call _ _ _
      (.call _ _ _ (.call _ _ _ (.call _ _ _ (.call _ _ _ (.call _ _ _ (.ret _))))))))))))
  refine Prog.runs_bind.2 ⟨.inl (), listenRound 2 1, listenRound 1 1, hfirst, ?_, rfl⟩
  exact Prog.runs_bind.2 ⟨.inl (), listenRound 1 1, [], hsecond, .ret none, by simp⟩

lemma works_listenRound (event portId : UInt32) :
    ∀ e ∈ listenRound event portId, (listener fun _ => onlySession).works e := by
  simp only [listenRound, List.forall_mem_cons]
  have hlength : (frame usualDaemon (event, portId)).length = 100 :=
    usualDaemon.layout.length_encode _
  refine ⟨⟨decide_eq_true hlength.le, fun hnil => ?_⟩, trivial, trivial, trivial, trivial, rfl,
    trivial, trivial, trivial, trivial, trivial, trivial, by simp⟩
  have hnil' : frame usualDaemon (event, portId) = [] := hnil
  rw [hnil'] at hlength
  exact absurd hlength (by decide)

theorem events_delivered_reportBoth :
    ∃ x, scheduled worksCheck reportBoth = some x ∧
      returnedSince 4 x.1 = [(2, 2, 1), (1, 1, 1)] ∧ reportsSince 4 x.1 = [(2, 1), (1, 1)] ∧
      Delivered (fun _ => onlySession) [(2, 1), (1, 1)] listenBoth := by
  obtain ⟨x, hx, hrun, htest⟩ := exists_run_of_scheduled worksCheck works_of_check reportBoth
    (fun x => isRegistered 4 x.1 ∧ returnedSince 4 x.1 = [(2, 2, 1), (1, 1, 1)] ∧
      reportsSince 4 x.1 = [(2, 1), (1, 1)] ∧ x.2.shared.callBackListMutex = none) (by decide)
  obtain ⟨hy, hreturned, hreports, hfree⟩ := of_decide_eq_true htest
  have hsaid := (said_reports hrun hy).2.2 hfree
  rw [hreports] at hsaid
  have hworks : ∀ e ∈ listenBoth, (listener fun _ => onlySession).works e :=
    List.forall_mem_append.2 ⟨works_listenRound 2 1, works_listenRound 1 1⟩
  have hheard : (listener fun _ => onlySession).heardIn listenBoth = saidSince 4 x.1 := by
    rw [hsaid]
    rfl
  have hdelivered := (events_delivered (m := usualDaemon) (by decide) hrun hy runs_listenBoth hworks
    (hheard ▸ List.prefix_refl _)).2.2.2.1
  rw [hreports] at hdelivered
  exact ⟨x, hx, hreturned, hreports, hdelivered⟩

end Hdcp.Events
