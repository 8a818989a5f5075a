/-
The order in which clients are served.

`GetTask` looks at the entries of `m_SessionFdArray` from `m_FdIndex` on, and serves the first
client with an event.  `m_FdIndex` then is the entry of that client, not the one after it, so
that a client that sends its next request at once is served again before all the others.

`never_passed_over`: in the runs in which no call of `GetTask` finds the entry it begins with
ready while another one is ready too, no entry is ready at every `poll` of as many calls as
there are entries without being served in one of them.  The distance from `m_FdIndex` to the
entry shrinks with each call.
-/
import Hdcp.Daemon.Accept

namespace Hdcp.RoundRobin

open Library Socket Daemon
open Library.Prog (Leads leads_append runs_bind runs_ite runs_op runs_ret iter)
open Hdcp.Accept (DaemonLog)
open Hdcp.Daemon.HdcpDaemon (Task)

section

variable {ι : Type}

/-- The entry holds the descriptor, and `poll` has set `POLLIN` or `POLLHUP`. -/
def IsReady (slot : PollFd) (fd : ℕ) : Prop :=
  slot.fd = some fd ∧ (pollIn &&& slot.revents ≠ 0 ∨ pollHup &&& slot.revents ≠ 0)

/-- The interactions that serve a descriptor: a connection is taken from the listening socket,
or a request is read. -/
def Serves (m : HdcpDaemon) (fd : ℕ) : DaemonOp → Prop
  | .accept => fd = m.fd
  | .read fd' _ => fd' = fd
  | _ => False

def IsPoll (o : DaemonOp) : Prop := o = .pollForEvent

/-- What holds after each `poll` of a log. -/
def AtEachPoll (m : HdcpDaemon) (th : ι) (P : DaemonState ι → Prop) :
    DaemonLog → DaemonState ι → Prop
  | [], _ => True
  | e :: log, s => ∀ t, m.step th e.op e.ans s = some t →
      (IsPoll e.op → P t) ∧ AtEachPoll m th P log t

/-- What holds after the first `poll` of a log. -/
def AtFirstPoll (m : HdcpDaemon) (th : ι) (P : DaemonState ι → Prop) :
    DaemonLog → DaemonState ι → Prop
  | [], _ => True
  | e :: log, s => ∀ t, m.step th e.op e.ans s = some t →
      (IsPoll e.op → P t) ∧ (¬IsPoll e.op → AtFirstPoll m th P log t)

/-! ### Runs -/

/-- A round of the message loop: what `GetTask` did and returned, and what was done then. -/
structure Turn where
  rounds : ℕ
  log : DaemonLog
  result : Option (Except Errno Task)
  answer : DaemonLog

/-- What the message loop does with the result of `GetTask`. -/
def afterTask (m : HdcpDaemon) : Option (Except Errno Task) → DaemonProg Unit
  | none | some (.error _) => return ()
  | some (.ok task) => m.answerTask task

lemma messageResponse_eq (m : HdcpDaemon) (rounds : ℕ) :
    m.messageResponse rounds = m.getTask rounds >>= afterTask m := by
  refine congrArg (m.getTask rounds >>= ·) (funext fun result => ?_)
  rcases result with _ | (e | task)
  · rfl
  · rfl
  · rfl

/-- Rounds of the message loop, one after the other. -/
inductive Turns (m : HdcpDaemon) (th : ι) (C : DaemonState ι → Turn → Prop) :
    DaemonState ι → List Turn → DaemonState ι → Prop where
  | nil (s : DaemonState ι) : Turns m th C s [] s
  | cons {s t u s' : DaemonState ι} {turn : Turn} {turns : List Turn} (hC : C s turn)
      (hget : (m.getTask turn.rounds).Runs turn.log turn.result)
      (hgetLeads : Leads (m.step th) turn.log s t)
      (hanswer : (afterTask m turn.result).Runs turn.answer ())
      (hanswerLeads : Leads (m.step th) turn.answer t u) (hrest : Turns m th C u turns s') :
      Turns m th C s (turn :: turns) s'

def Turn.Returns (turn : Turn) : Prop := ∃ task, turn.result = some (.ok task)

/-- No client is ready at the entry where `GetTask` begins, unless it is the only one that is
ready. -/
def Yields (m : HdcpDaemon) (th : ι) (s : DaemonState ι) (turn : Turn) : Prop :=
  AtFirstPoll m th (fun t => ∀ fd, fd ≠ m.fd → IsReady (t.sessionFdArray s.fdIndex) fd →
    ∀ i < sessionCountMax, i ≠ s.fdIndex → ∀ fd', ¬IsReady (t.sessionFdArray i) fd') turn.log s

/-- The interactions of some rounds of the message loop. -/
def logOf (turns : List Turn) : DaemonLog := turns.flatMap fun turn => turn.log ++ turn.answer

/-- The entry is ready at every `poll`, and is not served. -/
structure PassedOver (m : HdcpDaemon) (th : ι) (j fd : ℕ) (s : DaemonState ι)
    (turns : List Turn) : Prop where
  ready : AtEachPoll m th (fun t => IsReady (t.sessionFdArray j) fd) (logOf turns) s
  notServed : ∀ turn ∈ turns, ∀ e ∈ turn.log, ¬Serves m fd e.op

variable {m : HdcpDaemon} {th : ι} {P : DaemonState ι → Prop} {s s' t : DaemonState ι}
  {log log' : DaemonLog} {ret : Errno} {fd i j f d a todo rounds emptyIndex : ℕ}

lemma AtEachPoll.of_append (h : AtEachPoll m th P (log ++ log') s)
    (hleads : Leads (m.step th) log s t) : AtEachPoll m th P log s ∧ AtEachPoll m th P log' t := by
  induction log generalizing s with
  | nil =>
      obtain rfl : t = s := hleads
      exact ⟨trivial, h⟩
  | cons e log ih =>
      obtain ⟨t₁, hstep, hleads⟩ := hleads
      obtain ⟨hpoll, hrest⟩ := h t₁ hstep
      obtain ⟨hlog, hlog'⟩ := ih hrest hleads
      refine ⟨fun t₂ hstep₂ => ?_, hlog'⟩
      obtain rfl := Option.some.inj (hstep.symm.trans hstep₂)
      exact ⟨hpoll, hlog⟩

lemma AtEachPoll.append (h : AtEachPoll m th P log s)
    (h' : ∀ t, Leads (m.step th) log s t → AtEachPoll m th P log' t) :
    AtEachPoll m th P (log ++ log') s := by
  induction log generalizing s with
  | nil => exact h' s rfl
  | cons e log ih =>
      intro t hstep
      obtain ⟨hpoll, hrest⟩ := h t hstep
      exact ⟨hpoll, ih hrest fun u hu => h' u ⟨t, hstep, hu⟩⟩

lemma atEachPoll_of_no_poll (h : ∀ e ∈ log, ¬IsPoll e.op) : AtEachPoll m th P log s := by
  induction log generalizing s with
  | nil => trivial
  | cons e log ih =>
      refine fun t _ => ⟨fun hpoll => absurd hpoll (h e List.mem_cons_self), ih fun e' he' => ?_⟩
      exact h e' (List.mem_cons_of_mem e he')

/-! ### `m_FdIndex` -/

/-- The interactions that leave `m_FdIndex` alone. -/
def Steady (o : DaemonOp) : Prop := ∀ i, o ≠ .setFdIndex i

lemma step_steady {o : DaemonOp} {r : o.Ans} (ho : Steady o) (h : m.step th o r s = some s') :
    s'.fdIndex = s.fdIndex := by
  cases o
  case setFdIndex i => exact absurd rfl (ho i)
  case pollForEvent =>
    obtain rfl := Option.some.inj h
    cases (r : Except Errno (ℕ → ℕ)) <;> rfl
  case accept =>
    rcases Accept.step_accept h with ⟨e, -, rfl⟩ | ⟨fd, -, -, rfl⟩
    · rfl
    · rfl
  case read fd size =>
    obtain ⟨-, hs⟩ := Option.ite_none_right_eq_some.1 h
    rw [← Option.some.inj hs]
  case send fd data =>
    obtain ⟨-, hs⟩ := Option.ite_none_right_eq_some.1 h
    rw [← Option.some.inj hs]
  case callBackBegin =>
    obtain ⟨-, hs⟩ := Option.ite_none_right_eq_some.1 h
    rw [← Option.some.inj hs]
    rfl
  case getFdIndex | getSlot | getCallBackList => rw [(DaemonState.answer_eq_some.1 h).2]
  case freeSlot i =>
    rw [(DaemonState.answer_eq_some.1 h).2]
    rfl
  all_goals
    rw [← Option.some.inj h]
    try rfl

lemma leads_steady {α : Type} {p : DaemonProg α} {x : α} (hp : p.Uses Steady)
    (h : p.Runs log x) (hleads : Leads (m.step th) log s s') : s'.fdIndex = s.fdIndex := by
  refine hleads.keeps (I := fun t => t.fdIndex = s.fdIndex) (fun e he t t' hstep ht => ?_) rfl
  exact (step_steady (hp.of_runs h he) hstep).trans ht

lemma steady_of_serves (o : DaemonOp) (h : Daemon.Serves fd o) : Steady o := by
  intro i hi
  subst hi
  rcases h with hinternal | ⟨n, hread⟩ | ⟨data, hsend⟩
  · exact hinternal.elim
  · exact absurd hread (by simp)
  · exact absurd hsend (by simp)

lemma steady_op {o : DaemonOp} (h : Steady o) : (Prog.op (S := daemonSig) o).Uses Steady :=
  Prog.uses_op.2 h

lemma steady_of_inTask (o : DaemonOp) (h : InTask o) : Steady o := by
  rintro i rfl
  exact absurd h (by simp [InTask, DaemonOp.inTask])

lemma uses_afterTask (result : Option (Except Errno Task)) : (afterTask m result).Uses Steady := by
  rcases result with _ | (e | task)
  · trivial
  · trivial
  · by_cases hcommand : task.req.command = HdcpApi.createCallBack
    · refine Prog.Uses.ite (fun _ => serves_respond.mono steady_of_serves) fun _ => ?_
      have hsteady : (m.dispatchCommand task.req task.appId).Uses Steady := by
        rw [dispatchCommand_createCallBack hcommand]
        refine Prog.Uses.bind (steady_op (by simp [Steady])) fun _ => ?_
        refine Prog.Uses.bind (steady_op (by simp [Steady])) fun _ => ?_
        refine Prog.Uses.bind (steady_op (by simp [Steady])) fun _ => ?_
        exact Prog.Uses.bind (steady_op (by simp [Steady])) fun _ => trivial
      refine hsteady.bind ?_
      rintro ⟨data, sendResponse⟩
      exact Prog.Uses.ite (fun _ => serves_respond.mono steady_of_serves) fun _ => trivial
    · exact (serves_answerTask hcommand).mono steady_of_serves

/-! ### One pass over the entries -/

/-- The listening socket is looked after, and the entries in use stay as they are. -/
lemma kept_acceptLoop (h : (m.acceptLoop rounds emptyIndex).Runs log ret)
    (hleads : Leads (m.step th) log s s') (hused : Accept.UsedBelow s emptyIndex)
    (hle : emptyIndex ≤ sessionCountMax) (hj : (s.sessionFdArray j).fd ≠ none) :
    s'.sessionFdArray j = s.sessionFdArray j := by
  induction rounds generalizing s emptyIndex log with
  | zero =>
      obtain ⟨rfl, -⟩ := runs_ret.1 h
      rw [show s' = s from hleads]
  | succ rounds ih =>
      rcases Accept.runs_acceptLoop h hleads hused hle with
        ⟨e, -, -, harray, -⟩ | ⟨-, -, harray, -⟩ |
          ⟨fd, i, free, l, l', t, hround, hi, hrest, ht, rfl⟩
      · rw [harray]
      · rw [harray]
      · have hne : j ≠ i := by
          rintro rfl
          have hmem : j ∈ Accept.freeEntries s := by simp [hround.entries]
          exact hj (Accept.mem_freeEntries.1 hmem).2
        have hother := hround.others j hne
        rw [ih hrest ht hround.used hi.le (by rwa [hother]), hother]

/-- A request is read from the client. -/
lemma reads_serveSlot {task : Task} (h : (m.serveSlot i fd).Runs log task) :
    ∃ e ∈ log, ∃ n, e.op = .read fd n := by
  obtain ⟨n, hn⟩ := Nat.exists_eq_succ_of_ne_zero (layout_size_pos m.layout).ne'
  obtain ⟨r, l, l', hget, -, rfl⟩ := runs_bind.1 h
  obtain ⟨r', l₁, l₂, hread, -, rfl⟩ := runs_bind.1 hget
  have hloop : (readLoop (Daemon.read fd) (n + 1) (n + 1) []).Runs l₁ r' := by
    rw [readData, hn] at hread
    exact hread
  obtain ⟨hzero, -⟩ | ⟨-, hsome⟩ := runs_ite.1 hloop
  · exact absurd hzero (Nat.succ_ne_zero n)
  · obtain ⟨r₁, l₃, l₄, hop, -, rfl⟩ := runs_bind.1 hsome
    obtain rfl := runs_op.1 hop
    exact ⟨⟨.read fd (n + 1), r₁⟩, by simp, n + 1, rfl⟩

/-- The listening socket is asked for a connection. -/
lemma accepts_acceptLoop (h : m.processNewConnections.Runs log ret) :
    ∃ e ∈ log, e.op = .accept := by
  obtain ⟨r, l, l', hop, -, rfl⟩ := runs_bind.1 h
  obtain rfl := runs_op.1 hop
  exact ⟨⟨.accept, r⟩, by simp, rfl⟩

/-- A client is ready at the entry. -/
def ClientReady (m : HdcpDaemon) (slot : PollFd) : Prop := ∃ fd, fd ≠ m.fd ∧ IsReady slot fd

/-- What a pass from the entry `f + a` on ends with, at the entry `i`, when the entry `f + d` is
ready and is not served: a client before it is served, or the pass has met no client. -/
def PassEnd (m : HdcpDaemon) (s : DaemonState ι) (f a d i : ℕ) : Option Task → Prop
  | none => d = 5 ∧ i = (f + d) % sessionCountMax
  | some _ => ∃ e, a ≤ e ∧ e < d ∧ i = (f + e) % sessionCountMax ∧
      (e = a → ClientReady m (s.sessionFdArray ((f + a) % sessionCountMax)))

lemma PassEnd.of_succ {task : Option Task} (h : PassEnd m t f (a + 1) d i task) :
    PassEnd m s f a d i task := by
  cases task with
  | none => exact h
  | some task =>
      obtain ⟨e, hae, hed, hi, -⟩ := h
      exact ⟨e, Nat.le_of_succ_le hae, hed, hi, fun heq => absurd heq (Nat.ne_of_gt hae)⟩

lemma runs_getTaskLoop {i' : ℕ} {task : Option Task}
    (h : (m.getTaskLoop f todo ((f + a) % sessionCountMax)).Runs log (.ok (i', task)))
    (hleads : Leads (m.step th) log s s') (htodo : a + todo = 5) (hd : d < 6)
    (had : a ≤ d) (hready : IsReady (s.sessionFdArray ((f + d) % sessionCountMax)) fd)
    (hnot : ∀ e ∈ log, ¬Serves m fd e.op) : PassEnd m s f a d i' task := by
  induction todo generalizing a log s with
  | zero =>
      obtain ⟨rfl, hret⟩ := runs_ret.1 h
      obtain ⟨rfl, rfl⟩ := Prod.mk.inj (Except.ok.inj hret)
      obtain rfl : a = 5 := htodo
      have hd5 : d = 5 := by omega
      exact ⟨hd5, by rw [hd5]⟩
  | succ todo ih =>
      -- the pass goes on behind an entry that is not the one in question
      have hnext {l : DaemonLog} {t : DaemonState ι} (hne : a ≠ d)
          (hrest : (m.getTaskLoop f todo (((f + a) % sessionCountMax + 1) % sessionCountMax)).Runs l
            (.ok (i', task))) (ht : Leads (m.step th) l t s')
          (hsame : t.sessionFdArray ((f + d) % sessionCountMax) =
            s.sessionFdArray ((f + d) % sessionCountMax)) (hsub : ∀ e ∈ l, e ∈ log) :
          PassEnd m s f a d i' task := by
        rw [Nat.mod_add_mod, Nat.add_assoc] at hrest
        exact (ih hrest ht (by omega) (by omega) (by rwa [hsame])
          fun e he => hnot e (hsub e he)).of_succ
      obtain ⟨-, hret⟩ | ⟨-, hlook⟩ := runs_ite.1 h
      · exact absurd (runs_ret.1 hret).2 (by simp)
      obtain ⟨slot, l, l', hget, hcase, rfl⟩ := runs_bind.1 hlook
      obtain rfl := runs_op.1 hget
      obtain ⟨t, hstep, hleads'⟩ := hleads
      obtain ⟨rfl, rfl⟩ := DaemonState.answer_eq_some.1 hstep
      have hleads' : Leads (m.step th) l' t s' := hleads'
      have hmem (e : Event daemonSig) (he : e ∈ l') : e ∈ _ := List.mem_append_right
        [⟨.getSlot ((f + a) % sessionCountMax), t.sessionFdArray ((f + a) % sessionCountMax)⟩] he
      rcases hslot : (t.sessionFdArray ((f + a) % sessionCountMax)).fd with _ | fd'
      · simp only [hslot] at hcase
        refine hnext ?_ hcase hleads' rfl hmem
        rintro rfl
        exact absurd (hslot.symm.trans hready.1) (by simp)
      simp only [hslot] at hcase
      obtain ⟨hidle, hcase₁⟩ | ⟨hevent, hcase₁⟩ := runs_ite.1 hcase
      · refine hnext ?_ hcase₁ hleads' rfl hmem
        rintro rfl
        rcases hidle with hzero | hnone
        · have hbits := hready.2
          rw [hzero] at hbits
          exact absurd hbits (by simp)
        · exact hready.2.elim (fun hin => hin hnone.1) fun hhup => hhup hnone.2
      obtain ⟨hlistener, hcase₂⟩ | ⟨hclient, hcase₂⟩ := runs_ite.1 hcase₁
      · obtain ⟨ret, l₁, l₂, haccept, hcase₃, rfl⟩ := runs_bind.1 hcase₂
        obtain ⟨t₁, ht₁, ht₂⟩ := leads_append.1 hleads'
        obtain ⟨-, hret⟩ | ⟨-, hrest⟩ := runs_ite.1 hcase₃
        · exact absurd (runs_ret.1 hret).2 (by simp)
        have hinUse : (t.sessionFdArray ((f + d) % sessionCountMax)).fd ≠ none := by
          rw [hready.1]
          simp
        refine hnext ?_ hrest ht₂ ?_ fun e he => hmem e (List.mem_append_right l₁ he)
        · rintro rfl
          obtain rfl : fd' = fd := Option.some.inj (hslot.symm.trans hready.1)
          obtain ⟨e, he, hop⟩ := accepts_acceptLoop haccept
          refine hnot e (hmem e (List.mem_append_left l₂ he)) ?_
          rw [hop]
          exact hlistener.symm
        · exact kept_acceptLoop haccept ht₁ (fun i hi => absurd hi (Nat.not_lt_zero i))
            (Nat.zero_le _) hinUse
      · obtain ⟨served, l₁, l₂, hserve, hlast, rfl⟩ := runs_bind.1 hcase₂
        obtain ⟨rfl, hret⟩ := runs_ret.1 hlast
        obtain ⟨rfl, rfl⟩ := Prod.mk.inj (Except.ok.inj hret)
        have hne : a ≠ d := by
          rintro rfl
          obtain rfl : fd' = fd := Option.some.inj (hslot.symm.trans hready.1)
          obtain ⟨e, he, n, hop⟩ := reads_serveSlot hserve
          refine hnot e (hmem e (List.mem_append_left [] he)) ?_
          rw [hop]
          exact rfl
        refine ⟨a, Nat.le_refl a, lt_of_le_of_ne had hne, rfl, fun _ => ⟨fd', ?_, hslot, ?_⟩⟩
        · exact fun heq => hclient heq.symm
        · by_contra hbits
          rw [not_or, not_not, not_not] at hbits
          exact hevent (.inr hbits)

/-- The pass ends at an entry of the array. -/
lemma index_getTaskLoop {i' : ℕ} {task : Option Task} (hi : i < sessionCountMax)
    (h : (m.getTaskLoop f todo i).Runs log (.ok (i', task))) : i' < sessionCountMax := by
  induction todo generalizing i log with
  | zero =>
      obtain ⟨-, hret⟩ := runs_ret.1 h
      obtain ⟨rfl, -⟩ := Prod.mk.inj (Except.ok.inj hret)
      exact hi
  | succ todo ih =>
      have hnext {l : DaemonLog}
          (hrest : (m.getTaskLoop f todo ((i + 1) % sessionCountMax)).Runs l (.ok (i', task))) :
          i' < sessionCountMax := ih (Nat.mod_lt _ (by decide)) hrest
      obtain ⟨-, hret⟩ | ⟨-, hlook⟩ := runs_ite.1 h
      · exact absurd (runs_ret.1 hret).2 (by simp)
      obtain ⟨slot, l, l', -, hcase, rfl⟩ := runs_bind.1 hlook
      rcases hslot : slot.fd with _ | fd
      · simp only [hslot] at hcase
        exact hnext hcase
      simp only [hslot] at hcase
      obtain ⟨-, hcase₁⟩ | ⟨-, hcase₁⟩ := runs_ite.1 hcase
      · exact hnext hcase₁
      obtain ⟨-, hcase₂⟩ | ⟨-, hcase₂⟩ := runs_ite.1 hcase₁
      · obtain ⟨ret, l₁, l₂, -, hcase₃, rfl⟩ := runs_bind.1 hcase₂
        obtain ⟨-, hret⟩ | ⟨-, hrest⟩ := runs_ite.1 hcase₃
        · exact absurd (runs_ret.1 hret).2 (by simp)
        · exact hnext hrest
      · obtain ⟨task, l₁, l₂, -, hlast, rfl⟩ := runs_bind.1 hcase₂
        obtain ⟨-, hret⟩ := runs_ret.1 hlast
        obtain ⟨rfl, -⟩ := Prod.mk.inj (Except.ok.inj hret)
        exact hi

/-! ### One call -/

/-- A round of the loop of `GetTask`: it fails, or makes a pass from `m_FdIndex` on and leaves
`m_FdIndex` where the pass has ended. -/
lemma runs_getTaskRound {r : Unit ⊕ Except Errno Task} (h : m.getTaskRound.Runs log r)
    (hleads : Leads (m.step th) log s s') :
    (∃ e, r = .inr (.error e) ∧ s'.fdIndex = s.fdIndex) ∨
    ∃ revents t t' l i task, log = [⟨.pollForEvent, .ok revents⟩, ⟨.getFdIndex, s.fdIndex⟩] ++
        (l ++ [⟨.setFdIndex i, ()⟩]) ∧ m.step th .pollForEvent (.ok revents) s = some t ∧
      (m.getTaskLoop s.fdIndex (sessionCountMax - 1) s.fdIndex).Runs l (.ok (i, task)) ∧
      Leads (m.step th) l t t' ∧ s'.fdIndex = i ∧
      r = match task with
        | none => .inl ()
        | some task => .inr (.ok task) := by
  obtain ⟨revents, l₁, l₂, hpoll, hscan, rfl⟩ := runs_bind.1 h
  obtain rfl := runs_op.1 hpoll
  obtain ⟨t, hstep, hleads₂⟩ := hleads
  have hindex : t.fdIndex = s.fdIndex := step_steady (by simp [Steady]) hstep
  rcases revents with e | revents
  · obtain ⟨rfl, rfl⟩ := runs_ret.1 hscan
    obtain rfl : s' = t := hleads₂
    exact .inl ⟨e, rfl, hindex⟩
  obtain ⟨f, l₃, l₄, hget, hpass, rfl⟩ := runs_bind.1 hscan
  obtain rfl := runs_op.1 hget
  obtain ⟨t₁, hstep₁, hleads₄⟩ := hleads₂
  obtain ⟨rfl, rfl⟩ := DaemonState.answer_eq_some.1 hstep₁
  obtain ⟨x, l₅, l₆, hloop, hend, rfl⟩ := runs_bind.1 hpass
  obtain ⟨t₂, ht₂, hleads₆⟩ := leads_append.1 (show Leads _ (l₅ ++ l₆) _ s' from hleads₄)
  rw [hindex] at hloop
  rcases x with e | ⟨i, task⟩
  · obtain ⟨rfl, rfl⟩ := runs_ret.1 hend
    obtain rfl : s' = t₂ := hleads₆
    have hsteady := leads_steady ((uses_getTaskLoop _ _ _).mono steady_of_inTask) hloop ht₂
    exact .inl ⟨e, rfl, hsteady.trans hindex⟩
  · obtain ⟨_, l₇, l₈, hset, hlast, rfl⟩ := runs_bind.1 hend
    obtain rfl := runs_op.1 hset
    obtain ⟨t₃, hstep₃, hleads₈⟩ := hleads₆
    obtain rfl := Option.some.inj hstep₃
    refine .inr ⟨revents, _, t₂, l₅, i, task, ?_, hstep, hloop, ht₂, ?_, ?_⟩
    · cases task with
      | none =>
          obtain ⟨rfl, -⟩ := runs_ret.1 hlast
          rw [hindex]
          rfl
      | some task =>
          obtain ⟨rfl, -⟩ := runs_ret.1 hlast
          rw [hindex]
          rfl
    · cases task with
      | none =>
          obtain ⟨rfl, -⟩ := runs_ret.1 hlast
          rw [show s' = _ from hleads₈]
      | some task =>
          obtain ⟨rfl, -⟩ := runs_ret.1 hlast
          rw [show s' = _ from hleads₈]
    · cases task with
      | none => exact (runs_ret.1 hlast).2
      | some task => exact (runs_ret.1 hlast).2

/-- `m_FdIndex` stays in the array. -/
lemma index_getTask {result : Option (Except Errno Task)}
    (h : (m.getTask rounds).Runs log result) (hleads : Leads (m.step th) log s s')
    (hf : s.fdIndex < sessionCountMax) : s'.fdIndex < sessionCountMax := by
  induction rounds generalizing log s with
  | zero =>
      obtain ⟨rfl, -⟩ := runs_ret.1 h
      rwa [show s' = s from hleads]
  | succ rounds ih =>
      obtain ⟨r, l, l', hround, hrest, rfl⟩ := runs_bind.1 h
      obtain ⟨t, ht, ht'⟩ := leads_append.1 hleads
      have hindex : t.fdIndex < sessionCountMax := by
        rcases runs_getTaskRound hround ht with
          ⟨e, -, hsame⟩ | ⟨revents, t₁, t₂, l₁, i, task, -, -, hloop, -, hindex, -⟩
        · rwa [hsame]
        · rw [hindex]
          exact index_getTaskLoop hf hloop
      rcases r with _ | result
      · exact ih hrest ht' hindex
      · obtain ⟨rfl, -⟩ := runs_ret.1 hrest
        rwa [show s' = t from ht']

/-- The entry is ready after each `poll` of the log, and is not served. -/
structure Waits (m : HdcpDaemon) (th : ι) (j fd : ℕ) (log : DaemonLog) (s : DaemonState ι) :
    Prop where
  ready : AtEachPoll m th (fun t => IsReady (t.sessionFdArray j) fd) log s
  notServed : ∀ e ∈ log, ¬Serves m fd e.op

lemma Waits.of_append (h : Waits m th j fd (log ++ log') s)
    (hleads : Leads (m.step th) log s t) : Waits m th j fd log s ∧ Waits m th j fd log' t := by
  obtain ⟨hready, hready'⟩ := h.ready.of_append hleads
  exact ⟨⟨hready, fun e he => h.notServed e (List.mem_append_left log' he)⟩,
    ⟨hready', fun e he => h.notServed e (List.mem_append_right log he)⟩⟩

/-- A pass of a call during which the entry at the distance `d` waits. -/
lemma Waits.passEnd {revents : ℕ → ℕ} {l rest : DaemonLog} {task : Option Task}
    (h : Waits m th ((s.fdIndex + d) % sessionCountMax) fd
      ([⟨.pollForEvent, .ok revents⟩, ⟨.getFdIndex, s.fdIndex⟩] ++ (l ++ rest)) s)
    (hf : s.fdIndex < sessionCountMax) (hd : d < 6)
    (hstep : m.step th .pollForEvent (.ok revents) s = some t)
    (hloop : (m.getTaskLoop s.fdIndex (sessionCountMax - 1) s.fdIndex).Runs l (.ok (i, task)))
    (hleads : Leads (m.step th) l t s') :
    IsReady (t.sessionFdArray ((s.fdIndex + d) % sessionCountMax)) fd ∧
      PassEnd m t s.fdIndex 0 d i task := by
  have hready := (h.ready t hstep).1 rfl
  refine ⟨hready, ?_⟩
  have hstart : (s.fdIndex + 0) % sessionCountMax = s.fdIndex := Nat.mod_eq_of_lt hf
  have hpass : (m.getTaskLoop s.fdIndex 5 ((s.fdIndex + 0) % sessionCountMax)).Runs l
      (.ok (i, task)) := by rwa [hstart]
  refine runs_getTaskLoop hpass hleads rfl hd (Nat.zero_le d) hready fun e he => ?_
  exact h.notServed e (by simp [he])

/-- A call does not return while the entry it begins with is ready and waits. -/
lemma not_waits_at_index {task : Task} (h : (m.getTask rounds).Runs log (some (.ok task)))
    (hleads : Leads (m.step th) log s s') (hf : s.fdIndex < sessionCountMax)
    (hwaits : Waits m th s.fdIndex fd log s) : False := by
  cases rounds with
  | zero => exact absurd (runs_ret.1 h).2 (by simp)
  | succ rounds =>
      obtain ⟨r, l, l', hround, hrest, rfl⟩ := runs_bind.1 h
      obtain ⟨t, ht, -⟩ := leads_append.1 hleads
      rcases runs_getTaskRound hround ht with
        ⟨e, rfl, -⟩ | ⟨revents, t₁, t₂, l₁, i, task', rfl, hstep, hloop, hl₁, -, -⟩
      · exact absurd (runs_ret.1 hrest).2 (by simp)
      · have hself : (s.fdIndex + 0) % sessionCountMax = s.fdIndex := Nat.mod_eq_of_lt hf
        have hfirst := (hwaits.of_append ht).1
        have hhere : Waits m th ((s.fdIndex + 0) % sessionCountMax) fd
            ([⟨.pollForEvent, .ok revents⟩, ⟨.getFdIndex, s.fdIndex⟩] ++
              (l₁ ++ [⟨.setFdIndex i, ()⟩])) s := by
          rw [hself]
          exact hfirst
        obtain ⟨-, hend⟩ := hhere.passEnd hf (by decide) hstep hloop hl₁
        cases task' with
        | none => exact absurd hend.1 (by decide)
        | some task' =>
            obtain ⟨e, -, he, -⟩ := hend
            exact absurd he (Nat.not_lt_zero e)

/-- Each call brings `m_FdIndex` closer to an entry that waits. -/
lemma closer_getTask {task : Task} (h : (m.getTask rounds).Runs log (some (.ok task)))
    (hleads : Leads (m.step th) log s s') (hf : s.fdIndex < sessionCountMax) (hd : d < 6)
    (hwaits : Waits m th ((s.fdIndex + d) % sessionCountMax) fd log s)
    (hyields : AtFirstPoll m th (fun t => ∀ fd, fd ≠ m.fd →
      IsReady (t.sessionFdArray s.fdIndex) fd → ∀ i < sessionCountMax, i ≠ s.fdIndex →
        ∀ fd', ¬IsReady (t.sessionFdArray i) fd') log s) :
    ∃ d' < d, (s'.fdIndex + d') % sessionCountMax = (s.fdIndex + d) % sessionCountMax := by
  cases rounds with
  | zero => exact absurd (runs_ret.1 h).2 (by simp)
  | succ rounds =>
      obtain ⟨r, l, l', hround, hrest, rfl⟩ := runs_bind.1 h
      obtain ⟨t, ht, ht'⟩ := leads_append.1 hleads
      rcases runs_getTaskRound hround ht with
        ⟨e, rfl, -⟩ | ⟨revents, t₁, t₂, l₁, i, task', rfl, hstep, hloop, hl₁, hindex, rfl⟩
      · exact absurd (runs_ret.1 hrest).2 (by simp)
      obtain ⟨hfirst, hsecond⟩ := hwaits.of_append ht
      obtain ⟨hready, hend⟩ := hfirst.passEnd hf hd hstep hloop hl₁
      cases task' with
      | none =>
          -- the pass has gone by, and the next one begins with the entry
          obtain ⟨rfl, hi⟩ := hend
          rw [← hi, ← hindex] at hsecond
          refine (not_waits_at_index hrest ht' ?_ hsecond).elim
          rw [hindex, hi]
          exact Nat.mod_lt _ (by decide)
      | some task' =>
          obtain ⟨rfl, -⟩ := runs_ret.1 hrest
          obtain ⟨e, -, hed, hi, hclient⟩ := hend
          have hpos : e ≠ 0 := by
            rintro rfl
            obtain ⟨fd', hfd', hfront⟩ := hclient rfl
            rw [Nat.add_zero, Nat.mod_eq_of_lt hf] at hfront
            have hlt : 0 < sessionCountMax := by decide
            refine (hyields t₁ hstep).1 rfl fd' hfd' hfront _ (Nat.mod_lt _ hlt) ?_ fd hready
            intro heq
            have hlt : s.fdIndex < 6 := hf
            have hmod : (s.fdIndex + d) % 6 = s.fdIndex := heq
            omega
          refine ⟨d - e, by omega, ?_⟩
          rw [show s' = t from ht', hindex, hi, Nat.mod_add_mod]
          congr 1
          omega

/-! ### Runs -/

variable {turn : Turn} {turns : List Turn} {C : DaemonState ι → Turn → Prop}

lemma Turns.index (h : Turns m th C s turns s') (hf : s.fdIndex < sessionCountMax) :
    s'.fdIndex < sessionCountMax := by
  induction h with
  | nil s => exact hf
  | cons hC hget hgetLeads hanswer hanswerLeads hrest ih =>
      refine ih ?_
      rw [leads_steady (uses_afterTask _) hanswer hanswerLeads]
      exact index_getTask hget hgetLeads hf

lemma PassedOver.of_cons {u : DaemonState ι} (h : PassedOver m th j fd s (turn :: turns))
    (hget : Leads (m.step th) turn.log s t) (hanswer : Leads (m.step th) turn.answer t u) :
    Waits m th j fd turn.log s ∧ PassedOver m th j fd u turns := by
  have hlog : logOf (turn :: turns) = turn.log ++ (turn.answer ++ logOf turns) := by
    simp [logOf]
  have hready := h.ready
  rw [hlog] at hready
  obtain ⟨hfirst, hrest⟩ := hready.of_append hget
  refine ⟨⟨hfirst, h.notServed turn List.mem_cons_self⟩, (hrest.of_append hanswer).2, ?_⟩
  exact fun turn' hturn' => h.notServed turn' (List.mem_cons_of_mem turn hturn')

/-- An entry is passed over in fewer calls than it is away from `m_FdIndex`. -/
lemma Turns.length_le (h : Turns m th (Yields m th) s turns s') (hf : s.fdIndex < sessionCountMax)
    (hd : d < 6) (hreturns : ∀ turn ∈ turns, turn.Returns)
    (hpassed : PassedOver m th ((s.fdIndex + d) % sessionCountMax) fd s turns) :
    turns.length ≤ d := by
  induction h generalizing d with
  | nil s => exact Nat.zero_le d
  | @cons s t u s' turn turns hC hget hgetLeads hanswer hanswerLeads hrest ih =>
      obtain ⟨hwaits, hpassed'⟩ := hpassed.of_cons hgetLeads hanswerLeads
      obtain ⟨task, hresult⟩ := hreturns turn List.mem_cons_self
      rw [hresult] at hget
      obtain ⟨d', hd', hsame⟩ := closer_getTask hget hgetLeads hf hd hwaits hC
      have hindex : u.fdIndex = t.fdIndex := leads_steady (uses_afterTask _) hanswer hanswerLeads
      rw [← hsame, ← hindex] at hpassed'
      have hlen := ih (hindex ▸ index_getTask hget hgetLeads hf) (by omega)
        (fun turn' hturn' => hreturns turn' (List.mem_cons_of_mem turn hturn')) hpassed'
      rw [List.length_cons]
      omega

/-- In the runs in which every call yields, no entry is passed over in as many calls as there are
entries, and `m_FdIndex` stays in the array. -/
theorem never_passed_over (m : HdcpDaemon) (th : ι) (past window : List Turn)
    (s s' : DaemonState ι) (hpast : Turns m th (Yields m th) m.initState past s)
    (hwindow : Turns m th (Yields m th) s window s') :
    s.fdIndex < sessionCountMax ∧
      (window.length = sessionCountMax → (∀ turn ∈ window, turn.Returns) →
        ∀ j < sessionCountMax, ∀ fd, ¬PassedOver m th j fd s window) := by
  have hf : s.fdIndex < sessionCountMax := hpast.index (show 0 < 6 by decide)
  refine ⟨hf, fun hlength hreturns j hj fd hpassed => ?_⟩
  have hdist : (s.fdIndex + (j + 6 - s.fdIndex) % 6) % sessionCountMax = j := by
    have hj : j < 6 := hj
    have hf : s.fdIndex < 6 := hf
    rw [Nat.add_mod_mod, Nat.add_sub_cancel' (by omega)]
    omega
  rw [← hdist] at hpassed
  have hle := hwindow.length_le hf (Nat.mod_lt _ (by decide)) hreturns hpassed
  have hlt : (j + 6 - s.fdIndex) % 6 < 6 := Nat.mod_lt _ (by decide)
  have hlength : window.length = 6 := hlength
  omega

end

/-! ### Three clients -/

/-- `poll` reports the entries that are ready. -/
def reports (ready : List ℕ) (i : ℕ) : ℕ := if i ∈ ready then pollIn else 0

def zeros : List UInt8 := List.replicate 100 0

def zeroTask (fd : ℕ) : Task := ⟨fd, socketDataLayout.decode zeros⟩

/-- What the daemon answers to a message that is all zero. -/
def zeroResponse : SocketData :=
  { socketDataLayout.decode zeros with
    status := HdcpStatus.errorInvalidParameter
    size := usualDaemon.sizeofSocketData }

/-- The client at the entry `i` has the descriptor `6 + i`. -/
def slotEvent (i revents : ℕ) : Event daemonSig := ⟨.getSlot i, ⟨some (6 + i), revents⟩⟩

/-- `GetTask` begins at the entry `i`, passes some entries that are not ready and serves the
client at the entry `j`.  The client sends a message, and takes no answer. -/
def serveTurn (ready : List ℕ) (i : ℕ) (passed : List ℕ) (j : ℕ) : Turn where
  rounds := 1
  log := [⟨.pollForEvent, .ok (reports ready)⟩, ⟨.getFdIndex, i⟩] ++
    (passed.map (slotEvent · 0) ++
      [slotEvent j pollIn, ⟨.read (6 + j) 100, .ok zeros⟩, ⟨.setFdIndex j, ()⟩])
  result := some (.ok (zeroTask (6 + j)))
  answer := [⟨.send (6 + j) (socketDataLayout.encode zeroResponse), .error .eproto⟩,
    ⟨.portManagerHandleAppExit (6 + j), ()⟩]

/-- The clients have connected, and the one at the entry `i` was served last. -/
structure Connected (i : ℕ) (s : DaemonState Unit) : Prop where
  fdIndex : s.fdIndex = i
  clients : ∀ k ∈ [1, 2, 3], (s.sessionFdArray k).fd = some (6 + k)

section

variable {s s' : DaemonState Unit} {ready passed : List ℕ} {C : DaemonState Unit → Turn → Prop}
  {turns : List Turn} {i j k : ℕ}

lemma runs_answer (ready passed : List ℕ) (i j : ℕ) :
    (afterTask usualDaemon (serveTurn ready i passed j).result).Runs
      (serveTurn ready i passed j).answer () :=
  .call _ _ _ (.call _ _ _ (.ret _))

lemma Connected.slot (h : Connected i s) (ready : List ℕ) (hk : k ∈ [1, 2, 3]) :
    (s.poll (.ok (reports ready))).sessionFdArray k = ⟨some (6 + k), reports ready k⟩ := by
  simp [DaemonState.poll, h.clients k hk]

/-- The clients are still there after the turn. -/
lemma Connected.turn (h : Connected i s) (hpassed : ∀ k ∈ passed, k ∈ [1, 2, 3] ∧ k ∉ ready)
    (hj : j ∈ [1, 2, 3]) (hready : j ∈ ready) :
    ∃ t u, Leads (usualDaemon.step ()) (serveTurn ready i passed j).log s t ∧
      Leads (usualDaemon.step ()) (serveTurn ready i passed j).answer t u ∧ Connected j u := by
  let t := s.poll (.ok (reports ready))
  have hlooks : Leads (usualDaemon.step ()) (passed.map (slotEvent · 0)) t t := by
    clear hready hj
    induction passed with
    | nil => rfl
    | cons k passed ih =>
        obtain ⟨hk, hidle⟩ := hpassed k List.mem_cons_self
        have hslot : t.sessionFdArray k = ⟨some (6 + k), 0⟩ :=
          (h.slot ready hk).trans (by simp [reports, hidle])
        refine ⟨t, DaemonState.answer_eq_some.2 ⟨hslot.symm, rfl⟩, ih fun k' hk' => ?_⟩
        exact hpassed k' (List.mem_cons_of_mem k hk')
  have hslot : t.sessionFdArray j = ⟨some (6 + j), pollIn⟩ :=
    (h.slot ready hj).trans (by simp [reports, hready])
  have hclients : Connected j { t with fdIndex := j } :=
    ⟨rfl, fun k hk => congrArg PollFd.fd (h.slot ready hk)⟩
  refine ⟨{ t with fdIndex := j }, { t with fdIndex := j },
    leads_append.2 ⟨t, ?_, leads_append.2 ⟨t, hlooks, ?_⟩⟩, ?_, hclients⟩
  · exact ⟨t, rfl, t, DaemonState.answer_eq_some.2 ⟨h.fdIndex.symm, rfl⟩, rfl⟩
  · exact ⟨t, DaemonState.answer_eq_some.2 ⟨hslot.symm, rfl⟩, t, rfl, _, rfl, rfl⟩
  · exact ⟨_, rfl, _, rfl, rfl⟩

/-- No client is ready where the pass begins, or no other one is. -/
lemma Connected.yields (h : Connected i s) (hready : i ∉ ready ∨ ready = [i]) :
    Yields usualDaemon () s (serveTurn ready i passed j) := by
  intro t hstep
  refine ⟨fun _ fd _ hfront k _ hk fd' hother => ?_, fun hpoll => absurd rfl hpoll⟩
  obtain rfl := Option.some.inj hstep
  rw [h.fdIndex] at hfront hk
  have hreported (k : ℕ) (hk : k ∉ ready) :
      ((s.poll (.ok (reports ready))).sessionFdArray k).revents = 0 := by
    simp [DaemonState.poll, reports, hk]
  rcases hready with hidle | rfl
  · have hbits := hfront.2
    rw [hreported i hidle] at hbits
    exact absurd hbits (by simp)
  · have hbits := hother.2
    rw [hreported k (by simpa using hk)] at hbits
    exact absurd hbits (by simp)

/-- The turns can be taken, and `poll` always reports the entry `k`. -/
def Goes (C : DaemonState Unit → Turn → Prop) (k i : ℕ) (turns : List Turn) : Prop :=
  ∀ s, Connected i s → (∃ s', Turns usualDaemon () C s turns s') ∧
    AtEachPoll usualDaemon () (fun t => IsReady (t.sessionFdArray k) (6 + k)) (logOf turns) s

lemma goes_nil : Goes C k i [] := fun s _ => ⟨⟨s, .nil s⟩, trivial⟩

lemma Goes.cons (h : Goes C k j turns)
    (hC : ∀ s, Connected i s → C s (serveTurn ready i passed j))
    (hruns : (usualDaemon.getTask 1).Runs (serveTurn ready i passed j).log
      (serveTurn ready i passed j).result)
    (hpassed : ∀ k ∈ passed, k ∈ [1, 2, 3] ∧ k ∉ ready) (hj : j ∈ [1, 2, 3]) (hready : j ∈ ready)
    (hk : k ∈ [1, 2, 3]) (hkready : k ∈ ready) :
    Goes C k i (serveTurn ready i passed j :: turns) := by
  intro s hs
  obtain ⟨t, u, hget, hanswer, hu⟩ := hs.turn hpassed hj hready
  obtain ⟨⟨s', hturns⟩, hpolls⟩ := h u hu
  refine ⟨⟨s', .cons (hC s hs) hruns hget (runs_answer ready passed i j) hanswer hturns⟩, ?_⟩
  rw [logOf, List.flatMap_cons]
  refine AtEachPoll.append (AtEachPoll.append ?_ fun t _ => ?_) fun u' hu' => ?_
  · refine fun t hstep => ⟨fun _ => ?_, atEachPoll_of_no_poll ?_⟩
    · obtain rfl := Option.some.inj hstep
      have hslot : (s.poll (.ok (reports ready))).sessionFdArray k = ⟨some (6 + k), pollIn⟩ :=
        (hs.slot ready hk).trans (by simp [reports, hkready])
      rw [hslot]
      exact ⟨rfl, .inl (by decide : pollIn &&& pollIn ≠ 0)⟩
    · intro e he
      rcases List.mem_cons.1 he with rfl | he
      · exact fun hpoll => absurd hpoll (by simp [IsPoll])
      rcases List.mem_append.1 (show e ∈ passed.map (slotEvent · 0) ++ _ from he) with he | he
      · obtain ⟨k', -, rfl⟩ := List.mem_map.1 he
        simp [IsPoll, slotEvent]
      · simp only [List.mem_cons, List.not_mem_nil, or_false] at he
        rcases he with rfl | rfl | rfl
        all_goals simp [IsPoll, slotEvent]
  · exact atEachPoll_of_no_poll (by simp [IsPoll, serveTurn])
  · obtain rfl := (leads_append.2 ⟨t, hget, hanswer⟩).unique hu'
    exact hpolls

/-- One client is served again and again. -/
lemma goes_replicate (n : ℕ) (hC : ∀ s, Connected i s → C s (serveTurn ready i [] i))
    (hruns : (usualDaemon.getTask 1).Runs (serveTurn ready i [] i).log
      (serveTurn ready i [] i).result)
    (hi : i ∈ [1, 2, 3]) (hready : i ∈ ready) (hk : k ∈ [1, 2, 3]) (hkready : k ∈ ready) :
    Goes C k i (List.replicate n (serveTurn ready i [] i)) := by
  induction n with
  | zero => exact goes_nil
  | succ n ih => exact ih.cons hC hruns (by simp) hi hready hk hkready

lemma returns_serveTurn : (serveTurn ready i passed j).Returns := ⟨zeroTask (6 + j), rfl⟩

end

/-- The three clients connect, and the first one sends a message. -/
def firstTurn : Turn where
  rounds := 2
  log := [⟨.pollForEvent, .ok (reports [0])⟩, ⟨.getFdIndex, (0 : ℕ)⟩,
    ⟨.getSlot 0, ⟨some 3, pollIn⟩⟩, ⟨.accept, .ok 7⟩, ⟨.getSlot 0, ⟨some 3, pollIn⟩⟩,
    ⟨.getSlot 1, ⟨none, 0⟩⟩, ⟨.setSlot 1 7, ()⟩,
    ⟨.send 7 (socketDataLayout.encode usualDaemon.createResponse), .error .eproto⟩,
    ⟨.accept, .ok 8⟩, slotEvent 1 0, ⟨.getSlot 2, ⟨none, 0⟩⟩, ⟨.setSlot 2 8, ()⟩,
    ⟨.send 8 (socketDataLayout.encode usualDaemon.createResponse), .error .eproto⟩,
    ⟨.accept, .ok 9⟩, slotEvent 2 0, ⟨.getSlot 3, ⟨none, 0⟩⟩, ⟨.setSlot 3 9, ()⟩,
    ⟨.send 9 (socketDataLayout.encode usualDaemon.createResponse), .error .eproto⟩,
    ⟨.accept, .error .eagain⟩, slotEvent 1 0, slotEvent 2 0, slotEvent 3 0,
    ⟨.getSlot 4, ⟨none, 0⟩⟩, ⟨.setFdIndex 5, ()⟩,
    ⟨.pollForEvent, .ok (reports [1])⟩, ⟨.getFdIndex, (5 : ℕ)⟩, ⟨.getSlot 5, ⟨none, 0⟩⟩,
    ⟨.getSlot 0, ⟨some 3, 0⟩⟩, slotEvent 1 pollIn, ⟨.read 7 100, .ok zeros⟩,
    ⟨.setFdIndex 1, ()⟩]
  result := some (.ok (zeroTask 7))
  answer := (serveTurn [1] 1 [] 1).answer

lemma runs_firstTurn : (usualDaemon.getTask 2).Runs firstTurn.log firstTurn.result := by
  repeat refine .call _ _ _ ?_
  exact .ret _

lemma turns_firstTurn {C : DaemonState Unit → Turn → Prop}
    (hC : C usualDaemon.initState firstTurn) :
    ∃ s, Turns usualDaemon () C usualDaemon.initState [firstTurn] s ∧ Connected 1 s := by
  have hget : ∃ t, Leads (usualDaemon.step ()) firstTurn.log usualDaemon.initState t ∧
      Connected 1 t := by
    refine ⟨?t, ?_, ?_⟩
    case refine_1 =>
      repeat refine ⟨_, rfl, ?_⟩
      rfl
    case refine_2 =>
      refine ⟨rfl, fun k hk => ?_⟩
      simp only [List.mem_cons, List.not_mem_nil, or_false] at hk
      rcases hk with rfl | rfl | rfl
      · rfl
      · rfl
      · rfl
  obtain ⟨t, hget, ht⟩ := hget
  have hanswer : Leads (usualDaemon.step ()) firstTurn.answer t t := ⟨_, rfl, _, rfl, rfl⟩
  exact ⟨t, .cons hC runs_firstTurn hget (runs_answer [1] [] 1 1) hanswer (.nil t), ht⟩

lemma yields_firstTurn : Yields usualDaemon () usualDaemon.initState firstTurn := by
  intro t hstep
  refine ⟨fun _ fd hfd hready => ?_, fun hpoll => absurd rfl hpoll⟩
  obtain rfl := Option.some.inj hstep
  have hlistener : some 3 = some fd := hready.1
  exact absurd (Option.some.inj hlistener).symm hfd

/-- The second client is served while the third one is ready, then the third one while the first
one is ready, and then the third one alone. -/
def servedWindow : List Turn :=
  serveTurn [2, 3] 1 [1] 2 :: serveTurn [1, 3] 2 [2] 3 ::
    List.replicate 4 (serveTurn [3] 3 [] 3)

lemma goes_servedWindow : Goes (Yields usualDaemon ()) 3 1 servedWindow := by
  have hlast : Goes (Yields usualDaemon ()) 3 3 (List.replicate 4 (serveTurn [3] 3 [] 3)) := by
    refine goes_replicate 4 (fun s h => h.yields (by decide)) ?_ (by decide) (by decide)
      (by decide) (by decide)
    repeat refine .call _ _ _ ?_
    exact .ret _
  have hthird : Goes (Yields usualDaemon ()) 3 2
      (serveTurn [1, 3] 2 [2] 3 :: List.replicate 4 (serveTurn [3] 3 [] 3)) := by
    refine hlast.cons (fun s h => h.yields (by decide)) ?_ (by decide) (by decide) (by decide)
      (by decide) (by decide)
    repeat refine .call _ _ _ ?_
    exact .ret _
  refine hthird.cons (fun s h => h.yields (by decide)) ?_ (by decide) (by decide) (by decide)
    (by decide) (by decide)
  repeat refine .call _ _ _ ?_
  exact .ret _

/-- The third client is ready at every `poll`, and is served. -/
theorem never_passed_over_served :
    ∃ s s', Turns usualDaemon () (Yields usualDaemon ()) usualDaemon.initState [firstTurn] s ∧
      Turns usualDaemon () (Yields usualDaemon ()) s servedWindow s' ∧
      AtEachPoll usualDaemon () (fun t => IsReady (t.sessionFdArray 3) 9) (logOf servedWindow) s ∧
      ¬PassedOver usualDaemon () 3 9 s servedWindow := by
  obtain ⟨s, hpast, hs⟩ := turns_firstTurn yields_firstTurn
  obtain ⟨⟨s', hwindow⟩, hready⟩ := goes_servedWindow s hs
  refine ⟨s, s', hpast, hwindow, hready, ?_⟩
  refine (never_passed_over usualDaemon () _ _ s s' hpast hwindow).2 rfl ?_ 3 (by decide) 9
  intro turn hturn
  simp only [servedWindow, List.mem_cons, List.mem_replicate] at hturn
  rcases hturn with rfl | rfl | ⟨-, rfl⟩
  · exact returns_serveTurn
  · exact returns_serveTurn
  · exact returns_serveTurn

/-- The first client is served six times in a row while the second one is ready. -/
theorem second_passed_over :
    ¬∀ (m : HdcpDaemon) (th : Unit) (past window : List Turn) (s s' : DaemonState Unit),
      Turns m th (fun _ _ => True) m.initState past s → Turns m th (fun _ _ => True) s window s' →
      window.length = sessionCountMax → (∀ turn ∈ window, turn.Returns) →
        ∀ j < sessionCountMax, ∀ fd, ¬PassedOver m th j fd s window := by
  intro h
  obtain ⟨s, hpast, hs⟩ := turns_firstTurn (C := fun _ _ => True) trivial
  have hgoes : Goes (fun _ _ => True) 2 1 (List.replicate 6 (serveTurn [1, 2] 1 [] 1)) :=
    goes_replicate 6 (fun _ _ => trivial)
      (.call _ _ _ (.call _ _ _ (.call _ _ _ (.call _ _ _ (.call _ _ _ (.ret _))))))
      (by decide) (by decide) (by decide) (by decide)
  obtain ⟨⟨s', hwindow⟩, hready⟩ := hgoes s hs
  refine h usualDaemon () _ _ s s' hpast hwindow rfl ?_ 2 (by decide) 8 ⟨hready, ?_⟩
  · intro turn hturn
    rw [List.eq_of_mem_replicate hturn]
    exact returns_serveTurn
  · intro turn hturn e he
    rw [List.eq_of_mem_replicate hturn] at he
    simp only [serveTurn, slotEvent, List.map_nil, List.nil_append, List.cons_append,
      List.mem_cons, List.not_mem_nil, or_false] at he
    rcases he with rfl | rfl | rfl | rfl | rfl
    · exact id
    · exact id
    · exact id
    · exact fun hserves => absurd hserves (by decide : (7 : ℕ) ≠ 8)
    · exact id

end Hdcp.RoundRobin
