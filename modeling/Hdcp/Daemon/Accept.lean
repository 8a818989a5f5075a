/-
New connections.

`ProcessNewConnections` takes connections off the queue of the listening socket until `accept`
says that there are no more.  An `accept` that was interrupted, or whose connection was
aborted, leaves -1 in `incomingFd` and so ends the loop, and the loop also ends with the first
connection for which there is no room; in both cases the return code is that of a failure.

`handled_iff`: a call handles the queue completely exactly when every `accept` gives a
connection and there are as many free entries of `m_SessionFdArray` as connections.
-/
import Hdcp.Daemon.Steps

namespace Hdcp.Accept

open Library Socket Daemon
open Library.Prog (Leads leads_append runs_bind runs_ite runs_op runs_ret)

abbrev DaemonLog : Type := List (Event daemonSig)

abbrev Outcome : Type := Except Errno ℕ

/-- What `accept` answered. -/
def accepts : DaemonLog → List Outcome
  | [] => []
  | ⟨.accept, r⟩ :: log => r :: accepts log
  | _ :: log => accepts log

/-- The interactions that send to a descriptor. -/
def sendsTo (fd : ℕ) : DaemonLog → DaemonLog
  | [] => []
  | ⟨.send fd' data, r⟩ :: log =>
    if fd' = fd then ⟨.send fd' data, r⟩ :: sendsTo fd log else sendsTo fd log
  | _ :: log => sendsTo fd log

def IsTransient (x : Outcome) : Prop := x = .error .eintr ∨ x = .error .econnaborted

def IsConnection (x : Outcome) : Prop := ∃ fd, x = .ok fd

section

variable {ι : Type}

/-- The entries of `m_SessionFdArray` from `i` on that are not in use, `todo` are looked at. -/
def freeFrom (s : DaemonState ι) (i todo : ℕ) : List ℕ :=
  (List.range' i todo).filter fun i => (s.sessionFdArray i).fd = none

def freeEntries (s : DaemonState ι) : List ℕ := freeFrom s 0 sessionCountMax

/-- The frame that tells the client that there was room is sent, and nothing else. -/
def Acknowledged (m : HdcpDaemon) (fd : ℕ) (log : DaemonLog) : Prop :=
  ∃ ret, (m.sendResponse m.createResponse fd).Runs (sendsTo fd log) ret

/-- The queue of connections is handled completely. -/
structure Handled (m : HdcpDaemon) (s s' : DaemonState ι) (queue : List Outcome) (log : DaemonLog)
    (ret : Errno) : Prop where
  consumed : accepts log = queue
  success : ret = .success
  /-- The connections for which there is room. -/
  stored : ∀ k fd, (queue.filterMap Except.toOption)[k]? = some fd → k < (freeEntries s).length →
    (∃! i, i < sessionCountMax ∧ (s.sessionFdArray i).fd = none ∧
      (s'.sessionFdArray i).fd = some fd) ∧ Acknowledged m fd log
  /-- The others. -/
  refused : ∀ k fd, (queue.filterMap Except.toOption)[k]? = some fd →
    (freeEntries s).length ≤ k → ∃ r, ⟨.close fd, r⟩ ∈ log
  kept : ∀ i, (s.sessionFdArray i).fd ≠ none → s'.sessionFdArray i = s.sessionFdArray i

variable {m : HdcpDaemon} {th : ι} {s s' t : DaemonState ι} {log log' : DaemonLog} {ret : Errno}
  {fd i k todo rounds emptyIndex : ℕ} {x : Option ℕ}

/-! ### Logs -/

lemma accepts_append : accepts (log ++ log') = accepts log ++ accepts log' := by
  induction log with
  | nil => rfl
  | cons e log ih =>
      obtain ⟨o, r⟩ := e
      cases o
      case accept => exact congrArg (List.cons r) ih
      all_goals exact ih

lemma sendsTo_append : sendsTo fd (log ++ log') = sendsTo fd log ++ sendsTo fd log' := by
  induction log with
  | nil => rfl
  | cons e log ih =>
      obtain ⟨o, r⟩ := e
      cases o
      case send fd' data =>
        rw [List.cons_append, sendsTo, sendsTo, ih]
        split <;> rfl
      all_goals exact ih

lemma accepts_eq_nil (h : ∀ e ∈ log, e.op ≠ .accept) : accepts log = [] := by
  induction log with
  | nil => rfl
  | cons e log ih =>
      have hrest := ih fun e' he' => h e' (List.mem_cons_of_mem e he')
      have he := h e List.mem_cons_self
      obtain ⟨o, r⟩ := e
      cases o
      case accept => exact absurd rfl he
      all_goals exact hrest

lemma sendsTo_eq_nil (h : ∀ e ∈ log, ∀ data, e.op ≠ .send fd data) : sendsTo fd log = [] := by
  induction log with
  | nil => rfl
  | cons e log ih =>
      have hrest := ih fun e' he' => h e' (List.mem_cons_of_mem e he')
      have he := h e List.mem_cons_self
      obtain ⟨o, r⟩ := e
      cases o
      case send fd' data =>
        have hne : fd' ≠ fd := by
          rintro rfl
          exact he data rfl
        rw [sendsTo, if_neg hne, hrest]
      all_goals exact hrest

lemma sendsTo_eq_self (h : ∀ e ∈ log, ∃ data, e.op = .send fd data) : sendsTo fd log = log := by
  induction log with
  | nil => rfl
  | cons e log ih =>
      have hrest := ih fun e' he' => h e' (List.mem_cons_of_mem e he')
      obtain ⟨data, he⟩ := h e List.mem_cons_self
      obtain ⟨o, r⟩ := e
      obtain rfl : o = .send fd data := he
      rw [sendsTo, if_pos rfl, hrest]

/-! ### The search of a free entry -/

/-- The search finds the first free entry. -/
lemma runs_findEmptySlot (h : (HdcpDaemon.findEmptySlot todo i).Runs log x)
    (hleads : Leads (m.step th) log s s') : s' = s ∧ x = (freeFrom s i todo).head? := by
  induction todo generalizing i log with
  | zero =>
      obtain ⟨rfl, rfl⟩ := runs_ret.1 h
      exact ⟨hleads, rfl⟩
  | succ todo ih =>
      obtain ⟨slot, l, l', hget, hrest, rfl⟩ := runs_bind.1 h
      obtain rfl := runs_op.1 hget
      obtain ⟨t, hstep, hleads⟩ := hleads
      obtain ⟨rfl, rfl⟩ := DaemonState.answer_eq_some.1 hstep
      rw [freeFrom, List.range'_succ]
      obtain ⟨hfree, hfound⟩ | ⟨hused, hnext⟩ := runs_ite.1 hrest
      · obtain ⟨rfl, rfl⟩ := runs_ret.1 hfound
        rw [List.filter_cons_of_pos (by simpa using hfree)]
        exact ⟨hleads, rfl⟩
      · rw [List.filter_cons_of_neg (by simpa using hused)]
        exact ih hnext hleads

/-- Below `emptyIndex` all entries are in use. -/
def UsedBelow (s : DaemonState ι) (emptyIndex : ℕ) : Prop :=
  ∀ i < emptyIndex, (s.sessionFdArray i).fd ≠ none

lemma freeFrom_eq (hused : UsedBelow s emptyIndex) (hle : emptyIndex ≤ sessionCountMax) :
    freeFrom s emptyIndex (sessionCountMax - emptyIndex) = freeEntries s := by
  have hsplit : List.range' 0 sessionCountMax =
      List.range' 0 emptyIndex ++ List.range' emptyIndex (sessionCountMax - emptyIndex) := by
    have happend := List.range'_append_1 (s := 0) (m := emptyIndex)
      (n := sessionCountMax - emptyIndex)
    rw [Nat.zero_add] at happend
    rw [happend, Nat.add_sub_cancel' hle]
  have hnil : (List.range' 0 emptyIndex).filter (fun i => (s.sessionFdArray i).fd = none) = [] := by
    refine List.filter_eq_nil_iff.2 fun i hi => ?_
    have hlt : i < emptyIndex := by simpa using hi
    simpa using hused i hlt
  rw [freeEntries, freeFrom, freeFrom, hsplit, List.filter_append, hnil, List.nil_append]

lemma mem_freeEntries :
    i ∈ freeEntries s ↔ i < sessionCountMax ∧ (s.sessionFdArray i).fd = none := by
  simp [freeEntries, freeFrom]

lemma nodup_freeEntries : (freeEntries s).Nodup := by
  have hrange : (List.range' 0 sessionCountMax).Nodup := List.nodup_range'
  rw [freeEntries, freeFrom]
  exact hrange.filter _

/-- The entries come in their order. -/
lemma usedBelow_of_freeEntries {free : List ℕ} (hfree : freeEntries s = i :: free) :
    UsedBelow s i := by
  have hsorted : (freeEntries s).Pairwise (· < ·) := by
    have hrange : (List.range' 0 sessionCountMax).Pairwise (· < ·) := List.pairwise_lt_range'
    rw [freeEntries, freeFrom]
    exact hrange.filter _
  have hi : i < sessionCountMax := (mem_freeEntries.1 (by simp [hfree] : i ∈ freeEntries s)).1
  intro j hj hnone
  have hmem : j ∈ freeEntries s := mem_freeEntries.2 ⟨hj.trans hi, hnone⟩
  rw [hfree] at hsorted hmem
  rcases List.mem_cons.1 hmem with rfl | htail
  · exact absurd hj (Nat.lt_irrefl j)
  · exact absurd ((List.pairwise_cons.1 hsorted).1 j htail) (Nat.lt_asymm hj)

/-- A free entry that is filled is one fewer. -/
lemma freeEntries_setEntry {free : List ℕ} {entry : PollFd} (hfree : freeEntries s = i :: free)
    (hentry : entry.fd ≠ none) : freeEntries (s.setEntry i entry) = free := by
  have hnodup : (i :: free).Nodup := hfree ▸ nodup_freeEntries
  have hdrop : freeEntries (s.setEntry i entry) = (freeEntries s).filter (· ≠ i) := by
    rw [freeEntries, freeFrom, freeEntries, freeFrom, List.filter_filter]
    refine List.filter_congr fun j _ => ?_
    by_cases hj : j = i
    · subst hj
      simp [hentry]
    · simp [hj]
  rw [hdrop, hfree, List.filter_cons_of_neg (by simp)]
  refine List.filter_eq_self.2 fun j hj => ?_
  have hne : j ≠ i := fun heq => (List.nodup_cons.1 hnodup).1 (heq ▸ hj)
  simpa using hne

/-! ### The loop -/

/-- An `accept` that answers with a connection opens it. -/
lemma step_accept {r : Outcome} (h : m.step th .accept r s = some s') :
    (∃ e, r = .error e ∧ s' = s) ∨
      ∃ fd, r = .ok fd ∧ s.opened fd = false ∧ s' = s.setOpened fd true := by
  cases r with
  | error e =>
      obtain rfl := Option.some.inj h
      exact .inl ⟨e, rfl, rfl⟩
  | ok fd =>
      obtain ⟨⟨-, hnew⟩, hs⟩ := Option.ite_none_right_eq_some.1 h
      exact .inr ⟨fd, rfl, hnew, (Option.some.inj hs).symm⟩

/-- The response goes to one descriptor, and changes nothing. -/
lemma uses_sendResponse {rsp : SocketData} :
    (m.sendResponse rsp fd).Uses fun o => ∃ data, o = DaemonOp.send fd data :=
  uses_writeLoop (fun data => Prog.uses_op.2 ⟨data, rfl⟩) _ _

lemma leads_sendResponse {rsp : SocketData} (h : (m.sendResponse rsp fd).Runs log ret)
    (hleads : Leads (m.step th) log s s') : s' = s := by
  have hsame : s = s' := hleads.keeps (I := fun t => s = t) (fun e he s₁ s₂ hstep hs => ?_) rfl
  · exact hsame.symm
  · obtain ⟨data, hop⟩ := uses_sendResponse.of_runs h he
    obtain ⟨o, r⟩ := e
    obtain rfl : o = .send fd data := hop
    obtain ⟨-, hs₂⟩ := Option.ite_none_right_eq_some.1 hstep
    rw [hs, Option.some.inj hs₂]

/-- A round of the loop that is not the last one. -/
structure Round (m : HdcpDaemon) (s t : DaemonState ι) (fd i : ℕ) (free : List ℕ)
    (log : DaemonLog) : Prop where
  entries : freeEntries s = i :: free
  entriesLeft : freeEntries t = free
  used : UsedBelow t i
  entry : t.sessionFdArray i = ⟨some fd, 0⟩
  others : ∀ j, j ≠ i → t.sessionFdArray j = s.sessionFdArray j
  fresh : s.opened fd = false
  opened : t.opened = Function.update s.opened fd true
  accepts : accepts log = [.ok fd]
  sends : ∀ fd', fd' ≠ fd → sendsTo fd' log = []
  acknowledged : Acknowledged m fd log

/-- How a round ends. -/
lemma runs_acceptLoop (h : (m.acceptLoop (rounds + 1) emptyIndex).Runs log ret)
    (hleads : Leads (m.step th) log s s') (hused : UsedBelow s emptyIndex)
    (hle : emptyIndex ≤ sessionCountMax) :
    (∃ e, accepts log = [.error e] ∧ ret = (if e = .eagain then .success else e) ∧
      s'.sessionFdArray = s.sessionFdArray ∧ ∀ fd, sendsTo fd log = []) ∨
    (freeEntries s = [] ∧ ret = .einval ∧ s'.sessionFdArray = s.sessionFdArray ∧
      ∃ fd, accepts log = [.ok fd]) ∨
    ∃ fd i free l l' t, Round m s t fd i free l ∧ i < sessionCountMax ∧
      (m.acceptLoop rounds i).Runs l' ret ∧ Leads (m.step th) l' t s' ∧ log = l ++ l' := by
  obtain ⟨r, l₁, l₂, haccept, hanswer, rfl⟩ := runs_bind.1 h
  obtain rfl := runs_op.1 haccept
  obtain ⟨t₁, hstep, hleads₂⟩ := hleads
  obtain ⟨e, rfl, rfl⟩ | ⟨fd, rfl, hfresh, rfl⟩ := step_accept hstep
  · obtain ⟨rfl, rfl⟩ := runs_ret.1 hanswer
    obtain rfl : s' = t₁ := hleads₂
    exact .inl ⟨e, rfl, rfl, rfl, fun _ => rfl⟩
  · obtain ⟨x, l₃, l₄, hfind, hplace, rfl⟩ := runs_bind.1 hanswer
    obtain ⟨t₂, hleads₃, hleads₄⟩ := leads_append.1 (show Leads _ (l₃ ++ l₄) _ s' from hleads₂)
    obtain ⟨rfl, hx⟩ := runs_findEmptySlot hfind hleads₃
    have hused : UsedBelow (s.setOpened fd true) emptyIndex := hused
    have hsame : freeEntries (s.setOpened fd true) = freeEntries s := rfl
    rw [freeFrom_eq hused hle, hsame] at hx
    have hsearch (e : Event daemonSig) (he : e ∈ l₃) : ∃ i, e.op = .getSlot i :=
      (uses_findEmptySlot _ _).of_runs hfind he
    have hnil₃ : accepts l₃ = [] := by
      refine accepts_eq_nil fun e he hop => ?_
      obtain ⟨j, hj⟩ := hsearch e he
      exact absurd (hj.symm.trans hop) (by simp)
    rcases hfree : freeEntries s with _ | ⟨i, free⟩
    -- there is no room: the connection is closed, and the loop ends
    · rw [hfree] at hx
      obtain rfl : x = none := hx
      obtain ⟨_, l₅, l₆, hclose, hlast, rfl⟩ := runs_bind.1 hplace
      obtain rfl := runs_op.1 hclose
      obtain ⟨rfl, rfl⟩ := runs_ret.1 hlast
      obtain ⟨t₃, hstep₃, rfl⟩ := hleads₄
      obtain rfl := Option.some.inj hstep₃
      refine .inr (.inl ⟨rfl, rfl, rfl, fd, ?_⟩)
      rw [accepts_append, accepts_append, hnil₃]
      rfl
    -- the first free entry is taken, and the loop goes on
    · rw [hfree] at hx
      obtain rfl : x = some i := hx
      obtain ⟨_, l₅, l₆, hset, hrespond, rfl⟩ := runs_bind.1 hplace
      obtain rfl := runs_op.1 hset
      obtain ⟨sts, l₇, l₈, hsend, hagain, rfl⟩ := runs_bind.1 hrespond
      obtain ⟨t₃, hstep₃, hleads₆⟩ := hleads₄
      obtain rfl := Option.some.inj hstep₃
      obtain ⟨t₄, hleads₇, hleads₈⟩ := leads_append.1 (show Leads _ (l₇ ++ l₈) _ s' from hleads₆)
      obtain rfl := leads_sendResponse hsend hleads₇
      have hmem : i ∈ freeEntries s := by simp [hfree]
      have hlog : [⟨.accept, .ok fd⟩] ++ (l₃ ++ ([⟨.setSlot i fd, ()⟩] ++ (l₇ ++ l₈))) =
          [⟨.accept, .ok fd⟩] ++ (l₃ ++ ([⟨.setSlot i fd, ()⟩] ++ l₇)) ++ l₈ := by
        simp only [List.append_assoc]
      refine .inr (.inr ⟨fd, i, free, _, l₈, _, ?_, (mem_freeEntries.1 hmem).1, hagain,
        hleads₈, hlog⟩)
      have hresponse (e : Event daemonSig) (he : e ∈ l₇) : ∃ data, e.op = .send fd data :=
        uses_sendResponse.of_runs hsend he
      have hsends (fd' : ℕ) :
          sendsTo fd' ([⟨.accept, .ok fd⟩] ++ (l₃ ++ ([⟨.setSlot i fd, ()⟩] ++ l₇))) =
            sendsTo fd' l₇ := by
        have hnil : sendsTo fd' l₃ = [] := by
          refine sendsTo_eq_nil fun e he data hop => ?_
          obtain ⟨j, hj⟩ := hsearch e he
          exact absurd (hj.symm.trans hop) (by simp)
        rw [sendsTo_append, sendsTo_append, sendsTo_append, hnil]
        rfl
      exact
        { entries := hfree
          entriesLeft := freeEntries_setEntry hfree (by simp)
          used := by
            intro j hj
            rw [DaemonState.setEntry_array, Function.update_of_ne (Nat.ne_of_lt hj)]
            exact usedBelow_of_freeEntries hfree j hj
          entry := by simp
          others := by
            intro j hj
            simp [hj]
          fresh := hfresh
          opened := rfl
          accepts := by
            have hnil₇ : accepts l₇ = [] := by
              refine accepts_eq_nil fun e he hop => ?_
              obtain ⟨data, hdata⟩ := hresponse e he
              exact absurd (hdata.symm.trans hop) (by simp)
            rw [accepts_append, accepts_append, accepts_append, hnil₃, hnil₇]
            rfl
          sends := by
            intro fd' hne
            rw [hsends]
            refine sendsTo_eq_nil fun e he data hop => hne ?_
            obtain ⟨data', hdata⟩ := hresponse e he
            have heq : DaemonOp.send fd' data = .send fd data' := hop.symm.trans hdata
            exact (DaemonOp.send.inj heq).1
          acknowledged := by
            refine ⟨sts, ?_⟩
            rw [hsends, sendsTo_eq_self hresponse]
            exact hsend }

/-- A loop that ends with success has met connections for which there was room. -/
lemma connections_of_success (h : (m.acceptLoop rounds emptyIndex).Runs log .success)
    (hleads : Leads (m.step th) log s s') (hused : UsedBelow s emptyIndex)
    (hle : emptyIndex ≤ sessionCountMax) :
    ∃ (fds : List ℕ) (e : Errno), accepts log = fds.map Except.ok ++ [.error e] ∧
      fds.length ≤ (freeEntries s).length := by
  induction rounds generalizing s emptyIndex log with
  | zero =>
      obtain ⟨-, hret⟩ := runs_ret.1 h
      exact absurd hret (by simp)
  | succ rounds ih =>
      rcases runs_acceptLoop h hleads hused hle with
        ⟨e, haccepts, -⟩ | ⟨-, hret, -⟩ | ⟨fd, i, free, l, l', t, hround, hi, hrest, ht, rfl⟩
      · exact ⟨[], e, haccepts, Nat.zero_le _⟩
      · exact absurd hret (by simp)
      · obtain ⟨fds, e, haccepts, hroom⟩ := ih hrest ht hround.used hi.le
        refine ⟨fd :: fds, e, ?_, ?_⟩
        · rw [accepts_append, hround.accepts, haccepts]
          rfl
        · rw [hround.entriesLeft] at hroom
          rw [hround.entries]
          exact Nat.succ_le_succ hroom

/-- What the loop has done when there was room for all connections. -/
structure Filled (m : HdcpDaemon) (s s' : DaemonState ι) (fds : List ℕ) (log : DaemonLog)
    (ret : Errno) : Prop where
  consumed : accepts log = fds.map Except.ok ++ [.error .eagain]
  success : ret = .success
  fresh : ∀ fd ∈ fds, s.opened fd = false
  nodup : fds.Nodup
  stored : ∀ (k fd : ℕ), fds[k]? = some fd →
    ∃ i, (freeEntries s)[k]? = some i ∧ s'.sessionFdArray i = ⟨some fd, 0⟩
  kept : ∀ i, (∀ k < fds.length, (freeEntries s)[k]? ≠ some i) →
    s'.sessionFdArray i = s.sessionFdArray i
  acknowledged : ∀ fd ∈ fds, Acknowledged m fd log
  sends : ∀ fd ∉ fds, sendsTo fd log = []

lemma Filled.cons {fds free : List ℕ} {l l' : DaemonLog} (hround : Round m s t fd i free l)
    (h : Filled m t s' fds l' ret) : Filled m s s' (fd :: fds) (l ++ l') ret := by
  have hfresh (fd' : ℕ) (hmem : fd' ∈ fds) : fd' ≠ fd ∧ s.opened fd' = false := by
    have hnew := h.fresh fd' hmem
    rw [hround.opened] at hnew
    by_cases hfd : fd' = fd
    · subst hfd
      rw [Function.update_self] at hnew
      exact absurd hnew (by simp)
    · rw [Function.update_of_ne hfd] at hnew
      exact ⟨hfd, hnew⟩
  have hi : i ∉ free := by
    have hnodup := nodup_freeEntries (s := s)
    rw [hround.entries] at hnodup
    exact (List.nodup_cons.1 hnodup).1
  constructor
  · rw [accepts_append, hround.accepts, h.consumed]
    rfl
  · exact h.success
  · intro fd' hmem
    rcases List.mem_cons.1 hmem with rfl | hmem
    · exact hround.fresh
    · exact (hfresh fd' hmem).2
  · exact List.nodup_cons.2 ⟨fun hmem => (hfresh fd hmem).1 rfl, h.nodup⟩
  · intro k fd' hk
    rw [hround.entries]
    cases k with
    | zero =>
        obtain rfl : fd = fd' := Option.some.inj hk
        refine ⟨i, rfl, ?_⟩
        rw [h.kept i, hround.entry]
        intro k _ hfree
        rw [hround.entriesLeft] at hfree
        exact hi (List.mem_of_getElem? hfree)
    | succ k =>
        obtain ⟨j, hj, hstored⟩ := h.stored k fd' hk
        rw [hround.entriesLeft] at hj
        exact ⟨j, hj, hstored⟩
  · intro j hj
    rw [hround.entries] at hj
    have hne : j ≠ i := by
      rintro rfl
      exact hj 0 (Nat.succ_pos _) rfl
    rw [h.kept j, hround.others j hne]
    intro k hk hfree
    rw [hround.entriesLeft] at hfree
    exact hj (k + 1) (Nat.succ_lt_succ hk) hfree
  · intro fd' hmem
    rcases List.mem_cons.1 hmem with rfl | hmem
    · have hnil := h.sends fd' fun hmem => (hfresh fd' hmem).1 rfl
      rw [Acknowledged, sendsTo_append, hnil, List.append_nil]
      exact hround.acknowledged
    · rw [Acknowledged, sendsTo_append, hround.sends fd' (hfresh fd' hmem).1, List.nil_append]
      exact h.acknowledged fd' hmem
  · intro fd' hmem
    rw [List.mem_cons, not_or] at hmem
    rw [sendsTo_append, hround.sends fd' hmem.1, h.sends fd' hmem.2]
    rfl

/-- The loop stores the connections when there is room for them. -/
lemma filled_of_room {fds : List ℕ} (h : (m.acceptLoop rounds emptyIndex).Runs log ret)
    (hleads : Leads (m.step th) log s s') (hused : UsedBelow s emptyIndex)
    (hle : emptyIndex ≤ sessionCountMax)
    (hqueue : accepts log <+: fds.map Except.ok ++ [.error .eagain])
    (hroom : fds.length ≤ (freeEntries s).length) (hrounds : fds.length < rounds) :
    Filled m s s' fds log ret := by
  induction rounds generalizing s emptyIndex log fds with
  | zero => exact absurd hrounds (Nat.not_lt_zero _)
  | succ rounds ih =>
      rcases runs_acceptLoop h hleads hused hle with
        ⟨e, haccepts, hret, harray, hsends⟩ | ⟨hfree, -, -, fd, haccepts⟩ |
          ⟨fd, i, free, l, l', t, hround, hi, hrest, ht, rfl⟩
      · rw [haccepts] at hqueue
        cases fds with
        | nil =>
            obtain ⟨he, -⟩ := List.cons_prefix_cons.1 hqueue
            obtain rfl : e = .eagain := by simpa using he
            exact ⟨haccepts, hret, by simp, List.nodup_nil, by simp,
              fun i _ => congrFun harray i, by simp, fun fd _ => hsends fd⟩
        | cons fd fds =>
            obtain ⟨he, -⟩ := List.cons_prefix_cons.1 hqueue
            exact absurd he (by simp)
      · rw [haccepts] at hqueue
        rw [hfree] at hroom
        obtain rfl := List.length_eq_zero_iff.1 (Nat.le_zero.1 hroom)
        obtain ⟨he, -⟩ := List.cons_prefix_cons.1 hqueue
        exact absurd he (by simp)
      · rw [accepts_append, hround.accepts] at hqueue
        cases fds with
        | nil =>
            obtain ⟨he, -⟩ := List.cons_prefix_cons.1 hqueue
            exact absurd he (by simp)
        | cons fd' fds =>
            obtain ⟨he, hqueue'⟩ := List.cons_prefix_cons.1 hqueue
            obtain rfl : fd = fd' := by simpa using he
            rw [hround.entries] at hroom
            refine (ih hrest ht hround.used hi.le hqueue' ?_ ?_).cons hround
            · rw [hround.entriesLeft]
              exact Nat.le_of_succ_le_succ hroom
            · exact Nat.lt_of_succ_lt_succ hrounds

/-! ### The property -/

/-- The queue of the listening socket, until `accept` says that it is empty. -/
def queueOf (outcomes : List Outcome) : List Outcome := outcomes ++ [.error .eagain]

lemma filterMap_queueOf {fds : List ℕ} :
    (queueOf (fds.map Except.ok)).filterMap Except.toOption = fds := by
  rw [queueOf, List.filterMap_append, List.filterMap_map]
  simp [Function.comp_def, Except.toOption]

lemma exists_eq_map_ok {outcomes : List Outcome} (h : ∀ x ∈ outcomes, IsConnection x) :
    ∃ fds : List ℕ, outcomes = fds.map Except.ok := by
  induction outcomes with
  | nil => exact ⟨[], rfl⟩
  | cons x outcomes ih =>
      obtain ⟨fd, rfl⟩ := h x List.mem_cons_self
      obtain ⟨fds, rfl⟩ := ih fun y hy => h y (List.mem_cons_of_mem _ hy)
      exact ⟨fd :: fds, rfl⟩

lemma length_freeEntries_le : (freeEntries s).length ≤ sessionCountMax := by
  have hle := List.length_filter_le (fun i => decide ((s.sessionFdArray i).fd = none))
    (List.range' 0 sessionCountMax)
  rwa [List.length_range'] at hle

/-- An entry is filled with a connection, and only one is. -/
lemma Filled.existsUnique {fds : List ℕ} (h : Filled m s s' fds log ret) {k : ℕ}
    (hk : fds[k]? = some fd) :
    ∃! i, i < sessionCountMax ∧ (s.sessionFdArray i).fd = none ∧
      (s'.sessionFdArray i).fd = some fd := by
  obtain ⟨i, hi, hstored⟩ := h.stored k fd hk
  obtain ⟨hlt, hfree⟩ := mem_freeEntries.1 (List.mem_of_getElem? hi)
  refine ⟨i, ⟨hlt, hfree, by rw [hstored]⟩, ?_⟩
  rintro j ⟨hj, hjfree, hjfd⟩
  obtain ⟨k', hk'⟩ := List.mem_iff_getElem?.1 (mem_freeEntries.2 ⟨hj, hjfree⟩)
  rcases Nat.lt_or_ge k' fds.length with hlt' | hge
  · obtain ⟨j', hj', hstored'⟩ := h.stored k' fds[k'] (List.getElem?_eq_getElem hlt')
    obtain rfl : j = j' := Option.some.inj (hk'.symm.trans hj')
    have hfd : fds[k'] = fd := by
      rw [hstored'] at hjfd
      exact Option.some.inj hjfd
    obtain ⟨hlen, hget⟩ := List.getElem?_eq_some_iff.1 hk
    obtain rfl : k' = k := (h.nodup.getElem_inj_iff).1 (hfd.trans hget.symm)
    exact Option.some.inj (hk'.symm.trans hi)
  · -- the entry would have stayed free
    rw [h.kept j, hjfree] at hjfd
    · exact absurd hjfd (by simp)
    · intro k₂ hk₂ hsame
      have hk₂' : k₂ = k' := by
        obtain ⟨h₁, hget₁⟩ := List.getElem?_eq_some_iff.1 hsame
        obtain ⟨h₂, hget₂⟩ := List.getElem?_eq_some_iff.1 hk'
        exact (nodup_freeEntries.getElem_inj_iff).1 (hget₁.trans hget₂.symm)
      omega

/-- `ProcessNewConnections` handles a queue completely exactly when every `accept` gives a
connection and there is room for all of them. -/
theorem handled_iff (m : HdcpDaemon) (th : ι) (s s' : DaemonState ι) (outcomes : List Outcome)
    (log : DaemonLog) (ret : Errno) (houtcomes : ∀ x ∈ outcomes, IsConnection x ∨ IsTransient x)
    (h : m.processNewConnections.Runs log ret) (hleads : Leads (m.step th) log s s')
    (hqueue : accepts log <+: queueOf outcomes) :
    Handled m s s' (queueOf outcomes) log ret ↔
      (∀ x ∈ outcomes, IsConnection x) ∧ outcomes.length ≤ (freeEntries s).length := by
  have hused : UsedBelow s 0 := fun i hi => absurd hi (Nat.not_lt_zero i)
  constructor
  · intro hhandled
    have hret := hhandled.success
    subst hret
    obtain ⟨fds, e, haccepts, hroom⟩ := connections_of_success h hleads hused (Nat.zero_le _)
    have heq := hhandled.consumed.symm.trans haccepts
    have hfds : outcomes = fds.map Except.ok := (List.append_inj' heq rfl).1
    subst hfds
    refine ⟨fun x hx => ?_, by rwa [List.length_map]⟩
    obtain ⟨fd, -, rfl⟩ := List.mem_map.1 hx
    exact ⟨fd, rfl⟩
  · rintro ⟨hconnections, hroom⟩
    obtain ⟨fds, rfl⟩ := exists_eq_map_ok hconnections
    rw [List.length_map] at hroom
    have hfilled : Filled m s s' fds log ret :=
      filled_of_room h hleads hused (Nat.zero_le _) hqueue hroom
        (Nat.lt_succ_of_le (hroom.trans length_freeEntries_le))
    constructor
    · exact hfilled.consumed
    · exact hfilled.success
    · intro k fd hk _
      rw [filterMap_queueOf] at hk
      exact ⟨hfilled.existsUnique hk, hfilled.acknowledged fd (List.mem_of_getElem? hk)⟩
    · intro k fd hk hge
      rw [filterMap_queueOf] at hk
      obtain ⟨hlt, -⟩ := List.getElem?_eq_some_iff.1 hk
      exact absurd (hlt.trans_le (hroom.trans hge)) (Nat.lt_irrefl _)
    · intro i hi
      refine hfilled.kept i fun k _ hfree => ?_
      exact hi (mem_freeEntries.1 (List.mem_of_getElem? hfree)).2

end

/-- One client connects, and is gone before it can be told. -/
def oneConnection : DaemonLog :=
  [⟨.accept, .ok 7⟩, ⟨.getSlot 0, ⟨some 3, 0⟩⟩, ⟨.getSlot 1, ⟨none, 0⟩⟩, ⟨.setSlot 1 7, ()⟩,
    ⟨.send 7 (socketDataLayout.encode (usualDaemon.createResponse)),
      .error .eproto⟩, ⟨.accept, .error .eagain⟩]

theorem handled_oneConnection :
    ∃ s' : DaemonState Unit,
      Handled usualDaemon usualDaemon.initState s' (queueOf [.ok 7]) oneConnection .success := by
  have hrun : usualDaemon.processNewConnections.Runs oneConnection .success :=
    .call _ _ _ (.call _ _ _ (.call _ _ _ (.call _ _ _ (.call _ _ _ (.call _ _ _ (.ret _))))))
  have hleads : Leads (usualDaemon.step ()) oneConnection usualDaemon.initState
      ((usualDaemon.initState.setOpened 7 true).setEntry 1 ⟨some 7, 0⟩) :=
    ⟨_, rfl, _, rfl, _, rfl, _, rfl, _, rfl, _, rfl, rfl⟩
  refine ⟨_, (handled_iff usualDaemon () _ _ [.ok 7] _ _ ?_ hrun hleads ?_).2 ⟨?_, ?_⟩⟩
  · intro x hx
    exact .inl ⟨7, List.mem_singleton.1 hx⟩
  · exact List.prefix_refl _
  · intro x hx
    exact ⟨7, List.mem_singleton.1 hx⟩
  · decide

/-- The first `accept` is interrupted. -/
theorem interrupted_not_handled :
    ¬∀ (m : HdcpDaemon) (th : Unit) (s s' : DaemonState Unit) (outcomes : List Outcome)
      (log : DaemonLog) (ret : Errno), (∀ x ∈ outcomes, IsConnection x ∨ IsTransient x) →
      m.processNewConnections.Runs log ret → Leads (m.step th) log s s' →
      accepts log <+: queueOf outcomes → Handled m s s' (queueOf outcomes) log ret := by
  intro h
  have hrun : usualDaemon.processNewConnections.Runs [⟨.accept, .error .eintr⟩] .eintr :=
    .call _ _ _ (.ret _)
  have hhandled := h usualDaemon () usualDaemon.initState usualDaemon.initState [.error .eintr] _ _
    (fun x hx => .inr (.inl (List.mem_singleton.1 hx))) hrun ⟨_, rfl, rfl⟩
    (by simp [accepts, queueOf])
  exact absurd hhandled.success (by simp)

end Hdcp.Accept
