/-
The reports on one connection.

Any number of threads may report events at the same time, while the message loop accepts and
serves clients; a message goes out in as many parts as `send` likes.  The connection `y` has been
registered for callbacks, and does not fail.

`said_reports`: what the daemon has written on `y` since its registration are the messages of the
reports since then, each of them once and as a whole, in the order in which the threads acquired
`m_CallBackListMutex`; a message is incomplete only while its report holds the mutex.  This takes
both the mutex, which keeps the parts of two messages from mixing, and the message loop, which
takes `y` out of `m_SessionFdArray` before it enters the list, so that no response is ever
written on it.

`reports_once` and `returned_reports`: a call of `ReportStatus` acquires the mutex once before it
returns, so that the calls that have returned are among those reports.
-/
import Hdcp.Daemon.FanOut
import Hdcp.Library.Monitor

namespace Hdcp.Reports

open Library Socket Daemon
open FanOut (eventData)

variable {ι : Type}

/-! ### What the history says about the connection -/

/-- What has been written on the connection since it was registered. -/
def saidSince (y : ℕ) : DaemonTrace ι → List UInt8
  | [] => []
  | .op _ _ ⟨.pushBackCallBack fd, _⟩ :: tr => if fd = y then [] else saidSince y tr
  | .op _ _ ⟨.send fd data, r⟩ :: tr =>
    if fd = y then saidSince y tr ++ sentBytes data r else saidSince y tr
  | _ :: tr => saidSince y tr

/-- The reports, event and port, that have acquired the mutex since then. -/
def reportsSince (y : ℕ) : DaemonTrace ι → List (UInt32 × UInt32)
  | [] => []
  | .op _ _ ⟨.pushBackCallBack fd, _⟩ :: tr => if fd = y then [] else reportsSince y tr
  | .op _ (.reportStatus event portId) ⟨.callBackBegin, _⟩ :: tr =>
    reportsSince y tr ++ [(event, portId)]
  | _ :: tr => reportsSince y tr

/-- The thread has made a call since then. -/
def calledSince [DecidableEq ι] (y : ℕ) (i : ι) : DaemonTrace ι → Bool :=
  since (isCall i) (isOp (enters y))
where
  isCall (i : ι) : DaemonLabel ι → Bool
    | .call j _ => j = i
    | _ => false

/-- The reports, each with its thread, that have been called for and have returned since then. -/
def returnedSince [DecidableEq ι] (y : ℕ) : DaemonTrace ι → List (ι × UInt32 × UInt32)
  | [] => []
  | .op _ _ ⟨.pushBackCallBack fd, _⟩ :: tr => if fd = y then [] else returnedSince y tr
  | .ret i (.reportStatus event portId) _ :: tr =>
    if calledSince y i tr then (i, event, portId) :: returnedSince y tr else returnedSince y tr
  | _ :: tr => returnedSince y tr

/-- The connection has been registered. -/
def isRegistered (y : ℕ) (tr : DaemonTrace ι) : Bool := tr.any (isOp (enters y))

/-- The message of a report. -/
def frame (m : HdcpDaemon) (report : UInt32 × UInt32) : List UInt8 :=
  m.layout.encode (eventData m report.1 report.2)

def frames (m : HdcpDaemon) (reports : List (UInt32 × UInt32)) : List UInt8 :=
  reports.flatMap (frame m)

/-- An event can be sent on the connection. -/
def Works (y : ℕ) : DaemonTrace ι → DaemonState ι → DaemonLabel ι → Prop
  | _, _, .op _ (.reportStatus _ _) ⟨.send fd _, r⟩ => fd = y → sent r
  | _, _, _ => True
where
  sent (r : Except Errno ℕ) : Prop := Except.isOk r = true

variable {m : HdcpDaemon} {main i j : ι} {c : DaemonCall} {o : DaemonOp} {r : o.Ans}
  {s s' s'' : DaemonState ι} {tr tr' tr'' : DaemonTrace ι} {y fd n : ℕ}

lemma said_cons (hpush : ∀ fd, o ≠ .pushBackCallBack fd) (hsend : ∀ data, o ≠ .send y data) :
    saidSince y (.op i c ⟨o, r⟩ :: tr) = saidSince y tr := by
  cases o
  case pushBackCallBack fd => exact absurd rfl (hpush fd)
  case send fd data =>
    have hne : fd ≠ y := by
      rintro rfl
      exact hsend data rfl
    exact if_neg hne
  all_goals rfl

lemma said_send {data : List UInt8} {r : Except Errno ℕ} :
    saidSince y (.op i c ⟨.send y data, r⟩ :: tr) = saidSince y tr ++ sentBytes data r := if_pos rfl

lemma reports_cons (hpush : ∀ fd, o ≠ .pushBackCallBack fd) (hbegin : o ≠ .callBackBegin) :
    reportsSince y (.op i c ⟨o, r⟩ :: tr) = reportsSince y tr := by
  cases o
  case pushBackCallBack fd => exact absurd rfl (hpush fd)
  case callBackBegin => exact absurd rfl hbegin
  all_goals rfl

lemma registered_cons (hpush : o ≠ .pushBackCallBack y) :
    isRegistered y (.op i c ⟨o, r⟩ :: tr) = isRegistered y tr := by
  cases o
  case pushBackCallBack fd =>
    have hne : fd ≠ y := by
      rintro rfl
      exact hpush rfl
    simp [isRegistered, isOp, enters, hne]
  all_goals rfl

/-! ### Where the connection is -/

/-- The message loop waits, or has not touched the connection. -/
structure Placed (m : HdcpDaemon) (y : ℕ) (s : DaemonState ι) : Prop where
  one : ∀ i j, (s.sessionFdArray i).fd = some y → (s.sessionFdArray j).fd = some y → i = j
  opened : ∀ i, (s.sessionFdArray i).fd = some y → y = m.fd ∨ s.opened y = true
  listed : y ∈ s.callBackList → s.opened y = true ∧ ∀ i, (s.sessionFdArray i).fd ≠ some y

/-- The connection is open, and neither in the array nor in the list. -/
structure Fresh (y : ℕ) (s : DaemonState ι) : Prop where
  unlisted : y ∉ s.callBackList
  opened : s.opened y = true
  slots : ∀ i, (s.sessionFdArray i).fd ≠ some y

/-- What a thread that reports leaves alone. -/
structure Same (y : ℕ) (s s' : DaemonState ι) : Prop where
  fds : ∀ i, (s'.sessionFdArray i).fd = (s.sessionFdArray i).fd
  opened : s'.opened y = s.opened y
  listed : y ∈ s'.callBackList ↔ y ∈ s.callBackList

/-- What the others leave alone while a thread holds the mutex. -/
structure Guarded (y : ℕ) (i : ι) (tr : DaemonTrace ι) (s : DaemonState ι) (tr' : DaemonTrace ι)
    (s' : DaemonState ι) : Prop where
  mutex : s'.callBackListMutex = some i
  list : s'.callBackList = s.callBackList
  said : y ∈ s.callBackList → saidSince y tr' = saidSince y tr
  reports : y ∈ s.callBackList → reportsSince y tr' = reportsSince y tr

lemma Same.refl (y : ℕ) (s : DaemonState ι) : Same y s s := ⟨fun _ => rfl, rfl, Iff.rfl⟩

lemma Same.trans (h : Same y s s') (h' : Same y s' s'') : Same y s s'' where
  fds i := (h'.fds i).trans (h.fds i)
  opened := h'.opened.trans h.opened
  listed := h'.listed.trans h.listed

lemma Guarded.trans (h : Guarded y i tr s tr' s') (h' : Guarded y i tr' s' tr'' s'') :
    Guarded y i tr s tr'' s'' where
  mutex := h'.mutex
  list := h'.list.trans h.list
  said hy := (h'.said (h.list ▸ hy)).trans (h.said hy)
  reports hy := (h'.reports (h.list ▸ hy)).trans (h.reports hy)

lemma same_of_places (h : SamePlaces s s') : Same y s s' :=
  ⟨h.fds, by rw [h.opened], by rw [h.list]⟩

/-- A fact about the connection that the others do not destroy. -/
def Stable (y : ℕ) (E : DaemonState ι → Prop) : Prop := ∀ s s', Same y s s' → E s → E s'

lemma stable_placed : Stable y (Placed m y : DaemonState ι → Prop) := by
  intro s s' hsame h
  constructor
  · intro i j hi hj
    rw [hsame.fds] at hi hj
    exact h.one i j hi hj
  · intro i hi
    rw [hsame.fds] at hi
    rw [hsame.opened]
    exact h.opened i hi
  · intro hy
    obtain ⟨hopened, hslots⟩ := h.listed (hsame.listed.1 hy)
    exact ⟨hsame.opened.trans hopened, fun i => by rw [hsame.fds]; exact hslots i⟩

lemma stable_fresh : Stable y (Fresh y : DaemonState ι → Prop) := by
  intro s s' hsame h
  refine ⟨fun hy => h.unlisted (hsame.listed.1 hy), hsame.opened.trans h.opened, fun i => ?_⟩
  rw [hsame.fds]
  exact h.slots i

lemma Stable.and {E F : DaemonState ι → Prop} (hE : Stable y E) (hF : Stable y F) :
    Stable y fun s => E s ∧ F s :=
  fun s s' hsame h => ⟨hE s s' hsame h.1, hF s s' hsame h.2⟩

lemma Stable.imp {P : Prop} {E : DaemonState ι → Prop} (hE : Stable y E) :
    Stable y fun s => P → E s :=
  fun s s' hsame h hP => hE s s' hsame (h hP)

/-! ### The protocol -/

variable [DecidableEq ι]

/-- What holds between any two steps. -/
structure Inv (m : HdcpDaemon) (main : ι) (y : ℕ) (tr : DaemonTrace ι) (s : DaemonState ι) :
    Prop where
  nodup : s.callBackList.Nodup
  registered : isRegistered y tr = true → y ∈ s.callBackList
  idle : calling main tr = none → Placed m y s
  said : y ∈ s.callBackList → saidSince y tr <+: frames m (reportsSince y tr)
  free : y ∈ s.callBackList → s.callBackListMutex = none →
    saidSince y tr = frames m (reportsSince y tr)

def reportsProtocol (m : HdcpDaemon) (main : ι) (y : ℕ) :
    Protocol daemonSig ι DaemonCall Unit (DaemonState ι) where
  admits := Works y
  inv := Inv m main y
  rely i tr s tr' s' :=
    (i = main → calling main tr' = calling main tr ∧ Same y s s') ∧
      (s.callBackListMutex = some i → Guarded y i tr s tr' s')
  refl i tr s := ⟨fun _ => ⟨rfl, .refl y s⟩, fun h => ⟨h, rfl, fun _ => rfl, fun _ => rfl⟩⟩
  trans h h' := by
    refine ⟨fun hi => ?_, fun hmutex => ?_⟩
    · obtain ⟨hcalling, hsame⟩ := h.1 hi
      obtain ⟨hcalling', hsame'⟩ := h'.1 hi
      exact ⟨hcalling'.trans hcalling, hsame.trans hsame'⟩
    · have hguarded := h.2 hmutex
      exact hguarded.trans (h'.2 hguarded.mutex)

variable {α : Type} {p : DaemonProg α} {Q : α → DaemonTrace ι → DaemonState ι → Prop}
  {E F : DaemonState ι → Prop}

abbrev RepSat (m : HdcpDaemon) (main : ι) (y : ℕ) (i : ι) (c : DaemonCall)
    (Q : α → DaemonTrace ι → DaemonState ι → Prop) (p : DaemonProg α) (tr : DaemonTrace ι)
    (s : DaemonState ι) : Prop :=
  (reportsProtocol m main y).Sat (m.system main) i c Q p tr s

/-! ### The message loop -/

/-- The message loop serves a request, and knows `E`. -/
structure Serving (main : ι) (c : DaemonCall) (E : DaemonState ι → Prop) (tr : DaemonTrace ι)
    (s : DaemonState ι) : Prop where
  busy : calling main tr = some c
  known : E s

lemma Serving.of_rely (h : Serving main c E tr s) (hE : Stable y E)
    (hrely : (reportsProtocol m main y).rely main tr s tr' s') : Serving main c E tr' s' := by
  obtain ⟨hcalling, hsame⟩ := hrely.1 rfl
  exact ⟨hcalling.trans h.busy, hE s s' hsame h.known⟩

lemma Serving.mono (h : Serving main c E tr s) (hEF : ∀ s, E s → F s) : Serving main c F tr s :=
  ⟨h.busy, hEF s h.known⟩

/-- A step of the message loop that leaves the list alone, and writes nothing on the connection
when that is in the list. -/
lemma Serving.step (h : Serving main c E tr s) (t : DaemonState ι)
    (hinv : (reportsProtocol m main y).inv tr s)
    (hlist : t.callBackList = s.callBackList)
    (hmutex : t.callBackListMutex = s.callBackListMutex)
    (hpush : ∀ fd, o ≠ .pushBackCallBack fd) (hbegin : o ≠ .callBackBegin)
    (hsend : y ∈ s.callBackList → ∀ data, o ≠ .send y data) (hF : F t) :
    (reportsProtocol m main y).Keeps main tr s (.op main c ⟨o, r⟩) t ∧
      Serving main c F (.op main c ⟨o, r⟩ :: tr) t := by
  have hreports : reportsSince y (.op main c ⟨o, r⟩ :: tr) = reportsSince y tr :=
    reports_cons hpush hbegin
  have hsaid (hy : y ∈ s.callBackList) :
      saidSince y (.op main c ⟨o, r⟩ :: tr) = saidSince y tr := said_cons hpush (hsend hy)
  refine ⟨⟨⟨?_, ?_, fun hidle => ?_, ?_, ?_⟩, fun j hj => ⟨fun h => absurd h hj, ?_⟩⟩, h.busy, hF⟩
  · rw [hlist]
    exact hinv.nodup
  · rw [registered_cons (hpush y), hlist]
    exact hinv.registered
  · have hcalling : calling main tr = none := hidle
    rw [h.busy] at hcalling
    exact absurd hcalling (by simp)
  · rw [hlist, hreports]
    intro hy
    rw [hsaid hy]
    exact hinv.said hy
  · rw [hlist, hmutex, hreports]
    intro hy hfree
    rw [hsaid hy]
    exact hinv.free hy hfree
  · exact fun hj' => ⟨hmutex.trans hj', hlist, hsaid, fun _ => hreports⟩

/-- What does not move connections. -/
def Aside (y : ℕ) (E : DaemonState ι → Prop) (o : DaemonOp) : Prop :=
  o.onPlaces = false ∧ ∀ data, o = .send y data → ∀ s, E s → y ∉ s.callBackList

omit [DecidableEq ι] in
lemma aside_of_still (h : o.onPlaces = false) (hsend : ∀ data, o ≠ .send y data) :
    Aside y E o :=
  ⟨h, fun data heq => absurd heq (hsend data)⟩

/-- A program that does not move connections. -/
lemma sat_aside (hE : Stable y E) (hp : p.Uses (Aside y E)) (h : Serving main c E tr s) :
    RepSat m main y main c (fun _ => Serving main c E) p tr s := by
  refine Protocol.sat_of_keeps hp h (fun hrely h => h.of_rely hE hrely) ?_
  intro o r tr s s' ho hinv h hstep _
  obtain ⟨hplaces, hsend⟩ := ho
  have hsame := step_places hplaces hstep
  refine h.step s' hinv hsame.list hsame.mutex ?_ ?_ ?_ (hE s s' (same_of_places hsame) h.known)
  · rintro fd rfl
    exact absurd hplaces (by simp [DaemonOp.onPlaces])
  · rintro rfl
    exact absurd hplaces (by simp [DaemonOp.onPlaces])
  · rintro hy data rfl
    exact hsend data rfl s h.known hy

/-- The end of a program of the message loop. -/
lemma sat_ret {a : α} (hE : Stable y E) (h : Serving main c E tr s)
    (hQ : ∀ tr' s', Serving main c E tr' s' → Q a tr' s') :
    RepSat m main y main c Q (.ret a) tr s :=
  fun _ _ hrely _ => hQ _ _ (h.of_rely hE hrely)

/-- The read of an entry of the array. -/
lemma sat_getSlot {k : PollFd → DaemonProg α} (hE : Stable y E) (h : Serving main c E tr s)
    (hk : ∀ tr' s', Serving main c E tr' s' →
      RepSat m main y main c Q (k (s'.sessionFdArray n)) tr' s') :
    RepSat m main y main c Q (getSlot n >>= k) tr s := by
  intro tr' s' hrely hinv r s'' hstep _
  have h' := h.of_rely hE hrely
  obtain ⟨rfl, rfl⟩ := DaemonState.answer_eq_some.1 hstep
  obtain ⟨hkeeps, h''⟩ :=
    h'.step s'' (o := .getSlot n) (r := s''.sessionFdArray n) (F := E) hinv rfl
    rfl nofun nofun (fun _ => nofun) h'.known
  exact ⟨hkeeps, hk _ _ h''⟩

/-! ### Connections that come -/

/-- The message loop has accepted a connection. -/
def Came (m : HdcpDaemon) (y fd : ℕ) (s : DaemonState ι) : Prop :=
  Placed m y s ∧ (fd = y → Fresh y s)

omit [DecidableEq ι] in
lemma stable_came : Stable y (Came m y fd : DaemonState ι → Prop) :=
  stable_placed.and stable_fresh.imp

omit [DecidableEq ι] in
lemma Placed.setOpened (h : Placed m y s) (hne : fd ≠ y) (b : Bool) :
    Placed m y (s.setOpened fd b) := by
  have hopened : (s.setOpened fd b).opened y = s.opened y := Function.update_of_ne hne.symm _ _
  exact stable_placed s _ ⟨fun _ => rfl, hopened, Iff.rfl⟩ h

lemma sat_accept {k : Except Errno ℕ → DaemonProg α} (h : Serving main c (Placed m y) tr s)
    (herror : ∀ e tr' s', Serving main c (Placed m y) tr' s' →
      RepSat m main y main c Q (k (.error e)) tr' s')
    (hok : ∀ fd tr' s', Serving main c (Came m y fd) tr' s' →
      RepSat m main y main c Q (k (.ok fd)) tr' s') :
    RepSat m main y main c Q (accept >>= k) tr s := by
  intro tr' s' hrely hinv r s'' hstep _
  have h' := h.of_rely stable_placed hrely
  cases (r : Except Errno ℕ) with
  | error e =>
      obtain rfl := Option.some.inj hstep
      obtain ⟨hkeeps, h''⟩ := h'.step s' (o := .accept) (r := .error e) hinv rfl rfl nofun nofun
        (fun _ => nofun) h'.known
      exact ⟨hkeeps, herror e _ _ h''⟩
  | ok fd =>
      obtain ⟨⟨hlistener, hclosed⟩, hs⟩ := Option.ite_none_right_eq_some.1 hstep
      obtain rfl := Option.some.inj hs
      have hplaced := h'.known
      have hcame : Came m y fd (s'.setOpened fd true) := by
        by_cases hfd : fd = y
        · -- a number that is not in use is neither in the array nor in the list
          subst hfd
          have hnone (i : ℕ) : (s'.sessionFdArray i).fd ≠ some fd := by
            intro hi
            rcases hplaced.opened i hi with heq | hopened
            · exact hlistener heq
            · exact absurd (hopened.symm.trans hclosed) (by simp)
          have hunlisted : fd ∉ s'.callBackList := fun hy =>
            absurd ((hplaced.listed hy).1.symm.trans hclosed) (by simp)
          have hfresh : Fresh fd (s'.setOpened fd true) :=
            ⟨hunlisted, Function.update_self _ _ _, hnone⟩
          refine ⟨⟨fun i _ hi _ => absurd hi (hnone i), fun i hi => absurd hi (hnone i), ?_⟩,
            fun _ => hfresh⟩
          exact fun hy => absurd hy hunlisted
        · exact ⟨hplaced.setOpened hfd true, fun heq => absurd heq hfd⟩
      obtain ⟨hkeeps, h''⟩ := h'.step (s'.setOpened fd true) (o := .accept) (r := .ok fd) hinv rfl
        rfl nofun nofun
        (fun _ => nofun) hcame
      exact ⟨hkeeps, hok fd _ _ h''⟩

/-- A connection for which there is no entry is closed. -/
lemma sat_refuse {k : Errno → DaemonProg α} (h : Serving main c (Came m y fd) tr s)
    (hk : ∀ e tr' s', Serving main c (Placed m y) tr' s' → RepSat m main y main c Q (k e) tr' s') :
    RepSat m main y main c Q (close fd >>= k) tr s := by
  intro tr' s' hrely hinv r s'' hstep _
  have h' := h.of_rely stable_came hrely
  obtain rfl := Option.some.inj hstep
  obtain ⟨hplaced, hfresh⟩ := h'.known
  have hclosed : Placed m y (s'.setOpened fd false) := by
    by_cases hfd : fd = y
    · have hf := hfresh hfd
      exact ⟨hplaced.one, fun i hi => absurd hi (hf.slots i), fun hy => absurd hy hf.unlisted⟩
    · exact hplaced.setOpened hfd false
  obtain ⟨hkeeps, h''⟩ := h'.step (s'.setOpened fd false) (o := .close fd) (r := r) hinv rfl rfl
    nofun nofun
    (fun _ => nofun) hclosed
  exact ⟨hkeeps, hk _ _ _ h''⟩

omit [DecidableEq ι] in
/-- An entry is set to another descriptor, or to the connection when it is fresh. -/
lemma Placed.setEntry {x : PollFd} (h : Placed m y s) (hx : x.fd = some y → Fresh y s) :
    Placed m y (s.setEntry n x) := by
  have hentry (i : ℕ) (hi : ((s.setEntry n x).sessionFdArray i).fd = some y) :
      i = n ∧ x.fd = some y ∨ i ≠ n ∧ (s.sessionFdArray i).fd = some y := by
    rw [DaemonState.setEntry_array] at hi
    by_cases hin : i = n
    · subst hin
      rw [Function.update_self] at hi
      exact .inl ⟨rfl, hi⟩
    · rw [Function.update_of_ne hin] at hi
      exact .inr ⟨hin, hi⟩
  constructor
  · intro i j hi hj
    rcases hentry i hi with ⟨rfl, hxi⟩ | ⟨-, hi'⟩
    · rcases hentry j hj with ⟨rfl, -⟩ | ⟨-, hj'⟩
      · rfl
      · exact absurd hj' ((hx hxi).slots j)
    · rcases hentry j hj with ⟨rfl, hxj⟩ | ⟨-, hj'⟩
      · exact absurd hi' ((hx hxj).slots i)
      · exact h.one i j hi' hj'
  · intro i hi
    rcases hentry i hi with ⟨-, hxi⟩ | ⟨-, hi'⟩
    · exact .inr (hx hxi).opened
    · exact h.opened i hi'
  · intro hy
    obtain ⟨hopened, hslots⟩ := h.listed hy
    refine ⟨hopened, fun i hi => ?_⟩
    rcases hentry i hi with ⟨-, hxi⟩ | ⟨-, hi'⟩
    · exact (hx hxi).unlisted hy
    · exact hslots i hi'

/-- A connection enters an entry. -/
lemma sat_setSlot {k : Unit → DaemonProg α} (h : Serving main c (Came m y fd) tr s)
    (hk : ∀ tr' s', Serving main c (fun s => Placed m y s ∧ (fd = y → y ∉ s.callBackList)) tr' s' →
      RepSat m main y main c Q (k ()) tr' s') :
    RepSat m main y main c Q (setSlot n fd >>= k) tr s := by
  intro tr' s' hrely hinv r s'' hstep _
  have h' := h.of_rely stable_came hrely
  obtain rfl := Option.some.inj hstep
  obtain ⟨hplaced, hfresh⟩ := h'.known
  have hset : Placed m y (s'.setEntry n ⟨some fd, 0⟩) :=
    hplaced.setEntry fun heq => hfresh (Option.some.inj heq)
  obtain ⟨hkeeps, h''⟩ := h'.step (s'.setEntry n ⟨some fd, 0⟩) (o := .setSlot n fd) (r := r) hinv
    rfl rfl nofun nofun
    (fun _ => nofun) (F := fun s => Placed m y s ∧ (fd = y → y ∉ s.callBackList))
    ⟨hset, fun heq => (hfresh heq).unlisted⟩
  exact ⟨hkeeps, hk _ _ h''⟩

omit [DecidableEq ι] in
lemma stable_unlisted : Stable y fun s : DaemonState ι => y ∉ s.callBackList :=
  fun _ _ hsame h hy => h (hsame.listed.1 hy)

omit [DecidableEq ι] in
lemma aside_send (hE : ∀ s, E s → fd = y → y ∉ s.callBackList) (bytes : List UInt8) :
    (writeData (Daemon.send fd) bytes).Uses (Aside y E) := by
  refine uses_writeLoop (fun data => Prog.uses_op.2 ⟨rfl, ?_⟩) _ _
  rintro data' heq s hs
  obtain ⟨rfl, -⟩ := DaemonOp.send.inj heq
  exact hE s hs rfl

lemma sat_findEmptySlot (hE : Stable y E) (h : Serving main c E tr s) (todo i : ℕ) :
    RepSat m main y main c (fun _ => Serving main c E) (HdcpDaemon.findEmptySlot todo i) tr s := by
  induction todo generalizing i tr s with
  | zero => exact sat_ret hE h fun _ _ h' => h'
  | succ todo ih =>
      refine sat_getSlot hE h fun tr₁ s₁ h₁ => ?_
      refine Protocol.Sat.ite (fun _ => sat_ret hE h₁ fun _ _ h' => h') fun _ => ih h₁ _

lemma sat_acceptLoop (h : Serving main c (Placed m y) tr s) (rounds emptyIndex : ℕ) :
    RepSat m main y main c (fun _ => Serving main c (Placed m y))
      (m.acceptLoop rounds emptyIndex) tr s := by
  induction rounds generalizing emptyIndex tr s with
  | zero => exact sat_ret stable_placed h fun _ _ h' => h'
  | succ rounds ih =>
      refine sat_accept h (fun e tr₁ s₁ h₁ => sat_ret stable_placed h₁ fun _ _ h' => h') ?_
      intro fd tr₁ s₁ h₁
      refine (sat_findEmptySlot stable_came h₁ _ emptyIndex).bind ?_
      rintro r tr₂ s₂ - h₂
      rcases r with _ | i
      · exact sat_refuse h₂ fun _ _ _ h₃ => sat_ret stable_placed h₃ fun _ _ h' => h'
      · refine sat_setSlot h₂ fun tr₃ s₃ h₃ => ?_
        refine (sat_aside (stable_placed.and stable_unlisted.imp)
          (aside_send (fun _ hs => hs.2) _) h₃).bind ?_
        rintro e tr₄ s₄ - h₄
        exact ih (h₄.mono fun _ hs => hs.1) i

/-! ### The request -/

/-- What `GetTask` has done for a request. -/
structure Taken (m : HdcpDaemon) (y : ℕ) (task : HdcpDaemon.Task) (s : DaemonState ι) : Prop where
  placed : Placed m y s
  unlisted : task.appId = y → y ∉ s.callBackList
  fresh : task.appId = y → task.req.command = HdcpApi.createCallBack → Fresh y s

omit [DecidableEq ι] in
lemma stable_taken {task : HdcpDaemon.Task} :
    Stable y (Taken m y task : DaemonState ι → Prop) :=
  fun s s' hsame h => ⟨stable_placed s s' hsame h.placed,
    fun heq => stable_unlisted s s' hsame (h.unlisted heq),
    fun heq hcommand => stable_fresh s s' hsame (h.fresh heq hcommand)⟩

/-- The entry `n` holds a descriptor of a client. -/
def Slot (m : HdcpDaemon) (y n fd : ℕ) (s : DaemonState ι) : Prop :=
  Placed m y s ∧ (s.sessionFdArray n).fd = some fd

omit [DecidableEq ι] in
lemma stable_slot : Stable y (Slot m y n fd : DaemonState ι → Prop) :=
  fun s s' hsame h => ⟨stable_placed s s' hsame h.1, (hsame.fds n).trans h.2⟩

omit [DecidableEq ι] in
lemma Slot.unlisted (h : Slot m y n fd s) (heq : fd = y) : y ∉ s.callBackList := by
  subst heq
  exact fun hy => (h.1.listed hy).2 n h.2

omit [DecidableEq ι] in
/-- The connection leaves the array with its only entry. -/
lemma Slot.freed (h : Slot m y n y s) (i : ℕ) :
    ((s.setEntry n ⟨none, 0⟩).sessionFdArray i).fd ≠ some y := by
  rw [DaemonState.setEntry_array]
  by_cases hin : i = n
  · subst hin
    rw [Function.update_self]
    simp
  · rw [Function.update_of_ne hin]
    exact fun hi => hin (h.1.one i n hi h.2)

/-- The entry is freed for a request. -/
lemma sat_freeSlot {k : Option ℕ → DaemonProg α} (hne : fd ≠ m.fd)
    (h : Serving main c (Slot m y n fd) tr s)
    (hk : ∀ r tr' s', Serving main c (Came m y fd) tr' s' →
      RepSat m main y main c Q (k r) tr' s') :
    RepSat m main y main c Q (freeSlot n >>= k) tr s := by
  intro tr' s' hrely hinv r s'' hstep _
  have h' := h.of_rely stable_slot hrely
  obtain ⟨-, rfl⟩ := DaemonState.answer_eq_some.1 hstep
  have hslot := h'.known
  have hcame : Came m y fd (s'.setEntry n ⟨none, 0⟩) := by
    refine ⟨hslot.1.setEntry (by simp), ?_⟩
    rintro rfl
    exact ⟨hslot.unlisted rfl, (hslot.1.opened n hslot.2).resolve_left hne, hslot.freed⟩
  obtain ⟨hkeeps, h''⟩ := h'.step (s'.setEntry n ⟨none, 0⟩) (o := .freeSlot n) (r := r) hinv rfl rfl
    nofun nofun
    (fun _ => nofun) hcame
  exact ⟨hkeeps, hk _ _ _ h''⟩

/-- The connection is closed, because the client is gone. -/
lemma sat_closeSlot {k : Option ℕ → DaemonProg α} (h : Serving main c (Slot m y n fd) tr s)
    (hk : ∀ r tr' s',
      Serving main c (fun s => Placed m y s ∧ (fd = y → y ∉ s.callBackList)) tr' s' →
      RepSat m main y main c Q (k r) tr' s') :
    RepSat m main y main c Q (close fd >>= fun _ => freeSlot n >>= k) tr s := by
  intro tr₁ s₁ hrely₁ hinv₁ e s₂ hstep₁ _
  have h₁ := h.of_rely stable_slot hrely₁
  obtain rfl := Option.some.inj hstep₁
  have hslot := h₁.known
  -- between the two steps the entry holds a closed descriptor
  let Between (s : DaemonState ι) : Prop :=
    (∀ i, (s.sessionFdArray i).fd = some y → fd ≠ y ∨ i = n) ∧ (fd = y → y ∉ s.callBackList) ∧
      (fd ≠ y → Placed m y s)
  have hbetween : Stable y Between := by
    rintro s s' hsame ⟨hslots, hunlisted, hplaced⟩
    refine ⟨fun i hi => hslots i ((hsame.fds i).symm.trans hi), fun heq => ?_, fun hne => ?_⟩
    · exact stable_unlisted s s' hsame (hunlisted heq)
    · exact stable_placed s s' hsame (hplaced hne)
  have hclosed : Between (s₁.setOpened fd false) := by
    refine ⟨fun i hi => ?_, hslot.unlisted, fun hne => hslot.1.setOpened hne false⟩
    by_cases hfd : fd = y
    · subst hfd
      exact .inr (hslot.1.one i n hi hslot.2)
    · exact .inl hfd
  obtain ⟨hkeeps, h₂⟩ := h₁.step (s₁.setOpened fd false) (o := .close fd) (r := e) hinv₁ rfl rfl
    nofun nofun
    (fun _ => nofun) hclosed
  refine ⟨hkeeps, ?_⟩
  intro tr₃ s₃ hrely₃ hinv₃ r s₄ hstep₃ _
  have h₃ := h₂.of_rely hbetween hrely₃
  obtain ⟨-, rfl⟩ := DaemonState.answer_eq_some.1 hstep₃
  obtain ⟨hslots, hunlisted, hplaced⟩ := h₃.known
  have hfreed : Placed m y (s₃.setEntry n ⟨none, 0⟩) := by
    by_cases hfd : fd = y
    · have hnone (i : ℕ) : ((s₃.setEntry n ⟨none, 0⟩).sessionFdArray i).fd ≠ some y := by
        rw [DaemonState.setEntry_array]
        by_cases hin : i = n
        · subst hin
          rw [Function.update_self]
          simp
        · rw [Function.update_of_ne hin]
          intro hi
          exact (hslots i hi).elim (fun hne => hne hfd) hin
      exact ⟨fun i _ hi _ => absurd hi (hnone i), fun i hi => absurd hi (hnone i),
        fun hy => absurd hy (hunlisted hfd)⟩
    · exact (hplaced hfd).setEntry (by simp)
  obtain ⟨hkeeps', h₄⟩ := h₃.step (s₃.setEntry n ⟨none, 0⟩) (o := .freeSlot n) (r := r) hinv₃ rfl
    rfl nofun nofun
    (fun _ => nofun) (F := fun s => Placed m y s ∧ (fd = y → y ∉ s.callBackList))
    ⟨hfreed, hunlisted⟩
  exact ⟨hkeeps', hk _ _ _ h₄⟩

omit [DecidableEq ι] in
lemma aside_getRequest : (m.getRequest fd).Uses (Aside y E) := by
  refine Prog.Uses.bind (uses_readLoop (fun n => Prog.uses_op.2 ⟨rfl, nofun⟩) _ _ _) ?_
  rintro (e | bytes)
  · trivial
  · trivial

lemma sat_serveSlot (hne : fd ≠ m.fd) (h : Serving main c (Slot m y n fd) tr s) :
    RepSat m main y main c (fun task => Serving main c (Taken m y task)) (m.serveSlot n fd)
      tr s := by
  refine (sat_aside stable_slot aside_getRequest h).bind ?_
  rintro r tr₁ s₁ - h₁
  rcases r with e | req
  · refine sat_closeSlot h₁ fun _ tr₂ s₂ h₂ => ?_
    refine sat_ret (stable_placed.and stable_unlisted.imp) h₂ fun _ _ h' => h'.mono fun _ hs => ?_
    exact ⟨hs.1, hs.2, fun _ hcommand => absurd hcommand (by decide : HdcpApi.destroy ≠ _)⟩
  · refine Protocol.Sat.ite (fun hcommand => ?_) fun hcommand => ?_
    · refine sat_freeSlot hne h₁ fun _ tr₂ s₂ h₂ => ?_
      refine sat_ret stable_came h₂ fun _ _ h' => h'.mono fun _ hs => ?_
      exact ⟨hs.1, fun heq => (hs.2 heq).unlisted, fun heq _ => hs.2 heq⟩
    · refine sat_ret stable_slot h₁ fun _ _ h' => h'.mono fun _ hs => ?_
      exact ⟨hs.1, hs.unlisted, fun _ heq => absurd heq (not_or.1 hcommand).1⟩

/-- What is known when `GetTask` has polled. -/
def Polled (m : HdcpDaemon) (y : ℕ) : Option HdcpDaemon.Task → DaemonState ι → Prop
  | none => Placed m y
  | some task => Taken m y task

omit [DecidableEq ι] in
lemma stable_polled {task : Option HdcpDaemon.Task} :
    Stable y (Polled m y task : DaemonState ι → Prop) := by
  cases task with
  | none => exact stable_placed
  | some task => exact stable_taken

lemma sat_getTaskLoop (h : Serving main c (Placed m y) tr s) (fdIndex todo i : ℕ) :
    RepSat m main y main c (fun r => match r with
      | .error _ => Serving main c (Placed m y)
      | .ok (_, task) => Serving main c (Polled m y task)) (m.getTaskLoop fdIndex todo i) tr s := by
  induction todo generalizing i tr s with
  | zero => exact sat_ret stable_placed h fun _ _ h' => h'
  | succ todo ih =>
      refine Protocol.Sat.ite (fun _ => sat_ret stable_placed h fun _ _ h' => h') fun _ => ?_
      -- what the entry holds is known from the state in which it is read
      intro tr₁ s₁ hrely hinv r s₁' hstep _
      have h₁ := h.of_rely stable_placed hrely
      obtain ⟨rfl, rfl⟩ := DaemonState.answer_eq_some.1 hstep
      obtain ⟨hkeeps, h₂⟩ := h₁.step s₁' (o := .getSlot i) (r := s₁'.sessionFdArray i)
        (F := Placed m y) hinv rfl rfl nofun nofun (fun _ => nofun) h₁.known
      refine ⟨hkeeps, ?_⟩
      rcases hslot : s₁'.sessionFdArray i with ⟨_ | fd, revents⟩
      · exact ih (hslot ▸ h₂) _
      refine Protocol.Sat.ite (fun _ => ih (hslot ▸ h₂) _) fun _ => ?_
      refine Protocol.Sat.ite (fun _ => ?_) fun hne => ?_
      · refine (sat_acceptLoop (hslot ▸ h₂) _ _).bind ?_
        rintro ret tr₂ s₂ - h₃
        refine Protocol.Sat.ite (fun _ => ?_) fun _ => ih h₃ _
        exact sat_ret stable_placed h₃ fun _ _ h' => h'
      · have h₃ : Serving main c (Slot m y i fd) _ s₁' :=
          ⟨h₂.busy, h₂.known, congrArg PollFd.fd hslot⟩
        refine (sat_serveSlot (Ne.symm hne) (hslot ▸ h₃)).bind ?_
        rintro task tr₂ s₂ - h₄
        exact sat_ret stable_taken h₄ fun _ _ h' => h'

lemma sat_getTask (h : Serving main c (Placed m y) tr s) (rounds : ℕ) :
    RepSat m main y main c (fun r => Serving main c (Polled m y (r.bind Except.toOption)))
      (m.getTask rounds) tr s := by
  rw [HdcpDaemon.getTask]
  induction rounds generalizing tr s with
  | zero => exact sat_ret stable_placed h fun _ _ h' => h'
  | succ rounds ih =>
      rw [Prog.iter_succ]
      have hround : RepSat m main y main c
          (fun r => Serving main c (Polled m y (r.elim (fun _ => none) Except.toOption)))
          m.getTaskRound tr s := by
        have hpoll : pollForEvent.Uses (Aside y (Placed m y : DaemonState ι → Prop)) :=
          Prog.uses_op.2 (aside_of_still rfl (by simp))
        refine (sat_aside stable_placed hpoll h).bind ?_
        rintro (e | revents) tr₁ s₁ - h₁
        · exact sat_ret stable_placed h₁ fun _ _ h' => h'
        have hget : getFdIndex.Uses (Aside y (Placed m y : DaemonState ι → Prop)) :=
          Prog.uses_op.2 (aside_of_still rfl (by simp))
        refine (sat_aside stable_placed hget h₁).bind ?_
        rintro fdIndex tr₂ s₂ - h₂
        refine (sat_getTaskLoop h₂ fdIndex _ _).bind ?_
        rintro (e | ⟨i, task⟩) tr₃ s₃ - h₃
        · exact sat_ret stable_placed h₃ fun _ _ h' => h'
        have hset : (setFdIndex i).Uses (Aside y (Polled m y task : DaemonState ι → Prop)) :=
          Prog.uses_op.2 (aside_of_still rfl (by simp))
        refine (sat_aside stable_polled hset h₃).bind ?_
        rintro - tr₄ s₄ - h₄
        cases task with
        | none => exact sat_ret stable_placed h₄ fun _ _ h' => h'
        | some task => exact sat_ret stable_taken h₄ fun _ _ h' => h'
      refine hround.bind ?_
      rintro (⟨⟩ | e | task) tr' s' - h'
      · exact ih h'
      · exact sat_ret stable_placed h' fun _ _ h'' => h''
      · exact sat_ret stable_taken h' fun _ _ h'' => h''

/-! ### The registration -/

/-- All reports have been written as a whole. -/
def Whole (m : HdcpDaemon) (y : ℕ) (tr : DaemonTrace ι) (s : DaemonState ι) : Prop :=
  y ∈ s.callBackList → saidSince y tr = frames m (reportsSince y tr)

omit [DecidableEq ι] in
lemma Whole.guarded (h : Whole m y tr s) (hguarded : Guarded y i tr s tr' s') :
    Whole m y tr' s' := by
  intro hy
  rw [hguarded.list] at hy
  rw [hguarded.said hy, hguarded.reports hy]
  exact h hy

/-- The message loop holds the mutex. -/
structure Registering (m : HdcpDaemon) (main : ι) (y : ℕ) (c : DaemonCall)
    (E : DaemonState ι → Prop) (tr : DaemonTrace ι) (s : DaemonState ι) : Prop where
  serving : Serving main c E tr s
  mutex : s.callBackListMutex = some main
  whole : Whole m y tr s

lemma Registering.of_rely (h : Registering m main y c E tr s) (hE : Stable y E)
    (hrely : (reportsProtocol m main y).rely main tr s tr' s') :
    Registering m main y c E tr' s' := by
  have hguarded := hrely.2 h.mutex
  exact ⟨h.serving.of_rely hE hrely, hguarded.mutex, h.whole.guarded hguarded⟩

/-- A step of the message loop while it holds the mutex. -/
lemma Registering.step (h : Registering m main y c E tr s) (t : DaemonState ι)
    (hnodup : t.callBackList.Nodup)
    (hregistered : isRegistered y (.op main c ⟨o, r⟩ :: tr) = true → y ∈ t.callBackList)
    (hwhole : Whole m y (.op main c ⟨o, r⟩ :: tr) t) (hF : F t) :
    (reportsProtocol m main y).Keeps main tr s (.op main c ⟨o, r⟩) t ∧
      Serving main c F (.op main c ⟨o, r⟩ :: tr) t := by
  refine ⟨⟨⟨hnodup, hregistered, fun hidle => ?_, fun hy => ?_, fun hy _ => hwhole hy⟩,
    fun j hj => ⟨fun heq => absurd heq hj, fun hj' => ?_⟩⟩, h.serving.busy, hF⟩
  · have hcalling : calling main tr = none := hidle
    rw [h.serving.busy] at hcalling
    exact absurd hcalling (by simp)
  · rw [hwhole hy]
  · exact absurd (Option.some.inj (h.mutex.symm.trans hj')) hj.symm

lemma sat_callBackBegin {k : Unit → DaemonProg α} (hE : Stable y E)
    (h : Serving main (.messageResponse n) E tr s)
    (hk : ∀ tr' s', Registering m main y (.messageResponse n) E tr' s' →
      RepSat m main y main (.messageResponse n) Q (k ()) tr' s') :
    RepSat m main y main (.messageResponse n) Q (callBackBegin >>= k) tr s := by
  intro tr' s' hrely hinv _ s'' hstep _
  have h' := h.of_rely hE hrely
  obtain ⟨hfree, hs⟩ := Option.ite_none_right_eq_some.1 hstep
  obtain rfl := Option.some.inj hs
  have hwhole : Whole m y (.op main (.messageResponse n) ⟨.callBackBegin, ()⟩ :: tr')
      (s'.setMutex (some main)) := fun hy => hinv.free hy hfree
  refine ⟨⟨⟨hinv.nodup, hinv.registered, fun hidle => ?_, hinv.said, fun hy _ => hwhole hy⟩,
    fun j hj => ⟨fun heq => absurd heq hj, fun hj' => ?_⟩⟩, hk _ _ ⟨⟨h'.busy, ?_⟩, rfl, hwhole⟩⟩
  · have hcalling : calling main tr' = none := hidle
    rw [h'.busy] at hcalling
    exact absurd hcalling (by simp)
  · exact absurd (hfree.symm.trans hj') (by simp)
  · exact hE s' _ ⟨fun _ => rfl, rfl, Iff.rfl⟩ h'.known

lemma sat_callBackEnd {k : Unit → DaemonProg α} (hE : Stable y E)
    (h : Registering m main y c E tr s)
    (hk : ∀ tr' s', Serving main c E tr' s' → RepSat m main y main c Q (k ()) tr' s') :
    RepSat m main y main c Q (callBackEnd >>= k) tr s := by
  intro tr' s' hrely hinv r s'' hstep _
  have h' := h.of_rely hE hrely
  obtain rfl := Option.some.inj hstep
  obtain ⟨hkeeps, h''⟩ := h'.step (s'.setMutex none) (o := .callBackEnd) (r := r) (F := E)
    hinv.nodup hinv.registered h'.whole (hE s' _ ⟨fun _ => rfl, rfl, Iff.rfl⟩ h'.serving.known)
  exact ⟨hkeeps, hk _ _ h''⟩

/-- The connection is registered, or another one. -/
lemma sat_register {k : Unit → DaemonProg α}
    (h : Serving main (.messageResponse n) (Came m y fd) tr s)
    (hk : ∀ tr' s', Serving main (.messageResponse n) (Placed m y) tr' s' →
      RepSat m main y main (.messageResponse n) Q (k ()) tr' s') :
    RepSat m main y main (.messageResponse n) Q
      (do callBackBegin; removeCallBack fd; pushBackCallBack fd; callBackEnd; k ()) tr s := by
  refine sat_callBackBegin stable_came h fun tr₁ s₁ h₁ => ?_
  -- the descriptor is removed from the list, where the connection is only when it is another one
  intro tr₂ s₂ hrely₂ hinv₂ r₂ s₂' hstep₂ _
  have h₂ := h₁.of_rely stable_came hrely₂
  obtain rfl := Option.some.inj hstep₂
  have hlisted : y ∈ s₂.callBackList.filter (· ≠ fd) ↔ y ∈ s₂.callBackList := by
    refine ⟨fun hy => (List.mem_filter.1 hy).1, fun hy => List.mem_filter.2 ⟨hy, ?_⟩⟩
    have hne : y ≠ fd := by
      rintro rfl
      exact (h₂.serving.known.2 rfl).unlisted hy
    simpa using hne
  have hsame : Same y s₂ (s₂.setList (s₂.callBackList.filter (· ≠ fd))) :=
    ⟨fun _ => rfl, rfl, hlisted⟩
  have hwhole₂ : Whole m y (.op main (.messageResponse n) ⟨.removeCallBack fd, r₂⟩ :: tr₂)
      (s₂.setList (s₂.callBackList.filter (· ≠ fd))) := fun hy => h₂.whole (hlisted.1 hy)
  obtain ⟨hkeeps₂, hserving₂⟩ := h₂.step (s₂.setList (s₂.callBackList.filter (· ≠ fd)))
    (o := .removeCallBack fd) (r := r₂) (F := Came m y fd) (hinv₂.nodup.filter _)
    (fun hr => hlisted.2 (hinv₂.registered hr)) hwhole₂
    (stable_came _ _ hsame h₂.serving.known)
  refine ⟨hkeeps₂, ?_⟩
  -- it is added to the end of the list, which it is not in
  intro tr₃ s₃ hrely₃ hinv₃ r₃ s₃' hstep₃ _
  have h₃ : Registering m main y _ (Came m y fd) tr₃ s₃ :=
    Registering.of_rely ⟨hserving₂, h₂.mutex, hwhole₂⟩ stable_came hrely₃
  have hgone : fd ∉ s₃.callBackList := by
    rw [(hrely₃.2 h₂.mutex).list]
    exact fun hmem => absurd (List.mem_filter.1 hmem).2 (by simp)
  obtain rfl := Option.some.inj hstep₃
  have hnodup : (s₃.callBackList ++ [fd]).Nodup := by
    rw [List.nodup_append]
    refine ⟨hinv₃.nodup, by simp, ?_⟩
    rintro fd₁ hmem fd₂ hmem' rfl
    exact hgone (List.mem_singleton.1 hmem' ▸ hmem)
  have hplaced : Placed m y (s₃.setList (s₃.callBackList ++ [fd])) := by
    obtain ⟨hplaced, hfresh⟩ := h₃.serving.known
    refine ⟨hplaced.one, hplaced.opened, fun hy => ?_⟩
    rcases List.mem_append.1 hy with hold | hnew
    · exact hplaced.listed hold
    · have hf := hfresh (List.mem_singleton.1 hnew).symm
      exact ⟨hf.opened, hf.slots⟩
  have hregistered (hr : isRegistered y
      (.op main (.messageResponse n) ⟨.pushBackCallBack fd, r₃⟩ :: tr₃) = true) :
      y ∈ s₃.callBackList ++ [fd] := by
    by_cases hfd : fd = y
    · simp [hfd]
    · have hne : DaemonOp.pushBackCallBack fd ≠ .pushBackCallBack y :=
        fun heq => hfd (DaemonOp.pushBackCallBack.inj heq)
      rw [registered_cons hne] at hr
      exact List.mem_append_left _ (hinv₃.registered hr)
  have hwhole₃ : Whole m y (.op main (.messageResponse n) ⟨.pushBackCallBack fd, r₃⟩ :: tr₃)
      (s₃.setList (s₃.callBackList ++ [fd])) := by
    intro hy
    by_cases hfd : fd = y
    · rw [saidSince, reportsSince, if_pos hfd, if_pos hfd]
      rfl
    · rw [saidSince, reportsSince, if_neg hfd, if_neg hfd]
      refine h₃.whole ((List.mem_append.1 hy).resolve_right fun hmem => ?_)
      exact hfd (List.mem_singleton.1 hmem).symm
  obtain ⟨hkeeps₃, hserving₃⟩ := h₃.step (s₃.setList (s₃.callBackList ++ [fd]))
    (o := .pushBackCallBack fd) (r := r₃) (F := Placed m y) hnodup hregistered hwhole₃ hplaced
  exact ⟨hkeeps₃, sat_callBackEnd stable_placed ⟨hserving₃, h₃.mutex, hwhole₃⟩ hk⟩

omit [DecidableEq ι] in
lemma aside_of_serves (hE : ∀ s, E s → fd = y → y ∉ s.callBackList) (o : DaemonOp)
    (h : Serves fd o) : Aside y E o := by
  rcases h with hinternal | ⟨n, rfl⟩ | ⟨data, rfl⟩
  · refine aside_of_still ?_ ?_
    · cases o <;> first | rfl | exact hinternal.elim
    · rintro data rfl
      exact hinternal.elim
  · exact aside_of_still rfl nofun
  · refine ⟨rfl, ?_⟩
    rintro data' heq s hs
    obtain ⟨rfl, -⟩ := DaemonOp.send.inj heq
    exact hE s hs rfl

lemma sat_answerTask {task : HdcpDaemon.Task}
    (h : Serving main (.messageResponse n) (Taken m y task) tr s) :
    RepSat m main y main (.messageResponse n)
      (fun _ => Serving main (.messageResponse n) (Placed m y)) (m.answerTask task) tr s := by
  have hplaced {β : Type} {p : DaemonProg β} {tr : DaemonTrace ι} {s : DaemonState ι}
      (hp : p.Uses (Serves task.appId))
      (h : Serving main (.messageResponse n) (Taken m y task) tr s) :
      RepSat m main y main (.messageResponse n)
        (fun _ => Serving main (.messageResponse n) (Placed m y)) p tr s := by
    have hE (s : DaemonState ι) (hs : Taken m y task s) := hs.unlisted
    refine (sat_aside stable_taken (hp.mono (aside_of_serves hE)) h).mono ?_
    rintro a tr' s' - h'
    exact h'.mono fun _ hs => hs.placed
  by_cases hcommand : task.req.command = HdcpApi.createCallBack
  · refine Protocol.Sat.ite (fun _ => hplaced serves_respond h) fun _ => ?_
    rw [dispatchCommand_createCallBack hcommand]
    refine sat_register (h.mono fun _ hs => ⟨hs.placed, fun heq => hs.fresh heq hcommand⟩) ?_
    exact fun tr' s' h' => sat_ret stable_placed h' fun _ _ h'' => h''
  · exact hplaced (serves_answerTask hcommand) h

lemma sat_messageResponse (h : Serving main (.messageResponse n) (Placed m y) tr s)
    (rounds : ℕ) :
    RepSat m main y main (.messageResponse n)
      (fun _ => Serving main (.messageResponse n) (Placed m y)) (m.messageResponse rounds)
      tr s := by
  refine (sat_getTask h rounds).bind ?_
  rintro (_ | (e | task)) tr₁ s₁ - h₁
  · exact sat_ret stable_placed h₁ fun _ _ h' => h'
  · exact sat_ret stable_placed h₁ fun _ _ h' => h'
  · exact sat_answerTask h₁

/-! ### A thread that reports -/

/-- A step of a thread that reports, while no other thread holds the mutex. -/
lemma keeps_reporter (hinv : (reportsProtocol m main y).inv tr s)
    (t : DaemonState ι) (hothers : ∀ j, j ≠ i → s.callBackListMutex ≠ some j)
    (hsame : Same y s t) (hnodup : t.callBackList.Nodup) (hpush : o ≠ .pushBackCallBack y)
    (hsaid : y ∈ t.callBackList → ∃ left,
      saidSince y (.op i c ⟨o, r⟩ :: tr) ++ left =
        frames m (reportsSince y (.op i c ⟨o, r⟩ :: tr)) ∧
      (t.callBackListMutex = none → left = [])) :
    (reportsProtocol m main y).Keeps i tr s (.op i c ⟨o, r⟩) t := by
  refine ⟨⟨hnodup, ?_, fun hidle => ?_, fun hy => ?_, fun hy hfree => ?_⟩, fun j hj => ⟨?_, ?_⟩⟩
  · rw [registered_cons hpush]
    exact fun hr => hsame.listed.2 (hinv.registered hr)
  · exact stable_placed s t hsame (hinv.idle hidle)
  · obtain ⟨left, hleft, -⟩ := hsaid hy
    rw [← hleft]
    exact List.prefix_append _ _
  · obtain ⟨left, hleft, hnil⟩ := hsaid hy
    rw [← hleft, hnil hfree, List.append_nil]
  · exact fun _ => ⟨rfl, hsame⟩
  · exact fun hmutex => absurd hmutex (hothers j hj)

/-- A report holds the mutex of the list, and has the bytes `left` to write on the connection. -/
structure Reporting (m : HdcpDaemon) (y : ℕ) (i : ι) (fds : List ℕ) (left : List UInt8)
    (tr : DaemonTrace ι) (s : DaemonState ι) : Prop where
  mutex : s.callBackListMutex = some i
  list : s.callBackList = fds
  said : y ∈ fds → saidSince y tr ++ left = frames m (reportsSince y tr)

variable {fds kept rest : List ℕ} {left more : List UInt8} {event portId : UInt32}

lemma Reporting.of_rely (h : Reporting m y i fds left tr s)
    (hrely : (reportsProtocol m main y).rely i tr s tr' s') :
    Reporting m y i fds left tr' s' := by
  have hguarded := hrely.2 h.mutex
  refine ⟨hguarded.mutex, hguarded.list.trans h.list, fun hy => ?_⟩
  have hy' : y ∈ s.callBackList := h.list.symm ▸ hy
  rw [hguarded.said hy', hguarded.reports hy']
  exact h.said hy

omit [DecidableEq ι] in
lemma Reporting.others (h : Reporting m y i fds left tr s) (j : ι) (hj : j ≠ i) :
    s.callBackListMutex ≠ some j :=
  fun hmutex => hj (Option.some.inj (hmutex.symm.trans h.mutex))

/-- A step after which `left` is what is left, and the mutex is still held. -/
lemma Reporting.step (h : Reporting m y i fds more tr s)
    (hinv : (reportsProtocol m main y).inv tr s) (t : DaemonState ι) (left : List UInt8)
    (hsame : Same y s t) (hmutex : t.callBackListMutex = s.callBackListMutex) {fds' : List ℕ}
    (hlist : t.callBackList = fds') (hnodup : fds'.Nodup) (hpush : o ≠ .pushBackCallBack y)
    (hsaid : y ∈ fds → saidSince y (.op i c ⟨o, r⟩ :: tr) ++ left =
      frames m (reportsSince y (.op i c ⟨o, r⟩ :: tr))) :
    (reportsProtocol m main y).Keeps i tr s (.op i c ⟨o, r⟩) t ∧
      Reporting m y i fds' left (.op i c ⟨o, r⟩ :: tr) t := by
  subst hlist
  have hlisted : y ∈ t.callBackList ↔ y ∈ fds := by rw [hsame.listed, h.list]
  refine ⟨?_, hmutex.trans h.mutex, rfl, fun hy => hsaid (hlisted.1 hy)⟩
  refine keeps_reporter hinv t h.others hsame hnodup hpush fun hy =>
    ⟨left, hsaid (hlisted.1 hy), ?_⟩
  rw [hmutex, h.mutex]
  exact fun heq => absurd heq (by simp)

/-- A `send` on the connection. -/
lemma sat_sendWorks {data : List UInt8} {k : Except Errno ℕ → DaemonProg α}
    (h : Reporting m y i fds (data ++ left) tr s)
    (hk : ∀ count tr' s', 0 < count → count ≤ data.length →
      Reporting m y i fds (data.drop count ++ left) tr' s' →
      RepSat m main y i (.reportStatus event portId) Q (k (.ok count)) tr' s') :
    RepSat m main y i (.reportStatus event portId) Q (Daemon.send y data >>= k) tr s := by
  intro tr' s' hrely hinv r s'' hstep hadm
  have h' := h.of_rely hrely
  obtain ⟨hanswer, hs⟩ := Option.ite_none_right_eq_some.1 hstep
  obtain rfl := Option.some.inj hs
  have hworks : Except.isOk (r : Except Errno ℕ) = true := hadm rfl
  cases (r : Except Errno ℕ) with
  | error e => exact absurd hworks (by simp [Except.isOk, Except.toBool])
  | ok count =>
      obtain ⟨hpos, hle⟩ := of_decide_eq_true hanswer
      have hsaid (hy : y ∈ fds) :
          saidSince y (.op i (.reportStatus event portId) ⟨.send y data, .ok count⟩ :: tr') ++
            (data.drop count ++ left) = frames m
              (reportsSince y (.op i (.reportStatus event portId)
                ⟨.send y data, .ok count⟩ :: tr')) := by
        rw [said_send, sentBytes, List.append_assoc, ← List.append_assoc (data.take _),
          List.take_append_drop]
        exact h'.said hy
      obtain ⟨hkeeps, h''⟩ := h'.step hinv s' (data.drop count ++ left) (o := .send y data)
        (r := .ok count) (.refl y s') rfl h'.list (h'.list ▸ hinv.nodup) (by simp) hsaid
      exact ⟨hkeeps, hk count _ _ hpos hle h''⟩

/-- The message goes out in parts. -/
lemma sat_writeLoop (rounds : ℕ) {data : List UInt8}
    (hrounds : data.length ≤ rounds) (h : Reporting m y i fds (data ++ left) tr s) :
    RepSat m main y i (.reportStatus event portId)
      (fun sts tr' s' => sts = .success ∧ Reporting m y i fds left tr' s')
      (writeLoop (Daemon.send y) rounds data) tr s := by
  induction rounds generalizing data tr s with
  | zero =>
      obtain rfl := List.eq_nil_of_length_eq_zero (Nat.le_zero.1 hrounds)
      exact fun _ _ hrely _ => ⟨rfl, h.of_rely hrely⟩
  | succ rounds ih =>
      refine Protocol.Sat.ite (fun hempty => ?_) fun _ => ?_
      · obtain rfl := List.isEmpty_iff.1 hempty
        exact fun _ _ hrely _ => ⟨rfl, h.of_rely hrely⟩
      · refine sat_sendWorks h fun count tr₁ s₁ hpos hle h₁ => ?_
        exact ih (by rw [List.length_drop]; omega) h₁

/-- What is said on another connection does not matter. -/
lemma sat_sendOther {rsp : SocketData} (hne : fd ≠ y)
    (h : Reporting m y i fds left tr s) :
    RepSat m main y i (.reportStatus event portId) (fun _ => Reporting m y i fds left)
      (m.sendResponse rsp fd) tr s := by
  have hp : (m.sendResponse rsp fd).Uses fun o : DaemonOp => ∃ data, o = .send fd data :=
    uses_writeLoop (fun data => Prog.uses_op.2 ⟨data, rfl⟩) _ _
  refine Protocol.sat_of_keeps hp h (fun hrely h => h.of_rely hrely) ?_
  rintro o r tr s s' ⟨data, rfl⟩ hinv h hstep -
  have hsame := step_places (m := m) (i := i) (o := .send fd data) rfl hstep
  have hlist : s'.callBackList = fds := hsame.list.trans h.list
  refine h.step hinv s' left (o := .send fd data) (r := r) (same_of_places hsame) hsame.mutex
    hlist (h.list ▸ hinv.nodup) nofun fun hy => ?_
  have hsaid : saidSince y (.op i (.reportStatus event portId) ⟨.send fd data, r⟩ :: tr) =
      saidSince y tr := if_neg hne
  rw [hsaid]
  exact h.said hy

/-- What is left to be said on the connection, when these descriptors have not been served. -/
def leftFor (m : HdcpDaemon) (y : ℕ) (report : UInt32 × UInt32) (rest : List ℕ) : List UInt8 :=
  if y ∈ rest then frame m report else []

/-- A descriptor that failed is closed and erased; it is not the connection. -/
lemma sat_closeErase {k : Unit → DaemonProg α} (hne : fd ≠ y)
    (h : Reporting m y i (kept ++ fd :: rest) left tr s)
    (hk : ∀ tr' s', Reporting m y i (kept ++ rest) left tr' s' →
      RepSat m main y i (.reportStatus event portId) Q (k ()) tr' s') :
    RepSat m main y i (.reportStatus event portId) Q
      (close fd >>= fun _ => eraseCallBackAt kept.length >>= k) tr s := by
  intro tr₁ s₁ hrely₁ hinv₁ e s₁' hstep₁ _
  have h₁ := h.of_rely hrely₁
  obtain rfl := Option.some.inj hstep₁
  have hclosed : Same y s₁ (s₁.setOpened fd false) :=
    ⟨fun _ => rfl, Function.update_of_ne hne.symm _ _, Iff.rfl⟩
  obtain ⟨hkeeps₁, h₂⟩ := h₁.step hinv₁ (s₁.setOpened fd false) left (o := .close fd) (r := e)
    hclosed rfl h₁.list (h₁.list ▸ hinv₁.nodup) nofun h₁.said
  refine ⟨hkeeps₁, ?_⟩
  intro tr₃ s₃ hrely₃ hinv₃ u s₃' hstep₃ _
  have h₃ := h₂.of_rely hrely₃
  obtain rfl := Option.some.inj hstep₃
  have herase : s₃.callBackList.eraseIdx kept.length = kept ++ rest := by
    rw [h₃.list, List.eraseIdx_append_of_length_le le_rfl, Nat.sub_self]
    rfl
  have herased : Same y s₃ (s₃.setList (s₃.callBackList.eraseIdx kept.length)) := by
    refine ⟨fun _ => rfl, rfl, ?_⟩
    rw [DaemonState.setList_list, herase, h₃.list]
    simp [hne.symm]
  obtain ⟨hkeeps₃, h₄⟩ := h₃.step hinv₃ (s₃.setList (s₃.callBackList.eraseIdx kept.length)) left
    (o := .eraseCallBackAt kept.length) (r := u) herased rfl herase
    (herase ▸ (List.eraseIdx_sublist _ _).nodup hinv₃.nodup) nofun h₃.said
  exact ⟨hkeeps₃, hk _ _ h₄⟩

/-- The loop writes the message on the connection when it comes to it. -/
lemma sat_reportLoop {data : SocketData} (hframe : m.layout.encode data = frame m (event, portId))
    (rest kept : List ℕ) (hnodup : (kept ++ rest).Nodup)
    (h : Reporting m y i (kept ++ rest) (leftFor m y (event, portId) rest) tr s) :
    RepSat m main y i (.reportStatus event portId)
      (fun _ tr' s' => ∃ fds, Reporting m y i fds [] tr' s')
      (m.reportLoop data rest kept.length) tr s := by
  induction rest generalizing kept tr s with
  | nil => exact fun _ _ hrely _ => ⟨_, h.of_rely hrely⟩
  | cons fd rest ih =>
      have hassoc : kept ++ fd :: rest = (kept ++ [fd]) ++ rest := by simp
      have hrest : (kept ++ [fd] ++ rest).Nodup := hassoc ▸ hnodup
      by_cases hfd : fd = y
      · subst hfd
        -- the message goes out here, and not again
        have hgone : fd ∉ rest := fun hmem =>
          (List.nodup_append.1 hrest).2.2 fd (by simp) fd hmem rfl
        have hleft : leftFor m fd (event, portId) (fd :: rest) =
            m.layout.encode data ++ leftFor m fd (event, portId) rest := by
          rw [leftFor, leftFor, if_pos List.mem_cons_self, if_neg hgone, hframe, List.append_nil]
        rw [hleft] at h
        refine (sat_writeLoop _ le_rfl h).bind ?_
        rintro sts tr₁ s₁ - ⟨rfl, h₁⟩
        refine Protocol.Sat.ite (fun hsts => absurd rfl hsts) fun _ => ?_
        rw [hassoc] at h₁
        rw [show kept.length + 1 = (kept ++ [fd]).length by simp]
        exact ih _ hrest h₁
      · have hleft : leftFor m y (event, portId) (fd :: rest) =
            leftFor m y (event, portId) rest := by
          rw [leftFor, leftFor]
          simp [Ne.symm hfd]
        rw [hleft] at h
        refine (sat_sendOther hfd h).bind ?_
        rintro sts tr₁ s₁ - h₁
        refine Protocol.Sat.ite (fun _ => ?_) fun _ => ?_
        · refine sat_closeErase hfd h₁ fun tr₂ s₂ h₂ => ih kept ?_ h₂
          exact (List.Sublist.append_left (List.sublist_cons_self fd rest) kept).nodup hnodup
        · rw [hassoc] at h₁
          rw [show kept.length + 1 = (kept ++ [fd]).length by simp]
          exact ih _ hrest h₁

lemma sat_reportStatus (event portId : UInt32) :
    RepSat m main y i (.reportStatus event portId) (fun _ _ _ => True)
      (m.reportStatus event portId) tr s := by
  rw [FanOut.reportStatus_eq]
  -- the mutex is acquired, and there is one more report to be written
  intro tr₁ s₁ hrely₁ hinv₁ u s₁' hstep₁ _
  obtain ⟨hfree, hs₁⟩ := Option.ite_none_right_eq_some.1 hstep₁
  obtain rfl := Option.some.inj hs₁
  have hsaid (hy : y ∈ s₁.callBackList) :
      saidSince y (.op i (.reportStatus event portId) ⟨.callBackBegin, u⟩ :: tr₁) ++
        frame m (event, portId) =
      frames m
        (reportsSince y (.op i (.reportStatus event portId) ⟨.callBackBegin, u⟩ :: tr₁)) := by
    have hold : saidSince y tr₁ = frames m (reportsSince y tr₁) := hinv₁.free hy hfree
    rw [saidSince, reportsSince, hold, frames, frames, List.flatMap_append, List.flatMap_singleton]
    · exact nofun
    · exact nofun
  refine ⟨keeps_reporter hinv₁ (s₁.setMutex (some i)) (fun j _ hmutex => ?_)
    ⟨fun _ => rfl, rfl, Iff.rfl⟩ hinv₁.nodup nofun fun hy => ⟨_, hsaid hy, nofun⟩, ?_⟩
  · exact absurd (hfree.symm.trans hmutex) (by simp)
  -- the list is read
  have h₁ : Reporting m y i s₁.callBackList (frame m (event, portId))
      (.op i (.reportStatus event portId) ⟨.callBackBegin, u⟩ :: tr₁) (s₁.setMutex (some i)) :=
    ⟨rfl, rfl, hsaid⟩
  intro tr₂ s₂ hrely₂ hinv₂ fds s₂' hstep₂ _
  have h₂ := h₁.of_rely hrely₂
  obtain ⟨rfl, rfl⟩ := DaemonState.answer_eq_some.1 hstep₂
  obtain ⟨hkeeps₂, h₃⟩ := h₂.step hinv₂ s₂' (leftFor m y (event, portId) s₂'.callBackList)
    (o := .getCallBackList) (r := s₂'.callBackList) (.refl y s₂') rfl rfl hinv₂.nodup nofun
    fun hy => by rw [leftFor, if_pos (h₂.list ▸ hy)]; exact h₂.said hy
  refine ⟨hkeeps₂, ?_⟩
  refine (sat_reportLoop rfl s₂'.callBackList [] hinv₂.nodup h₃).bind ?_
  rintro _ tr₄ s₄ - ⟨fds, h₄⟩
  -- the mutex is released
  intro tr₅ s₅ hrely₅ hinv₅ v s₅' hstep₅ _
  have h₅ := h₄.of_rely hrely₅
  obtain rfl := Option.some.inj hstep₅
  refine ⟨keeps_reporter (o := .callBackEnd) hinv₅ (s₅.setMutex none) h₅.others
    ⟨fun _ => rfl, rfl, Iff.rfl⟩ hinv₅.nodup nofun fun hy => ⟨[], ?_, fun _ => rfl⟩,
    fun _ _ _ _ => trivial⟩
  exact h₅.said (h₅.list ▸ hy)

/-! ### Runs -/

lemma inv_of_run {cfg : DaemonConfig ι}
    (hrun : (m.system main).Run (Works y) m.initState tr cfg) :
    (reportsProtocol m main y).inv tr cfg.shared := by
  refine (Protocol.sound (P := reportsProtocol m main y) ?_ ?_ hrun).1
  · refine ⟨List.nodup_nil, fun h => absurd h (by simp [isRegistered]), fun _ => ?_,
      fun h => absurd h List.not_mem_nil, fun h => absurd h List.not_mem_nil⟩
    have hslot (i : ℕ) (hi : ((m.initState : DaemonState ι).sessionFdArray i).fd = some y) :
        i = 0 ∧ y = m.fd := by
      by_cases hzero : i = 0
      · subst hzero
        exact ⟨rfl, (by simpa [HdcpDaemon.initState] using hi : m.fd = y).symm⟩
      · simp [HdcpDaemon.initState, hzero] at hi
    exact ⟨fun i j hi hj => (hslot i hi).1.trans (hslot j hj).1.symm,
      fun i hi => .inl (hslot i hi).2, fun h => absurd h List.not_mem_nil⟩
  intro i c tr s hmay hidle hinv _
  cases c with
  | messageResponse rounds =>
      obtain rfl : i = main := of_decide_eq_true hmay
      have hcalling : calling i (.call i (.messageResponse rounds) :: tr : DaemonTrace ι) =
          some (.messageResponse rounds) := if_pos rfl
      refine ⟨⟨⟨hinv.nodup, hinv.registered, fun h => ?_, hinv.said, hinv.free⟩,
        fun j hj => ⟨fun h => absurd h hj, fun hmutex =>
          ⟨hmutex, rfl, fun _ => rfl, fun _ => rfl⟩⟩⟩, ?_⟩
      · rw [hcalling] at h
        exact absurd h (by simp)
      · refine (sat_messageResponse ⟨hcalling, hinv.idle hidle⟩ rounds).mono ?_
        intro _ tr' s' hinv' h' _
        exact ⟨⟨hinv'.nodup, hinv'.registered, fun _ => h'.known, hinv'.said, hinv'.free⟩,
          fun j hj => ⟨fun h => absurd h hj, fun hmutex =>
            ⟨hmutex, rfl, fun _ => rfl, fun _ => rfl⟩⟩⟩
  | reportStatus event portId =>
      have hi : i ≠ main := of_decide_eq_true hmay
      have hcalling (c' : DaemonCall) :
          calling main (.call i c' :: tr : DaemonTrace ι) = calling main tr := if_neg hi
      have hret {tr' : DaemonTrace ι} {c' : DaemonCall} :
          calling main (.ret i c' () :: tr' : DaemonTrace ι) = calling main tr' := if_neg hi
      refine ⟨⟨⟨hinv.nodup, hinv.registered, fun h => ?_, hinv.said, hinv.free⟩,
        fun j hj => ⟨fun heq => ?_, fun hmutex => ⟨hmutex, rfl, fun _ => rfl, fun _ => rfl⟩⟩⟩, ?_⟩
      · exact hinv.idle ((hcalling _).symm.trans h)
      · subst heq
        exact ⟨hcalling _, .refl y s⟩
      · refine (sat_reportStatus event portId).mono ?_
        intro _ tr' s' hinv' _ _
        refine ⟨⟨hinv'.nodup, hinv'.registered, fun h => hinv'.idle (hret.symm.trans h),
          hinv'.said, hinv'.free⟩, fun j hj => ⟨fun heq => ?_, fun hmutex =>
            ⟨hmutex, rfl, fun _ => rfl, fun _ => rfl⟩⟩⟩
        subst heq
        exact ⟨hret, .refl y s'⟩

/-! ### Calls that have returned -/

/-- The threads that report acquire the mutex once in a call. -/
def mayAcquire (main i : ι) (log : List (Event daemonSig)) (o : DaemonOp) : Prop :=
  i ≠ main → o = .callBackBegin → ∀ e ∈ log, e.op ≠ .callBackBegin

/-- A report has acquired the mutex when it returns. -/
def hasAcquired : DaemonCall → List (Event daemonSig) → Prop
  | .messageResponse _, _ => True
  | .reportStatus _ _, log => ∃ e ∈ log, e.op = .callBackBegin

def anyAnswer (_ : Event daemonSig) : Prop := True

/-- Every call of `ReportStatus` acquires the mutex of the list once, and not after its return. -/
def ReportsOnce (main : ι) : DaemonLabel ι → DaemonTrace ι → Prop :=
  Allowed (mayAcquire main) fun _ c _ log => hasAcquired c log

omit [DecidableEq ι] in
lemma uses_reportLoop {A : DaemonOp → Prop} (hsend : ∀ fd data, A (.send fd data))
    (hclose : ∀ fd, A (.close fd)) (herase : ∀ n, A (.eraseCallBackAt n)) (data : SocketData)
    (fds : List ℕ) (n : ℕ) : (m.reportLoop data fds n).Uses A := by
  induction fds generalizing n with
  | nil => trivial
  | cons fd fds ih =>
      refine Prog.Uses.bind (uses_writeLoop (fun data => Prog.uses_op.2 (hsend fd data)) _ _)
        fun sts => Prog.Uses.ite (fun _ => ?_) fun _ => ih (n + 1)
      exact .op_bind (hclose fd) fun _ => .op_bind (herase n) fun _ => ih n

lemma sat_callBody (hmay : daemonMay main i c = true) :
    (Monitor.history (mayAcquire main i) anyAnswer).Sat (fun _ log => hasAcquired c log)
      (m.callBody c) [] := by
  cases c with
  | messageResponse rounds =>
      obtain rfl : i = main := of_decide_eq_true hmay
      have huses : (m.callBody (.messageResponse rounds)).Uses fun _ => True :=
        Prog.uses_all (fun _ => trivial) _
      exact Monitor.sat_of_keeps huses
        (fun _ _ _ _ => ⟨fun h => absurd rfl h, fun _ _ _ => trivial⟩) trivial
  | reportStatus event portId =>
      refine ⟨fun _ _ => by simp, fun r log hlog => ?_⟩
      -- the mutex has been acquired, and no other step acquires one
      have hacquired : hasAcquired (.reportStatus event portId) log := by
        rw [hlog.2]
        exact ⟨_, List.mem_cons_self, rfl⟩
      refine Monitor.sat_of_keeps (A := fun o : DaemonOp => o ≠ .callBackBegin) ?_ ?_ hacquired
      · refine .op_bind nofun fun fds => .bind ?_ fun _ => Prog.uses_op.2 nofun
        exact uses_reportLoop (fun _ _ => nofun) (fun _ => nofun) (fun _ => nofun) _ _ _
      · rintro log o ⟨e, he, heq⟩ ho
        refine ⟨fun _ h => absurd h ho, ?_⟩
        rintro r log' ⟨-, rfl⟩
        exact ⟨e, List.mem_cons_of_mem _ he, heq⟩

theorem reports_once {cfg : DaemonConfig ι}
    {admits : DaemonTrace ι → DaemonState ι → DaemonLabel ι → Prop}
    (hrun : (m.system main).Run admits m.initState tr cfg) : EveryStep (ReportsOnce main) tr :=
  allowed_of_sat (fun _ _ hmay => sat_callBody hmay)
    (fun _ o r _ _ _ => (trivial : anyAnswer ⟨o, r⟩)) hrun

/-- `reportsSince`, with the threads. -/
def reportersSince (y : ℕ) : DaemonTrace ι → List (ι × UInt32 × UInt32)
  | [] => []
  | .op _ _ ⟨.pushBackCallBack fd, _⟩ :: tr => if fd = y then [] else reportersSince y tr
  | .op i (.reportStatus event portId) ⟨.callBackBegin, _⟩ :: tr =>
    reportersSince y tr ++ [(i, event, portId)]
  | _ :: tr => reportersSince y tr

omit [DecidableEq ι] in
lemma map_reportersSince (tr : DaemonTrace ι) :
    (reportersSince y tr).map Prod.snd = reportsSince y tr := by
  induction tr using reportersSince.induct y with
  | case1 => rfl
  | case2 => simp [reportersSince, reportsSince]
  | case3 _ _ fd _ tr hne ih => simpa [reportersSince, reportsSince, hne] using ih
  | case4 => simp [reportersSince, reportsSince, *]
  | case5 l tr hpush hbegin ih =>
      rw [reportersSince, reportsSince]
      all_goals assumption

/-- The thread has been called for the report since the registration, has acquired the mutex, and
has not returned. -/
def Waiting (y : ℕ) (x : ι × UInt32 × UInt32) (tr : DaemonTrace ι) : Prop :=
  calling x.1 tr = some (.reportStatus x.2.1 x.2.2) ∧ calledSince y x.1 tr = true ∧
    ∃ e ∈ callEvents x.1 tr, e.op = .callBackBegin

/-- The reports that have returned, and one that has acquired the mutex, are among the reports. -/
structure Counted (y : ℕ) (x : ι × UInt32 × UInt32) (tr : DaemonTrace ι) : Prop where
  returned : (returnedSince y tr).count x ≤ (reportersSince y tr).count x
  waiting : Waiting y x tr → (returnedSince y tr).count x < (reportersSince y tr).count x

lemma Counted.of_eq {x : ι × UInt32 × UInt32} {l : DaemonLabel ι} (h : Counted y x tr)
    (hreturned : returnedSince y (l :: tr) = returnedSince y tr)
    (hreporters : reportersSince y (l :: tr) = reportersSince y tr)
    (hwaiting : Waiting y x (l :: tr) → Waiting y x tr) : Counted y x (l :: tr) := by
  constructor
  · rw [hreturned, hreporters]
    exact h.returned
  · rw [hreturned, hreporters]
    exact fun hw => h.waiting (hwaiting hw)

lemma counted_call {x : ι × UInt32 × UInt32} (h : Counted y x tr) :
    Counted y x (.call i c :: tr) := by
  refine h.of_eq rfl rfl ?_
  rintro ⟨hcalling, hcalled, hevents⟩
  by_cases hi : i = x.1
  · -- a call that begins has made no step yet
    subst hi
    have hnil : callEvents x.1 (.call x.1 c :: tr) = [] := if_pos rfl
    rw [hnil] at hevents
    simp at hevents
  · have hcalling' : calling x.1 (.call i c :: tr) = calling x.1 tr := if_neg hi
    have hevents' : callEvents x.1 (.call i c :: tr) = callEvents x.1 tr := if_neg hi
    rw [hcalling'] at hcalling
    rw [hevents'] at hevents
    rw [calledSince, since_cons_of_eq (by simpa [calledSince.isCall] using hi) rfl] at hcalled
    exact ⟨hcalling, hcalled, hevents⟩

lemma counted_ret {x : ι × UInt32 × UInt32} (h : Counted y x tr)
    (hcalling : calling i tr = some c) (hret : hasAcquired c (callEvents i tr)) :
    Counted y x (.ret i c () :: tr) := by
  have hcalled (j : ι) : calledSince y j (.ret i c () :: tr) = calledSince y j tr := by
    rw [calledSince, since_cons_of_eq rfl rfl]
  have hwaiting (hw : Waiting y x (.ret i c () :: tr)) : i ≠ x.1 ∧ Waiting y x tr := by
    obtain ⟨hcalling', hcalled', hevents⟩ := hw
    have hi : i ≠ x.1 := by
      rintro rfl
      have hnone : calling x.1 (.ret x.1 c () :: tr) = none := if_pos rfl
      rw [hnone] at hcalling'
      exact absurd hcalling' (by simp)
    have heq : calling x.1 (.ret i c () :: tr) = calling x.1 tr := if_neg hi
    exact ⟨hi, heq ▸ hcalling', (hcalled x.1) ▸ hcalled', hevents⟩
  cases c with
  | messageResponse rounds => exact h.of_eq rfl rfl fun hw => (hwaiting hw).2
  | reportStatus event portId =>
      have hreporters : reportersSince y (.ret i (.reportStatus event portId) () :: tr) =
          reportersSince y tr := rfl
      by_cases hsince : calledSince y i tr = true
      · have hreturned : returnedSince y (.ret i (.reportStatus event portId) () :: tr) =
            (i, event, portId) :: returnedSince y tr := if_pos hsince
        by_cases hx : (i, event, portId) = x
        · -- the report has been one of those that had acquired the mutex
          subst hx
          have hlt := h.waiting ⟨hcalling, hsince, hret⟩
          refine ⟨?_, fun hw => absurd rfl (hwaiting hw).1⟩
          rw [hreturned, hreporters, List.count_cons_self]
          exact hlt
        · have hcount : (returnedSince y (.ret i (.reportStatus event portId) () :: tr)).count x =
              (returnedSince y tr).count x := by
            rw [hreturned, List.count_cons_of_ne hx]
          constructor
          · rw [hcount]
            exact h.returned
          · rw [hcount]
            exact fun hw => h.waiting (hwaiting hw).2
      · exact h.of_eq (if_neg hsince) rfl fun hw => (hwaiting hw).2

/-- The registration: nothing has been called for since. -/
lemma counted_registration {x : ι × UInt32 × UInt32} {r : daemonSig.Ans (.pushBackCallBack y)} :
    Counted y x (.op i c ⟨.pushBackCallBack y, r⟩ :: tr) := by
  have hnil : returnedSince y (.op i c ⟨.pushBackCallBack y, r⟩ :: tr) = [] := if_pos rfl
  have hcalled : calledSince y x.1 (.op i c ⟨.pushBackCallBack y, r⟩ :: tr) = false := by
    simp [calledSince, since, calledSince.isCall, isOp, enters]
  refine ⟨by rw [hnil]; exact Nat.zero_le _, fun hw => ?_⟩
  exact absurd (hcalled.symm.trans hw.2.1) (by simp)

lemma returnedSince_op (hpush : o ≠ .pushBackCallBack y) :
    returnedSince y (.op i c ⟨o, r⟩ :: tr) = returnedSince y tr := by
  cases o
  case pushBackCallBack fd => exact if_neg fun heq => hpush (congrArg _ heq)
  all_goals rfl

lemma calledSince_op (hpush : o ≠ .pushBackCallBack y) (j : ι) :
    calledSince y j (.op i c ⟨o, r⟩ :: tr) = calledSince y j tr := by
  refine since_cons_of_eq rfl ?_
  cases o
  case pushBackCallBack fd => exact decide_eq_false fun heq => hpush (congrArg _ heq)
  all_goals rfl

omit [DecidableEq ι] in
lemma reportersSince_op (hpush : o ≠ .pushBackCallBack y) (hbegin : o ≠ .callBackBegin) :
    reportersSince y (.op i c ⟨o, r⟩ :: tr) = reportersSince y tr := by
  cases o
  case pushBackCallBack fd => exact if_neg fun heq => hpush (congrArg _ heq)
  case callBackBegin => exact absurd rfl hbegin
  all_goals rfl

/-- A thread that waits after a step did so before, unless the step has acquired the mutex. -/
lemma Waiting.of_op {x : ι × UInt32 × UInt32} (hpush : o ≠ .pushBackCallBack y)
    (hbegin : i = x.1 → o ≠ .callBackBegin) (hw : Waiting y x (.op i c ⟨o, r⟩ :: tr)) :
    Waiting y x tr := by
  obtain ⟨hcalling, hcalled, e, he, heq⟩ := hw
  refine ⟨hcalling, calledSince_op hpush x.1 ▸ hcalled, ?_⟩
  by_cases hi : i = x.1
  · subst hi
    rw [callEvents_op_self] at he
    rcases List.mem_cons.1 he with rfl | he
    · exact absurd heq (hbegin rfl)
    · exact ⟨e, he, heq⟩
  · rw [callEvents_op_of_ne hi] at he
    exact ⟨e, he, heq⟩

/-- A report begins, and is counted from now on. -/
lemma Counted.begins {x : ι × UInt32 × UInt32} {event portId : UInt32}
    {r : daemonSig.Ans .callBackBegin} (h : Counted y x tr)
    (hcalling : calling i tr = some (.reportStatus event portId)) :
    Counted y x (.op i (.reportStatus event portId) ⟨.callBackBegin, r⟩ :: tr) := by
  have hreporters :
      reportersSince y (.op i (.reportStatus event portId) ⟨.callBackBegin, r⟩ :: tr) =
        reportersSince y tr ++ [(i, event, portId)] := rfl
  by_cases hx : (i, event, portId) = x
  · subst hx
    have hle := h.returned
    constructor
    all_goals
      rw [returnedSince_op (by simp), hreporters, List.count_append, List.count_singleton_self]
      omega
  · have hcount : (reportersSince y tr ++ [(i, event, portId)]).count x =
        (reportersSince y tr).count x := by
      rw [List.count_append, List.count_cons_of_ne hx, List.count_nil, Nat.add_zero]
    have hne (hi : i = x.1) : calling x.1 tr ≠ some (.reportStatus x.2.1 x.2.2) := by
      subst hi
      rw [hcalling]
      intro heq
      obtain ⟨hevent, hport⟩ := DaemonCall.reportStatus.inj (Option.some.inj heq)
      exact hx (Prod.ext rfl (Prod.ext hevent hport))
    constructor
    · rw [returnedSince_op (by simp), hreporters, hcount]
      exact h.returned
    · rw [returnedSince_op (by simp), hreporters, hcount]
      exact fun hw => h.waiting (hw.of_op (by simp) fun hi _ => hne hi hw.1)

lemma counted_op {x : ι × UInt32 × UInt32} (h : Counted y x tr)
    (hcalling : calling i tr = some c) : Counted y x (.op i c ⟨o, r⟩ :: tr) := by
  by_cases hpush : o = .pushBackCallBack y
  · subst hpush
    exact counted_registration
  by_cases hbegin : o = .callBackBegin
  · subst hbegin
    cases c with
    | messageResponse rounds =>
        refine h.of_eq (returnedSince_op hpush) rfl fun hw => hw.of_op hpush ?_
        rintro rfl
        exact absurd (hcalling.symm.trans hw.1) (by simp)
    | reportStatus event portId => exact h.begins hcalling
  · exact h.of_eq (returnedSince_op hpush) (reportersSince_op hpush hbegin)
      fun hw => hw.of_op hpush fun _ => hbegin

lemma counted_of_run {cfg : DaemonConfig ι}
    {admits : DaemonTrace ι → DaemonState ι → DaemonLabel ι → Prop}
    (hrun : (m.system main).Run admits m.initState tr cfg) (x : ι × UInt32 × UInt32) :
    Counted y x tr := by
  have hevery := reports_once hrun
  induction hrun with
  | start => exact ⟨le_rfl, fun hw => absurd hw.1 (by simp [calling])⟩
  | @step tr cfg cfg' l hrun _ hl ih =>
      have hcounted := ih hevery.2
      cases hl with
      | call hi hc => exact counted_call hcounted
      | op hi hr =>
          exact counted_op hcounted (by rw [hrun.calling_eq, hi, Option.map_some])
      | ret hi =>
          exact counted_ret hcounted (by rw [hrun.calling_eq, hi, Option.map_some]) hevery.1

/-- Every call that has been made and has returned since the registration is one of the
reports. -/
theorem returned_reports {cfg : DaemonConfig ι}
    {admits : DaemonTrace ι → DaemonState ι → DaemonLabel ι → Prop}
    (hrun : (m.system main).Run admits m.initState tr cfg) :
    ((returnedSince y tr).map Prod.snd).Subperm (reportsSince y tr) := by
  obtain ⟨l, hperm, hsublist⟩ :=
    List.subperm_ext_iff.2 fun x _ => (counted_of_run (y := y) hrun x).returned
  rw [← map_reportersSince]
  exact ⟨l.map Prod.snd, hperm.map _, hsublist.map _⟩

/-- A connection that is registered, and on which the reports can be sent, stays in the list;
what is written on it since then are the messages of the reports, in their order. -/
theorem said_reports {cfg : DaemonConfig ι}
    (hrun : (m.system main).Run (Works y) m.initState tr cfg) (hy : isRegistered y tr = true) :
    y ∈ cfg.shared.callBackList ∧ saidSince y tr <+: frames m (reportsSince y tr) ∧
      (cfg.shared.callBackListMutex = none →
        saidSince y tr = frames m (reportsSince y tr)) := by
  have hinv := inv_of_run hrun
  have hlisted := hinv.registered hy
  exact ⟨hlisted, hinv.said hlisted, hinv.free hlisted⟩

end Hdcp.Reports
