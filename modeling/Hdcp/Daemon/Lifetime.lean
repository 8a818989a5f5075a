/-
The lifetime of what the threads share.

`main` makes the port manager and with it the other threads, which use the port manager that a
static variable points to, without looking whether it is there.  What orders them is a barrier
for three threads, which `main` reaches when the port manager is valid, and the joins before the
port manager is freed.

`process_safe`: in every run of the process, up to a SIGTERM that the handler of the port manager
gets, what the threads share is made before it is used and released once, when nobody uses it any
more; and what the threads do with the port manager is a run of `portSystem`.

`process_ends`: `main` returns with success only when it was told to terminate before the port
manager registered its own handler, and it never returns when the integrity thread could be made
and the uevent thread could not, or when the uevent thread has its socket and waits for a
datagram.
-/
import Hdcp.Daemon.Lifecycle
import Hdcp.Daemon.Process
import Hdcp.Port.Steps

namespace Hdcp.Process

open Library Port
open Library.Prog (op iter)
open Library.Host (call)
open Hdcp.Daemon (HdcpDaemon DaemonOp DaemonProg)
open Hdcp.Uevent (UeventOp UeventProg)

/-! ### The monitors -/

/-- `main` serves the requests. -/
structure Main.Serving (q : Main) : Prop extends Main.Alive q where
  srm : q.srm = true
  drmFd : q.drmFd = true
  arrived : q.arrived = true

/-- What `main` may do next. -/
def Main.May (q : Main) : ProcessOp → Prop
  | .sigaction _ => q.isValid = false
  | .mutexInit => q.arrived = false
  | .destroyHdcpDaemon => q.daemon = true ∧ q.allocated = false ∧
      ∀ w, q.created w = true → q.joined w = true
  | .srmInit => q.arrived = false
  | .setPortMgr b => q.allocated = b
  | .newPortManager => q.allocated = false ∧ q.arrived = false
  | .freePortManager => q.allocated = true ∧ q.drmFd = false ∧ ∀ w, q.joined w = true
  | .drmOpen => q.drmFd = false
  | .barrierInit => ∀ w, q.created w = false
  | .pthreadCreate w => q.barrier = true ∧ q.created w = false ∧ q.joined w = false
  | .setIsValid => q.handler = .portManager ∧ ∀ w, q.created w = true
  | .barrierArrive => q.barrier = true ∧ q.arrived = false ∧ q.Alive
  | .drmClose => q.drmFd = true
  | .pthreadJoin w => q.joined w = false ∧ (q.isValid = true → q.created w = true)
  | .hasEventSocket => ∀ w, q.joined w = true
  | .closeEventSocket => q.seen = some true
  | .daemon _ => q.Serving
  | .processStart | .threadStart _ | .threadExit _ | .socket | .setsockopt | .bind | .uevent _
  | .terminate | .deliver => False
  | _ => True

/-- What `main` relies on when it reads. -/
def Main.Reads (q : Main) : (o : ProcessOp) → o.Ans → Prop
  | .processStart, _ => q = Main.start
  | .getPortMgr, b => b = q.portMgr
  | .getIsValid, b => b = q.isValid
  | .isDrmFdOpen, b => b = q.drmFd
  | .daemon o, r => daemonAnswer true o r = true
  | _, _ => True

/-- The monitor for `main`; `true` stands for a call of the port manager. -/
def mainMonitor : Monitor processSig (Main × Bool) where
  may
    | q, .own o => q.2 = false ∧ (o = .processStart ∨ q.1.started = true ∧ q.1.May o)
    | q, .begin _ => q.2 = false ∧ q.1.Serving
    | q, .guest _ => q.2 = true ∧ q.1.Serving
    | q, .finish _ => q.2 = true
  next
    | q, .own o, r, q' => q' = (q.1.after o r, false) ∧ q.1.Reads o r
    | q, .begin _, _, q' => q' = (q.1, true)
    | q, .guest _, _, q' => q' = q
    | q, .finish _, _, q' => q' = (q.1, false)

/-- What one of the other threads may do next. -/
def WorkerState.May (w : Worker) (q : WorkerState) : ProcessOp → Prop
  | .barrierArrive => q.arrived = false
  | .barrierLeave => q.arrived = true
  | .socket | .setsockopt | .bind | .uevent _ => w = .uevent ∧ q.left = true
  | .threadExit w' => w' = w ∧ q.left = true ∧ (w = .uevent → q.failed = true ∨ q.awake = true)
  | .isDestroyThreads | .sleep | .terminate => True
  | _ => False

def WorkerState.Reads (q : WorkerState) : (o : ProcessOp) → o.Ans → Prop
  | .threadStart _, _ => q = WorkerState.start
  | .terminate, _ => False
  | _, _ => True

/-- The monitor for one of the other threads. -/
def workerMonitor (w : Worker) : Monitor processSig (WorkerState × Bool) where
  may
    | q, .own o =>
      q.2 = false ∧ (o = .threadStart w ∨ q.1.started = true ∧ q.1.ended = false ∧ q.1.May w o)
    | q, .begin _ => q.2 = false ∧ q.1.left = true ∧ q.1.ended = false
    | q, .guest _ => q.2 = true ∧ q.1.left = true ∧ q.1.ended = false
    | q, .finish _ => q.2 = true
  next
    | q, .own o, r, q' => q' = (q.1.after o r, false) ∧ q.1.Reads o r
    | q, .begin _, _, q' => q' = (q.1, true)
    | q, .guest _, _, q' => q' = q
    | q, .finish _, _, q' => q' = (q.1, false)

/-- The monitor for the signal. -/
def signalMonitor : Monitor processSig Unit where
  may _ o := o = .own .deliver
  next _ _ _ _ := True

/-! ### The state of a run -/

/-- What holds of the state between two steps.  `main` and the threads have passed the barrier
only when all of them have reached it; `main` reaches it with a port manager that is there, and
gives this one up when it has joined the threads. -/
structure Good (s : ProcessState) : Prop where
  fresh : s.main.started = false → s.main = Main.start
  freshWorker : ∀ w, (s.worker w).started = false → s.worker w = WorkerState.start
  arrivals : s.arrivals = s.main.arrived.toNat + (s.worker .integrity).arrived.toNat +
    (s.worker .uevent).arrived.toNat
  created : ∀ w, (s.worker w).started = true → s.main.created w = true
  barrier : ∀ w, s.main.created w = true → s.main.barrier = true
  left : ∀ w, (s.worker w).left = true →
    s.main.arrived = true ∧ ∀ w', (s.worker w').arrived = true
  ended : ∀ w, (s.worker w).ended = true → (s.worker w).left = true
  joined : ∀ w, s.main.joined w = true → s.main.created w = true → (s.worker w).ended = true
  ready : s.main.arrived = true → s.main.Alive ∨ ∀ w, s.main.joined w = true
  handler : s.main.isValid = true → s.main.handler = .portManager
  seen : ∀ b, s.main.seen = some b → s.eventSocket = b ∧ s.main.joined .uevent = true
  socket : s.eventSocket = true → (s.worker .uevent).left = true
  awake : (s.worker .uevent).ended = true →
    (s.worker .uevent).failed = true ∨ (s.worker .uevent).awake = true
  canceled : s.main.canceled = true → s.receivedKillSignal = true

lemma good_initState : Good initState where
  fresh _ := rfl
  freshWorker _ _ := rfl
  arrivals := rfl
  created _ h := absurd h Bool.false_ne_true
  barrier _ h := absurd h Bool.false_ne_true
  left _ h := absurd h Bool.false_ne_true
  ended _ h := absurd h Bool.false_ne_true
  joined _ h := absurd h Bool.false_ne_true
  ready h := absurd h Bool.false_ne_true
  handler h := absurd h Bool.false_ne_true
  seen _ h := absurd h (Option.some_ne_none _).symm
  socket h := absurd h Bool.false_ne_true
  awake h := absurd h Bool.false_ne_true
  canceled h := absurd h Bool.false_ne_true

section Good

variable {s : ProcessState} {w : Worker} {o : ProcessOp} {r : o.Ans} {i : Option Thread}

@[simp] lemma thread_ne_message : w.thread ≠ .message := by
  cases w <;> decide

lemma forall_worker {p : Worker → Prop} (hintegrity : p .integrity) (huevent : p .uevent)
    (w : Worker) : p w := by
  cases w with
  | integrity => exact hintegrity
  | uevent => exact huevent

lemma thread_injective : Function.Injective Worker.thread := by
  intro w w' h
  cases w <;> cases w' <;> first | rfl | exact absurd h (by decide)

/-- A step of `main`. -/
lemma after_message : s.after (some .message) o r =
    ⟨s.main.after o r, s.worker, arrivalsAfter s.arrivals o, socketAfter s.eventSocket o r,
      signalAfter s.receivedKillSignal o⟩ := by
  have hworker (w : Worker) : (some .message : Option Thread) ≠ some w.thread :=
    fun h => thread_ne_message (Option.some.inj h).symm
  simp only [ProcessState.after, if_true, if_neg (hworker _)]

/-- A step of another thread. -/
lemma after_thread : s.after (some w.thread) o r =
    ⟨s.main, Function.update s.worker w ((s.worker w).after o r), arrivalsAfter s.arrivals o,
      socketAfter s.eventSocket o r, signalAfter s.receivedKillSignal o⟩ := by
  have hmain : (some w.thread : Option Thread) ≠ some .message :=
    fun h => thread_ne_message (Option.some.inj h)
  have hworker : (fun w' => if some w.thread = some w'.thread then (s.worker w').after o r
      else s.worker w') = Function.update s.worker w ((s.worker w).after o r) := by
    funext w'
    by_cases h : w' = w
    · subst h
      rw [if_pos rfl, Function.update_self]
    · rw [if_neg fun hi => h (thread_injective (Option.some.inj hi)).symm,
        Function.update_of_ne h]
  simp only [ProcessState.after, if_neg hmain, hworker]

lemma eq_of_answers {x b : Bool} (h : answers x b = true) : b = x := of_decide_eq_true h

lemma canceledBy_of_answer {o : DaemonOp} {r : o.Ans} {b : Bool}
    (hanswer : daemonAnswer b o r = true) (h : canceledBy o r = true) : b = true := by
  cases o with
  | pollForEvent =>
      rw [daemonAnswer, show isCanceled r = true from h] at hanswer
      exact hanswer
  | _ => exact absurd h Bool.false_ne_true

lemma after_thread_of_ne {w' : Worker} (hw : w' ≠ w) :
    (s.after (some w.thread) o r).worker w' = s.worker w' := by
  rw [after_thread]
  exact Function.update_of_ne hw _ _

/-- A signal. -/
lemma after_none : s.after none o r =
    ⟨s.main, s.worker, arrivalsAfter s.arrivals o, socketAfter s.eventSocket o r,
      signalAfter s.receivedKillSignal o⟩ := by
  have hnone (t : Thread) : (none : Option Thread) ≠ some t := (Option.some_ne_none t).symm
  simp only [ProcessState.after, if_neg (hnone _)]

/-- `main` begins. -/
lemma good_processStart {r : ProcessOp.processStart.Ans} (hs : Good s)
    (hadm : s.admits .processStart r = true) :
    Good (s.after (some .message) .processStart r) := by
  have hnot : s.main.started = false := by simpa [ProcessState.admits] using hadm
  have hmain := hs.fresh hnot
  rw [after_message]
  exact { hs with
    fresh := fun h => absurd (show true = false from h) (by decide)
    ready := fun h => (hs.ready h).imp_left fun ha => ⟨ha.1, ha.2, ha.3, ha.4⟩ }

/-- What `main` may do keeps the invariant. -/
lemma good_main (hs : Good s) (hstarted : s.main.started = true) (hmay : s.main.May o)
    (hadm : s.admits o r = true) : Good (s.after (some .message) o r) := by
  rw [after_message]
  have hfresh {q : Main} (hq : q.started = s.main.started) :
      q.started = false → q = Main.start :=
    fun h => absurd (hstarted.symm.trans (hq.symm.trans h)) (by decide)
  -- what does not touch the port manager
  have hready {q : Main} (hq : s.main.Alive → q.Alive) (h : s.main.arrived = true) :
      q.Alive ∨ ∀ w, s.main.joined w = true := (hs.ready h).imp_left hq
  have hearly {p : Prop} (harrived : s.main.arrived = false) (h : s.main.arrived = true) : p :=
    absurd (harrived.symm.trans h) Bool.false_ne_true
  cases o with
  | sigaction handler =>
      exact { hs with
        fresh := hfresh rfl
        ready := hready fun ha => ⟨ha.1, ha.2, ha.3, ha.4⟩
        handler := fun h => absurd (h.symm.trans hmay) (by decide) }
  | mutexInit => exact { hs with fresh := hfresh rfl, ready := hearly hmay }
  | destroyHdcpDaemon =>
      refine { hs with fresh := hfresh rfl, ready := fun h => .inr ?_ }
      refine (hs.ready h).resolve_left fun ha => ?_
      exact absurd (ha.allocated.symm.trans hmay.2.1) (by decide)
  | srmInit => exact { hs with fresh := hfresh rfl, ready := hearly hmay }
  | setPortMgr b =>
      refine { hs with fresh := hfresh rfl, ready := hready fun ha => ?_ }
      exact ⟨ha.1, ha.2, ha.3, hmay.symm.trans ha.allocated⟩
  | newPortManager => exact { hs with fresh := hfresh rfl, ready := hearly hmay.2 }
  | freePortManager => exact { hs with fresh := hfresh rfl, ready := fun _ => .inr hmay.2.2 }
  | pthreadCreate w =>
      obtain ⟨hbarrier, hcreated, hjoined⟩ := hmay
      refine { hs with
        fresh := hfresh rfl
        barrier := fun _ _ => hbarrier
        ready := hready fun ha => ⟨ha.1, ha.2, ha.3, ha.4⟩
        created := fun w' h => ?_
        joined := fun w' h => ?_ }
      · by_cases hw : w' = w
        · subst hw
          exact absurd ((hs.created w' h).symm.trans hcreated) (by decide)
        · exact (Function.update_of_ne hw _ _).trans (hs.created w' h)
      · by_cases hw : w' = w
        · subst hw
          exact absurd (hjoined.symm.trans h) Bool.false_ne_true
        · exact fun h' => hs.joined w' h ((Function.update_of_ne hw _ _).symm.trans h')
  | setIsValid =>
      exact { hs with
        fresh := hfresh rfl
        ready := hready fun ha => ⟨ha.1, ha.2, rfl, ha.4⟩
        handler := fun _ => hmay.1 }
  | barrierArrive =>
      obtain ⟨-, harrived, ha⟩ := hmay
      refine { hs with
        fresh := hfresh rfl
        arrivals := ?_
        left := fun w h => ⟨rfl, (hs.left w h).2⟩
        ready := fun _ => .inl ⟨ha.1, ha.2, ha.3, ha.4⟩ }
      have harrivals := hs.arrivals
      rw [harrived] at harrivals
      show s.arrivals + 1 = _
      rw [harrivals]
      simp only [Main.after, Bool.toNat_true, Bool.toNat_false]
      omega
  | pthreadJoin w =>
      have hjoined {w' : Worker} (h : s.main.joined w' = true) :
          Function.update s.main.joined w true w' = true := by
        by_cases hw : w' = w
        · subst hw
          exact Function.update_self _ _ _
        · exact (Function.update_of_ne hw _ _).trans h
      refine { hs with
        fresh := hfresh rfl
        joined := fun w' h => ?_
        ready := fun h => (hs.ready h).imp (fun ha => ⟨ha.1, ha.2, ha.3, ha.4⟩)
          fun h w' => hjoined (h w')
        seen := fun b h => ⟨(hs.seen b h).1, hjoined (hs.seen b h).2⟩ }
      by_cases hw : w' = w
      · subst hw
        intro hcreated
        have hwait : (!s.main.created w' || (s.worker w').ended) = true := hadm
        rwa [show s.main.created w' = true from hcreated] at hwait
      · exact hs.joined w' ((Function.update_of_ne hw _ _).symm.trans h)
  | hasEventSocket =>
      refine { hs with
        fresh := hfresh rfl
        ready := hready fun ha => ⟨ha.1, ha.2, ha.3, ha.4⟩
        seen := fun b h => ⟨?_, hmay .uevent⟩ }
      rw [← Option.some.inj h]
      exact (eq_of_answers hadm).symm
  | closeEventSocket =>
      exact { hs with
        fresh := hfresh rfl
        ready := hready fun ha => ⟨ha.1, ha.2, ha.3, ha.4⟩
        seen := fun b h => ⟨Option.some.inj h, (hs.seen _ hmay).2⟩
        socket := fun h => absurd h Bool.false_ne_true }
  | daemon o =>
      refine { hs with
        fresh := hfresh rfl
        ready := hready fun ha => ⟨ha.1, ha.2, ha.3, ha.4⟩
        canceled := fun h => ?_ }
      exact (Bool.or_eq_true_iff.1 h).elim hs.canceled (canceledBy_of_answer hadm)
  | barrierInit =>
      exact { hs with
        fresh := hfresh rfl
        ready := hready fun ha => ⟨ha.1, ha.2, ha.3, ha.4⟩
        barrier := fun w h => absurd ((hmay w).symm.trans h) Bool.false_ne_true }
  | srmRelease | drmOpen | drmClose | setIsDestroyThreads =>
      exact { hs with
        fresh := hfresh rfl
        ready := hready fun ha => ⟨ha.1, ha.2, ha.3, ha.4⟩ }
  | processStart | threadStart | threadExit | socket | setsockopt | bind | uevent | terminate
  | deliver => exact absurd hmay not_false
  | _ => exact hs

lemma Good.created_of_left (hs : Good s) (h : (s.worker w).left = true) (w' : Worker) :
    s.main.created w' = true := by
  refine hs.created w' ?_
  by_contra hnot
  have harrived := (hs.left w h).2 w'
  rw [hs.freshWorker w' (by simpa using hnot)] at harrived
  exact absurd harrived (by decide)

/-- A thread that has not ended keeps the port manager there, once it has passed the barrier. -/
lemma Good.alive_of_left (hs : Good s) (hleft : (s.worker w).left = true)
    (hended : (s.worker w).ended = false) : s.main.Alive := by
  refine (hs.ready (hs.left w hleft).1).resolve_right fun hjoined => ?_
  have hend := hs.joined w (hjoined w) (hs.created_of_left hleft w)
  rw [hended] at hend
  exact absurd hend (by decide)

/-- What another thread does when it does not change how far it is. -/
lemma Good.update {q : WorkerState} {b : Bool} (hs : Good s)
    (hstarted : q.started = (s.worker w).started) (harrived : q.arrived = (s.worker w).arrived)
    (hleft : q.left = (s.worker w).left) (hended : q.ended = (s.worker w).ended)
    (hrunning : (s.worker w).started = true) (hgoing : (s.worker w).ended = false)
    (hb : b = s.eventSocket ∨ w = .uevent ∧ (s.worker w).left = true) :
    Good ⟨s.main, Function.update s.worker w q, s.arrivals, b, s.receivedKillSignal⟩ := by
  have hfield {α : Type} {f : WorkerState → α} (hf : f q = f (s.worker w)) (w' : Worker) :
      f (Function.update s.worker w q w') = f (s.worker w') := by
    by_cases hw : w' = w
    · subst hw
      rw [Function.update_self, hf]
    · rw [Function.update_of_ne hw]
  have hstarted' := hfield hstarted
  have harrived' := hfield harrived
  have hleft' := hfield hleft
  have hended' := hfield hended
  refine { hs with
    freshWorker := fun w' h => ?_
    arrivals := ?_
    created := fun w' h => hs.created w' ((hstarted' w').symm.trans h)
    left := fun w' h => ?_
    ended := fun w' h => (hleft' w').trans (hs.ended w' ((hended' w').symm.trans h))
    joined := fun w' h h' => (hended' w').trans (hs.joined w' h h')
    seen := fun b' h => ?_
    socket := fun h => ?_
    awake := fun h => ?_ }
  · by_cases hw : w' = w
    · subst hw
      exact absurd (hrunning.symm.trans ((hstarted' w').symm.trans h)) (by decide)
    · refine (Function.update_of_ne hw _ _).trans (hs.freshWorker w' ?_)
      exact (hstarted' w').symm.trans h
  · show s.arrivals = _ + (Function.update s.worker w q .integrity).arrived.toNat +
      (Function.update s.worker w q .uevent).arrived.toNat
    rw [harrived', harrived']
    exact hs.arrivals
  · obtain ⟨hmain, hall⟩ := hs.left w' ((hleft' w').symm.trans h)
    exact ⟨hmain, fun w'' => (harrived' w'').trans (hall w'')⟩
  · obtain ⟨hsocket, hjoined⟩ := hs.seen b' h
    refine ⟨hb.elim (fun hb => hb.trans hsocket) ?_, hjoined⟩
    rintro ⟨rfl, hgone⟩
    -- a thread that has been joined does nothing more
    have hend := hs.joined .uevent hjoined (hs.created_of_left hgone .uevent)
    exact absurd (hgoing.symm.trans hend) Bool.false_ne_true
  · refine (hleft' .uevent).trans (hb.elim (fun hb => hs.socket (hb.symm.trans h)) ?_)
    rintro ⟨rfl, hgone⟩
    exact hgone
  · have hend := (hended' .uevent).symm.trans h
    by_cases hw : w = .uevent
    · subst hw
      exact absurd (hgoing.symm.trans hend) Bool.false_ne_true
    · have huevent : Function.update s.worker w q .uevent = s.worker .uevent :=
        Function.update_of_ne (Ne.symm hw) _ _
      show (Function.update s.worker w q .uevent).failed = true ∨
        (Function.update s.worker w q .uevent).awake = true
      rw [huevent]
      exact hs.awake hend

/-- The barrier is passed when all have reached it. -/
lemma Good.all_arrived (hs : Good s) (h : 3 ≤ s.arrivals) :
    s.main.arrived = true ∧ ∀ w, (s.worker w).arrived = true := by
  have hle (b : Bool) : b.toNat ≤ 1 := Bool.toNat_le b
  have hfull {b : Bool} (h : 1 ≤ b.toNat) : b = true := by
    cases b with
    | false => exact absurd h (by decide)
    | true => rfl
  have hsum := hs.arrivals
  have hmain := hle s.main.arrived
  have hintegrity := hle (s.worker .integrity).arrived
  have huevent := hle (s.worker .uevent).arrived
  refine ⟨hfull (by omega), fun w => ?_⟩
  cases w with
  | integrity => exact hfull (by omega)
  | uevent => exact hfull (by omega)

lemma forall_update {P : Worker → WorkerState → Prop} {f : Worker → WorkerState}
    {q : WorkerState} (hself : P w q) (hother : ∀ w', P w' (f w')) (w' : Worker) :
    P w' (Function.update f w q w') := by
  by_cases hw : w' = w
  · subst hw
    rw [Function.update_self]
    exact hself
  · rw [Function.update_of_ne hw]
    exact hother w'

/-- What another thread does when it gets on. -/
lemma Good.advance {q : WorkerState} {n : ℕ} (hs : Good s) (hstarted : q.started = true)
    (hcreated : s.main.created w = true)
    (harrivals : n + (s.worker w).arrived.toNat = s.arrivals + q.arrived.toNat)
    (hkeep : (s.worker w).arrived = true → q.arrived = true)
    (hleft : q.left = true →
      s.main.arrived = true ∧ ∀ w', (Function.update s.worker w q w').arrived = true)
    (hkeep' : (s.worker w).left = true → q.left = true)
    (hended : q.ended = true → q.left = true)
    (hkeep'' : (s.worker w).ended = true → q.ended = true)
    (hawake : w = .uevent → q.ended = true → q.failed = true ∨ q.awake = true) :
    Good ⟨s.main, Function.update s.worker w q, n, s.eventSocket, s.receivedKillSignal⟩ := by
  have harrived (w' : Worker) (h : (s.worker w').arrived = true) :
      (Function.update s.worker w q w').arrived = true := by
    by_cases hw : w' = w
    · subst hw
      rw [Function.update_self]
      exact hkeep h
    · rwa [Function.update_of_ne hw]
  refine { hs with
    freshWorker :=
      forall_update (P := fun _ p => p.started = false → p = WorkerState.start)
        (fun h => absurd (hstarted.symm.trans h) (by decide)) hs.freshWorker
    arrivals := ?_
    created := forall_update (P := fun w' p => p.started = true → s.main.created w' = true)
      (fun _ => hcreated) hs.created
    left := forall_update (P := fun _ p => p.left = true → s.main.arrived = true ∧
        ∀ w', (Function.update s.worker w q w').arrived = true) hleft fun w' h => ?_
    ended := forall_update (P := fun _ p => p.ended = true → p.left = true) hended hs.ended
    joined := forall_update (P := fun w' p => s.main.joined w' = true →
      s.main.created w' = true → p.ended = true) (fun h h' => hkeep'' (hs.joined w h h')) hs.joined
    socket := fun h => ?_
    awake := ?_ }
  · have hsum := hs.arrivals
    cases w with
    | integrity =>
        show n = s.main.arrived.toNat + q.arrived.toNat + (s.worker .uevent).arrived.toNat
        omega
    | uevent =>
        show n = s.main.arrived.toNat + (s.worker .integrity).arrived.toNat + q.arrived.toNat
        omega
  · obtain ⟨hmain, hall⟩ := hs.left w' h
    exact ⟨hmain, fun w'' => harrived w'' (hall w'')⟩
  · cases w with
    | integrity => exact hs.socket h
    | uevent => exact hkeep' (hs.socket h)
  · cases w with
    | integrity => exact hs.awake
    | uevent => exact hawake rfl

/-- A thread begins. -/
lemma good_start {r : (ProcessOp.threadStart w).Ans} (hs : Good s)
    (hadm : s.admits (.threadStart w) r = true) :
    Good (s.after (some w.thread) (.threadStart w) r) := by
  obtain ⟨hcreated, hnot⟩ := Bool.and_eq_true_iff.1 hadm
  have hfresh := hs.freshWorker w (by simpa using hnot)
  rw [after_thread]
  refine hs.advance rfl hcreated rfl (fun h => h) (fun h => ?_) (fun h => h) (fun h => ?_)
    (fun h => h) fun _ h => ?_
  all_goals
    rw [hfresh] at h
    exact absurd h Bool.false_ne_true

/-- What another thread may do keeps the invariant. -/
lemma good_worker (hs : Good s) (hrunning : (s.worker w).started = true)
    (hgoing : (s.worker w).ended = false) (hmay : (s.worker w).May w o)
    (hadm : s.admits o r = true) : Good (s.after (some w.thread) o r) := by
  rw [after_thread]
  have hcreated := hs.created w hrunning
  have hgoing' (h : (s.worker w).ended = true) : False := by
    rw [hgoing] at h
    exact Bool.false_ne_true h
  have hsame : Good ⟨s.main, Function.update s.worker w (s.worker w), s.arrivals, s.eventSocket,
      s.receivedKillSignal⟩ := by
    rw [Function.update_eq_self]
    exact hs
  cases o with
  | barrierArrive =>
      have hnot : (s.worker w).arrived = false := hmay
      have hleft (h : (s.worker w).left = true) : False := by
        have harrived := (hs.left w h).2 w
        rw [hnot] at harrived
        exact Bool.false_ne_true harrived
      refine hs.advance hrunning hcreated ?_ (fun _ => rfl) (fun h => (hleft h).elim) (fun h => h)
        (fun h => (hgoing' h).elim) (fun h => h) fun _ h => (hgoing' h).elim
      rw [hnot]
      rfl
  | barrierLeave =>
      obtain ⟨hmain, hall⟩ := hs.all_arrived (of_decide_eq_true hadm)
      refine hs.advance hrunning hcreated rfl (fun h => h) (fun _ => ⟨hmain, ?_⟩) (fun _ => rfl)
        (fun _ => rfl) (fun h => h) fun _ h => (hgoing' h).elim
      exact forall_update (P := fun _ p => p.arrived = true) (hall w) hall
  | threadExit w' =>
      obtain ⟨-, hleft, hawake⟩ := hmay
      obtain ⟨hmain, hall⟩ := hs.left w hleft
      refine hs.advance hrunning hcreated rfl (fun h => h) (fun _ => ⟨hmain, ?_⟩) (fun h => h)
        (fun _ => hleft) (fun _ => rfl) fun hw _ => hawake hw
      exact forall_update (P := fun _ p => p.arrived = true) (hall w) hall
  | socket => exact hs.update rfl rfl rfl rfl hrunning hgoing (.inr hmay)
  | setsockopt | bind | uevent => exact hs.update rfl rfl rfl rfl hrunning hgoing (.inl rfl)
  | isDestroyThreads | sleep => exact hsame
  | terminate => exact absurd hadm Bool.false_ne_true
  | _ => exact absurd hmay not_false

/-- The signal. -/
lemma good_deliver {r : ProcessOp.deliver.Ans} (hs : Good s) :
    Good (s.after none .deliver r) := by
  rw [after_none]
  exact { hs with canceled := fun _ => rfl }

end Good

/-! ### Runs -/

/-- What holds of the history and of the state between two steps. -/
structure ProcessInv (tr : ProcessTrace) (s : ProcessState × PortState) : Prop where
  main : s.1.main = mainOf tr
  worker : ∀ w, s.1.worker w = workerOf w tr
  socket : s.1.eventSocket = socketOf tr
  good : Good s.1
  serving : calling .message (portTraceOf tr) ≠ none → s.1.main.Serving
  passed : ∀ w, calling w.thread (portTraceOf tr) ≠ none →
    (s.1.worker w).left = true ∧ (s.1.worker w).ended = false
  idle : ∀ i, calling (some i) tr = none → calling i (portTraceOf tr) = none
  told : s.1.receivedKillSignal = true → Told tr
  right : EveryStep Right tr
  ends : EveryStep Ends tr

/-- What `main` has done when it returns. -/
structure Main.Finished (q : Main) (ret : ℕ) : Prop extends Main.Released q where
  joined : ∀ w, q.created w = true → q.joined w = true
  seen : q.seen = some false ∨ ∀ w, q.created w = false
  canceled : ret = 0 → q.canceled = true

def Position : Option Thread → Type
  | none => Unit
  | some .message => Main × Bool
  | some .integrity | some .uevent => WorkerState × Bool

/-- The threads with their monitors. -/
def watch : Watch processSig (Option Thread) ProcessCall (Option ℕ) where
  Pos := Position
  monitor
    | none => signalMonitor
    | some .message => mainMonitor
    | some .integrity => workerMonitor .integrity
    | some .uevent => workerMonitor .uevent
  pos
    | none, _ => ()
    | some .message, tr => (mainOf tr, (calling .message (portTraceOf tr)).isSome)
    | some .integrity, tr =>
      (workerOf .integrity tr, (calling .integrity (portTraceOf tr)).isSome)
    | some .uevent, tr => (workerOf .uevent tr, (calling .uevent (portTraceOf tr)).isSome)
  post
    | none, _, _, _ => True
    | some .message, _, a, q => q.2 = false ∧ ∀ ret, a = some ret → q.1.Finished ret
    | some .integrity, _, _, q => q.2 = false
    | some .uevent, _, _, q => q.2 = false

section Steps

variable {tr : ProcessTrace} {s s' : ProcessState × PortState} {i : Option Thread}
  {c : ProcessCall} {o : ProcessOp} {r : processSig.Ans (.own o)} {w : Worker} {l : ProcessLabel}

lemma Told.cons (h : Told tr) : Told (l :: tr) := by
  obtain ⟨c, r, tr', hsuffix, hvalid⟩ := h
  exact ⟨c, r, tr', hsuffix.trans (List.suffix_cons l tr), hvalid⟩

lemma portTraceOf_own : portTraceOf (.op i c ⟨.own o, r⟩ :: tr) = portTraceOf tr :=
  Host.guestTrace_own

lemma socketOf_own : socketOf (.op i c ⟨.own o, r⟩ :: tr) = socketAfter (socketOf tr) o r := rfl

lemma mainOf_own :
    mainOf (.op i c ⟨.own o, r⟩ :: tr) =
      if i = some .message then (mainOf tr).after o r else mainOf tr := rfl

lemma workerOf_own :
    workerOf w (.op i c ⟨.own o, r⟩ :: tr) =
      if i = some w.thread then (workerOf w tr).after o r else workerOf w tr := rfl

lemma not_ends_op {e : Event processSig} : Ends (.op i c e) tr := by
  cases i with
  | none => exact True.intro
  | some i => cases i <;> exact True.intro

/-- An interaction of the host. -/
lemma ProcessInv.own (h : ProcessInv tr s) (hgood : Good (s.1.after i o r))
    (hserving : calling .message (portTraceOf tr) ≠ none → (s.1.after i o r).main.Serving)
    (hpassed : ∀ w, calling w.thread (portTraceOf tr) ≠ none →
      ((s.1.after i o r).worker w).left = true ∧ ((s.1.after i o r).worker w).ended = false)
    (htold : (s.1.after i o r).receivedKillSignal = true → Told (.op i c ⟨.own o, r⟩ :: tr))
    (hright : Right (.op i c ⟨.own o, r⟩) tr) :
    ProcessInv (.op i c ⟨.own o, r⟩ :: tr) (s.1.after i o r, s.2) where
  main := by rw [mainOf_own, ← h.main]; rfl
  worker w := by rw [workerOf_own, ← h.worker]; rfl
  socket := by rw [socketOf_own, ← h.socket]; rfl
  good := hgood
  serving := by rwa [portTraceOf_own]
  passed := by rwa [portTraceOf_own]
  idle := by rw [portTraceOf_own]; exact h.idle
  told := htold
  right := ⟨hright, h.right⟩
  ends := ⟨not_ends_op, h.ends⟩

/-- A step in which no one does anything of the host's own. -/
lemma ProcessInv.other (h : ProcessInv tr s) (hmain : mainOf (l :: tr) = mainOf tr)
    (hworker : ∀ w, workerOf w (l :: tr) = workerOf w tr)
    (hsocket : socketOf (l :: tr) = socketOf tr) {s₂ : PortState}
    (hserving : calling .message (portTraceOf (l :: tr)) ≠ none → s.1.main.Serving)
    (hpassed : ∀ w, calling w.thread (portTraceOf (l :: tr)) ≠ none →
      (s.1.worker w).left = true ∧ (s.1.worker w).ended = false)
    (hidle : ∀ i, calling (some i) (l :: tr) = none → calling i (portTraceOf (l :: tr)) = none)
    (hright : Right l tr) (hends : Ends l tr) : ProcessInv (l :: tr) (s.1, s₂) where
  main := h.main.trans hmain.symm
  worker w := (h.worker w).trans (hworker w).symm
  socket := h.socket.trans hsocket.symm
  good := h.good
  serving := hserving
  passed := hpassed
  idle := hidle
  told ht := (h.told ht).cons
  right := ⟨hright, h.right⟩
  ends := ⟨hends, h.ends⟩

/-- Nobody uses the port manager when the threads have been joined. -/
lemma ProcessInv.quiet (h : ProcessInv tr s) (hidle : calling .message (portTraceOf tr) = none)
    (hjoined : ∀ w, s.1.main.created w = true → s.1.main.joined w = true) : Quiet tr := by
  have hended (w : Worker) (hcreated : s.1.main.created w = true) :
      (s.1.worker w).ended = true := h.good.joined w (hjoined w hcreated) hcreated
  have hworker (w : Worker) : calling w.thread (portTraceOf tr) = none := by
    by_contra hbusy
    obtain ⟨hleft, hgoing⟩ := h.passed w hbusy
    have hend := hended w (h.good.created_of_left hleft w)
    exact absurd (hgoing.symm.trans hend) Bool.false_ne_true
  refine ⟨fun i => ?_, fun w hcreated => ?_⟩
  · cases i with
    | message => exact hidle
    | integrity => exact hworker .integrity
    | uevent => exact hworker .uevent
  · rw [← h.worker]
    rw [← h.main] at hcreated
    exact hended w hcreated

/-- What `main` may do is right. -/
lemma ProcessInv.right_main (h : ProcessInv tr s)
    (hidle : calling .message (portTraceOf tr) = none) (hmay : s.1.main.May o) :
    Right (.op (some .message) c ⟨.own o, r⟩) tr := by
  have hmain := h.main
  cases o with
  | newPortManager | barrierArrive =>
      rw [hmain] at hmay
      exact hmay.1
  | drmOpen | drmClose =>
      rw [hmain] at hmay
      exact hmay
  | pthreadCreate w =>
      rw [hmain] at hmay
      exact hmay.2.1
  | pthreadJoin w =>
      rw [hmain] at hmay
      exact hmay
  | daemon o =>
      rw [hmain] at hmay
      exact ⟨hmay.toAlive, fun _ => ⟨hmay.drmFd, hmay.srm⟩⟩
  | freePortManager =>
      refine ⟨h.quiet hidle fun w _ => hmay.2.2 w, ?_⟩
      rw [hmain] at hmay
      exact ⟨hmay.1, hmay.2.1⟩
  | destroyHdcpDaemon =>
      refine ⟨h.quiet hidle hmay.2.2, ?_⟩
      rw [hmain] at hmay
      exact ⟨hmay.1, hmay.2.1⟩
  | closeEventSocket =>
      obtain ⟨hsocket, hjoined⟩ := h.good.seen true hmay
      have hleft := h.good.socket hsocket
      have hended := h.good.joined .uevent hjoined (h.good.created_of_left hleft .uevent)
      refine ⟨h.socket.symm.trans hsocket, ?_⟩
      rw [← h.worker]
      exact hended
  | processStart | threadStart | threadExit | socket | setsockopt | bind | uevent | terminate
  | deliver => exact absurd hmay not_false
  | _ => exact True.intro

/-- What another thread may do is right. -/
lemma ProcessInv.right_worker (h : ProcessInv tr s) (hrunning : (s.1.worker w).started = true)
    (hmay : (s.1.worker w).May w o) : Right (.op (some w.thread) c ⟨.own o, r⟩) tr := by
  cases o with
  | barrierArrive =>
      show (mainOf tr).barrier = true
      rw [← h.main]
      exact h.good.barrier w (h.good.created w hrunning)
  | barrierLeave | sleep | threadExit | isDestroyThreads | socket | setsockopt | bind | uevent
  | terminate => exact True.intro
  | _ => exact absurd hmay not_false

lemma signalAfter_of_ne {b : Bool} (ho : o ≠ .deliver) : signalAfter b o = b := by
  cases o with
  | deliver => exact absurd rfl ho
  | _ => rfl

/-- What an interaction of the host with an answer does to the state. -/
lemma of_step_own {d : HdcpDaemon} {m : PortManager}
    (h : (processSystem d m).step i (.own o) r s = some s') :
    s.1.admits o r = true ∧ s' = (s.1.after i o r, s.2) := by
  obtain ⟨t, ht, rfl⟩ := Option.map_eq_some_iff.1 h
  obtain ⟨hadm, ht⟩ := Option.ite_none_right_eq_some.1 ht
  exact ⟨hadm, by rw [← Option.some.inj ht]⟩

/-- An interaction of `main` of its own. -/
lemma ProcessInv.own_main (h : ProcessInv tr s)
    (hidle : calling .message (portTraceOf tr) = none)
    (hgood : Good (s.1.after (some .message) o r))
    (ho : o ≠ .deliver) (hright : Right (.op (some .message) c ⟨.own o, r⟩) tr) :
    ProcessInv (.op (some .message) c ⟨.own o, r⟩ :: tr) (s.1.after (some .message) o r, s.2) := by
  refine h.own hgood (fun hbusy => absurd hidle hbusy) (fun w hbusy => ?_) (fun ht => ?_) hright
  · rw [after_message (s := s.1) (o := o) (r := r)]
    exact h.passed w hbusy
  · rw [after_message (s := s.1) (o := o) (r := r)] at ht
    rw [signalAfter_of_ne ho] at ht
    exact (h.told ht).cons

/-- An interaction of another thread of its own. -/
lemma ProcessInv.own_worker (h : ProcessInv tr s)
    (hidle : calling w.thread (portTraceOf tr) = none)
    (hgood : Good (s.1.after (some w.thread) o r)) (ho : o ≠ .deliver)
    (hright : Right (.op (some w.thread) c ⟨.own o, r⟩) tr) :
    ProcessInv (.op (some w.thread) c ⟨.own o, r⟩ :: tr) (s.1.after (some w.thread) o r, s.2) := by
  refine h.own hgood (fun hbusy => ?_) (fun w' hbusy => ?_) (fun ht => ?_) hright
  · rw [after_thread (s := s.1) (w := w) (o := o) (r := r)]
    exact h.serving hbusy
  · have hne : w' ≠ w := fun hw => hbusy (hw ▸ hidle)
    rw [after_thread_of_ne (s := s.1) (o := o) (r := r) hne]
    exact h.passed w' hbusy
  · rw [after_thread (s := s.1) (w := w) (o := o) (r := r)] at ht
    rw [signalAfter_of_ne ho] at ht
    exact (h.told ht).cons

/-- The signal. -/
lemma ProcessInv.deliver {r : processSig.Ans (.own .deliver)} (h : ProcessInv tr s)
    (hadm : s.1.admits .deliver r = true) :
    ProcessInv (.op none c ⟨.own .deliver, r⟩ :: tr) (s.1.after none .deliver r, s.2) := by
  have hvalid : (mainOf tr).isValid = false := by
    rw [← h.main]
    by_contra hnot
    have hhandler := h.good.handler (by simpa using hnot)
    have hserver : s.1.main.handler = .servSock := of_decide_eq_true hadm
    rw [hhandler] at hserver
    exact absurd hserver (by decide)
  refine h.own (good_deliver h.good) (fun hbusy => ?_) (fun w hbusy => ?_)
    (fun _ => ⟨c, r, tr, List.suffix_refl _, hvalid⟩) True.intro
  · rw [after_none (s := s.1) (o := .deliver) (r := r)]
    exact h.serving hbusy
  · rw [after_none (s := s.1) (o := .deliver) (r := r)]
    exact h.passed w hbusy

/-- Where `main` is. -/
def mainAt (tr : ProcessTrace) : Main × Bool :=
  (mainOf tr, (calling .message (portTraceOf tr)).isSome)

/-- Where another thread is. -/
def workerAt (w : Worker) (tr : ProcessTrace) : WorkerState × Bool :=
  (workerOf w tr, (calling w.thread (portTraceOf tr)).isSome)

lemma ne_none_of_isSome {α : Type} {x : Option α} (h : x.isSome = true) : x ≠ none := by
  rintro rfl
  exact absurd h Bool.false_ne_true

/-- The other threads do not see a step of the port manager's, except for the one that makes it. -/
lemma ProcessInv.of_call {k : Thread} {e : Event processSig} (h : ProcessInv tr s) {s₂ : PortState}
    (hmain : mainOf (.op (some k) c e :: tr) = mainOf tr)
    (hworker : ∀ w, workerOf w (.op (some k) c e :: tr) = workerOf w tr)
    (hsocket : socketOf (.op (some k) c e :: tr) = socketOf tr)
    (hcalling : ∀ j, j ≠ k → calling j (portTraceOf (.op (some k) c e :: tr)) =
      calling j (portTraceOf tr))
    (hhost : calling (some k) tr = some c) (hmessage : k = .message → s.1.main.Serving)
    (hother : ∀ w : Worker, k = w.thread →
      (s.1.worker w).left = true ∧ (s.1.worker w).ended = false)
    (hright : Right (.op (some k) c e) tr) : ProcessInv (.op (some k) c e :: tr) (s.1, s₂) := by
  refine h.other hmain hworker hsocket (fun hbusy => ?_) (fun w hbusy => ?_) (fun i hi => ?_)
    hright not_ends_op
  · by_cases hk : k = .message
    · exact hmessage hk
    · rw [hcalling _ (Ne.symm hk)] at hbusy
      exact h.serving hbusy
  · by_cases hk : k = w.thread
    · exact hother w hk
    · rw [hcalling _ (Ne.symm hk)] at hbusy
      exact h.passed w hbusy
  · by_cases hk : k = i
    · subst hk
      exact absurd (hhost.symm.trans hi) (by simp)
    · rw [hcalling _ (Ne.symm hk)]
      exact h.idle i hi

lemma daemonAnswer_true {o : DaemonOp} {r : o.Ans} {b : Bool} (h : daemonAnswer b o r = true) :
    daemonAnswer true o r = true := by
  cases o with
  | pollForEvent => exact Bool.or_true _
  | accept => cases r <;> exact h
  | _ => exact h

lemma Good.main_reads {s : ProcessState} {r : o.Ans} (hs : Good s) (hadm : s.admits o r = true) :
    s.main.Reads o r := by
  cases o with
  | processStart => exact hs.fresh (by simpa [ProcessState.admits] using hadm)
  | getPortMgr | getIsValid | isDrmFdOpen => exact eq_of_answers hadm
  | daemon o => exact daemonAnswer_true hadm
  | _ => exact True.intro

lemma Good.worker_reads {s : ProcessState} {r : o.Ans} (hs : Good s)
    (hmay : o = .threadStart w ∨ (s.worker w).May w o) (hadm : s.admits o r = true) :
    (s.worker w).Reads o r := by
  cases o with
  | threadStart w' =>
      obtain rfl : w' = w := hmay.elim ProcessOp.threadStart.inj fun h => absurd h not_false
      obtain ⟨-, hnot⟩ := Bool.and_eq_true_iff.1 hadm
      exact hs.freshWorker w' (by simpa using hnot)
  | terminate => exact absurd hadm Bool.false_ne_true
  | _ => exact True.intro

lemma calling_eq_none {i : Thread} (h : (calling i (portTraceOf tr)).isSome = false) :
    calling i (portTraceOf tr) = none :=
  Option.not_isSome_iff_eq_none.1 (by rw [h]; decide)

lemma calling_port_begin {k j : Thread} {c₀ : PortCall} {r : processSig.Ans (.begin c₀)} :
    calling j (portTraceOf (.op (some k) c ⟨.begin c₀, r⟩ :: tr)) =
      if k = j then some c₀ else calling j (portTraceOf tr) := Host.calling_begin

lemma calling_port_guest {k j : Thread} {o : PortOp} {r : processSig.Ans (.guest o)} :
    calling j (portTraceOf (.op (some k) c ⟨.guest o, r⟩ :: tr)) =
      calling j (portTraceOf tr) := Host.calling_guest

lemma calling_port_finish {k j : Thread} {a : Errno} {r : processSig.Ans (.finish a)} :
    calling j (portTraceOf (.op (some k) c ⟨.finish a, r⟩ :: tr)) =
      if k = j then none else calling j (portTraceOf tr) := Host.calling_finish

/-- A step of `main` that its monitor expects. -/
lemma ProcessInv.step_main {d : HdcpDaemon} {m : PortManager} {o : processSig.Op}
    {r : processSig.Ans o} (h : ProcessInv tr s) (hcalling : calling (some .message) tr = some c)
    (hmay : mainMonitor.may (mainAt tr) o)
    (hstep : (processSystem d m).step (some .message) o r s = some s') :
    ProcessInv (.op (some .message) c ⟨o, r⟩ :: tr) s' ∧
      mainMonitor.next (mainAt tr) o r (mainAt (.op (some .message) c ⟨o, r⟩ :: tr)) := by
  have hmain := h.main
  cases o with
  | own o =>
      obtain ⟨hadm, rfl⟩ := of_step_own hstep
      obtain ⟨hbusy, hmay⟩ := hmay
      have hidle := calling_eq_none hbusy
      have hreads := h.good.main_reads hadm
      rw [hmain] at hreads
      have hnext : mainAt (.op (some .message) c ⟨.own o, r⟩ :: tr) =
          ((mainOf tr).after o r, false) := by
        rw [mainAt, mainOf_own, if_pos rfl, portTraceOf_own, hidle]
        rfl
      refine ⟨?_, hnext, hreads⟩
      rcases hmay with rfl | ⟨hstarted, hmay⟩
      · exact h.own_main hidle (good_processStart h.good hadm) (by simp) True.intro
      · have hstarted' : s.1.main.started = true := hmain ▸ hstarted
        have hmay' : s.1.main.May o := hmain ▸ hmay
        refine h.own_main hidle (good_main h.good hstarted' hmay' hadm) ?_
          (h.right_main hidle hmay')
        rintro rfl
        exact hmay
  | begin c₀ =>
      obtain rfl := Option.some.inj hstep
      obtain ⟨-, hserving⟩ := hmay
      refine ⟨h.of_call rfl (fun _ => rfl) rfl (fun j hj => ?_) hcalling (fun _ => ?_)
        (fun w hw => absurd hw.symm thread_ne_message) ⟨hserving.toAlive, fun _ => ?_⟩, ?_⟩
      · rw [calling_port_begin, if_neg (Ne.symm hj)]
      · rw [hmain]
        exact hserving
      · exact ⟨hserving.drmFd, hserving.srm⟩
      · show mainAt _ = (mainOf tr, true)
        rw [mainAt, calling_port_begin, if_pos rfl]
        rfl
  | guest o =>
      obtain ⟨x, -, rfl⟩ := Option.map_eq_some_iff.1 hstep
      obtain ⟨-, hserving⟩ := hmay
      refine ⟨h.of_call rfl (fun _ => rfl) rfl (fun _ _ => calling_port_guest) hcalling
        (fun _ => ?_)
        (fun w hw => absurd hw.symm thread_ne_message) ⟨hserving.toAlive, fun _ => ?_⟩, ?_⟩
      · rw [hmain]
        exact hserving
      · exact ⟨hserving.drmFd, hserving.srm⟩
      · show mainAt _ = mainAt tr
        rw [mainAt, calling_port_guest]
        rfl
  | finish a =>
      obtain rfl := Option.some.inj hstep
      have hbusy : (calling .message (portTraceOf tr)).isSome = true := hmay
      refine ⟨h.of_call rfl (fun _ => rfl) rfl (fun j hj => ?_) hcalling (fun _ => ?_)
        (fun w hw => absurd hw.symm thread_ne_message) True.intro, ?_⟩
      · rw [calling_port_finish, if_neg (Ne.symm hj)]
      · exact h.serving (ne_none_of_isSome hbusy)
      · show mainAt _ = (mainOf tr, false)
        rw [mainAt, calling_port_finish, if_pos rfl]
        rfl

/-- A step of another thread that its monitor expects. -/
lemma ProcessInv.step_worker {d : HdcpDaemon} {m : PortManager} {o : processSig.Op}
    {r : processSig.Ans o} (h : ProcessInv tr s) (hcalling : calling (some w.thread) tr = some c)
    (hmay : (workerMonitor w).may (workerAt w tr) o)
    (hstep : (processSystem d m).step (some w.thread) o r s = some s') :
    ProcessInv (.op (some w.thread) c ⟨o, r⟩ :: tr) s' ∧
      (workerMonitor w).next (workerAt w tr) o r
        (workerAt w (.op (some w.thread) c ⟨o, r⟩ :: tr)) := by
  have hworker := h.worker w
  -- what a thread may use that has passed the barrier and has not ended
  have halive (hleft : (workerOf w tr).left = true) (hgoing : (workerOf w tr).ended = false) :
      Usable w.thread tr := by
    rw [← hworker] at hleft hgoing
    exact ⟨h.main ▸ h.good.alive_of_left hleft hgoing, fun hw => absurd hw thread_ne_message⟩
  have hself {p : Worker → Prop} (hp : p w) (w' : Worker) (hw : w.thread = w'.thread) : p w' :=
    thread_injective hw ▸ hp
  cases o with
  | own o =>
      obtain ⟨hadm, rfl⟩ := of_step_own hstep
      obtain ⟨hbusy, hmay⟩ := hmay
      have hidle := calling_eq_none hbusy
      have hreads := h.good.worker_reads (w := w) (hmay.imp_right fun hmay => by
        rw [hworker]
        exact hmay.2.2) hadm
      rw [hworker] at hreads
      have hnext : workerAt w (.op (some w.thread) c ⟨.own o, r⟩ :: tr) =
          ((workerOf w tr).after o r, false) := by
        rw [workerAt, workerOf_own, if_pos rfl, portTraceOf_own, hidle]
        rfl
      refine ⟨?_, hnext, hreads⟩
      rcases hmay with rfl | ⟨hrunning, hgoing, hmay⟩
      · exact h.own_worker hidle (good_start h.good hadm) (by simp) True.intro
      · have hrunning' : (s.1.worker w).started = true := hworker ▸ hrunning
        have hgoing' : (s.1.worker w).ended = false := hworker ▸ hgoing
        have hmay' : (s.1.worker w).May w o := hworker ▸ hmay
        refine h.own_worker hidle (good_worker h.good hrunning' hgoing' hmay' hadm) ?_
          (h.right_worker hrunning' hmay')
        rintro rfl
        exact hmay
  | begin c₀ =>
      obtain rfl := Option.some.inj hstep
      obtain ⟨-, hleft, hgoing⟩ := hmay
      refine ⟨h.of_call rfl (fun _ => rfl) rfl (fun j hj => ?_) hcalling
        (fun hw => absurd hw thread_ne_message) (hself ?_) (halive hleft hgoing), ?_⟩
      · rw [calling_port_begin, if_neg (Ne.symm hj)]
      · rw [hworker]
        exact ⟨hleft, hgoing⟩
      · show workerAt w _ = (workerOf w tr, true)
        rw [workerAt, calling_port_begin, if_pos rfl]
        rfl
  | guest o =>
      obtain ⟨x, -, rfl⟩ := Option.map_eq_some_iff.1 hstep
      obtain ⟨-, hleft, hgoing⟩ := hmay
      refine ⟨h.of_call rfl (fun _ => rfl) rfl (fun _ _ => calling_port_guest) hcalling
        (fun hw => absurd hw thread_ne_message) (hself ?_) (halive hleft hgoing), ?_⟩
      · rw [hworker]
        exact ⟨hleft, hgoing⟩
      · show workerAt w _ = workerAt w tr
        rw [workerAt, calling_port_guest]
        rfl
  | finish a =>
      obtain rfl := Option.some.inj hstep
      have hbusy : (calling w.thread (portTraceOf tr)).isSome = true := hmay
      refine ⟨h.of_call rfl (fun _ => rfl) rfl (fun j hj => ?_) hcalling
        (fun hw => absurd hw thread_ne_message) (hself ?_) True.intro, ?_⟩
      · rw [calling_port_finish, if_neg (Ne.symm hj)]
      · exact h.passed w (ne_none_of_isSome hbusy)
      · show workerAt w _ = (workerOf w tr, false)
        rw [workerAt, calling_port_finish, if_pos rfl]
        rfl

lemma mainAt_of_ne {e : Event processSig} (hi : i ≠ some .message) :
    mainAt (.op i c e :: tr) = mainAt tr := by
  obtain ⟨o, r⟩ := e
  cases o with
  | own o => rw [mainAt, mainOf_own, if_neg hi, portTraceOf_own, mainAt]
  | begin c₀ =>
      cases i with
      | none => rfl
      | some k =>
          rw [mainAt, calling_port_begin, if_neg fun hk => hi (congrArg some hk)]
          rfl
  | guest o =>
      cases i with
      | none => rfl
      | some k =>
          rw [mainAt, calling_port_guest]
          rfl
  | finish a =>
      cases i with
      | none => rfl
      | some k =>
          rw [mainAt, calling_port_finish, if_neg fun hk => hi (congrArg some hk)]
          rfl

lemma workerAt_of_ne {e : Event processSig} (hi : i ≠ some w.thread) :
    workerAt w (.op i c e :: tr) = workerAt w tr := by
  obtain ⟨o, r⟩ := e
  cases o with
  | own o => rw [workerAt, workerOf_own, if_neg hi, portTraceOf_own, workerAt]
  | begin c₀ =>
      cases i with
      | none => rfl
      | some k =>
          rw [workerAt, calling_port_begin, if_neg fun hk => hi (congrArg some hk)]
          rfl
  | guest o =>
      cases i with
      | none => rfl
      | some k =>
          rw [workerAt, calling_port_guest]
          rfl
  | finish a =>
      cases i with
      | none => rfl
      | some k =>
          rw [workerAt, calling_port_finish, if_neg fun hk => hi (congrArg some hk)]
          rfl

/-- A step of a thread does not change where the others are. -/
lemma alone_op {e : Event processSig} : watch.Alone i (.op i c e) tr := by
  intro j hj
  cases j with
  | none => rfl
  | some j =>
      cases j with
      | message => exact mainAt_of_ne (Ne.symm hj)
      | integrity => exact workerAt_of_ne (w := .integrity) (Ne.symm hj)
      | uevent => exact workerAt_of_ne (w := .uevent) (Ne.symm hj)

/-- A label that tells nobody anything. -/
lemma pos_of_silent (hmain : mainAt (l :: tr) = mainAt tr)
    (hworker : ∀ w, workerAt w (l :: tr) = workerAt w tr) (j : Option Thread) :
    watch.pos j (l :: tr) = watch.pos j tr := by
  cases j with
  | none => rfl
  | some j =>
      cases j with
      | message => exact hmain
      | integrity => exact hworker .integrity
      | uevent => exact hworker .uevent

lemma portTraceOf_call : portTraceOf (.call i c :: tr) = portTraceOf tr := Host.guestTrace_call

lemma portTraceOf_ret {a : Option ℕ} : portTraceOf (.ret i c a :: tr) = portTraceOf tr :=
  Host.guestTrace_ret

lemma pos_call (j : Option Thread) : watch.pos j (.call i c :: tr) = watch.pos j tr := by
  refine pos_of_silent ?_ (fun w => ?_) j
  · rw [mainAt, portTraceOf_call]
    rfl
  · rw [workerAt, portTraceOf_call]
    rfl

lemma pos_ret {a : Option ℕ} (j : Option Thread) :
    watch.pos j (.ret i c a :: tr) = watch.pos j tr := by
  refine pos_of_silent ?_ (fun w => ?_) j
  · rw [mainAt, portTraceOf_ret]
    rfl
  · rw [workerAt, portTraceOf_ret]
    rfl

lemma ProcessInv.call (h : ProcessInv tr s) : ProcessInv (.call i c :: tr) s := by
  refine h.other rfl (fun _ => rfl) rfl ?_ ?_ (fun j hj => ?_) True.intro True.intro
  · rw [portTraceOf_call]
    exact h.serving
  · rw [portTraceOf_call]
    exact h.passed
  · rw [portTraceOf_call]
    rw [calling] at hj
    split_ifs at hj
    exact h.idle j hj

/-- A thread returns with nothing left to do. -/
lemma ProcessInv.ret {a : Option ℕ} (h : ProcessInv tr s)
    (hidle : ∀ k, i = some k → calling k (portTraceOf tr) = none)
    (hright : Right (.ret i c a) tr) (hends : Ends (.ret i c a) tr) :
    ProcessInv (.ret i c a :: tr) s := by
  refine h.other rfl (fun _ => rfl) rfl ?_ ?_ (fun j hj => ?_) hright hends
  · rw [portTraceOf_ret]
    exact h.serving
  · rw [portTraceOf_ret]
    exact h.passed
  · rw [portTraceOf_ret]
    rw [calling] at hj
    split_ifs at hj with hji
    · exact hidle j hji
    · exact h.idle j hj

/-- `main` returns when it has released everything. -/
lemma ProcessInv.ret_main {a : Option ℕ} (h : ProcessInv tr s)
    (hpost : ∀ ret, a = some ret → (mainOf tr).Finished ret) :
    Right (.ret (some .message) c a) tr ∧ Ends (.ret (some .message) c a) tr := by
  cases a with
  | none => exact ⟨True.intro, True.intro⟩
  | some ret =>
      obtain ⟨hreleased, hjoined, hseen, hcanceled⟩ := hpost ret rfl
      rw [← h.main] at hjoined hseen hcanceled
      have hended (w : Worker) (hcreated : s.1.main.created w = true) :
          (s.1.worker w).ended = true := h.good.joined w (hjoined w hcreated) hcreated
      refine ⟨⟨hreleased, ?_⟩, fun hcreated => ?_, fun hret => ?_⟩
      · rw [← h.socket]
        rcases hseen with hseen | hnone
        · exact (h.good.seen false hseen).1
        · by_contra hopen
          have hleft := h.good.socket (by simpa using hopen)
          have hmade := h.good.created_of_left hleft .uevent
          exact absurd ((hnone .uevent).symm.trans hmade) Bool.false_ne_true
      · rw [← h.main] at hcreated ⊢
        have hleft := h.good.ended .integrity (hended .integrity hcreated)
        have hmade := h.good.created_of_left hleft .uevent
        refine ⟨hmade, ?_⟩
        rw [← h.worker]
        exact h.good.awake (hended .uevent hmade)
      · exact h.told (h.good.canceled (hcanceled hret))

end Steps

/-! ### The programs of `main` -/

section Main

variable {α : Type} {q q' : Main} {o : ProcessOp} {m : PortManager} {d : HdcpDaemon}
  {Q : α → Main × Bool → Prop}

/-- An interaction of `main`, and what follows it. -/
lemma sat_own {f : o.Ans → ProcessProg α}
    (hmay : o = .processStart ∨ q.started = true ∧ q.May o)
    (hf : ∀ r, q.Reads o r → mainMonitor.Sat Q (f r) (q.after o r, false)) :
    mainMonitor.Sat Q (own o >>= f) (q, false) := by
  refine ⟨⟨rfl, hmay⟩, ?_⟩
  rintro r _ ⟨rfl, hreads⟩
  exact hf r hreads

/-- The last interaction of a program. -/
lemma sat_last {Q : o.Ans → Main × Bool → Prop}
    (hmay : o = .processStart ∨ q.started = true ∧ q.May o)
    (hQ : ∀ r, q.Reads o r → Q r (q.after o r, false)) :
    mainMonitor.Sat Q (own o) (q, false) := by
  refine ⟨⟨rfl, hmay⟩, ?_⟩
  rintro r _ ⟨rfl, hreads⟩
  exact hQ r hreads

/-- `main` before it makes the port manager. -/
structure Main.Bare (q : Main) : Prop where
  started : q.started = true
  daemon : q.daemon = true
  srm : q.srm = true
  portMgr : q.portMgr = false
  isValid : q.isValid = false
  drmFd : q.drmFd = false
  created : ∀ w, q.created w = false
  arrived : q.arrived = false
  joined : ∀ w, q.joined w = false

/-- `main` has a port manager, and its threads if it is valid. -/
structure Main.Made (q : Main) : Prop where
  started : q.started = true
  daemon : q.daemon = true
  allocated : q.allocated = true
  joined : ∀ w, q.joined w = false
  created : q.isValid = true → ∀ w, q.created w = true

/-- `main` has no port manager any more, or never had one. -/
structure Main.Gone (q : Main) : Prop where
  started : q.started = true
  daemon : q.daemon = true
  portMgr : q.portMgr = false
  allocated : q.allocated = false
  drmFd : q.drmFd = false
  joined : ∀ w, q.created w = true → q.joined w = true
  seen : q.seen = some false ∨ ∀ w, q.created w = false

/-- What the constructor leaves, when there was no port manager before. -/
structure Main.Constructed (q : Main) : Prop extends Main.Made q where
  srm : q.srm = true
  portMgr : q.portMgr = false
  arrived : q.arrived = false
  drmFd : q.isValid = true → q.drmFd = true
  barrier : q.isValid = true → q.barrier = true

lemma sat_newPortManager (hq : q.Bare) (hallocated : q.allocated = true) :
    mainMonitor.Sat (fun _ q' => q'.2 = false ∧ q'.1.Constructed) newPortManager (q, false) := by
  -- where the constructor gives up, the port manager is not valid
  have hgiveup (drmFd barrier : Bool) (created : Worker → Bool) :
      Main.Constructed { q with drmFd := drmFd, barrier := barrier, created := created } := by
    have hinvalid {p : Prop} (h : q.isValid = true) : p :=
      absurd (hq.isValid.symm.trans h) Bool.false_ne_true
    exact { started := hq.started, daemon := hq.daemon, allocated := hallocated,
            joined := hq.joined, created := hinvalid, srm := hq.srm, portMgr := hq.portMgr,
            arrived := hq.arrived, drmFd := hinvalid, barrier := hinvalid }
  rw [newPortManager]
  refine sat_own (.inr ⟨hq.started, hq.drmFd⟩) fun opened _ => ?_
  change mainMonitor.Sat _ _ ({ q with drmFd := opened }, false)
  refine Monitor.Sat.ite (fun _ => ⟨rfl, hgiveup opened q.barrier q.created⟩) fun hopened => ?_
  have hopen : opened = true := by
    cases opened
    · exact absurd rfl hopened
    · rfl
  refine sat_own (.inr ⟨hq.started, True.intro⟩) fun (sts : Errno) _ => ?_
  change mainMonitor.Sat _ _ ({ q with drmFd := opened }, false)
  refine Monitor.Sat.ite (fun _ => ⟨rfl, hgiveup opened q.barrier q.created⟩) fun _ => ?_
  refine sat_own (.inr ⟨hq.started, hq.created⟩) fun (sts : Errno) _ => ?_
  set barrier := succeeded sts with hsts
  change mainMonitor.Sat _ _ ({ q with drmFd := opened, barrier := barrier }, false)
  refine Monitor.Sat.ite (fun _ => ⟨rfl, hgiveup opened barrier q.created⟩) fun hbarrier => ?_
  have hbarrier : barrier = true := decide_eq_true (not_not.1 hbarrier)
  refine sat_own (.inr ⟨hq.started, hbarrier, hq.created _, hq.joined _⟩) fun (sts₁ : Errno) _ => ?_
  set created := Function.update q.created .integrity (succeeded sts₁) with hcreated
  change mainMonitor.Sat _ _
    ({ q with drmFd := opened, barrier := barrier, created := created }, false)
  refine Monitor.Sat.ite (fun _ => ⟨rfl, hgiveup opened barrier created⟩) fun hsts₁ => ?_
  have hintegrity : created .integrity = true :=
    (Function.update_self _ _ _).trans (decide_eq_true (not_not.1 hsts₁))
  have hnext : created .uevent = false :=
    (Function.update_of_ne (by decide) _ _).trans (hq.created _)
  refine sat_own (.inr ⟨hq.started, hbarrier, hnext, hq.joined _⟩) fun (sts₂ : Errno) _ => ?_
  set created' := Function.update created .uevent (succeeded sts₂) with hcreated'
  change mainMonitor.Sat _ _
    ({ q with drmFd := opened, barrier := barrier, created := created' }, false)
  refine Monitor.Sat.ite (fun _ => ⟨rfl, hgiveup opened barrier created'⟩) fun hsts₂ => ?_
  have hall : ∀ w, created' w = true := forall_worker
    ((Function.update_of_ne (by decide : Worker.integrity ≠ .uevent) _ _).trans hintegrity)
    ((Function.update_self _ _ _).trans (decide_eq_true (not_not.1 hsts₂)))
  refine sat_own (.inr ⟨hq.started, hq.isValid⟩) fun _ _ => ?_
  change mainMonitor.Sat _ _ ({ q with
    drmFd := opened, barrier := barrier, created := created', handler := .portManager }, false)
  refine sat_last (.inr ⟨hq.started, rfl, hall⟩) fun _ _ => ⟨rfl, ?_⟩
  exact { started := hq.started, daemon := hq.daemon, allocated := hallocated,
          joined := hq.joined, created := fun _ => hall, srm := hq.srm, portMgr := hq.portMgr,
          arrived := hq.arrived, drmFd := fun _ => hopen, barrier := fun _ => hbarrier }

lemma sat_closeDrmFd (hstarted : q.started = true) :
    mainMonitor.Sat (fun _ q' => q' = ({ q with drmFd := false }, false)) closeDrmFd
      (q, false) := by
  rw [closeDrmFd]
  refine sat_own (.inr ⟨hstarted, True.intro⟩)
    fun (isOpen : Bool) (hisOpen : isOpen = q.drmFd) => ?_
  change mainMonitor.Sat _ _ (q, false)
  refine Monitor.Sat.ite (fun hopen => ?_) fun hclosed => ?_
  · exact sat_last (.inr ⟨hstarted, hisOpen.symm.trans hopen⟩) fun _ _ => rfl
  · have hfd : q.drmFd = false := by
      rw [← hisOpen]
      exact Bool.not_eq_true _ ▸ hclosed
    change (q, false) = ({ q with drmFd := false }, false)
    rw [← hfd]

lemma sat_closeEventSocket (hstarted : q.started = true) (hjoined : ∀ w, q.joined w = true) :
    mainMonitor.Sat (fun _ q' => q' = ({ q with seen := some false }, false)) closeEventSocket
      (q, false) := by
  rw [closeEventSocket]
  refine sat_own (.inr ⟨hstarted, hjoined⟩) fun (isOpen : Bool) _ => ?_
  change mainMonitor.Sat _ _ ({ q with seen := some isOpen }, false)
  cases isOpen with
  | true => exact sat_last (.inr ⟨hstarted, rfl⟩) fun _ _ => rfl
  | false => exact rfl

/-- The port manager is deleted, and its threads are joined. -/
def Main.deleted (q : Main) : Main :=
  { q with
    drmFd := false
    isDestroyThreads := true
    joined := fun _ => true
    seen := some false
    allocated := false }

lemma sat_deletePortManager (hq : q.Made) :
    mainMonitor.Sat (fun _ q' => q' = (q.deleted, false)) deletePortManager (q, false) := by
  have hall : Function.update (Function.update q.joined .integrity true) .uevent true =
      fun _ => true :=
    funext (forall_worker
      ((Function.update_of_ne (by decide : Worker.integrity ≠ .uevent) _ _).trans
        (Function.update_self _ _ _)) (Function.update_self _ _ _))
  have hjoined : Function.update q.joined .integrity true .uevent = false :=
    (Function.update_of_ne (by decide) _ _).trans (hq.joined _)
  rw [deletePortManager]
  refine (sat_closeDrmFd hq.started).bind ?_
  rintro _ _ rfl
  refine sat_own (.inr ⟨hq.started, True.intro⟩) fun _ _ => ?_
  change mainMonitor.Sat _ _ ({ q with drmFd := false, isDestroyThreads := true }, false)
  refine sat_own (.inr ⟨hq.started, hq.joined _, fun h => hq.created h _⟩) fun _ _ => ?_
  change mainMonitor.Sat _ _ ({ q with
    drmFd := false, isDestroyThreads := true
    joined := Function.update q.joined .integrity true }, false)
  iterate 5
    refine sat_own (.inr ⟨hq.started, True.intro⟩) fun _ _ => ?_
    change mainMonitor.Sat _ _ ({ q with
      drmFd := false, isDestroyThreads := true
      joined := Function.update q.joined .integrity true }, false)
  refine sat_own (.inr ⟨hq.started, hjoined, fun h => hq.created h _⟩) fun _ _ => ?_
  change mainMonitor.Sat _ _ ({ q with
    drmFd := false, isDestroyThreads := true
    joined := Function.update (Function.update q.joined .integrity true) .uevent true }, false)
  rw [hall]
  refine (sat_closeEventSocket (q := { q with
    drmFd := false, isDestroyThreads := true, joined := fun _ => true }) hq.started
      fun _ => rfl).bind ?_
  rintro _ _ rfl
  exact sat_last (.inr ⟨hq.started, hq.allocated, rfl, fun _ => rfl⟩) fun _ _ => rfl

/-- `main` serves, and has not joined the threads. -/
structure Main.Up (q : Main) : Prop extends Main.Serving q, Main.Made q

/-- What `PortManagerInit` leaves. -/
structure Main.Initialized (ret : Errno) (q : Main) : Prop where
  up : ret = .success → q.Up
  gone : ret ≠ .success → q.Gone

lemma Main.Made.gone (hq : q.Made) : Main.Gone { q.deleted with portMgr := false } where
  started := hq.started
  daemon := hq.daemon
  portMgr := rfl
  allocated := rfl
  drmFd := rfl
  joined _ _ := rfl
  seen := .inl rfl

lemma sat_portManagerInit (hq : q.Bare) (hallocated : q.allocated = false) :
    mainMonitor.Sat (fun ret q' => q'.2 = false ∧ q'.1.Initialized ret) portManagerInit
      (q, false) := by
  have hgone : q.Gone :=
    { started := hq.started, daemon := hq.daemon, portMgr := hq.portMgr,
      allocated := hallocated, drmFd := hq.drmFd,
      joined := fun w h => absurd ((hq.created w).symm.trans h) Bool.false_ne_true,
      seen := .inr hq.created }
  have hfailed {ret : Errno} {q' : Main} (hret : ret ≠ .success) (hq' : q'.Gone) :
      q'.Initialized ret := ⟨fun h => absurd h hret, fun _ => hq'⟩
  rw [portManagerInit]
  refine sat_own (.inr ⟨hq.started, True.intro⟩) fun (portMgr : Bool) (hread : portMgr = _) => ?_
  change mainMonitor.Sat _ _ (q, false)
  refine Monitor.Sat.ite (fun _ => ⟨rfl, hfailed (by decide) hgone⟩) fun _ => ?_
  refine sat_own (.inr ⟨hq.started, hallocated, hq.arrived⟩) fun (allocated : Bool) _ => ?_
  change mainMonitor.Sat _ _ ({ q with allocated := allocated }, false)
  cases allocated with
  | false =>
      refine ⟨rfl, hfailed (by decide) ?_⟩
      exact { hgone with allocated := rfl }
  | true =>
      have hbare : Main.Bare { q with allocated := true } := { hq with }
      refine (sat_newPortManager hbare rfl).bind ?_
      rintro _ ⟨q₁, _⟩ ⟨rfl, hq₁⟩
      refine sat_own (.inr ⟨hq₁.started, hq₁.allocated⟩) fun _ _ => ?_
      change mainMonitor.Sat _ _ ({ q₁ with portMgr := true }, false)
      refine sat_own (.inr ⟨hq₁.started, True.intro⟩)
        fun (isValid : Bool) (hread : isValid = _) => ?_
      change mainMonitor.Sat _ _ ({ q₁ with portMgr := true }, false)
      have hmade : Main.Made { q₁ with portMgr := true } :=
        { started := hq₁.started, daemon := hq₁.daemon, allocated := hq₁.allocated,
          joined := hq₁.joined, created := hq₁.created }
      refine Monitor.Sat.ite (fun _ => ?_) fun hvalid => ?_
      · refine (sat_deletePortManager hmade).bind ?_
        rintro _ _ rfl
        refine sat_own (.inr ⟨hq₁.started, rfl⟩) fun _ _ => ?_
        change mainMonitor.Sat _ _ ({ q₁.deleted with portMgr := false }, false)
        refine ⟨rfl, hfailed (by decide) ?_⟩
        exact hmade.gone
      · have hvalid' : q₁.isValid = true := by
          rw [← show isValid = q₁.isValid from hread]
          simpa using hvalid
        have halive : Main.Alive { q₁ with portMgr := true } :=
          ⟨hq₁.daemon, hq₁.allocated, hvalid', rfl⟩
        rw [barrierWait]
        refine sat_own (.inr ⟨hq₁.started, hq₁.barrier hvalid', hq₁.arrived, halive⟩) fun _ _ => ?_
        change mainMonitor.Sat _ _ ({ q₁ with portMgr := true, arrived := true }, false)
        refine sat_own (.inr ⟨hq₁.started, True.intro⟩) fun _ _ => ?_
        change mainMonitor.Sat _ _ ({ q₁ with portMgr := true, arrived := true }, false)
        refine ⟨rfl, fun _ => ?_, fun h => absurd rfl h⟩
        exact { daemon := hq₁.daemon, allocated := hq₁.allocated, isValid := hvalid',
                portMgr := rfl, srm := hq₁.srm, drmFd := hq₁.drmFd hvalid', arrived := rfl,
                started := hq₁.started, joined := hq₁.joined, created := hq₁.created }

/-! ### The message loop -/

/-- The monitor for the message loop, while its interactions with the port manager are names. -/
def serveMonitor : Monitor Daemon.daemonSig (Main × Bool) where
  may q _ := q.2 = false ∧ q.1.Up
  next q o r q' :=
    q' = ({ q.1 with canceled := q.1.canceled || canceledBy o r }, false) ∧
      daemonAnswer true o r = true

/-- A program of the port manager, inside a call. -/
lemma sat_embed {P : Type} {μ : Monitor processSig P} {x : P} (p : PortProg α)
    (h : ∀ o, μ.may x (.guest o) ∧ ∀ r x', μ.next x (.guest o) r x' → x' = x) :
    μ.Sat (fun _ x' => x' = x) (Host.embed p : ProcessProg α) x := by
  induction p with
  | ret a => rfl
  | call o k ih =>
      refine ⟨(h o).1, fun r x' hnext => ?_⟩
      obtain rfl := (h o).2 r x' hnext
      exact ih r

lemma sat_call (hq : q.Serving) {c : PortCall} :
    mainMonitor.Sat (fun _ q' => q' = (q, false)) (call (portSystem m) c) (q, false) := by
  refine ⟨⟨rfl, hq⟩, ?_⟩
  rintro _ _ rfl
  refine (sat_embed (μ := mainMonitor) _ fun o => ⟨⟨rfl, hq⟩, fun _ _ hnext => hnext⟩).bind ?_
  rintro a _ rfl
  refine ⟨rfl, ?_⟩
  rintro _ _ rfl
  rfl

lemma sat_onPortManager (hq : q.Up) {c : PortCall} :
    mainMonitor.Sat (fun _ q' => q' = (q, false)) (onPortManager m c) (q, false) := by
  rw [onPortManager]
  refine sat_own (.inr ⟨hq.started, True.intro⟩) fun (portMgr : Bool) _ => ?_
  change mainMonitor.Sat _ _ (q, false)
  exact Monitor.Sat.ite (fun _ => rfl) fun _ => sat_call hq.toServing

/-- The message loop does not notice how the operations of the port manager are made. -/
lemma sat_serve (hq : q.Up) (o : DaemonOp) :
    mainMonitor.Sat (fun r q' => serveMonitor.next (q, false) o r q') (serve m o) (q, false) := by
  have hsame : ({ q with canceled := q.canceled || false }, false) = (q, false) := by
    rw [Bool.or_false]
  have hown (hserve : serve m o = own (.daemon o)) :
      mainMonitor.Sat (fun r q' => serveMonitor.next (q, false) o r q') (serve m o) (q, false) := by
    rw [hserve]
    exact sat_last (.inr ⟨hq.started, hq.toServing⟩) fun r hread => ⟨rfl, hread⟩
  cases o with
  | portManagerHandleAppExit appId =>
      refine (sat_onPortManager hq).bind ?_
      rintro _ _ rfl
      exact ⟨hsame.symm, rfl⟩
  | portManagerEnumeratePorts =>
      refine (sat_onPortManager hq).bind ?_
      rintro _ _ rfl
      refine sat_own (.inr ⟨hq.started, True.intro⟩) fun _ _ => ?_
      exact ⟨hsame.symm, rfl⟩
  | portManagerEnablePort id appId level | portManagerDisablePort id appId =>
      refine (sat_onPortManager hq).mono ?_
      rintro _ _ rfl
      exact ⟨hsame.symm, rfl⟩
  | portManagerGetStatus id =>
      refine (sat_onPortManager hq).bind ?_
      rintro _ _ rfl
      refine sat_own (.inr ⟨hq.started, True.intro⟩) fun _ _ => ?_
      exact ⟨hsame.symm, rfl⟩
  | _ => exact hown rfl

/-- What holds between any two interactions of the message loop. -/
def Looping (q : Main × Bool) : Prop := q.2 = false ∧ q.1.Up

lemma Main.Up.cancel (hq : q.Up) (b : Bool) : Main.Up { q with canceled := b } :=
  { hq with }

variable {x : Main × Bool} {β : Type}

/-- An interaction of the message loop, and what follows it. -/
lemma sat_loop_op {o : DaemonOp} {Q : β → Main × Bool → Prop} {f : o.Ans → DaemonProg β}
    (hx : Looping x)
    (hf : ∀ r x', Looping x' → (canceledBy o r = true → x'.1.canceled = true) →
      daemonAnswer true o r = true → serveMonitor.Sat Q (f r) x') :
    serveMonitor.Sat Q (op (S := Daemon.daemonSig) o >>= f) x := by
  refine ⟨hx, ?_⟩
  rintro r _ ⟨rfl, hanswer⟩
  exact hf r _ ⟨rfl, hx.2.cancel _⟩ (fun h => by simp [h]) hanswer

/-- The message loop may do anything. -/
lemma sat_loop (p : DaemonProg β) (hx : Looping x) : serveMonitor.Sat (fun _ => Looping) p x := by
  induction p generalizing x with
  | ret a => exact hx
  | call o k ih => exact sat_loop_op hx fun r x' hx' _ _ => ih r hx'

/-- New connections do not cancel the loop. -/
lemma sat_acceptLoop (n i : ℕ) (hx : Looping x) :
    serveMonitor.Sat (fun ret x' => Looping x' ∧ ret ≠ .ecanceled) (d.acceptLoop n i) x := by
  induction n generalizing i x with
  | zero => exact ⟨hx, by decide⟩
  | succ n ih =>
      refine sat_loop_op hx fun r x₁ hx₁ _ hanswer => ?_
      cases r with
      | error sts =>
          have hsts : sts ≠ .ecanceled := of_decide_eq_true hanswer
          refine ⟨hx₁, ?_⟩
          split_ifs
          · decide
          · exact hsts
      | ok incomingFd =>
          refine (sat_loop _ hx₁).bind ?_
          rintro (_ | j) x₂ hx₂
          · exact sat_loop_op hx₂ fun _ x₃ hx₃ _ _ => ⟨hx₃, by decide⟩
          · refine sat_loop_op hx₂ fun _ x₃ hx₃ _ _ => ?_
            exact (sat_loop _ hx₃).bind fun _ x₄ hx₄ => ih j hx₄

lemma sat_getTaskLoop (fdIndex todo i : ℕ) (hx : Looping x) :
    serveMonitor.Sat (fun r x' => Looping x' ∧ r ≠ .error .ecanceled)
      (d.getTaskLoop fdIndex todo i) x := by
  induction todo generalizing i x with
  | zero => exact ⟨hx, by simp⟩
  | succ todo ih =>
      rw [HdcpDaemon.getTaskLoop]
      refine Monitor.Sat.ite (fun _ => ⟨hx, by simp⟩) fun _ => ?_
      refine sat_loop_op hx fun (slot : Daemon.PollFd) x₁ hx₁ _ _ => ?_
      obtain ⟨_ | fd, revents⟩ := slot
      · exact ih _ hx₁
      · refine Monitor.Sat.ite (fun _ => ih _ hx₁) fun _ => ?_
        refine Monitor.Sat.ite (fun _ => ?_) fun _ => ?_
        · refine (sat_acceptLoop _ _ hx₁).bind fun ret x₂ hx₂ => ?_
          refine Monitor.Sat.ite (fun _ => ⟨hx₂.1, fun h => ?_⟩) fun _ => ih _ hx₂.1
          exact hx₂.2 (Except.error.inj h)
        · exact (sat_loop _ hx₁).bind fun task x₂ hx₂ => ⟨hx₂, by simp⟩

/-- `GetTask` says that the process has been told to terminate when `PollForEvent` says so. -/
lemma sat_getTask (rounds : ℕ) (hx : Looping x) :
    serveMonitor.Sat (fun r x' => Looping x' ∧
      (r = some (.error .ecanceled) → x'.1.canceled = true)) (d.getTask rounds) x := by
  have hround (b : Unit) (x : Main × Bool) (hx : Looping x) :
      serveMonitor.Sat (Monitor.Round (fun _ => Looping) fun r x' => Looping x' ∧
        (r = .error .ecanceled → x'.1.canceled = true)) d.getTaskRound x := by
    refine sat_loop_op hx fun r x₁ hx₁ hcanceled _ => ?_
    cases r with
    | error sts =>
        refine ⟨hx₁, fun h => hcanceled ?_⟩
        exact decide_eq_true (Except.error.inj h)
    | ok revents =>
        refine sat_loop_op hx₁ fun (fdIndex : ℕ) x₂ hx₂ _ _ => ?_
        refine (sat_getTaskLoop fdIndex _ _ hx₂).bind ?_
        rintro (sts | ⟨i, task⟩) x₃ ⟨hx₃, hne⟩
        · exact ⟨hx₃, fun h => absurd (congrArg Except.error (Except.error.inj h)) hne⟩
        · refine sat_loop_op hx₃ fun _ x₄ hx₄ _ _ => ?_
          cases task with
          | none => exact hx₄
          | some task => exact ⟨hx₄, by simp⟩
  refine (Monitor.sat_iter hround rounds (b := ()) hx).mono ?_
  rintro (_ | r) x' h
  · obtain ⟨-, hx'⟩ := h
    exact ⟨hx', by simp⟩
  · exact ⟨h.1, fun hr => h.2 (Option.some.inj hr)⟩

lemma sat_messageResponseLoop (rounds : ℕ) (hx : Looping x) :
    serveMonitor.Sat (fun r x' => Looping x' ∧ (r = some () → x'.1.canceled = true))
      (messageResponseLoop d rounds) x := by
  have hround (b : Unit) (x : Main × Bool) (hx : Looping x) :
      serveMonitor.Sat (Monitor.Round (fun _ => Looping) fun _ x' => Looping x' ∧
        x'.1.canceled = true) (messageResponseRound d rounds) x := by
    refine (sat_getTask rounds hx).bind ?_
    rintro (_ | sts | task) x₁ ⟨hx₁, hcanceled⟩
    · exact hx₁
    · refine Monitor.Sat.ite (fun hsts => ⟨hx₁, hcanceled ?_⟩) fun _ => hx₁
      rw [hsts]
    · exact (sat_loop _ hx₁).bind fun _ x₂ hx₂ => hx₂
  refine (Monitor.sat_iter hround rounds (b := ()) hx).mono ?_
  rintro (_ | r) x' h
  · obtain ⟨-, hx'⟩ := h
    exact ⟨hx', by simp⟩
  · exact ⟨h.1, fun _ => h.2⟩

/-! ### The whole of `main` -/

/-- What `startAndServe` leaves when it ends. -/
structure Main.Stopped (ret : ℕ) (q : Main) : Prop where
  held : q.Gone ∨ q.Up
  canceled : ret = 0 → q.canceled = true

lemma sat_startAndServe (hq : Main.Bare { q with srm := true }) (hallocated : q.allocated = false)
    (rounds : ℕ) :
    mainMonitor.Sat (fun a q' => q'.2 = false ∧ ∀ ret, a = some ret → q'.1.Stopped ret)
      (startAndServe d m rounds) (q, false) := by
  have hfailed {q' : Main} (hq' : q'.Gone ∨ q'.Up) (ret : ℕ) (hret : some 1 = some ret) :
      q'.Stopped ret := ⟨hq', fun h => absurd ((Option.some.inj hret).trans h) (by decide)⟩
  rw [startAndServe]
  refine sat_own (.inr ⟨hq.started, hq.arrived⟩) fun (sts : Errno) _ => ?_
  change mainMonitor.Sat _ _ ({ q with srm := succeeded sts }, false)
  refine Monitor.Sat.ite (fun _ => ⟨rfl, hfailed (.inl ?_)⟩) fun hsts => ?_
  · exact { started := hq.started, daemon := hq.daemon, portMgr := hq.portMgr,
            allocated := hallocated, drmFd := hq.drmFd,
            joined := fun w h => absurd ((hq.created w).symm.trans h) Bool.false_ne_true,
            seen := .inr hq.created }
  rw [show succeeded sts = true from decide_eq_true (not_not.1 hsts)]
  refine (sat_portManagerInit hq hallocated).bind ?_
  rintro ret ⟨q₁, _⟩ ⟨rfl, hq₁⟩
  refine Monitor.Sat.ite (fun hret => ⟨rfl, hfailed (.inl (hq₁.gone hret))⟩) fun hret => ?_
  have hup : q₁.Up := hq₁.up (not_not.1 hret)
  refine sat_own (.inr ⟨hup.started, True.intro⟩) fun (sts : Errno) _ => ?_
  change mainMonitor.Sat _ _ (q₁, false)
  refine Monitor.Sat.ite (fun _ => ⟨rfl, hfailed (.inr hup)⟩) fun _ => ?_
  refine sat_own (.inr ⟨hup.started, True.intro⟩) fun (isValid : Bool) _ => ?_
  change mainMonitor.Sat _ _ (q₁, false)
  refine Monitor.Sat.ite (fun _ => ⟨rfl, hfailed (.inr hup)⟩) fun _ => ?_
  have hloop := sat_messageResponseLoop (d := d) rounds (x := (q₁, false)) ⟨rfl, hup⟩
  refine (hloop.subst (f := serve m) ?_).bind ?_
  · rintro ⟨q₂, _⟩ o ⟨rfl, hup₂⟩
    exact sat_serve hup₂ o
  · rintro (_ | ⟨⟩) x' ⟨⟨hbusy, hup'⟩, hcanceled⟩
    · exact ⟨hbusy, by simp⟩
    · exact ⟨hbusy, fun ret _ => ⟨.inr hup', fun _ => hcanceled rfl⟩⟩

/-- What `delete portMgr` leaves. -/
structure Main.Left (q₀ q : Main) : Prop where
  started : q.started = true
  allocated : q.allocated = false
  gone : Main.Gone { q with portMgr := false }
  canceled : q.canceled = q₀.canceled

lemma sat_deletePortMgr (hq : q.Gone ∨ q.Up) :
    mainMonitor.Sat (fun _ q' => q'.2 = false ∧ q.Left q'.1) deletePortMgr (q, false) := by
  have hstarted : q.started = true := hq.elim Main.Gone.started fun h => h.started
  rw [deletePortMgr]
  refine sat_own (.inr ⟨hstarted, True.intro⟩) fun (portMgr : Bool) hread => ?_
  change mainMonitor.Sat _ _ (q, false)
  have hread : portMgr = q.portMgr := hread
  rcases hq with hgone | hup
  · rw [hread, hgone.portMgr]
    exact ⟨rfl, hgone.started, hgone.allocated, { hgone with portMgr := rfl }, rfl⟩
  · rw [hread, hup.portMgr]
    refine (sat_deletePortManager hup.toMade).mono ?_
    rintro _ _ rfl
    exact ⟨rfl, hup.started, rfl, hup.toMade.gone, rfl⟩

/-- The release of the port manager. -/
lemma sat_portManagerRelease (hq : q.Gone ∨ q.Up) :
    mainMonitor.Sat (fun _ q' => q'.2 = false ∧ q'.1.Gone ∧ q'.1.canceled = q.canceled)
      portManagerRelease (q, false) := by
  rw [portManagerRelease]
  refine (sat_deletePortMgr hq).bind ?_
  rintro _ ⟨q₁, _⟩ ⟨rfl, hleft⟩
  exact sat_last (.inr ⟨hleft.started, hleft.allocated⟩) fun _ _ =>
    ⟨rfl, hleft.gone, hleft.canceled⟩

lemma sat_initializeWithMinimalPrivileges (rounds : ℕ) :
    mainMonitor.Sat (fun a q' => q'.2 = false ∧ ∀ ret, a = some ret → q'.1.Finished ret)
      (initializeWithMinimalPrivileges d m rounds) (q, false) := by
  rw [initializeWithMinimalPrivileges]
  refine sat_own (.inl rfl) fun _ hread => ?_
  obtain rfl : q = Main.start := hread
  refine sat_own (.inr ⟨rfl, rfl⟩) fun _ _ => ?_
  refine sat_own (.inr ⟨rfl, rfl⟩) fun (isValid : Bool) _ => ?_
  change mainMonitor.Sat _ _ ({ Main.start with
    started := true, handler := .servSock, daemon := true, daemonValid := isValid }, false)
  have hbare : Main.Bare { Main.start with
      started := true, handler := .servSock, daemon := true, daemonValid := isValid
      srm := true } := ⟨rfl, rfl, rfl, rfl, rfl, rfl, fun _ => rfl, rfl, fun _ => rfl⟩
  refine (sat_startAndServe hbare rfl rounds).bind ?_
  rintro (_ | ret) ⟨q₁, _⟩ ⟨rfl, hstopped⟩
  · exact ⟨rfl, by simp⟩
  obtain ⟨hheld, hcanceled⟩ := hstopped ret rfl
  refine (sat_portManagerRelease hheld).bind ?_
  rintro _ ⟨q₂, _⟩ ⟨rfl, hgone, hsame⟩
  refine sat_own (.inr ⟨hgone.started, True.intro⟩) fun _ _ => ?_
  change mainMonitor.Sat _ _ ({ q₂ with srm := false }, false)
  refine sat_own (.inr ⟨hgone.started, hgone.daemon, hgone.allocated, hgone.joined⟩) fun _ _ => ?_
  refine ⟨rfl, fun ret' hret => ?_⟩
  obtain rfl := Option.some.inj hret
  exact { daemon := rfl, srm := rfl, portMgr := hgone.portMgr, allocated := hgone.allocated,
          drmFd := hgone.drmFd, joined := hgone.joined, seen := hgone.seen,
          canceled := fun h => hsame.trans (hcanceled h) }

end Main

/-! ### The programs of the other threads -/

section Workers

variable {α : Type} {w : Worker} {q q' : WorkerState} {o : ProcessOp} {m : PortManager}
  {Q : α → WorkerState × Bool → Prop} {x x' : WorkerState × Bool}

/-- An interaction of a thread, and what follows it. -/
lemma sat_worker_own {f : o.Ans → ProcessProg α}
    (hmay : o = .threadStart w ∨ q.started = true ∧ q.ended = false ∧ q.May w o)
    (hf : ∀ r, q.Reads o r → (workerMonitor w).Sat Q (f r) (q.after o r, false)) :
    (workerMonitor w).Sat Q (own o >>= f) (q, false) := by
  refine ⟨⟨rfl, hmay⟩, ?_⟩
  rintro r _ ⟨rfl, hreads⟩
  exact hf r hreads

/-- A thread has passed the barrier, and has not ended. -/
structure WorkerState.Running (q : WorkerState) : Prop where
  started : q.started = true
  left : q.left = true
  ended : q.ended = false

/-- What holds of a thread between any two calls of the port manager. -/
def Running (x : WorkerState × Bool) : Prop := x.2 = false ∧ x.1.Running

lemma sat_worker_call (hq : q.Running) {c : PortCall} :
    (workerMonitor w).Sat (fun _ x' => x' = (q, false)) (call (portSystem m) c) (q, false) := by
  refine ⟨⟨rfl, hq.left, hq.ended⟩, ?_⟩
  rintro _ _ rfl
  refine (sat_embed (μ := workerMonitor w) _ fun o =>
    ⟨⟨rfl, hq.left, hq.ended⟩, fun _ _ hnext => hnext⟩).bind ?_
  rintro a _ rfl
  refine ⟨rfl, ?_⟩
  rintro _ _ rfl
  rfl

/-- The start of a thread. -/
lemma sat_enter {f : Unit → ProcessProg α}
    (hf : ∀ q : WorkerState, q.Running → (workerMonitor w).Sat Q (f ()) (q, false)) :
    (workerMonitor w).Sat Q (own (.threadStart w) >>= fun _ => barrierWait >>= f) (q, false) := by
  refine sat_worker_own (.inl rfl) fun _ hread => ?_
  obtain rfl : q = WorkerState.start := hread
  refine sat_worker_own (.inr ⟨rfl, rfl, rfl⟩) fun _ _ => ?_
  refine sat_worker_own (.inr ⟨rfl, rfl, rfl⟩) fun _ _ => ?_
  exact hf _ ⟨rfl, rfl, rfl⟩

lemma sat_threadExit (hq : q.Running) (hawake : w = .uevent → q.failed = true ∨ q.awake = true) :
    (workerMonitor w).Sat (fun _ x' => x'.2 = false) (threadExit w) (q, false) :=
  sat_worker_own (.inr ⟨hq.started, hq.ended, rfl, hq.left, hawake⟩) fun _ _ => rfl

lemma sat_initPeriodicIntegrityCheck (rounds : ℕ) :
    (workerMonitor .integrity).Sat (fun _ x' => x'.2 = false)
      (initPeriodicIntegrityCheck m rounds) (q, false) := by
  have hround (b : Unit) (x : WorkerState × Bool) (hx : Running x) :
      (workerMonitor .integrity).Sat (Monitor.Round (fun _ => Running) fun _ => Running)
        (integrityCheckRound m) x := by
    obtain ⟨q, _⟩ := x
    obtain ⟨rfl, hq⟩ := hx
    refine sat_worker_own (.inr ⟨hq.started, hq.ended, True.intro⟩) fun (b : Bool) _ => ?_
    refine Monitor.Sat.ite (fun _ => ⟨rfl, hq⟩) fun _ => ?_
    refine (sat_worker_call hq).bind ?_
    rintro _ _ rfl
    refine sat_worker_own (.inr ⟨hq.started, hq.ended, True.intro⟩) fun _ _ => ?_
    exact ⟨rfl, hq⟩
  refine sat_enter fun q hq => ?_
  refine (Monitor.sat_iter hround rounds (b := ()) ⟨rfl, hq⟩).bind ?_
  rintro (_ | ⟨⟩) ⟨q', _⟩ h
  · obtain ⟨-, hbusy, -⟩ := h
    exact hbusy
  · obtain ⟨rfl, hq'⟩ := h
    exact sat_threadExit hq' (by simp)

/-- The monitor for a round of the uevent thread, while `ProcessHotPlug` is a name. -/
def ueventMonitor : Monitor Uevent.ueventSig (WorkerState × Bool) where
  may x _ := Running x
  next x o r x' := x' = ({ x.1 with awake := awakeAfter x.1.awake o r }, false)

lemma sat_ueventServe (hx : Running x) (o : UeventOp) :
    (workerMonitor .uevent).Sat (fun r x' => ueventMonitor.next x o r x') (ueventServe m o) x := by
  obtain ⟨q, _⟩ := x
  obtain ⟨rfl, hq⟩ := hx
  cases o with
  | isDestroyThreads =>
      exact ⟨⟨rfl, .inr ⟨hq.started, hq.ended, True.intro⟩⟩, by rintro r _ ⟨rfl, -⟩; rfl⟩
  | portManagerProcessHotPlug =>
      refine (sat_worker_call hq).bind ?_
      rintro _ _ rfl
      exact rfl
  | _ =>
      exact ⟨⟨rfl, .inr ⟨hq.started, hq.ended, rfl, hq.left⟩⟩, by rintro r _ ⟨rfl, -⟩; rfl⟩

/-- An interaction of a round, and what follows it. -/
lemma sat_uevent_op {o : UeventOp} {f : o.Ans → UeventProg α} (hx : Running x)
    (hf : ∀ r x', Running x' → x'.1.awake = awakeAfter x.1.awake o r →
      ueventMonitor.Sat Q (f r) x') :
    ueventMonitor.Sat Q (op (S := Uevent.ueventSig) o >>= f) x := by
  refine ⟨hx, ?_⟩
  rintro r _ rfl
  exact hf r _ ⟨rfl, hx.2.started, hx.2.left, hx.2.ended⟩ rfl

lemma sat_uevent (p : UeventProg α) (hx : Running x) :
    ueventMonitor.Sat (fun _ => Running) p x := by
  induction p generalizing x with
  | ret a => exact hx
  | call o k ih => exact sat_uevent_op hx fun r x' hx' _ => ih r hx'

/-- A round ends the thread only after a datagram that is not empty. -/
lemma sat_uEventRound (fuel : ℕ) (hx : Running x) :
    ueventMonitor.Sat (fun r x' => Running x' ∧ (r = some .exit → x'.1.awake = true))
      (Uevent.uEventRound fuel) x := by
  refine sat_uevent_op hx fun (received : Option (List UInt8)) x₁ hx₁ hawake => ?_
  cases received with
  | none => exact ⟨hx₁, by simp⟩
  | some bytes =>
      refine Monitor.Sat.ite (fun _ => ⟨hx₁, by simp⟩) fun hbytes => ?_
      have hawake : x₁.1.awake = true := hawake.trans (decide_eq_true hbytes)
      refine sat_uevent_op hx₁ fun (destroy : Bool) x₂ hx₂ hsame => ?_
      refine Monitor.Sat.ite (fun _ => ⟨hx₂, fun _ => hsame.trans hawake⟩) fun _ => ?_
      refine (sat_uevent _ hx₂).bind ?_
      rintro (_ | _ | messages) x₃ hx₃
      · exact ⟨hx₃, by simp⟩
      · exact ⟨hx₃, by simp⟩
      · refine Monitor.Sat.ite (fun _ => ⟨hx₃, by simp⟩) fun _ => ?_
        exact (sat_uevent _ hx₃).bind fun _ x₄ hx₄ => ⟨hx₄, by simp⟩

lemma sat_ueventHandlerRound (hx : Running x) :
    (workerMonitor .uevent).Sat (Monitor.Round (fun _ : Unit => Running) fun _ : Unit => fun x' =>
      Running x' ∧ x'.1.awake = true) (ueventHandlerRound m) x := by
  refine ((sat_uEventRound _ hx).subst (f := ueventServe m) ?_).bind ?_
  · exact fun x o hx => sat_ueventServe hx o
  · have hterminate (x : WorkerState × Bool) (hx : Running x) :
        (workerMonitor .uevent).Sat (Monitor.Round (fun _ : Unit => Running) fun _ : Unit =>
          fun x' => Running x' ∧ x'.1.awake = true)
          (own .terminate >>= fun _ => Prog.ret (Sum.inl ())) x := by
      obtain ⟨q, _⟩ := x
      obtain ⟨rfl, hq⟩ := hx
      refine sat_worker_own (.inr ⟨hq.started, hq.ended, True.intro⟩) fun _ hread => ?_
      exact absurd hread not_false
    rintro (_ | _ | _ | _) x' ⟨hx', hawake⟩
    · exact hterminate x' hx'
    · exact hx'
    · exact ⟨hx', hawake rfl⟩
    · exact hterminate x' hx'

/-- A step of the set-up of the socket: the thread ends when it fails. -/
lemma sat_setUp {f : ProcessProg (Option ℕ)} (o : ProcessOp) (ok : o.Ans → Bool)
    (hq : q.Running) (hmay : q.May .uevent o)
    (hafter : ∀ r, q.after o r = { q with failed := q.failed || !ok r })
    (hf : ∀ q : WorkerState, q.Running →
      (workerMonitor .uevent).Sat (fun _ x' => x'.2 = false) f (q, false)) :
    (workerMonitor .uevent).Sat (fun _ x' => x'.2 = false)
      (own o >>= fun r => if (!ok r) = true then threadExit .uevent else f) (q, false) := by
  refine sat_worker_own (.inr ⟨hq.started, hq.ended, hmay⟩) fun r _ => ?_
  rw [hafter]
  have hrunning : WorkerState.Running { q with failed := q.failed || !ok r } :=
    ⟨hq.started, hq.left, hq.ended⟩
  refine Monitor.Sat.ite (fun hfail => sat_threadExit hrunning fun _ => .inl ?_) fun _ =>
    hf _ hrunning
  exact Bool.or_eq_true_iff.2 (.inr hfail)

lemma sat_initUEventHandler (rounds : ℕ) :
    (workerMonitor .uevent).Sat (fun _ x' => x'.2 = false) (initUEventHandler m rounds)
      (q, false) := by
  refine sat_enter fun q hq => ?_
  refine sat_setUp .socket (fun b : Bool => b) hq ⟨rfl, hq.left⟩ (fun _ => rfl) fun q hq => ?_
  refine sat_setUp .setsockopt (fun b : Bool => b) hq ⟨rfl, hq.left⟩ (fun _ => rfl)
    fun q hq => ?_
  refine sat_setUp .bind (fun b : Bool => b) hq ⟨rfl, hq.left⟩ (fun _ => rfl) fun q hq => ?_
  refine (Monitor.sat_iter (fun _ x hx => sat_ueventHandlerRound hx) rounds (b := ())
    ⟨rfl, hq⟩).bind ?_
  rintro (_ | ⟨⟩) ⟨q', _⟩ h
  · obtain ⟨-, hbusy, -⟩ := h
    exact hbusy
  · obtain ⟨⟨rfl, hq'⟩, hawake⟩ := h
    exact sat_threadExit hq' fun _ => .inr hawake

end Workers

/-! ### The calls of the port manager -/

section Tidy

variable {α : Type} {i : Option Thread} {o : ProcessOp} {m : PortManager} {d : HdcpDaemon}

end Tidy

/-! ### Every run -/

section Runs

variable {d : HdcpDaemon} {m : PortManager} {tr : ProcessTrace} {cfg : ProcessConfig}
  {s s' : ProcessState × PortState} {i : Option Thread} {c : ProcessCall}

lemma processInv_start : ProcessInv [] (initState, Port.initState) where
  main := rfl
  worker _ := rfl
  socket := rfl
  good := good_initState
  serving h := absurd rfl h
  passed _ h := absurd rfl h
  idle _ _ := rfl
  told h := absurd h Bool.false_ne_true
  right := True.intro
  ends := True.intro

/-- What each thread runs keeps to its monitor. -/
lemma sat_processBody (h : ProcessInv tr s) (hidle : calling c.thread tr = none) :
    (watch.monitor c.thread).Sat (watch.post c.thread c) (processBody d m c)
      (watch.pos c.thread tr) := by
  have hnone {k : Thread} (hk : calling (some k) tr = none) :
      (calling k (portTraceOf tr)).isSome = false := by
    rw [h.idle k hk]
    rfl
  cases c with
  | initializeWithMinimalPrivileges rounds =>
      have hpos : mainAt tr = (mainOf tr, false) := congrArg (mainOf tr, ·) (hnone hidle)
      show mainMonitor.Sat _ _ (mainAt tr)
      rw [hpos]
      exact sat_initializeWithMinimalPrivileges rounds
  | initPeriodicIntegrityCheck rounds =>
      have hpos : workerAt .integrity tr = (workerOf .integrity tr, false) :=
        congrArg (workerOf .integrity tr, ·) (hnone hidle)
      show (workerMonitor .integrity).Sat _ _ (workerAt .integrity tr)
      rw [hpos]
      exact sat_initPeriodicIntegrityCheck rounds
  | initUEventHandler rounds =>
      have hpos : workerAt .uevent tr = (workerOf .uevent tr, false) :=
        congrArg (workerOf .uevent tr, ·) (hnone hidle)
      show (workerMonitor .uevent).Sat _ _ (workerAt .uevent tr)
      rw [hpos]
      exact sat_initUEventHandler rounds
  | sigTerm => exact ⟨rfl, fun _ _ _ => True.intro⟩

/-- A step that the monitor of its thread expects. -/
lemma ProcessInv.step {o : processSig.Op} {r : processSig.Ans o} (h : ProcessInv tr s)
    (hcalling : calling i tr = some c) (hmay : (watch.monitor i).may (watch.pos i tr) o)
    (hstep : (processSystem d m).step i o r s = some s') :
    ProcessInv (.op i c ⟨o, r⟩ :: tr) s' ∧
      (watch.monitor i).next (watch.pos i tr) o r (watch.pos i (.op i c ⟨o, r⟩ :: tr)) := by
  cases i with
  | none =>
      obtain rfl : o = .own .deliver := hmay
      obtain ⟨hadm, rfl⟩ := of_step_own hstep
      exact ⟨h.deliver hadm, True.intro⟩
  | some i =>
      cases i with
      | message => exact h.step_main hcalling hmay hstep
      | integrity => exact h.step_worker (w := .integrity) hcalling hmay hstep
      | uevent => exact h.step_worker (w := .uevent) hcalling hmay hstep

/-- A return of a thread that has ended as its monitor expects. -/
lemma ProcessInv.returned {a : Option ℕ} (h : ProcessInv tr s)
    (hpost : watch.post i c a (watch.pos i tr)) : ProcessInv (.ret i c a :: tr) s := by
  cases i with
  | none => exact h.ret (by simp) True.intro True.intro
  | some i =>
      cases i with
      | message =>
          obtain ⟨hright, hends⟩ := h.ret_main (c := c) hpost.2
          refine h.ret ?_ hright hends
          rintro _ ⟨⟩
          exact calling_eq_none hpost.1
      | integrity =>
          refine h.ret ?_ True.intro True.intro
          rintro _ ⟨⟩
          exact calling_eq_none hpost
      | uevent =>
          refine h.ret ?_ True.intro True.intro
          rintro _ ⟨⟩
          exact calling_eq_none hpost

lemma processInv (hrun : (processSystem d m).AnyRun (initState, Port.initState) tr cfg) :
    ProcessInv tr cfg.shared := by
  refine (watch.sound processInv_start ?_ ?_ ?_ hrun).1
  · rintro i c tr s hmay hidle h -
    obtain rfl : i = c.thread := of_decide_eq_true hmay
    refine ⟨h.call, fun j _ => pos_call j, ?_⟩
    rw [pos_call]
    exact sat_processBody h hidle
  · rintro i c o r tr s s' hcalling h hmay hstep -
    obtain ⟨hinv, hnext⟩ := h.step hcalling hmay hstep
    exact ⟨hinv, alone_op, hnext⟩
  · rintro i c a tr s - - h hpost -
    exact ⟨h.returned hpost, fun j _ => pos_ret j⟩

/-! ### A run to the end -/

/-- The state answers the reads, and everything else succeeds.  The poll is canceled, and a
datagram comes. -/
def ownAnswer (s : ProcessState) : (o : ProcessOp) → o.Ans
  | .getPortMgr => s.main.portMgr
  | .getIsValid => s.main.isValid
  | .daemonIsValid => s.main.daemonValid
  | .isDrmFdOpen => s.main.drmFd
  | .hasEventSocket => s.eventSocket
  | .isDestroyThreads => s.main.isDestroyThreads
  | .mutexInit | .newPortManager | .drmOpen | .socket | .setsockopt | .bind => true
  | .daemonInit | .srmInit | .initDrmObjects | .barrierInit | .pthreadCreate _ => Errno.success
  | .daemon .pollForEvent | .outputs .pollForEvent => .error .ecanceled
  | .daemon o | .outputs o =>
    Daemon.daemonAnswer ⟨fun _ => 0, .error .eagain, [], true⟩ o Daemon.usualDaemon.initState
  | .uevent (.recv _) => some [1]
  | .uevent .isDestroyThreads => true
  | .uevent (.find msg c index) => Uevent.foundAt msg c index
  | .uevent (.substr msg index count) =>
    if index ≤ msg.length then some ((msg.drop index).take count) else none
  | .uevent (.element messages k) => messages.getD k []
  | .uevent .portManagerProcessHotPlug => ()
  | .processStart | .sigaction _ | .destroyHdcpDaemon | .srmRelease | .setPortMgr _
  | .freePortManager | .setIsValid | .barrierArrive | .barrierLeave | .drmClose
  | .setIsDestroyThreads | .pthreadJoin _ | .pthreadKill _ | .sleep | .closeEventSocket
  | .threadStart _ | .threadExit _ | .terminate | .deliver => ()

def processAnswer : (o : processSig.Op) → ProcessState × PortState → processSig.Ans o
  | .own o, s => ownAnswer s.1 o
  | .guest o, s => portAnswer (some drmModeConnected) (some []) o s.2
  | .begin _, _ => ()
  | .finish _, _ => ()

abbrev ProcessAction : Type :=
  System.Action processSig (Option Thread) ProcessCall (ProcessState × PortState)

def steps (i : Option Thread) (n : ℕ) : List ProcessAction :=
  List.replicate n (.op i processAnswer)

/-- The process is told to terminate when it has begun; nevertheless it makes the port manager and
the threads, and looks once after the ports. -/
def stopEarly : List ProcessAction :=
  .call (some .message) (.initializeWithMinimalPrivileges 1) :: steps (some .message) 3 ++
    .call none .sigTerm :: steps none 1 ++ .ret none :: steps (some .message) 13 ++
    .call (some .integrity) (.initPeriodicIntegrityCheck 2) :: steps (some .integrity) 2 ++
    .call (some .uevent) (.initUEventHandler 1) :: steps (some .uevent) 2 ++
    steps (some .integrity) 8 ++ steps (some .message) 8 ++ steps (some .integrity) 2 ++
    .ret (some .integrity) :: steps (some .uevent) 7 ++ .ret (some .uevent) ::
    steps (some .message) 13 ++ [.ret (some .message)]

/-- `main` has returned with success, and the port manager has been used. -/
def returned : ProcessTrace × ProcessConfig → Bool
  | (.ret (some .message) _ (some 0) :: tr, _) => (portTraceOf tr).length = 5
  | _ => false

lemma exists_run_stopEarly :
    ∃ x, (processSystem Daemon.usualDaemon (onePort false)).schedule processMay
        (fun _ _ _ => true) stopEarly [] ⟨(initState, Port.initState), fun _ => none⟩ = some x ∧
      (processSystem Daemon.usualDaemon (onePort false)).AnyRun (initState, Port.initState)
        x.1 x.2 ∧ returned x = true := by
  refine System.exists_run_of_schedule (M := processSystem Daemon.usualDaemon (onePort false))
    (fun _ _ hc => hc) (fun _ _ _ _ => True.intro) ?_
  decide +kernel

lemma mem_of_returned {x : ProcessTrace × ProcessConfig} (h : returned x = true) :
    ∃ c, .ret (some .message) c (some 0) ∈ x.1 := by
  rw [returned.eq_def] at h
  split at h
  · rename_i c tr cfg
    exact ⟨c, List.mem_cons_self⟩
  · exact absurd h Bool.false_ne_true

/-- In every run of the process, `main` returns only when the threads that it waits for have
ended, and with success only when it was told to terminate before the port manager was valid. -/
theorem process_ends (hrun : (processSystem d m).AnyRun (initState, Port.initState) tr cfg) :
    EveryStep Ends tr := (processInv hrun).ends

theorem process_ends_stopEarly :
    ∃ tr cfg, (processSystem Daemon.usualDaemon (onePort false)).AnyRun
        (initState, Port.initState) tr cfg ∧ (∃ c, .ret (some .message) c (some 0) ∈ tr) ∧
      EveryStep Ends tr := by
  obtain ⟨⟨tr, cfg⟩, -, hrun, hreturned⟩ := exists_run_stopEarly
  obtain ⟨c, hret⟩ := mem_of_returned hreturned
  exact ⟨tr, cfg, hrun, ⟨c, hret⟩, process_ends hrun⟩

end Runs

end Hdcp.Process
