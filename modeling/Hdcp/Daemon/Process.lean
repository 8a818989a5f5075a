/-
The process of the daemon.

This file translates `InitializeWithMinimalPrivileges` of `daemon/main.cpp`, which runs on the
thread `main`, and from `daemon/portmanager.cpp` what makes and ends the other two threads:
`PortManagerInit` and `PortManagerRelease`, the constructor and the destructor of the port
manager, and the functions of the two threads.  The loop of `main` is that of `daemon/daemon.cpp`,
with the operations of the port manager in place of their names.

The threads run the operations of the port manager as calls of the guest `portSystem`.  Their
other interactions are the system calls and the accesses to what the file keeps in static
variables.  What `main` serves otherwise, and the kernel, answer anything.

SIGTERM is delivered while the handler of the server socket is registered.  The handler of the
port manager, `PortManager::SigCatcher`, runs `DisableAllPorts` and exits (`Port.Signals`); the
runs here end before it is called.
-/
import Hdcp.Library.Host
import Hdcp.Library.Monitor
import Hdcp.Daemon.Model
import Hdcp.Port.Model
import Hdcp.Port.Uevent

namespace Hdcp.Process

open Library Port
open Library.Prog (op iter)
open Library.Host (call)
open Hdcp.Daemon (HdcpDaemon DaemonOp DaemonProg)
open Hdcp.Uevent (UeventOp UeventProg)

/-! ### Interactions -/

/-- The threads that the constructor of the port manager makes. -/
inductive Worker where
  | integrity
  | uevent
deriving DecidableEq, Repr

def Worker.thread : Worker → Thread
  | integrity => .integrity
  | uevent => .uevent

/-- What SIGTERM does to the process. -/
inductive SigTerm where
  | standard
  | servSock
  | portManager
deriving DecidableEq, Repr

/-- The interactions of the process.  A wait at the barrier is an arrival and a departure;
`daemon` are the interactions of the message loop, `outputs` what an operation leaves in the
output parameters of the loop.  `deliver` is the delivery of SIGTERM while the handler of the
server socket is registered: it sets `m_ReceivedKillSignal`. -/
inductive ProcessOp where
  | processStart
  | sigaction (handler : SigTerm)
  | mutexInit
  | daemonInit
  | daemonIsValid
  | destroyHdcpDaemon
  | srmInit
  | srmRelease
  | getPortMgr
  | setPortMgr (b : Bool)
  | newPortManager
  | freePortManager
  | drmOpen
  | initDrmObjects
  | barrierInit
  | pthreadCreate (w : Worker)
  | setIsValid
  | getIsValid
  | barrierArrive
  | barrierLeave
  | isDrmFdOpen
  | drmClose
  | setIsDestroyThreads
  | pthreadJoin (w : Worker)
  | pthreadKill (w : Worker)
  | sleep
  | hasEventSocket
  | closeEventSocket
  | daemon (o : DaemonOp)
  | outputs (o : DaemonOp)
  | threadStart (w : Worker)
  | threadExit (w : Worker)
  | isDestroyThreads
  | socket
  | setsockopt
  | bind
  | uevent (o : UeventOp)
  | terminate
  | deliver

def ProcessOp.Ans : ProcessOp → Type
  | daemonInit | srmInit | initDrmObjects | barrierInit | pthreadCreate _ => Errno
  | mutexInit | daemonIsValid | getPortMgr | newPortManager | drmOpen | getIsValid | isDrmFdOpen
  | hasEventSocket | isDestroyThreads | socket | setsockopt | bind => Bool
  | daemon o | outputs o => o.Ans
  | uevent o => o.Ans
  | _ => Unit

abbrev ownSig : Sig := ⟨ProcessOp, ProcessOp.Ans⟩

abbrev processSig : Sig := hostSig ownSig portSig PortCall Errno

abbrev ProcessProg (α : Type) : Type := Prog processSig α

def own (o : ProcessOp) : ProcessProg o.Ans := op (S := processSig) (.own o)

/-! ### The port manager -/

def barrierWait : ProcessProg Unit := do
  own .barrierArrive
  own .barrierLeave

/-- The constructor of the port manager. -/
def newPortManager : ProcessProg Unit := do
  let opened : Bool ← own .drmOpen
  if !opened then
    return ()
  let sts : Errno ← own .initDrmObjects
  if sts ≠ .success then
    return ()
  let sts : Errno ← own .barrierInit
  if sts ≠ .success then
    return ()
  let sts : Errno ← own (.pthreadCreate .integrity)
  if sts ≠ .success then
    return ()
  let sts : Errno ← own (.pthreadCreate .uevent)
  if sts ≠ .success then
    return ()
  own (.sigaction .portManager)
  own .setIsValid

def closeDrmFd : ProcessProg Unit := do
  let isOpen : Bool ← own .isDrmFdOpen
  if isOpen then
    own .drmClose

def closeEventSocket : ProcessProg Unit := do
  let isOpen : Bool ← own .hasEventSocket
  if isOpen then
    own .closeEventSocket

/-- The destructor of the port manager, and the release of its memory. -/
def deletePortManager : ProcessProg Unit := do
  closeDrmFd
  own .setIsDestroyThreads
  own (.pthreadJoin .integrity)
  own (.pthreadKill .uevent)
  own .sleep
  own (.pthreadKill .uevent)
  own .sleep
  own (.pthreadKill .uevent)
  own (.pthreadJoin .uevent)
  closeEventSocket
  own .freePortManager

/-- `delete portMgr`, which does nothing to a null pointer. -/
def deletePortMgr : ProcessProg Unit := do
  let portMgr : Bool ← own .getPortMgr
  if portMgr then
    deletePortManager

def portManagerInit : ProcessProg Errno := do
  let portMgr : Bool ← own .getPortMgr
  if portMgr then
    return .eexist
  let allocated : Bool ← own .newPortManager
  if !allocated then
    return .enomem
  newPortManager
  own (.setPortMgr true)
  let isValid : Bool ← own .getIsValid
  if !isValid then
    deletePortManager
    own (.setPortMgr false)
    return .enodev
  barrierWait
  return .success

def portManagerRelease : ProcessProg Unit := do
  deletePortMgr
  own (.setPortMgr false)

/-- The wrapper of an operation, as `PortManagerEnablePort`: it asks whether there is a port
manager. -/
def onPortManager (m : PortManager) (c : PortCall) : ProcessProg Errno := do
  let portMgr : Bool ← own .getPortMgr
  if !portMgr then
    return .enodev
  call (portSystem m) c

/-! ### The threads -/

/-- What the message loop does, with the operations of the port manager in place of their
names. -/
def serve (m : PortManager) : (o : DaemonOp) → ProcessProg o.Ans
  | .portManagerHandleAppExit appId => do
    let _ret ← onPortManager m (.removeAppFromPorts appId)
    return ()
  | .portManagerEnumeratePorts => do
    let ret ← onPortManager m .enumeratePorts
    let r : Daemon.Enumeration ← own (.outputs .portManagerEnumeratePorts)
    return { r with sts := ret }
  | .portManagerEnablePort id appId level => onPortManager m (.enablePort id.toNat appId level)
  | .portManagerDisablePort id appId => onPortManager m (.disablePort id.toNat appId)
  | .portManagerGetStatus id => do
    let ret ← onPortManager m (.getStatus id.toNat)
    let r : Errno × UInt32 ← own (.outputs (.portManagerGetStatus id))
    return (ret, r.2)
  | o => own (.daemon o)

/-- A round of `MessageResponseLoop`.  It ends the loop when `GetTask` says that the process has
been told to terminate. -/
def messageResponseRound (d : HdcpDaemon) (rounds : ℕ) : DaemonProg (Unit ⊕ Unit) := do
  match ← d.getTask rounds with
  | none => return .inl ()
  | some (.error sts) => if sts = .ecanceled then return .inr () else return .inl ()
  | some (.ok task) =>
    d.answerTask task
    return .inl ()

/-- `MessageResponseLoop`, as long as it makes at most `rounds` rounds. -/
def messageResponseLoop (d : HdcpDaemon) (rounds : ℕ) : DaemonProg (Option Unit) :=
  iter (fun _ => messageResponseRound d rounds) rounds ()

/-- The part of `InitializeWithMinimalPrivileges` before the label `out`, with the return code;
there is none as long as the loop goes on. -/
def startAndServe (d : HdcpDaemon) (m : PortManager) (rounds : ℕ) : ProcessProg (Option ℕ) := do
  let sts : Errno ← own .srmInit
  if sts ≠ .success then
    return some 1
  let sts ← portManagerInit
  if sts ≠ .success then
    return some 1
  let sts : Errno ← own .daemonInit
  if sts ≠ .success then
    return some 1
  let isValid : Bool ← own .daemonIsValid
  if !isValid then
    return some 1
  match ← (messageResponseLoop d rounds).subst (serve m) with
  | none => return none
  | some () => return some 0

/-- `InitializeWithMinimalPrivileges`.  The constructor of the daemon begins with that of its
socket, which registers a handler. -/
def initializeWithMinimalPrivileges (d : HdcpDaemon) (m : PortManager) (rounds : ℕ) :
    ProcessProg (Option ℕ) := do
  own .processStart
  own (.sigaction .servSock)
  let _isValid : Bool ← own .mutexInit
  match ← startAndServe d m rounds with
  | none => return none
  | some ret =>
    portManagerRelease
    own .srmRelease
    own .destroyHdcpDaemon
    return some ret

/-- The end of a thread. -/
def threadExit (w : Worker) : ProcessProg (Option ℕ) := do
  own (.threadExit w)
  return some 0

/-- A round of `InitPeriodicIntegrityCheck`. -/
def integrityCheckRound (m : PortManager) : ProcessProg (Unit ⊕ Unit) := do
  let localIsDestroyThreads : Bool ← own .isDestroyThreads
  if localIsDestroyThreads then
    return .inr ()
  let _ret ← call (portSystem m) .checkIntegrity
  own .sleep
  return .inl ()

/-- `InitPeriodicIntegrityCheck`, as long as its loop makes at most `rounds` rounds. -/
def initPeriodicIntegrityCheck (m : PortManager) (rounds : ℕ) : ProcessProg (Option ℕ) := do
  own (.threadStart .integrity)
  barrierWait
  match ← iter (fun _ => integrityCheckRound m) rounds () with
  | none => return none
  | some () => threadExit .integrity

/-- What a round of `InitUEventHandler` does, with `ProcessHotPlug` in place of its name. -/
def ueventServe (m : PortManager) : (o : UeventOp) → ProcessProg o.Ans
  | .isDestroyThreads => own .isDestroyThreads
  | .portManagerProcessHotPlug => do
    let _ret ← call (portSystem m) .processHotPlug
    return ()
  | o => own (.uevent o)

/-- A round of `InitUEventHandler`.  The loop over the strings of a buffer is not cut off, and
`substr` does not throw in it. -/
def ueventHandlerRound (m : PortManager) : ProcessProg (Unit ⊕ Unit) := do
  match ← (Uevent.uEventRound (Uevent.maxMsgStrs + 1)).subst (ueventServe m) with
  | some .again => return .inl ()
  | some .exit => return .inr ()
  | some .thrown | none =>
    own .terminate
    return .inl ()

/-- `InitUEventHandler`, as long as its loop makes at most `rounds` rounds. -/
def initUEventHandler (m : PortManager) (rounds : ℕ) : ProcessProg (Option ℕ) := do
  own (.threadStart .uevent)
  barrierWait
  let ok : Bool ← own .socket
  if !ok then
    threadExit .uevent
  else
    let ok : Bool ← own .setsockopt
    if !ok then
      threadExit .uevent
    else
      let ok : Bool ← own .bind
      if !ok then
        threadExit .uevent
      else
        match ← iter (fun _ => ueventHandlerRound m) rounds () with
        | none => return none
        | some () => threadExit .uevent

/-! ### The state -/

def succeeded (sts : Errno) : Bool := sts = .success

/-- What `main` has done, and the variables that only `main` changes; `seen` is what it knows of
`eventSocket`. -/
structure Main where
  started : Bool
  daemon : Bool
  daemonValid : Bool
  srm : Bool
  portMgr : Bool
  allocated : Bool
  isValid : Bool
  drmFd : Bool
  barrier : Bool
  created : Worker → Bool
  arrived : Bool
  isDestroyThreads : Bool
  joined : Worker → Bool
  handler : SigTerm
  canceled : Bool
  seen : Option Bool

def Main.start : Main where
  started := false
  daemon := false
  daemonValid := false
  srm := false
  portMgr := false
  allocated := false
  isValid := false
  drmFd := false
  barrier := false
  created _ := false
  arrived := false
  isDestroyThreads := false
  joined _ := false
  handler := .standard
  canceled := false
  seen := none

/-- The answer of a `PollForEvent` that has seen `m_ReceivedKillSignal`. -/
def isCanceled : Except Errno (ℕ → ℕ) → Bool
  | .error sts => sts = .ecanceled
  | .ok _ => false

/-- The answer is that of a canceled `PollForEvent`. -/
def canceledBy : (o : DaemonOp) → o.Ans → Bool
  | .pollForEvent, r => isCanceled r
  | _, _ => false

def Main.after (q : Main) : (o : ProcessOp) → o.Ans → Main
  | .processStart, _ => { q with started := true }
  | .sigaction handler, _ => { q with handler := handler }
  | .mutexInit, b => { q with daemon := true, daemonValid := b }
  | .destroyHdcpDaemon, _ => { q with daemon := false }
  | .srmInit, sts => { q with srm := succeeded sts }
  | .srmRelease, _ => { q with srm := false }
  | .setPortMgr b, _ => { q with portMgr := b }
  | .newPortManager, b => { q with allocated := b }
  | .freePortManager, _ => { q with allocated := false }
  | .drmOpen, b => { q with drmFd := b }
  | .barrierInit, sts => { q with barrier := succeeded sts }
  | .pthreadCreate w, sts => { q with created := Function.update q.created w (succeeded sts) }
  | .setIsValid, _ => { q with isValid := true }
  | .barrierArrive, _ => { q with arrived := true }
  | .drmClose, _ => { q with drmFd := false }
  | .setIsDestroyThreads, _ => { q with isDestroyThreads := true }
  | .pthreadJoin w, _ => { q with joined := Function.update q.joined w true }
  | .hasEventSocket, b => { q with seen := some b }
  | .closeEventSocket, _ => { q with seen := some false }
  | .daemon o, r => { q with canceled := q.canceled || canceledBy o r }
  | _, _ => q

/-- What one of the other threads has done.  It has failed when it cannot set up its socket, and
is awake after a datagram that is not empty. -/
structure WorkerState where
  started : Bool
  arrived : Bool
  left : Bool
  failed : Bool
  awake : Bool
  ended : Bool

def WorkerState.start : WorkerState := ⟨false, false, false, false, false, false⟩

/-- A datagram has been received, and it is not empty. -/
def isDatagram : Option (List UInt8) → Bool
  | none => false
  | some bytes => bytes.length ≠ 0

def awakeAfter (b : Bool) : (o : UeventOp) → o.Ans → Bool
  | .recv _, received => isDatagram received
  | _, _ => b

def WorkerState.after (q : WorkerState) : (o : ProcessOp) → o.Ans → WorkerState
  | .threadStart _, _ => { q with started := true }
  | .barrierArrive, _ => { q with arrived := true }
  | .barrierLeave, _ => { q with left := true }
  | .socket, b => { q with failed := q.failed || !b }
  | .setsockopt, b => { q with failed := q.failed || !b }
  | .bind, b => { q with failed := q.failed || !b }
  | .uevent o, r => { q with awake := awakeAfter q.awake o r }
  | .threadExit _, _ => { q with ended := true }
  | _, _ => q

/-- The state of the process: `arrivals` is that of the barrier. -/
structure ProcessState where
  main : Main
  worker : Worker → WorkerState
  arrivals : ℕ
  eventSocket : Bool
  receivedKillSignal : Bool

def initState : ProcessState where
  main := Main.start
  worker _ := WorkerState.start
  arrivals := 0
  eventSocket := false
  receivedKillSignal := false

/-- A read that is answered by `x`. -/
def answers {α : Type} [DecidableEq α] (x r : α) : Bool := r = x

/-- The strings answer as they do. -/
def stringsAnswer : (o : UeventOp) → o.Ans → Bool
  | .find msg c index, r => answers (Uevent.foundAt msg c index) r
  | .substr msg index count, r =>
    answers (if index ≤ msg.length then some ((msg.drop index).take count) else none) r
  | .element messages k, r => answers (messages.getD k []) r
  | _, _ => true

/-- `PollForEvent` is canceled by the signal only; `accept` is not canceled. -/
def daemonAnswer (receivedKillSignal : Bool) : (o : DaemonOp) → o.Ans → Bool
  | .pollForEvent, r => !isCanceled r || receivedKillSignal
  | .accept, .error sts => sts ≠ .ecanceled
  | _, _ => true

/-- An interaction is possible with an answer.  A read is answered by the state; the barrier
opens when three threads have arrived; a join waits for a thread that has been made, and not for
one that the constructor could not make; SIGTERM is delivered only as long as the handler of the
server socket is the one that is registered, not to that of the port manager. -/
def ProcessState.admits (s : ProcessState) : (o : ProcessOp) → o.Ans → Bool
  | .processStart, _ => !s.main.started
  | .daemonIsValid, b => answers s.main.daemonValid b
  | .getPortMgr, b => answers s.main.portMgr b
  | .getIsValid, b => answers s.main.isValid b
  | .isDrmFdOpen, b => answers s.main.drmFd b
  | .hasEventSocket, b => answers s.eventSocket b
  | .isDestroyThreads, b => answers s.main.isDestroyThreads b
  | .barrierLeave, _ => 3 ≤ s.arrivals
  | .pthreadJoin w, _ => !s.main.created w || (s.worker w).ended
  | .threadStart w, _ => s.main.created w && !(s.worker w).started
  | .daemon o, r => daemonAnswer s.receivedKillSignal o r
  | .uevent o, r => stringsAnswer o r
  | .terminate, _ => false
  | .deliver, _ => s.main.handler = .servSock
  | _, _ => true

/-- What an interaction does to the count of the barrier. -/
def arrivalsAfter (n : ℕ) : ProcessOp → ℕ
  | .barrierArrive => n + 1
  | _ => n

/-- What an interaction does to `m_ReceivedKillSignal`. -/
def signalAfter (b : Bool) : ProcessOp → Bool
  | .deliver => true
  | _ => b

/-- What an interaction does to `eventSocket`. -/
def socketAfter (b : Bool) : (o : ProcessOp) → o.Ans → Bool
  | .socket, ok => ok
  | .closeEventSocket, _ => false
  | _, _ => b

def ProcessState.after (s : ProcessState) (i : Option Thread) (o : ProcessOp) (r : o.Ans) :
    ProcessState where
  main := if i = some .message then s.main.after o r else s.main
  worker w := if i = some w.thread then (s.worker w).after o r else s.worker w
  arrivals := arrivalsAfter s.arrivals o
  eventSocket := socketAfter s.eventSocket o r
  receivedKillSignal := signalAfter s.receivedKillSignal o

/-- One interaction of a thread with the answer that it gets. -/
def processStep (i : Option Thread) (o : ProcessOp) (r : o.Ans) (s : ProcessState) :
    Option ProcessState :=
  if s.admits o r then some (s.after i o r) else none

/-! ### The system -/

/-- What the threads run, and the delivery of SIGTERM. -/
inductive ProcessCall where
  | initializeWithMinimalPrivileges (rounds : ℕ)
  | initPeriodicIntegrityCheck (rounds : ℕ)
  | initUEventHandler (rounds : ℕ)
  | sigTerm
deriving DecidableEq, Repr

def sigTerm : ProcessProg (Option ℕ) := do
  own .deliver
  return some 0

def processBody (d : HdcpDaemon) (m : PortManager) : ProcessCall → ProcessProg (Option ℕ)
  | .initializeWithMinimalPrivileges rounds => initializeWithMinimalPrivileges d m rounds
  | .initPeriodicIntegrityCheck rounds => initPeriodicIntegrityCheck m rounds
  | .initUEventHandler rounds => initUEventHandler m rounds
  | .sigTerm => sigTerm

/-- The thread that runs it; SIGTERM comes from outside. -/
def ProcessCall.thread : ProcessCall → Option Thread
  | .initializeWithMinimalPrivileges _ => some .message
  | .initPeriodicIntegrityCheck _ => some .integrity
  | .initUEventHandler _ => some .uevent
  | .sigTerm => none

def processMay (i : Option Thread) (c : ProcessCall) : Bool := i = c.thread

def processSystem (d : HdcpDaemon) (m : PortManager) :
    System processSig (Option Thread) ProcessCall (Option ℕ) (ProcessState × PortState) :=
  Host.system (portSystem m) (processBody d m) (fun i c => processMay i c = true) processStep

abbrev ProcessTrace : Type := Trace processSig (Option Thread) ProcessCall (Option ℕ)

abbrev ProcessLabel : Type := Label processSig (Option Thread) ProcessCall (Option ℕ)

abbrev ProcessConfig : Type :=
  Config processSig (Option Thread) ProcessCall (Option ℕ) (ProcessState × PortState)

/-! ### What a run does -/

/-- What `main` has done in a history. -/
def mainOf : ProcessTrace → Main
  | [] => Main.start
  | .op i _ ⟨.own o, r⟩ :: tr => if i = some .message then (mainOf tr).after o r else mainOf tr
  | _ :: tr => mainOf tr

/-- What one of the other threads has done. -/
def workerOf (w : Worker) : ProcessTrace → WorkerState
  | [] => WorkerState.start
  | .op i _ ⟨.own o, r⟩ :: tr =>
    if i = some w.thread then (workerOf w tr).after o r else workerOf w tr
  | _ :: tr => workerOf w tr

/-- `eventSocket` is open. -/
def socketOf : ProcessTrace → Bool
  | [] => false
  | .op _ _ ⟨.own o, r⟩ :: tr => socketAfter (socketOf tr) o r
  | _ :: tr => socketOf tr

/-- What the threads do with the port manager. -/
def portTraceOf (tr : ProcessTrace) : PortTrace := Host.guestTrace tr

/-- The port manager is there: it is valid, `portMgr` points to it, and it and the daemon that it
refers to exist. -/
structure Main.Alive (q : Main) : Prop where
  daemon : q.daemon = true
  allocated : q.allocated = true
  isValid : q.isValid = true
  portMgr : q.portMgr = true

/-- A thread may use the port manager.  The descriptor of the device may be closed when it is not
`main`. -/
def Usable (i : Thread) (tr : ProcessTrace) : Prop :=
  (mainOf tr).Alive ∧ (i = .message → (mainOf tr).drmFd = true ∧ (mainOf tr).srm = true)

/-- No thread uses the port manager, and none will: those that have been made have ended. -/
def Quiet (tr : ProcessTrace) : Prop :=
  (∀ i, calling i (portTraceOf tr) = none) ∧
    ∀ w, (mainOf tr).created w = true → (workerOf w tr).ended = true

/-- Nothing is left of what `main` has made. -/
structure Main.Released (q : Main) : Prop where
  daemon : q.daemon = false
  srm : q.srm = false
  portMgr : q.portMgr = false
  allocated : q.allocated = false
  drmFd : q.drmFd = false

/-- The steps that make, use and release what the threads share are right: everything is made
before it is used, and released once, when nobody uses it any more. -/
def Right : ProcessLabel → ProcessTrace → Prop
  | .op (some i) _ ⟨.begin _, _⟩, tr => Usable i tr
  | .op (some i) _ ⟨.guest _, _⟩, tr => Usable i tr
  | .op _ _ ⟨.own (.daemon _), _⟩, tr => Usable .message tr
  | .op _ _ ⟨.own .barrierArrive, _⟩, tr => (mainOf tr).barrier = true
  | .op _ _ ⟨.own .newPortManager, _⟩, tr => (mainOf tr).allocated = false
  | .op _ _ ⟨.own .drmOpen, _⟩, tr => (mainOf tr).drmFd = false
  | .op _ _ ⟨.own .drmClose, _⟩, tr => (mainOf tr).drmFd = true
  | .op _ _ ⟨.own (.pthreadCreate w), _⟩, tr => (mainOf tr).created w = false
  | .op _ _ ⟨.own (.pthreadJoin w), _⟩, tr =>
    (mainOf tr).joined w = false ∧ ((mainOf tr).isValid = true → (mainOf tr).created w = true)
  | .op _ _ ⟨.own .closeEventSocket, _⟩, tr =>
    socketOf tr = true ∧ (workerOf .uevent tr).ended = true
  | .op _ _ ⟨.own .freePortManager, _⟩, tr =>
    Quiet tr ∧ (mainOf tr).allocated = true ∧ (mainOf tr).drmFd = false
  | .op _ _ ⟨.own .destroyHdcpDaemon, _⟩, tr =>
    Quiet tr ∧ (mainOf tr).daemon = true ∧ (mainOf tr).allocated = false
  | .ret (some .message) _ (some _), tr => (mainOf tr).Released ∧ socketOf tr = false
  | _, _ => True

/-- The process was told to terminate while the port manager was not valid yet. -/
def Told (tr : ProcessTrace) : Prop :=
  ∃ c r tr', .op none c ⟨.own .deliver, r⟩ :: tr' <:+ tr ∧ (mainOf tr').isValid = false

/-- What a return of `main` tells.  When it has made the integrity thread, it has made the uevent
thread as well, and this has not set up its socket, or the last datagram that it waited for has
come.  When it returns with success, the process was told to terminate before the port manager
was valid. -/
def Ends : ProcessLabel → ProcessTrace → Prop
  | .ret (some .message) _ (some ret), tr =>
    ((mainOf tr).created .integrity = true → (mainOf tr).created .uevent = true ∧
      ((workerOf .uevent tr).failed = true ∨ (workerOf .uevent tr).awake = true)) ∧
    (ret = 0 → Told tr)
  | _, _ => True

end Hdcp.Process
