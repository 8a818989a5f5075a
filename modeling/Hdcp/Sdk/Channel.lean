/-
The channel of the callbacks.

The first call of `HDCPCreate` connects a socket on which the daemon reports events, asks the
daemon to use it so, and creates the thread that executes `CallBackManager` on it.  When the
daemon disconnects, the thread destroys all sessions and the socket, and ends.  The flag
`m_IsCallBackInitialized` is not cleared then, so that no later call makes a new channel; and
a thread that cannot be created is reported by `errno`, which `pthread_create` does not set.

Any number of threads of the application call the entry points, while the callback thread runs
and the daemon disconnects, ends and is restarted at any time.  `ChannelLive` is what is claimed
about the states that they reach.

The programs of the session manager are those of `Sdk.Model`, with `initCallBack` and
`deleteCallBackSocket` implemented by what the source does (`implement`).
-/
import Hdcp.Sdk.Handles
import Hdcp.Socket.Data

namespace Hdcp.Channel

open Library Sdk Socket Handles
open Library.Prog (iter op)

/-! ### Interactions -/

/-- `handleBegin` and `handleEnd` acquire and release `m_HandleIncrementorMutex`.  `newSocket`
tells whether there was memory, `createThread` what `pthread_create` returned and the value of
`errno` after it.  `enterThread` and `exitThread` are the begin and the end of the callback thread,
`disconnect` and `restart` what the daemon does. -/
inductive ChannelOp where
  | sdk (o : SdkOp)
  | isCallBackInitialized
  | setCallBackInitialized
  | handleBegin
  | handleEnd
  | newSocket
  | connectCallBack
  | sendCreateCallBack
  | createThread
  | deleteSocket
  | enterThread
  | getMessage
  | exitThread
  | disconnect (ends : Bool)
  | restart

def ChannelOp.Ans : ChannelOp → Type
  | sdk o => o.Ans
  | isCallBackInitialized | newSocket => Bool
  | connectCallBack | sendCreateCallBack => ℕ
  | createThread => ℕ × ℕ
  | getMessage => Except Errno SocketData
  | _ => Unit

abbrev channelSig : Sig := ⟨ChannelOp, ChannelOp.Ans⟩

abbrev ChannelProg (α : Type) : Type := Prog channelSig α

def isCallBackInitialized : ChannelProg Bool := op (S := channelSig) .isCallBackInitialized

def setCallBackInitialized : ChannelProg Unit := op (S := channelSig) .setCallBackInitialized

def handleBegin : ChannelProg Unit := op (S := channelSig) .handleBegin

def handleEnd : ChannelProg Unit := op (S := channelSig) .handleEnd

def newSocket : ChannelProg Bool := op (S := channelSig) .newSocket

def connectCallBack : ChannelProg ℕ := op (S := channelSig) .connectCallBack

def sendCreateCallBack : ChannelProg ℕ := op (S := channelSig) .sendCreateCallBack

def createThread : ChannelProg (ℕ × ℕ) := op (S := channelSig) .createThread

def deleteSocket : ChannelProg Unit := op (S := channelSig) .deleteSocket

def enterThread : ChannelProg Unit := op (S := channelSig) .enterThread

def getMessage : ChannelProg (Except Errno SocketData) := op (S := channelSig) .getMessage

def exitThread : ChannelProg Unit := op (S := channelSig) .exitThread

/-! ### Programs -/

abbrev success : ℕ := 0

abbrev enomem : ℕ := 12

/-- `InitCallBack`. -/
def initCallBack : ChannelProg ℕ := do
  if ← isCallBackInitialized then
    return success
  if !(← newSocket) then
    return enomem
  let ret ← connectCallBack
  if ret ≠ success then
    return ret
  let ret ← sendCreateCallBack
  if ret ≠ success then
    return ret
  let (ret, errno) ← createThread
  if ret ≠ 0 then
    deleteSocket
    return errno
  setCallBackInitialized
  return ret

/-- What `CreateSession` does about the callbacks. -/
def checkCallBack : ChannelProg Bool := do
  if ← isCallBackInitialized then
    return true
  handleBegin
  let sts ← initCallBack
  handleEnd
  return sts = success

/-- The calls of the session manager. -/
def implement : (o : SdkOp) → ChannelProg o.Ans
  | .initCallBack => checkCallBack
  | .deleteCallBackSocket => deleteSocket
  | o => op (S := channelSig) (.sdk o)

/-- The loop of `CallBackManager`. -/
def callBackRound (L : Layout) (_ : Unit) : ChannelProg (Unit ⊕ Unit) := do
  match ← getMessage with
  | .error sts =>
    if sts = .enotconn then
      destroyCallback.subst implement
      exitThread
      return .inr ()
    return .inl ()
  | .ok data =>
    if data.size.toNat ≠ L.size then
      return .inl ()
    if data.command ≠ HdcpApi.reportStatus then
      return .inl ()
    deliver.subst implement
    return .inl ()

def callBackManager (L : Layout) (rounds : ℕ) : ChannelProg (Option Unit) :=
  iter (callBackRound L) rounds ()

/-! ### States -/

/-- `m_CallBackSocket`: whether it is connected, and whether `HDCP_API_CREATE_CALLBACK` was
sent on it. -/
structure CallBackSocket where
  connected : Bool
  registered : Bool
deriving DecidableEq

/-- The callback thread is created once, and executes `CallBackManager` until it ends. -/
inductive ThreadState where
  | absent
  | created
  | entered
  | ended
deriving DecidableEq

def ThreadState.runs : ThreadState → Bool
  | .created | .entered => true
  | .absent | .ended => false

structure ChannelState (ι : Type) where
  sdk : SdkState ι
  handleMutex : Option ι
  isCallBackInitialized : Bool
  callBackSocket : Option CallBackSocket
  thread : ThreadState
  daemonRunning : Bool

variable {ι : Type}

section

variable [DecidableEq ι]

def channelInit : ChannelState ι where
  sdk := initState
  handleMutex := none
  isCallBackInitialized := false
  callBackSocket := none
  thread := .absent
  daemonRunning := true

/-- The socket changes, when there is one. -/
def ChannelState.mapSocket (s : ChannelState ι) (f : CallBackSocket → CallBackSocket) :
    ChannelState ι :=
  { s with callBackSocket := s.callBackSocket.map f }

def ChannelState.readInitialized (s : ChannelState ι) (r : Bool) : Option (ChannelState ι) :=
  if r = s.isCallBackInitialized then some s else none

/-- `new LocalClientSocket`; there is no socket when the memory is exhausted. -/
def ChannelState.allocate (s : ChannelState ι) (r : Bool) : ChannelState ι :=
  { s with callBackSocket := if r then some ⟨false, false⟩ else none }

/-- `Connect` on the socket of the callbacks. -/
def ChannelState.connect (s : ChannelState ι) (ret : ℕ) : Option (ChannelState ι) :=
  if ret = success then
    if s.daemonRunning then some (s.mapSocket ({ · with connected := true })) else none
  else some s

def ChannelState.setSdk (s : ChannelState ι) (sdk : SdkState ι) : ChannelState ι :=
  { s with sdk := sdk }

/-- `GetUniqueHandle` waits for its mutex, and a session connects to a daemon that is running. -/
def ChannelState.admits (s : ChannelState ι) : (o : SdkOp) → o.Ans → Bool
  | .getUniqueHandle, _ => s.handleMutex.isNone
  | .connect _, successful => !successful || s.daemonRunning
  | _, _ => true

/-- The state after a call that had an effect when it returned 0. -/
def ChannelState.after (s : ChannelState ι) (ret : ℕ) (s' : ChannelState ι) : ChannelState ι :=
  if ret = success then s' else s

/-- A read is told that the connection has ended when the daemon has disconnected. -/
def ChannelState.read (s : ChannelState ι) : Except Errno SocketData → Option (ChannelState ι)
  | .error .enotconn => if s.callBackSocket.any (·.connected) then none else some s
  | _ => some s

/-- The daemon disconnects, and perhaps ends. -/
def ChannelState.disconnect (s : ChannelState ι) (ends : Bool) : ChannelState ι :=
  { s.mapSocket ({ · with connected := false }) with
    daemonRunning := s.daemonRunning && !ends }

/-- One interaction of a thread with the answer that it gets. -/
def channelStep (th : ι) : (o : ChannelOp) → o.Ans → ChannelState ι → Option (ChannelState ι)
  | .sdk o, r, s => if s.admits o r then (sdkStep th o r s.sdk).map s.setSdk else none
  | .isCallBackInitialized, r, s => s.readInitialized r
  | .setCallBackInitialized, _, s => some { s with isCallBackInitialized := true }
  | .handleBegin, _, s =>
    if s.handleMutex.isNone then some { s with handleMutex := some th } else none
  | .handleEnd, _, s => some { s with handleMutex := none }
  | .newSocket, r, s => some (s.allocate r)
  | .connectCallBack, r, s => s.connect r
  | .sendCreateCallBack, r, s =>
    some (s.after r (s.mapSocket ({ · with registered := true })))
  | .createThread, r, s => some (s.after r.1 { s with thread := .created })
  | .deleteSocket, _, s => some { s with callBackSocket := none }
  | .enterThread, _, s => if s.thread = .created then some { s with thread := .entered } else none
  | .getMessage, r, s => s.read r
  | .exitThread, _, s => some { s with thread := .ended }
  | .disconnect ends, _, s => some (s.disconnect ends)
  | .restart, _, s => some { s with daemonRunning := true }

/-! ### Runs -/

/-- The calls of the application, the callback thread, and what the daemon does. -/
inductive ChannelCall where
  | api (c : HandleCall)
  | request (handle : ℕ)
  | listen (rounds : ℕ)
  | disconnect (ends : Bool)
  | restart
deriving DecidableEq

/-- `HDCPCreate` has the handle for its value when it is successful. -/
def channelBody (L : Layout) : ChannelCall → ChannelProg (Option ℕ)
  | .api c => (handleBody c).subst implement
  | .request handle => do
    (hdcpRequest handle).subst implement
    return none
  | .listen rounds => do
    enterThread
    let _ended ← callBackManager L rounds
    return none
  | .disconnect ends => do
    op (S := channelSig) (.disconnect ends)
    return none
  | .restart => do
    op (S := channelSig) .restart
    return none

def channelMay (callBackThread daemon i : ι) : ChannelCall → Bool
  | .api _ | .request _ => i ≠ callBackThread ∧ i ≠ daemon
  | .listen _ => i = callBackThread
  | .disconnect _ | .restart => i = daemon

/-- An application, its callback thread, and the daemon. -/
def channelSystem (L : Layout) (callBackThread daemon : ι) :
    System channelSig ι ChannelCall (Option ℕ) (ChannelState ι) where
  body := channelBody L
  may i c := channelMay callBackThread daemon i c = true
  step := channelStep

abbrev ChannelLabel (ι : Type) : Type := Label channelSig ι ChannelCall (Option ℕ)

abbrev ChannelTrace (ι : Type) : Type := Trace channelSig ι ChannelCall (Option ℕ)

abbrev ChannelConfig (ι : Type) : Type :=
  Config channelSig ι ChannelCall (Option ℕ) (ChannelState ι)

end

/-! ### What is claimed -/

def disconnects : ChannelLabel ι → Bool
  | .op _ _ ⟨.disconnect _, _⟩ => true
  | _ => false

def connects : ChannelLabel ι → Bool
  | .op _ _ ⟨.connectCallBack, (ret : ℕ)⟩ => decide (ret = success)
  | _ => false

/-- The daemon has disconnected since the socket was connected. -/
def hungUp : ChannelTrace ι → Bool := since disconnects connects

/-- The socket is registered with the daemon, it is connected unless the daemon has disconnected,
and the thread runs on it. -/
structure ChannelUp (hungUp : Bool) (s : ChannelState ι) : Prop where
  socket : s.callBackSocket = some ⟨!hungUp, true⟩
  running : s.thread.runs = true

/-- The callback thread was created, and there is no socket: it has destroyed the channel. -/
def ChannelState.Lost (s : ChannelState ι) : Prop :=
  s.thread ≠ .absent ∧ s.callBackSocket = none

instance (s : ChannelState ι) : Decidable s.Lost := inferInstanceAs (Decidable (_ ∧ _))

/-- The condition on the steps of a run.  A session with a callback function does not enter the
list when the channel is lost; and when the thread of a call with a callback function cannot be
created, `errno` tells so. -/
def ChannelKept : ChannelTrace ι → ChannelState ι → ChannelLabel ι → Prop
  | _, s, .op _ _ ⟨.sdk (.pushFront session _), _⟩ =>
    (s.sdk.sessions session).callBack ≠ none → ¬s.Lost
  | _, _, .op _ (.api (.create (some _) _)) ⟨.createThread, (ret, errno)⟩ => ret ≠ 0 → errno ≠ 0
  | _, _, _ => True

end Hdcp.Channel
