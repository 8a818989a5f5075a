/-
The message loop of the daemon.

This file translates `daemon/daemon.cpp` and `common/servsock.cpp`: the loop that waits for
requests, the functions that serve them, and `ReportStatus`, which the threads of the port
manager call.

The functions are programs over the signature `daemonSig`.  Its calls are the system calls
on sockets, the accesses to `m_SessionFdArray`, `m_FdIndex` and `m_CallBackList`, and the
functions of the port manager and of the SRM module.  What a client sends is the answer to
`read`.  A descriptor is a number, and the kernel gives the numbers of closed descriptors
again.
-/
import Hdcp.Library.Threads
import Hdcp.Socket.Data

namespace Hdcp.Daemon

open Library Socket
open Library.Prog (op iter)

abbrev sessionCountMax : ℕ := 6

abbrev pollIn : ℕ := 1

abbrev pollHup : ℕ := 16

/-- What does not change in the daemon: the layout of the messages, and `m_Fd`, the
descriptor of the listening socket. -/
structure HdcpDaemon where
  layout : Layout
  fd : ℕ

/-- An entry of `m_SessionFdArray`; there is no descriptor in place of -1. -/
structure PollFd where
  fd : Option ℕ
  revents : ℕ
deriving DecidableEq, Repr

/-! ### Interactions -/

/-- The interactions of the daemon.  `callBackBegin` and `callBackEnd` acquire and release
`m_CallBackListMutex`.  `pollForEvent` is the loop of `PollForEvent`, until there is an
event or it fails; `setSlot` and `freeSlot` fill and clear an entry of
`m_SessionFdArray`. -/
inductive DaemonOp where
  | pollForEvent
  | accept
  | read (fd size : ℕ)
  | send (fd : ℕ) (data : List UInt8)
  | close (fd : ℕ)
  | getFdIndex
  | setFdIndex (i : ℕ)
  | getSlot (i : ℕ)
  | setSlot (i fd : ℕ)
  | freeSlot (i : ℕ)
  | callBackBegin
  | callBackEnd
  | getCallBackList
  | removeCallBack (fd : ℕ)
  | pushBackCallBack (fd : ℕ)
  | eraseCallBackAt (i : ℕ)
  | new (size : ℕ)
  | portManagerHandleAppExit (appId : ℕ)
  | portManagerEnumeratePorts
  | portManagerEnablePort (id : UInt32) (appId : ℕ) (level : UInt8)
  | portManagerDisablePort (id : UInt32) (appId : ℕ)
  | portManagerGetStatus (id : UInt32)
  | portManagerGetKsvList (id : UInt32)
  | portManagerSendSrmData (data : List UInt8)
  | storeSrm (data : List UInt8)
  | getSrmVersion
  | srmConfig (disableStorage : Bool)

/-- What `PortManagerEnumeratePorts` leaves in its output parameters. -/
structure Enumeration where
  sts : Errno
  ports : Fin numPhysicalPortsMax → Port
  portCount : UInt32

/-- What `PortManagerGetKsvList` leaves in its output parameters. -/
structure KsvListAnswer where
  sts : Errno
  ksvCount : UInt8
  depth : UInt8
  ksvList : Mem

/-- The answers: `freeSlot` tells which descriptor the entry held, which no function
uses. -/
def DaemonOp.Ans : DaemonOp → Type
  | pollForEvent => Except Errno (ℕ → ℕ)
  | accept => Except Errno ℕ
  | read _ _ => Except Errno (List UInt8)
  | send _ _ => Except Errno ℕ
  | close _ | portManagerEnablePort _ _ _ | portManagerDisablePort _ _
  | portManagerSendSrmData _ | storeSrm _ | srmConfig _ => Errno
  | getFdIndex => ℕ
  | getSlot _ => PollFd
  | freeSlot _ => Option ℕ
  | getCallBackList => List ℕ
  | new _ => Bool
  | portManagerEnumeratePorts => Enumeration
  | portManagerGetStatus _ => Errno × UInt32
  | portManagerGetKsvList _ => KsvListAnswer
  | getSrmVersion => Errno × UInt16
  | _ => Unit

abbrev daemonSig : Sig := ⟨DaemonOp, DaemonOp.Ans⟩

abbrev DaemonProg (α : Type) : Type := Prog daemonSig α

def pollForEvent : DaemonProg (Except Errno (ℕ → ℕ)) := op (S := daemonSig) .pollForEvent

def accept : DaemonProg (Except Errno ℕ) := op (S := daemonSig) .accept

def read (fd size : ℕ) : DaemonProg (Except Errno (List UInt8)) :=
  op (S := daemonSig) (.read fd size)

def send (fd : ℕ) (data : List UInt8) : DaemonProg (Except Errno ℕ) :=
  op (S := daemonSig) (.send fd data)

def close (fd : ℕ) : DaemonProg Errno := op (S := daemonSig) (.close fd)

def getFdIndex : DaemonProg ℕ := op (S := daemonSig) .getFdIndex

def setFdIndex (i : ℕ) : DaemonProg Unit := op (S := daemonSig) (.setFdIndex i)

def getSlot (i : ℕ) : DaemonProg PollFd := op (S := daemonSig) (.getSlot i)

def setSlot (i fd : ℕ) : DaemonProg Unit := op (S := daemonSig) (.setSlot i fd)

def freeSlot (i : ℕ) : DaemonProg (Option ℕ) := op (S := daemonSig) (.freeSlot i)

def callBackBegin : DaemonProg Unit := op (S := daemonSig) .callBackBegin

def callBackEnd : DaemonProg Unit := op (S := daemonSig) .callBackEnd

def getCallBackList : DaemonProg (List ℕ) := op (S := daemonSig) .getCallBackList

def removeCallBack (fd : ℕ) : DaemonProg Unit := op (S := daemonSig) (.removeCallBack fd)

def pushBackCallBack (fd : ℕ) : DaemonProg Unit := op (S := daemonSig) (.pushBackCallBack fd)

def eraseCallBackAt (i : ℕ) : DaemonProg Unit := op (S := daemonSig) (.eraseCallBackAt i)

def new (size : ℕ) : DaemonProg Bool := op (S := daemonSig) (.new size)

def portManagerHandleAppExit (appId : ℕ) : DaemonProg Unit :=
  op (S := daemonSig) (.portManagerHandleAppExit appId)

def portManagerEnumeratePorts : DaemonProg Enumeration :=
  op (S := daemonSig) .portManagerEnumeratePorts

def portManagerEnablePort (id : UInt32) (appId : ℕ) (level : UInt8) : DaemonProg Errno :=
  op (S := daemonSig) (.portManagerEnablePort id appId level)

def portManagerDisablePort (id : UInt32) (appId : ℕ) : DaemonProg Errno :=
  op (S := daemonSig) (.portManagerDisablePort id appId)

def portManagerGetStatus (id : UInt32) : DaemonProg (Errno × UInt32) :=
  op (S := daemonSig) (.portManagerGetStatus id)

def portManagerGetKsvList (id : UInt32) : DaemonProg KsvListAnswer :=
  op (S := daemonSig) (.portManagerGetKsvList id)

def portManagerSendSrmData (data : List UInt8) : DaemonProg Errno :=
  op (S := daemonSig) (.portManagerSendSrmData data)

def storeSrm (data : List UInt8) : DaemonProg Errno := op (S := daemonSig) (.storeSrm data)

def getSrmVersion : DaemonProg (Errno × UInt16) := op (S := daemonSig) .getSrmVersion

def srmConfig (disableStorage : Bool) : DaemonProg Errno :=
  op (S := daemonSig) (.srmConfig disableStorage)

namespace HdcpDaemon

variable (m : HdcpDaemon)

/-! ### The server socket -/

/-- `sizeof(SocketData)`. -/
def sizeofSocketData : UInt32 := UInt32.ofNat m.layout.size

def getRequest (fd : ℕ) : DaemonProg (Except Errno SocketData) := do
  match ← readData (read fd) m.layout.size with
  | .error e => return .error e
  | .ok bytes => return .ok (m.layout.decode bytes)

def sendResponse (rsp : SocketData) (fd : ℕ) : DaemonProg Errno :=
  writeData (send fd) (m.layout.encode rsp)

def sendKsvListData (data : List UInt8) (fd : ℕ) : DaemonProg Errno :=
  if data.length > ksvSize * maxKsvCount.toNat then
    return .emsgsize
  else
    writeData (send fd) data

def getSrmData (dataSz fd : ℕ) : DaemonProg (Except Errno (List UInt8)) :=
  if dataSz > maxSrmDataSz then
    return .error .emsgsize
  else
    readData (read fd) dataSz

/-- The search of an entry that is not in use: `todo` entries are left from `i` on. -/
def findEmptySlot : (todo i : ℕ) → DaemonProg (Option ℕ)
  | 0, _ => return none
  | todo + 1, i => do
    let slot ← getSlot i
    if slot.fd = none then
      return some i
    findEmptySlot todo (i + 1)

/-- The message that tells a client that there was room for its connection. -/
def createResponse : SocketData :=
  { newSocketData m.layout with
    command := HdcpApi.create
    status := HdcpStatus.successful }

/-- The loop of `ProcessNewConnections`.  A round that is not the last one fills an entry, so
that `sessionCountMax` rounds and one more suffice.  An `accept` that was interrupted ends
the loop, because `incomingFd` is -1 then; so does the refusal of a connection, with the
code that `ret` had before the loop. -/
def acceptLoop : (rounds emptyIndex : ℕ) → DaemonProg Errno
  | 0, _ => return .einval
  | rounds + 1, emptyIndex => do
    match ← accept with
    | .error e => return if e = .eagain then .success else e
    | .ok incomingFd =>
      match ← findEmptySlot (sessionCountMax - emptyIndex) emptyIndex with
      | none =>
        let _sts ← close incomingFd
        return .einval
      | some i =>
        setSlot i incomingFd
        let _sts ← m.sendResponse m.createResponse incomingFd
        acceptLoop rounds i

def processNewConnections : DaemonProg Errno := m.acceptLoop (sessionCountMax + 1) 0

/-- A request and the descriptor that it came from. -/
structure Task where
  appId : ℕ
  req : SocketData

/-- What `GetTask` does for the entry `i` with an event: it reads the request, and frees the
entry when its `Command` says so.  When the read fails, the client is gone. -/
def serveSlot (i appId : ℕ) : DaemonProg Task := do
  match ← m.getRequest appId with
  | .error _ =>
    let _sts ← close appId
    let _held ← freeSlot i
    return ⟨appId, { newSocketData m.layout with command := HdcpApi.destroy }⟩
  | .ok req =>
    if req.command = HdcpApi.createCallBack ∨ req.command = HdcpApi.destroy then
      let _held ← freeSlot i
      return ⟨appId, req⟩
    return ⟨appId, req⟩

/-- The loop of `GetTask` over the entries: `todo` entries are left from `i` on.  The value is
the entry at which the loop ends, and the request if there is one. -/
def getTaskLoop (fdIndex : ℕ) : (todo i : ℕ) → DaemonProg (Except Errno (ℕ × Option Task))
  | 0, i => return .ok (i, none)
  | todo + 1, i => do
    if fdIndex ≥ sessionCountMax ∨ i ≥ sessionCountMax then
      return .error .erange
    let slot ← getSlot i
    match slot.fd with
    | none => getTaskLoop fdIndex todo ((i + 1) % sessionCountMax)
    | some fd =>
      if slot.revents = 0 ∨ pollIn &&& slot.revents = 0 ∧ pollHup &&& slot.revents = 0 then
        getTaskLoop fdIndex todo ((i + 1) % sessionCountMax)
      else if m.fd = fd then
        let ret ← m.processNewConnections
        if ret ≠ .success then
          return .error ret
        getTaskLoop fdIndex todo ((i + 1) % sessionCountMax)
      else
        let task ← m.serveSlot i fd
        return .ok (i, some task)

/-- A round of the loop `while (-1 == appId)` of `GetTask`. -/
def getTaskRound : DaemonProg (Unit ⊕ Except Errno Task) := do
  match ← pollForEvent with
  | .error e => return .inr (.error e)
  | .ok _ =>
    let fdIndex ← getFdIndex
    match ← m.getTaskLoop fdIndex (sessionCountMax - 1) fdIndex with
    | .error e => return .inr (.error e)
    | .ok (i, task) =>
      setFdIndex i
      match task with
      | none => return .inl ()
      | some task => return .inr (.ok task)

/-- `GetTask`, as long as it polls at most `rounds` times. -/
def getTask (rounds : ℕ) : DaemonProg (Option (Except Errno Task)) :=
  iter (fun _ => m.getTaskRound) rounds ()

/-! ### The requests -/

def enumeratePorts (data : SocketData) : DaemonProg SocketData := do
  let r ← portManagerEnumeratePorts
  let data := { data with ports := r.ports, portCount := r.portCount }
  if r.sts ≠ .success then
    return { data with status := HdcpStatus.errorInternal }
  return { data with status := HdcpStatus.successful }

/-- The status that reports the failure of a function of the port manager. -/
def failureStatus (sts : Errno) : HdcpStatus :=
  if sts = .enoent then HdcpStatus.errorNoDisplay else HdcpStatus.errorInternal

def setProtectionLevel (data : SocketData) (appId : ℕ) : DaemonProg SocketData := do
  if onePort ≠ data.portCount then
    return { data with status := HdcpStatus.errorInvalidParameter }
  if portIdMax < data.singlePort.id then
    return { data with status := HdcpStatus.errorInvalidParameter }
  if data.level = hdcpLevel1 ∨ data.level = hdcpLevel2 then
    let sts ← portManagerEnablePort data.singlePort.id appId data.level
    if sts ≠ .success then
      return { data with status := failureStatus sts }
    return { data with status := HdcpStatus.successful }
  if data.level = hdcpLevel0 then
    let sts ← portManagerDisablePort data.singlePort.id appId
    if sts ≠ .success then
      return { data with status := failureStatus sts }
    return { data with status := HdcpStatus.successful }
  return { data with status := HdcpStatus.errorInvalidParameter }

def getStatus (data : SocketData) : DaemonProg SocketData := do
  if onePort ≠ data.portCount then
    return { data with status := HdcpStatus.errorInvalidParameter }
  if data.singlePort.id > portIdMax then
    return { data with status := HdcpStatus.errorInvalidParameter }
  let (sts, status) ← portManagerGetStatus data.singlePort.id
  let data := data.setSinglePort { data.singlePort with status := status }
  if sts ≠ .success then
    return { data with status := failureStatus sts }
  return { data with status := HdcpStatus.successful }

def getKsvList (data : SocketData) (appId : ℕ) : DaemonProg SocketData := do
  if onePort ≠ data.portCount then
    return { data with status := HdcpStatus.errorInvalidParameter }
  if data.singlePort.id > portIdMax then
    return { data with status := HdcpStatus.errorInvalidParameter }
  if !(← new (maxKsvCount.toNat * ksvSize)) then
    return { data with status := HdcpStatus.errorInsufficientMemory }
  let r ← portManagerGetKsvList data.singlePort.id
  let data := { data with ksvCount := r.ksvCount, depth := r.depth }
  if r.sts ≠ .success then
    return { data with status := HdcpStatus.errorInternal }
  if data.ksvCount > maxKsvCount then
    return { data with status := HdcpStatus.errorMaxDevicesExceeded }
  if data.depth > maxTopologyDepth then
    return { data with status := HdcpStatus.errorMaxDepthExceeded }
  let data := { data with status := HdcpStatus.successful }
  let sts ← m.sendResponse data appId
  if sts ≠ .success then
    return { data with status := HdcpStatus.errorInternal }
  let sts ← sendKsvListData (slice r.ksvList 0 (data.ksvCount.toNat * ksvSize)) appId
  if sts ≠ .success then
    return { data with status := HdcpStatus.errorInternal }
  return data

/-- The status that reports the failure of `StoreSrm`. -/
def storeFailureStatus (sts : Errno) : HdcpStatus :=
  if sts = .einval then HdcpStatus.errorSrmInvalid
  else if sts = .eagain then HdcpStatus.errorSrmNotRecent
  else HdcpStatus.errorInternal

def sendSrmData (data : SocketData) (appId : ℕ) : DaemonProg SocketData := do
  if data.srmOrKsvListDataSz.toNat > srmFirstGenMaxSize then
    return { data with status := HdcpStatus.errorInvalidParameter }
  if !(← new data.srmOrKsvListDataSz.toNat) then
    return { data with status := HdcpStatus.errorInsufficientMemory }
  let data := { data with status := HdcpStatus.successful }
  let sts ← m.sendResponse data appId
  if sts ≠ .success then
    return { data with status := HdcpStatus.errorInternal }
  match ← getSrmData data.srmOrKsvListDataSz.toNat appId with
  | .error _ => return { data with status := HdcpStatus.errorInternal }
  | .ok srmData =>
    let sts ← storeSrm srmData
    if sts ≠ .success then
      return { data with status := storeFailureStatus sts }
    let sts ← portManagerSendSrmData srmData
    if sts ≠ .success then
      return { data with status := HdcpStatus.errorInternal }
    return data

def getSrmVersion (data : SocketData) : DaemonProg SocketData := do
  let (sts, version) ← Daemon.getSrmVersion
  let data := { data with srmVersion := version }
  if sts ≠ .success then
    return { data with status := HdcpStatus.errorInternal }
  return { data with status := HdcpStatus.successful }

def config (data : SocketData) : DaemonProg SocketData := do
  let sts ← srmConfig data.config.disableSrmStorage
  if sts ≠ .success then
    return { data with status := HdcpStatus.errorInternal }
  return { data with status := HdcpStatus.successful }

/-! ### The loops -/

/-- `DispatchCommand`: the response, and whether it is still to be sent. -/
def dispatchCommand (data : SocketData) (appId : ℕ) : DaemonProg (SocketData × Bool) := do
  if data.command = HdcpApi.enumerateHdcpDisplay then
    return (← enumeratePorts data, true)
  if data.command = HdcpApi.create then
    return (data, false)
  if data.command = HdcpApi.destroy then
    portManagerHandleAppExit appId
    return (data, false)
  if data.command = HdcpApi.createCallBack then
    callBackBegin
    removeCallBack appId
    pushBackCallBack appId
    callBackEnd
    return (data, false)
  if data.command = HdcpApi.setProtectionLevel then
    return (← setProtectionLevel data appId, true)
  if data.command = HdcpApi.getStatus then
    return (← getStatus data, true)
  if data.command = HdcpApi.getKsvList then
    let data ← m.getKsvList data appId
    return (data, data.status ≠ HdcpStatus.successful)
  if data.command = HdcpApi.sendSrmData then
    return (← m.sendSrmData data appId, true)
  if data.command = HdcpApi.getSrmVersion then
    return (← getSrmVersion data, true)
  if data.command = HdcpApi.config then
    return (← config data, true)
  return ({ data with status := HdcpStatus.errorInvalidParameter }, true)

/-- The end of a round of `MessageResponseLoop`: the response is sent. -/
def respond (data : SocketData) (appId : ℕ) : DaemonProg Unit := do
  let sts ← m.sendResponse data appId
  if sts ≠ .success then
    portManagerHandleAppExit appId

/-- A request is answered. -/
def answerTask (task : Task) : DaemonProg Unit := do
  if m.sizeofSocketData ≠ task.req.size then
    m.respond { task.req with
      status := HdcpStatus.errorInvalidParameter
      size := m.sizeofSocketData } task.appId
  else
    let (data, sendResponse) ← m.dispatchCommand task.req task.appId
    if sendResponse then
      m.respond data task.appId

/-- A round of `MessageResponseLoop` in which `GetTask` polls at most `rounds` times.  When
they are over, the loop has not got a request yet. -/
def messageResponse (rounds : ℕ) : DaemonProg Unit := do
  match ← m.getTask rounds with
  | none | some (.error _) => return ()
  | some (.ok task) => m.answerTask task

/-- The loop of `ReportStatus` over the rest of the list, which begins at the position `i`.
The list does not change otherwise while the mutex is held. -/
def reportLoop (data : SocketData) : List ℕ → (i : ℕ) → DaemonProg Unit
  | [], _ => return ()
  | fd :: fds, i => do
    let sts ← m.sendResponse data fd
    if sts ≠ .success then
      let _sts ← close fd
      eraseCallBackAt i
      reportLoop data fds i
    else
      reportLoop data fds (i + 1)

def reportStatus (event portId : UInt32) : DaemonProg Unit := do
  let data := { newSocketData m.layout with
    command := HdcpApi.reportStatus
    portCount := 1 }
  let data := data.setSinglePort { data.singlePort with event := event, id := portId }
  callBackBegin
  let fds ← getCallBackList
  m.reportLoop data fds 0
  callBackEnd

end HdcpDaemon

/-! ### The threads -/

/-- The state that the threads share, and the descriptors of connections that are open. -/
structure DaemonState (ι : Type) where
  sessionFdArray : ℕ → PollFd
  fdIndex : ℕ
  callBackList : List ℕ
  callBackListMutex : Option ι
  opened : ℕ → Bool

variable {ι : Type} [DecidableEq ι]

/-- After `Listen`. -/
def HdcpDaemon.initState (m : HdcpDaemon) : DaemonState ι where
  sessionFdArray i := if i = 0 then ⟨some m.fd, 0⟩ else ⟨none, 0⟩
  fdIndex := 0
  callBackList := []
  callBackListMutex := none
  opened _ := false

/-- A read that is answered by the value `x` of the state. -/
def DaemonState.answer {α : Type} [DecidableEq α] (s : DaemonState ι) (x r : α) :
    Option (DaemonState ι) :=
  if r = x then some s else none

/-- A descriptor is opened or closed. -/
def DaemonState.setOpened (s : DaemonState ι) (fd : ℕ) (b : Bool) : DaemonState ι :=
  { s with opened := Function.update s.opened fd b }

/-- An entry of `m_SessionFdArray` is set. -/
def DaemonState.setEntry (s : DaemonState ι) (i : ℕ) (entry : PollFd) : DaemonState ι :=
  { s with sessionFdArray := Function.update s.sessionFdArray i entry }

def DaemonState.setList (s : DaemonState ι) (fds : List ℕ) : DaemonState ι :=
  { s with callBackList := fds }

def DaemonState.setMutex (s : DaemonState ι) (i : Option ι) : DaemonState ι :=
  { s with callBackListMutex := i }

section Fields

variable (s : DaemonState ι) (fd : ℕ) (b : Bool) (i : ℕ) (entry : PollFd) (fds : List ℕ)
  (holder : Option ι)

omit [DecidableEq ι]

@[simp] lemma DaemonState.setOpened_opened :
    (s.setOpened fd b).opened = Function.update s.opened fd b := rfl

@[simp] lemma DaemonState.setOpened_array :
    (s.setOpened fd b).sessionFdArray = s.sessionFdArray := rfl

@[simp] lemma DaemonState.setOpened_list : (s.setOpened fd b).callBackList = s.callBackList := rfl

@[simp] lemma DaemonState.setOpened_mutex :
    (s.setOpened fd b).callBackListMutex = s.callBackListMutex := rfl

@[simp] lemma DaemonState.setEntry_opened : (s.setEntry i entry).opened = s.opened := rfl

@[simp] lemma DaemonState.setEntry_array :
    (s.setEntry i entry).sessionFdArray = Function.update s.sessionFdArray i entry := rfl

@[simp] lemma DaemonState.setEntry_list : (s.setEntry i entry).callBackList = s.callBackList := rfl

@[simp] lemma DaemonState.setEntry_mutex :
    (s.setEntry i entry).callBackListMutex = s.callBackListMutex := rfl

@[simp] lemma DaemonState.setList_opened : (s.setList fds).opened = s.opened := rfl

@[simp] lemma DaemonState.setList_array :
    (s.setList fds).sessionFdArray = s.sessionFdArray := rfl

@[simp] lemma DaemonState.setList_list : (s.setList fds).callBackList = fds := rfl

@[simp] lemma DaemonState.setList_mutex :
    (s.setList fds).callBackListMutex = s.callBackListMutex := rfl

@[simp] lemma DaemonState.setMutex_opened : (s.setMutex holder).opened = s.opened := rfl

@[simp] lemma DaemonState.setMutex_array :
    (s.setMutex holder).sessionFdArray = s.sessionFdArray := rfl

@[simp] lemma DaemonState.setMutex_list : (s.setMutex holder).callBackList = s.callBackList := rfl

@[simp] lemma DaemonState.setMutex_mutex : (s.setMutex holder).callBackListMutex = holder := rfl

end Fields

/-- `accept` gives a number that is not in use. -/
def DaemonState.accept (s : DaemonState ι) (listener : ℕ) (r : Except Errno ℕ) :
    Option (DaemonState ι) :=
  match r with
  | .error _ => some s
  | .ok fd => if fd ≠ listener ∧ s.opened fd = false then some (s.setOpened fd true) else none

/-- `poll` sets `revents` of the entries that are in use. -/
def DaemonState.poll (s : DaemonState ι) (r : Except Errno (ℕ → ℕ)) : DaemonState ι :=
  match r with
  | .error _ => s
  | .ok revents =>
    { s with
      sessionFdArray := fun i =>
        { s.sessionFdArray i with
          revents := if (s.sessionFdArray i).fd.isSome then revents i else 0 } }

/-- One interaction of a thread with the answer that it gets. -/
def HdcpDaemon.step (m : HdcpDaemon) (i : ι) :
    (o : DaemonOp) → o.Ans → DaemonState ι → Option (DaemonState ι)
  | .pollForEvent, r, s => some (s.poll r)
  | .accept, r, s => s.accept m.fd r
  | .read _ size, r, s => if readAnswer size r then some s else none
  | .send _ data, r, s => if sendAnswer data.length r then some s else none
  | .close fd, _, s => some (s.setOpened fd false)
  | .getFdIndex, r, s => s.answer s.fdIndex r
  | .setFdIndex i, _, s => some { s with fdIndex := i }
  | .getSlot i, r, s => s.answer (s.sessionFdArray i) r
  | .setSlot i fd, _, s => some (s.setEntry i ⟨some fd, 0⟩)
  | .freeSlot i, r, s => (s.setEntry i ⟨none, 0⟩).answer (s.sessionFdArray i).fd r
  | .callBackBegin, _, s => if s.callBackListMutex = none then some (s.setMutex (some i)) else none
  | .callBackEnd, _, s => some (s.setMutex none)
  | .getCallBackList, r, s => s.answer s.callBackList r
  | .removeCallBack fd, _, s => some (s.setList (s.callBackList.filter (· ≠ fd)))
  | .pushBackCallBack fd, _, s => some (s.setList (s.callBackList ++ [fd]))
  | .eraseCallBackAt i, _, s => some (s.setList (s.callBackList.eraseIdx i))
  | _, _, s => some s

inductive DaemonCall where
  | messageResponse (rounds : ℕ)
  | reportStatus (event portId : UInt32)
deriving DecidableEq

def HdcpDaemon.callBody (m : HdcpDaemon) : DaemonCall → DaemonProg Unit
  | .messageResponse rounds => m.messageResponse rounds
  | .reportStatus event portId => m.reportStatus event portId

/-- The thread `main` serves the requests; `ReportStatus` is called by the others. -/
def daemonMay (main i : ι) : DaemonCall → Bool
  | .messageResponse _ => i = main
  | .reportStatus _ _ => i ≠ main

def HdcpDaemon.system (m : HdcpDaemon) (main : ι) :
    System daemonSig ι DaemonCall Unit (DaemonState ι) where
  body := m.callBody
  may i c := daemonMay main i c = true
  step := m.step

abbrev DaemonTrace (ι : Type) : Type := Trace daemonSig ι DaemonCall Unit

abbrev DaemonLabel (ι : Type) : Type := Label daemonSig ι DaemonCall Unit

abbrev DaemonConfig (ι : Type) : Type := Config daemonSig ι DaemonCall Unit (DaemonState ι)

end Hdcp.Daemon
