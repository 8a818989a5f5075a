/-
The requests of a session.

This file translates the transactions of `sdk/session.cpp`, the functions of
`common/clientsock.cpp` that they use, and the entry points of `sdk/hdcpapi.cpp` that make a
request on a session.

The functions are programs over the signature `sessionSig`.  Its calls are the system calls
on the socket of a session, the mutex of this socket, and the two functions of the session
manager that find a session and give it back; `Sdk.Model` has their bodies.  A session is
named by its socket.  What the daemon sends is the answer to `read`.

A pointer that the caller gives for a result is there or not.  What is written through it is
part of the value of a function; there is none when nothing is written.
-/
import Hdcp.Socket.Data

namespace Hdcp.Session

open Library Socket
open Library.Prog (op)

/-! ### Interactions -/

/-- The interactions of a request.  `socketBegin` and `socketEnd` acquire and release
`m_SocketMutex`. -/
inductive SessionOp where
  | getInstance (handle : ℕ)
  | putInstance (handle : ℕ)
  | socketBegin (session : ℕ)
  | socketEnd (session : ℕ)
  | read (session size : ℕ)
  | send (session : ℕ) (data : List UInt8)

def SessionOp.Ans : SessionOp → Type
  | getInstance _ => Option ℕ
  | read _ _ => Except Errno (List UInt8)
  | send _ _ => Except Errno ℕ
  | _ => Unit

abbrev sessionSig : Sig := ⟨SessionOp, SessionOp.Ans⟩

abbrev SessionProg (α : Type) : Type := Prog sessionSig α

def getInstance (handle : ℕ) : SessionProg (Option ℕ) :=
  op (S := sessionSig) (.getInstance handle)

def putInstance (handle : ℕ) : SessionProg Unit := op (S := sessionSig) (.putInstance handle)

def socketBegin (session : ℕ) : SessionProg Unit := op (S := sessionSig) (.socketBegin session)

def socketEnd (session : ℕ) : SessionProg Unit := op (S := sessionSig) (.socketEnd session)

def read (session size : ℕ) : SessionProg (Except Errno (List UInt8)) :=
  op (S := sessionSig) (.read session size)

def send (session : ℕ) (data : List UInt8) : SessionProg (Except Errno ℕ) :=
  op (S := sessionSig) (.send session data)

/-! ### The client socket -/

variable (L : Layout)

def sendMessage (session : ℕ) (req : SocketData) : SessionProg Errno :=
  writeData (send session) (L.encode req)

def getMessage (session : ℕ) : SessionProg (Except Errno SocketData) := do
  match ← readData (read session) L.size with
  | .error e => return .error e
  | .ok bytes => return .ok (L.decode bytes)

/-- The size is converted to `int32_t`; nothing is written when it is negative. -/
def sendSrmBytes (session : ℕ) (data : Mem) (srmSize : UInt32) : SessionProg Errno :=
  let dataSz := srmSize.toInt32.toInt
  if dataSz > maxSrmDataSz then
    return .emsgsize
  else
    writeData (send session) (slice data 0 dataSz.toNat)

def receiveKsvList (session : ℕ) (ksvCount : UInt8) :
    SessionProg (Except Errno (List UInt8)) :=
  if ksvCount > maxKsvCount ∨ ksvCount = 0 then
    return .error .emsgsize
  else
    readData (read session) (ksvCount.toNat * ksvSize)

/-! ### Transactions -/

/-- The request with this command, before its own fields are set. -/
def request (command : HdcpApiType) : SocketData :=
  { newSocketData L with
    size := UInt32.ofNat L.size
    command := command }

def performMessageTransaction (session : ℕ) (data : SocketData) :
    SessionProg (HdcpStatus × SocketData) := do
  let sts ← sendMessage L session data
  if sts ≠ .success then
    return (HdcpStatus.errorMsgTransaction, data)
  match ← getMessage L session with
  | .error _ => return (HdcpStatus.errorMsgTransaction, data)
  | .ok rsp => return (rsp.status, rsp)

/-- A transaction that is all that a function does while it holds the mutex. -/
def lockedTransaction (session : ℕ) (data : SocketData) :
    SessionProg (HdcpStatus × SocketData) := do
  socketBegin session
  let ret ← performMessageTransaction L session data
  socketEnd session
  return ret

/-- `PortList`; an entry is `Id` and `status` of a port. -/
structure PortList where
  ports : Fin numPhysicalPortsMax → UInt32 × UInt32
  portCount : UInt32

def PortList.empty : PortList := ⟨fun _ => (0, 0), 0⟩

/-- The entries up to `PortCount` are filled. -/
def PortList.fill (portList : PortList) (data : SocketData) : PortList where
  ports i :=
    if i.val < data.portCount.toNat then ((data.ports i).id, (data.ports i).status)
    else portList.ports i
  portCount := data.portCount

def enumerateDisplay (session : ℕ) (portList : Option PortList) :
    SessionProg (HdcpStatus × Option PortList) := do
  match portList with
  | none => return (HdcpStatus.errorInvalidParameter, none)
  | some portList =>
    let (ret, data) ← lockedTransaction L session (request L HdcpApi.enumerateHdcpDisplay)
    if ret ≠ HdcpStatus.successful then
      return (ret, some portList)
    if data.portCount.toNat > numPhysicalPortsMax then
      return (HdcpStatus.errorInternal, some portList)
    return (HdcpStatus.successful, some (portList.fill data))

/-- A request for one port. -/
def portRequest (command : HdcpApiType) (portId : UInt32) : SocketData :=
  let data := { request L command with portCount := 1 }
  data.setSinglePort { data.singlePort with id := portId }

def levelRequest (portId : UInt32) (level : UInt8) : SocketData :=
  { portRequest L HdcpApi.setProtectionLevel portId with level := level }

/-- The call of itself with `HDCP_LEVEL0` makes one transaction, and its value is not used. -/
def setProtectionLevel (session : ℕ) (portId : UInt32) (level : UInt8) :
    SessionProg HdcpStatus := do
  let (ret, _) ← lockedTransaction L session (levelRequest L portId level)
  if ret ≠ HdcpStatus.successful ∧ level ≠ hdcpLevel0 then
    let _ret ← lockedTransaction L session (levelRequest L portId hdcpLevel0)
    return ret
  return HdcpStatus.successful

def getStatus (session : ℕ) (portId : UInt32) (portStatus : Bool) :
    SessionProg (HdcpStatus × Option UInt32) := do
  if !portStatus then
    return (HdcpStatus.errorInvalidParameter, none)
  let (ret, data) ← lockedTransaction L session (portRequest L HdcpApi.getStatus portId)
  if ret ≠ HdcpStatus.successful then
    return (ret, none)
  return (HdcpStatus.successful, some data.singlePort.status)

/-- What `GetKsvList` writes: the number of KSVs and the depth first. -/
structure KsvResult where
  count : Option (UInt8 × UInt8)
  ksvList : Option (List UInt8)

/-- The pointers for the results of `GetKsvList` that are there. -/
structure KsvPointers where
  ksvCount : Bool
  depth : Bool
  ksvList : Bool

def KsvPointers.all (p : KsvPointers) : Bool := p.ksvCount && p.depth && p.ksvList

def getKsvList (session : ℕ) (portId : UInt32) (p : KsvPointers) :
    SessionProg (HdcpStatus × KsvResult) := do
  if !p.all then
    return (HdcpStatus.errorInvalidParameter, ⟨none, none⟩)
  if portId.toNat > numPhysicalPortsMax then
    return (HdcpStatus.errorInvalidParameter, ⟨none, none⟩)
  socketBegin session
  let (ret, data) ← performMessageTransaction L session (portRequest L HdcpApi.getKsvList portId)
  if ret ≠ HdcpStatus.successful then
    socketEnd session
    return (ret, ⟨none, none⟩)
  let count := some (data.ksvCount, data.depth)
  match ← receiveKsvList session data.ksvCount with
  | .error _ =>
    socketEnd session
    return (HdcpStatus.errorMsgTransaction, ⟨count, none⟩)
  | .ok ksvList =>
    socketEnd session
    return (HdcpStatus.successful, ⟨count, some ksvList⟩)

def srmRequest (srmSize : UInt32) : SocketData :=
  { request L HdcpApi.sendSrmData with srmOrKsvListDataSz := srmSize }

def sendSrmData (session : ℕ) (srmSize : UInt32) (srmData : Option Mem) :
    SessionProg HdcpStatus := do
  match srmData with
  | none => return HdcpStatus.errorInvalidParameter
  | some srmData =>
    socketBegin session
    let (ret, _) ← performMessageTransaction L session (srmRequest L srmSize)
    if ret ≠ HdcpStatus.successful then
      socketEnd session
      return ret
    let sts ← sendSrmBytes session srmData srmSize
    if sts ≠ .success then
      socketEnd session
      return HdcpStatus.errorMsgTransaction
    match ← getMessage L session with
    | .error _ =>
      socketEnd session
      return HdcpStatus.errorMsgTransaction
    | .ok data =>
      socketEnd session
      if data.status ≠ HdcpStatus.successful then
        return data.status
      return HdcpStatus.successful

def getSrmVersion (session : ℕ) (version : Bool) :
    SessionProg (HdcpStatus × Option UInt16) := do
  if !version then
    return (HdcpStatus.errorInvalidParameter, none)
  let (ret, data) ← lockedTransaction L session (request L HdcpApi.getSrmVersion)
  if ret ≠ HdcpStatus.successful then
    return (ret, none)
  return (HdcpStatus.successful, some data.srmVersion)

def configRequest (c : HdcpConfig) : SocketData :=
  { request L HdcpApi.config with config := c }

def config (session : ℕ) (c : HdcpConfig) : SessionProg HdcpStatus := do
  if c.type ≠ srmStorageConfig then
    return HdcpStatus.errorInvalidParameter
  let (ret, _) ← lockedTransaction L session (configRequest L c)
  if ret ≠ HdcpStatus.successful then
    return ret
  return HdcpStatus.successful

/-! ### Entry points -/

/-- An entry point: the session is found, used and given back. -/
def withInstance {α : Type} (handle : ℕ) (failed : α) (f : ℕ → SessionProg α) :
    SessionProg α := do
  match ← getInstance handle with
  | none => return failed
  | some session =>
    let ret ← f session
    putInstance handle
    return ret

/-- `portList` tells whether the pointer is there.  The list is cleared before the request,
and again when it fails. -/
def hdcpEnumerateDisplay (handle : ℕ) (portList : Bool) :
    SessionProg (HdcpStatus × Option PortList) := do
  if !portList then
    return (HdcpStatus.errorInvalidParameter, none)
  let (ret, portList) ← withInstance handle (HdcpStatus.errorInternal, some PortList.empty)
    fun session => enumerateDisplay L session (some PortList.empty)
  if ret ≠ HdcpStatus.successful then
    return (ret, some PortList.empty)
  return (ret, portList)

def hdcpSetProtectionLevel (handle : ℕ) (portId : UInt32) (level : UInt8) :
    SessionProg HdcpStatus :=
  if portId.toNat > numPhysicalPortsMax then
    return HdcpStatus.errorInvalidParameter
  else
    withInstance handle HdcpStatus.errorInternal fun session =>
      setProtectionLevel L session portId level

def hdcpGetStatus (handle : ℕ) (portId : UInt32) (portStatus : Bool) :
    SessionProg (HdcpStatus × Option UInt32) :=
  if !portStatus then
    return (HdcpStatus.errorInvalidParameter, none)
  else if portId.toNat > numPhysicalPortsMax then
    return (HdcpStatus.errorInvalidParameter, none)
  else
    withInstance handle (HdcpStatus.errorInternal, none) fun session =>
      getStatus L session portId portStatus

def hdcpGetKsvList (handle : ℕ) (portId : UInt32) (p : KsvPointers) :
    SessionProg (HdcpStatus × KsvResult) :=
  if !p.all then
    return (HdcpStatus.errorInvalidParameter, ⟨none, none⟩)
  else if portId.toNat > numPhysicalPortsMax then
    return (HdcpStatus.errorInvalidParameter, ⟨none, none⟩)
  else
    withInstance handle (HdcpStatus.errorInternal, ⟨none, none⟩) fun session =>
      getKsvList L session portId p

def hdcpSendSrmData (handle : ℕ) (srmSize : UInt32) (srmData : Option Mem) :
    SessionProg HdcpStatus :=
  if srmData.isNone then
    return HdcpStatus.errorInvalidParameter
  else if srmSize < srmMinLength then
    return HdcpStatus.errorInvalidParameter
  else
    withInstance handle HdcpStatus.errorInternal fun session =>
      sendSrmData L session srmSize srmData

def hdcpGetSrmVersion (handle : ℕ) (version : Bool) :
    SessionProg (HdcpStatus × Option UInt16) :=
  if !version then
    return (HdcpStatus.errorInvalidParameter, none)
  else
    withInstance handle (HdcpStatus.errorInternal, none) fun session =>
      getSrmVersion L session version

def hdcpConfig (handle : ℕ) (c : HdcpConfig) : SessionProg HdcpStatus :=
  if c.type = invalidConfig then
    return HdcpStatus.errorInvalidParameter
  else
    withInstance handle HdcpStatus.errorInternal fun session => config L session c

/-- A call of an entry point that makes requests on a session. -/
inductive Request where
  | enumerateDisplay (portList : Bool)
  | setProtectionLevel (portId : UInt32) (level : UInt8)
  | getStatus (portId : UInt32) (portStatus : Bool)
  | getKsvList (portId : UInt32) (p : KsvPointers)
  | sendSrmData (srmSize : UInt32) (srmData : Option Mem)
  | getSrmVersion (version : Bool)
  | config (c : HdcpConfig)

/-- The call on the handle, with the status that it returns. -/
def Request.body (handle : ℕ) : Request → SessionProg HdcpStatus
  | enumerateDisplay portList => Prod.fst <$> hdcpEnumerateDisplay L handle portList
  | setProtectionLevel portId level => hdcpSetProtectionLevel L handle portId level
  | getStatus portId portStatus => Prod.fst <$> hdcpGetStatus L handle portId portStatus
  | getKsvList portId p => Prod.fst <$> hdcpGetKsvList L handle portId p
  | sendSrmData srmSize srmData => hdcpSendSrmData L handle srmSize srmData
  | getSrmVersion version => Prod.fst <$> hdcpGetSrmVersion L handle version
  | config c => hdcpConfig L handle c

end Hdcp.Session
