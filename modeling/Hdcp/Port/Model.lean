/-
The port manager of the daemon.

This file translates `daemon/port.cpp` and `daemon/portmanager.cpp`: the DRM
objects, the operations on them and the three threads that call the operations.
The message thread serves the requests of the apps one after the other; the uevent
thread calls `ProcessHotPlug`, the integrity thread calls `CheckIntegrity`.

The functions are programs over the signature `portSig`.  Its calls are the
accesses to the fields of the DRM objects that the threads share, the mutexes, the
calls of libdrm and of the IAS library, and the writes to the caller's output
parameters.  The answers of the kernel are arbitrary.  An output parameter that no
one else sees is part of the value of a function.
-/
import Hdcp.Library.Threads
import Hdcp.Library.Bytes
import Hdcp.Status

namespace Hdcp.Port

open Library
open Library.Prog (op forEach)

/-! ### Constants -/

abbrev uint32Max : ℕ := 2 ^ 32 - 1

abbrev drmModeConnected : ℕ := 1

abbrev drmModeDisconnected : ℕ := 2

abbrev cpValueInvalid : ℕ := 255

abbrev cpOff : ℕ := 0

abbrev cpDesired : ℕ := 1

abbrev cpEnabled : ℕ := 2

abbrev cpTypeInvalid : ℕ := 255

abbrev cpType0 : ℕ := 0

abbrev cpType1 : ℕ := 1

abbrev hdcpLevel1 : UInt8 := 1

abbrev hdcpLevel2 : UInt8 := 2

abbrev authNumRetry : ℕ := 3

abbrev numPhysicalPortsMax : ℕ := 5

abbrev portStatusDisconnected : ℕ := 0

abbrev portStatusConnected : ℕ := 1

abbrev portStatusHdcpType0Enabled : ℕ := 2

abbrev portStatusHdcpType1Enabled : ℕ := 4

inductive PortEvent where
  | plugIn
  | plugOut
  | linkLost
deriving DecidableEq, Repr

/-! ### DRM objects -/

/-- The names of the properties that a DRM object keeps. -/
inductive PropertyName where
  | contentProtection
  | cpContentType
  | cpDownstreamInfo
deriving DecidableEq, Repr

/-- The text of the name in the kernel. -/
def PropertyName.text : PropertyName → String
  | contentProtection => "Content Protection"
  | cpContentType => "HDCP Content Type"
  | cpDownstreamInfo => "CP_Downstream_Info"

structure DrmProperty where
  name : PropertyName
  propertyId : ℕ
deriving DecidableEq, Repr

/-- What does not change in a DRM object.  The kernel gives different properties
different ids. -/
structure DrmObject where
  drmId : ℕ
  portId : ℕ
  propertyList : List DrmProperty
  ids_inj : ∀ x ∈ propertyList, ∀ y ∈ propertyList, x.propertyId = y.propertyId → x.name = y.name

def DrmObject.getPropertyId (drmObject : DrmObject) (name : PropertyName) : ℕ :=
  match drmObject.propertyList.find? fun prop => prop.name == name with
  | some prop => prop.propertyId
  | none => uint32Max

/-- What changes in a DRM object. -/
structure DrmState where
  connection : ℕ
  cpType : ℕ
  appIds : List ℕ

def DrmState.addRefAppId (d : DrmState) (appId : ℕ) : DrmState :=
  { d with appIds := if appId ∈ d.appIds then d.appIds else d.appIds ++ [appId] }

def DrmState.removeRefAppId (d : DrmState) (appId : ℕ) : DrmState :=
  { d with appIds := d.appIds.filter (· ≠ appId) }

def DrmState.clearRefAppId (d : DrmState) : DrmState := { d with appIds := [] }

/-- The port manager: the objects that `InitDrmObjects` made, and whether the daemon
runs with IAS, as the environment variable says. -/
structure PortManager where
  drmObjects : List DrmObject
  isValid : Bool
  ias : Bool
  portIds_nodup : (drmObjects.map DrmObject.portId).Nodup
  drmIds_nodup : (drmObjects.map DrmObject.drmId).Nodup

def PortManager.getDrmObjectByPortId (m : PortManager) (id : ℕ) : Option DrmObject :=
  m.drmObjects.find? fun drmObject => drmObject.portId == id

def PortManager.getDrmObjectByDrmId (m : PortManager) (drmId : ℕ) : Option DrmObject :=
  m.drmObjects.find? fun drmObject => drmObject.drmId == drmId

/-! ### Interactions -/

/-- The interactions of the port manager.  The fields of a DRM object are accessed by
its port id; `mutex` operations are `Begin` and `End`. -/
inductive PortOp where
  | getConnection (portId : ℕ)
  | setConnection (portId connection : ℕ)
  | getCpType (portId : ℕ)
  | setCpType (portId cpType : ℕ)
  | addRefAppId (portId appId : ℕ)
  | removeRefAppId (portId appId : ℕ)
  | getRefAppCount (portId : ℕ)
  | clearRefAppId (portId : ℕ)
  | connAtomicBegin (portId : ℕ)
  | connAtomicEnd (portId : ℕ)
  | cpTypeAtomicBegin (portId : ℕ)
  | cpTypeAtomicEnd (portId : ℕ)
  | callBackListBegin
  | callBackListEnd
  | sendReport (event : PortEvent) (portId : ℕ)
  | drmModeGetConnector (drmId : ℕ)
  | drmModeObjectGetProperties (drmId : ℕ)
  | drmSetMaster
  | drmDropMaster
  | drmModeCreatePropertyBlob (value size : ℕ)
  | drmModeConnectorSetProperty (drmId propId propValue : ℕ)
  | utilSetContentProtection (drmId value : ℕ)
  | sleep
  | storePort (index id status : ℕ)
  | storePortCount (portCount : ℕ)
  | storePortStatus (portStatus : ℕ)
deriving DecidableEq, Repr

/-- The answers: the connection of a connector, unless there is none; the ids and
values of the properties of an object; whether a call of the kernel succeeded. -/
def PortOp.Ans : PortOp → Type
  | getConnection _ | getCpType _ | getRefAppCount _ => ℕ
  | drmModeGetConnector _ | drmModeCreatePropertyBlob _ _ => Option ℕ
  | drmModeObjectGetProperties _ => Option (List (ℕ × ℕ))
  | drmSetMaster | drmDropMaster | drmModeConnectorSetProperty _ _ _
  | utilSetContentProtection _ _ => Bool
  | _ => Unit

abbrev portSig : Sig := ⟨PortOp, PortOp.Ans⟩

abbrev PortProg (α : Type) : Type := Prog portSig α

def getConnection (portId : ℕ) : PortProg ℕ := op (S := portSig) (.getConnection portId)

def setConnection (portId connection : ℕ) : PortProg Unit :=
  op (S := portSig) (.setConnection portId connection)

def getCpType (portId : ℕ) : PortProg ℕ := op (S := portSig) (.getCpType portId)

def setCpType (portId cpType : ℕ) : PortProg Unit :=
  op (S := portSig) (.setCpType portId cpType)

def addRefAppId (portId appId : ℕ) : PortProg Unit :=
  op (S := portSig) (.addRefAppId portId appId)

def removeRefAppId (portId appId : ℕ) : PortProg Unit :=
  op (S := portSig) (.removeRefAppId portId appId)

def getRefAppCount (portId : ℕ) : PortProg ℕ := op (S := portSig) (.getRefAppCount portId)

def clearRefAppId (portId : ℕ) : PortProg Unit := op (S := portSig) (.clearRefAppId portId)

def connAtomicBegin (portId : ℕ) : PortProg Unit := op (S := portSig) (.connAtomicBegin portId)

def connAtomicEnd (portId : ℕ) : PortProg Unit := op (S := portSig) (.connAtomicEnd portId)

def cpTypeAtomicBegin (portId : ℕ) : PortProg Unit :=
  op (S := portSig) (.cpTypeAtomicBegin portId)

def cpTypeAtomicEnd (portId : ℕ) : PortProg Unit := op (S := portSig) (.cpTypeAtomicEnd portId)

def callBackListBegin : PortProg Unit := op (S := portSig) .callBackListBegin

def callBackListEnd : PortProg Unit := op (S := portSig) .callBackListEnd

def sendReport (event : PortEvent) (portId : ℕ) : PortProg Unit :=
  op (S := portSig) (.sendReport event portId)

def drmModeGetConnector (drmId : ℕ) : PortProg (Option ℕ) :=
  op (S := portSig) (.drmModeGetConnector drmId)

def drmModeObjectGetProperties (drmId : ℕ) : PortProg (Option (List (ℕ × ℕ))) :=
  op (S := portSig) (.drmModeObjectGetProperties drmId)

def drmSetMaster : PortProg Bool := op (S := portSig) .drmSetMaster

def drmDropMaster : PortProg Bool := op (S := portSig) .drmDropMaster

def drmModeCreatePropertyBlob (value size : ℕ) : PortProg (Option ℕ) :=
  op (S := portSig) (.drmModeCreatePropertyBlob value size)

def drmModeConnectorSetProperty (drmId propId propValue : ℕ) : PortProg Bool :=
  op (S := portSig) (.drmModeConnectorSetProperty drmId propId propValue)

def utilSetContentProtection (drmId value : ℕ) : PortProg Bool :=
  op (S := portSig) (.utilSetContentProtection drmId value)

def sleep : PortProg Unit := op (S := portSig) .sleep

def storePort (index id status : ℕ) : PortProg Unit :=
  op (S := portSig) (.storePort index id status)

def storePortCount (portCount : ℕ) : PortProg Unit :=
  op (S := portSig) (.storePortCount portCount)

def storePortStatus (portStatus : ℕ) : PortProg Unit :=
  op (S := portSig) (.storePortStatus portStatus)

/-- `HdcpDaemon::ReportStatus`: the report goes to all fds of the callback list. -/
def reportStatus (event : PortEvent) (portId : ℕ) : PortProg Unit := do
  callBackListBegin
  sendReport event portId
  callBackListEnd

/-! ### Properties -/

/-- The retries of `SetPortProperty`; `ret` is the return code so far. -/
def setPropertyRetry (drmId propId propValue : ℕ) : (numRetry : ℕ) → Errno → PortProg Errno
  | 0, ret => return ret
  | numRetry + 1, _ => do
    if ← drmModeConnectorSetProperty drmId propId propValue then
      return .success
    setPropertyRetry drmId propId propValue numRetry .error

/-- The value that `SetPortProperty` sets, with the return code so far: the value
itself when it is one byte, else the id of a blob. -/
def propertyValue (value size : ℕ) : PortProg (Option (Errno × ℕ)) := do
  if size ≠ 1 then
    match ← drmModeCreatePropertyBlob value size with
    | none => return none
    | some blobId => return some (.success, blobId)
  return some (.einval, value)

def PortManager.setPortProperty (m : PortManager) (drmId propId size value numRetry : ℕ) :
    PortProg Errno := do
  match m.getDrmObjectByDrmId drmId with
  | none => return .enoent
  | some drmObject =>
    if m.ias then
      if !(← utilSetContentProtection drmId value) then
        return .error
      return .success
    if !(← drmSetMaster) then
      return .ebusy
    match ← propertyValue value size with
    | none => return .ebusy
    | some (ret, propValue) =>
      let ret ← setPropertyRetry drmObject.drmId propId propValue numRetry ret
      if ret ≠ .success then
        return .ebusy
      if !(← drmDropMaster) then
        return .ebusy
      return .success

/-- A conversion to `uint8_t`. -/
def u8 (n : ℕ) : ℕ := n % 2 ^ 8

/-- The loop of `GetProtectionInfo` over the properties of the object. -/
def DrmObject.scanProperties (drmObject : DrmObject) :
    List (ℕ × ℕ) → (cpValue cpType : ℕ) → ℕ × ℕ
  | [], cpValue, cpType => (cpValue, cpType)
  | (prop, value) :: properties, cpValue, cpType =>
    if prop = drmObject.getPropertyId .contentProtection then
      drmObject.scanProperties properties (u8 value) cpType
    else if prop = drmObject.getPropertyId .cpContentType then
      drmObject.scanProperties properties cpValue (u8 value)
    else
      drmObject.scanProperties properties cpValue cpType

/-- The protection value and type that the properties of the object say. -/
def DrmObject.protectionInfo (drmObject : DrmObject) (properties : List (ℕ × ℕ)) : ℕ × ℕ :=
  let (cpValue, cpType) := drmObject.scanProperties properties cpValueInvalid cpTypeInvalid
  if cpValue = cpEnabled ∧ cpType = cpTypeInvalid then
    (cpValue, cpType0)
  else
    (cpValue, cpType)

/-- `GetProtectionInfo`; there is no value when it returns `EBUSY`. -/
def getProtectionInfo (drmObject : DrmObject) : PortProg (Option (ℕ × ℕ)) := do
  match ← drmModeObjectGetProperties drmObject.drmId with
  | none => return none
  | some properties => return some (drmObject.protectionInfo properties)

/-! ### Operations -/

/-- The loop of `EnumeratePorts` over the objects that are left. -/
def enumerateLoop : List DrmObject → (portCount : ℕ) → PortProg Errno
  | [], _ => return .success
  | drmObject :: drmObjects, portCount => do
    connAtomicBegin drmObject.portId
    match ← drmModeGetConnector drmObject.drmId with
    | none =>
      connAtomicEnd drmObject.portId
      return .enoent
    | some connection =>
      if connection = drmModeConnected then
        storePort portCount drmObject.portId portStatusConnected
        storePortCount (portCount + 1)
        setConnection drmObject.portId connection
        connAtomicEnd drmObject.portId
        enumerateLoop drmObjects (portCount + 1)
      else
        setConnection drmObject.portId connection
        connAtomicEnd drmObject.portId
        enumerateLoop drmObjects portCount

def PortManager.enumeratePorts (m : PortManager) : PortProg Errno := do
  forEach (List.range numPhysicalPortsMax) fun i => storePort i 0 portStatusDisconnected
  storePortCount 0
  if !m.isValid then
    return .enodev
  enumerateLoop m.drmObjects 0

/-- The port can be protected at type 1. -/
def DrmObject.type1Capable (drmObject : DrmObject) : Bool :=
  drmObject.getPropertyId .cpContentType ≠ uint32Max

/-- The content type that `EnablePort` sets for a level. -/
def levelCpType (level : UInt8) : ℕ :=
  if level = hdcpLevel1 then cpType0
  else if level = hdcpLevel2 then cpType1
  else cpValueInvalid

/-- `(uint32_t)(level - 1)`. -/
def levelPred (level : UInt8) : ℕ := u32 (level.toNat + (2 ^ 32 - 1))

/-- The part of `EnablePort` that sets the content type, when the port has one. -/
def PortManager.setContentType (m : PortManager) (drmObject : DrmObject) (level : UInt8) :
    PortProg Errno :=
  if drmObject.type1Capable then
    m.setPortProperty drmObject.drmId (drmObject.getPropertyId .cpContentType) 1
      (levelCpType level) authNumRetry
  else
    return .success

/-- The end of `EnablePort`: the port is read back. -/
def checkEnabled (drmObject : DrmObject) (appId : ℕ) : PortProg Errno := do
  cpTypeAtomicBegin drmObject.portId
  match ← getProtectionInfo drmObject with
  | none =>
    cpTypeAtomicEnd drmObject.portId
    return .ebusy
  | some (cpValue, cpType) =>
    if cpValue ≠ cpEnabled then
      cpTypeAtomicEnd drmObject.portId
      return .ebusy
    setCpType drmObject.portId cpType
    addRefAppId drmObject.portId appId
    cpTypeAtomicEnd drmObject.portId
    return .success

def PortManager.enablePort (m : PortManager) (portId appId : ℕ) (level : UInt8) :
    PortProg Errno := do
  match m.getDrmObjectByPortId portId with
  | none => return .enoent
  | some drmObject =>
    let connection ← getConnection drmObject.portId
    if connection = drmModeDisconnected then
      return .enoent
    if !drmObject.type1Capable ∧ level = hdcpLevel2 then
      return .einval
    let currCpType ← getCpType drmObject.portId
    if currCpType ≠ cpTypeInvalid ∧ levelPred level ≤ currCpType then
      addRefAppId drmObject.portId appId
      return .success
    let ret ← m.setContentType drmObject level
    if ret ≠ .success then
      return .ebusy
    let ret ← m.setPortProperty drmObject.drmId (drmObject.getPropertyId .contentProtection) 1
      cpDesired authNumRetry
    if ret ≠ .success then
      return .ebusy
    sleep
    checkEnabled drmObject appId

/-- The end of `DisablePort`: the port is read back. -/
def checkDisabled (drmObject : DrmObject) : PortProg Errno := do
  cpTypeAtomicBegin drmObject.portId
  match ← getProtectionInfo drmObject with
  | none =>
    cpTypeAtomicEnd drmObject.portId
    return .ebusy
  | some (cpValue, _) =>
    if cpValue ≠ cpOff then
      cpTypeAtomicEnd drmObject.portId
      return .ebusy
    setCpType drmObject.portId cpTypeInvalid
    cpTypeAtomicEnd drmObject.portId
    return .success

def PortManager.disablePort (m : PortManager) (portId appId : ℕ) : PortProg Errno := do
  match m.getDrmObjectByPortId portId with
  | none => return .success
  | some drmObject =>
    let connection ← getConnection drmObject.portId
    if connection = drmModeDisconnected then
      return .success
    removeRefAppId drmObject.portId appId
    let count ← getRefAppCount drmObject.portId
    if count ≥ 1 then
      return .success
    let ret ← m.setPortProperty drmObject.drmId (drmObject.getPropertyId .contentProtection) 1
      cpOff 1
    if ret ≠ .success then
      return .ebusy
    checkDisabled drmObject

/-- The end of `GetStatus`: the status of a port that is enabled. -/
def storeHdcpStatus (cpValue cpType : ℕ) : PortProg Unit :=
  if cpValue = cpEnabled ∧ cpType = cpType0 then
    storePortStatus (portStatusConnected ||| portStatusHdcpType0Enabled)
  else if cpValue = cpEnabled ∧ cpType = cpType1 then
    storePortStatus (portStatusConnected ||| portStatusHdcpType1Enabled)
  else
    return ()

def PortManager.getStatus (m : PortManager) (portId : ℕ) : PortProg Errno := do
  match m.getDrmObjectByPortId portId with
  | none => return .enoent
  | some drmObject =>
    match ← drmModeGetConnector drmObject.drmId with
    | none => return .enoent
    | some connection =>
      if connection = drmModeDisconnected then
        storePortStatus portStatusDisconnected
        return .success
      storePortStatus portStatusConnected
      match ← getProtectionInfo drmObject with
      | none => return .ebusy
      | some (cpValue, cpType) =>
        storeHdcpStatus cpValue cpType
        return .success

/-- The loop of `RemoveAppFromPorts`. -/
def PortManager.removeLoop (m : PortManager) (appId : ℕ) : List DrmObject → PortProg Errno
  | [] => return .success
  | drmObject :: drmObjects => do
    let _ret ← m.disablePort drmObject.portId appId
    m.removeLoop appId drmObjects

def PortManager.removeAppFromPorts (m : PortManager) (appId : ℕ) : PortProg Errno :=
  m.removeLoop appId m.drmObjects

/-- `DisableAllPorts`, which the daemon calls when it is to terminate: every port is taken
from the apps. -/
def PortManager.disableAllPorts (m : PortManager) : PortProg Unit :=
  forEach m.drmObjects fun drmObject => do
    clearRefAppId drmObject.portId
    addRefAppId drmObject.portId 0
    let _ret ← m.disablePort drmObject.portId 0
    return ()

/-- The reports of `ProcessHotPlug` on a new connection. -/
def reportConnection (connection portId : ℕ) : PortProg Unit :=
  if connection = drmModeDisconnected then
    reportStatus .plugOut portId
  else if connection = drmModeConnected then
    reportStatus .plugIn portId
  else
    return ()

/-- A round of `ProcessHotPlug`. -/
def hotPlugRound (drmObject : DrmObject) : PortProg Unit := do
  connAtomicBegin drmObject.portId
  match ← drmModeGetConnector drmObject.drmId with
  | none => connAtomicEnd drmObject.portId
  | some connection =>
    let current ← getConnection drmObject.portId
    if connection = current then
      connAtomicEnd drmObject.portId
    else
      reportConnection connection drmObject.portId
      setConnection drmObject.portId connection
      connAtomicEnd drmObject.portId

def PortManager.processHotPlug (m : PortManager) : PortProg Errno := do
  forEach m.drmObjects hotPlugRound
  return .success

/-- A round of `CheckIntegrity`. -/
def integrityRound (drmObject : DrmObject) : PortProg Unit := do
  cpTypeAtomicBegin drmObject.portId
  let current ← getCpType drmObject.portId
  if current = cpTypeInvalid then
    cpTypeAtomicEnd drmObject.portId
  else
    match ← getProtectionInfo drmObject with
    | none => cpTypeAtomicEnd drmObject.portId
    | some (cpValue, _) =>
      if cpValue ≠ cpEnabled then
        reportStatus .linkLost drmObject.portId
        setCpType drmObject.portId cpTypeInvalid
        cpTypeAtomicEnd drmObject.portId
      else
        cpTypeAtomicEnd drmObject.portId

def PortManager.checkIntegrity (m : PortManager) : PortProg Errno := do
  forEach m.drmObjects integrityRound
  return .success

/-! ### The threads -/

inductive Thread where
  | message
  | integrity
  | uevent
deriving DecidableEq, Repr

/-- The state that the threads share: the fields of the objects, by port id, and the
owners of the mutexes. -/
structure PortState where
  objects : ℕ → DrmState
  connectionMutex : ℕ → Option Thread
  cpTypeMutex : ℕ → Option Thread
  callBackListMutex : Option Thread

/-- The state after the constructors: the fields are `UINT32_MAX`. -/
def initState : PortState where
  objects := fun _ => ⟨uint32Max, uint32Max, []⟩
  connectionMutex := fun _ => none
  cpTypeMutex := fun _ => none
  callBackListMutex := none

/-- A change to the fields of one object. -/
def PortState.modify (s : PortState) (portId : ℕ) (f : DrmState → DrmState) : PortState :=
  { s with objects := Function.update s.objects portId (f (s.objects portId)) }

/-- A read that is answered by the value `x` of the state. -/
def PortState.answer (s : PortState) (x r : ℕ) : Option PortState := if r = x then some s else none

/-- One interaction of a thread with the answer that it gets.  Reads must be answered
by the state, and a mutex must be free; the answers of the kernel are free. -/
def portStep (i : Thread) : (o : PortOp) → o.Ans → PortState → Option PortState
  | .getConnection p, r, s => s.answer (s.objects p).connection r
  | .setConnection p c, _, s => some (s.modify p fun d => { d with connection := c })
  | .getCpType p, r, s => s.answer (u8 (s.objects p).cpType) r
  | .setCpType p t, _, s => some (s.modify p fun d => { d with cpType := t })
  | .addRefAppId p a, _, s => some (s.modify p fun d => d.addRefAppId a)
  | .removeRefAppId p a, _, s => some (s.modify p fun d => d.removeRefAppId a)
  | .getRefAppCount p, r, s => s.answer (s.objects p).appIds.length r
  | .clearRefAppId p, _, s => some (s.modify p DrmState.clearRefAppId)
  | .connAtomicBegin p, _, s =>
    if s.connectionMutex p = none then
      some { s with connectionMutex := Function.update s.connectionMutex p (some i) }
    else
      none
  | .connAtomicEnd p, _, s =>
    some { s with connectionMutex := Function.update s.connectionMutex p none }
  | .cpTypeAtomicBegin p, _, s =>
    if s.cpTypeMutex p = none then
      some { s with cpTypeMutex := Function.update s.cpTypeMutex p (some i) }
    else
      none
  | .cpTypeAtomicEnd p, _, s =>
    some { s with cpTypeMutex := Function.update s.cpTypeMutex p none }
  | .callBackListBegin, _, s =>
    if s.callBackListMutex = none then some { s with callBackListMutex := some i } else none
  | .callBackListEnd, _, s => some { s with callBackListMutex := none }
  | _, _, s => some s

/-- The calls that the threads make. -/
inductive PortCall where
  | enumeratePorts
  | enablePort (portId appId : ℕ) (level : UInt8)
  | disablePort (portId appId : ℕ)
  | removeAppFromPorts (appId : ℕ)
  | getStatus (portId : ℕ)
  | processHotPlug
  | checkIntegrity
deriving DecidableEq, Repr

def PortManager.callBody (m : PortManager) : PortCall → PortProg Errno
  | .enumeratePorts => m.enumeratePorts
  | .enablePort portId appId level => m.enablePort portId appId level
  | .disablePort portId appId => m.disablePort portId appId
  | .removeAppFromPorts appId => m.removeAppFromPorts appId
  | .getStatus portId => m.getStatus portId
  | .processHotPlug => m.processHotPlug
  | .checkIntegrity => m.checkIntegrity

/-- The message thread serves requests, the other threads have one call each. -/
def portMay : Thread → PortCall → Bool
  | .uevent, .processHotPlug => true
  | .uevent, _ => false
  | .integrity, .checkIntegrity => true
  | .integrity, _ => false
  | .message, .processHotPlug => false
  | .message, .checkIntegrity => false
  | .message, _ => true

/-- The daemon, as far as its ports are concerned. -/
def portSystem (m : PortManager) : System portSig Thread PortCall Errno PortState where
  body := m.callBody
  may i c := portMay i c = true
  step := portStep

abbrev PortTrace : Type := Trace portSig Thread PortCall Errno

abbrev PortLabel : Type := Label portSig Thread PortCall Errno

abbrev PortConfig : Type := Config portSig Thread PortCall Errno PortState

end Hdcp.Port
