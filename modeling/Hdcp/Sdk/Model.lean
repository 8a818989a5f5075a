/-
The session manager of the SDK.

This file translates `sdk/sessionmanager.cpp`, the life of a session in
`sdk/session.cpp` and the entry points of `sdk/hdcpapi.cpp` that create, use and destroy
a session.  Any number of threads of the application call the entry points; one
thread, `callBackThread`, executes `CallBackManager`.

The functions are programs over the signature `sdkSig`.  Its calls are the mutexes, the
condition variable of a session and the accesses that stand between them.  A session is
named by a number that stands for its address; an address is never used twice.  What
the application does in a callback function is the answer to its invocation.
-/
import Hdcp.Library.Threads
import Hdcp.Library.Bytes
import Hdcp.Status

namespace Hdcp.Sdk

open Library
open Library.Prog (op forEach)

/-- What does not change in a session. -/
structure Session where
  handle : ℕ
  callBack : Option ℕ
  context : ℕ
deriving DecidableEq, Repr

abbrev badSessionHandle : ℕ := 2 ^ 32 - 1

/-- What an application asks of the SDK: `HDCPCreate`, `HDCPDestroy`, and the entry points
that make a request on a session. -/
inductive ApiCall where
  | create (func : Option ℕ) (context : ℕ)
  | destroy (handle : ℕ)
  | request (handle : ℕ)
deriving DecidableEq, Repr

/-! ### Interactions -/

/-- The interactions of the session manager.  `iteratorBegin` and `iteratorEnd` acquire and
release `m_IteratorMutex`, `referenceBegin` and `referenceEnd` the `m_ReferenceMutex` of
a session.  `waitBegin` releases the mutex of the session and waits, `waitEnd` wakes up
and acquires it again.  `findSession` is the loop of `GetInstance` and of `PutInstance`,
`findToDestroy` the loop of `DestroySession`.  `destroyed` is no access: it marks the point
at which `DestroySession` is done with the list. -/
inductive SdkOp where
  | getUniqueHandle
  | initCallBack
  | newSession (session : Session)
  | isValid (session : ℕ)
  | iteratorBegin
  | iteratorEnd
  | increaseIterator
  | decreaseIterator
  | getIteratorReference
  | findSession (handle : ℕ)
  | findToDestroy (handle : ℕ)
  | getSessionList
  | pushFront (session handle : ℕ)
  | remove (session : ℕ)
  | destroyed (handle : ℕ)
  | isPending (session : ℕ)
  | pushPending (session : ℕ)
  | getPendingQueue
  | clearPending
  | referenceBegin (session : ℕ)
  | referenceEnd (session : ℕ)
  | getActiveReferences (session : ℕ)
  | increaseReference (session : ℕ)
  | decreaseReference (session : ℕ)
  | signal (session : ℕ)
  | waitBegin (session : ℕ)
  | waitEnd (session : ℕ)
  | free (session : ℕ)
  | getSession (session : ℕ)
  | invoke (func handle context : ℕ)
  | connect (session : ℕ)
  | transaction (session : ℕ)
  | deleteCallBackSocket
deriving DecidableEq, Repr

/-- The answers: `waitEnd` tells whether the wake-up was spurious, and `invoke` what the
callback function asks of the SDK. -/
def SdkOp.Ans : SdkOp → Type
  | getUniqueHandle | decreaseIterator | getIteratorReference | getActiveReferences _
  | decreaseReference _ => ℕ
  | initCallBack | isValid _ | isPending _ | waitEnd _ | connect _ => Bool
  | newSession _ | findSession _ | findToDestroy _ => Option ℕ
  | getSessionList | getPendingQueue => List ℕ
  | getSession _ => Session
  | invoke _ _ _ => List ApiCall
  | _ => Unit

abbrev sdkSig : Sig := ⟨SdkOp, SdkOp.Ans⟩

abbrev SdkProg (α : Type) : Type := Prog sdkSig α

def getUniqueHandle : SdkProg ℕ := op (S := sdkSig) .getUniqueHandle

def initCallBack : SdkProg Bool := op (S := sdkSig) .initCallBack

def newSession (session : Session) : SdkProg (Option ℕ) := op (S := sdkSig) (.newSession session)

def isValid (session : ℕ) : SdkProg Bool := op (S := sdkSig) (.isValid session)

def iteratorBegin : SdkProg Unit := op (S := sdkSig) .iteratorBegin

def iteratorEnd : SdkProg Unit := op (S := sdkSig) .iteratorEnd

def increaseIterator : SdkProg Unit := op (S := sdkSig) .increaseIterator

def decreaseIterator : SdkProg ℕ := op (S := sdkSig) .decreaseIterator

def getIteratorReference : SdkProg ℕ := op (S := sdkSig) .getIteratorReference

def findSession (handle : ℕ) : SdkProg (Option ℕ) := op (S := sdkSig) (.findSession handle)

def findToDestroy (handle : ℕ) : SdkProg (Option ℕ) := op (S := sdkSig) (.findToDestroy handle)

def getSessionList : SdkProg (List ℕ) := op (S := sdkSig) .getSessionList

def pushFront (session handle : ℕ) : SdkProg Unit :=
  op (S := sdkSig) (.pushFront session handle)

def remove (session : ℕ) : SdkProg Unit := op (S := sdkSig) (.remove session)

def destroyed (handle : ℕ) : SdkProg Unit := op (S := sdkSig) (.destroyed handle)

def isPending (session : ℕ) : SdkProg Bool := op (S := sdkSig) (.isPending session)

def pushPending (session : ℕ) : SdkProg Unit := op (S := sdkSig) (.pushPending session)

def getPendingQueue : SdkProg (List ℕ) := op (S := sdkSig) .getPendingQueue

def clearPending : SdkProg Unit := op (S := sdkSig) .clearPending

def referenceBegin (session : ℕ) : SdkProg Unit := op (S := sdkSig) (.referenceBegin session)

def referenceEnd (session : ℕ) : SdkProg Unit := op (S := sdkSig) (.referenceEnd session)

def getActiveReferences (session : ℕ) : SdkProg ℕ :=
  op (S := sdkSig) (.getActiveReferences session)

def incrementReferences (session : ℕ) : SdkProg Unit :=
  op (S := sdkSig) (.increaseReference session)

def decrementReferences (session : ℕ) : SdkProg ℕ :=
  op (S := sdkSig) (.decreaseReference session)

def signal (session : ℕ) : SdkProg Unit := op (S := sdkSig) (.signal session)

def waitBegin (session : ℕ) : SdkProg Unit := op (S := sdkSig) (.waitBegin session)

def waitEnd (session : ℕ) : SdkProg Bool := op (S := sdkSig) (.waitEnd session)

def free (session : ℕ) : SdkProg Unit := op (S := sdkSig) (.free session)

def getSession (session : ℕ) : SdkProg Session := op (S := sdkSig) (.getSession session)

def invoke (func handle context : ℕ) : SdkProg (List ApiCall) :=
  op (S := sdkSig) (.invoke func handle context)

def connect (session : ℕ) : SdkProg Bool := op (S := sdkSig) (.connect session)

def transaction (session : ℕ) : SdkProg Unit := op (S := sdkSig) (.transaction session)

def deleteCallBackSocket : SdkProg Unit := op (S := sdkSig) .deleteCallBackSocket

/-! ### Sessions -/

/-- `WAIT_CV`. -/
def waitCv (session : ℕ) : SdkProg Unit := do
  waitBegin session
  let _spurious ← waitEnd session
  return ()

/-- `delete session`: the destructor, then the memory is released. -/
def deleteSession (session : ℕ) : SdkProg Unit := do
  referenceBegin session
  let activeReferences ← getActiveReferences session
  if activeReferences > 0 then
    waitCv session
    referenceEnd session
    free session
  else
    referenceEnd session
    free session

def increaseReference (session : ℕ) : SdkProg Unit := do
  referenceBegin session
  incrementReferences session
  referenceEnd session

def decreaseReference (session : ℕ) : SdkProg Unit := do
  referenceBegin session
  let activeReferences ← decrementReferences session
  if activeReferences = 0 then
    signal session
    referenceEnd session
  else
    referenceEnd session

/-! ### The session manager -/

def iteratorCriticalSectionEnter : SdkProg Unit := do
  iteratorBegin
  increaseIterator
  iteratorEnd

/-- The body of a loop that deletes sessions and removes them from the list. -/
def deleteAndRemove (session : ℕ) : SdkProg Unit := do
  deleteSession session
  remove session

def iteratorCriticalSectionExit : SdkProg Unit := do
  iteratorBegin
  let iteratorReference ← decreaseIterator
  if iteratorReference = 0 then
    -- the sessions that were queued while threads were iterating
    let pending ← getPendingQueue
    forEach pending deleteAndRemove
    clearPending
    iteratorEnd
  else
    iteratorEnd

/-- `DestroyCallback`.  The list does not change while the mutex is held, so that the loop
`while (!m_SessionList.empty())` visits it from the front to the end. -/
def destroyCallback : SdkProg Unit := do
  iteratorBegin
  let sessions ← getSessionList
  forEach sessions deleteAndRemove
  deleteCallBackSocket
  iteratorEnd

def createSession (func : Option ℕ) (context : ℕ) : SdkProg ℕ := do
  let handle ← getUniqueHandle
  if !(← initCallBack) then
    return badSessionHandle
  match ← newSession ⟨handle, func, context⟩ with
  | none => return badSessionHandle
  | some session =>
    if !(← isValid session) then
      deleteSession session
      return badSessionHandle
    iteratorBegin
    pushFront session handle
    iteratorEnd
    return handle

def destroySession (handle : ℕ) : SdkProg Unit := do
  iteratorBegin
  match ← findToDestroy handle with
  | none =>
    destroyed handle
    iteratorEnd
  | some session =>
    let iteratorReference ← getIteratorReference
    if iteratorReference > 0 then
      pushPending session
      destroyed handle
      iteratorEnd
    else
      deleteAndRemove session
      destroyed handle
      iteratorEnd

def getInstance (handle : ℕ) : SdkProg (Option ℕ) := do
  iteratorCriticalSectionEnter
  match ← findSession handle with
  | none =>
    iteratorCriticalSectionExit
    return none
  | some session =>
    if ← isPending session then
      iteratorCriticalSectionExit
      return none
    increaseReference session
    iteratorCriticalSectionExit
    return some session

def putInstance (handle : ℕ) : SdkProg Unit := do
  iteratorCriticalSectionEnter
  match ← findSession handle with
  | none => iteratorCriticalSectionExit
  | some session =>
    decreaseReference session
    iteratorCriticalSectionExit

/-! ### Entry points -/

/-- The end of `HDCPCreate`: `Create` of the session is executed on a reference. -/
def createOnDaemon (handle : ℕ) : SdkProg Unit := do
  match ← getInstance handle with
  | none => return ()
  | some session =>
    let successful ← connect session
    putInstance handle
    if !successful then
      destroySession handle

def hdcpCreate (func : Option ℕ) (context : ℕ) : SdkProg Unit := do
  let handle ← createSession func context
  if handle = badSessionHandle then
    return ()
  createOnDaemon handle

def hdcpDestroy (handle : ℕ) : SdkProg Unit := destroySession handle

/-- The entry points that make a request on a session. -/
def hdcpRequest (handle : ℕ) : SdkProg Unit := do
  match ← getInstance handle with
  | none => return ()
  | some session =>
    transaction session
    putInstance handle

def apiCall : ApiCall → SdkProg Unit
  | .create func context => hdcpCreate func context
  | .destroy handle => hdcpDestroy handle
  | .request handle => hdcpRequest handle

/-- A round of the loop of `CallBackManager` over the sessions. -/
def deliverTo (session : ℕ) : SdkProg Unit := do
  let fields ← getSession session
  match fields.callBack with
  | none => return ()
  | some func =>
    let calls ← invoke func fields.handle fields.context
    forEach calls apiCall

/-- `CallBackManager`, from a report of the daemon to the next message.  A session that is
pushed while the loop runs is in front of its position. -/
def deliver : SdkProg Unit := do
  iteratorCriticalSectionEnter
  let sessions ← getSessionList
  forEach sessions deliverTo
  iteratorCriticalSectionExit

/-! ### The threads -/

/-- The state that the threads share.  `waiting` and `wakeUps` belong to the condition
variable of a session: the threads that wait, and those of them that were signalled. -/
structure SdkState (ι : Type) where
  sessions : ℕ → Session
  allocated : ℕ
  sessionList : List ℕ
  pendingDestroyQueue : List ℕ
  activeReferences : ℕ → ℕ
  iteratorReference : ℕ
  handleIncrementor : ℕ
  iteratorMutex : Option ι
  referenceMutex : ℕ → Option ι
  waiting : ℕ → ℕ
  wakeUps : ℕ → ℕ

variable {ι : Type} [DecidableEq ι]

def initState : SdkState ι where
  sessions := fun _ => ⟨0, none, 0⟩
  allocated := 0
  sessionList := []
  pendingDestroyQueue := []
  activeReferences := fun _ => 0
  iteratorReference := 0
  handleIncrementor := 1
  iteratorMutex := none
  referenceMutex := fun _ => none
  waiting := fun _ => 0
  wakeUps := fun _ => 0

/-- The first session of the list that has the handle. -/
def SdkState.find (s : SdkState ι) (handle : ℕ) : Option ℕ :=
  s.sessionList.find? fun session => (s.sessions session).handle == handle

/-- The decrement of a 32-bit counter. -/
def decrement (n : ℕ) : ℕ := u32 (n + (2 ^ 32 - 1))

/-- A read that is answered by the value `x` of the state. -/
def SdkState.answer {α : Type} [DecidableEq α] (s : SdkState ι) (x r : α) :
    Option (SdkState ι) :=
  if r = x then some s else none

/-- `m_ActiveReferences` of a session is set. -/
def SdkState.countReferences (s : SdkState ι) (session n : ℕ) : SdkState ι :=
  { s with activeReferences := Function.update s.activeReferences session n }

/-- The mutex of a session is acquired. -/
def SdkState.acquire (s : SdkState ι) (i : ι) (session : ℕ) : Option (SdkState ι) :=
  if s.referenceMutex session = none then
    some { s with referenceMutex := Function.update s.referenceMutex session (some i) }
  else
    none

/-- `waitEnd`: a wake-up is spurious or was signalled. -/
def SdkState.wakeUp (s : SdkState ι) (i : ι) (session : ℕ) (spurious : Bool) :
    Option (SdkState ι) :=
  if spurious then
    { s with waiting := Function.update s.waiting session (s.waiting session - 1) }.acquire
      i session
  else if s.wakeUps session > 0 then
    { s with wakeUps := Function.update s.wakeUps session (s.wakeUps session - 1) }.acquire
      i session
  else
    none

/-- `new HdcpSession`: there is no session when the memory is exhausted. -/
def SdkState.allocate (s : SdkState ι) (session : Session) (r : Option ℕ) :
    Option (SdkState ι) :=
  match r with
  | none => some s
  | some address =>
    if address = s.allocated then
      some { s with
        sessions := Function.update s.sessions address session
        allocated := s.allocated + 1 }
    else
      none

/-- `pthread_cond_signal`. -/
def SdkState.signal (s : SdkState ι) (session : ℕ) : SdkState ι :=
  if s.waiting session > 0 then
    { s with
      waiting := Function.update s.waiting session (s.waiting session - 1)
      wakeUps := Function.update s.wakeUps session (s.wakeUps session + 1) }
  else
    s

/-- One interaction of a thread with the answer that it gets. -/
def sdkStep (i : ι) : (o : SdkOp) → o.Ans → SdkState ι → Option (SdkState ι)
  | .getUniqueHandle, r, s =>
    { s with handleIncrementor := u32 (s.handleIncrementor + 1) }.answer s.handleIncrementor r
  | .newSession session, r, s => s.allocate session r
  | .iteratorBegin, _, s =>
    if s.iteratorMutex = none then some { s with iteratorMutex := some i } else none
  | .iteratorEnd, _, s => some { s with iteratorMutex := none }
  | .increaseIterator, _, s =>
    some { s with iteratorReference := u32 (s.iteratorReference + 1) }
  | .decreaseIterator, r, s =>
    { s with iteratorReference := decrement s.iteratorReference }.answer
      (decrement s.iteratorReference) r
  | .getIteratorReference, r, s => s.answer s.iteratorReference r
  | .findSession handle, r, s => s.answer (s.find handle) r
  | .findToDestroy handle, r, s => s.answer (s.find handle) r
  | .getSessionList, r, s => s.answer s.sessionList r
  | .pushFront session _, _, s => some { s with sessionList := session :: s.sessionList }
  | .remove session, _, s => some { s with sessionList := s.sessionList.filter (· ≠ session) }
  | .isPending session, r, s => s.answer (decide (session ∈ s.pendingDestroyQueue)) r
  | .pushPending session, _, s =>
    some { s with pendingDestroyQueue := s.pendingDestroyQueue ++ [session] }
  | .getPendingQueue, r, s => s.answer s.pendingDestroyQueue r
  | .clearPending, _, s => some { s with pendingDestroyQueue := [] }
  | .referenceBegin session, _, s => s.acquire i session
  | .referenceEnd session, _, s =>
    some { s with referenceMutex := Function.update s.referenceMutex session none }
  | .getActiveReferences session, r, s => s.answer (s.activeReferences session) r
  | .increaseReference session, _, s =>
    some (s.countReferences session (u32 (s.activeReferences session + 1)))
  | .decreaseReference session, r, s =>
    (s.countReferences session (decrement (s.activeReferences session))).answer
      (decrement (s.activeReferences session)) r
  | .signal session, _, s => some (s.signal session)
  | .waitBegin session, _, s =>
    some { s with
      referenceMutex := Function.update s.referenceMutex session none
      waiting := Function.update s.waiting session (s.waiting session + 1) }
  | .waitEnd session, r, s => s.wakeUp i session r
  | .getSession session, r, s => s.answer (s.sessions session) r
  | _, _, s => some s

/-- The calls that the threads make. -/
inductive SdkCall where
  | api (c : ApiCall)
  | deliver
  | disconnect
deriving DecidableEq, Repr

def callBody : SdkCall → SdkProg Unit
  | .api c => apiCall c
  | .deliver => deliver
  | .disconnect => destroyCallback

/-- `CallBackManager` is executed by one thread; the others are threads of the
application. -/
def sdkMay (callBackThread i : ι) : SdkCall → Bool
  | .api _ => i ≠ callBackThread
  | .deliver | .disconnect => i = callBackThread

/-- The SDK in a process of the application. -/
def sdkSystem (callBackThread : ι) : System sdkSig ι SdkCall Unit (SdkState ι) where
  body := callBody
  may i c := sdkMay callBackThread i c = true
  step := sdkStep

abbrev SdkTrace (ι : Type) : Type := Trace sdkSig ι SdkCall Unit

abbrev SdkLabel (ι : Type) : Type := Label sdkSig ι SdkCall Unit

abbrev SdkConfig (ι : Type) : Type := Config sdkSig ι SdkCall Unit (SdkState ι)

end Hdcp.Sdk
