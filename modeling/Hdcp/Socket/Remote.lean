/-
An application that is linked to the daemon.

An application calls the entry points of the SDK; the daemon calls the port manager and the
SRM module.  Between them are the messages of `SocketData`, the parts in which they arrive,
the checks on both sides and the loop in which the daemon serves all its clients.

`Direct` says what is left when all this is taken away: for each entry point, the calls that
the application makes in the daemon.  It is not translated from the code.  The theorem is
that the application cannot tell the difference (`runs_direct_of_remote`): whatever it does with the
answers, each run over a connection that does not fail is a run of the same application over
`Direct`, with the calls that the daemon has really made for it.
-/
import Hdcp.Daemon.Transaction
import Hdcp.Library.Remote
import Hdcp.Sdk.Session

namespace Hdcp.Remote

open Library Socket Daemon Session
open Transaction (Away)

/-! ### Reading and writing -/

section Loops

variable {S : Sig} {P : Party S UInt8} {read : ℕ → Prog S (Except Errno (List UInt8))}
  {send : List UInt8 → Prog S (Except Errno ℕ)}

/-- A `read` of at most `n` bytes gets some. -/
def ReadsSome (P : Party S UInt8) (n : ℕ) (p : Prog S (Except Errno (List UInt8))) : Prop :=
  P.Does (fun r heard said inner =>
    r = .ok heard ∧ heard ≠ [] ∧ heard.length ≤ n ∧ said = [] ∧ inner = []) p

/-- A `send` of `data` sends a part of it. -/
def SendsSome (P : Party S UInt8) (data : List UInt8) (p : Prog S (Except Errno ℕ)) : Prop :=
  P.Does (fun r heard said inner => ∃ n, r = .ok n ∧ 0 < n ∧ n ≤ data.length ∧
    heard = [] ∧ said = data.take n ∧ inner = []) p

lemma does_readLoop (hread : ∀ n, ReadsSome P n (read n)) (rounds : ℕ) {n : ℕ}
    {start : List UInt8} (hrounds : n ≤ rounds) :
    P.Does (fun r heard said inner =>
      r = .ok (start ++ heard) ∧ heard.length = n ∧ said = [] ∧ inner = [])
      (readLoop read rounds n start) := by
  induction rounds generalizing n start with
  | zero =>
      obtain rfl := Nat.le_zero.1 hrounds
      exact Party.does_ret ⟨by rw [List.append_nil], rfl, rfl, rfl⟩
  | succ rounds ih =>
      refine Party.Does.ite (fun hn => ?_) fun hn => ?_
      · subst hn
        exact Party.does_ret ⟨by rw [List.append_nil], rfl, rfl, rfl⟩
      refine (hread n).bind ?_
      rintro r bytes said inner ⟨rfl, hne, hle, rfl, rfl⟩
      have hempty : ¬bytes.isEmpty = true := fun h => hne (List.isEmpty_iff.1 h)
      have hpos : 0 < bytes.length := List.length_pos_iff.2 hne
      refine Party.Does.ite (fun h => absurd h hempty) fun _ => ?_
      have hrest : n - bytes.length ≤ rounds := by omega
      refine (ih hrest).mono ?_
      rintro r heard said inner ⟨rfl, hlength, rfl, rfl⟩
      refine ⟨by rw [List.append_assoc], ?_, rfl, rfl⟩
      rw [List.length_append]
      omega

lemma does_readData (hread : ∀ n, ReadsSome P n (read n)) (n : ℕ) :
    P.Does (fun r heard said inner => r = .ok heard ∧ heard.length = n ∧ said = [] ∧ inner = [])
      (readData read n) :=
  does_readLoop hread n le_rfl

lemma does_writeLoop (hsend : ∀ data, SendsSome P data (send data)) (rounds : ℕ)
    {data : List UInt8} (hrounds : data.length ≤ rounds) :
    P.Does (fun r heard said inner => r = .success ∧ heard = [] ∧ said = data ∧ inner = [])
      (writeLoop send rounds data) := by
  induction rounds generalizing data with
  | zero =>
      obtain rfl := List.eq_nil_of_length_eq_zero (Nat.le_zero.1 hrounds)
      exact Party.does_ret ⟨rfl, rfl, rfl, rfl⟩
  | succ rounds ih =>
      refine Party.Does.ite (fun hempty => ?_) fun _ => ?_
      · obtain rfl := List.isEmpty_iff.1 hempty
        exact Party.does_ret ⟨rfl, rfl, rfl, rfl⟩
      refine (hsend data).bind ?_
      rintro r heard said inner ⟨n, rfl, hpos, hle, rfl, rfl, rfl⟩
      refine (ih (by rw [List.length_drop]; omega)).mono ?_
      rintro r heard said inner ⟨rfl, rfl, rfl, rfl⟩
      exact ⟨rfl, rfl, List.take_append_drop n data, rfl⟩

lemma does_writeData (hsend : ∀ data, SendsSome P data (send data)) (data : List UInt8) :
    P.Does (fun r heard said inner => r = .success ∧ heard = [] ∧ said = data ∧ inner = [])
      (writeData send data) :=
  does_writeLoop hsend data.length le_rfl

end Loops

/-! ### The connection -/

/-- A `read` gets a byte. -/
def readWorks (n : ℕ) (r : Except Errno (List UInt8)) : Prop :=
  readAnswer n r = true ∧ readBytes r ≠ []

/-- A `send` sends one. -/
def sendWorks (n : ℕ) (r : Except Errno ℕ) : Prop := sendAnswer n r = true ∧ Except.isOk r = true

/-- The application: its handle is that of the session `x`, whose socket does not fail. -/
def application (x : ℕ) : Party sessionSig UInt8 where
  said
    | ⟨.send y data, r⟩ => if y = x then sentBytes data r else []
    | _ => []
  heard
    | ⟨.read y _, r⟩ => if y = x then readBytes r else []
    | _ => []
  works
    | ⟨.getInstance _, r⟩ => r = some x
    | ⟨.read _ n, r⟩ => readWorks n r
    | ⟨.send _ data, r⟩ => sendWorks data.length r
    | _ => True
  inner _ := false

/-- The interactions with the port manager and the SRM module, and `new`. -/
def isInternal : DaemonOp → Bool
  | .new _ | .portManagerHandleAppExit _ | .portManagerEnumeratePorts
  | .portManagerEnablePort _ _ _ | .portManagerDisablePort _ _ | .portManagerGetStatus _
  | .portManagerGetKsvList _ | .portManagerSendSrmData _ | .storeSrm _ | .getSrmVersion
  | .srmConfig _ => true
  | _ => false

/-- The daemon on the connection `x`, which is open and does not fail. -/
def daemon (x : ℕ) : Party daemonSig UInt8 where
  said
    | ⟨.send y data, r⟩ => if y = x then sentBytes data r else []
    | _ => []
  heard
    | ⟨.read y _, r⟩ => if y = x then readBytes r else []
    | _ => []
  works
    | ⟨.accept, r⟩ => r ≠ .ok x
    | ⟨.read y n, r⟩ => y = x → readWorks n r
    | ⟨.send y data, r⟩ => y = x → sendWorks data.length r
    | _ => True
  inner e := isInternal e.op

variable {m : HdcpDaemon} {L : Layout} {x n : ℕ} {α : Type}

lemma readsSome_of_works {r : Except Errno (List UInt8)} (h : readWorks n r) :
    r = .ok (readBytes r) ∧ readBytes r ≠ [] ∧ (readBytes r).length ≤ n := by
  obtain ⟨hanswer, hne⟩ := h
  cases r with
  | error e => exact absurd rfl hne
  | ok bytes => exact ⟨rfl, hne, of_decide_eq_true hanswer⟩

lemma sendsSome_of_works {data : List UInt8} {r : Except Errno ℕ} (h : sendWorks data.length r) :
    ∃ n, r = .ok n ∧ 0 < n ∧ n ≤ data.length ∧ sentBytes data r = data.take n := by
  obtain ⟨hanswer, hok⟩ := h
  cases r with
  | error e => exact absurd hok (by simp [Except.isOk, Except.toBool])
  | ok n =>
      obtain ⟨hpos, hle⟩ := of_decide_eq_true hanswer
      exact ⟨n, rfl, hpos, hle, rfl⟩

lemma application_read (n : ℕ) : ReadsSome (application x) n (Session.read x n) := by
  refine Party.does_op (S := sessionSig) (o := .read x n) fun r hr => ?_
  obtain ⟨hok, hne, hle⟩ := readsSome_of_works (r := r) hr
  have hheard : (application x).heard ⟨.read x n, r⟩ = readBytes r := if_pos rfl
  rw [hheard]
  exact ⟨hok, hne, hle, rfl, rfl⟩

lemma application_send (data : List UInt8) :
    SendsSome (application x) data (Session.send x data) := by
  refine Party.does_op (S := sessionSig) (o := .send x data) fun r hr => ?_
  obtain ⟨n, hok, hpos, hle, hsent⟩ := sendsSome_of_works (r := r) hr
  exact ⟨n, hok, hpos, hle, rfl, (if_pos rfl).trans hsent, rfl⟩

lemma daemon_read (n : ℕ) : ReadsSome (daemon x) n (Daemon.read x n) := by
  refine Party.does_op (S := daemonSig) (o := .read x n) fun r hr => ?_
  obtain ⟨hok, hne, hle⟩ := readsSome_of_works (r := r) (hr rfl)
  have hheard : (daemon x).heard ⟨.read x n, r⟩ = readBytes r := if_pos rfl
  rw [hheard]
  exact ⟨hok, hne, hle, rfl, rfl⟩

lemma daemon_send (data : List UInt8) : SendsSome (daemon x) data (Daemon.send x data) := by
  refine Party.does_op (S := daemonSig) (o := .send x data) fun r hr => ?_
  obtain ⟨n, hok, hpos, hle, hsent⟩ := sendsSome_of_works (r := r) (hr rfl)
  exact ⟨n, hok, hpos, hle, rfl, (if_pos rfl).trans hsent, rfl⟩

/-! ### The interface -/

/-- What an entry point returns, with what it writes through its pointers. -/
def Answer : Request → Type
  | .enumerateDisplay _ => HdcpStatus × Option PortList
  | .setProtectionLevel _ _ | .sendSrmData _ _ | .config _ => HdcpStatus
  | .getStatus _ _ => HdcpStatus × Option UInt32
  | .getKsvList _ _ => HdcpStatus × KsvResult
  | .getSrmVersion _ => HdcpStatus × Option UInt16

/-- The entry points. -/
abbrev apiSig : Sig := ⟨Request, Answer⟩

/-- The entry points of the SDK, on one handle. -/
def call (L : Layout) (handle : ℕ) : (c : Request) → SessionProg (Answer c)
  | .enumerateDisplay portList => hdcpEnumerateDisplay L handle portList
  | .setProtectionLevel portId level => hdcpSetProtectionLevel L handle portId level
  | .getStatus portId portStatus => hdcpGetStatus L handle portId portStatus
  | .getKsvList portId p => hdcpGetKsvList L handle portId p
  | .sendSrmData srmSize srmData => hdcpSendSrmData L handle srmSize srmData
  | .getSrmVersion version => hdcpGetSrmVersion L handle version
  | .config c => hdcpConfig L handle c

namespace Direct

/-- The entry points without the SDK and the messages; `x` is the name of the application in
the daemon. -/
def enumerateDisplay (portList : Bool) : DaemonProg (HdcpStatus × Option PortList) := do
  if !portList then
    return (HdcpStatus.errorInvalidParameter, none)
  let r ← portManagerEnumeratePorts
  if r.sts ≠ .success ∨ r.portCount.toNat > numPhysicalPortsMax then
    return (HdcpStatus.errorInternal, some PortList.empty)
  return (HdcpStatus.successful, some ⟨fun i =>
    if i.val < r.portCount.toNat then ((r.ports i).id, (r.ports i).status) else (0, 0),
    r.portCount⟩)

/-- The status for what a function of the port manager returns. -/
def portStatus (sts : Errno) : HdcpStatus :=
  if sts ≠ .success then HdcpDaemon.failureStatus sts else HdcpStatus.successful

/-- A port is given a level: levels 1 and 2 enable it, and level 0 disables it. -/
def setLevel (x : ℕ) (portId : UInt32) (level : UInt8) : DaemonProg HdcpStatus :=
  if level = hdcpLevel1 ∨ level = hdcpLevel2 then do
    let sts ← portManagerEnablePort portId x level
    return portStatus sts
  else if level = hdcpLevel0 then do
    let sts ← portManagerDisablePort portId x
    return portStatus sts
  else
    return HdcpStatus.errorInvalidParameter

/-- A level that cannot be given is followed by level 0; how level 0 ends does not matter. -/
def setProtectionLevel (x : ℕ) (portId : UInt32) (level : UInt8) : DaemonProg HdcpStatus := do
  if portId.toNat > numPhysicalPortsMax then
    return HdcpStatus.errorInvalidParameter
  let status ← setLevel x portId level
  if status ≠ HdcpStatus.successful ∧ level ≠ hdcpLevel0 then
    let _status ← setLevel x portId hdcpLevel0
    return status
  return HdcpStatus.successful

def getStatus (portId : UInt32) (portStatus : Bool) : DaemonProg (HdcpStatus × Option UInt32) := do
  if !portStatus ∨ portId.toNat > numPhysicalPortsMax then
    return (HdcpStatus.errorInvalidParameter, none)
  let (sts, status) ← portManagerGetStatus portId
  if sts ≠ .success then
    return (HdcpDaemon.failureStatus sts, none)
  return (HdcpStatus.successful, some status)

/-- An empty list is an error, which leaves the counts. -/
def getKsvList (portId : UInt32) (p : KsvPointers) : DaemonProg (HdcpStatus × KsvResult) := do
  if !p.all ∨ portId.toNat > numPhysicalPortsMax then
    return (HdcpStatus.errorInvalidParameter, ⟨none, none⟩)
  if !(← new (maxKsvCount.toNat * ksvSize)) then
    return (HdcpStatus.errorInsufficientMemory, ⟨none, none⟩)
  let r ← portManagerGetKsvList portId
  if r.sts ≠ .success then
    return (HdcpStatus.errorInternal, ⟨none, none⟩)
  if r.ksvCount > maxKsvCount then
    return (HdcpStatus.errorMaxDevicesExceeded, ⟨none, none⟩)
  if r.depth > maxTopologyDepth then
    return (HdcpStatus.errorMaxDepthExceeded, ⟨none, none⟩)
  if r.ksvCount = 0 then
    return (HdcpStatus.errorMsgTransaction, ⟨some (r.ksvCount, r.depth), none⟩)
  return (HdcpStatus.successful,
    ⟨some (r.ksvCount, r.depth), some (slice r.ksvList 0 (r.ksvCount.toNat * ksvSize))⟩)

/-- The SRM is stored, and given to the ports. -/
def store (srm : List UInt8) : DaemonProg HdcpStatus := do
  let sts ← storeSrm srm
  if sts ≠ .success then
    return HdcpDaemon.storeFailureStatus sts
  let sts ← portManagerSendSrmData srm
  if sts ≠ .success then
    return HdcpStatus.errorInternal
  return HdcpStatus.successful

def sendSrmData (srmSize : UInt32) (srmData : Option Mem) : DaemonProg HdcpStatus := do
  match srmData with
  | none => return HdcpStatus.errorInvalidParameter
  | some srmData =>
    if srmSize < srmMinLength ∨ srmSize.toNat > srmFirstGenMaxSize then
      return HdcpStatus.errorInvalidParameter
    if !(← new srmSize.toNat) then
      return HdcpStatus.errorInsufficientMemory
    store (slice srmData 0 srmSize.toNat)

def getSrmVersion (version : Bool) : DaemonProg (HdcpStatus × Option UInt16) := do
  if !version then
    return (HdcpStatus.errorInvalidParameter, none)
  let (sts, srmVersion) ← Daemon.getSrmVersion
  if sts ≠ .success then
    return (HdcpStatus.errorInternal, none)
  return (HdcpStatus.successful, some srmVersion)

def config (c : HdcpConfig) : DaemonProg HdcpStatus := do
  if c.type ≠ srmStorageConfig then
    return HdcpStatus.errorInvalidParameter
  let sts ← srmConfig c.disableSrmStorage
  if sts ≠ .success then
    return HdcpStatus.errorInternal
  return HdcpStatus.successful

end Direct

/-- The entry points, in the daemon itself. -/
def direct (x : ℕ) : (c : Request) → DaemonProg (Answer c)
  | .enumerateDisplay portList => Direct.enumerateDisplay portList
  | .setProtectionLevel portId level => Direct.setProtectionLevel x portId level
  | .getStatus portId portStatus => Direct.getStatus portId portStatus
  | .getKsvList portId p => Direct.getKsvList portId p
  | .sendSrmData srmSize srmData => Direct.sendSrmData srmSize srmData
  | .getSrmVersion version => Direct.getSrmVersion version
  | .config c => Direct.config c

/-! ### The rounds of the message loop -/

/-- A round of the message loop in which the daemon hears the client at `x`. -/
structure Round (m : HdcpDaemon) (x : ℕ) (log : List (Event daemonSig)) : Prop where
  runs : ∃ polls, (m.messageResponse polls).Runs log ()
  works : ∀ e ∈ log, (daemon x).works e
  heard : (daemon x).heardIn log ≠ []

def service (m : HdcpDaemon) (x : ℕ) : Service sessionSig daemonSig UInt8 :=
  ⟨application x, daemon x, Round m x⟩

/-- The program does not concern the client at `x`, nor the rest of the daemon. -/
abbrev Idle (x : ℕ) (p : DaemonProg α) : Prop :=
  (daemon x).Does (fun _ heard said inner => heard = [] ∧ said = [] ∧ inner = []) p

/-- Nothing is said to the client at `x`, nor heard. -/
abbrev Apart (x : ℕ) (p : DaemonProg α) : Prop :=
  (daemon x).Does (fun _ heard said _ => heard = [] ∧ said = []) p

/-- What an interaction that is away from `x` says and hears there. -/
lemma quiet_of_away {o : DaemonOp} (h : Away {x} o) (r : o.Ans) :
    (daemon x).heard ⟨o, r⟩ = [] ∧ (daemon x).said ⟨o, r⟩ = [] := by
  cases o with
  | read fd n =>
      have hfd : fd ≠ x := fun heq => h (Finset.mem_singleton.2 heq)
      exact ⟨if_neg hfd, rfl⟩
  | send fd data =>
      have hfd : fd ≠ x := fun heq => h (Finset.mem_singleton.2 heq)
      exact ⟨rfl, if_neg hfd⟩
  | _ => exact ⟨rfl, rfl⟩

lemma apart_of_away {p : DaemonProg α} (h : p.Uses (Away {x})) : Apart x p := by
  intro log a hrun _
  have hmem (e : Event daemonSig) (he : e ∈ log) := quiet_of_away (h.of_runs hrun he) e.ans
  exact ⟨List.flatMap_eq_nil_iff.2 fun e he => (hmem e he).1,
    List.flatMap_eq_nil_iff.2 fun e he => (hmem e he).2⟩

lemma idle_of_away {p : DaemonProg α} (h : p.Uses (Away {x}))
    (hinner : p.Uses fun o => isInternal o = false) : Idle x p := by
  intro log a hrun hworks
  obtain ⟨hheard, hsaid⟩ := apart_of_away h hrun hworks
  refine ⟨hheard, hsaid, List.filter_eq_nil_iff.2 fun e he => ?_⟩
  rw [Bool.not_eq_true]
  exact hinner.of_runs hrun he

lemma idle_op {o : DaemonOp} (h : Away {x} o) (hinner : isInternal o = false) :
    Idle x (Prog.op (S := daemonSig) o) :=
  idle_of_away (Prog.uses_op.2 h) (Prog.uses_op.2 hinner)

lemma Idle.bind {γ : Type} {p : DaemonProg α} {f : α → DaemonProg γ}
    {Q : γ → List UInt8 → List UInt8 → List (Event daemonSig) → Prop} (h : Idle x p)
    (hf : ∀ a, (daemon x).Does Q (f a)) : (daemon x).Does Q (p >>= f) := by
  refine Party.Does.bind h ?_
  rintro a heard said inner ⟨rfl, rfl, rfl⟩
  exact hf a

lemma idle_ret (a : α) : Idle x (.ret a) := Party.does_ret ⟨rfl, rfl, rfl⟩

lemma idle_findEmptySlot (todo i : ℕ) : Idle x (HdcpDaemon.findEmptySlot todo i) := by
  refine idle_of_away (Transaction.away_findEmptySlot todo i) ?_
  refine (uses_findEmptySlot todo i).mono ?_
  rintro o ⟨i, rfl⟩
  rfl

/-- A message to another client. -/
lemma idle_sendResponse {rsp : SocketData} {fd : ℕ} (hfd : fd ≠ x) :
    Idle x (m.sendResponse rsp fd) := by
  have hnot : fd ∉ ({x} : Finset ℕ) := fun h => hfd (Finset.mem_singleton.1 h)
  refine idle_of_away (serves_sendResponse.mono (Transaction.away_of_serves hnot)) ?_
  have hsend (data : List UInt8) : (Daemon.send fd data).Uses fun o => isInternal o = false :=
    (Prog.uses_op (S := daemonSig) (o := .send fd data)).2 rfl
  exact uses_writeLoop hsend _ _

/-- The connections that are accepted are other ones. -/
lemma idle_acceptLoop (rounds emptyIndex : ℕ) : Idle x (m.acceptLoop rounds emptyIndex) := by
  induction rounds generalizing emptyIndex with
  | zero => exact idle_ret _
  | succ rounds ih =>
      refine Party.Does.bind (Q := fun r heard said inner =>
        (∀ fd, r = .ok fd → fd ≠ x) ∧ heard = [] ∧ said = [] ∧ inner = [])
        (Party.does_op (S := daemonSig) (o := .accept) fun r hr => ⟨?_, rfl, rfl, rfl⟩) ?_
      · rintro fd rfl rfl
        exact hr rfl
      rintro (e | incomingFd) heard said inner ⟨hfd, rfl, rfl, rfl⟩
      · exact idle_ret _
      have hother : incomingFd ≠ x := hfd incomingFd rfl
      refine (idle_findEmptySlot _ _).bind ?_
      rintro (- | i)
      · have hclose : Away {x} (.close incomingFd) := fun h => hother (Finset.mem_singleton.1 h)
        exact (idle_op hclose rfl).bind fun _ => idle_ret _
      · refine (idle_op (o := .setSlot i incomingFd) trivial rfl).bind fun _ => ?_
        exact (idle_sendResponse hother).bind fun _ => ih i

/-- A request was read; for the client at `x`, this is all that was heard. -/
def Took (m : HdcpDaemon) (x : ℕ) (task : HdcpDaemon.Task) (heard said : List UInt8)
    (inner : List (Event daemonSig)) : Prop :=
  said = [] ∧ inner = [] ∧ (task.appId ≠ x → heard = []) ∧
    (task.appId = x → task.req = m.layout.decode heard ∧ heard.length = m.layout.size)

lemma does_serveSlot (i fd : ℕ) : (daemon x).Does (Took m x) (m.serveSlot i fd) := by
  by_cases hfd : fd = x
  · subst hfd
    refine Party.Does.bind (Q := fun r heard said inner => r = .ok (m.layout.decode heard) ∧
      heard.length = m.layout.size ∧ said = [] ∧ inner = []) ?_ ?_
    · refine (does_readData daemon_read m.layout.size).bind ?_
      rintro r heard said inner ⟨rfl, hlength, rfl, rfl⟩
      refine Party.does_ret ?_
      rw [List.append_nil]
      exact ⟨rfl, hlength, rfl, rfl⟩
    rintro r heard said inner ⟨rfl, hlength, rfl, rfl⟩
    have htook : Took m fd ⟨fd, m.layout.decode heard⟩ heard [] [] :=
      ⟨rfl, rfl, fun h => absurd rfl h, fun _ => ⟨rfl, hlength⟩⟩
    refine Party.Does.ite (fun _ => ?_) fun _ => ?_
    · refine (idle_op (o := .freeSlot i) trivial rfl).bind fun _ => ?_
      exact Party.does_ret_append htook
    · exact Party.does_ret_append htook
  · have hnot : fd ∉ ({x} : Finset ℕ) := fun h => hfd (Finset.mem_singleton.1 h)
    have htook (req : SocketData) : Took m x ⟨fd, req⟩ [] [] [] :=
      ⟨rfl, rfl, fun _ => rfl, fun h => absurd h hfd⟩
    have hrequest : Idle x (m.getRequest fd) := by
      refine idle_of_away (serves_getRequest.mono (Transaction.away_of_serves hnot)) ?_
      have hread (n : ℕ) : (Daemon.read fd n).Uses fun o => isInternal o = false :=
        (Prog.uses_op (S := daemonSig) (o := .read fd n)).2 rfl
      refine (uses_readLoop hread _ _ _).bind ?_
      rintro (e | bytes)
      · trivial
      · trivial
    refine hrequest.bind ?_
    rintro (e | req)
    · refine (idle_op (o := .close fd) hnot rfl).bind fun _ => ?_
      exact (idle_op (o := .freeSlot i) trivial rfl).bind fun _ => Party.does_ret (htook _)
    · refine Party.Does.ite (fun _ => ?_) fun _ => Party.does_ret (htook req)
      exact (idle_op (o := .freeSlot i) trivial rfl).bind fun _ => Party.does_ret (htook req)

/-- What a search for a request ends with. -/
def Searched (m : HdcpDaemon) (x : ℕ) (task : Option HdcpDaemon.Task) (heard said : List UInt8)
    (inner : List (Event daemonSig)) : Prop :=
  match task with
  | some task => Took m x task heard said inner
  | none => heard = [] ∧ said = [] ∧ inner = []

lemma searched_none : Searched m x none [] [] [] := ⟨rfl, rfl, rfl⟩

/-- The request that the loop of `GetTask` ends with. -/
def foundTask : Except Errno (ℕ × Option HdcpDaemon.Task) → Option HdcpDaemon.Task
  | .ok (_, task) => task
  | .error _ => none

lemma does_getTaskLoop (fdIndex todo i : ℕ) :
    (daemon x).Does (fun r => Searched m x (foundTask r)) (m.getTaskLoop fdIndex todo i) := by
  induction todo generalizing i with
  | zero => exact Party.does_ret searched_none
  | succ todo ih =>
      refine Party.Does.ite (fun _ => Party.does_ret searched_none) fun _ => ?_
      refine (idle_op (o := .getSlot i) trivial rfl).bind ?_
      rintro ⟨fd, revents⟩
      cases fd with
      | none => exact ih _
      | some fd =>
          refine Party.Does.ite (fun _ => ih _) fun _ => Party.Does.ite (fun _ => ?_) fun _ => ?_
          · refine (idle_acceptLoop _ _).bind fun ret => ?_
            exact Party.Does.ite (fun _ => Party.does_ret searched_none) fun _ => ih _
          · refine (does_serveSlot i fd).bind ?_
            rintro task heard said inner htook
            exact Party.does_ret_append htook

/-- The request that `GetTask` ends with. -/
def gotTask : Option (Except Errno HdcpDaemon.Task) → Option HdcpDaemon.Task
  | some (.ok task) => some task
  | _ => none

lemma does_getTask (rounds : ℕ) :
    (daemon x).Does (fun r => Searched m x (gotTask r)) (m.getTask rounds) := by
  induction rounds with
  | zero => exact Party.does_ret searched_none
  | succ rounds ih =>
      -- a round that is not the last one is idle
      refine Party.Does.bind (Q := fun r => Searched m x (r.elim (fun _ => none) fun r =>
        gotTask (some r))) ?_ ?_
      · refine (idle_op (o := .pollForEvent) trivial rfl).bind ?_
        rintro (e | revents)
        · exact Party.does_ret searched_none
        refine (idle_op (o := .getFdIndex) trivial rfl).bind fun fdIndex => ?_
        refine (does_getTaskLoop fdIndex _ _).bind ?_
        rintro (e | ⟨i, task⟩) heard said inner hsearched
        · exact Party.does_ret_append hsearched
        refine (idle_op (o := .setFdIndex i) trivial rfl).bind fun _ => ?_
        cases task with
        | none =>
            exact Party.does_ret_append hsearched
        | some task =>
            exact Party.does_ret_append hsearched
      · rintro (b | r) heard said inner hsearched
        · obtain ⟨rfl, rfl, rfl⟩ := hsearched
          exact ih
        · exact Party.does_ret_append hsearched

/-- The daemon hears a message first; then it answers. -/
lemma Round.spec {log : List (Event daemonSig)} (h : Round m x log) :
    ∃ bytes log', (daemon x).heardIn log = bytes ++ (daemon x).heardIn log' ∧
      bytes.length = m.layout.size ∧ (daemon x).saidIn log = (daemon x).saidIn log' ∧
      (daemon x).innerIn log = (daemon x).innerIn log' ∧
      (m.answerTask ⟨x, m.layout.decode bytes⟩).Runs log' () ∧
      ∀ e ∈ log', (daemon x).works e := by
  obtain ⟨⟨polls, hrun⟩, hworks, hheard⟩ := h
  obtain ⟨r, l, l', hget, hrest, rfl⟩ := Prog.runs_bind.1 hrun
  obtain ⟨hl, hl'⟩ := List.forall_mem_append.1 hworks
  have hsearched := does_getTask polls hget hl
  rw [Party.heardIn_append] at hheard
  -- a round without a request hears nothing
  have hidle (hnone : gotTask r = none) (hend : l' = []) : False := by
    rw [hnone] at hsearched
    exact hheard (by rw [hsearched.1, hend]; rfl)
  match r with
  | none => exact (hidle rfl (Prog.runs_ret.1 hrest).1).elim
  | some (.error e) => exact (hidle rfl (Prog.runs_ret.1 hrest).1).elim
  | some (.ok task) =>
      obtain ⟨hsaid, hinner, hother, hown⟩ := hsearched
      by_cases hfd : task.appId = x
      · obtain ⟨hreq, hlength⟩ := hown hfd
        obtain ⟨appId, req⟩ := task
        obtain rfl : appId = x := hfd
        obtain rfl : req = _ := hreq
        refine ⟨_, l', Party.heardIn_append, hlength, ?_, ?_, hrest, hl'⟩
        · rw [Party.saidIn_append, hsaid, List.nil_append]
        · rw [Party.innerIn_append, hinner, List.nil_append]
      · have hnot : task.appId ∉ ({x} : Finset ℕ) := fun h => hfd (Finset.mem_singleton.1 h)
        have haway := apart_of_away (Transaction.away_answerTask hnot) hrest hl'
        exact absurd (by rw [hother hfd, haway.1]; rfl) hheard

/-! ### Answers -/

variable {req : SocketData} {p : DaemonProg SocketData}

lemma internal_of {o : DaemonOp} (h : Internal o) (r : o.Ans) :
    (daemon x).heard ⟨o, r⟩ = [] ∧ (daemon x).said ⟨o, r⟩ = [] ∧
      (daemon x).inner ⟨o, r⟩ = true := by
  cases o
  case new | portManagerHandleAppExit | portManagerEnumeratePorts | portManagerEnablePort |
    portManagerDisablePort | portManagerGetStatus | portManagerGetKsvList |
    portManagerSendSrmData | storeSrm | getSrmVersion | srmConfig =>
    exact ⟨rfl, rfl, rfl⟩
  all_goals exact h.elim

lemma does_internal {p : DaemonProg α} (h : p.Uses Internal) :
    (daemon x).Does (fun a heard said inner => heard = [] ∧ said = [] ∧ p.Runs inner a) p :=
  Party.does_of_inner h fun _ r ho => internal_of ho r

lemma does_respond (rsp : SocketData) :
    (daemon x).Does (fun _ heard said inner => heard = [] ∧ said = m.layout.encode rsp ∧
      inner = []) (m.respond rsp x) := by
  refine (does_writeData daemon_send (m.layout.encode rsp)).bind ?_
  rintro sts heard said inner ⟨rfl, rfl, rfl, rfl⟩
  refine Party.Does.ite (fun h => absurd rfl h) fun _ => Party.does_ret ?_
  exact ⟨rfl, List.append_nil _, rfl⟩

/-- A request that is answered by one message. -/
lemma does_answerTask (hsize : m.sizeofSocketData = req.size)
    (hdispatch : m.dispatchCommand req x = p >>= fun rsp => .ret (rsp, true))
    (huses : p.Uses Internal) :
    (daemon x).Does (fun _ heard said inner => heard = [] ∧
      ∃ rsp, said = m.layout.encode rsp ∧ p.Runs inner rsp) (m.answerTask ⟨x, req⟩) := by
  refine Party.Does.ite (fun h => absurd hsize h) fun _ => ?_
  rw [hdispatch, Prog.bind_assoc]
  refine (does_internal huses).bind ?_
  rintro rsp heard said inner ⟨rfl, rfl, hrun⟩
  refine (does_respond rsp).mono ?_
  rintro - heard said inner' ⟨rfl, rfl, rfl⟩
  exact ⟨rfl, rsp, rfl, by rwa [List.append_nil]⟩

/-! ### Transactions -/

lemma does_sendMessage (req : SocketData) :
    (application x).Does (fun r heard said inner => r = .success ∧ heard = [] ∧
      said = L.encode req ∧ inner = []) (sendMessage L x req) :=
  does_writeData application_send _

lemma does_getMessage :
    (application x).Does (fun r heard said _ => r = .ok (L.decode heard) ∧
      heard.length = L.size ∧ said = []) (getMessage L x) := by
  refine (does_readData application_read L.size).bind ?_
  rintro r heard said inner ⟨rfl, hlength, rfl, rfl⟩
  refine Party.does_ret ?_
  rw [List.append_nil]
  exact ⟨rfl, hlength, rfl⟩

lemma does_performMessageTransaction (req : SocketData) :
    (application x).Does (fun r heard said _ => r = ((L.decode heard).status, L.decode heard) ∧
      heard.length = L.size ∧ said = L.encode req) (performMessageTransaction L x req) := by
  refine (does_sendMessage req).bind ?_
  rintro sts heard said inner ⟨rfl, rfl, rfl, rfl⟩
  refine Party.Does.ite (fun h => absurd rfl h) fun _ => ?_
  refine does_getMessage.bind ?_
  rintro r heard said inner ⟨rfl, hlength, rfl⟩
  refine Party.does_ret ?_
  simpa using hlength

/-- The mutex of the socket does not concern the connection. -/
lemma does_socketBegin : (application x).Does (fun _ heard said _ => heard = [] ∧ said = [])
    (socketBegin x) :=
  Party.does_op (S := sessionSig) (o := .socketBegin x) fun _ _ => ⟨rfl, rfl⟩

lemma does_socketEnd : (application x).Does (fun _ heard said _ => heard = [] ∧ said = [])
    (socketEnd x) :=
  Party.does_op (S := sessionSig) (o := .socketEnd x) fun _ _ => ⟨rfl, rfl⟩

lemma does_lockedTransaction (req : SocketData) :
    (application x).Does (fun r heard said _ => r = ((L.decode heard).status, L.decode heard) ∧
      heard.length = L.size ∧ said = L.encode req) (lockedTransaction L x req) := by
  refine does_socketBegin.bind ?_
  rintro - heard said inner ⟨rfl, rfl⟩
  refine (does_performMessageTransaction req).bind ?_
  rintro r heard said inner ⟨rfl, hlength, rfl⟩
  refine does_socketEnd.bind ?_
  rintro - heard' said' inner ⟨rfl, rfl⟩
  refine Party.does_ret ?_
  simpa using hlength

/-- A transaction with one message in each direction. -/
lemma transparent_lockedTransaction (hsize : m.sizeofSocketData = req.size)
    (hdispatch : m.dispatchCommand req x = p >>= fun rsp => .ret (rsp, true))
    (huses : p.Uses Internal) :
    (service m x).Transparent (lockedTransaction m.layout x req)
      (p >>= fun rsp => .ret (rsp.status, rsp)) := by
  refine Service.transparent_of_round (u := m.layout.encode req)
    (C := fun r heard more => more = [] ∧ heard.length = m.layout.size ∧
      r = ((m.layout.decode heard).status, m.layout.decode heard))
    (D := fun more said inner => more = [] ∧ ∃ rsp, said = m.layout.encode rsp ∧ p.Runs inner rsp)
    ?_ ?_ ?_
  · refine (does_lockedTransaction req).mono ?_
    rintro r heard said inner ⟨rfl, hlength, rfl⟩
    refine ⟨?_, [], (List.append_nil _).symm, rfl, hlength, rfl⟩
    rw [← List.length_pos_iff, hlength]
    exact layout_size_pos _
  · intro r hr
    obtain ⟨bytes, log', hheard, hlength, hsaid, hinner, hrun, hworks⟩ := hr.spec
    refine ⟨bytes, _, hheard, by rw [hlength, m.layout.length_encode], ?_⟩
    rintro rfl
    rw [m.layout.decode_encode] at hrun
    obtain ⟨hnil, rsp, hrsp, hp⟩ := does_answerTask hsize hdispatch huses hrun hworks
    exact ⟨hnil, rsp, hsaid.trans hrsp, by rwa [← hinner] at hp⟩
  · rintro r heard said heard' said' inner ⟨rfl, hlength, rfl⟩ ⟨rfl, rsp, rfl, hp⟩ _ _ _ _ hto -
    obtain ⟨rfl, -⟩ := prefix_append_of_length hto (by rw [hlength, m.layout.length_encode])
    refine ⟨rfl, rfl, Prog.runs_bind.2 ⟨rsp, inner, [], hp, ?_, (List.append_nil _).symm⟩⟩
    rw [m.layout.decode_encode]
    exact .ret _

/-! ### Entry points -/

variable {handle : ℕ}

lemma transparent_withInstance {failed : α} {f : ℕ → SessionProg α} {q : DaemonProg α}
    (h : (service m x).Transparent (f x) q) :
    (service m x).Transparent (withInstance handle failed f) q := by
  refine Service.Transparent.quiet (S := sessionSig) (o := .getInstance handle)
    (fun _ => ⟨rfl, rfl⟩) ?_
  rintro session rfl
  rw [← Prog.bind_ret q]
  refine Service.Transparent.bind h fun a => ?_
  exact Service.Transparent.quiet (S := sessionSig) (o := .putInstance handle)
    (fun _ => ⟨rfl, rfl⟩) fun _ _ =>
    Service.transparent_ret a

/-- The status for a function that succeeds or fails. -/
def internalStatus (sts : Errno) : HdcpStatus :=
  if sts ≠ .success then HdcpStatus.errorInternal else HdcpStatus.successful

lemma enumeratePorts_eq (data : SocketData) :
    HdcpDaemon.enumeratePorts data = portManagerEnumeratePorts >>= fun r => .ret { data with
      ports := r.ports
      portCount := r.portCount
      status := internalStatus r.sts } := by
  refine congrArg (portManagerEnumeratePorts >>= ·) (funext fun r => ?_)
  by_cases hsts : r.sts ≠ .success
  · rw [internalStatus, if_pos hsts, if_pos hsts]
    rfl
  · rw [internalStatus, if_neg hsts, if_neg hsts]
    rfl

lemma getSrmVersion_eq (data : SocketData) :
    HdcpDaemon.getSrmVersion data = Daemon.getSrmVersion >>= fun r => .ret { data with
      srmVersion := r.2
      status := internalStatus r.1 } := by
  refine congrArg (Daemon.getSrmVersion >>= ·) (funext fun r => ?_)
  by_cases hsts : r.1 ≠ .success
  · rw [internalStatus, if_pos hsts]
    exact if_pos hsts
  · rw [internalStatus, if_neg hsts]
    exact if_neg hsts

lemma config_eq (data : SocketData) :
    HdcpDaemon.config data = srmConfig data.config.disableSrmStorage >>= fun sts =>
      .ret { data with status := internalStatus sts } := by
  refine congrArg (srmConfig data.config.disableSrmStorage >>= ·) (funext fun sts => ?_)
  by_cases hsts : sts ≠ .success
  · rw [internalStatus, if_pos hsts, if_pos hsts]
    rfl
  · rw [internalStatus, if_neg hsts, if_neg hsts]
    rfl

/-- What is done when a function fails, and when it does not. -/
lemma transparent_status {sts : Errno} {p p' : SessionProg α} {q q' : DaemonProg α}
    (h : internalStatus sts = HdcpStatus.errorInternal → (service m x).Transparent p q)
    (h' : (service m x).Transparent p' q') :
    (service m x).Transparent (if internalStatus sts ≠ HdcpStatus.successful then p else p')
      (if sts ≠ .success then q else q') := by
  by_cases hsts : sts ≠ .success
  · have herror : internalStatus sts = HdcpStatus.errorInternal := if_pos hsts
    rw [if_pos hsts, if_pos (by rw [herror]; decide)]
    exact h herror
  · have hsuccess : internalStatus sts = HdcpStatus.successful := if_neg hsts
    rw [if_neg hsts, if_neg (by rw [hsuccess]; decide)]
    exact h'

/-- A request for which the daemon runs `q`: its response is `g b` for the value `b` of `q`. -/
lemma transparent_exchange {γ : Type} {q : DaemonProg γ} {g : γ → SocketData}
    {k : HdcpStatus × SocketData → SessionProg α} {k' : γ → DaemonProg α}
    (hp : p = q >>= fun b => .ret (g b)) (huses : p.Uses Internal)
    (hsize : m.sizeofSocketData = req.size)
    (hdispatch : m.dispatchCommand req x = p >>= fun rsp => .ret (rsp, true))
    (hk : ∀ b, (service m x).Transparent (k ((g b).status, g b)) (k' b)) :
    (service m x).Transparent (lockedTransaction m.layout x req >>= k) (q >>= k') := by
  have hlocked := transparent_lockedTransaction hsize hdispatch huses
  rw [hp, Prog.bind_assoc] at hlocked
  exact Service.Transparent.bind_map (f := fun b => ((g b).status, g b)) hlocked hk

lemma transparent_getSrmVersion (version : Bool) :
    (service m x).Transparent (hdcpGetSrmVersion m.layout handle version)
      (Direct.getSrmVersion version) := by
  refine Service.Transparent.ite (fun _ => Service.transparent_ret _) fun hversion => ?_
  refine transparent_withInstance ?_
  rw [Session.getSrmVersion, if_neg hversion]
  refine transparent_exchange (getSrmVersion_eq _) internal_getSrmVersion rfl rfl fun r => ?_
  refine transparent_status (fun herror => ?_) (Service.transparent_ret _)
  rw [herror]
  exact Service.transparent_ret _

lemma transparent_config (c : HdcpConfig) :
    (service m x).Transparent (hdcpConfig m.layout handle c) (Direct.config c) := by
  by_cases hinvalid : c.type = invalidConfig
  · have hother : c.type ≠ srmStorageConfig := by
      rw [hinvalid]
      decide
    rw [hdcpConfig, if_pos hinvalid, Direct.config, if_pos hother]
    exact Service.transparent_ret _
  rw [hdcpConfig, if_neg hinvalid]
  refine transparent_withInstance ?_
  refine Service.Transparent.ite (fun _ => Service.transparent_ret _) fun _ => ?_
  refine transparent_exchange (config_eq _) internal_config rfl rfl fun sts => ?_
  refine transparent_status (fun herror => ?_) (Service.transparent_ret _)
  rw [herror]
  exact Service.transparent_ret _

lemma transparent_enumerateDisplay (portList : Bool) :
    (service m x).Transparent (hdcpEnumerateDisplay m.layout handle portList)
      (Direct.enumerateDisplay portList) := by
  refine Service.Transparent.ite (fun _ => Service.transparent_ret _) fun _ => ?_
  -- what the session makes of the response
  let listed (r : Enumeration) : HdcpStatus × Option PortList :=
    if r.sts ≠ .success ∨ r.portCount.toNat > numPhysicalPortsMax then
      (HdcpStatus.errorInternal, some PortList.empty)
    else (HdcpStatus.successful, some ⟨fun i =>
      if i.val < r.portCount.toNat then ((r.ports i).id, (r.ports i).status) else (0, 0),
      r.portCount⟩)
  have hsession : (service m x).Transparent
      (Session.enumerateDisplay m.layout x (some PortList.empty))
      (portManagerEnumeratePorts >>= fun r => .ret (listed r)) := by
    refine transparent_exchange (enumeratePorts_eq _) internal_enumeratePorts rfl rfl fun r => ?_
    by_cases hsts : r.sts ≠ .success
    · have herror : internalStatus r.sts = HdcpStatus.errorInternal := if_pos hsts
      simp only [herror, listed, if_pos (Or.inl hsts)]
      exact Service.transparent_ret _
    · have hsuccess : internalStatus r.sts = HdcpStatus.successful := if_neg hsts
      by_cases hcount : r.portCount.toNat > numPhysicalPortsMax
      · rw [show listed r = _ from if_pos (.inr hcount)]
        simp only [hsuccess, if_pos hcount, ne_eq, not_true, if_false]
        exact Service.transparent_ret _
      · rw [show listed r = _ from if_neg (not_or.2 ⟨hsts, hcount⟩)]
        simp only [hsuccess, if_neg hcount, ne_eq, not_true, if_false]
        exact Service.transparent_ret _
  refine Service.Transparent.bind_map (transparent_withInstance hsession) fun r => ?_
  by_cases hfailed : r.sts ≠ .success ∨ r.portCount.toNat > numPhysicalPortsMax
  · simp only [listed, if_pos hfailed]
    exact Service.transparent_ret _
  · simp only [listed, if_neg hfailed]
    exact Service.transparent_ret _

lemma portStatus_eq (data : SocketData) (sts : Errno) :
    (if sts ≠ .success then
      (Prog.ret { data with status := HdcpDaemon.failureStatus sts } : DaemonProg SocketData)
    else .ret { data with status := HdcpStatus.successful }) =
      .ret { data with status := Direct.portStatus sts } := by
  by_cases hsts : sts ≠ .success
  · rw [Direct.portStatus, if_pos hsts, if_pos hsts]
  · rw [Direct.portStatus, if_neg hsts, if_neg hsts]

lemma not_portIdMax_lt {portId : UInt32} (hport : portId.toNat ≤ numPhysicalPortsMax) :
    ¬portIdMax < portId := by
  rw [UInt32.lt_iff_toNat_lt]
  exact Nat.not_lt.2 hport

lemma setLevel_eq {portId : UInt32} (level : UInt8) (hport : portId.toNat ≤ numPhysicalPortsMax) :
    HdcpDaemon.setProtectionLevel (levelRequest L portId level) x =
      Direct.setLevel x portId level >>= fun status =>
        .ret { levelRequest L portId level with status := status } := by
  rw [HdcpDaemon.setProtectionLevel, if_neg (fun h => h rfl)]
  refine (if_neg (not_portIdMax_lt hport)).trans ?_
  by_cases hon : level = hdcpLevel1 ∨ level = hdcpLevel2
  · refine (if_pos hon).trans ?_
    rw [Direct.setLevel, if_pos hon]
    exact congrArg (portManagerEnablePort portId x level >>= ·)
      (funext fun sts => portStatus_eq _ sts)
  refine (if_neg hon).trans ?_
  by_cases hoff : level = hdcpLevel0
  · refine (if_pos hoff).trans ?_
    rw [Direct.setLevel, if_neg hon, if_pos hoff]
    exact congrArg (portManagerDisablePort portId x >>= ·)
      (funext fun sts => portStatus_eq _ sts)
  · refine (if_neg hoff).trans ?_
    rw [Direct.setLevel, if_neg hon, if_neg hoff]
    rfl

lemma transparent_setProtectionLevel (portId : UInt32) (level : UInt8) :
    (service m x).Transparent (hdcpSetProtectionLevel m.layout handle portId level)
      (Direct.setProtectionLevel x portId level) := by
  refine Service.Transparent.ite (fun _ => Service.transparent_ret _) fun hport => ?_
  refine transparent_withInstance ?_
  refine transparent_exchange (setLevel_eq level (Nat.le_of_not_lt hport))
    internal_setProtectionLevel rfl rfl fun status => ?_
  refine Service.Transparent.ite (fun _ => ?_) fun _ => Service.transparent_ret _
  -- the call of itself
  exact transparent_exchange (setLevel_eq hdcpLevel0 (Nat.le_of_not_lt hport))
    internal_setProtectionLevel rfl rfl fun _ => Service.transparent_ret _

lemma getStatus_eq {portId : UInt32} (hport : portId.toNat ≤ numPhysicalPortsMax) :
    HdcpDaemon.getStatus (portRequest L HdcpApi.getStatus portId) =
      portManagerGetStatus portId >>= fun r => .ret
        { (portRequest L HdcpApi.getStatus portId).setSinglePort
            { (portRequest L HdcpApi.getStatus portId).singlePort with status := r.2 } with
          status := Direct.portStatus r.1 } := by
  rw [HdcpDaemon.getStatus, if_neg (fun h => h rfl)]
  refine (if_neg (not_portIdMax_lt hport)).trans ?_
  exact congrArg (portManagerGetStatus portId >>= ·) (funext fun r => portStatus_eq _ r.1)

lemma transparent_getStatus (portId : UInt32) (portStatus : Bool) :
    (service m x).Transparent (hdcpGetStatus m.layout handle portId portStatus)
      (Direct.getStatus portId portStatus) := by
  by_cases hpointer : (!portStatus) = true
  · rw [hdcpGetStatus, if_pos hpointer, Direct.getStatus, if_pos (.inl hpointer)]
    exact Service.transparent_ret _
  by_cases hport : portId.toNat > numPhysicalPortsMax
  · rw [hdcpGetStatus, if_neg hpointer, if_pos hport, Direct.getStatus, if_pos (.inr hport)]
    exact Service.transparent_ret _
  rw [hdcpGetStatus, if_neg hpointer, if_neg hport, Direct.getStatus,
    if_neg (not_or.2 ⟨hpointer, hport⟩)]
  refine transparent_withInstance ?_
  rw [Session.getStatus, if_neg hpointer]
  refine transparent_exchange (getStatus_eq (Nat.le_of_not_lt hport)) internal_getStatus rfl rfl
    fun r => ?_
  by_cases hsts : r.1 ≠ .success
  · have hfailed : HdcpDaemon.failureStatus r.1 ≠ HdcpStatus.successful := by
      rw [HdcpDaemon.failureStatus]
      split
      · decide
      · decide
    simp only [Direct.portStatus, if_pos hsts, if_pos hfailed]
    exact Service.transparent_ret _
  · simp only [Direct.portStatus, if_neg hsts, ne_eq, not_true, if_false]
    exact Service.transparent_ret _

/-! ### The KSV list -/

/-- The list that follows a response to `GETKSVLIST`. -/
def ksvLength (rsp : SocketData) : ℕ :=
  if rsp.status ≠ HdcpStatus.successful ∨ rsp.ksvCount > maxKsvCount ∨ rsp.ksvCount = 0 then 0
  else rsp.ksvCount.toNat * ksvSize

/-- What `GetKsvList` returns for a response and the list. -/
def ksvAnswer (rsp : SocketData) (ksvs : List UInt8) : HdcpStatus × KsvResult :=
  if rsp.status ≠ HdcpStatus.successful then (rsp.status, ⟨none, none⟩)
  else if rsp.ksvCount > maxKsvCount ∨ rsp.ksvCount = 0 then
    (HdcpStatus.errorMsgTransaction, ⟨some (rsp.ksvCount, rsp.depth), none⟩)
  else (HdcpStatus.successful, ⟨some (rsp.ksvCount, rsp.depth), some ksvs⟩)

/-- What the session makes of what it hears. -/
def KsvHeard (L : Layout) (a : HdcpStatus × KsvResult) (heard : List UInt8) : Prop :=
  ∃ first ksvs, heard = first ++ ksvs ∧ first.length = L.size ∧
    ksvs.length = ksvLength (L.decode first) ∧ a = ksvAnswer (L.decode first) ksvs

/-- What the daemon says. -/
def KsvSaid (L : Layout) (a : HdcpStatus × KsvResult) (said : List UInt8) : Prop :=
  ∃ rsp ksvs, said = L.encode rsp ++ ksvs ∧ ksvs.length = ksvLength rsp ∧ a = ksvAnswer rsp ksvs

lemma eq_of_ksvHeard {a b : HdcpStatus × KsvResult} {heard said y z : List UInt8}
    (hheard : KsvHeard L a heard) (hsaid : KsvSaid L b said) (h : heard ++ y <+: said ++ z) :
    heard = said ∧ a = b := by
  obtain ⟨first, ksvs, rfl, hfirst, hksvs, rfl⟩ := hheard
  obtain ⟨rsp, ksvs', rfl, hksvs', rfl⟩ := hsaid
  rw [List.append_assoc, List.append_assoc] at h
  obtain ⟨rfl, hrest⟩ := prefix_append_of_length h (by rw [hfirst, L.length_encode])
  rw [L.decode_encode] at hksvs ⊢
  obtain ⟨rfl, -⟩ := prefix_append_of_length hrest (hksvs.trans hksvs'.symm)
  exact ⟨rfl, rfl⟩

lemma does_getKsvList {portId : UInt32} {p : KsvPointers} (hall : ¬(!p.all) = true)
    (hport : ¬portId.toNat > numPhysicalPortsMax) :
    (application x).Does (fun a heard said _ => KsvHeard L a heard ∧
      said = L.encode (portRequest L HdcpApi.getKsvList portId))
      (Session.getKsvList L x portId p) := by
  rw [Session.getKsvList, if_neg hall, if_neg hport]
  refine does_socketBegin.bind ?_
  rintro - heard said inner ⟨rfl, rfl⟩
  refine (does_performMessageTransaction _).bind ?_
  rintro - first said inner ⟨rfl, hfirst, rfl⟩
  -- the mutex is given back, and nothing more is heard
  have hrelease (a : HdcpStatus × KsvResult) :
      (application x).Does (fun b heard said _ => b = a ∧ heard = [] ∧ said = [])
        (do socketEnd x; return a) := by
    refine does_socketEnd.bind ?_
    rintro - heard said inner ⟨rfl, rfl⟩
    exact Party.does_ret ⟨rfl, rfl, rfl⟩
  refine Party.Does.ite (fun hfailed => ?_) fun hsuccess => ?_
  · refine (hrelease _).mono ?_
    rintro - heard said inner ⟨rfl, rfl, rfl⟩
    refine ⟨⟨first, [], rfl, hfirst, ?_, ?_⟩, List.append_nil _⟩
    · rw [ksvLength, if_pos (.inl hfailed)]
      rfl
    · rw [ksvAnswer, if_pos hfailed]
  by_cases hcount : (L.decode first).ksvCount > maxKsvCount ∨ (L.decode first).ksvCount = 0
  · simp only [receiveKsvList, if_pos hcount]
    refine (hrelease _).mono ?_
    rintro - heard said inner ⟨rfl, rfl, rfl⟩
    refine ⟨⟨first, [], rfl, hfirst, ?_, ?_⟩, List.append_nil _⟩
    · rw [ksvLength, if_pos (.inr hcount)]
      rfl
    · rw [ksvAnswer, if_neg hsuccess, if_pos hcount]
  · simp only [receiveKsvList, if_neg hcount]
    refine (does_readData application_read _).bind ?_
    rintro - ksvs said inner ⟨rfl, hksvs, rfl, rfl⟩
    refine (hrelease _).mono ?_
    rintro - heard said inner ⟨rfl, rfl, rfl⟩
    refine ⟨⟨first, ksvs, by simp, hfirst, ?_, ?_⟩, by simp⟩
    · rw [ksvLength, if_neg (not_or.2 ⟨hsuccess, hcount⟩), hksvs]
    · rw [ksvAnswer, if_neg hsuccess, if_neg hcount]

/-- What `GetKsvList` of the daemon has said so far, and what will be returned. -/
def KsvServed (L : Layout) (a : HdcpStatus × KsvResult) (rsp : SocketData)
    (heard said : List UInt8) : Prop :=
  heard = [] ∧ (rsp.status ≠ HdcpStatus.successful ∧ said = [] ∧ a = (rsp.status, ⟨none, none⟩) ∨
    rsp.status = HdcpStatus.successful ∧ KsvSaid L a said)

/-- The list is sent after the response. -/
lemma does_sendKsvListData {ksvList : Mem} {count : UInt8} (hcount : ¬count > maxKsvCount) :
    (daemon x).Does (fun r heard said inner => r = .success ∧ heard = [] ∧
      said = slice ksvList 0 (count.toNat * ksvSize) ∧ inner = [])
      (HdcpDaemon.sendKsvListData (slice ksvList 0 (count.toNat * ksvSize)) x) := by
  have hle : count.toNat ≤ maxKsvCount.toNat := Nat.not_lt.1 fun h => hcount h
  refine Party.Does.ite (fun hlong => absurd hlong ?_) fun _ => does_writeData daemon_send _
  rw [length_slice, Nat.mul_comm, Nat.not_lt]
  exact Nat.mul_le_mul_left ksvSize hle

lemma mirrors_getKsvList {portId : UInt32} {p : KsvPointers} (hall : ¬(!p.all) = true)
    (hport : ¬portId.toNat > numPhysicalPortsMax) :
    (daemon x).Mirrors (KsvServed m.layout) (Direct.getKsvList portId p)
      (m.getKsvList (portRequest m.layout HdcpApi.getKsvList portId) x) := by
  rw [Direct.getKsvList, if_neg (not_or.2 ⟨hall, hport⟩), HdcpDaemon.getKsvList,
    if_neg (fun h => h rfl)]
  have hid : ¬(portRequest m.layout HdcpApi.getKsvList portId).singlePort.id > portIdMax :=
    not_portIdMax_lt (Nat.le_of_not_lt hport)
  rw [if_neg hid]
  have hrefused {rsp : SocketData} (h : rsp.status ≠ HdcpStatus.successful) :
      (daemon x).Mirrors (KsvServed m.layout) (.ret (rsp.status, ⟨none, none⟩)) (.ret rsp) :=
    Party.mirrors_ret (Party.does_ret ⟨⟨rfl, .inl ⟨h, rfl, rfl⟩⟩, rfl⟩)
  refine Party.Mirrors.op (internal_of (o := .new _) trivial) fun r => ?_
  refine Party.Mirrors.ite (fun _ => hrefused (of_decide_eq_true rfl)) fun _ => ?_
  refine Party.Mirrors.op (internal_of (o := .portManagerGetKsvList _) trivial) fun r => ?_
  refine Party.Mirrors.ite (fun _ => hrefused (of_decide_eq_true rfl)) fun _ => ?_
  refine Party.Mirrors.ite (fun _ => hrefused (of_decide_eq_true rfl)) fun hcount => ?_
  refine Party.Mirrors.ite (fun _ => hrefused (of_decide_eq_true rfl)) fun _ => ?_
  -- the response, and then the list
  have hboth {a : HdcpStatus × KsvResult} {rsp : SocketData}
      (hcount : ¬rsp.ksvCount > maxKsvCount) (hstatus : rsp.status = HdcpStatus.successful)
      (ha : KsvSaid m.layout a (m.layout.encode rsp ++
        slice r.ksvList 0 (rsp.ksvCount.toNat * ksvSize))) :
      (daemon x).Mirrors (KsvServed m.layout) (.ret a) (do
        let sts ← m.sendResponse rsp x
        if sts ≠ .success then
          return { rsp with status := HdcpStatus.errorInternal }
        let sts ← HdcpDaemon.sendKsvListData
          (slice r.ksvList 0 (rsp.ksvCount.toNat * ksvSize)) x
        if sts ≠ .success then
          return { rsp with status := HdcpStatus.errorInternal }
        return rsp) := by
    refine Party.mirrors_ret ?_
    refine (does_writeData daemon_send _).bind ?_
    rintro - heard said inner ⟨rfl, rfl, rfl, rfl⟩
    refine Party.Does.ite (fun h => absurd rfl h) fun _ => ?_
    refine (does_sendKsvListData hcount).bind ?_
    rintro - heard said inner ⟨rfl, rfl, rfl, rfl⟩
    refine Party.Does.ite (fun h => absurd rfl h) fun _ => Party.does_ret ?_
    exact ⟨⟨rfl, .inr ⟨hstatus, by simpa using ha⟩⟩, rfl⟩
  by_cases hzero : r.ksvCount = 0
  · rw [if_pos hzero]
    refine hboth hcount rfl ⟨_, _, rfl, ?_, ?_⟩
    · simp [ksvLength, hzero]
    · simp [ksvAnswer, hzero]
  · rw [if_neg hzero]
    refine hboth hcount rfl ⟨_, _, rfl, ?_, ?_⟩
    · simp [ksvLength, hzero, hcount]
    · simp [ksvAnswer, hzero, hcount]

/-- A failure is reported at the end. -/
lemma mirrors_ksvList {portId : UInt32} {p : KsvPointers} (hall : ¬(!p.all) = true)
    (hport : ¬portId.toNat > numPhysicalPortsMax) :
    (daemon x).Mirrors (fun a _ heard said => heard = [] ∧ KsvSaid m.layout a said)
      (Direct.getKsvList portId p)
      (m.answerTask ⟨x, portRequest m.layout HdcpApi.getKsvList portId⟩) := by
  have hanswer : m.answerTask ⟨x, portRequest m.layout HdcpApi.getKsvList portId⟩ =
      m.getKsvList (portRequest m.layout HdcpApi.getKsvList portId) x >>= fun rsp =>
        if decide (rsp.status ≠ HdcpStatus.successful) = true then m.respond rsp x
        else .ret () := by
    refine (if_neg (fun h => h rfl)).trans ?_
    exact Prog.bind_assoc _ _ _
  rw [hanswer]
  refine (mirrors_getKsvList hall hport).bind ?_
  rintro a rsp heard said ⟨rfl, ⟨hstatus, rfl, rfl⟩ | ⟨hstatus, hsaid⟩⟩
  · rw [if_pos (decide_eq_true hstatus)]
    refine (does_respond rsp).mono ?_
    rintro - heard said inner ⟨rfl, rfl, rfl⟩
    refine ⟨⟨rfl, rsp, [], (List.append_nil _).symm, ?_, ?_⟩, rfl⟩
    · rw [ksvLength, if_pos (.inl hstatus)]
      rfl
    · rw [ksvAnswer, if_pos hstatus]
  · rw [if_neg (by simp [hstatus])]
    refine Party.does_ret ⟨⟨rfl, ?_⟩, rfl⟩
    rwa [List.append_nil]

lemma transparent_getKsvList (portId : UInt32) (p : KsvPointers) :
    (service m x).Transparent (hdcpGetKsvList m.layout handle portId p)
      (Direct.getKsvList portId p) := by
  by_cases hall : (!p.all) = true
  · rw [hdcpGetKsvList, if_pos hall, Direct.getKsvList, if_pos (.inl hall)]
    exact Service.transparent_ret _
  by_cases hport : portId.toNat > numPhysicalPortsMax
  · rw [hdcpGetKsvList, if_neg hall, if_pos hport, Direct.getKsvList, if_pos (.inr hport)]
    exact Service.transparent_ret _
  rw [hdcpGetKsvList, if_neg hall, if_neg hport]
  refine transparent_withInstance ?_
  refine Service.transparent_of_round
    (u := m.layout.encode (portRequest m.layout HdcpApi.getKsvList portId))
    (C := fun a heard more => more = [] ∧ KsvHeard m.layout a heard)
    (D := fun more said inner => more = [] ∧
      ∃ a, (Direct.getKsvList portId p).Runs inner a ∧ KsvSaid m.layout a said) ?_ ?_ ?_
  · refine (does_getKsvList hall hport).mono ?_
    rintro a heard said inner ⟨hheard, rfl⟩
    refine ⟨?_, [], (List.append_nil _).symm, rfl, hheard⟩
    rintro rfl
    obtain ⟨first, ksvs, hnil, hfirst, -⟩ := hheard
    rw [(List.append_eq_nil_iff.1 hnil.symm).1] at hfirst
    exact absurd hfirst (layout_size_pos _).ne
  · intro r hr
    obtain ⟨bytes, log', hheard, hlength, hsaid, hinner, hrun, hworks⟩ := hr.spec
    refine ⟨bytes, _, hheard, by rw [hlength, m.layout.length_encode], ?_⟩
    rintro rfl
    rw [m.layout.decode_encode] at hrun
    obtain ⟨a, ha, hnil, hksvs⟩ := mirrors_ksvList hall hport hrun hworks
    exact ⟨hnil, a, by rwa [← hinner] at ha, by rwa [← hsaid] at hksvs⟩
  · rintro a heard said heard' said' inner ⟨rfl, hheard⟩ ⟨rfl, b, hb, hsaid⟩ _ _ _ _ hto -
    obtain ⟨rfl, rfl⟩ := eq_of_ksvHeard hheard hsaid hto
    exact ⟨rfl, rfl, hb⟩

/-! ### The SRM -/

/-- What the session makes of what it hears, and says after the request: the SRM follows a
response that reports success, and another response follows the SRM. -/
structure SrmHeard (L : Layout) (srm : List UInt8) (a : HdcpStatus)
    (first rest said : List UInt8) : Prop where
  length : first.length = L.size
  refused : (L.decode first).status ≠ HdcpStatus.successful →
    rest = [] ∧ said = [] ∧ a = (L.decode first).status
  accepted : (L.decode first).status = HdcpStatus.successful → srm.length ≤ srmFirstGenMaxSize →
    rest.length = L.size ∧ said = srm ∧ a = (L.decode rest).status

/-- What the daemon hears and says after the request; `srm` is what it should hear. -/
inductive SrmServed (L : Layout) (srmSize : UInt32) (srmData : Mem) :
    List UInt8 → List UInt8 → List (Event daemonSig) → Prop where
  | refused {first : SocketData} {inner : List (Event daemonSig)}
      (hstatus : first.status ≠ HdcpStatus.successful)
      (h : (Direct.sendSrmData srmSize (some srmData)).Runs inner first.status) :
      SrmServed L srmSize srmData [] (L.encode first) inner
  | accepted {first last : SocketData} {heard : List UInt8} {inner : List (Event daemonSig)}
      (hstatus : first.status = HdcpStatus.successful)
      (hsize : srmSize.toNat ≤ srmFirstGenMaxSize) (hheard : heard.length = srmSize.toNat)
      (h : heard = slice srmData 0 srmSize.toNat →
        (Direct.sendSrmData srmSize (some srmData)).Runs inner last.status) :
      SrmServed L srmSize srmData heard (L.encode first ++ L.encode last) inner

lemma does_sendSrmBytes {srmSize : UInt32} (hsize : srmSize.toNat ≤ srmFirstGenMaxSize)
    (srmData : Mem) :
    (application x).Does (fun r heard said inner => r = .success ∧ heard = [] ∧
      said = slice srmData 0 srmSize.toNat ∧ inner = []) (sendSrmBytes x srmData srmSize) := by
  have hgen : srmFirstGenMaxSize = 5116 := rfl
  have hmax : maxSrmDataSz = 6144 := rfl
  -- the size does not become negative as an `int32_t`
  have hint : srmSize.toInt32.toInt = srmSize.toNat :=
    BitVec.toInt_eq_toNat_of_lt (x := srmSize.toBitVec) (by
      rw [UInt32.toNat_toBitVec]
      omega)
  refine Party.Does.ite (fun hlarge => ?_) fun _ => ?_
  · rw [hint, hmax] at hlarge
    omega
  · rw [hint, Int.toNat_natCast]
    exact does_writeData application_send _

lemma does_sendSrmData (srmSize : UInt32) (srmData : Mem) :
    (application x).Does (fun a heard said _ => ∃ first rest more, heard = first ++ rest ∧
      said = L.encode (srmRequest L srmSize) ++ more ∧
      SrmHeard L (slice srmData 0 srmSize.toNat) a first rest more)
      (Session.sendSrmData L x srmSize (some srmData)) := by
  refine does_socketBegin.bind ?_
  rintro - heard said inner ⟨rfl, rfl⟩
  refine (does_performMessageTransaction _).bind ?_
  rintro - first said inner ⟨rfl, hfirst, rfl⟩
  refine Party.Does.ite (fun hfailed => ?_) fun hsuccess => ?_
  · refine does_socketEnd.bind ?_
    rintro - heard said inner ⟨rfl, rfl⟩
    refine Party.does_ret ⟨first, [], [], by simp, by simp, hfirst, fun _ => ⟨rfl, rfl, rfl⟩, ?_⟩
    exact fun hsuccess => absurd hsuccess hfailed
  have hstatus : (L.decode first).status = HdcpStatus.successful := not_not.1 hsuccess
  by_cases hsize : srmSize.toNat ≤ srmFirstGenMaxSize
  · refine (does_sendSrmBytes hsize srmData).bind ?_
    rintro - heard said inner ⟨rfl, rfl, rfl, rfl⟩
    refine Party.Does.ite (fun h => absurd rfl h) fun _ => ?_
    refine does_getMessage.bind ?_
    rintro - last said inner ⟨rfl, hlast, rfl⟩
    refine does_socketEnd.bind ?_
    rintro - heard said inner ⟨rfl, rfl⟩
    have hheard : SrmHeard L (slice srmData 0 srmSize.toNat) (L.decode last).status first last
        (slice srmData 0 srmSize.toNat) :=
      ⟨hfirst, fun h => absurd hstatus h, fun _ _ => ⟨hlast, rfl, rfl⟩⟩
    refine Party.Does.ite (fun hlast => ?_) fun hlast => ?_
    · exact Party.does_ret ⟨first, last, _, by simp, by simp, hheard⟩
    · rw [not_not.1 hlast] at hheard
      exact Party.does_ret ⟨first, last, _, by simp, by simp, hheard⟩
  · -- the daemon does not accept such a size
    intro log a hrun hworks
    refine ⟨first, _, _, rfl, rfl, hfirst, fun h => absurd hstatus h, ?_⟩
    intro _ hle
    rw [length_slice] at hle
    exact absurd hle hsize

lemma mirrors_store (data : SocketData) (hstatus : data.status = HdcpStatus.successful)
    (srm : List UInt8) :
    (daemon x).Mirrors (fun a rsp heard said => heard = [] ∧ said = [] ∧ a = rsp.status)
      (Direct.store srm) (do
        let sts ← storeSrm srm
        if sts ≠ .success then
          return { data with status := HdcpDaemon.storeFailureStatus sts }
        let sts ← portManagerSendSrmData srm
        if sts ≠ .success then
          return { data with status := HdcpStatus.errorInternal }
        return data) := by
  have hret {a : HdcpStatus} {rsp : SocketData} (h : a = rsp.status) :
      (daemon x).Mirrors (fun a rsp heard said => heard = [] ∧ said = [] ∧ a = rsp.status)
        (.ret a) (.ret rsp) :=
    Party.mirrors_ret (Party.does_ret ⟨⟨rfl, rfl, h⟩, rfl⟩)
  refine Party.Mirrors.op (internal_of (o := .storeSrm srm) trivial) fun (sts : Errno) => ?_
  refine Party.Mirrors.ite (fun _ => hret rfl) fun _ => ?_
  refine Party.Mirrors.op (internal_of (o := .portManagerSendSrmData srm) trivial)
    fun (sts : Errno) => ?_
  exact Party.Mirrors.ite (fun _ => hret rfl) fun _ => hret hstatus.symm

/-- What `SendSRMData` of the daemon has heard and said before its last response. -/
def SrmStored (L : Layout) (srmSize : UInt32) (srmData : Mem) (rsp : SocketData)
    (heard said : List UInt8) (inner : List (Event daemonSig)) : Prop :=
  rsp.status ≠ HdcpStatus.successful ∧ heard = [] ∧ said = [] ∧
      (Direct.sendSrmData srmSize (some srmData)).Runs inner rsp.status ∨
    ∃ first, first.status = HdcpStatus.successful ∧ srmSize.toNat ≤ srmFirstGenMaxSize ∧
      heard.length = srmSize.toNat ∧ said = L.encode first ∧
      (heard = slice srmData 0 srmSize.toNat →
        (Direct.sendSrmData srmSize (some srmData)).Runs inner rsp.status)

lemma does_storeSrmData {srmSize : UInt32} (hmin : ¬srmSize < srmMinLength) (srmData : Mem) :
    (daemon x).Does (SrmStored m.layout srmSize srmData)
      (m.sendSrmData (srmRequest m.layout srmSize) x) := by
  have hdirect : Direct.sendSrmData srmSize (some srmData) =
      if srmSize < srmMinLength ∨ srmSize.toNat > srmFirstGenMaxSize then
        .ret HdcpStatus.errorInvalidParameter
      else new srmSize.toNat >>= fun b =>
        if (!b) = true then .ret HdcpStatus.errorInsufficientMemory
        else Direct.store (slice srmData 0 srmSize.toNat) := rfl
  by_cases hlarge : (srmRequest m.layout srmSize).srmOrKsvListDataSz.toNat > srmFirstGenMaxSize
  · rw [HdcpDaemon.sendSrmData, if_pos hlarge]
    rw [if_pos (.inr hlarge)] at hdirect
    refine Party.does_ret (.inl ⟨of_decide_eq_true rfl, rfl, rfl, ?_⟩)
    rw [hdirect]
    exact .ret _
  rw [HdcpDaemon.sendSrmData, if_neg hlarge]
  have hle : ¬srmSize.toNat > srmFirstGenMaxSize := hlarge
  rw [if_neg (not_or.2 ⟨hmin, hle⟩)] at hdirect
  refine Party.Does.bind (Q := fun b heard said inner =>
    heard = [] ∧ said = [] ∧ inner = [(⟨.new srmSize.toNat, b⟩ : Event daemonSig)])
    (Party.does_op (S := daemonSig) (o := .new srmSize.toNat) fun b _ => ⟨rfl, rfl, rfl⟩) ?_
  rintro b heard said inner ⟨rfl, rfl, rfl⟩
  cases b with
  | false =>
      refine Party.does_ret (.inl ⟨of_decide_eq_true rfl, rfl, rfl, ?_⟩)
      rw [hdirect]
      exact .call (S := daemonSig) (.new srmSize.toNat) _ false (.ret _)
  | true =>
      refine (does_writeData daemon_send _).bind ?_
      rintro - heard said inner ⟨rfl, rfl, rfl, rfl⟩
      refine Party.Does.ite (fun h => absurd rfl h) fun _ => ?_
      have hsize : ¬(srmRequest m.layout srmSize).srmOrKsvListDataSz.toNat > maxSrmDataSz :=
        fun h => hlarge (lt_trans (by decide) h)
      rw [HdcpDaemon.getSrmData, if_neg hsize]
      refine (does_readData daemon_read _).bind ?_
      rintro - srm said inner ⟨rfl, hlength, rfl, rfl⟩
      refine (mirrors_store _ rfl srm).mono ?_
      rintro rsp heard said inner ⟨a, hrun, rfl, rfl, rfl⟩
      refine .inr ⟨{ srmRequest m.layout srmSize with status := HdcpStatus.successful }, rfl,
        Nat.le_of_not_lt hle, ?_, by simp, ?_⟩
      · have hlength : srm.length = srmSize.toNat := hlength
        simpa using hlength
      · intro hsrm
        rw [hdirect]
        simp only [List.nil_append, List.append_nil] at hsrm ⊢
        rw [← hsrm]
        exact .call (S := daemonSig) (.new srmSize.toNat) _ true hrun

lemma does_answerSrm {srmSize : UInt32} (hmin : ¬srmSize < srmMinLength) (srmData : Mem) :
    (daemon x).Does (fun _ => SrmServed m.layout srmSize srmData)
      (m.answerTask ⟨x, srmRequest m.layout srmSize⟩) := by
  have hanswer : m.answerTask ⟨x, srmRequest m.layout srmSize⟩ =
      m.sendSrmData (srmRequest m.layout srmSize) x >>= fun rsp => m.respond rsp x := by
    refine (if_neg (fun h => h rfl)).trans ?_
    exact Prog.bind_assoc _ _ _
  rw [hanswer]
  refine (does_storeSrmData hmin srmData).bind ?_
  rintro rsp heard said inner hstored
  refine (does_respond rsp).mono ?_
  rintro - heard' said' inner' ⟨rfl, rfl, rfl⟩
  rw [List.append_nil, List.append_nil]
  rcases hstored with ⟨hstatus, rfl, rfl, hrun⟩ | ⟨first, hstatus, hsize, hlength, rfl, hrun⟩
  · exact .refused hstatus hrun
  · exact .accepted hstatus hsize hlength hrun

lemma transparent_sendSrmData (srmSize : UInt32) (srmData : Option Mem) :
    (service m x).Transparent (hdcpSendSrmData m.layout handle srmSize srmData)
      (Direct.sendSrmData srmSize srmData) := by
  cases srmData with
  | none => exact Service.transparent_ret _
  | some srmData =>
      by_cases hmin : srmSize < srmMinLength
      · have hdirect : Direct.sendSrmData srmSize (some srmData) =
            .ret HdcpStatus.errorInvalidParameter := if_pos (.inl hmin)
        rw [hdirect, hdcpSendSrmData, if_neg (by simp), if_pos hmin]
        exact Service.transparent_ret _
      rw [hdcpSendSrmData, if_neg (by simp), if_neg hmin]
      refine transparent_withInstance ?_
      refine Service.transparent_of_round
        (u := m.layout.encode (srmRequest m.layout srmSize))
        (C := fun a heard more => ∃ first rest, heard = first ++ rest ∧
          SrmHeard m.layout (slice srmData 0 srmSize.toNat) a first rest more)
        (D := SrmServed m.layout srmSize srmData) ?_ ?_ ?_
      · refine (does_sendSrmData srmSize srmData).mono ?_
        rintro a heard said inner ⟨first, rest, more, rfl, rfl, hheard⟩
        refine ⟨?_, more, rfl, first, rest, rfl, hheard⟩
        intro hnil
        have hlength := hheard.length
        rw [(List.append_eq_nil_iff.1 hnil).1] at hlength
        exact absurd hlength (layout_size_pos _).ne
      · intro r hr
        obtain ⟨bytes, log', hheard, hlength, hsaid, hinner, hrun, hworks⟩ := hr.spec
        refine ⟨bytes, _, hheard, by rw [hlength, m.layout.length_encode], ?_⟩
        rintro rfl
        rw [m.layout.decode_encode] at hrun
        have hserved := does_answerSrm hmin srmData hrun hworks
        rwa [← hinner, ← hsaid] at hserved
      · rintro a heard said heard' said' inner ⟨first, rest, rfl, hheard⟩ hserved y z v w hto hup
        rw [List.append_assoc] at hto
        cases hserved with
        | @refused rsp _ hstatus hrun =>
            obtain ⟨rfl, -⟩ := prefix_append_of_length hto
              (by rw [hheard.length, m.layout.length_encode])
            have hrefused := hheard.refused
            rw [m.layout.decode_encode] at hrefused
            obtain ⟨rfl, rfl, rfl⟩ := hrefused hstatus
            exact ⟨List.append_nil _, rfl, hrun⟩
        | @accepted rsp last _ _ hstatus hsize hlength hrun =>
            rw [List.append_assoc] at hto
            obtain ⟨rfl, hrest'⟩ := prefix_append_of_length hto
              (by rw [hheard.length, m.layout.length_encode])
            have haccepted := hheard.accepted
            rw [m.layout.decode_encode] at haccepted
            obtain ⟨hrest, rfl, rfl⟩ := haccepted hstatus (by rwa [length_slice])
            obtain ⟨rfl, -⟩ := prefix_append_of_length hrest'
              (by rw [hrest, m.layout.length_encode])
            obtain ⟨rfl, -⟩ := prefix_append_of_length hup (by rw [hlength, length_slice])
            rw [m.layout.decode_encode]
            exact ⟨rfl, rfl, hrun rfl⟩

/-! ### Applications -/

lemma transparent_call (c : Request) :
    (service m x).Transparent (call m.layout handle c) (direct x c) := by
  cases c with
  | enumerateDisplay portList => exact transparent_enumerateDisplay portList
  | setProtectionLevel portId level => exact transparent_setProtectionLevel portId level
  | getStatus portId portStatus => exact transparent_getStatus portId portStatus
  | getKsvList portId p => exact transparent_getKsvList portId p
  | sendSrmData srmSize srmData => exact transparent_sendSrmData srmSize srmData
  | getSrmVersion version => exact transparent_getSrmVersion version
  | config c => exact transparent_config c

/-- The daemon hears the client at `x` in a round. -/
def hears (x : ℕ) (round : List (Event daemonSig)) : Bool :=
  !((daemon x).heardIn round).isEmpty

lemma hears_eq_true {x : ℕ} {round : List (Event daemonSig)} :
    hears x round = true ↔ (daemon x).heardIn round ≠ [] := by
  simp [hears]

/-- The client at `x` is not answered in a round in which it is not heard. -/
lemma said_eq_nil {polls : ℕ} {log : List (Event daemonSig)}
    (hrun : (m.messageResponse polls).Runs log ()) (hworks : ∀ e ∈ log, (daemon x).works e)
    (hheard : (daemon x).heardIn log = []) : (daemon x).saidIn log = [] := by
  obtain ⟨r, l, l', hget, hrest, rfl⟩ := Prog.runs_bind.1 hrun
  obtain ⟨hl, hl'⟩ := List.forall_mem_append.1 hworks
  have hsearched := does_getTask polls hget hl
  rw [Party.heardIn_append, List.append_eq_nil_iff] at hheard
  rw [Party.saidIn_append, List.append_eq_nil_iff]
  match r with
  | none | some (.error e) =>
      obtain ⟨rfl, -⟩ := Prog.runs_ret.1 hrest
      exact ⟨hsearched.2.1, rfl⟩
  | some (.ok task) =>
      obtain ⟨hsaid, -, -, hown⟩ := hsearched
      have hfd : task.appId ∉ ({x} : Finset ℕ) := by
        intro hmem
        have hlength := (hown (Finset.mem_singleton.1 hmem)).2
        rw [hheard.1] at hlength
        exact absurd hlength (layout_size_pos _).ne
      exact ⟨hsaid, (apart_of_away (Transaction.away_answerTask hfd) hrest hl').2⟩

/-- The rounds in which the client at `x` is not heard do not matter to it. -/
lemma Wired.filter {log : List (Event sessionSig)} {rounds : List (List (Event daemonSig))}
    (hrounds : ∀ r ∈ rounds, (∃ polls, (m.messageResponse polls).Runs r ()) ∧
      ∀ e ∈ r, (daemon x).works e) (h : (service m x).Wired log rounds) :
    (service m x).Wired log (rounds.filter (hears x)) := by
  have hsame : (daemon x).heardIn (rounds.filter (hears x)).flatten =
        (daemon x).heardIn rounds.flatten ∧
      (daemon x).saidIn (rounds.filter (hears x)).flatten = (daemon x).saidIn rounds.flatten := by
    clear h
    induction rounds with
    | nil => exact ⟨rfl, rfl⟩
    | cons r rounds ih =>
        obtain ⟨⟨⟨polls, hrun⟩, hworks⟩, hrounds⟩ := List.forall_mem_cons.1 hrounds
        obtain ⟨hheard, hsaid⟩ := ih hrounds
        by_cases hr : hears x r = true
        · rw [List.filter_cons_of_pos hr]
          simp only [List.flatten_cons, Party.heardIn_append, Party.saidIn_append, hheard, hsaid,
            and_self]
        · have hnil : (daemon x).heardIn r = [] := not_not.1 (mt hears_eq_true.2 hr)
          rw [List.filter_cons_of_neg hr, hheard, hsaid]
          simp only [List.flatten_cons, Party.heardIn_append, Party.saidIn_append, hnil,
            said_eq_nil hrun hworks hnil, List.nil_append, and_self]
  obtain ⟨hheard, hsaid⟩ := hsame
  exact ⟨hheard ▸ h.toServer, hsaid ▸ h.toClient⟩

/-- An application runs over the SDK, on a session whose socket does not fail, and the daemon
makes any number of rounds for this application and for others.  Then the application runs
over `direct` just so: it returns the same, and in the daemon it makes the calls that the daemon
has made in the rounds in which it heard the application. -/
theorem runs_direct_of_remote {p : Prog apiSig α} {log : List (Event sessionSig)} {a : α}
    {rounds : List (List (Event daemonSig))}
    (happ : (p.subst (call m.layout handle)).Runs log a)
    (hworks : ∀ e ∈ log, (application x).works e)
    (hrounds : ∀ r ∈ rounds, (∃ polls, (m.messageResponse polls).Runs r ()) ∧
      ∀ e ∈ r, (daemon x).works e)
    (hwired : (service m x).Wired log rounds) :
    (p.subst (direct x)).Runs ((daemon x).innerIn (rounds.filter (hears x)).flatten) a := by
  have hsubst : (service m x).Transparent (p.subst (call m.layout handle)) (p.subst (direct x)) :=
    Service.Transparent.subst transparent_call p
  refine hsubst.runs happ hworks ?_ ?_ (Wired.filter hrounds hwired)
  · intro r hr
    obtain ⟨hmem, hhears⟩ := List.mem_filter.1 hr
    obtain ⟨hrun, hr⟩ := hrounds r hmem
    exact ⟨hrun, hr, hears_eq_true.1 hhears⟩
  · intro r hr
    exact hears_eq_true.1 (List.mem_filter.1 hr).2

/-! An application that turns the storage of SRMs off, on the session 4. -/

def storageOff : Request := .config ⟨srmStorageConfig, true⟩

def storageOffRequest : SocketData := configRequest socketDataLayout ⟨srmStorageConfig, true⟩

def storageOffResponse : SocketData :=
  { storageOffRequest with status := HdcpStatus.successful }

/-- What the daemon does. -/
def storageOffCalls : List (Event daemonSig) := [⟨.srmConfig true, Errno.success⟩]

/-- The application calls the entry point. -/
def callStorageOff : Prog apiSig HdcpStatus := Prog.op (S := apiSig) storageOff

def storageOffApp : List (Event sessionSig) :=
  [⟨.getInstance 1, some (4 : ℕ)⟩, ⟨.socketBegin 4, ()⟩,
    ⟨.send 4 (socketDataLayout.encode storageOffRequest), (.ok 100 : Except Errno ℕ)⟩,
    ⟨.read 4 100,
      (.ok (socketDataLayout.encode storageOffResponse) : Except Errno (List UInt8))⟩,
    ⟨.socketEnd 4, ()⟩, ⟨.putInstance 1, ()⟩]

def storageOffRound : List (Event daemonSig) :=
  [⟨.pollForEvent, (.ok fun _ => 1 : Except Errno (ℕ → ℕ))⟩, ⟨.getFdIndex, (0 : ℕ)⟩,
    ⟨.getSlot 0, (⟨some 4, 1⟩ : PollFd)⟩,
    ⟨.read 4 100, (.ok (socketDataLayout.encode storageOffRequest) : Except Errno (List UInt8))⟩,
    ⟨.setFdIndex 0, ()⟩, ⟨.srmConfig true, Errno.success⟩,
    ⟨.send 4 (socketDataLayout.encode storageOffResponse), (.ok 100 : Except Errno ℕ)⟩]

lemma runs_storageOffApp : (callStorageOff.subst (call socketDataLayout 1)).Runs storageOffApp
    HdcpStatus.successful :=
  .call _ _ _ (.call _ _ _ (.call _ _ _ (.call _ _ _ (.call _ _ _ (.call _ _ _ (.ret _))))))

lemma runs_storageOffRound : (usualDaemon.messageResponse 1).Runs storageOffRound () :=
  .call _ _ _ (.call _ _ _ (.call _ _ _ (.call _ _ _ (.call _ _ _ (.call _ _ _
    (.call _ _ _ (.ret _)))))))

lemma works_storageOffApp : ∀ e ∈ storageOffApp, (application 4).works e := by
  simp only [storageOffApp, List.forall_mem_cons]
  exact ⟨rfl, trivial, ⟨rfl, rfl⟩, ⟨rfl, by decide⟩, trivial, trivial, by simp⟩

lemma works_storageOffRound : ∀ e ∈ storageOffRound, (daemon 4).works e := by
  simp only [storageOffRound, List.forall_mem_cons]
  exact ⟨trivial, trivial, trivial, fun _ => ⟨rfl, by decide⟩, trivial, trivial,
    fun _ => ⟨rfl, rfl⟩, by simp⟩

lemma wired_storageOff : (service usualDaemon 4).Wired storageOffApp [storageOffRound] :=
  ⟨⟨[], rfl⟩, ⟨[], rfl⟩⟩

lemma inner_storageOff :
    (daemon 4).innerIn ([storageOffRound].filter (hears 4)).flatten =
      storageOffCalls := rfl

theorem runs_direct_of_remote_storageOff :
    (callStorageOff.subst (direct 4)).Runs storageOffCalls HdcpStatus.successful := by
  have hrounds : ∀ r ∈ [storageOffRound],
      (∃ polls, (usualDaemon.messageResponse polls).Runs r ()) ∧
        ∀ e ∈ r, (daemon 4).works e := by
    intro r hr
    obtain rfl := List.mem_singleton.1 hr
    exact ⟨⟨1, runs_storageOffRound⟩, works_storageOffRound⟩
  have hdirect := runs_direct_of_remote (m := usualDaemon) (x := 4) runs_storageOffApp
    works_storageOffApp hrounds wired_storageOff
  rwa [inner_storageOff] at hdirect

end Hdcp.Remote
