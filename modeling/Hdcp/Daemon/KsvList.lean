/-
The KSV list.

`HdcpDaemon::GetKsvList` gives the port manager a buffer, and looks at the limits of the
topology when the port manager has filled it.  `PortManager::GetKsvList` copies as many
entries as it reports, one more than the device count of the receiver, after the KSV of the
receiver, and reports numbers that fit into a byte.

`ksvList_exact`: what a retrieval does is in bounds, and exact, whatever the environment
answers, exactly when the information that the kernel has about the receiver fits.
-/
import Hdcp.Daemon.Steps
import Hdcp.Port.Steps

namespace Hdcp.Ksv

open Library Socket Daemon
open Library.Prog (op runs_bind runs_call runs_ite runs_op runs_ret)
open Hdcp.Port (DrmObject PortManager uint32Max)

/-! ### The port manager -/

/-- What `GetKsvList` reads of a `DownstreamInfo`.  The arrays are followed by what memory
holds behind them. -/
structure DownstreamInfo where
  bksv : Mem
  depth : UInt8
  deviceCount : UInt32
  ksvList : Mem

/-- The interactions of the retrieval: the calls of the kernel, and the ranges of bytes that
`memmove` reads and writes. -/
inductive KsvOp where
  | drmModeObjectGetProperties (drmId : ℕ)
  | drmModeGetPropertyBlob (blobId : ℕ)
  | readBksv (off size : ℕ)
  | readKsvList (off size : ℕ)
  | write (off size : ℕ)

/-- The answers: a blob is read as a `DownstreamInfo`. -/
def KsvOp.Ans : KsvOp → Type
  | drmModeObjectGetProperties _ => Option (List (ℕ × ℕ))
  | drmModeGetPropertyBlob _ => Option DownstreamInfo
  | _ => Unit

abbrev ksvSig : Sig := ⟨KsvOp, KsvOp.Ans⟩

abbrev KsvProg (α : Type) : Type := Prog ksvSig α

def drmModeObjectGetProperties (drmId : ℕ) : KsvProg (Option (List (ℕ × ℕ))) :=
  op (S := ksvSig) (.drmModeObjectGetProperties drmId)

def drmModeGetPropertyBlob (blobId : ℕ) : KsvProg (Option DownstreamInfo) :=
  op (S := ksvSig) (.drmModeGetPropertyBlob blobId)

def readBksv (off size : ℕ) : KsvProg Unit := op (S := ksvSig) (.readBksv off size)

def readKsvList (off size : ℕ) : KsvProg Unit := op (S := ksvSig) (.readKsvList off size)

def write (off size : ℕ) : KsvProg Unit := op (S := ksvSig) (.write off size)

/-- The loop of `GetDownstreamInfo` over the properties of the object: the last one with the
id counts. -/
def findBlobId (drmObject : DrmObject) : List (ℕ × ℕ) → (blobId : ℕ) → ℕ
  | [], blobId => blobId
  | (prop, value) :: properties, blobId =>
    if prop ≠ drmObject.getPropertyId .cpDownstreamInfo then
      findBlobId drmObject properties blobId
    else
      findBlobId drmObject properties (u32 value)

/-- `GetDownstreamInfo`; the id that it begins with is -1. -/
def getDownstreamInfo : Option DrmObject → KsvProg (Except Errno DownstreamInfo)
  | none => return .error .einval
  | some drmObject => do
    match ← drmModeObjectGetProperties drmObject.drmId with
    | none => return .error .ebusy
    | some properties =>
      match ← drmModeGetPropertyBlob (findBlobId drmObject properties uint32Max) with
      | none => return .error .ebusy
      | some dsInfo => return .ok dsInfo

/-- `PortManager::GetKsvList`, with what its output parameters hold before. -/
def getKsvList (m : PortManager) (portId : UInt32) (ksvCount depth : UInt8) (ksvList : Mem) :
    KsvProg KsvListAnswer := do
  match ← getDownstreamInfo (m.getDrmObjectByPortId portId.toNat) with
  | .error _ => return ⟨.ebusy, ksvCount, depth, ksvList⟩
  | .ok dsInfo =>
    let depth := dsInfo.depth + 1
    let ksvCount := (dsInfo.deviceCount + 1).toUInt8
    readBksv 0 ksvSize
    write 0 ksvSize
    let ksvList := copyInto ksvList 0 dsInfo.bksv ksvSize
    readKsvList 0 (ksvCount.toNat * ksvSize)
    write ksvSize (ksvCount.toNat * ksvSize)
    let ksvList := copyInto ksvList ksvSize dsInfo.ksvList (ksvCount.toNat * ksvSize)
    return ⟨.success, ksvCount, depth, ksvList⟩

/-! ### Retrievals -/

abbrev KsvLog : Type := List (Event ksvSig)

abbrev DaemonLog : Type := List (Event daemonSig)

/-- The size of the buffer that the daemon allocates, and of the list of a
`DownstreamInfo`. -/
abbrev ksvListSize : ℕ := maxKsvCount.toNat * ksvSize

/-- The accesses to memory are within the arrays. -/
def InBounds : KsvOp → Prop
  | .readBksv off size => off + size ≤ ksvSize
  | .readKsvList off size | .write off size => off + size ≤ ksvListSize
  | _ => True

/-- What `send` promises; when it fails, it sets `errno`. -/
def Possible : Event daemonSig → Prop
  | ⟨.send _ data, r⟩ => sendAnswer data.length r ∧ r ≠ .error .success
  | _ => True

/-- What the log sends to a client. -/
def sent (fd : ℕ) (log : DaemonLog) : List UInt8 :=
  log.flatMap fun
    | ⟨.send fd' data, r⟩ => if fd' = fd then sentBytes data r else []
    | _ => []

/-- The information that the kernel gives. -/
def infoOf : Event ksvSig → Option DownstreamInfo
  | ⟨.drmModeGetPropertyBlob _, r⟩ => r
  | _ => none

/-- What the port manager answers. -/
def answerOf : Event daemonSig → Option KsvListAnswer
  | ⟨.portManagerGetKsvList _, r⟩ => some r
  | _ => none

/-- A request for the KSV list that is served with this information from the kernel: what the
daemon does, what the port manager does in it, and the response. -/
structure Retrieval (m : HdcpDaemon) (pm : PortManager) (data : SocketData) (appId : ℕ)
    (dsInfo : DownstreamInfo) (log : DaemonLog) (portLog : KsvLog) (rsp : SocketData) : Prop where
  served : (m.getKsvList data appId).Runs log rsp
  possible : ∀ e ∈ log, Possible e
  called : ∃ r buffer, (∃ e ∈ log, answerOf e = some r) ∧
    (getKsvList pm data.singlePort.id data.ksvCount data.depth buffer).Runs portLog r
  found : ∃ e ∈ portLog, infoOf e = some dsInfo

/-- The KSV of the receiver and those of the devices behind it. -/
def DownstreamInfo.ksvs (dsInfo : DownstreamInfo) : List UInt8 :=
  slice dsInfo.bksv 0 ksvSize ++ slice dsInfo.ksvList 0 (dsInfo.deviceCount.toNat * ksvSize)

/-- The topology, with the receiver, is within the limits. -/
def DownstreamInfo.WithinLimits (dsInfo : DownstreamInfo) : Prop :=
  dsInfo.deviceCount.toNat + 1 ≤ maxKsvCount.toNat ∧
    dsInfo.depth.toNat + 1 ≤ maxTopologyDepth.toNat

/-- What a retrieval should do: it stays within the arrays; when it reports success, the
topology is within the limits, and the whole list was sent; it reports that the limits are
exceeded when they are. -/
structure Exact (m : HdcpDaemon) (appId : ℕ) (dsInfo : DownstreamInfo) (log : DaemonLog)
    (portLog : KsvLog) (rsp : SocketData) : Prop where
  inBounds : ∀ e ∈ portLog, InBounds e.op
  withinLimits : rsp.status = HdcpStatus.successful → dsInfo.WithinLimits
  ksvCount : rsp.status = HdcpStatus.successful →
    rsp.ksvCount.toNat = dsInfo.deviceCount.toNat + 1
  payload : rsp.status = HdcpStatus.successful →
    sent appId log = m.layout.encode rsp ++ dsInfo.ksvs
  exceeded : ¬dsInfo.WithinLimits → rsp.status = HdcpStatus.errorMaxDevicesExceeded ∨
    rsp.status = HdcpStatus.errorMaxDepthExceeded

/-- The number of devices, with the receiver, is below the maximum in a byte, and the limits
hold unless the depth alone is too large. -/
def DownstreamInfo.Fits (dsInfo : DownstreamInfo) : Prop :=
  (dsInfo.deviceCount.toNat + 1) % 2 ^ 8 < maxKsvCount.toNat ∧
    (dsInfo.deviceCount.toNat + 1 < maxKsvCount.toNat ∧ dsInfo.depth < maxTopologyDepth ∨
      maxTopologyDepth ≤ dsInfo.depth ∧ dsInfo.depth < 255)

/-- The request is well formed, and there is a port with its id. -/
structure Requested (pm : PortManager) (data : SocketData) : Prop where
  portCount : data.portCount = onePort
  id : data.singlePort.id ≤ portIdMax
  object : (pm.getDrmObjectByPortId data.singlePort.id.toNat).isSome

variable {m : HdcpDaemon} {pm : PortManager} {data rsp : SocketData} {appId fd : ℕ}
  {dsInfo : DownstreamInfo} {log log' : DaemonLog} {portLog : KsvLog}

/-! ### The copy -/

/-- The numbers that the port manager reports. -/
def DownstreamInfo.count (dsInfo : DownstreamInfo) : UInt8 := (dsInfo.deviceCount + 1).toUInt8

/-- What the port manager makes of the buffer. -/
def DownstreamInfo.fill (dsInfo : DownstreamInfo) (buffer : Mem) : Mem :=
  copyInto (copyInto buffer 0 dsInfo.bksv ksvSize) ksvSize dsInfo.ksvList
    (dsInfo.count.toNat * ksvSize)

/-- The accesses of the port manager. -/
def DownstreamInfo.accesses (dsInfo : DownstreamInfo) : KsvLog :=
  [⟨.readBksv 0 ksvSize, ()⟩, ⟨.write 0 ksvSize, ()⟩,
    ⟨.readKsvList 0 (dsInfo.count.toNat * ksvSize), ()⟩,
    ⟨.write ksvSize (dsInfo.count.toNat * ksvSize), ()⟩]

lemma runs_getDownstreamInfo {drmObject : Option DrmObject} {ret : Except Errno DownstreamInfo}
    (h : (getDownstreamInfo drmObject).Runs portLog ret)
    (hfound : ∃ e ∈ portLog, infoOf e = some dsInfo) :
    ret = .ok dsInfo ∧ ∀ e ∈ portLog, InBounds e.op := by
  obtain ⟨e, he, hinfo⟩ := hfound
  cases drmObject with
  | none =>
      obtain ⟨rfl, -⟩ := runs_ret.1 h
      exact absurd he List.not_mem_nil
  | some drmObject =>
      obtain ⟨properties, l, l', hop, hrest, rfl⟩ := runs_bind.1 h
      obtain rfl := runs_op.1 hop
      cases (properties : Option (List (ℕ × ℕ))) with
      | none =>
          obtain ⟨rfl, -⟩ := runs_ret.1 hrest
          rw [List.append_nil, List.mem_singleton] at he
          subst he
          exact absurd hinfo (Option.some_ne_none dsInfo).symm
      | some properties =>
          obtain ⟨blob, l₁, l₂, hblob, hval, rfl⟩ := runs_bind.1 hrest
          obtain rfl := runs_op.1 hblob
          cases (blob : Option DownstreamInfo) with
          | none =>
              obtain ⟨rfl, -⟩ := runs_ret.1 hval
              simp only [List.append_nil, List.mem_append, List.mem_singleton] at he
              rcases he with rfl | rfl
              · exact absurd hinfo (Option.some_ne_none dsInfo).symm
              · exact absurd hinfo (Option.some_ne_none dsInfo).symm
          | some dsInfo' =>
              obtain ⟨rfl, rfl⟩ := runs_ret.1 hval
              simp only [List.append_nil, List.mem_append, List.mem_singleton] at he ⊢
              have hsame : dsInfo' = dsInfo := by
                rcases he with rfl | rfl
                · exact absurd hinfo (Option.some_ne_none dsInfo).symm
                · exact Option.some.inj hinfo
              subst hsame
              refine ⟨rfl, ?_⟩
              rintro e' (rfl | rfl)
              · trivial
              · trivial

/-- The port manager copies as many entries as it reports, after the KSV of the receiver. -/
lemma runs_getKsvList {id : UInt32} {ksvCount depth : UInt8} {buffer : Mem} {r : KsvListAnswer}
    (h : (getKsvList pm id ksvCount depth buffer).Runs portLog r)
    (hfound : ∃ e ∈ portLog, infoOf e = some dsInfo) :
    r = ⟨.success, dsInfo.count, dsInfo.depth + 1, dsInfo.fill buffer⟩ ∧
      ∃ calls, portLog = calls ++ dsInfo.accesses ∧ ∀ e ∈ calls, InBounds e.op := by
  obtain ⟨ret, calls, l, hinfo, hcopy, rfl⟩ := runs_bind.1 h
  cases ret with
  | error e =>
      obtain ⟨rfl, -⟩ := runs_ret.1 hcopy
      rw [List.append_nil] at hfound
      exact absurd (runs_getDownstreamInfo hinfo hfound).1 (by simp)
  | ok dsInfo' =>
      obtain ⟨_, l₁, l₂, hread, hcopy₂, rfl⟩ := runs_bind.1 hcopy
      obtain ⟨_, l₃, l₄, hwrite, hcopy₄, rfl⟩ := runs_bind.1 hcopy₂
      obtain ⟨_, l₅, l₆, hread', hcopy₆, rfl⟩ := runs_bind.1 hcopy₄
      obtain ⟨_, l₇, l₈, hwrite', hret, rfl⟩ := runs_bind.1 hcopy₆
      obtain ⟨rfl, rfl⟩ := runs_ret.1 hret
      obtain rfl := runs_op.1 hread
      obtain rfl := runs_op.1 hwrite
      obtain rfl := runs_op.1 hread'
      obtain rfl := runs_op.1 hwrite'
      have hcalls : ∃ e ∈ calls, infoOf e = some dsInfo := by
        obtain ⟨e, he, hinfo⟩ := hfound
        rcases List.mem_append.1 he with he | he
        · exact ⟨e, he, hinfo⟩
        · simp only [List.append_nil, List.mem_append, List.mem_singleton] at he
          rcases he with rfl | rfl | rfl | rfl
          all_goals exact absurd hinfo (Option.some_ne_none dsInfo).symm
      obtain ⟨hok, hbounds⟩ := runs_getDownstreamInfo hinfo hcalls
      obtain rfl := Except.ok.inj hok
      exact ⟨rfl, calls, rfl, hbounds⟩

lemma count_toNat : dsInfo.count.toNat = (dsInfo.deviceCount.toNat + 1) % 2 ^ 8 := by
  have hone : (1 : UInt32).toNat = 1 := rfl
  rw [DownstreamInfo.count, UInt32.toNat_toUInt8, UInt32.toNat_add, hone]
  omega

/-- The copy is within the arrays when there is room for one more entry. -/
lemma accesses_inBounds :
    (∀ e ∈ dsInfo.accesses, InBounds e.op) ↔
      (dsInfo.deviceCount.toNat + 1) % 2 ^ 8 < maxKsvCount.toNat := by
  have hmax : maxKsvCount.toNat = 127 := rfl
  simp only [DownstreamInfo.accesses, List.mem_cons, List.not_mem_nil, or_false, forall_eq_or_imp,
    forall_eq, InBounds, count_toNat, hmax, ksvListSize, ksvSize]
  omega

/-- The buffer begins with the list, as far as the entries were copied. -/
lemma slice_fill {buffer : Mem} {n : ℕ} (h : n ≤ dsInfo.count.toNat) :
    slice (dsInfo.fill buffer) 0 ((n + 1) * ksvSize) =
      slice dsInfo.bksv 0 ksvSize ++ slice dsInfo.ksvList 0 (n * ksvSize) := by
  rw [DownstreamInfo.fill, Nat.add_mul, Nat.add_comm, Nat.one_mul, slice_add, Nat.zero_add,
    slice_copyInto_self _ _ _ (Nat.mul_le_mul_right _ h),
    slice_copyInto_before _ _ _ (Nat.le_of_eq (Nat.zero_add _)),
    slice_copyInto_self _ _ _ le_rfl]

/-! ### The response -/

lemma sent_append : sent fd (log ++ log') = sent fd log ++ sent fd log' := List.flatMap_append

lemma sent_send (bytes : List UInt8) (r : Except Errno ℕ) :
    sent fd [(⟨.send fd bytes, r⟩ : Event daemonSig)] = sentBytes bytes r := by
  simp [sent]

/-- A `WriteData` that reports success has sent everything. -/
lemma sent_writeData {bytes : List UInt8}
    (h : (writeData (Daemon.send fd) bytes).Runs log .success) (hlog : ∀ e ∈ log, Possible e) :
    sent fd log = bytes := by
  refine said_writeLoop (sent fd) id rfl (fun _ _ => sent_append) rfl (fun _ _ => rfl)
    (fun {data log r} hop hl => ?_) _ le_rfl h hlog
  obtain rfl := runs_op.1 hop
  obtain ⟨hanswer, herror⟩ := hl _ List.mem_cons_self
  exact ⟨sent_send data r, hanswer, herror⟩

def IsSend (fd : ℕ) (o : DaemonOp) : Prop := ∃ bytes, o = .send fd bytes

lemma isSend_writeData (bytes : List UInt8) :
    (writeData (Daemon.send fd) bytes).Uses (IsSend fd) :=
  uses_writeLoop (fun data => Prog.uses_op.2 ⟨data, rfl⟩) _ _

/-- What only sends has no answer of the port manager. -/
lemma answerOf_of_isSend (fd : ℕ) {α : Type} {p : DaemonProg α} {a : α}
    (hp : p.Uses (IsSend fd)) (h : p.Runs log a) {e : Event daemonSig} (he : e ∈ log) :
    answerOf e = none := by
  obtain ⟨bytes, hop⟩ := hp.of_runs h he
  obtain ⟨o, r⟩ := e
  obtain rfl : o = .send fd bytes := hop
  rfl

lemma exists_writeData (fd : ℕ) (bytes : List UInt8) :
    ∃ log : DaemonLog, (writeData (Daemon.send fd) bytes).Runs log .success ∧
      ∀ e ∈ log, Possible e := by
  rcases bytes with _ | ⟨b, bytes⟩
  · exact ⟨[], .ret _, by simp⟩
  · refine ⟨[⟨.send fd (b :: bytes), .ok (b :: bytes).length⟩], .call _ _ _ ?_, fun e he => ?_⟩
    · show (writeLoop (Daemon.send fd) bytes.length ((b :: bytes).drop (b :: bytes).length)).Runs
        [] .success
      rw [List.drop_length]
      cases bytes.length with
      | zero => exact .ret _
      | succ n => exact .ret _
    · obtain rfl := List.mem_singleton.1 he
      exact ⟨by simp [sendAnswer], by rintro ⟨⟩⟩

/-- What the daemon makes of the answer of the port manager. -/
lemma runs_daemonGetKsvList {r : KsvListAnswer} (h : (m.getKsvList data appId).Runs log rsp)
    (hlog : ∀ e ∈ log, Possible e) (hans : ∃ e ∈ log, answerOf e = some r)
    (hsts : r.sts = .success) :
    maxKsvCount < r.ksvCount ∧ rsp.status = HdcpStatus.errorMaxDevicesExceeded ∨
    r.ksvCount ≤ maxKsvCount ∧ maxTopologyDepth < r.depth ∧
      rsp.status = HdcpStatus.errorMaxDepthExceeded ∨
    r.ksvCount ≤ maxKsvCount ∧ r.depth ≤ maxTopologyDepth ∧
      (rsp.status = HdcpStatus.errorInternal ∨
        rsp.status = HdcpStatus.successful ∧ rsp.ksvCount = r.ksvCount ∧ sent appId log =
          m.layout.encode rsp ++ slice r.ksvList 0 (r.ksvCount.toNat * ksvSize)) := by
  obtain ⟨e, he, hr⟩ := hans
  rw [HdcpDaemon.getKsvList] at h
  obtain ⟨-, hret⟩ | ⟨-, h⟩ := runs_ite.1 h
  · obtain ⟨rfl, -⟩ := runs_ret.1 hret
    exact absurd he List.not_mem_nil
  obtain ⟨-, hret⟩ | ⟨-, h⟩ := runs_ite.1 h
  · obtain ⟨rfl, -⟩ := runs_ret.1 hret
    exact absurd he List.not_mem_nil
  obtain ⟨b, l₁, l₂, hnew, h₂, rfl⟩ := runs_bind.1 h
  obtain rfl := runs_op.1 hnew
  obtain ⟨-, hret⟩ | ⟨-, h₂⟩ := runs_ite.1 h₂
  · obtain ⟨rfl, -⟩ := runs_ret.1 hret
    rw [List.append_nil, List.mem_singleton] at he
    subst he
    exact absurd hr (Option.some_ne_none r).symm
  obtain ⟨r', l₃, l₄, hport, h₄, rfl⟩ := runs_bind.1 h₂
  obtain rfl := runs_op.1 hport
  have hsends : ∀ e ∈ l₄, answerOf e = none := fun e he => by
    refine answerOf_of_isSend appId ?_ h₄ he
    refine Prog.Uses.ite (fun _ => trivial) fun _ => Prog.Uses.ite (fun _ => trivial) fun _ => ?_
    refine Prog.Uses.ite (fun _ => trivial) fun _ => (isSend_writeData _).bind fun sts => ?_
    refine Prog.Uses.ite (fun _ => trivial) fun _ => Prog.Uses.bind ?_ fun sts => ?_
    · exact Prog.Uses.ite (fun _ => trivial) fun _ => isSend_writeData _
    · exact Prog.Uses.ite (fun _ => trivial) fun _ => trivial
  have hsame : r' = r := by
    rcases List.mem_append.1 he with hfirst | hlater
    · obtain rfl := List.mem_singleton.1 hfirst
      exact absurd hr (Option.some_ne_none r).symm
    rcases List.mem_append.1 hlater with hmid | hlast
    · obtain rfl := List.mem_singleton.1 hmid
      exact Option.some.inj hr
    · rw [hsends e hlast] at hr
      exact absurd hr (Option.some_ne_none r).symm
  subst hsame
  obtain ⟨hfailed, -⟩ | ⟨-, h₄⟩ := runs_ite.1 h₄
  · exact absurd hsts hfailed
  obtain ⟨hcount, hret⟩ | ⟨hcount, h₄⟩ := runs_ite.1 h₄
  · obtain ⟨rfl, rfl⟩ := runs_ret.1 hret
    exact .inl ⟨hcount, rfl⟩
  obtain ⟨hdepth, hret⟩ | ⟨hdepth, h₄⟩ := runs_ite.1 h₄
  · obtain ⟨rfl, rfl⟩ := runs_ret.1 hret
    exact .inr (.inl ⟨UInt8.not_lt.1 hcount, hdepth, rfl⟩)
  refine .inr (.inr ⟨UInt8.not_lt.1 hcount, UInt8.not_lt.1 hdepth, ?_⟩)
  obtain ⟨sts, l₅, l₆, hrsp, h₆, rfl⟩ := runs_bind.1 h₄
  obtain ⟨-, hret⟩ | ⟨hsent, h₆⟩ := runs_ite.1 h₆
  · obtain ⟨rfl, rfl⟩ := runs_ret.1 hret
    exact .inl rfl
  obtain ⟨sts', l₇, l₈, hlist, h₈, rfl⟩ := runs_bind.1 h₆
  obtain ⟨-, hret⟩ | ⟨hsent', hret⟩ := runs_ite.1 h₈
  · obtain ⟨rfl, rfl⟩ := runs_ret.1 hret
    exact .inl rfl
  obtain ⟨rfl, rfl⟩ := runs_ret.1 hret
  obtain ⟨-, hlog'⟩ := List.forall_mem_append.1 hlog
  obtain ⟨-, hlog₄⟩ := List.forall_mem_append.1 hlog'
  obtain ⟨hlog₅, hlog₆⟩ := List.forall_mem_append.1 hlog₄
  obtain ⟨hlog₇, -⟩ := List.forall_mem_append.1 hlog₆
  obtain rfl : sts = .success := not_not.1 hsent
  obtain rfl : sts' = .success := not_not.1 hsent'
  obtain ⟨-, hret⟩ | ⟨-, hlist⟩ := runs_ite.1 hlist
  · exact absurd (runs_ret.1 hret).2 (by simp)
  refine .inr ⟨rfl, rfl, ?_⟩
  rw [sent_append, sent_append, sent_append, sent_append, sent_writeData hrsp hlog₅,
    sent_writeData hlist hlog₇]
  simp [sent]

/-- The response after this answer of the port manager. -/
def responseTo (data : SocketData) (r : KsvListAnswer) (status : HdcpStatus) : SocketData :=
  { data with ksvCount := r.ksvCount, depth := r.depth, status := status }

/-- The program can end without a failure of the daemon, after this answer of the port
manager. -/
def CanServe (r : KsvListAnswer) (p : DaemonProg SocketData) : Prop :=
  ∃ log rsp, p.Runs log rsp ∧ (∀ e ∈ log, Possible e) ∧ (∃ e ∈ log, answerOf e = some r) ∧
    rsp.status ≠ HdcpStatus.errorInternal

lemma canServe_new {r : KsvListAnswer} {size : ℕ} {f : Bool → DaemonProg SocketData}
    (h : CanServe r (f true)) : CanServe r (new size >>= f) := by
  obtain ⟨log, rsp, hruns, hpossible, ⟨e, he, hans⟩, hstatus⟩ := h
  exact ⟨_, rsp, .call (S := daemonSig) (.new size) f true hruns,
    List.forall_mem_cons.2 ⟨trivial, hpossible⟩, ⟨e, List.mem_cons_of_mem _ he, hans⟩, hstatus⟩

lemma canServe_answer (log : DaemonLog) (data : SocketData) (status : HdcpStatus)
    {r : KsvListAnswer} {id : UInt32} {f : KsvListAnswer → DaemonProg SocketData}
    (hstatus : status ≠ HdcpStatus.errorInternal)
    (hpossible : ∀ e ∈ log, Possible e) (h : (f r).Runs log (responseTo data r status)) :
    CanServe r (portManagerGetKsvList id >>= f) :=
  ⟨_, responseTo data r status, .call (S := daemonSig) (.portManagerGetKsvList id) f r h,
    List.forall_mem_cons.2 ⟨trivial, hpossible⟩, ⟨_, List.mem_cons_self, rfl⟩, hstatus⟩

/-- Every answer of the port manager can be served without a failure. -/
lemma canServe (m : HdcpDaemon) (appId : ℕ) {r : KsvListAnswer} (hport : data.portCount = onePort)
    (hid : data.singlePort.id ≤ portIdMax) (hsts : r.sts = .success) :
    CanServe r (m.getKsvList data appId) := by
  have hok : ¬r.sts ≠ .success := not_not.2 hsts
  rw [HdcpDaemon.getKsvList, if_neg (not_not.2 hport.symm), if_neg (UInt32.not_lt.2 hid)]
  refine canServe_new ?_
  rw [if_neg (by simp)]
  by_cases hcount : r.ksvCount > maxKsvCount
  · refine canServe_answer [] data HdcpStatus.errorMaxDevicesExceeded (by decide) (by simp) ?_
    exact runs_ite.2 (.inr ⟨hok, runs_ite.2 (.inl ⟨hcount, .ret (responseTo data r _)⟩)⟩)
  by_cases hdepth : r.depth > maxTopologyDepth
  · refine canServe_answer [] data HdcpStatus.errorMaxDepthExceeded (by decide) (by simp) ?_
    refine runs_ite.2 (.inr ⟨hok, runs_ite.2 (.inr ⟨hcount, ?_⟩)⟩)
    exact runs_ite.2 (.inl ⟨hdepth, .ret (responseTo data r _)⟩)
  obtain ⟨l, hl, hpossible⟩ := exists_writeData appId
    (m.layout.encode (responseTo data r HdcpStatus.successful))
  obtain ⟨l', hl', hpossible'⟩ := exists_writeData appId
    (slice r.ksvList 0 (r.ksvCount.toNat * ksvSize))
  have hsize : ¬(slice r.ksvList 0 (r.ksvCount.toNat * ksvSize)).length >
      ksvSize * maxKsvCount.toNat := by
    have hle : r.ksvCount.toNat ≤ maxKsvCount.toNat := UInt8.not_lt.1 hcount
    rw [length_slice, Nat.mul_comm, not_lt]
    exact Nat.mul_le_mul_left ksvSize hle
  refine canServe_answer (l ++ (l' ++ [])) data HdcpStatus.successful (by decide) ?_ ?_
  · rw [List.append_nil]
    exact List.forall_mem_append.2 ⟨hpossible, hpossible'⟩
  · refine runs_ite.2 (.inr ⟨hok, runs_ite.2 (.inr ⟨hcount, runs_ite.2 (.inr ⟨hdepth, ?_⟩)⟩)⟩)
    refine runs_bind.2 ⟨.success, l, _, hl, runs_ite.2 (.inr ⟨not_not.2 rfl, ?_⟩), rfl⟩
    refine runs_bind.2 ⟨.success, l', [], runs_ite.2 (.inr ⟨hsize, hl'⟩), ?_, rfl⟩
    exact runs_ite.2 (.inr ⟨not_not.2 rfl, .ret (responseTo data r _)⟩)

/-- The information of the kernel can reach the port manager. -/
lemma exists_getKsvList {id : UInt32} (dsInfo : DownstreamInfo) (ksvCount depth : UInt8)
    (buffer : Mem) (h : (pm.getDrmObjectByPortId id.toNat).isSome) :
    ∃ portLog, (∃ e ∈ portLog, infoOf e = some dsInfo) ∧
      (getKsvList pm id ksvCount depth buffer).Runs portLog
        ⟨.success, dsInfo.count, dsInfo.depth + 1, dsInfo.fill buffer⟩ := by
  obtain ⟨drmObject, hfind⟩ := Option.isSome_iff_exists.1 h
  rw [getKsvList, hfind]
  refine ⟨⟨.drmModeObjectGetProperties drmObject.drmId, some []⟩ ::
    ⟨.drmModeGetPropertyBlob uint32Max, some dsInfo⟩ :: dsInfo.accesses,
    ⟨⟨.drmModeGetPropertyBlob uint32Max, some dsInfo⟩, ?_, rfl⟩, ?_⟩
  · exact List.mem_cons_of_mem _ List.mem_cons_self
  · refine .call _ _ _ (.call _ _ _ ?_)
    exact .call _ _ _ (.call _ _ _ (.call _ _ _ (.call _ _ _ (.ret _))))

/-! ### Exactness -/

/-- Whether the depth passes the check of the daemon. -/
lemma depth_le_iff : dsInfo.depth + 1 ≤ maxTopologyDepth ↔
    dsInfo.depth.toNat < maxTopologyDepth.toNat ∨ dsInfo.depth.toNat = 255 := by
  have hone : (1 : UInt8).toNat = 1 := rfl
  have hmax : maxTopologyDepth.toNat = 7 := rfl
  have hlt : dsInfo.depth.toNat < 2 ^ 8 := dsInfo.depth.toNat_lt
  rw [UInt8.le_iff_toNat_le, UInt8.toNat_add, hone, hmax]
  omega

lemma fits_iff : dsInfo.Fits ↔
    (dsInfo.deviceCount.toNat + 1) % 2 ^ 8 < 127 ∧
      (dsInfo.deviceCount.toNat < 126 ∧ dsInfo.depth.toNat < 7 ∨
        7 ≤ dsInfo.depth.toNat ∧ dsInfo.depth.toNat < 255) := by
  have hmax : maxKsvCount.toNat = 127 := rfl
  have hdepth : maxTopologyDepth.toNat = 7 := rfl
  have h255 : (255 : UInt8).toNat = 255 := rfl
  rw [DownstreamInfo.Fits, hmax, UInt8.lt_iff_toNat_lt, UInt8.le_iff_toNat_le,
    UInt8.lt_iff_toNat_lt, hdepth, h255]
  omega

lemma withinLimits_iff : dsInfo.WithinLimits ↔
    dsInfo.deviceCount.toNat < 127 ∧ dsInfo.depth.toNat < 7 := by
  have hmax : maxKsvCount.toNat = 127 := rfl
  have hdepth : maxTopologyDepth.toNat = 7 := rfl
  rw [DownstreamInfo.WithinLimits, hmax, hdepth]
  omega

/-- What a retrieval comes to: the accesses of the port manager, and what the daemon made of its
answer. -/
lemma Retrieval.cases (h : Retrieval m pm data appId dsInfo log portLog rsp) :
    ((∀ e ∈ portLog, InBounds e.op) ↔ (dsInfo.deviceCount.toNat + 1) % 2 ^ 8 < 127) ∧
    (maxKsvCount < dsInfo.count ∧ rsp.status = HdcpStatus.errorMaxDevicesExceeded ∨
    dsInfo.count ≤ maxKsvCount ∧ maxTopologyDepth < dsInfo.depth + 1 ∧
      rsp.status = HdcpStatus.errorMaxDepthExceeded ∨
    dsInfo.count ≤ maxKsvCount ∧ dsInfo.depth + 1 ≤ maxTopologyDepth ∧
      (rsp.status = HdcpStatus.errorInternal ∨
        rsp.status = HdcpStatus.successful ∧ rsp.ksvCount = dsInfo.count ∧
        ∃ buffer, sent appId log = m.layout.encode rsp ++
          slice (dsInfo.fill buffer) 0 (dsInfo.count.toNat * ksvSize))) := by
  obtain ⟨r, buffer, hans, hport⟩ := h.called
  obtain ⟨rfl, calls, rfl, hcalls⟩ := runs_getKsvList hport h.found
  refine ⟨?_, ?_⟩
  · rw [List.forall_mem_append, accesses_inBounds]
    exact and_iff_right hcalls
  · refine (runs_daemonGetKsvList h.served h.possible hans rfl).imp_right (.imp_right ?_)
    rintro ⟨hcount, hdepth, hstatus⟩
    refine ⟨hcount, hdepth, hstatus.imp_right ?_⟩
    rintro ⟨hsuccess, hksvCount, hsent⟩
    exact ⟨hsuccess, hksvCount, buffer, hsent⟩

/-- The information that fits is retrieved exactly. -/
lemma Retrieval.exact (h : Retrieval m pm data appId dsInfo log portLog rsp)
    (hfits : dsInfo.Fits) : Exact m appId dsInfo log portLog rsp := by
  obtain ⟨hbounds, hcases⟩ := h.cases
  obtain ⟨hroom, hlimits⟩ := fits_iff.1 hfits
  have hfailed (hstatus : rsp.status ≠ HdcpStatus.successful)
      (hexceeded : ¬dsInfo.WithinLimits → rsp.status = HdcpStatus.errorMaxDevicesExceeded ∨
        rsp.status = HdcpStatus.errorMaxDepthExceeded) :
      Exact m appId dsInfo log portLog rsp :=
    ⟨hbounds.2 hroom, fun hs => absurd hs hstatus, fun hs => absurd hs hstatus,
      fun hs => absurd hs hstatus, hexceeded⟩
  rcases hcases with ⟨hcount, hstatus⟩ | ⟨-, -, hstatus⟩ | ⟨-, hdepth, hstatus⟩
  · exact hfailed (by rw [hstatus]; decide) fun _ => .inl hstatus
  · exact hfailed (by rw [hstatus]; decide) fun _ => .inr hstatus
  have hfew : dsInfo.deviceCount.toNat < 126 ∧ dsInfo.depth.toNat < 7 := by
    have hpassed := depth_le_iff.1 hdepth
    have hmax : maxTopologyDepth.toNat = 7 := rfl
    omega
  have hwithin : dsInfo.WithinLimits := withinLimits_iff.2 ⟨by omega, hfew.2⟩
  have hcount : dsInfo.count.toNat = dsInfo.deviceCount.toNat + 1 := by
    rw [count_toNat]
    omega
  rcases hstatus with hinternal | ⟨-, hksvCount, buffer, hsent⟩
  · exact hfailed (by rw [hinternal]; decide) fun hexceeded => absurd hwithin hexceeded
  · refine ⟨hbounds.2 hroom, fun _ => hwithin, fun _ => ?_, fun _ => ?_, fun hexceeded => ?_⟩
    · rw [hksvCount, hcount]
    · rw [hsent, hcount, slice_fill (by omega)]
      rfl
    · exact absurd hwithin hexceeded

/-- What is retrieved exactly, when nothing else fails, fits. -/
lemma fits_of_exact (h : Retrieval m pm data appId dsInfo log portLog rsp)
    (hstatus : rsp.status ≠ HdcpStatus.errorInternal)
    (hexact : Exact m appId dsInfo log portLog rsp) : dsInfo.Fits := by
  obtain ⟨hbounds, hcases⟩ := h.cases
  have hroom := hbounds.1 hexact.inBounds
  have hmax : maxKsvCount.toNat = 127 := rfl
  refine fits_iff.2 ⟨hroom, ?_⟩
  rcases hcases with ⟨hcount, -⟩ | ⟨-, hdepth, -⟩ | ⟨-, -, hreported⟩
  · rw [UInt8.lt_iff_toNat_lt, count_toNat, hmax] at hcount
    omega
  · right
    have hlt : dsInfo.depth.toNat < 2 ^ 8 := dsInfo.depth.toNat_lt
    have hpassed := mt depth_le_iff.2 (UInt8.not_le.2 hdepth)
    have hdepth : maxTopologyDepth.toNat = 7 := rfl
    omega
  · left
    obtain ⟨hsuccess, hksvCount, -⟩ := hreported.resolve_left hstatus
    have hcount := hexact.ksvCount hsuccess
    rw [hksvCount, count_toNat] at hcount
    exact ⟨by omega, (withinLimits_iff.1 (hexact.withinLimits hsuccess)).2⟩

/-- The information can be retrieved without another failure. -/
lemma exists_retrieval (m : HdcpDaemon) (appId : ℕ) (dsInfo : DownstreamInfo)
    (h : Requested pm data) :
    ∃ log portLog rsp, Retrieval m pm data appId dsInfo log portLog rsp ∧
      rsp.status ≠ HdcpStatus.errorInternal := by
  obtain ⟨portLog, hfound, hport⟩ :=
    exists_getKsvList dsInfo data.ksvCount data.depth (fun _ => 0) h.object
  obtain ⟨log, rsp, hserved, hpossible, hans, hstatus⟩ := canServe m appId h.portCount h.id
    (r := ⟨.success, dsInfo.count, dsInfo.depth + 1, dsInfo.fill fun _ => 0⟩) rfl
  exact ⟨log, portLog, rsp, ⟨hserved, hpossible, ⟨_, _, hans, hport⟩, hfound⟩, hstatus⟩

theorem ksvList_exact (m : HdcpDaemon) (pm : PortManager) (data : SocketData) (appId : ℕ)
    (dsInfo : DownstreamInfo) (h : Requested pm data) :
    (∀ log portLog rsp, Retrieval m pm data appId dsInfo log portLog rsp →
      Exact m appId dsInfo log portLog rsp) ↔ dsInfo.Fits := by
  refine ⟨fun hexact => ?_, fun hfits _ _ _ hretrieval => hretrieval.exact hfits⟩
  obtain ⟨log, portLog, rsp, hretrieval, hstatus⟩ := exists_retrieval m appId dsInfo h
  exact fits_of_exact hretrieval hstatus (hexact log portLog rsp hretrieval)

/-! ### A full topology -/

/-- A receiver with as many devices behind it. -/
def receiver (deviceCount : UInt32) : DownstreamInfo := ⟨fun _ => 1, 2, deviceCount, fun _ => 2⟩

/-- A request for the KSV list of the port 0. -/
def ksvListRequest : SocketData :=
  { newSocketData usualDaemon.layout with command := HdcpApi.getKsvList, portCount := onePort }

lemma requested_port : Requested (Port.onePort false) ksvListRequest := ⟨rfl, by decide, rfl⟩

theorem ksvList_exact_receiver :
    (∀ log portLog rsp,
      Retrieval usualDaemon (Port.onePort false) ksvListRequest 4 (receiver 125) log portLog rsp →
        Exact usualDaemon 4 (receiver 125) log portLog rsp) ↔ (receiver 125).Fits :=
  ksvList_exact usualDaemon (Port.onePort false) ksvListRequest 4 (receiver 125) requested_port

/-- With 126 devices there are as many KSVs as allowed, and five bytes too many are copied. -/
theorem full_topology_overflows :
    ∃ log portLog rsp,
      Retrieval usualDaemon (Port.onePort false) ksvListRequest 4 (receiver 126) log portLog rsp ∧
        (receiver 126).WithinLimits ∧ ¬Exact usualDaemon 4 (receiver 126) log portLog rsp := by
  obtain ⟨log, portLog, rsp, hretrieval, -⟩ :=
    exists_retrieval usualDaemon 4 (receiver 126) requested_port
  refine ⟨log, portLog, rsp, hretrieval, withinLimits_iff.2 (by decide), fun hexact => ?_⟩
  have hroom := hretrieval.cases.1.1 hexact.inBounds
  exact absurd hroom (by decide)

end Hdcp.Ksv
