/-
The bytes of the messages that the daemon sends unprompted.

A `SocketData` is an object of the stack, and it is sent as it lies in memory.  Its constructor
sets some of its fields and the sender some others; the other bytes are those that the memory
held before.  In `Daemon.Model` they are 0.  Here the object is translated with its bytes, for
the two places where the daemon sends a message without a request: the acknowledgement of
`ProcessNewConnections` and the event of `ReportStatus`.

`frames_eq_iff`: two such messages about the same are equal exactly when the memories in which
they were made agree on the bytes that nobody sets.
-/
import Hdcp.Daemon.Steps

namespace Hdcp.Frames

open Library Socket Daemon
open Library.Prog (op runs_bind runs_op runs_ret)

/-! ### The object -/

/-- `sizeof(SocketData)`. -/
def sizeofSocketData : ℕ := 100

example : sizeofSocketData = socketDataLayout.size := rfl

/-- A field of 32 bits is set. -/
def set32 (off : ℕ) (n : UInt32) : Assignment := ⟨off, leBytes 4 n.toNat⟩

def setSize (n : UInt32) : Assignment := set32 0 n

def setCommand (command : HdcpApiType) : Assignment := set32 4 command

def setStatus (status : HdcpStatus) : Assignment := set32 8 status

def setPortId (i : ℕ) (id : UInt32) : Assignment := set32 (16 + 12 * i) id

def setPortStatus (i : ℕ) (status : UInt32) : Assignment := set32 (16 + 12 * i + 4) status

def setPortEvent (i : ℕ) (event : UInt32) : Assignment := set32 (16 + 12 * i + 8) event

def setPortCount (portCount : UInt32) : Assignment := set32 76 portCount

def setSrmOrKsvListDataSz (dataSz : UInt32) : Assignment := set32 80 dataSz

/-- The constructor of `SocketData`. -/
def constructor : List Assignment :=
  [setSize 100, setCommand HdcpApi.illegal, setStatus HdcpStatus.errorInternal, setPortCount 0,
    setSrmOrKsvListDataSz 0] ++
  (List.range numPhysicalPortsMax).flatMap fun i => [setPortId i 0, setPortStatus i 0]

/-- What `ProcessNewConnections` sets in `response`. -/
def createResponse : List Assignment :=
  [setSize 100, setCommand HdcpApi.create, setStatus HdcpStatus.successful]

/-- What `ReportStatus` sets in `data`. -/
def reportData (event portId : UInt32) : List Assignment :=
  [setSize 100, setCommand HdcpApi.reportStatus, setPortCount 1, setPortEvent 0 event,
    setPortId 0 portId]

/-! ### The functions -/

/-- The interactions of the daemon, with the objects: `construct` answers what the memory of an
object holds before its constructor runs. -/
inductive FrameOp where
  | construct
  | sendResponse (rsp : Mem) (fd : ℕ)
  | daemon (o : DaemonOp)

def FrameOp.Ans : FrameOp → Type
  | construct => Mem
  | sendResponse _ _ => Errno
  | daemon o => o.Ans

abbrev frameSig : Sig := ⟨FrameOp, FrameOp.Ans⟩

abbrev FrameProg (α : Type) : Type := Prog frameSig α

abbrev FrameLog : Type := List (Event frameSig)

def construct : FrameProg Mem := op (S := frameSig) .construct

def sendResponse (rsp : Mem) (fd : ℕ) : FrameProg Errno := op (S := frameSig) (.sendResponse rsp fd)

/-- A part of the daemon in which no object is made. -/
def lift {α : Type} (p : DaemonProg α) : FrameProg α :=
  p.subst fun o => op (S := frameSig) (.daemon o)

/-- `SocketData data;` -/
def newSocketData : FrameProg Mem := do
  let garbage ← construct
  return assignAll garbage constructor

/-- The loop of `ProcessNewConnections`, as in `Daemon.Model`. -/
def acceptLoop : (rounds emptyIndex : ℕ) → FrameProg Errno
  | 0, _ => return .einval
  | rounds + 1, emptyIndex => do
    match ← lift accept with
    | .error e => return if e = .eagain then .success else e
    | .ok incomingFd =>
      match ← lift (HdcpDaemon.findEmptySlot (sessionCountMax - emptyIndex) emptyIndex) with
      | none =>
        let _sts ← lift (close incomingFd)
        return .einval
      | some i =>
        lift (setSlot i incomingFd)
        let response ← newSocketData
        let _sts ← sendResponse (assignAll response createResponse) incomingFd
        acceptLoop rounds i

def processNewConnections : FrameProg Errno := acceptLoop (sessionCountMax + 1) 0

def reportLoop (data : Mem) : List ℕ → (i : ℕ) → FrameProg Unit
  | [], _ => return ()
  | fd :: fds, i => do
    let sts ← sendResponse data fd
    if sts ≠ .success then
      let _sts ← lift (close fd)
      lift (eraseCallBackAt i)
      reportLoop data fds i
    else
      reportLoop data fds (i + 1)

def reportStatus (event portId : UInt32) : FrameProg Unit := do
  let data ← newSocketData
  lift callBackBegin
  let fds ← lift getCallBackList
  reportLoop (assignAll data (reportData event portId)) fds 0
  lift callBackEnd

/-! ### The model of the daemon

It is the case of a memory that holds zeros. -/

/-- The memory holds zeros, and a message is sent by `WriteData`. -/
def onZeros : (o : FrameOp) → DaemonProg o.Ans
  | .construct => Prog.ret fun _ => 0
  | .sendResponse rsp fd => writeData (send fd) (slice rsp 0 sizeofSocketData)
  | .daemon o => op (S := daemonSig) o

lemma subst_lift {α : Type} (p : DaemonProg α) : (lift p).subst onZeros = p := by
  induction p with
  | ret a => rfl
  | call o k ih =>
      show Prog.call o (fun r => ((lift (k r)).subst onZeros : DaemonProg α)) = Prog.call o k
      exact congrArg _ (funext ih)

lemma slice_createResponse :
    slice (assignAll (assignAll (fun _ => 0) constructor) createResponse) 0 sizeofSocketData =
      socketDataLayout.encode usualDaemon.createResponse := by
  decide +kernel

lemma encode_ports (ports : Fin numPhysicalPortsMax → Socket.Port) :
    (portLayout.array numPhysicalPortsMax).encode ports =
      portLayout.encode (ports 0) ++ (portLayout.encode (ports 1) ++
        (portLayout.encode (ports 2) ++ (portLayout.encode (ports 3) ++
          (portLayout.encode (ports 4) ++ [])))) := rfl

lemma encode_socketData (d : SocketData) : socketDataLayout.encode d =
    leBytes 4 d.size.toNat ++ (leBytes 4 d.command.toNat ++ (leBytes 4 d.status.toNat ++
      ([d.ksvCount] ++ ([d.depth] ++ ([if d.isType1Capable then 1 else 0] ++ ([0] ++
        ((portLayout.array numPhysicalPortsMax).encode d.ports ++ (leBytes 4 d.portCount.toNat ++
          (leBytes 4 d.srmOrKsvListDataSz.toNat ++ (leBytes 2 d.srmVersion.toNat ++ ([0, 0] ++
            ((leBytes 4 d.config.type.toNat ++
              ([if d.config.disableSrmStorage then 1 else 0] ++ List.replicate 3 0)) ++
                ([d.level] ++ List.replicate 3 0))))))))))))) := rfl

/-- The message of `ReportStatus` in `Daemon.Model`. -/
def reportMessage (event portId : UInt32) : SocketData :=
  let data := { Socket.newSocketData socketDataLayout with
    command := HdcpApi.reportStatus
    portCount := 1 }
  data.setSinglePort { data.singlePort with event := event, id := portId }

lemma slice_reportData (event portId : UInt32) :
    slice (assignAll (assignAll (fun _ => 0) constructor) (reportData event portId)) 0
        sizeofSocketData =
      socketDataLayout.encode (reportMessage event portId) := by
  have hmessage : reportMessage event portId =
      ⟨100, HdcpApi.reportStatus, HdcpStatus.errorInternal, 0, 0, false,
        (reportMessage event portId).ports, 1, 0, 0, ⟨0, false⟩, 0⟩ := rfl
  have hfirst : (reportMessage event portId).ports 0 = ⟨portId, 0, event⟩ := rfl
  have hother : ∀ i, i ≠ 0 → (reportMessage event portId).ports i = ⟨0, 0, 0⟩ :=
    fun i hi => Function.update_of_ne hi _ _
  rw [hmessage, encode_socketData, encode_ports, hfirst, hother 1 (by decide),
    hother 2 (by decide), hother 3 (by decide), hother 4 (by decide)]
  dsimp only
  rfl

lemma subst_sendResponse (rsp : Mem) (fd : ℕ) :
    (sendResponse rsp fd).subst onZeros = writeData (send fd) (slice rsp 0 sizeofSocketData) :=
  Prog.subst_op _

lemma subst_newSocketData : newSocketData.subst onZeros =
    Prog.ret (assignAll (fun _ => 0) constructor) := rfl

lemma subst_acceptLoop (rounds emptyIndex : ℕ) :
    (acceptLoop rounds emptyIndex).subst onZeros = usualDaemon.acceptLoop rounds emptyIndex := by
  induction rounds generalizing emptyIndex with
  | zero => rfl
  | succ rounds ih =>
      rw [acceptLoop, HdcpDaemon.acceptLoop, Prog.subst_bind, subst_lift]
      congr 1
      funext r
      cases r with
      | error e => rfl
      | ok incomingFd =>
          show Prog.subst _ (lift _ >>= _) = _
          rw [Prog.subst_bind, subst_lift]
          congr 1
          funext r
          cases r with
          | none => rfl
          | some i =>
              show Prog.subst _ (lift _ >>= _) = _
              rw [Prog.subst_bind, subst_lift]
              congr 1
              funext _
              rw [Prog.subst_bind, subst_newSocketData, Prog.ret_bind, Prog.subst_bind,
                subst_sendResponse, slice_createResponse]
              congr 1
              funext _
              exact ih i

theorem processNewConnections_eq :
    processNewConnections.subst onZeros = usualDaemon.processNewConnections :=
  subst_acceptLoop _ _

lemma subst_reportLoop {data : Mem} {message : SocketData}
    (hdata : slice data 0 sizeofSocketData = socketDataLayout.encode message) (fds : List ℕ)
    (i : ℕ) : (reportLoop data fds i).subst onZeros = usualDaemon.reportLoop message fds i := by
  induction fds generalizing i with
  | nil => rfl
  | cons fd fds ih =>
      rw [reportLoop, HdcpDaemon.reportLoop, Prog.subst_bind, subst_sendResponse, hdata]
      congr 1
      funext sts
      split_ifs with hsts
      · rw [Prog.subst_bind, subst_lift]
        congr 1
        funext _
        rw [Prog.subst_bind, subst_lift]
        congr 1
        funext _
        exact ih i
      · exact ih (i + 1)

theorem reportStatus_eq (event portId : UInt32) :
    (reportStatus event portId).subst onZeros = usualDaemon.reportStatus event portId := by
  rw [reportStatus, HdcpDaemon.reportStatus, Prog.subst_bind, subst_newSocketData, Prog.ret_bind,
    Prog.subst_bind, subst_lift]
  congr 1
  funext _
  rw [Prog.subst_bind, subst_lift]
  congr 1
  funext fds
  rw [Prog.subst_bind, subst_lift, subst_reportLoop (slice_reportData event portId)]
  rfl

/-! ### The frames of a run -/

/-- The places that send without a request, with what they tell. -/
inductive Source where
  | connection
  | report (event portId : UInt32)

/-- The runs of the daemon there, whatever the connections. -/
def Source.Runs : Source → FrameLog → Prop
  | .connection, log => ∃ ret, processNewConnections.Runs log ret
  | .report event portId, log => (reportStatus event portId).Runs log ()

/-- The bytes that are set. -/
def Source.assigned : Source → List Assignment
  | .connection => constructor ++ createResponse
  | .report event portId => constructor ++ reportData event portId

/-- The frame that is sent from the memory of an object. -/
def Source.frame (u : Source) (garbage : Mem) : List UInt8 :=
  slice (assignAll garbage u.assigned) 0 sizeofSocketData

lemma slice_assigned {u : Source} {ws : List Assignment} (hws : u.assigned = constructor ++ ws)
    (garbage : Mem) :
    slice (assignAll (assignAll garbage constructor) ws) 0 sizeofSocketData = u.frame garbage := by
  rw [Source.frame, hws, assignAll_append]

/-- The frames of a run, each with what the memory held before the object was made. -/
def written : Mem → FrameLog → List (Mem × List UInt8)
  | _, [] => []
  | _, ⟨.construct, garbage⟩ :: log => written garbage log
  | garbage, ⟨.sendResponse rsp _, _⟩ :: log =>
    (garbage, slice rsp 0 sizeofSocketData) :: written garbage log
  | garbage, ⟨.daemon _, _⟩ :: log => written garbage log

/-- The calls of the daemon in which no object appears. -/
def IsDaemon : FrameOp → Prop
  | .daemon _ => True
  | _ => False

lemma written_daemon {garbage : Mem} {l log : FrameLog} (hl : ∀ e ∈ l, IsDaemon e.op) :
    written garbage (l ++ log) = written garbage log := by
  induction l with
  | nil => rfl
  | cons e l ih =>
      obtain ⟨he, hrest⟩ := List.forall_mem_cons.1 hl
      obtain ⟨o, r⟩ := e
      cases o with
      | daemon o => exact ih hrest
      | construct => exact he.elim
      | sendResponse rsp fd => exact he.elim

lemma uses_lift {α : Type} (p : DaemonProg α) : (lift p).Uses IsDaemon := by
  induction p with
  | ret a => trivial
  | call o k ih => exact ⟨trivial, ih⟩

lemma isDaemon_of_runs {α : Type} {p : DaemonProg α} {log : FrameLog} {a : α}
    (h : (lift p).Runs log a) : ∀ e ∈ log, IsDaemon e.op := fun _ he => (uses_lift p).of_runs h he

variable {u : Source} {log log' : FrameLog} {garbage : Mem}

/-- Every frame is the one that the memory before its object gives. -/
def AllFrom (u : Source) (garbage : Mem) (log : FrameLog) : Prop :=
  ∀ x ∈ written garbage log, x.2 = u.frame x.1

lemma allFrom_daemon {l : FrameLog} (hl : ∀ e ∈ l, IsDaemon e.op) (h : AllFrom u garbage log) :
    AllFrom u garbage (l ++ log) := by
  rw [AllFrom, written_daemon hl]
  exact h

lemma allFrom_append {l : FrameLog} (h : AllFrom u garbage log) (hl : ∀ e ∈ l, IsDaemon e.op) :
    AllFrom u garbage (log ++ l) := by
  induction log generalizing garbage with
  | nil =>
      rw [AllFrom, List.nil_append, ← List.append_nil l, written_daemon hl]
      exact h
  | cons e log ih =>
      obtain ⟨o, r⟩ := e
      cases o with
      | construct => exact ih h
      | sendResponse rsp fd =>
          obtain ⟨hrsp, hlog⟩ := List.forall_mem_cons.1 h
          exact List.forall_mem_cons.2 ⟨hrsp, ih hlog⟩
      | daemon o => exact ih h

lemma allFrom_nil : AllFrom u garbage [] := by simp [AllFrom, written]

lemma runs_newSocketData {data : Mem} (h : newSocketData.Runs log data) :
    ∃ garbage, log = [⟨.construct, garbage⟩] ∧ data = assignAll garbage constructor := by
  obtain ⟨garbage, l₁, l₂, hop, hret, rfl⟩ := runs_bind.1 h
  obtain rfl := runs_op.1 hop
  obtain ⟨rfl, rfl⟩ := runs_ret.1 hret
  exact ⟨garbage, rfl, rfl⟩

lemma allFrom_acceptLoop (rounds : ℕ) : ∀ {emptyIndex : ℕ} {log : FrameLog} {ret : Errno}
    {garbage : Mem}, (acceptLoop rounds emptyIndex).Runs log ret →
    AllFrom .connection garbage log := by
  induction rounds with
  | zero =>
      intro emptyIndex log ret garbage h
      obtain ⟨rfl, -⟩ := runs_ret.1 h
      exact allFrom_nil
  | succ rounds ih =>
      intro emptyIndex log ret garbage h
      obtain ⟨r, l₁, l₂, haccept, hround, rfl⟩ := runs_bind.1 h
      refine allFrom_daemon (isDaemon_of_runs haccept) ?_
      cases r with
      | error e =>
          obtain ⟨rfl, -⟩ := runs_ret.1 hround
          exact allFrom_nil
      | ok incomingFd =>
          obtain ⟨r, l₃, l₄, hfind, hfound, rfl⟩ := runs_bind.1 hround
          refine allFrom_daemon (isDaemon_of_runs hfind) ?_
          cases r with
          | none =>
              obtain ⟨sts, l₅, l₆, hclose, hret, rfl⟩ := runs_bind.1 hfound
              obtain ⟨rfl, -⟩ := runs_ret.1 hret
              exact allFrom_daemon (isDaemon_of_runs hclose) allFrom_nil
          | some i =>
              obtain ⟨_, l₅, l₆, hset, hnew, rfl⟩ := runs_bind.1 hfound
              refine allFrom_daemon (isDaemon_of_runs hset) ?_
              obtain ⟨response, l₇, l₈, hdata, hsend, rfl⟩ := runs_bind.1 hnew
              obtain ⟨garbage', rfl, rfl⟩ := runs_newSocketData hdata
              obtain ⟨sts, l₉, l₁₀, hop, hloop, rfl⟩ := runs_bind.1 hsend
              obtain rfl := runs_op.1 hop
              exact List.forall_mem_cons.2 ⟨slice_assigned rfl garbage', ih hloop⟩

/-- The frames of the loop are those of its message. -/
lemma allFrom_reportLoop {data : Mem} (hdata : slice data 0 sizeofSocketData = u.frame garbage)
    (fds : List ℕ) : ∀ {i : ℕ} {log : FrameLog}, (reportLoop data fds i).Runs log () →
    AllFrom u garbage log := by
  induction fds with
  | nil =>
      intro i log h
      obtain ⟨rfl, -⟩ := runs_ret.1 h
      exact allFrom_nil
  | cons fd fds ih =>
      intro i log h
      obtain ⟨sts, l₁, l₂, hop, hrest, rfl⟩ := runs_bind.1 h
      obtain rfl := runs_op.1 hop
      refine List.forall_mem_cons.2 ⟨hdata, ?_⟩
      split_ifs at hrest with hsts
      · obtain ⟨_, l₃, l₄, hclose, herase, rfl⟩ := runs_bind.1 hrest
        obtain ⟨_, l₅, l₆, heraseAt, hloop, rfl⟩ := runs_bind.1 herase
        show AllFrom u garbage (l₃ ++ (l₅ ++ l₆))
        exact allFrom_daemon (isDaemon_of_runs hclose)
          (allFrom_daemon (isDaemon_of_runs heraseAt) (ih hloop))
      · exact ih hrest

lemma allFrom_reportStatus {event portId : UInt32} (h : (reportStatus event portId).Runs log ()) :
    AllFrom (.report event portId) garbage log := by
  obtain ⟨data, l₁, l₂, hnew, hbegin, rfl⟩ := runs_bind.1 h
  obtain ⟨garbage', rfl, rfl⟩ := runs_newSocketData hnew
  obtain ⟨_, l₃, l₄, hlock, hlist, rfl⟩ := runs_bind.1 hbegin
  obtain ⟨fds, l₅, l₆, hfds, hloop, rfl⟩ := runs_bind.1 hlist
  obtain ⟨_, l₇, l₈, hreports, hend, rfl⟩ := runs_bind.1 hloop
  show AllFrom (.report event portId) garbage' (l₃ ++ (l₅ ++ (l₇ ++ l₈)))
  refine allFrom_daemon (isDaemon_of_runs hlock) (allFrom_daemon (isDaemon_of_runs hfds) ?_)
  exact allFrom_append (allFrom_reportLoop (slice_assigned rfl garbage') fds hreports)
    (isDaemon_of_runs hend)

/-- The bytes that nobody sets: `KsvCount`, `Depth`, `isType1Capable` and what pads them, the
events of the ports, and from `SrmVersion` to the end. -/
def Source.unset : Source → List ℕ
  | .connection => List.range' 12 4 ++ List.range' 24 4 ++ List.range' 36 4 ++
    List.range' 48 4 ++ List.range' 60 4 ++ List.range' 72 4 ++ List.range' 84 16
  -- the event of the first port is that of the message
  | .report _ _ => List.range' 12 4 ++ List.range' 36 4 ++ List.range' 48 4 ++
    List.range' 60 4 ++ List.range' 72 4 ++ List.range' 84 16

lemma unset_report (event portId : UInt32) :
    (Source.report event portId).unset = (Source.report 0 0).unset := rfl

/-- The ranges that the assignments cover. -/
def ranges (ws : List Assignment) : List (ℕ × ℕ) := ws.map fun w => (w.off, w.bytes.length)

lemma covered_iff {ws : List Assignment} {k : ℕ} :
    Covered ws k ↔ ∃ r ∈ ranges ws, r.1 ≤ k ∧ k < r.1 + r.2 := by
  simp [Covered, ranges]

lemma not_covered_iff (u : Source) :
    ∀ k < sizeofSocketData, ¬ Covered u.assigned k ↔ k ∈ u.unset := by
  simp only [covered_iff]
  cases u with
  | connection => decide +kernel
  | report event portId =>
      have hranges : ranges (Source.report event portId).assigned =
          ranges (Source.report 0 0).assigned := rfl
      rw [hranges, unset_report]
      decide +kernel

lemma lt_of_mem_unset (u : Source) : ∀ k ∈ u.unset, k < sizeofSocketData := by
  cases u with
  | connection => decide
  | report event portId =>
      rw [unset_report]
      decide

lemma Source.frame_eq_iff (u : Source) (garbage garbage' : Mem) :
    u.frame garbage = u.frame garbage' ↔ ∀ k ∈ u.unset, garbage k = garbage' k := by
  rw [Source.frame, Source.frame, slice_assignAll_eq_iff]
  constructor
  · intro h k hk
    have hlt := lt_of_mem_unset u k hk
    exact h k hlt ((not_covered_iff u k hlt).2 hk)
  · intro h k hlt hk
    exact h k ((not_covered_iff u k hlt).1 hk)

lemma Source.Runs.allFrom (h : u.Runs log) : AllFrom u garbage log := by
  cases u with
  | connection =>
      obtain ⟨ret, hruns⟩ := h
      exact allFrom_acceptLoop _ hruns
  | report event portId => exact allFrom_reportStatus h

/-- Two frames about the same, sent in any two runs. -/
theorem frames_eq_iff (h : u.Runs log) (h' : u.Runs log') {start start' : Mem}
    {x y : Mem × List UInt8} (hx : x ∈ written start log) (hy : y ∈ written start' log') :
    x.2 = y.2 ↔ ∀ k ∈ u.unset, x.1 k = y.1 k := by
  rw [h.allFrom x hx, h'.allFrom y hy, u.frame_eq_iff]

/-- A run of `ReportStatus` with one connection, on a memory that holds the same byte
everywhere. -/
def oneConnection (byte : UInt8) : FrameLog :=
  [⟨.construct, fun _ => byte⟩, ⟨.daemon .callBackBegin, ()⟩, ⟨.daemon .getCallBackList, [7]⟩,
    ⟨.sendResponse (assignAll (assignAll (fun _ => byte) constructor) (reportData 1 2)) 7,
      Errno.success⟩,
    ⟨.daemon .callBackEnd, ()⟩]

lemma runs_oneConnection (byte : UInt8) : (reportStatus 1 2).Runs (oneConnection byte) () := by
  repeat refine .call _ _ _ ?_
  exact .ret _

lemma mem_written_oneConnection (byte : UInt8) (start : Mem) :
    ((fun _ => byte : Mem), Source.frame (.report 1 2) fun _ => byte) ∈
      written start (oneConnection byte) := by
  have hframe := slice_assigned (u := .report 1 2) rfl fun _ => byte
  rw [← hframe]
  exact .head _

theorem frames_eq_iff_oneConnection :
    Source.frame (.report 1 2) (fun _ => 0) = Source.frame (.report 1 2) (fun _ => 1) ↔
      ∀ k ∈ (Source.report 1 2).unset, (0 : UInt8) = 1 :=
  frames_eq_iff (u := .report 1 2) (runs_oneConnection 0) (runs_oneConnection 1)
    (mem_written_oneConnection 0 fun _ => 0) (mem_written_oneConnection 1 fun _ => 0)

/-- What the memory held before is sent. -/
theorem frames_not_same : ¬ ∀ (u : Source) (log log' : FrameLog), u.Runs log → u.Runs log' →
    ∀ start, ∀ x ∈ written start log, ∀ y ∈ written start log', x.2 = y.2 := by
  intro h
  have heq := h (.report 1 2) _ _ (runs_oneConnection 0) (runs_oneConnection 1) (fun _ => 0)
    _ (mem_written_oneConnection 0 _) _ (mem_written_oneConnection 1 _)
  revert heq
  decide +kernel

end Hdcp.Frames
