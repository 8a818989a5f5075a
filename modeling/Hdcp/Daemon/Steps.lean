/-
What the functions of the daemon do at most.

A function that serves a request talks with one client and with the rest of the daemon:
`Serves fd` are the interactions that it makes for the client at `fd`, and `Internal` those
with the port manager and the SRM module.  Only `CREATE_CALLBACK` does more.  Neither of them
changes where the descriptors are.
-/
import Hdcp.Daemon.Model

namespace Hdcp.Daemon

open Library Socket
open Library.Prog (op iter)

/-! ### Places and steps -/

/-- The interactions that change where descriptors are, or tell it. -/
def DaemonOp.onPlaces : DaemonOp → Bool
  | .accept | .close _ | .setSlot _ _ | .freeSlot _ | .callBackBegin | .callBackEnd
  | .removeCallBack _ | .pushBackCallBack _ | .eraseCallBackAt _ => true
  | _ => false

/-- The descriptors are where they were. -/
structure SamePlaces {ι : Type} (s s' : DaemonState ι) : Prop where
  fds : ∀ i, (s'.sessionFdArray i).fd = (s.sessionFdArray i).fd
  list : s'.callBackList = s.callBackList
  mutex : s'.callBackListMutex = s.callBackListMutex
  opened : s'.opened = s.opened

section Places

variable {ι : Type} {m : HdcpDaemon} {i : ι} {o : DaemonOp} {r : o.Ans} {s s' : DaemonState ι}

@[simp] lemma DaemonState.answer_eq_some {α : Type} [DecidableEq α] {x r : α} :
    s.answer x r = some s' ↔ r = x ∧ s' = s := by
  rw [answer]
  split
  · rename_i h
    simp [h, eq_comm]
  · rename_i h
    simp [h]

lemma SamePlaces.refl (s : DaemonState ι) : SamePlaces s s := ⟨fun _ => rfl, rfl, rfl, rfl⟩

/-- What does not change the places leaves them alone. -/
lemma step_places (ho : o.onPlaces = false) (h : m.step i o r s = some s') :
    SamePlaces s s' := by
  cases o
  case pollForEvent =>
    obtain rfl := Option.some.inj h
    cases (r : Except Errno (ℕ → ℕ)) with
    | error e => exact .refl s
    | ok revents => exact ⟨fun _ => rfl, rfl, rfl, rfl⟩
  case read fd size =>
    obtain ⟨-, rfl⟩ := (Option.ite_none_right_eq_some.1 h).imp_right Option.some.inj
    exact .refl _
  case send fd data =>
    obtain ⟨-, rfl⟩ := (Option.ite_none_right_eq_some.1 h).imp_right Option.some.inj
    exact .refl _
  case setFdIndex i =>
    obtain rfl := Option.some.inj h
    exact ⟨fun _ => rfl, rfl, rfl, rfl⟩
  case accept | close | setSlot | freeSlot | callBackBegin | callBackEnd | removeCallBack |
    pushBackCallBack | eraseCallBackAt =>
    exact absurd ho (by simp [DaemonOp.onPlaces])
  case getFdIndex | getSlot | getCallBackList =>
    rw [(DaemonState.answer_eq_some.1 h).2]
    exact .refl s
  all_goals
    obtain rfl := Option.some.inj h
    exact .refl _

end Places

/-! ### Interactions that a function makes -/

/-- The functions of the port manager and of the SRM module, and `new`. -/
def Internal : DaemonOp → Prop
  | .new _ | .portManagerHandleAppExit _ | .portManagerEnumeratePorts
  | .portManagerEnablePort _ _ _ | .portManagerDisablePort _ _ | .portManagerGetStatus _
  | .portManagerGetKsvList _ | .portManagerSendSrmData _ | .storeSrm _ | .getSrmVersion
  | .srmConfig _ => True
  | _ => False

/-- The interactions that serve the client at `fd`. -/
def Serves (fd : ℕ) (o : DaemonOp) : Prop :=
  Internal o ∨ (∃ n, o = .read fd n) ∨ ∃ data, o = .send fd data

variable {m : HdcpDaemon} {fd : ℕ} {data : SocketData}

lemma serves_of_internal (o : DaemonOp) (h : Internal o) : Serves fd o := .inl h

lemma internal_op {o : DaemonOp} (h : Internal o) : (op (S := daemonSig) o).Uses Internal :=
  Prog.uses_op.2 h

lemma serves_op {o : DaemonOp} (h : Internal o) : (op (S := daemonSig) o).Uses (Serves fd) :=
  Prog.uses_op.2 (.inl h)

/-! ### Messages -/

lemma serves_send (bytes : List UInt8) : (writeData (send fd) bytes).Uses (Serves fd) :=
  uses_writeLoop (fun data => Prog.uses_op.2 (.inr (.inr ⟨data, rfl⟩))) _ _

lemma serves_sendResponse {rsp : SocketData} : (m.sendResponse rsp fd).Uses (Serves fd) :=
  serves_send _

lemma serves_read (n : ℕ) : (readData (read fd) n).Uses (Serves fd) :=
  uses_readLoop (fun n => Prog.uses_op.2 (.inr (.inl ⟨n, rfl⟩))) _ _ _

lemma serves_getRequest : (m.getRequest fd).Uses (Serves fd) := by
  refine (serves_read _).bind ?_
  rintro (e | bytes)
  · trivial
  · trivial

lemma serves_respond {rsp : SocketData} : (m.respond rsp fd).Uses (Serves fd) :=
  serves_sendResponse.bind fun _ => Prog.Uses.ite (fun _ => serves_op trivial) fun _ => trivial

/-! ### Requests -/

lemma internal_enumeratePorts : (HdcpDaemon.enumeratePorts data).Uses Internal :=
  Prog.Uses.bind (internal_op trivial) fun _ =>
    Prog.Uses.ite (fun _ => trivial) fun _ => trivial

lemma internal_setProtectionLevel : (HdcpDaemon.setProtectionLevel data fd).Uses Internal := by
  refine Prog.Uses.ite (fun _ => trivial) fun _ => Prog.Uses.ite (fun _ => trivial) fun _ => ?_
  refine Prog.Uses.ite (fun _ => ?_) fun _ => Prog.Uses.ite (fun _ => ?_) fun _ => trivial
  · exact Prog.Uses.bind (internal_op trivial) fun _ =>
      Prog.Uses.ite (fun _ => trivial) fun _ => trivial
  · exact Prog.Uses.bind (internal_op trivial) fun _ =>
      Prog.Uses.ite (fun _ => trivial) fun _ => trivial

lemma internal_getStatus : (HdcpDaemon.getStatus data).Uses Internal := by
  refine Prog.Uses.ite (fun _ => trivial) fun _ => Prog.Uses.ite (fun _ => trivial) fun _ => ?_
  exact Prog.Uses.bind (internal_op trivial) fun r =>
    Prog.Uses.ite (fun _ => trivial) fun _ => trivial

lemma internal_getSrmVersion : (HdcpDaemon.getSrmVersion data).Uses Internal :=
  Prog.Uses.bind (internal_op trivial) fun _ =>
    Prog.Uses.ite (fun _ => trivial) fun _ => trivial

lemma internal_config : (HdcpDaemon.config data).Uses Internal :=
  Prog.Uses.bind (internal_op trivial) fun _ =>
    Prog.Uses.ite (fun _ => trivial) fun _ => trivial

lemma serves_getKsvList : (m.getKsvList data fd).Uses (Serves fd) := by
  refine Prog.Uses.ite (fun _ => trivial) fun _ => Prog.Uses.ite (fun _ => trivial) fun _ => ?_
  refine Prog.Uses.bind (serves_op trivial) fun _ => Prog.Uses.ite (fun _ => trivial) fun _ => ?_
  refine Prog.Uses.bind (serves_op trivial) fun r => Prog.Uses.ite (fun _ => trivial) fun _ => ?_
  refine Prog.Uses.ite (fun _ => trivial) fun _ => Prog.Uses.ite (fun _ => trivial) fun _ => ?_
  refine serves_sendResponse.bind fun _ => Prog.Uses.ite (fun _ => trivial) fun _ => ?_
  have hksv (bytes : List UInt8) : (HdcpDaemon.sendKsvListData bytes fd).Uses (Serves fd) :=
    Prog.Uses.ite (fun _ => trivial) fun _ => serves_send _
  exact (hksv _).bind fun _ => Prog.Uses.ite (fun _ => trivial) fun _ => trivial

lemma serves_sendSrmData : (m.sendSrmData data fd).Uses (Serves fd) := by
  refine Prog.Uses.ite (fun _ => trivial) fun _ => ?_
  refine Prog.Uses.bind (serves_op trivial) fun _ => Prog.Uses.ite (fun _ => trivial) fun _ => ?_
  refine serves_sendResponse.bind fun _ => Prog.Uses.ite (fun _ => trivial) fun _ => ?_
  have hsrm (n : ℕ) : (HdcpDaemon.getSrmData n fd).Uses (Serves fd) :=
    Prog.Uses.ite (fun _ => trivial) fun _ => serves_read n
  refine (hsrm _).bind ?_
  rintro (e | srmData)
  · trivial
  refine Prog.Uses.bind (serves_op trivial) fun _ => Prog.Uses.ite (fun _ => trivial) fun _ => ?_
  exact Prog.Uses.bind (serves_op trivial) fun _ =>
    Prog.Uses.ite (fun _ => trivial) fun _ => trivial

/-- A request other than `CREATE_CALLBACK` is served without touching the list. -/
lemma serves_dispatchCommand (h : data.command ≠ HdcpApi.createCallBack) :
    (m.dispatchCommand data fd).Uses (Serves fd) := by
  have hin {p : DaemonProg SocketData} (hp : p.Uses Internal) :
      (p >>= fun data => pure (data, true)).Uses (Serves fd) :=
    (hp.mono serves_of_internal).bind fun _ => trivial
  refine Prog.Uses.ite (fun _ => hin internal_enumeratePorts) fun _ => ?_
  refine Prog.Uses.ite (fun _ => trivial) fun _ => Prog.Uses.ite (fun _ => ?_) fun _ => ?_
  · exact Prog.Uses.bind (serves_op trivial) fun _ => trivial
  refine Prog.Uses.ite (fun hc => absurd hc h) fun _ => ?_
  refine Prog.Uses.ite (fun _ => hin internal_setProtectionLevel) fun _ => ?_
  refine Prog.Uses.ite (fun _ => hin internal_getStatus) fun _ => ?_
  refine Prog.Uses.ite (fun _ => serves_getKsvList.bind fun _ => trivial) fun _ => ?_
  refine Prog.Uses.ite (fun _ => serves_sendSrmData.bind fun _ => trivial) fun _ => ?_
  refine Prog.Uses.ite (fun _ => hin internal_getSrmVersion) fun _ => ?_
  exact Prog.Uses.ite (fun _ => hin internal_config) fun _ => trivial

lemma serves_answerTask {task : HdcpDaemon.Task} (h : task.req.command ≠ HdcpApi.createCallBack) :
    (m.answerTask task).Uses (Serves task.appId) := by
  refine Prog.Uses.ite (fun _ => serves_respond) fun _ => (serves_dispatchCommand h).bind ?_
  rintro ⟨data, sendResponse⟩
  exact Prog.Uses.ite (fun _ => serves_respond) fun _ => trivial

/-! ### The search of a request -/

/-- The interactions of the loop of `GetTask`. -/
def DaemonOp.inTask : DaemonOp → Bool
  | .accept | .read _ _ | .send _ _ | .close _ | .getSlot _ | .setSlot _ _ | .freeSlot _ => true
  | _ => false

def InTask (o : DaemonOp) : Prop := o.inTask = true

lemma inTask_op {o : DaemonOp} (h : o.inTask = true) : (op (S := daemonSig) o).Uses InTask :=
  Prog.uses_op.2 h

/-- The search of an empty entry looks at the entries only. -/
lemma uses_findEmptySlot (todo i : ℕ) :
    (HdcpDaemon.findEmptySlot todo i).Uses fun o => ∃ i, o = DaemonOp.getSlot i := by
  induction todo generalizing i with
  | zero => trivial
  | succ todo ih =>
      refine Prog.Uses.bind (Prog.uses_op.2 ⟨i, rfl⟩) fun slot => ?_
      exact Prog.Uses.ite (fun _ => trivial) fun _ => ih (i + 1)

lemma uses_acceptLoop (rounds emptyIndex : ℕ) : (m.acceptLoop rounds emptyIndex).Uses InTask := by
  induction rounds generalizing emptyIndex with
  | zero => trivial
  | succ rounds ih =>
      refine Prog.Uses.bind (inTask_op rfl) ?_
      rintro (e | incomingFd)
      · trivial
      have hsearch (todo i : ℕ) : (HdcpDaemon.findEmptySlot todo i).Uses InTask := by
        refine (uses_findEmptySlot todo i).mono ?_
        rintro o ⟨i, rfl⟩
        rfl
      refine (hsearch _ _).bind ?_
      rintro (_ | i)
      · exact Prog.Uses.bind (inTask_op rfl) fun _ => trivial
      · refine Prog.Uses.bind (inTask_op rfl) fun _ => Prog.Uses.bind ?_ fun _ => ih i
        exact uses_writeLoop (fun _ => inTask_op rfl) _ _

lemma uses_serveSlot (i fd : ℕ) : (m.serveSlot i fd).Uses InTask := by
  have hrequest : (m.getRequest fd).Uses InTask := by
    refine (uses_readLoop (fun _ => inTask_op rfl) _ _ _).bind ?_
    rintro (e | bytes)
    · trivial
    · trivial
  refine hrequest.bind ?_
  rintro (e | req)
  · refine Prog.Uses.bind (inTask_op rfl) fun _ => ?_
    exact Prog.Uses.bind (inTask_op rfl) fun _ => trivial
  · refine Prog.Uses.ite (fun _ => ?_) fun _ => trivial
    exact Prog.Uses.bind (inTask_op rfl) fun _ => trivial

lemma uses_getTaskLoop (fdIndex todo i : ℕ) : (m.getTaskLoop fdIndex todo i).Uses InTask := by
  induction todo generalizing i with
  | zero => trivial
  | succ todo ih =>
      refine Prog.Uses.ite (fun _ => trivial) fun _ => ?_
      refine Prog.Uses.bind (inTask_op rfl) ?_
      rintro ⟨_ | fd, revents⟩
      · exact ih _
      · refine Prog.Uses.ite (fun _ => ih _) fun _ => Prog.Uses.ite (fun _ => ?_) fun _ => ?_
        · refine (uses_acceptLoop _ _).bind fun ret => ?_
          exact Prog.Uses.ite (fun _ => trivial) fun _ => ih _
        · exact (uses_serveSlot _ _).bind fun _ => trivial

/-- `CREATE_CALLBACK` moves the descriptor to the end of the list. -/
lemma dispatchCommand_createCallBack (h : data.command = HdcpApi.createCallBack) :
    m.dispatchCommand data fd = (do
      callBackBegin
      removeCallBack fd
      pushBackCallBack fd
      callBackEnd
      return (data, false)) := by
  rw [HdcpDaemon.dispatchCommand, h]
  rfl

/-- A daemon with the usual layout of messages. -/
def usualDaemon : HdcpDaemon := ⟨socketDataLayout, 3⟩

end Hdcp.Daemon
