/-
The thread that listens for events.

`CallBackManager` reads messages from the callback socket, in whatever parts they arrive, and
calls the callback functions of the sessions for each report.  This file has the thread with
the bytes of the messages and with what is given to a callback function; what a callback
function asks of the SDK is executed on the thread before the loop goes on.

`does_callBackManager`: on a connection that does not fail, the thread takes what it hears for
the reports that were sent, and has called for each of them, in their order, every session that
was in the list and has a callback function, in the order of the list.
-/
import Hdcp.Sdk.Channel
import Hdcp.Socket.Remote

namespace Hdcp.Listener

open Library Sdk Socket Channel
open Library.Prog (op forEach iter)

/-! ### The thread -/

/-- The interactions: those of the channel, `read` on the callback socket, and the call of a
callback function with all that is given to it. -/
inductive ListenerOp where
  | channel (o : ChannelOp)
  | read (size : ℕ)
  | invoke (func handle : ℕ) (portId event : UInt32) (context : ℕ)

/-- The answer to `invoke` is what the callback function asks of the SDK. -/
def ListenerOp.Ans : ListenerOp → Type
  | channel o => o.Ans
  | read _ => Except Errno (List UInt8)
  | invoke _ _ _ _ _ => List ApiCall

abbrev listenerSig : Sig := ⟨ListenerOp, ListenerOp.Ans⟩

abbrev ListenerProg (α : Type) : Type := Prog listenerSig α

def read (size : ℕ) : ListenerProg (Except Errno (List UInt8)) :=
  op (S := listenerSig) (.read size)

def invoke (func handle : ℕ) (portId event : UInt32) (context : ℕ) :
    ListenerProg (List ApiCall) :=
  op (S := listenerSig) (.invoke func handle portId event context)

/-- A program of the session manager. -/
def inSdk {α : Type} (p : SdkProg α) : ListenerProg α :=
  (p.subst implement).subst fun o => op (S := listenerSig) (.channel o)

def exitThread : ListenerProg Unit := op (S := listenerSig) (.channel .exitThread)

/-- `GetMessage`. -/
def getMessage (L : Layout) : ListenerProg (Except Errno SocketData) := do
  match ← readData read L.size with
  | .error e => return .error e
  | .ok bytes => return .ok (L.decode bytes)

/-- A round of the loop over the sessions. -/
def deliverTo (data : SocketData) (session : ℕ) : ListenerProg Unit := do
  let fields ← inSdk (getSession session)
  match fields.callBack with
  | none => return ()
  | some func =>
    let calls ← invoke func fields.handle data.singlePort.id data.singlePort.event fields.context
    inSdk (forEach calls apiCall)

def deliver (data : SocketData) : ListenerProg Unit := do
  inSdk iteratorCriticalSectionEnter
  let sessions ← inSdk getSessionList
  forEach sessions (deliverTo data)
  inSdk iteratorCriticalSectionExit

/-- A round of `CallBackManager`. -/
def callBackRound (L : Layout) (_ : Unit) : ListenerProg (Unit ⊕ Unit) := do
  match ← getMessage L with
  | .error sts =>
    if sts = .enotconn then
      inSdk destroyCallback
      exitThread
      return .inr ()
    return .inl ()
  | .ok data =>
    if data.size.toNat ≠ L.size then
      return .inl ()
    if data.command ≠ HdcpApi.reportStatus then
      return .inl ()
    deliver data
    return .inl ()

def callBackManager (L : Layout) (rounds : ℕ) : ListenerProg (Option Unit) :=
  iter (callBackRound L) rounds ()

/-! ### The thread without what it is told -/

/-- The interactions of the thread in the model of the channel. -/
def forget : (o : ListenerOp) → ChannelProg o.Ans
  | .channel o => op (S := channelSig) o
  | .read _ => .ret (.error .enotconn)
  | .invoke func handle _ _ context => (Sdk.invoke func handle context).subst implement

lemma forget_inSdk {α : Type} (p : SdkProg α) : (inSdk p).subst forget = p.subst implement := by
  rw [inSdk]
  induction p.subst implement with
  | ret a => rfl
  | call o k ih => exact congrArg (Prog.call o) (funext ih)

lemma forget_bind {α β : Type} {p : ListenerProg α} {q : SdkProg α} {f : α → ListenerProg β}
    {g : α → SdkProg β} (h : p.subst forget = q.subst implement)
    (hf : ∀ a, (f a).subst forget = (g a).subst implement) :
    (p >>= f).subst forget = (q >>= g).subst implement := by
  rw [Prog.subst_bind, Prog.subst_bind, h]
  exact congrArg _ (funext hf)

lemma forget_deliverTo (data : SocketData) (session : ℕ) :
    (deliverTo data session).subst forget = (Sdk.deliverTo session).subst implement := by
  refine forget_bind (forget_inSdk _) fun fields => ?_
  rcases fields.callBack with _ | func
  · rfl
  · rw [Prog.subst_bind, Prog.subst_bind]
    exact congrArg _ (funext fun calls => forget_inSdk _)

/-- The loop over the sessions is that of the session manager. -/
theorem forget_deliver (data : SocketData) :
    (deliver data).subst forget = Sdk.deliver.subst implement := by
  have hloop (sessions : List ℕ) : (forEach sessions (deliverTo data)).subst forget =
      (forEach sessions Sdk.deliverTo).subst implement := by
    induction sessions with
    | nil => rfl
    | cons session sessions ih => exact forget_bind (forget_deliverTo data session) fun _ => ih
  refine forget_bind (forget_inSdk _) fun _ => ?_
  refine forget_bind (forget_inSdk _) fun sessions => ?_
  exact forget_bind (hloop sessions) fun _ => forget_inSdk _

/-! ### What the thread does -/

abbrev ListenerLog : Type := List (Event listenerSig)

/-- The calls of callback functions. -/
def callsOf (log : ListenerLog) : List ListenerOp :=
  log.filterMap fun
    | ⟨.invoke func handle portId event context, _⟩ =>
      some (.invoke func handle portId event context)
    | _ => none

/-- The lists of sessions that the loops went over. -/
def listsOf (log : ListenerLog) : List (List ℕ) :=
  log.filterMap fun
    | ⟨.channel (.sdk .getSessionList), r⟩ => some r
    | _ => none

/-- What a session is called with for a report of an event and a port. -/
def callFor (fields : ℕ → Session) (report : UInt32 × UInt32) (session : ℕ) :
    Option ListenerOp :=
  (fields session).callBack.map fun func =>
    .invoke func (fields session).handle report.2 report.1 (fields session).context

/-- Each report was delivered to all sessions that were in the list. -/
structure Delivered (fields : ℕ → Session) (reports : List (UInt32 × UInt32))
    (log : ListenerLog) : Prop where
  lists : (listsOf log).length = reports.length
  calls : callsOf log = (reports.zip (listsOf log)).flatMap fun x =>
    x.2.filterMap (callFor fields x.1)

/-- The thread, on a connection that does not fail. -/
def listener (fields : ℕ → Session) : Party listenerSig UInt8 where
  said _ := []
  heard
    | ⟨.read _, r⟩ => readBytes r
    | _ => []
  works
    | ⟨.read n, r⟩ => Remote.readWorks n r
    | ⟨.channel (.sdk (.getSession session)), r⟩ => r = fields session
    | _ => True
  inner
    | ⟨.read _, _⟩ => false
    | _ => true

variable {fields : ℕ → Session} {log log' : ListenerLog} {α : Type} {L : Layout}
  {reports : List (UInt32 × UInt32)} {report : UInt32 × UInt32}

lemma callsOf_append : callsOf (log ++ log') = callsOf log ++ callsOf log' :=
  List.filterMap_append

lemma listsOf_append : listsOf (log ++ log') = listsOf log ++ listsOf log' :=
  List.filterMap_append

/-- Nothing that is looked at is read from the connection. -/
lemma filterMap_innerIn {β : Type} {f : Event listenerSig → Option β}
    (hf : ∀ n r, f ⟨.read n, r⟩ = none) :
    ((listener fields).innerIn log).filterMap f = log.filterMap f := by
  rw [Party.innerIn, List.filterMap_filter]
  refine List.filterMap_congr fun e _ => ?_
  obtain ⟨o, r⟩ := e
  rcases o with o | n | _
  · rfl
  · exact (hf n r).symm
  · rfl

@[simp] lemma callsOf_innerIn : callsOf ((listener fields).innerIn log) = callsOf log :=
  filterMap_innerIn fun _ _ => rfl

@[simp] lemma listsOf_innerIn : listsOf ((listener fields).innerIn log) = listsOf log :=
  filterMap_innerIn fun _ _ => rfl

/-! ### What a callback function asks of the SDK -/

/-- The interactions that do not look at the whole list of sessions. -/
def Aside (o : SdkOp) : Prop := o ≠ .getSessionList

lemma aside_of_ofApi (o : SdkOp) (ho : o.ofApi = true) : Aside o := by
  rintro rfl
  exact absurd ho (by decide)

/-- The interactions that are not recorded, and read nothing from the connection. -/
def Quiet : ListenerOp → Prop
  | .channel (.sdk .getSessionList) => False
  | .channel _ => True
  | _ => False

lemma quiet_channel (p : ChannelProg α) (h : p.Uses fun o : ChannelOp => o ≠ .sdk .getSessionList) :
    (p.subst fun o => op (S := listenerSig) (.channel o)).Uses Quiet := by
  induction p with
  | ret a => trivial
  | call o k ih =>
      refine Prog.Uses.op_bind ?_ fun r => ih r (h.2 r)
      have ho := h.1
      cases o with
      | sdk o =>
          cases o
          case getSessionList => exact absurd rfl ho
          all_goals trivial
      | _ => trivial

lemma quiet_inSdk {p : SdkProg α} (h : p.Uses Aside) : (inSdk p).Uses Quiet := by
  refine quiet_channel _ ?_
  induction p with
  | ret a => trivial
  | call o k ih =>
      refine Prog.Uses.bind ?_ fun r => ih r (h.2 r)
      have ho : o ≠ .getSessionList := h.1
      cases o
      case getSessionList => exact absurd rfl ho
      case initCallBack =>
        -- the channel is made without a look at the sessions
        have hinit : Channel.initCallBack.Uses fun o : ChannelOp => o ≠ .sdk .getSessionList := by
          refine Prog.Uses.op_bind (by simp) fun (initialized : Bool) => ?_
          refine Prog.Uses.ite (fun _ => trivial) fun _ => ?_
          refine Prog.Uses.op_bind (by simp) fun (memory : Bool) => ?_
          refine Prog.Uses.ite (fun _ => trivial) fun _ => ?_
          refine Prog.Uses.op_bind (by simp) fun (ret : ℕ) => ?_
          refine Prog.Uses.ite (fun _ => trivial) fun _ => ?_
          refine Prog.Uses.op_bind (by simp) fun (ret : ℕ) => ?_
          refine Prog.Uses.ite (fun _ => trivial) fun _ => ?_
          refine Prog.Uses.op_bind (by simp) fun (created : ℕ × ℕ) => ?_
          refine Prog.Uses.ite (fun _ => ?_) fun _ => ?_
          · exact Prog.Uses.op_bind (by simp) fun _ => trivial
          · exact Prog.Uses.op_bind (by simp) fun _ => trivial
        refine Prog.Uses.op_bind (by simp) fun (initialized : Bool) => ?_
        refine Prog.Uses.ite (fun _ => trivial) fun _ => Prog.Uses.op_bind (by simp) fun _ => ?_
        exact hinit.bind fun sts => Prog.Uses.op_bind (by simp) fun _ => trivial
      all_goals exact Prog.uses_op.2 (by simp)

/-! ### A round -/

/-- Nothing is heard, and no callback function is called. -/
def Silent (_ : α) (heard _ : List UInt8) (log : ListenerLog) : Prop :=
  heard = [] ∧ callsOf log = [] ∧ listsOf log = []

lemma does_quiet {p : ListenerProg α} (h : p.Uses Quiet) : (listener fields).Does Silent p := by
  intro log a hrun _
  have hquiet (e : Event listenerSig) (he : e ∈ log) : Quiet e.op := h.of_runs hrun he
  rw [Silent, callsOf_innerIn, listsOf_innerIn]
  refine ⟨List.flatMap_eq_nil_iff.2 fun e he => ?_, List.filterMap_eq_nil_iff.2 fun e he => ?_,
    List.filterMap_eq_nil_iff.2 fun e he => ?_⟩
  all_goals
    have hop := hquiet e he
    obtain ⟨o, r⟩ := e
    rcases o with (o | _) | _ | _
    · cases o
      case getSessionList => exact hop.elim
      all_goals rfl
    all_goals first | rfl | exact hop.elim

/-- Nothing is heard, and these calls are made. -/
def Calls (calls : List ListenerOp) (_ : α) (heard _ : List UInt8) (log : ListenerLog) : Prop :=
  heard = [] ∧ callsOf log = calls ∧ listsOf log = []

lemma does_getSession (session : ℕ) :
    (listener fields).Does (fun r heard said log => Silent r heard said log ∧ r = fields session)
      (inSdk (getSession session)) :=
  Party.does_op (S := listenerSig) (o := .channel (.sdk (.getSession session)))
    fun _ hr => ⟨⟨rfl, rfl, rfl⟩, hr⟩

lemma does_deliverTo (data : SocketData) (session : ℕ) :
    (listener fields).Does
      (Calls (callFor fields (data.singlePort.event, data.singlePort.id) session).toList)
      (deliverTo data session) := by
  refine (does_getSession session).bind ?_
  rintro s heard said log ⟨⟨rfl, hcalls, hlists⟩, rfl⟩
  rw [callFor]
  rcases (fields session).callBack with _ | func
  · refine Party.does_ret ⟨rfl, ?_, ?_⟩
    · rw [List.append_nil, hcalls]
      rfl
    · rw [List.append_nil, hlists]
  · refine (Party.does_op (S := listenerSig) (Q := Calls [.invoke func (fields session).handle
      data.singlePort.id data.singlePort.event (fields session).context])
      (o := .invoke func (fields session).handle data.singlePort.id data.singlePort.event
      (fields session).context) fun _ _ => ⟨rfl, rfl, rfl⟩).bind ?_
    rintro (calls : List ApiCall) heard' said' log' ⟨rfl, hcalls', hlists'⟩
    have huses : (forEach calls apiCall).Uses Aside :=
      Prog.uses_forEach fun c _ => uses_apiCall aside_of_ofApi c
    refine (does_quiet (quiet_inSdk huses)).mono ?_
    rintro _ heard'' said'' log'' ⟨rfl, hcalls'', hlists''⟩
    refine ⟨rfl, ?_, ?_⟩
    · rw [callsOf_append, callsOf_append, hcalls, hcalls', hcalls'']
      rfl
    · rw [listsOf_append, listsOf_append, hlists, hlists', hlists'']
      rfl

lemma does_forEach (data : SocketData) (sessions : List ℕ) :
    (listener fields).Does
      (Calls (sessions.filterMap (callFor fields (data.singlePort.event, data.singlePort.id))))
      (forEach sessions (deliverTo data)) := by
  induction sessions with
  | nil => exact Party.does_ret ⟨rfl, rfl, rfl⟩
  | cons session sessions ih =>
      refine (does_deliverTo data session).bind ?_
      rintro _ heard said log ⟨rfl, hcalls, hlists⟩
      refine ih.mono ?_
      rintro _ heard' said' log' ⟨rfl, hcalls', hlists'⟩
      refine ⟨rfl, ?_, ?_⟩
      · rw [callsOf_append, hcalls, hcalls', List.filterMap_cons]
        rcases callFor fields (data.singlePort.event, data.singlePort.id) session with _ | call
        · rfl
        · rfl
      · rw [listsOf_append, hlists, hlists']
        rfl

/-- One report was delivered. -/
def DeliveredOne (fields : ℕ → Session) (report : UInt32 × UInt32) (log : ListenerLog) : Prop :=
  ∃ sessions, listsOf log = [sessions] ∧ callsOf log = sessions.filterMap (callFor fields report)

lemma does_deliver (data : SocketData) :
    (listener fields).Does (fun _ heard _ log => heard = [] ∧
      DeliveredOne fields (data.singlePort.event, data.singlePort.id) log) (deliver data) := by
  refine (does_quiet (quiet_inSdk (uses_enter aside_of_ofApi))).bind ?_
  rintro _ heard said log ⟨rfl, hcalls, hlists⟩
  refine (Party.does_op (S := listenerSig) (o := .channel (.sdk .getSessionList))
    (Q := fun sessions heard _ log => heard = [] ∧ callsOf log = [] ∧ listsOf log = [sessions])
    fun _ _ => ⟨rfl, rfl, rfl⟩).bind ?_
  rintro sessions heard' said' log' ⟨rfl, hcalls', hlists'⟩
  refine (does_forEach data sessions).bind ?_
  rintro _ heard'' said'' log'' ⟨rfl, hcalls'', hlists''⟩
  refine (does_quiet (quiet_inSdk (uses_exit aside_of_ofApi))).mono ?_
  rintro _ heard₃ said₃ log₃ ⟨rfl, hcalls₃, hlists₃⟩
  refine ⟨rfl, sessions, ?_, ?_⟩
  · rw [listsOf_append, listsOf_append, listsOf_append, hlists, hlists', hlists'', hlists₃]
    rfl
  · rw [callsOf_append, callsOf_append, callsOf_append, hcalls, hcalls', hcalls'', hcalls₃,
      List.append_nil]
    rfl

lemma listener_read (n : ℕ) : Remote.ReadsSome (listener fields) n (read n) := by
  refine Party.does_op (S := listenerSig) (o := .read n) fun r hr => ?_
  obtain ⟨hok, hne, hle⟩ := Remote.readsSome_of_works (r := r) hr
  exact ⟨hok, hne, hle, rfl, rfl⟩

lemma does_getMessage :
    (listener fields).Does (fun r heard _ log => heard.length = L.size ∧
      r = .ok (L.decode heard) ∧ log = []) (getMessage L) := by
  refine (Remote.does_readData (P := listener fields) listener_read L.size).bind ?_
  rintro r heard said log ⟨rfl, hlength, rfl, rfl⟩
  exact Party.does_ret ⟨by rw [List.append_nil, hlength], by rw [List.append_nil], rfl⟩

/-- What is heard in a round is one message; a report is delivered. -/
lemma does_callBackRound :
    (listener fields).Does (fun r heard _ log => heard.length = L.size ∧
      ((L.decode heard).size.toNat = L.size → (L.decode heard).command = HdcpApi.reportStatus →
        r = .inl () ∧ DeliveredOne fields
          ((L.decode heard).singlePort.event, (L.decode heard).singlePort.id) log))
      (callBackRound L ()) := by
  refine does_getMessage.bind ?_
  rintro r heard said log ⟨hlength, rfl, rfl⟩
  refine Party.Does.ite (fun hsize => ?_) fun hsize => ?_
  · refine Party.does_ret ⟨by rw [List.append_nil, hlength], fun h => ?_⟩
    rw [List.append_nil] at h
    exact absurd h hsize
  refine Party.Does.ite (fun hcommand => ?_) fun hcommand => ?_
  · refine Party.does_ret ⟨by rw [List.append_nil, hlength], fun _ h => ?_⟩
    rw [List.append_nil] at h
    exact absurd h hcommand
  refine (does_deliver (L.decode heard)).bind ?_
  rintro _ heard' said' log' ⟨rfl, hone⟩
  refine Party.does_ret ⟨by simp [hlength], fun _ _ => ⟨rfl, ?_⟩⟩
  simpa using hone

/-! ### The loop -/

/-- How reports are written as messages. -/
structure Frames (L : Layout) (frame : UInt32 × UInt32 → List UInt8) : Prop where
  length : ∀ report, (frame report).length = L.size
  size : ∀ report, (L.decode (frame report)).size.toNat = L.size
  command : ∀ report, (L.decode (frame report)).command = HdcpApi.reportStatus
  event : ∀ report, (L.decode (frame report)).singlePort.event = report.1
  port : ∀ report, (L.decode (frame report)).singlePort.id = report.2

variable {frame : UInt32 × UInt32 → List UInt8}

lemma Delivered.cons (hone : DeliveredOne fields report log)
    (h : Delivered fields reports log') : Delivered fields (report :: reports) (log ++ log') := by
  obtain ⟨sessions, hlists, hcalls⟩ := hone
  constructor
  · rw [listsOf_append, hlists, List.length_append, h.lists, List.length_cons]
    exact Nat.add_comm _ _
  · rw [callsOf_append, listsOf_append, hcalls, hlists, h.calls]
    rfl

/-- On a stream of reports, the rounds deliver one after the other. -/
lemma does_callBackManager (hframe : Frames L frame) (rounds : ℕ) :
    (listener fields).Does (fun r heard _ log => ∀ reports : List (UInt32 × UInt32),
      heard <+: reports.flatMap frame → r = none ∧ rounds ≤ reports.length ∧
        heard = (reports.take rounds).flatMap frame ∧
          Delivered fields (reports.take rounds) log) (callBackManager L rounds) := by
  induction rounds with
  | zero => exact Party.does_ret fun reports _ => ⟨rfl, Nat.zero_le _, rfl, rfl, rfl⟩
  | succ rounds ih =>
      rw [callBackManager, Prog.iter_succ]
      refine does_callBackRound.bind ?_
      rintro r heard said log ⟨hlength, hround⟩
      by_cases hreport : ∃ report, heard = frame report
      · obtain ⟨report, rfl⟩ := hreport
        obtain ⟨rfl, hone⟩ := hround (hframe.size report) (hframe.command report)
        rw [hframe.event, hframe.port] at hone
        refine ih.mono ?_
        intro r heard' said' log' hrest reports hprefix
        cases reports with
        | nil =>
            have hnil := List.prefix_nil.1 hprefix
            have hpos : 0 < (frame report).length := hlength ▸ layout_size_pos L
            rw [(List.append_eq_nil_iff.1 hnil).1] at hpos
            exact absurd hpos (Nat.lt_irrefl 0)
        | cons report' reports =>
            obtain ⟨hsame, hprefix'⟩ := prefix_append_of_length hprefix
              ((hframe.length report).trans (hframe.length report').symm)
            -- the message tells which report it is
            obtain rfl : report = report' := Prod.ext
              (by rw [← hframe.event report, hsame, hframe.event])
              (by rw [← hframe.port report, hsame, hframe.port])
            obtain ⟨rfl, hle, rfl, hdelivered⟩ := hrest reports hprefix'
            exact ⟨rfl, Nat.succ_le_succ hle, rfl, hdelivered.cons hone⟩
      · -- what is heard first is not the message of a report
        intro log' r' hrun hworks reports hprefix
        cases reports with
        | nil =>
            have hnil := List.prefix_nil.1 hprefix
            rw [(List.append_eq_nil_iff.1 hnil).1] at hlength
            exact absurd hlength (layout_size_pos L).ne
        | cons report reports =>
            obtain ⟨hsame, -⟩ := prefix_append_of_length hprefix
              (hlength.trans (hframe.length report).symm)
            exact absurd ⟨report, hsame⟩ hreport

end Hdcp.Listener
