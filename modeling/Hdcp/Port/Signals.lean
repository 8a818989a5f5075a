/-
The mutexes of the daemon and its signal handler.

The locks are the `m_ConnectionMutex` and the `m_CpTypeMutex` of each port and
`m_CallBackListMutex`.  The threads take a mutex of a connection or of a type, and above it
`m_CallBackListMutex` when they report.  `SigCatcher` runs `DisableAllPorts` on the thread
that the signal reaches, and this takes the mutexes of all types, one after the other.  So
it waits for itself when the thread holds the mutex of a type, and it can wait for a thread
that waits for it when it holds `m_CallBackListMutex`; a mutex of a connection does no harm.

The signal handler ends with `exit`, an interaction from which no thread goes on.
-/
import Hdcp.Library.Signals
import Hdcp.Port.Steps

namespace Hdcp.Signals

open Library Port
open Library.Prog (op forEach)

/-! ### The threads and the signal handler -/

inductive CatchOp where
  | port (o : PortOp)
  | exit
deriving DecidableEq

def CatchOp.Ans : CatchOp → Type
  | port o => o.Ans
  | exit => Unit

abbrev catchSig : Sig := ⟨CatchOp, CatchOp.Ans⟩

abbrev CatchProg (α : Type) : Type := Prog catchSig α

/-- A program of the port manager. -/
def inPort {α : Type} (q : PortProg α) : CatchProg α :=
  q.subst fun o => op (S := catchSig) (.port o)

lemma inPort_bind {α β : Type} (q : PortProg α) (f : α → PortProg β) :
    inPort (q >>= f) = inPort q >>= fun x => inPort (f x) := Prog.subst_bind q f

/-- The registration for callbacks, as far as its mutex is concerned. -/
def createCallBack : PortProg Errno := do
  callBackListBegin
  callBackListEnd
  return .success

/-- What a thread can be at: a call of the port manager, the registration for callbacks or the
signal handler. -/
inductive CatchCall where
  | serve (c : PortCall)
  | createCallBack
  | sigCatcher
deriving DecidableEq, Repr

/-- `SigCatcher`, for a signal that terminates. -/
def sigCatcher (m : PortManager) : CatchProg Errno := do
  inPort m.disableAllPorts
  op (S := catchSig) .exit
  return .success

def catchBody (m : PortManager) : CatchCall → CatchProg Errno
  | .serve c => inPort (m.callBody c)
  | .createCallBack => inPort createCallBack
  | .sigCatcher => sigCatcher m

def catchMay : Thread → CatchCall → Bool
  | i, .serve c => portMay i c
  | .message, .createCallBack => true
  | _, _ => false

def catchStep (i : Thread) : (o : CatchOp) → o.Ans → PortState → Option PortState
  | .port o, r, s => portStep i o r s
  | .exit, _, s => some s

/-- The daemon with its signal handler. -/
def catchSystem (m : PortManager) : System catchSig Thread CatchCall Errno PortState where
  body := catchBody m
  may i c := catchMay i c = true
  step := catchStep

abbrev CatchTrace : Type := Trace catchSig Thread CatchCall Errno

abbrev CatchLabel : Type := Label catchSig Thread CatchCall Errno

abbrev CatchConfig : Type := Config catchSig Thread CatchCall Errno PortState

/-- The steps before the daemon exits. -/
def untilExit : CatchTrace → PortState → CatchLabel → Prop
  | _, _, .op _ _ ⟨.exit, _⟩ => False
  | _, _, _ => True

/-- The condition on the signals: the thread holds no mutex of a type, and not the mutex of
the callback list. -/
def signalCondition (s : PortState) (i : Thread) : Prop :=
  (∀ p, s.cpTypeMutex p ≠ some i) ∧ s.callBackListMutex ≠ some i

/-! ### The order of the mutexes -/

inductive PortLock where
  | connection (portId : ℕ)
  | cpType (portId : ℕ)
  | callBackList
deriving DecidableEq, Repr

def PortLock.rank : PortLock → ℕ
  | .connection _ => 0
  | .cpType _ => 1
  | .callBackList => 2

def acquires : CatchOp → Option PortLock
  | .port (.connAtomicBegin p) => some (.connection p)
  | .port (.cpTypeAtomicBegin p) => some (.cpType p)
  | .port .callBackListBegin => some .callBackList
  | _ => none

def releases : CatchOp → Option PortLock
  | .port (.connAtomicEnd p) => some (.connection p)
  | .port (.cpTypeAtomicEnd p) => some (.cpType p)
  | .port .callBackListEnd => some .callBackList
  | _ => none

def holder (s : PortState) : PortLock → Option Thread
  | .connection p => s.connectionMutex p
  | .cpType p => s.cpTypeMutex p
  | .callBackList => s.callBackListMutex

variable {i j : Thread} {s s' : PortState} {l : PortLock} {p : ℕ}

lemma holder_connection (x : Option Thread) :
    holder { s with connectionMutex := Function.update s.connectionMutex p x } =
      Function.update (holder s) (.connection p) x := by
  ext1 l
  cases l with
  | connection q =>
      have hinj : Function.Injective PortLock.connection := fun _ _ => PortLock.connection.inj
      exact (Function.update_apply_of_injective (holder s) hinj p x q).symm
  | cpType q => rfl
  | callBackList => rfl

lemma holder_cpType (x : Option Thread) :
    holder { s with cpTypeMutex := Function.update s.cpTypeMutex p x } =
      Function.update (holder s) (.cpType p) x := by
  ext1 l
  cases l with
  | connection q => rfl
  | cpType q =>
      have hinj : Function.Injective PortLock.cpType := fun _ _ => PortLock.cpType.inj
      exact (Function.update_apply_of_injective (holder s) hinj p x q).symm
  | callBackList => rfl

lemma holder_callBackList (x : Option Thread) :
    holder { s with callBackListMutex := x } = Function.update (holder s) .callBackList x := by
  ext1 l
  cases l <;> rfl

section Steps

variable {o : CatchOp} {r : o.Ans}

lemma holder_acquire (ha : acquires o = some l) (hstep : catchStep i o r s = some s') :
    holder s l = none ∧ holder s' = Function.update (holder s) l (some i) := by
  rcases o with o | _
  · cases o
    case connAtomicBegin p =>
      obtain rfl := Option.some.inj ha
      obtain ⟨hfree, hs'⟩ := Option.ite_none_right_eq_some.1 hstep
      obtain rfl := Option.some.inj hs'
      exact ⟨hfree, holder_connection _⟩
    case cpTypeAtomicBegin p =>
      obtain rfl := Option.some.inj ha
      obtain ⟨hfree, hs'⟩ := Option.ite_none_right_eq_some.1 hstep
      obtain rfl := Option.some.inj hs'
      exact ⟨hfree, holder_cpType _⟩
    case callBackListBegin =>
      obtain rfl := Option.some.inj ha
      obtain ⟨hfree, hs'⟩ := Option.ite_none_right_eq_some.1 hstep
      obtain rfl := Option.some.inj hs'
      exact ⟨hfree, holder_callBackList _⟩
    all_goals exact absurd ha (by simp [acquires])
  · exact absurd ha (by simp [acquires])

lemma holder_release (hr : releases o = some l) (hstep : catchStep i o r s = some s') :
    holder s' = Function.update (holder s) l none := by
  rcases o with o | _
  · cases o
    case connAtomicEnd p =>
      obtain rfl := Option.some.inj hr
      obtain rfl := Option.some.inj hstep
      exact holder_connection _
    case cpTypeAtomicEnd p =>
      obtain rfl := Option.some.inj hr
      obtain rfl := Option.some.inj hstep
      exact holder_cpType _
    case callBackListEnd =>
      obtain rfl := Option.some.inj hr
      obtain rfl := Option.some.inj hstep
      exact holder_callBackList _
    all_goals exact absurd hr (by simp [releases])
  · exact absurd hr (by simp [releases])

lemma holder_other (ha : acquires o = none) (hr : releases o = none)
    (hstep : catchStep i o r s = some s') : holder s' = holder s := by
  rcases o with o | _
  · cases o
    case connAtomicBegin | cpTypeAtomicBegin | callBackListBegin =>
      exact absurd ha (by simp [acquires])
    case connAtomicEnd | cpTypeAtomicEnd | callBackListEnd =>
      exact absurd hr (by simp [releases])
    case getConnection | getCpType | getRefAppCount =>
      obtain ⟨-, rfl⟩ := PortState.answer_eq_some.1 hstep
      rfl
    all_goals
      obtain rfl := Option.some.inj hstep
      ext1 l
      cases l <;> rfl
  · obtain rfl := Option.some.inj hstep
    rfl

end Steps

lemma exists_step (i : Thread) (o : CatchOp) (s : PortState)
    (hfree : ∀ l, acquires o = some l → holder s l = none) :
    ∃ r s', catchStep i o r s = some s' := by
  have hanswer (x : ℕ) : s.answer x x = some s := PortState.answer_eq_some.2 ⟨rfl, rfl⟩
  rcases o with o | _
  · cases o
    case connAtomicBegin | cpTypeAtomicBegin | callBackListBegin =>
      exact ⟨(), _, if_pos (hfree _ rfl)⟩
    case getConnection | getCpType | getRefAppCount => exact ⟨_, _, hanswer _⟩
    case drmModeGetConnector | drmModeObjectGetProperties | drmModeCreatePropertyBlob =>
      exact ⟨none, _, rfl⟩
    case drmSetMaster | drmDropMaster | drmModeConnectorSetProperty |
      utilSetContentProtection => exact ⟨true, _, rfl⟩
    all_goals exact ⟨(), _, rfl⟩
  · exact ⟨(), _, rfl⟩

/-- The order of the mutexes. -/
def locking (m : PortManager) : Locking (catchSystem m) PortLock where
  acquires := acquires
  releases := releases
  waits _ := false
  holder := holder
  rank := PortLock.rank
  bound := 3
  rank_lt
    | .connection _ => Nat.zero_lt_succ 2
    | .cpType _ => Nat.one_lt_succ_succ 1
    | .callBackList => Nat.lt_succ_self 2
  acquire := holder_acquire
  release _ := holder_release
  other _ := holder_other
  ready i o s _ := exists_step i o s

/-! ### The functions take the mutexes in their order -/

/-- No thread goes on from `exit`. -/
def expects : (o : CatchOp) → o.Ans → Prop
  | .exit, _ => False
  | _, _ => True

/-- The program of the port manager takes its mutexes in their order; it begins with the
mutexes `held` and ends with `held'`. -/
def Takes {α : Type} (m : PortManager) (held : List PortLock) (q : PortProg α)
    (held' : List PortLock) : Prop :=
  (locking m).Disciplined expects held' (inPort q) held

section Takes

variable {α β : Type} {m : PortManager} {held held' held'' : List PortLock} {q : PortProg α}
  {d : DrmObject} {a : ℕ}

lemma Takes.bind {f : α → PortProg β} (hq : Takes m held q held')
    (hf : ∀ x, Takes m held' (f x) held'') : Takes m held (q >>= f) held'' := by
  rw [Takes, inPort_bind]
  exact Locking.Disciplined.bind hq hf

lemma Takes.ite {b : Prop} [Decidable b] {q' : PortProg α} (hq : b → Takes m held q held')
    (hq' : ¬b → Takes m held q' held') : Takes m held (if b then q else q') held' := by
  by_cases h : b
  · rw [if_pos h]
    exact hq h
  · rw [if_neg h]
    exact hq' h

lemma takes_ret {x : α} : Takes m held (return x) held := Locking.disciplined_ret

lemma takes_acquire {o : PortOp} (hl : acquires (.port o) = some l)
    (hheld : ∀ l' ∈ held, l'.rank < l.rank) :
    Takes m held (op (S := portSig) o) (l :: held) :=
  (Locking.disciplined_acquire (K := locking m) hl).2
    ⟨rfl, hheld, fun _ _ => Locking.disciplined_ret⟩

lemma takes_release {o : PortOp} (ha : acquires (.port o) = none)
    (hl : releases (.port o) = some l) : Takes m (l :: held) (op (S := portSig) o) held := by
  refine (Locking.disciplined_release (K := locking m) ha hl).2
    ⟨rfl, List.mem_cons_self, fun _ _ => ?_⟩
  rw [List.erase_cons_head]
  exact Locking.disciplined_ret

/-- The interactions that concern no mutex. -/
def lockFree (o : PortOp) : Bool := (acquires (.port o)).isNone && (releases (.port o)).isNone

lemma takes_lockFree (hq : q.Uses fun o => lockFree o = true) : Takes m held q held := by
  induction q with
  | ret x => exact Locking.disciplined_ret
  | call o k ih =>
      have ho : ((acquires (.port o)).isNone && (releases (.port o)).isNone) = true := hq.1
      rw [Bool.and_eq_true, Option.isNone_iff_eq_none, Option.isNone_iff_eq_none] at ho
      refine (Locking.disciplined_other (K := locking m) ho.1 ho.2).2 ⟨rfl, fun r _ => ?_⟩
      exact ih r (hq.2 r)

lemma takes_op {o : PortOp} (ho : lockFree o = true) :
    Takes m held (op (S := portSig) o) held :=
  takes_lockFree (Prog.uses_op.2 ho)

/-! ### The functions -/

lemma takes_reportStatus {event : PortEvent} (hheld : ∀ l ∈ held, l.rank < 2) :
    Takes m held (reportStatus event p) held := by
  refine (takes_acquire (o := .callBackListBegin) rfl hheld).bind fun _ => ?_
  refine (takes_op rfl).bind fun _ => ?_
  exact takes_release (o := .callBackListEnd) rfl rfl

lemma lockFree_setPortProperty {drmId propId value numRetry : ℕ} :
    (m.setPortProperty drmId propId 1 value numRetry).Uses fun o => lockFree o = true :=
  uses_setPortProperty (fun _ => rfl) rfl (fun _ => rfl) rfl

lemma lockFree_getProtectionInfo :
    (getProtectionInfo d).Uses fun o => lockFree o = true :=
  uses_getProtectionInfo rfl

lemma takes_enumerateLoop (drmObjects : List DrmObject) (portCount : ℕ) :
    Takes m [] (enumerateLoop drmObjects portCount) [] := by
  induction drmObjects generalizing portCount with
  | nil => exact takes_ret
  | cons d drmObjects ih =>
      refine (takes_acquire (o := .connAtomicBegin d.portId) rfl (by simp)).bind fun _ => ?_
      refine (takes_op rfl).bind fun connection => ?_
      have hend : Takes m [.connection d.portId] (connAtomicEnd d.portId) [] :=
        takes_release rfl rfl
      cases connection with
      | none => exact hend.bind fun _ => takes_ret
      | some connection =>
          refine Takes.ite (fun _ => ?_) fun _ => ?_
          · refine (takes_op rfl).bind fun _ => (takes_op rfl).bind fun _ => ?_
            exact (takes_op rfl).bind fun _ => hend.bind fun _ => ih _
          · exact (takes_op rfl).bind fun _ => hend.bind fun _ => ih _

lemma takes_enumeratePorts : Takes m [] m.enumeratePorts [] := by
  have hclear (i : ℕ) :
      (storePort i 0 portStatusDisconnected).Uses fun o => lockFree o = true :=
    Prog.uses_op.2 rfl
  refine (takes_lockFree (Prog.uses_forEach fun i _ => hclear i)).bind fun _ => ?_
  refine (takes_op rfl).bind fun _ => ?_
  exact Takes.ite (fun _ => takes_ret) fun _ => takes_enumerateLoop _ _

lemma takes_checkEnabled : Takes m [] (checkEnabled d a) [] := by
  have hend : Takes m [.cpType d.portId] (cpTypeAtomicEnd d.portId) [] := takes_release rfl rfl
  refine (takes_acquire (o := .cpTypeAtomicBegin d.portId) rfl (by simp)).bind fun _ => ?_
  refine (takes_lockFree lockFree_getProtectionInfo).bind fun info => ?_
  cases info with
  | none => exact hend.bind fun _ => takes_ret
  | some info =>
      refine Takes.ite (fun _ => hend.bind fun _ => takes_ret) fun _ => ?_
      refine (takes_op rfl).bind fun _ => (takes_op rfl).bind fun _ => ?_
      exact hend.bind fun _ => takes_ret

lemma takes_enablePort {level : UInt8} : Takes m [] (m.enablePort p a level) [] := by
  rw [PortManager.enablePort]
  split
  · exact takes_ret
  · rename_i d _
    refine (takes_op rfl).bind fun (connection : ℕ) => ?_
    refine Takes.ite (fun _ => takes_ret) fun _ => Takes.ite (fun _ => takes_ret) fun _ => ?_
    refine (takes_op rfl).bind fun (currCpType : ℕ) => ?_
    refine Takes.ite (fun _ => (takes_op rfl).bind fun _ => takes_ret) fun _ => ?_
    have hset : (m.setContentType d level).Uses fun o => lockFree o = true :=
      Prog.Uses.ite (fun _ => lockFree_setPortProperty) fun _ => trivial
    refine (takes_lockFree hset).bind fun ret => Takes.ite (fun _ => takes_ret) fun _ => ?_
    refine (takes_lockFree lockFree_setPortProperty).bind fun ret => ?_
    refine Takes.ite (fun _ => takes_ret) fun _ => ?_
    exact (takes_op rfl).bind fun _ => takes_checkEnabled

/-- The end of `DisablePort`, also on a thread that holds mutexes of connections. -/
lemma takes_checkDisabled (hheld : ∀ l ∈ held, l.rank < 1) :
    Takes m held (checkDisabled d) held := by
  have hend : Takes m (.cpType d.portId :: held) (cpTypeAtomicEnd d.portId) held :=
    takes_release rfl rfl
  refine (takes_acquire (o := .cpTypeAtomicBegin d.portId) rfl hheld).bind fun _ => ?_
  refine (takes_lockFree lockFree_getProtectionInfo).bind fun info => ?_
  cases info with
  | none => exact hend.bind fun _ => takes_ret
  | some info =>
      refine Takes.ite (fun _ => hend.bind fun _ => takes_ret) fun _ => ?_
      exact (takes_op rfl).bind fun _ => hend.bind fun _ => takes_ret

lemma takes_disablePort (hheld : ∀ l ∈ held, l.rank < 1) :
    Takes m held (m.disablePort p a) held := by
  rw [PortManager.disablePort]
  split
  · exact takes_ret
  · refine (takes_op rfl).bind fun (connection : ℕ) => ?_
    refine Takes.ite (fun _ => takes_ret) fun _ => ?_
    refine (takes_op rfl).bind fun _ => (takes_op rfl).bind fun (count : ℕ) => ?_
    refine Takes.ite (fun _ => takes_ret) fun _ => ?_
    refine (takes_lockFree lockFree_setPortProperty).bind fun ret => ?_
    exact Takes.ite (fun _ => takes_ret) fun _ => takes_checkDisabled hheld

lemma takes_removeLoop (drmObjects : List DrmObject) :
    Takes m [] (m.removeLoop a drmObjects) [] := by
  induction drmObjects with
  | nil => exact takes_ret
  | cons d drmObjects ih => exact (takes_disablePort (by simp)).bind fun _ => ih

lemma takes_forEach {f : DrmObject → PortProg Unit} (hf : ∀ d, Takes m held (f d) held)
    (drmObjects : List DrmObject) : Takes m held (forEach drmObjects f) held := by
  induction drmObjects with
  | nil => exact takes_ret
  | cons d drmObjects ih => exact (hf d).bind fun _ => ih

lemma takes_disableAllPorts (hheld : ∀ l ∈ held, l.rank < 1) :
    Takes m held m.disableAllPorts held := by
  refine takes_forEach (fun d => ?_) m.drmObjects
  refine (takes_op rfl).bind fun _ => (takes_op rfl).bind fun _ => ?_
  exact (takes_disablePort hheld).bind fun _ => takes_ret

lemma takes_hotPlugRound : Takes m [] (hotPlugRound d) [] := by
  have hend : Takes m [.connection d.portId] (connAtomicEnd d.portId) [] := takes_release rfl rfl
  have hheld : ∀ l ∈ [PortLock.connection d.portId], l.rank < 2 := by simp [PortLock.rank]
  refine (takes_acquire (o := .connAtomicBegin d.portId) rfl (by simp)).bind fun _ => ?_
  refine (takes_op rfl).bind fun connection => ?_
  cases connection with
  | none => exact hend
  | some connection =>
      refine (takes_op rfl).bind fun (current : ℕ) => Takes.ite (fun _ => hend) fun _ => ?_
      have hreport : Takes m [.connection d.portId] (reportConnection connection d.portId)
          [.connection d.portId] :=
        Takes.ite (fun _ => takes_reportStatus hheld) fun _ =>
          Takes.ite (fun _ => takes_reportStatus hheld) fun _ => takes_ret
      exact hreport.bind fun _ => (takes_op rfl).bind fun _ => hend

lemma takes_integrityRound : Takes m [] (integrityRound d) [] := by
  have hend : Takes m [.cpType d.portId] (cpTypeAtomicEnd d.portId) [] := takes_release rfl rfl
  have hheld : ∀ l ∈ [PortLock.cpType d.portId], l.rank < 2 := by simp [PortLock.rank]
  refine (takes_acquire (o := .cpTypeAtomicBegin d.portId) rfl (by simp)).bind fun _ => ?_
  refine (takes_op rfl).bind fun (current : ℕ) => Takes.ite (fun _ => hend) fun _ => ?_
  refine (takes_lockFree lockFree_getProtectionInfo).bind fun info => ?_
  cases info with
  | none => exact hend
  | some info =>
      refine Takes.ite (fun _ => ?_) fun _ => hend
      exact (takes_reportStatus hheld).bind fun _ => (takes_op rfl).bind fun _ => hend

lemma takes_getStatus : Takes m [] (m.getStatus p) [] := by
  rw [PortManager.getStatus]
  split
  · exact takes_ret
  · refine (takes_op rfl).bind fun connection => ?_
    cases connection with
    | none => exact takes_ret
    | some connection =>
        refine Takes.ite (fun _ => (takes_op rfl).bind fun _ => takes_ret) fun _ => ?_
        refine (takes_op rfl).bind fun _ => ?_
        refine (takes_lockFree lockFree_getProtectionInfo).bind fun info => ?_
        cases info with
        | none => exact takes_ret
        | some info =>
            have hstore : Takes m [] (storeHdcpStatus info.1 info.2) [] :=
              Takes.ite (fun _ => takes_op rfl) fun _ =>
                Takes.ite (fun _ => takes_op rfl) fun _ => takes_ret
            exact hstore.bind fun _ => takes_ret

lemma takes_callBody (c : PortCall) : Takes m [] (m.callBody c) [] := by
  cases c with
  | enumeratePorts => exact takes_enumeratePorts
  | enablePort p a level => exact takes_enablePort
  | disablePort p a => exact takes_disablePort (by simp)
  | removeAppFromPorts a => exact takes_removeLoop m.drmObjects
  | getStatus p => exact takes_getStatus
  | processHotPlug =>
      exact (takes_forEach (fun d => takes_hotPlugRound) m.drmObjects).bind fun _ => takes_ret
  | checkIntegrity =>
      exact (takes_forEach (fun d => takes_integrityRound) m.drmObjects).bind fun _ => takes_ret

lemma takes_createCallBack : Takes m [] createCallBack [] := by
  refine (takes_acquire (o := .callBackListBegin) rfl (by simp)).bind fun _ => ?_
  exact Takes.bind (takes_release (o := .callBackListEnd) rfl rfl) fun _ => takes_ret

/-- No thread returns from the signal handler, so that the mutexes it holds do not matter at its
end. -/
lemma disciplined_sigCatcher (hheld : ∀ l ∈ held, l.rank < 1) :
    (locking m).Disciplined expects [] (sigCatcher m) held := by
  refine Locking.Disciplined.bind (takes_disableAllPorts hheld) fun _ => ?_
  exact (Locking.disciplined_other (K := locking m) (o := .exit) rfl rfl).2
    ⟨rfl, fun _ h => absurd h id⟩

lemma disciplined_catchBody {c : CatchCall} (hmay : catchMay i c = true) :
    (locking m).Disciplined expects [] (catchBody m c) [] := by
  cases c with
  | serve c => exact takes_callBody c
  | createCallBack => exact takes_createCallBack
  | sigCatcher => exact absurd hmay (by cases i <;> decide)

/-- What a thread holds when a signal may reach it ranks below the mutexes of the handler. -/
lemma rank_of_signalCondition (h : signalCondition s i) (hl : holder s l = some i) :
    l.rank < 1 := by
  cases l with
  | connection p => exact Nat.zero_lt_one
  | cpType p => exact absurd hl (h.1 p)
  | callBackList => exact absurd hl h.2

lemma expects_of_untilExit (tr : CatchTrace) (s : PortState) (i : Thread) (c : CatchCall)
    (o : CatchOp) (r : o.Ans) (h : untilExit tr s (.op i c ⟨o, r⟩)) : expects o r := by
  cases o with
  | port o => trivial
  | exit => exact h

end Takes

/-! ### No deadlock -/

/-- A mutex is released by its holder, a thread that makes no call holds none, and the threads
do not wait for each other in a cycle. -/
structure MutexesSound (m : PortManager) (cfg : CatchConfig) : Prop where
  released : ∀ i c o k l, cfg.threads i = some (c, .call o k) → releases o = some l →
    holder cfg.shared l = some i
  returned : ∀ i, cfg.threads i = none → ∀ l, holder cfg.shared l ≠ some i
  acyclic : ∀ i, ¬Relation.TransGen ((locking m).WaitsFor cfg) i i

/-- In every run in which signals reach threads only while these hold no mutex of a type and not
the mutex of the callback list, the mutexes are used soundly until the daemon exits. -/
theorem mutexes_sound {m : PortManager} {tr : CatchTrace} {cfg : CatchConfig}
    (hrun : (catchSystem m).InterruptedRun .sigCatcher untilExit signalCondition initState
      tr cfg) : MutexesSound m cfg := by
  have horderly : (locking m).AllOrderly expects cfg := by
    refine Locking.allOrderly_of_interruptedRun ?_ ?_ ?_ ?_ hrun
    · intro l
      cases l <;> rfl
    · exact fun tr s i c o r _ hC _ => expects_of_untilExit tr s i c o r hC
    · exact fun i c => disciplined_catchBody
    · exact fun s i hD held hheld =>
        disciplined_sigCatcher fun l hl => rank_of_signalCondition hD (hheld l hl)
  refine ⟨fun i c o k l hi hl => ?_, horderly.idle, fun i => horderly.not_transGen⟩
  obtain ⟨held, hthread⟩ := horderly.busy i c _ hi
  have hp := hthread.disciplined
  have hacquires : acquires o = none := by
    cases o with
    | port o => cases o <;> first | rfl | exact absurd hl (by simp [releases])
    | exit => rfl
  rw [Locking.disciplined_release (K := locking m) hacquires hl] at hp
  exact (hthread.holds l).2 hp.2.1

/-! ### Signals -/

/-- A signal reaches the uevent thread while it holds the mutex of the connection of port 0. -/
theorem mutexes_sound_uevent :
    ∃ tr cfg, (catchSystem (onePort false)).InterruptedRun .sigCatcher untilExit
        signalCondition initState tr cfg ∧
      cfg.shared.connectionMutex 0 = some .uevent ∧
      (cfg.threads .uevent).map Prod.fst = some .sigCatcher ∧
      MutexesSound (onePort false) cfg := by
  have hstart : (catchSystem (onePort false)).InterruptedRun .sigCatcher untilExit
      signalCondition initState [] ⟨initState, fun _ => none⟩ := .start
  have hmay : (catchSystem (onePort false)).may .uevent (.serve .processHotPlug) :=
    (rfl : catchMay .uevent (.serve .processHotPlug) = true)
  have hbegin : untilExit [] initState (.call .uevent (.serve .processHotPlug)) := trivial
  have hcall := hstart.step hbegin (.call rfl hmay)
  have hlock : untilExit [.call .uevent (.serve .processHotPlug)] initState
      (.op .uevent (.serve .processHotPlug) ⟨.port (.connAtomicBegin 0), ()⟩) := trivial
  have hop := hcall.step hlock (.op rfl rfl)
  have hrun := hop.signal .uevent ⟨fun p h => absurd h (by simp [initState]), by simp [initState]⟩
  exact ⟨_, _, hrun, rfl, rfl, mutexes_sound hrun⟩

/-- The answers of the kernel, and of the state. -/
def catchAnswer : (o : CatchOp) → PortState → o.Ans
  | .port o, s =>
    portAnswer (some drmModeConnected) (some [(101, cpEnabled), (102, cpType0)]) o s
  | .exit, _ => ()

/-- The message thread enables the port 0, up to the point at which it reads the port back. -/
def beginEnable : List (System.Action catchSig Thread CatchCall PortState) :=
  .call .message (.serve (.enablePort 0 7 hdcpLevel1)) ::
    List.replicate 10 (.op .message catchAnswer)

/-- A signal reaches the message thread. -/
def interrupt (m : PortManager) (x : CatchTrace × CatchConfig) : CatchTrace × CatchConfig :=
  (.call .message .sigCatcher :: x.1,
    { x.2 with threads := Function.update x.2.threads .message (some (.sigCatcher, sigCatcher m)) })

/-- The message thread begins to enable the port, and the signal handler comes to the mutex of
its type. -/
def interruptedEnable : Option (CatchTrace × CatchConfig) :=
  let M := catchSystem (onePort false)
  (M.schedule catchMay (fun _ _ _ => true) beginEnable [] ⟨initState, fun _ => none⟩).bind
    fun x => M.schedule catchMay (fun _ _ _ => true)
      (List.replicate 8 (.op .message catchAnswer)) (interrupt (onePort false) x).1
      (interrupt (onePort false) x).2

/-- The next interaction of a thread. -/
def nextOp (cfg : CatchConfig) (i : Thread) : Option CatchOp :=
  match cfg.threads i with
  | some (_, .call o _) => some o
  | _ => none

/-- The signal handler waits for the mutex that its own thread holds. -/
theorem handler_waits_for_itself :
    ∃ x, interruptedEnable = some x ∧
      (catchSystem (onePort false)).InterruptedRun .sigCatcher (fun _ _ _ => True)
        (fun _ _ => True) initState x.1 x.2 ∧
      (locking (onePort false)).WaitsFor x.2 .message .message ∧
      ¬MutexesSound (onePort false) x.2 := by
  have htest : interruptedEnable.any (fun x =>
      nextOp x.2 .message = some (.port (.cpTypeAtomicBegin 0)) ∧
        x.2.shared.cpTypeMutex 0 = some .message) = true := by decide +kernel
  obtain ⟨x, hx, hwaits⟩ := (Option.any_eq_true _ _).1 htest
  obtain ⟨hnext, hmutex⟩ := of_decide_eq_true hwaits
  have hwaits : (locking (onePort false)).WaitsFor x.2 .message .message := by
    rw [nextOp] at hnext
    split at hnext
    · rename_i c o k hi
      obtain rfl := Option.some.inj hnext
      exact ⟨.cpType 0, ⟨c, _, k, hi, rfl⟩, hmutex⟩
    · exact absurd hnext (by simp)
  refine ⟨x, hx, ?_, hwaits, fun h => h.acyclic .message (.single hwaits)⟩
  have hmay (i : Thread) (c : CatchCall) (h : catchMay i c = true) :
      (catchSystem (onePort false)).may i c := h
  rw [interruptedEnable] at hx
  obtain ⟨y, hy, hx⟩ := Option.bind_eq_some_iff.1 hx
  let I := (catchSystem (onePort false)).InterruptedRun .sigCatcher (fun _ _ _ => True)
    (fun _ _ => True) initState
  have hbegun : I y.1 y.2 := System.schedule_keeps (I := I) hmay
    (fun h _ hl => h.step trivial hl) beginEnable .start hy
  exact System.schedule_keeps (I := I) hmay (fun h _ hl => h.step trivial hl) _
    (hbegun.signal .message trivial) hx

end Hdcp.Signals
