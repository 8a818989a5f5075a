/-
DRM master.

`SetPortProperty` becomes DRM master, sets the property and drops master.  It returns before
it drops master when the kernel refuses the blob or the last attempt to set the property.
Whether the daemon is master is read off the log of its interactions, against any answers of
the kernel; `drmDropMaster` succeeds.

`master_released`: a call of `SetPortProperty` leaves the daemon without master exactly when
every refusal of the kernel is followed by another attempt, and so do the operations that
set properties, one after the other.
-/
import Hdcp.Port.Steps

namespace Hdcp.Port

open Library
open Library.Prog (forEach runs_bind runs_ite runs_op runs_ret)

abbrev PortLog : Type := List (Event portSig)

/-- Whether the daemon is master after the interactions, when it was before or was not. -/
def isMaster : PortLog → Bool → Bool
  | [], b => b
  | ⟨.drmSetMaster, r⟩ :: log, b => isMaster log (b || r)
  | ⟨.drmDropMaster, r⟩ :: log, b => isMaster log (b && !r)
  | _ :: log, b => isMaster log b

/-- An attempt to set a property. -/
def isAttempt : Event portSig → Bool
  | ⟨.drmModeConnectorSetProperty _ _ _, _⟩ => true
  | _ => false

/-- The kernel refuses the property, or the blob for it. -/
def isRefused : Event portSig → Bool
  | ⟨.drmModeConnectorSetProperty _ _ _, r⟩ => !r
  | ⟨.drmModeCreatePropertyBlob _ _, r⟩ => Option.isNone r
  | _ => false

def startsWithAttempt : PortLog → Bool
  | [] => false
  | e :: _ => isAttempt e

/-- Every refusal is followed by another attempt. -/
def Persists : PortLog → Prop
  | [] => True
  | e :: log => (isRefused e → startsWithAttempt log) ∧ Persists log

/-- `drmDropMaster` succeeds. -/
def dropSucceeds : Event portSig → Prop
  | ⟨.drmDropMaster, r⟩ => r = true
  | _ => True

/-- The operations that set properties. -/
inductive MasterCall where
  | enablePort (portId appId : ℕ) (level : UInt8)
  | disablePort (portId appId : ℕ)
  | removeAppFromPorts (appId : ℕ)
  | disableAllPorts

def PortManager.masterBody (m : PortManager) : MasterCall → PortProg Unit
  | .enablePort portId appId level => do
    let _ret ← m.enablePort portId appId level
    return ()
  | .disablePort portId appId => do
    let _ret ← m.disablePort portId appId
    return ()
  | .removeAppFromPorts appId => do
    let _ret ← m.removeAppFromPorts appId
    return ()
  | .disableAllPorts => m.disableAllPorts

/-! ### Logs -/

variable {log log' rest : PortLog} {b : Bool} {e : Event portSig}

lemma isMaster_append : isMaster (log ++ log') b = isMaster log' (isMaster log b) := by
  induction log generalizing b with
  | nil => rfl
  | cons e log ih =>
      obtain ⟨o, r⟩ := e
      cases o <;> exact ih

lemma persists_append (h : Persists (log ++ log')) : Persists log' := by
  induction log with
  | nil => exact h
  | cons e log ih => exact ih h.2

/-- The interactions that have nothing to do with master. -/
def PortOp.neutral : PortOp → Bool
  | .drmSetMaster | .drmDropMaster | .drmModeConnectorSetProperty _ _ _
  | .drmModeCreatePropertyBlob _ _ => false
  | _ => true

lemma isMaster_of_neutral {o : PortOp} (ho : o.neutral = true) (r : o.Ans) :
    isMaster (⟨o, r⟩ :: log) b = isMaster log b := by
  cases o <;> first | rfl | exact absurd ho (by simp [PortOp.neutral])

/-! ### Attempts -/

/-- What the retries of `SetPortProperty` end with. -/
lemma runs_setPropertyRetry {drmId propId value numRetry : ℕ} {ret ret' : Errno}
    (hretry : 0 < numRetry)
    (h : (setPropertyRetry drmId propId value numRetry ret).Runs log ret') :
    isMaster log b = b ∧ startsWithAttempt log = true ∧
      (ret' = .success → ∀ rest, Persists rest → Persists (log ++ rest)) ∧
      (ret' ≠ .success → ∀ rest, Persists (log ++ rest) → startsWithAttempt rest = true) := by
  induction numRetry generalizing log ret with
  | zero => exact absurd hretry (Nat.lt_irrefl 0)
  | succ numRetry ih =>
      obtain ⟨r, l, l', hset, hrest, rfl⟩ := runs_bind.1 h
      obtain rfl := runs_op.1 hset
      cases (r : Bool) with
      | true =>
          obtain ⟨rfl, rfl⟩ := runs_ret.1 hrest
          refine ⟨rfl, rfl, fun _ rest hpersists => ⟨?_, hpersists⟩, fun hret => absurd rfl hret⟩
          exact fun hrefused => absurd hrefused (by simp [isRefused])
      | false =>
          have hrest : (setPropertyRetry drmId propId value numRetry .error).Runs l' ret' := hrest
          rcases Nat.eq_zero_or_pos numRetry with rfl | hpos
          · obtain ⟨rfl, rfl⟩ := runs_ret.1 hrest
            refine ⟨rfl, rfl, fun hret => absurd hret (by simp), fun _ rest hpersists => ?_⟩
            exact hpersists.1 rfl
          · obtain ⟨hmaster, hstarts, hsuccess, hfailure⟩ := ih hpos hrest
            refine ⟨hmaster, rfl, fun hret rest hpersists => ⟨fun _ => ?_, ?_⟩,
              fun hret rest hpersists => hfailure hret rest hpersists.2⟩
            · cases l' with
              | nil => exact absurd hstarts (by simp [startsWithAttempt])
              | cons e l' => exact hstarts
            · exact hsuccess hret rest hpersists

/-- The value of the property is there, or the kernel has refused a blob. -/
lemma runs_propertyValue (b : Bool) {value size : ℕ} {x : Option (Errno × ℕ)}
    (h : (propertyValue value size).Runs log x) :
    startsWithAttempt log = false ∧ isMaster log b = b ∧
      (x = none → ∀ rest, startsWithAttempt rest = false → ¬Persists (log ++ rest)) ∧
      (x ≠ none → ∀ rest, Persists (log ++ rest) ↔ Persists rest) := by
  obtain ⟨-, hblob⟩ | ⟨-, hval⟩ := runs_ite.1 h
  · obtain ⟨r, l, l', hop, hlast, rfl⟩ := runs_bind.1 hblob
    obtain rfl := runs_op.1 hop
    cases (r : Option ℕ) with
    | none =>
        obtain ⟨rfl, rfl⟩ := runs_ret.1 hlast
        refine ⟨rfl, rfl, fun _ rest hstarts hpersists => ?_, fun hx => absurd rfl hx⟩
        have hattempt : startsWithAttempt rest = true := hpersists.1 rfl
        rw [hattempt] at hstarts
        exact absurd hstarts (by simp)
    | some blobId =>
        obtain ⟨rfl, rfl⟩ := runs_ret.1 hlast
        refine ⟨rfl, rfl, fun hx => absurd hx (by simp), fun _ rest => ?_⟩
        exact ⟨fun hpersists => hpersists.2,
          fun hpersists => ⟨fun hrefused => absurd hrefused (by simp [isRefused]), hpersists⟩⟩
  · obtain ⟨rfl, rfl⟩ := runs_ret.1 hval
    exact ⟨rfl, rfl, fun hx => absurd hx (by simp), fun _ _ => Iff.rfl⟩

/-- What `SetPortProperty` ends with, when no attempt follows it. -/
lemma runs_setPortProperty {m : PortManager} {drmId propId size value numRetry : ℕ} {ret : Errno}
    (hretry : 0 < numRetry)
    (h : (m.setPortProperty drmId propId size value numRetry).Runs log ret)
    (hdrop : ∀ e ∈ log, dropSucceeds e) :
    startsWithAttempt log = false ∧ ∀ rest, startsWithAttempt rest = false →
      (Persists (log ++ rest) → isMaster log false = false) ∧
      (isMaster log false = false → Persists rest → Persists (log ++ rest)) := by
  rw [PortManager.setPortProperty] at h
  rcases hfind : m.getDrmObjectByDrmId drmId with _ | drmObject
  · rw [hfind] at h
    obtain ⟨rfl, -⟩ := runs_ret.1 h
    exact ⟨rfl, fun rest _ => ⟨fun _ => rfl, fun _ hpersists => hpersists⟩⟩
  simp only [hfind] at h
  obtain ⟨-, hutil⟩ | ⟨-, hdrm⟩ := runs_ite.1 h
  · obtain ⟨r, l, l', hop, hlast, rfl⟩ := runs_bind.1 hutil
    obtain rfl := runs_op.1 hop
    have hnil : l' = [] := by
      obtain ⟨-, hval⟩ | ⟨-, hval⟩ := runs_ite.1 hlast
      · exact (runs_ret.1 hval).1
      · exact (runs_ret.1 hval).1
    subst hnil
    refine ⟨rfl, fun rest _ => ⟨fun _ => rfl, fun _ hpersists => ⟨?_, hpersists⟩⟩⟩
    exact fun hrefused => absurd hrefused (by simp [isRefused])
  obtain ⟨r, l₁, l₂, hop, hmaster, rfl⟩ := runs_bind.1 hdrm
  obtain rfl := runs_op.1 hop
  have hkept {b : Bool} {l : PortLog} (rest : PortLog) :
      Persists ([(⟨.drmSetMaster, b⟩ : Event portSig)] ++ l ++ rest) ↔ Persists (l ++ rest) :=
    ⟨fun hpersists => hpersists.2,
      fun hpersists => ⟨fun hrefused => absurd hrefused (by simp [isRefused]), hpersists⟩⟩
  cases (r : Bool) with
  | false =>
      obtain ⟨rfl, -⟩ := runs_ret.1 hmaster
      exact ⟨rfl, fun rest _ => ⟨fun _ => rfl, fun _ hpersists => (hkept rest).2 hpersists⟩⟩
  | true =>
      refine ⟨rfl, fun rest hrest => ?_⟩
      rw [hkept]
      obtain ⟨x, l₃, l₄, hvalue, hset, rfl⟩ := runs_bind.1 hmaster
      obtain ⟨-, hquiet, hnone, hsome⟩ := runs_propertyValue true hvalue
      cases x with
      | none =>
          obtain ⟨rfl, -⟩ := runs_ret.1 hset
          have hmaster : isMaster ([(⟨.drmSetMaster, true⟩ : Event portSig)] ++ (l₃ ++ [])) false =
              true := by
            rw [isMaster_append, isMaster_append]
            exact hquiet
          rw [hmaster, List.append_nil]
          refine ⟨fun hpersists => absurd hpersists (hnone rfl rest hrest),
            fun hreleased => ?_⟩
          exact absurd hreleased (by simp)
      | some x =>
          obtain ⟨ret₁, l₅, l₆, htry, hend, rfl⟩ := runs_bind.1 hset
          obtain ⟨htried, -, hsuccess, hfailure⟩ := runs_setPropertyRetry (b := true) hretry htry
          have hmaster : isMaster ([(⟨.drmSetMaster, true⟩ : Event portSig)] ++
              (l₃ ++ (l₅ ++ l₆))) false = isMaster l₆ true := by
            rw [isMaster_append, isMaster_append, isMaster_append]
            exact congrArg (isMaster l₆) ((congrArg (isMaster l₅) hquiet).trans htried)
          rw [hmaster, List.append_assoc, hsome (by simp), List.append_assoc]
          obtain ⟨hret, hval⟩ | ⟨hret, hdropped⟩ := runs_ite.1 hend
          · obtain ⟨rfl, -⟩ := runs_ret.1 hval
            constructor
            · intro hpersists
              rw [hfailure hret rest hpersists] at hrest
              exact absurd hrest (by simp)
            · intro hreleased
              exact absurd hreleased (by simp [isMaster])
          · obtain ⟨r, l₇, l₈, hop', hlast, rfl⟩ := runs_bind.1 hdropped
            obtain rfl := runs_op.1 hop'
            have hnil : l₈ = [] := by
              obtain ⟨-, hval⟩ | ⟨-, hval⟩ := runs_ite.1 hlast
              · exact (runs_ret.1 hval).1
              · exact (runs_ret.1 hval).1
            subst hnil
            have hr : r = true := hdrop ⟨.drmDropMaster, r⟩ (by simp)
            subst hr
            refine ⟨fun _ => rfl, fun _ hpersists => ?_⟩
            have hkeeps : Persists ((⟨.drmDropMaster, true⟩ : Event portSig) :: rest) :=
              ⟨fun hrefused => absurd hrefused (by simp [isRefused]), hpersists⟩
            exact hsuccess (not_not.1 hret) _ hkeeps

/-! ### Operations -/

/-- The program leaves the daemon without master, when no attempt follows it. -/
def LeavesMaster {α : Type} (p : PortProg α) : Prop :=
  ∀ log a, p.Runs log a → (∀ e ∈ log, dropSucceeds e) → startsWithAttempt log = false ∧
    ∀ rest, startsWithAttempt rest = false → Persists (log ++ rest) → isMaster log false = false

section Rules

variable {α β : Type} {p q : PortProg α} {f : α → PortProg β}

lemma leavesMaster_ret (a : α) : LeavesMaster (.ret a) := by
  intro log b h _
  obtain ⟨rfl, -⟩ := runs_ret.1 h
  exact ⟨rfl, fun _ _ _ => rfl⟩

lemma LeavesMaster.ite {c : Prop} [Decidable c] (hp : LeavesMaster p) (hq : LeavesMaster q) :
    LeavesMaster (if c then p else q) := by
  by_cases hc : c
  · rw [if_pos hc]
    exact hp
  · rw [if_neg hc]
    exact hq

lemma startsWithAttempt_append (h : startsWithAttempt log = false)
    (h' : startsWithAttempt log' = false) : startsWithAttempt (log ++ log') = false := by
  cases log with
  | nil => exact h'
  | cons e log => exact h

lemma LeavesMaster.bind (hp : LeavesMaster p) (hf : ∀ a, LeavesMaster (f a)) :
    LeavesMaster (p >>= f) := by
  intro log b h hdrop
  obtain ⟨a, l, l', hl, hl', rfl⟩ := runs_bind.1 h
  obtain ⟨hdrop₁, hdrop₂⟩ := List.forall_mem_append.1 hdrop
  obtain ⟨hstarts, hleaves⟩ := hp l a hl hdrop₁
  obtain ⟨hstarts', hleaves'⟩ := hf a l' b hl' hdrop₂
  refine ⟨startsWithAttempt_append hstarts hstarts', fun rest hrest hpersists => ?_⟩
  rw [List.append_assoc] at hpersists
  rw [isMaster_append, hleaves _ (startsWithAttempt_append hstarts' hrest) hpersists]
  exact hleaves' rest hrest (persists_append hpersists)

/-- A program that has nothing to do with master. -/
lemma leavesMaster_of_neutral (hp : p.Uses fun o => PortOp.neutral o = true) :
    LeavesMaster p := by
  induction p with
  | ret a => exact leavesMaster_ret a
  | call o k ih =>
      have hop : LeavesMaster (Prog.op (S := portSig) o) := by
        intro log r h _
        obtain rfl := runs_op.1 h
        have ho : PortOp.neutral o = true := hp.1
        refine ⟨?_, fun _ _ _ => isMaster_of_neutral ho r⟩
        cases o <;> first | rfl | exact absurd ho (by simp [PortOp.neutral])
      exact hop.bind fun r => ih r (hp.2 r)

lemma leavesMaster_forEach {l : List α} {f : α → PortProg Unit} (hf : ∀ a, LeavesMaster (f a)) :
    LeavesMaster (forEach l f) := by
  induction l with
  | nil => exact leavesMaster_ret ()
  | cons a l ih => exact (hf a).bind fun _ => ih

end Rules

variable {m : PortManager}

lemma leavesMaster_setPortProperty {drmId propId size value numRetry : ℕ}
    (hretry : 0 < numRetry) :
    LeavesMaster (m.setPortProperty drmId propId size value numRetry) := by
  intro log ret h hdrop
  obtain ⟨hstarts, hleaves⟩ := runs_setPortProperty hretry h hdrop
  exact ⟨hstarts, fun rest hrest => (hleaves rest hrest).1⟩

/-- An interaction that has nothing to do with master. -/
lemma leavesMaster_op {o : PortOp} (ho : o.neutral = true) :
    LeavesMaster (Prog.op (S := portSig) o) :=
  leavesMaster_of_neutral (Prog.uses_op.2 ho)

lemma leavesMaster_checkEnabled (d : DrmObject) (appId : ℕ) :
    LeavesMaster (checkEnabled d appId) :=
  leavesMaster_of_neutral (uses_checkEnabled rfl rfl (fun _ => rfl) rfl rfl)

lemma leavesMaster_checkDisabled (d : DrmObject) : LeavesMaster (checkDisabled d) :=
  leavesMaster_of_neutral (uses_checkDisabled rfl rfl rfl rfl)

lemma leavesMaster_enablePort (portId appId : ℕ) (level : UInt8) :
    LeavesMaster (m.enablePort portId appId level) := by
  rw [PortManager.enablePort]
  split
  · exact leavesMaster_ret _
  · rename_i d _
    refine (leavesMaster_op rfl).bind fun (connection : ℕ) => ?_
    refine LeavesMaster.ite (leavesMaster_ret _) (LeavesMaster.ite (leavesMaster_ret _) ?_)
    refine (leavesMaster_op rfl).bind fun (currCpType : ℕ) => ?_
    refine LeavesMaster.ite ((leavesMaster_op rfl).bind fun _ => leavesMaster_ret _) ?_
    have hcontent : LeavesMaster (m.setContentType d level) :=
      LeavesMaster.ite (leavesMaster_setPortProperty (by decide)) (leavesMaster_ret _)
    refine hcontent.bind fun ret => LeavesMaster.ite (leavesMaster_ret _) ?_
    refine (leavesMaster_setPortProperty (by decide)).bind fun ret => ?_
    refine LeavesMaster.ite (leavesMaster_ret _) ?_
    exact (leavesMaster_op rfl).bind fun _ => leavesMaster_checkEnabled d appId

lemma leavesMaster_disablePort (portId appId : ℕ) : LeavesMaster (m.disablePort portId appId) := by
  rw [PortManager.disablePort]
  split
  · exact leavesMaster_ret _
  · rename_i d _
    refine (leavesMaster_op rfl).bind fun (connection : ℕ) => ?_
    refine LeavesMaster.ite (leavesMaster_ret _) ?_
    refine (leavesMaster_op rfl).bind fun _ => (leavesMaster_op rfl).bind fun (count : ℕ) => ?_
    refine LeavesMaster.ite (leavesMaster_ret _) ?_
    refine (leavesMaster_setPortProperty (by decide)).bind fun ret => ?_
    exact LeavesMaster.ite (leavesMaster_ret _) (leavesMaster_checkDisabled d)

lemma leavesMaster_masterBody (c : MasterCall) : LeavesMaster (m.masterBody c) := by
  cases c with
  | enablePort portId appId level =>
      exact (leavesMaster_enablePort portId appId level).bind fun _ => leavesMaster_ret _
  | disablePort portId appId =>
      exact (leavesMaster_disablePort portId appId).bind fun _ => leavesMaster_ret _
  | removeAppFromPorts appId =>
      have hloop (drmObjects : List DrmObject) :
          LeavesMaster (m.removeLoop appId drmObjects) := by
        induction drmObjects with
        | nil => exact leavesMaster_ret _
        | cons d drmObjects ih => exact (leavesMaster_disablePort _ _).bind fun _ => ih
      exact (hloop _).bind fun _ => leavesMaster_ret _
  | disableAllPorts =>
      refine leavesMaster_forEach fun d => ?_
      refine (leavesMaster_op rfl).bind fun _ => (leavesMaster_op rfl).bind fun _ => ?_
      exact (leavesMaster_disablePort _ _).bind fun _ => leavesMaster_ret _

/-! ### The property -/

/-- `SetPortProperty`, which is always called with an attempt to make, leaves the daemon
without master exactly when no refusal was the last word of the kernel; so does every sequence
of operations in which none was. -/
theorem master_released (m : PortManager) :
    (∀ drmId propId size value numRetry log ret, 0 < numRetry →
      (m.setPortProperty drmId propId size value numRetry).Runs log ret →
      (∀ e ∈ log, dropSucceeds e) → (isMaster log false = false ↔ Persists log)) ∧
    ∀ (calls : List MasterCall) (log : PortLog), (forEach calls m.masterBody).Runs log () →
      (∀ e ∈ log, dropSucceeds e) → Persists log → isMaster log false = false := by
  constructor
  · intro drmId propId size value numRetry log ret hretry h hdrop
    have hend := (runs_setPortProperty hretry h hdrop).2 [] rfl
    rw [List.append_nil] at hend
    exact ⟨fun hreleased => hend.2 hreleased trivial, hend.1⟩
  · intro calls log h hdrop hpersists
    refine (leavesMaster_forEach leavesMaster_masterBody log () h hdrop).2 [] rfl ?_
    rwa [List.append_nil]

/-- A kernel that accepts the second attempt. -/
theorem master_released_onePort :
    isMaster [⟨.drmSetMaster, true⟩, ⟨.drmModeConnectorSetProperty 77 101 1, false⟩,
      ⟨.drmModeConnectorSetProperty 77 101 1, true⟩, ⟨.drmDropMaster, true⟩] false = false := by
  have hrun : ((onePort false).setPortProperty 77 101 1 cpDesired authNumRetry).Runs
      [⟨.drmSetMaster, true⟩, ⟨.drmModeConnectorSetProperty 77 101 1, false⟩,
        ⟨.drmModeConnectorSetProperty 77 101 1, true⟩, ⟨.drmDropMaster, true⟩] .success :=
    .call _ _ _ (.call _ _ _ (.call _ _ _ (.call _ _ _ (.ret _))))
  have hdrop : ∀ e ∈ ([⟨.drmSetMaster, true⟩, ⟨.drmModeConnectorSetProperty 77 101 1, false⟩,
      ⟨.drmModeConnectorSetProperty 77 101 1, true⟩, ⟨.drmDropMaster, true⟩] : PortLog),
      dropSucceeds e := by
    simp [dropSucceeds]
    rfl
  refine ((master_released (onePort false)).1 77 101 1 cpDesired authNumRetry _ _ (by decide) hrun
    hdrop).2 ?_
  exact ⟨fun hrefused => absurd hrefused (by decide), fun _ => rfl,
    fun hrefused => absurd hrefused (by decide), fun hrefused => absurd hrefused (by decide),
    trivial⟩

/-- A kernel that refuses every property. -/
def refusing : Handler portSig PortState
  | .drmModeConnectorSetProperty _ _ _, s => (false, s)
  | o, s => (portAnswer none none o s, s)

/-- The port is to be disabled, and the kernel refuses. -/
theorem master_retained :
    ¬∀ (m : PortManager) (drmId propId size value numRetry : ℕ) (log : PortLog) (ret : Errno),
      m.ias = false → (m.setPortProperty drmId propId size value numRetry).Runs log ret →
        (∀ e ∈ log, dropSucceeds e) → isMaster log false = false := by
  intro h
  have hrun := Prog.runs_exec refusing ((onePort false).setPortProperty 77 101 1 cpOff 1) initState
  have hlog : (Prog.exec refusing ((onePort false).setPortProperty 77 101 1 cpOff 1) initState).log
      = [⟨.drmSetMaster, true⟩, ⟨.drmModeConnectorSetProperty 77 101 cpOff, false⟩] := rfl
  rw [hlog] at hrun
  have hreleased := h (onePort false) 77 101 1 cpOff 1 _ _ rfl hrun (by simp [dropSucceeds])
  exact absurd hreleased (by decide)

end Hdcp.Port
