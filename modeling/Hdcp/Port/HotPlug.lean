/-
Plugs and unplugs that are reported.

`ProcessHotPlug` reports a connector whose state differs from `m_Connection`.  But
`EnumeratePorts`, which the apps call through the message thread, reads the connectors too and
stores what it reads in `m_Connection`, without a report.

`hotplug_right_iff`: in every run, `ProcessHotPlug` reports a connector as it should, by the
states that it has read itself, exactly when an enumeration in between has not hidden a change
from it and has not made up one.
-/
import Hdcp.Port.Steps

namespace Hdcp.HotPlug

open Library Port
open Library.Prog (op forEach)

/-! ### The history -/

/-- What the history tells about a connector. -/
structure Seen where
  /-- The state that `ProcessHotPlug` read before its present round. -/
  previous : Option ℕ
  /-- The state that was read last before the round, by `ProcessHotPlug` or by
  `EnumeratePorts`. -/
  stored : Option ℕ
  /-- The state that `ProcessHotPlug` has read in the round. -/
  current : Option ℕ
  /-- The reports of the round. -/
  reports : List PortEvent

namespace Seen

def start : Seen := ⟨none, none, none, []⟩

def read (v : Seen) (connection : Option ℕ) : Seen := { v with current := connection }

def report (v : Seen) (event : PortEvent) : Seen := { v with reports := event :: v.reports }

/-- The round ends.  A state that could not be read changes nothing. -/
def finish (v : Seen) : Seen := ⟨v.current.or v.previous, v.current.or v.stored, none, []⟩

def enumerate (v : Seen) (connection : Option ℕ) : Seen :=
  { v with stored := connection.or v.stored }

/-- What a step of the run adds for the connector `d`. -/
def step (d : DrmObject) (v : Seen) : PortLabel → Seen
  | .op .uevent _ ⟨.drmModeGetConnector drmId, connection⟩ =>
    if drmId = d.drmId then v.read connection else v
  | .op .uevent _ ⟨.sendReport event p, _⟩ => if p = d.portId then v.report event else v
  | .op .uevent _ ⟨.connAtomicEnd p, _⟩ => if p = d.portId then v.finish else v
  | .op .message .enumeratePorts ⟨.drmModeGetConnector drmId, connection⟩ =>
    if drmId = d.drmId then v.enumerate connection else v
  | _ => v

end Seen

def seen (d : DrmObject) : PortTrace → Seen
  | [] => .start
  | l :: tr => (seen d tr).step d l

/-- The event that tells a state. -/
def eventOf (connection : ℕ) : Option PortEvent :=
  if connection = drmModeDisconnected then some .plugOut
  else if connection = drmModeConnected then some .plugIn
  else none

/-- The reports that the round owes: an event, when the state differs from the one that
`ProcessHotPlug` read before. -/
def Seen.expected (v : Seen) : List PortEvent :=
  match v.current with
  | none => []
  | some connection => if v.previous = some connection then [] else (eventOf connection).toList

/-- A report is owed, and a round that ends has made the reports that it owes. -/
def Right (d : DrmObject) : PortLabel → PortTrace → Prop
  | .op .uevent _ ⟨.sendReport event p, _⟩, tr =>
    p = d.portId → (seen d tr).expected = event :: (seen d tr).reports
  | .op .uevent _ ⟨.connAtomicEnd p, _⟩, tr =>
    p = d.portId → (seen d tr).reports = (seen d tr).expected
  | _, _ => True

/-- The enumerations since the last round of `ProcessHotPlug` have neither hidden a change of
the connector to the state that it reads now, nor made up one. -/
def Seen.Faithful (v : Seen) : Prop :=
  ∀ connection, v.current = some connection → eventOf connection ≠ none →
    (v.stored = some connection ↔ v.previous = some connection)

/-- The condition on the steps of a run. -/
def Condition (d : DrmObject) : PortLabel → PortTrace → Prop
  | .op .uevent _ ⟨.sendReport _ p, _⟩, tr => p = d.portId → (seen d tr).Faithful
  | .op .uevent _ ⟨.connAtomicEnd p, _⟩, tr => p = d.portId → (seen d tr).Faithful
  | _, _ => True

def RightIff (d : DrmObject) (l : PortLabel) (tr : PortTrace) : Prop :=
  Right d l tr ↔ Condition d l tr

/-! ### A round -/

/-- The reports that a round has made when it ends: `m_Connection` holds what was stored. -/
def Seen.made (v : Seen) : List PortEvent :=
  match v.current with
  | none => []
  | some connection => if v.stored = some connection then [] else (eventOf connection).toList

/-- The round has made its reports. -/
def Seen.reported (v : Seen) : Seen := { v with reports := v.made }

lemma eventOf_toList_ne_nil {connection : ℕ} (h : eventOf connection ≠ none) :
    (eventOf connection).toList ≠ [] := by
  cases heq : eventOf connection with
  | none => exact absurd heq h
  | some event => simp

/-- There is nothing to report when the state is the one that is stored. -/
lemma Seen.made_eq_nil {v : Seen} {connection : ℕ} (hcurrent : v.current = some connection)
    (h : connection = v.stored.getD uint32Max) : v.made = [] := by
  rw [made, hcurrent]
  refine ite_eq_left_iff.2 fun hne => ?_
  cases hstored : v.stored with
  | some stored =>
      rw [hstored] at h hne
      exact absurd (congrArg some h.symm) hne
  | none =>
      rw [hstored] at h
      subst h
      exact (by decide : (eventOf uint32Max).toList = [])

lemma Seen.made_eq_toList {v : Seen} {connection : ℕ} (hcurrent : v.current = some connection)
    (h : connection ≠ v.stored.getD uint32Max) : v.made = (eventOf connection).toList := by
  rw [made, hcurrent]
  refine if_neg fun hstored => h ?_
  rw [hstored, Option.getD_some]

lemma Seen.made_eq_expected_iff (v : Seen) : v.made = v.expected ↔ v.Faithful := by
  rw [made, expected, Faithful]
  cases hcurrent : v.current with
  | none => simp
  | some connection =>
      by_cases hevent : eventOf connection = none
      · simp [hevent]
      · have hne := eventOf_toList_ne_nil hevent
        simp only [Option.some.injEq, forall_eq', ne_eq, hevent, not_false_eq_true, true_imp_iff]
        split_ifs with hstored hprevious hprevious
        · simp [hstored, hprevious]
        · simp [hstored, hprevious, hne.symm]
        · simp [hstored, hprevious, hne]
        · simp [hstored, hprevious]

/-! ### The protocol -/

/-- `m_Connection` holds the state that was stored last, but during a round; and only in its
own round has `ProcessHotPlug` read a state and made reports. -/
structure HotPlugInv (d : DrmObject) (tr : PortTrace) (s : PortState) : Prop where
  stored : s.connectionMutex d.portId = none →
    (s.objects d.portId).connection = (seen d tr).stored.getD uint32Max
  idle : s.connectionMutex d.portId ≠ some .uevent →
    (seen d tr).current = none ∧ (seen d tr).reports = []
  right : EveryStep (RightIff d) tr

/-- Nothing changes that concerns the connection of the object. -/
structure Same (d : DrmObject) (tr : PortTrace) (s : PortState) (tr' : PortTrace)
    (s' : PortState) : Prop where
  mutex : s'.connectionMutex d.portId = s.connectionMutex d.portId
  connection : (s'.objects d.portId).connection = (s.objects d.portId).connection
  seen : seen d tr' = seen d tr

variable {m : PortManager} {d d' : DrmObject} {tr tr' tr'' : PortTrace} {s s' s'' : PortState}
  {i j : Thread} {c : PortCall} {o : PortOp} {r : o.Ans} {v : Seen} {x : ℕ} {l : PortLabel}

lemma Same.trans (h : Same d tr s tr' s') (h' : Same d tr' s' tr'' s'') :
    Same d tr s tr'' s'' where
  mutex := h'.mutex.trans h.mutex
  connection := h'.connection.trans h.connection
  seen := h'.seen.trans h.seen

/-- While a thread holds the mutex, the others leave the connection alone. -/
def hotPlugProtocol (d : DrmObject) : Protocol portSig Thread PortCall Errno PortState where
  admits _ _ _ := True
  inv := HotPlugInv d
  rely i tr s tr' s' := s.connectionMutex d.portId = some i → Same d tr s tr' s'
  refl _ _ _ _ := ⟨rfl, rfl, rfl⟩
  trans h h' hi := (h hi).trans (h' ((h hi).mutex.trans hi))

/-- The thread holds the mutex; the history and `m_Connection` are known. -/
structure Held (d : DrmObject) (i : Thread) (v : Seen) (x : ℕ) (tr : PortTrace)
    (s : PortState) : Prop where
  mutex : s.connectionMutex d.portId = some i
  connection : (s.objects d.portId).connection = x
  seen : seen d tr = v

lemma Held.of_rely (h : Held d i v x tr s) (hrely : (hotPlugProtocol d).rely i tr s tr' s') :
    Held d i v x tr' s' := by
  have hsame := hrely h.mutex
  exact ⟨hsame.mutex.trans h.mutex, hsame.connection.trans h.connection, hsame.seen.trans h.seen⟩

/-! ### Steps -/

/-- An interaction that does not concern the connection of the object. -/
structure Quiet (d : DrmObject) (i : Thread) (c : PortCall) (o : PortOp) : Prop where
  frame : o.connectionOf ≠ some d.portId
  seen : ∀ r v, Seen.step d v (.op i c ⟨o, r⟩) = v
  right : ∀ r tr, RightIff d (.op i c ⟨o, r⟩) tr

/-- The interactions on other objects. -/
def Spares (d : DrmObject) : PortOp → Prop
  | .setConnection p _ | .connAtomicBegin p | .connAtomicEnd p | .sendReport _ p =>
    p ≠ d.portId
  | .drmModeGetConnector drmId => drmId ≠ d.drmId
  | _ => True

lemma quiet_of_spares (h : Spares d o) : Quiet d i c o := by
  cases o
  case setConnection p x | connAtomicBegin p =>
    have hp : p ≠ d.portId := h
    refine ⟨fun heq => hp (Option.some.inj heq), fun _ _ => ?_, fun _ _ => ?_⟩
    · cases i <;> cases c <;> rfl
    · cases i <;> exact Iff.rfl
  case connAtomicEnd p =>
    have hp : p ≠ d.portId := h
    refine ⟨fun heq => hp (Option.some.inj heq), fun _ _ => ?_, fun _ _ => ?_⟩
    · cases i
      case uevent => exact if_neg hp
      all_goals cases c <;> rfl
    · cases i
      case uevent => exact ⟨fun _ heq => absurd heq hp, fun _ heq => absurd heq hp⟩
      all_goals exact Iff.rfl
  case sendReport event p =>
    have hp : p ≠ d.portId := h
    refine ⟨by simp [PortOp.connectionOf], fun _ _ => ?_, fun _ _ => ?_⟩
    · cases i
      case uevent => exact if_neg hp
      all_goals cases c <;> rfl
    · cases i
      case uevent => exact ⟨fun _ heq => absurd heq hp, fun _ heq => absurd heq hp⟩
      all_goals exact Iff.rfl
  case drmModeGetConnector drmId =>
    have hid : drmId ≠ d.drmId := h
    refine ⟨by simp [PortOp.connectionOf], fun _ _ => ?_, fun _ _ => ?_⟩
    · cases i
      case uevent => exact if_neg hid
      case message =>
        cases c
        case enumeratePorts => exact if_neg hid
        all_goals rfl
      all_goals rfl
    · cases i <;> exact Iff.rfl
  all_goals
    refine ⟨by simp [PortOp.connectionOf], fun _ _ => ?_, fun _ _ => ?_⟩
    · cases i <;> cases c <;> rfl
    · cases i <;> exact Iff.rfl

/-- The interactions of the calls that neither enumerate nor look for changes. -/
lemma quiet_of_connectionOf (hi : i ≠ .uevent) (hc : c ≠ .enumeratePorts)
    (ho : o.connectionOf = none) : Quiet d i c o := by
  refine ⟨by simp [ho], fun _ _ => ?_, fun _ _ => ?_⟩
  · cases i
    case uevent => exact absurd rfl hi
    case message =>
      cases c
      case enumeratePorts => exact absurd rfl hc
      all_goals rfl
    case integrity => rfl
  · cases i
    case uevent => exact absurd rfl hi
    all_goals exact Iff.rfl

/-- A step that does not concern the connection of the object. -/
lemma keeps_of_same (hsame : Same d tr s (l :: tr) s') (hright : RightIff d l tr)
    (hinv : HotPlugInv d tr s) : (hotPlugProtocol d).Keeps i tr s l s' := by
  refine ⟨⟨fun hfree => ?_, fun hidle => ?_, hright, hinv.right⟩, fun _ _ _ => hsame⟩
  · rw [hsame.connection, hsame.seen]
    exact hinv.stored (hsame.mutex.symm.trans hfree)
  · rw [hsame.seen]
    rw [hsame.mutex] at hidle
    exact hinv.idle hidle

lemma quiet_step (ho : Quiet d i c o) (hinv : HotPlugInv d tr s)
    (hstep : portStep i o r s = some s') :
    (hotPlugProtocol d).Keeps i tr s (.op i c ⟨o, r⟩) s' ∧
      (hotPlugProtocol d).rely i tr s (.op i c ⟨o, r⟩ :: tr) s' := by
  obtain ⟨hmutex, hconnection⟩ := portStep_connection ho.frame hstep
  have hsame : Same d tr s (.op i c ⟨o, r⟩ :: tr) s' := ⟨hmutex, hconnection, ho.seen r _⟩
  exact ⟨keeps_of_same hsame (ho.right r tr) hinv, fun _ => hsame⟩

/-- A step of the thread that holds the mutex. -/
lemma held_step (hheld : Held d i v x tr s) (hinv : HotPlugInv d tr s)
    (hmutex : s'.connectionMutex d.portId = some i)
    (hidle : i ≠ .uevent → (seen d (l :: tr)).current = v.current ∧
      (seen d (l :: tr)).reports = v.reports) (hright : RightIff d l tr) :
    (hotPlugProtocol d).Keeps i tr s l s' := by
  refine ⟨⟨fun hfree => ?_, fun hne => ?_, hright, hinv.right⟩, fun j hj hmj => ?_⟩
  · rw [hmutex] at hfree
    exact absurd hfree (by simp)
  · have hi : i ≠ .uevent := by
      rintro rfl
      exact hne hmutex
    have hbefore := hinv.idle (by simpa [hheld.mutex] using hi)
    rw [hheld.seen] at hbefore
    rw [(hidle hi).1, (hidle hi).2]
    exact hbefore
  · rw [hheld.mutex] at hmj
    exact absurd (Option.some.inj hmj).symm hj

/-! ### Rounds -/

section Programs

variable {α β : Type} {Q : β → PortTrace → PortState → Prop}

lemma sat_quiet {q : PortProg α} (hq : q.Uses (Quiet d i c)) :
    (hotPlugProtocol d).Sat (portSystem m) i c
      (fun _ tr' s' => (hotPlugProtocol d).rely i tr s tr' s') q tr s :=
  Protocol.sat_of_uses (P := hotPlugProtocol d)
    (fun _ _ _ _ _ ho _ hinv hstep _ => quiet_step ho hinv hstep) hq

lemma sat_quiet_bind {q : PortProg α} {f : α → PortProg β} (hq : q.Uses (Quiet d i c))
    (hf : ∀ a tr' s', (hotPlugProtocol d).rely i tr s tr' s' →
      (hotPlugProtocol d).Sat (portSystem m) i c Q (f a) tr' s') :
    (hotPlugProtocol d).Sat (portSystem m) i c Q (q >>= f) tr s :=
  (sat_quiet hq).bind fun a tr' s' _ hrely => hf a tr' s' hrely

/-- `ConnAtomicBegin`: the thread finds what was stored last. -/
lemma sat_begin {f : Unit → PortProg β}
    (hf : ∀ v tr' s', v.current = none → v.reports = [] →
      Held d i v (v.stored.getD uint32Max) tr' s' →
      (hotPlugProtocol d).Sat (portSystem m) i c Q (f ()) tr' s') :
    (hotPlugProtocol d).Sat (portSystem m) i c Q (connAtomicBegin d.portId >>= f) tr s := by
  intro tr' s' _ hinv u s'' hstep _
  have hstep : (if s'.connectionMutex d.portId = none then
      some { s' with connectionMutex := Function.update s'.connectionMutex d.portId (some i) }
      else none) = some s'' := hstep
  rw [Option.ite_none_right_eq_some] at hstep
  obtain ⟨hfree, hstep⟩ := hstep
  obtain rfl := Option.some.inj hstep
  have hseen : seen d (.op i c ⟨.connAtomicBegin d.portId, u⟩ :: tr') = seen d tr' := by
    cases i <;> cases c <;> rfl
  obtain ⟨hcurrent, hreports⟩ := hinv.idle (by simp [hfree])
  have hmutex : Function.update s'.connectionMutex d.portId (some i) d.portId = some i :=
    Function.update_self _ _ _
  refine ⟨⟨⟨fun hmutex' => ?_, fun _ => ?_, ?_, hinv.right⟩, fun j _ hj => ?_⟩, ?_⟩
  · exact absurd (hmutex.symm.trans hmutex') (by simp)
  · rw [hseen]
    exact ⟨hcurrent, hreports⟩
  · cases i <;> exact Iff.rfl
  · rw [hfree] at hj
    exact absurd hj (by simp)
  · exact hf (seen d tr') _ _ hcurrent hreports ⟨hmutex, hinv.stored hfree, hseen⟩

/-- `ConnAtomicEnd`: the round has stored what it has read. -/
lemma sat_end {f : Unit → PortProg β} {w : Seen} (hheld : Held d i v x tr s)
    (hw : (if i = .uevent then v.finish else v) = w) (hcurrent : w.current = none)
    (hreports : w.reports = []) (hx : x = w.stored.getD uint32Max)
    (hmade : i = .uevent → v.reports = v.made)
    (hf : ∀ tr' s', (hotPlugProtocol d).Sat (portSystem m) i c Q (f ()) tr' s') :
    (hotPlugProtocol d).Sat (portSystem m) i c Q (connAtomicEnd d.portId >>= f) tr s := by
  intro tr' s' hrely hinv u s'' hstep _
  have hheld := hheld.of_rely hrely
  obtain rfl := (Option.some.inj hstep).symm
  have hseen : seen d (.op i c ⟨.connAtomicEnd d.portId, u⟩ :: tr') = w := by
    rw [← hw, ← hheld.seen]
    cases i
    case uevent => exact if_pos rfl
    all_goals cases c <;> rfl
  have hright : RightIff d (.op i c ⟨.connAtomicEnd d.portId, u⟩) tr' := by
    cases i
    case uevent =>
      have hiff := Seen.made_eq_expected_iff (seen d tr')
      rw [hheld.seen, ← hmade rfl, ← hheld.seen] at hiff
      exact ⟨fun h heq => hiff.1 (h heq), fun h heq => hiff.2 (h heq)⟩
    all_goals exact Iff.rfl
  refine ⟨⟨⟨fun _ => ?_, fun _ => ?_, hright, hinv.right⟩, fun j hj hmj => ?_⟩, hf _ _⟩
  · rw [hseen, ← hx]
    exact hheld.connection
  · rw [hseen]
    exact ⟨hcurrent, hreports⟩
  · rw [hheld.mutex] at hmj
    exact absurd (Option.some.inj hmj).symm hj

lemma sat_setConnection {f : Unit → PortProg β} {y : ℕ} (hheld : Held d i v x tr s)
    (hf : ∀ tr' s', Held d i v y tr' s' →
      (hotPlugProtocol d).Sat (portSystem m) i c Q (f ()) tr' s') :
    (hotPlugProtocol d).Sat (portSystem m) i c Q (setConnection d.portId y >>= f) tr s := by
  intro tr' s' hrely hinv u s'' hstep _
  have hheld := hheld.of_rely hrely
  obtain rfl := (Option.some.inj hstep).symm
  have hseen : seen d (.op i c ⟨.setConnection d.portId y, u⟩ :: tr') = v := by
    rw [← hheld.seen]
    cases i <;> cases c <;> rfl
  have hright : RightIff d (.op i c ⟨.setConnection d.portId y, u⟩) tr' := by
    cases i <;> exact Iff.rfl
  refine ⟨held_step hheld hinv hheld.mutex (fun _ => ?_) hright, hf _ _ ⟨hheld.mutex, ?_, hseen⟩⟩
  · rw [hseen]
    exact ⟨rfl, rfl⟩
  · rw [PortState.modify_objects_self]

/-- `GetConnection`, during a round. -/
lemma sat_getConnection {f : ℕ → PortProg β} (hheld : Held d i v x tr s)
    (hf : ∀ tr' s', Held d i v x tr' s' →
      (hotPlugProtocol d).Sat (portSystem m) i c Q (f x) tr' s') :
    (hotPlugProtocol d).Sat (portSystem m) i c Q (getConnection d.portId >>= f) tr s := by
  intro tr' s' hrely hinv current s'' hstep _
  have hheld := hheld.of_rely hrely
  obtain ⟨hcurrent, hs⟩ := PortState.answer_eq_some.1 hstep
  obtain rfl : current = x := hcurrent.trans hheld.connection
  have hquiet : Quiet d i c (.getConnection d.portId) := quiet_of_spares trivial
  obtain ⟨hkeeps, hsame⟩ := quiet_step hquiet hinv hstep
  exact ⟨hkeeps, hf _ _ (hheld.of_rely hsame)⟩

/-- A reading of the object, during a round. -/
lemma sat_getConnector {f : Option ℕ → PortProg β} (read : Seen → Option ℕ → Seen)
    (hread : ∀ v r, Seen.step d v (.op i c ⟨.drmModeGetConnector d.drmId, r⟩) = read v r)
    (hidle : i ≠ .uevent → ∀ v r, (read v r).current = v.current ∧ (read v r).reports = v.reports)
    (hheld : Held d i v x tr s)
    (hf : ∀ r tr' s', Held d i (read v r) x tr' s' →
      (hotPlugProtocol d).Sat (portSystem m) i c Q (f r) tr' s') :
    (hotPlugProtocol d).Sat (portSystem m) i c Q (drmModeGetConnector d.drmId >>= f) tr s := by
  intro tr' s' hrely hinv r s'' hstep _
  have hheld := hheld.of_rely hrely
  obtain rfl : s' = s'' := Option.some.inj hstep
  have hseen : seen d (.op i c ⟨.drmModeGetConnector d.drmId, r⟩ :: tr') = read v r := by
    rw [← hheld.seen]
    exact hread _ _
  have hright : RightIff d (.op i c ⟨.drmModeGetConnector d.drmId, r⟩) tr' := by
    cases i <;> exact Iff.rfl
  refine ⟨held_step hheld hinv hheld.mutex (fun hi => ?_) hright,
    hf r _ _ ⟨hheld.mutex, hheld.connection, hseen⟩⟩
  rw [hseen]
  exact hidle hi v r

/-- A report, when it is the one that the round makes. -/
lemma sat_reportStatus {f : Unit → PortProg β} {event : PortEvent}
    (hheld : Held d .uevent v x tr s) (hreports : v.reports = []) (hmade : v.made = [event])
    (hf : ∀ tr' s', Held d .uevent v.reported x tr' s' →
      (hotPlugProtocol d).Sat (portSystem m) .uevent c Q (f ()) tr' s') :
    (hotPlugProtocol d).Sat (portSystem m) .uevent c Q
      (reportStatus event d.portId >>= f) tr s := by
  rw [reportStatus, Prog.bind_assoc]
  refine sat_quiet_bind (Prog.uses_op.2 (quiet_of_spares trivial)) fun _ tr s hrely => ?_
  have hheld := hheld.of_rely hrely
  rw [Prog.bind_assoc]
  intro tr' s' hrely hinv u s'' hstep _
  have hheld := hheld.of_rely hrely
  obtain rfl : s' = s'' := Option.some.inj hstep
  have hseen : seen d (.op .uevent c ⟨.sendReport event d.portId, u⟩ :: tr') = v.reported := by
    have hreport : v.report event = v.reported := by
      rw [Seen.report, Seen.reported, hmade, hreports]
    rw [← hreport, ← hheld.seen]
    exact if_pos rfl
  have hright : RightIff d (.op .uevent c ⟨.sendReport event d.portId, u⟩) tr' := by
    have hiff := Seen.made_eq_expected_iff (seen d tr')
    have hnow : event :: (seen d tr').reports = (seen d tr').made := by
      rw [hheld.seen, hreports, hmade]
    rw [← hnow] at hiff
    exact ⟨fun h heq => hiff.1 (h heq).symm, fun h heq => (hiff.2 (h heq)).symm⟩
  refine ⟨held_step hheld hinv hheld.mutex (fun hi => absurd rfl hi) hright, ?_⟩
  refine sat_quiet_bind (q := callBackListEnd) (Prog.uses_op.2 (quiet_of_spares trivial))
    fun _ tr s hrely => ?_
  exact hf tr s (Held.of_rely ⟨hheld.mutex, hheld.connection, hseen⟩ hrely)

lemma sat_reportConnection {f : Unit → PortProg β} {connection : ℕ}
    (hheld : Held d .uevent v x tr s) (hreports : v.reports = [])
    (hmade : v.made = (eventOf connection).toList)
    (hf : ∀ tr' s', Held d .uevent v.reported x tr' s' →
      (hotPlugProtocol d).Sat (portSystem m) .uevent c Q (f ()) tr' s') :
    (hotPlugProtocol d).Sat (portSystem m) .uevent c Q
      (reportConnection connection d.portId >>= f) tr s := by
  rw [reportConnection]
  rw [eventOf] at hmade
  split
  · rename_i hdis
    rw [if_pos hdis] at hmade
    exact sat_reportStatus hheld hreports hmade hf
  · rename_i hdis
    rw [if_neg hdis] at hmade
    split
    · rename_i hcon
      rw [if_pos hcon] at hmade
      exact sat_reportStatus hheld hreports hmade hf
    · rename_i hcon
      rw [if_neg hcon] at hmade
      have hsame : v.reported = v := by
        rw [Seen.reported, hmade, Option.toList_none, ← hreports]
      exact hf tr s (hsame.symm ▸ hheld)

/-- The round of `ProcessHotPlug` for the object. -/
lemma sat_hotPlugRound :
    (hotPlugProtocol d).Sat (portSystem m) .uevent c (fun _ _ _ => True) (hotPlugRound d) tr s := by
  have hend {w : Seen} {y : ℕ} {tr : PortTrace} {s : PortState} (hheld : Held d .uevent w y tr s)
      (hx : y = w.finish.stored.getD uint32Max) (hmade : w.reports = w.made) :
      (hotPlugProtocol d).Sat (portSystem m) .uevent c (fun _ _ _ => True)
        (connAtomicEnd d.portId) tr s :=
    sat_end (f := Prog.ret) hheld (if_pos rfl) rfl rfl hx (fun _ => hmade)
      fun _ _ _ _ _ _ => trivial
  rw [hotPlugRound]
  refine sat_begin fun v tr s hcurrent hreports hheld => ?_
  refine sat_getConnector Seen.read (fun _ _ => if_pos rfl) (fun hi => absurd rfl hi) hheld
    fun connection tr s hheld => ?_
  cases connection with
  | none => exact hend hheld rfl hreports
  | some connection =>
      refine sat_getConnection hheld fun tr s hheld => ?_
      refine Protocol.Sat.ite (fun heq => ?_) fun hne => ?_
      · have hmade : (v.read (some connection)).made = [] :=
          Seen.made_eq_nil rfl (heq.trans rfl)
        refine hend hheld heq.symm (hreports.trans hmade.symm)
      · have hmade : (v.read (some connection)).made = (eventOf connection).toList :=
          Seen.made_eq_toList rfl hne
        refine sat_reportConnection hheld hreports hmade fun tr s hheld => ?_
        exact sat_setConnection hheld fun tr s hheld => hend hheld rfl rfl

lemma uses_hotPlugRound (hd : d'.portId ≠ d.portId) (hid : d'.drmId ≠ d.drmId) :
    (hotPlugRound d').Uses (Quiet d i c) := by
  have hend : Quiet d i c (.connAtomicEnd d'.portId) := quiet_of_spares hd
  have hstatus (event : PortEvent) : (reportStatus event d'.portId).Uses (Quiet d i c) := by
    refine Prog.Uses.bind (Prog.uses_op.2 (quiet_of_spares trivial)) fun _ => ?_
    refine Prog.Uses.bind (Prog.uses_op.2 (quiet_of_spares hd)) fun _ => ?_
    exact Prog.uses_op.2 (quiet_of_spares trivial)
  rw [hotPlugRound]
  refine Prog.Uses.bind (Prog.uses_op.2 (quiet_of_spares hd)) fun _ => ?_
  refine Prog.Uses.bind (Prog.uses_op.2 (quiet_of_spares hid)) fun connection => ?_
  cases connection with
  | none => exact Prog.uses_op.2 hend
  | some connection =>
      refine Prog.Uses.bind (Prog.uses_op.2 (quiet_of_spares trivial)) fun current => ?_
      refine Prog.Uses.ite (fun _ => Prog.uses_op.2 hend) fun _ => ?_
      have hreport : (reportConnection connection d'.portId).Uses (Quiet d i c) :=
        Prog.Uses.ite (fun _ => hstatus _) fun _ =>
          Prog.Uses.ite (fun _ => hstatus _) fun _ => trivial
      refine hreport.bind fun _ => ?_
      exact Prog.Uses.bind (Prog.uses_op.2 (quiet_of_spares hd)) fun _ => Prog.uses_op.2 hend

/-- The loop of `EnumeratePorts`. -/
lemma sat_enumerateLoop (hd : d ∈ m.drmObjects) (drmObjects : List DrmObject)
    (hsub : ∀ d' ∈ drmObjects, d' ∈ m.drmObjects) (portCount : ℕ) :
    (hotPlugProtocol d).Sat (portSystem m) .message .enumeratePorts (fun _ _ _ => True)
      (enumerateLoop drmObjects portCount) tr s := by
  induction drmObjects generalizing portCount tr s with
  | nil => exact fun _ _ _ _ => trivial
  | cons d' drmObjects ih =>
      have ih (portCount : ℕ) (tr : PortTrace) (s : PortState) :
          (hotPlugProtocol d).Sat (portSystem m) .message .enumeratePorts (fun _ _ _ => True)
            (enumerateLoop drmObjects portCount) tr s :=
        ih (fun d'' hd'' => hsub d'' (List.mem_cons_of_mem d' hd'')) portCount
      rw [enumerateLoop]
      by_cases heq : d' = d
      -- the round for the object
      · subst heq
        have hend {w : Seen} {y : ℕ} {tr : PortTrace} {s : PortState} {q : PortProg Errno}
            (hheld : Held d' .message w y tr s) (hcurrent : w.current = none)
            (hreports : w.reports = []) (hx : y = w.stored.getD uint32Max)
            (hq : ∀ tr s, (hotPlugProtocol d').Sat (portSystem m) .message .enumeratePorts
              (fun _ _ _ => True) q tr s) :
            (hotPlugProtocol d').Sat (portSystem m) .message .enumeratePorts
              (fun _ _ _ => True) (connAtomicEnd d'.portId >>= fun _ => q) tr s :=
          sat_end hheld rfl hcurrent hreports hx (fun hi => absurd hi (by simp)) hq
        refine sat_begin fun v tr s hcurrent hreports hheld => ?_
        refine sat_getConnector Seen.enumerate (fun _ _ => if_pos rfl) (fun _ _ _ => ⟨rfl, rfl⟩)
          hheld fun connection tr s hheld => ?_
        cases connection with
        | none => exact hend hheld hcurrent hreports rfl fun _ _ _ _ _ _ => trivial
        | some connection =>
            refine Protocol.Sat.ite (fun _ => ?_) fun _ => ?_
            · refine sat_quiet_bind (Prog.uses_op.2 (quiet_of_spares trivial))
                fun _ tr s hrely => ?_
              have hheld := hheld.of_rely hrely
              refine sat_quiet_bind (Prog.uses_op.2 (quiet_of_spares trivial))
                fun _ tr s hrely => ?_
              have hheld := hheld.of_rely hrely
              refine sat_setConnection hheld fun tr s hheld => ?_
              exact hend hheld hcurrent hreports rfl fun tr s => ih _ tr s
            · refine sat_setConnection hheld fun tr s hheld => ?_
              exact hend hheld hcurrent hreports rfl fun tr s => ih _ tr s
      -- the rounds for other objects
      · have hport := m.portId_ne (hsub d' List.mem_cons_self) hd heq
        have hid := m.drmId_ne (hsub d' List.mem_cons_self) hd heq
        refine sat_quiet_bind (Prog.uses_op.2 (quiet_of_spares hport)) fun _ tr s _ => ?_
        refine sat_quiet_bind (Prog.uses_op.2 (quiet_of_spares hid)) fun connection tr s _ => ?_
        cases connection with
        | none =>
            refine sat_quiet_bind (Prog.uses_op.2 (quiet_of_spares hport)) fun _ tr s _ => ?_
            exact fun _ _ _ _ => trivial
        | some connection =>
            refine Protocol.Sat.ite (fun _ => ?_) fun _ => ?_
            · refine sat_quiet_bind (Prog.uses_op.2 (quiet_of_spares trivial)) fun _ tr s _ => ?_
              refine sat_quiet_bind (Prog.uses_op.2 (quiet_of_spares trivial)) fun _ tr s _ => ?_
              refine sat_quiet_bind (Prog.uses_op.2 (quiet_of_spares hport)) fun _ tr s _ => ?_
              refine sat_quiet_bind (Prog.uses_op.2 (quiet_of_spares hport)) fun _ tr s _ => ?_
              exact ih _ tr s
            · refine sat_quiet_bind (Prog.uses_op.2 (quiet_of_spares hport)) fun _ tr s _ => ?_
              refine sat_quiet_bind (Prog.uses_op.2 (quiet_of_spares hport)) fun _ tr s _ => ?_
              exact ih _ tr s

/-! ### The other calls -/

lemma connectionOf_of_onProtection (h : o.onProtection = true) : o.connectionOf = none := by
  cases o <;> first | rfl | exact absurd h (by simp [PortOp.onProtection])

lemma uses_setPortProperty {drmId propId value numRetry : ℕ} :
    (m.setPortProperty drmId propId 1 value numRetry).Uses
      fun o : PortOp => o.connectionOf = none :=
  Port.uses_setPortProperty (fun _ => rfl) rfl (fun _ => rfl) rfl

lemma uses_disablePort {portId a : ℕ} :
    (m.disablePort portId a).Uses fun o : PortOp => o.connectionOf = none := by
  rw [PortManager.disablePort]
  split
  · trivial
  · refine Prog.Uses.bind (Prog.uses_op.2 rfl) fun connection => ?_
    refine Prog.Uses.ite (fun _ => trivial) fun _ => ?_
    refine Prog.Uses.bind (Prog.uses_op.2 rfl) fun _ => ?_
    refine Prog.Uses.bind (Prog.uses_op.2 rfl) fun count => ?_
    refine Prog.Uses.ite (fun _ => trivial) fun _ => ?_
    refine uses_setPortProperty.bind fun ret => ?_
    refine Prog.Uses.ite (fun _ => trivial) fun _ => ?_
    exact uses_checkDisabled rfl rfl rfl rfl

lemma uses_removeLoop {a : ℕ} (drmObjects : List DrmObject) :
    (m.removeLoop a drmObjects).Uses fun o : PortOp => o.connectionOf = none := by
  induction drmObjects with
  | nil => trivial
  | cons d drmObjects ih => exact uses_disablePort.bind fun _ => ih

/-- The calls that neither enumerate nor look for changes. -/
lemma uses_callBody (hc : c ≠ .enumeratePorts) (hc' : c ≠ .processHotPlug) :
    (m.callBody c).Uses fun o : PortOp => o.connectionOf = none := by
  cases c with
  | enumeratePorts => exact absurd rfl hc
  | enablePort p a level =>
      exact uses_enablePort (fun _ _ h => h) (fun _ => connectionOf_of_onProtection)
        (fun _ => rfl) fun _ _ _ _ => uses_setPortProperty
  | disablePort p a => exact uses_disablePort
  | removeAppFromPorts a => exact uses_removeLoop m.drmObjects
  | getStatus p => exact uses_getStatus (fun _ _ h => h) fun _ => rfl
  | processHotPlug => exact absurd rfl hc'
  | checkIntegrity =>
      exact uses_checkIntegrity (fun _ _ h => h) fun _ h _ => connectionOf_of_onProtection h

/-! ### Runs -/

/-- A call begins, or returns. -/
lemma keeps_outer (hl : l = .call i c ∨ ∃ e, l = .ret i c e) (hinv : HotPlugInv d tr s) :
    (hotPlugProtocol d).Keeps i tr s l s := by
  rcases hl with rfl | ⟨e, rfl⟩
  · exact keeps_of_same ⟨rfl, rfl, rfl⟩ Iff.rfl hinv
  · exact keeps_of_same ⟨rfl, rfl, rfl⟩ Iff.rfl hinv

lemma sat_callBody (hd : d ∈ m.drmObjects) (hmay : portMay i c = true) :
    (hotPlugProtocol d).Sat (portSystem m) i c (fun _ _ _ => True) (m.callBody c) tr s := by
  by_cases henum : c = .enumeratePorts
  · subst henum
    obtain rfl : i = .message := by cases i <;> first | rfl | exact absurd hmay (by decide)
    have hstore (n id status : ℕ) : Quiet d .message .enumeratePorts (.storePort n id status) :=
      quiet_of_spares trivial
    refine sat_quiet_bind (Prog.uses_forEach fun n _ => Prog.uses_op.2 (hstore n _ _))
      fun _ tr s _ => ?_
    refine sat_quiet_bind (Prog.uses_op.2 (quiet_of_spares trivial)) fun _ tr s _ => ?_
    refine Protocol.Sat.ite (fun _ _ _ _ _ => trivial) fun _ => ?_
    exact sat_enumerateLoop hd m.drmObjects (fun _ h => h) 0
  · by_cases hplug : c = .processHotPlug
    · subst hplug
      obtain rfl : i = .uevent := by cases i <;> first | rfl | exact absurd hmay (by decide)
      refine (Protocol.sat_forEach fun d' hd' tr s => ?_).bind
        (f := fun _ => Prog.ret Errno.success) fun _ _ _ _ _ _ _ _ _ => trivial
      by_cases heq : d' = d
      · subst heq
        exact sat_hotPlugRound
      · have huses : (hotPlugRound d').Uses (Quiet d .uevent .processHotPlug) :=
          uses_hotPlugRound (m.portId_ne hd' hd heq) (m.drmId_ne hd' hd heq)
        exact (sat_quiet huses).mono fun _ _ _ _ _ => trivial
    · have hi : i ≠ .uevent := by
        rintro rfl
        exact hplug (eq_processHotPlug hmay)
      have huses : (m.callBody c).Uses (Quiet d i c) :=
        (uses_callBody henum hplug).mono fun _ ho => quiet_of_connectionOf hi henum ho
      exact (sat_quiet huses).mono fun _ _ _ _ _ => trivial

lemma inv_of_run (hd : d ∈ m.drmObjects) {cfg : PortConfig}
    (hrun : (portSystem m).AnyRun initState tr cfg) : HotPlugInv d tr cfg.shared := by
  refine (Protocol.sound (P := hotPlugProtocol d) ?_ ?_ hrun).1
  · exact ⟨fun _ => rfl, fun _ => ⟨rfl, rfl⟩, trivial⟩
  · intro i c tr s hmay _ hinv _
    refine ⟨keeps_outer (.inl rfl) hinv, (sat_callBody hd hmay).mono ?_⟩
    exact fun e tr s hinv _ _ => keeps_outer (.inr ⟨e, rfl⟩) hinv

end Programs

/-! ### The reports of ProcessHotPlug -/

/-- In every run, and for every connector, `ProcessHotPlug` makes a report, or ends a round
without one, as the states that it has read say, exactly when the enumerations since its last
round have been faithful to these states. -/
theorem hotplug_right_iff (hd : d ∈ m.drmObjects) {cfg : PortConfig}
    (hrun : (portSystem m).AnyRun initState tr cfg) :
    ∀ l tr', l :: tr' <:+ tr → (Right d l tr' ↔ Condition d l tr') :=
  fun _ _ hsuffix => (inv_of_run hd hrun).right.of_suffix hsuffix

/-! ### The rounds of a call -/

/-- The port whose round ends. -/
def roundEnd : Event portSig → Option ℕ
  | ⟨.connAtomicEnd p, _⟩ => some p
  | _ => none

lemma roundEnd_reportConnection {connection p : ℕ} {log : List (Event portSig)}
    (h : (reportConnection connection p).Runs log ()) : log.filterMap roundEnd = [] := by
  have huses : (reportConnection connection p).Uses fun o : PortOp =>
      ∀ p, o ≠ .connAtomicEnd p := by
    have hreport (event : PortEvent) :
        (reportStatus event p).Uses fun o : PortOp => ∀ p, o ≠ .connAtomicEnd p :=
      Prog.Uses.op_bind (by simp) fun _ =>
        Prog.Uses.op_bind (by simp) fun _ => Prog.uses_op.2 (by simp)
    exact .ite (fun _ => hreport _) fun _ => .ite (fun _ => hreport _) fun _ => trivial
  refine List.filterMap_eq_nil_iff.2 fun e he => ?_
  have hop := huses.of_runs h he
  obtain ⟨o, r⟩ := e
  cases o
  case connAtomicEnd p => exact absurd rfl (hop p)
  all_goals rfl

lemma roundEnd_hotPlugRound (d : DrmObject) (log : List (Event portSig))
    (h : (hotPlugRound d).Runs log ()) : log.filterMap roundEnd = [d.portId] := by
  obtain ⟨-, log₁, rfl, h₁⟩ := Prog.runs_op_bind.1 h
  obtain ⟨connection, log₂, rfl, h₂⟩ := Prog.runs_op_bind.1 h₁
  cases connection with
  | none =>
      rw [Prog.runs_op.1 h₂]
      rfl
  | some connection =>
      obtain ⟨(current : ℕ), log₃, rfl, h₃⟩ := Prog.runs_op_bind.1 h₂
      rcases Prog.runs_ite.1 h₃ with ⟨-, h₄⟩ | ⟨-, h₄⟩
      · rw [Prog.runs_op.1 h₄]
        rfl
      · obtain ⟨⟨⟩, reports, log₄, hreports, h₅, rfl⟩ := Prog.runs_bind.1 h₄
        obtain ⟨-, log₅, rfl, h₆⟩ := Prog.runs_op_bind.1 h₅
        rw [Prog.runs_op.1 h₆, List.filterMap_cons, List.filterMap_cons, List.filterMap_cons,
          List.filterMap_append, roundEnd_reportConnection hreports]
        rfl

/-- A call of `ProcessHotPlug` that returns has made one round for each port, one after the
other. -/
theorem processHotPlug_rounds {cfg : PortConfig} {a : Errno}
    (hrun : (portSystem m).AnyRun initState tr cfg)
    (hret : .ret i .processHotPlug a :: tr' <:+ tr) :
    (callEvents i tr').reverse.filterMap roundEnd = m.drmObjects.map (·.portId) := by
  obtain ⟨⟨⟩, log, last, hlog, hlast, heq⟩ := Prog.runs_bind.1 (hrun.runs_of_ret hret)
  obtain ⟨rfl, -⟩ := Prog.runs_ret.1 hlast
  rw [heq, List.append_nil,
    Prog.runs_forEach_filterMap (fun d _ => roundEnd_hotPlugRound d) hlog, ← List.map_eq_flatMap]

/-- The connector is plugged in, a client enumerates the ports, and it is unplugged. -/
def plugInAndOut : List PortAction :=
  completeCall .uevent .processHotPlug 8 (portAnswer (some drmModeConnected) none) ++
    completeCall .message .enumeratePorts 12 (portAnswer (some drmModeConnected) none) ++
    completeCall .uevent .processHotPlug 8 (portAnswer (some drmModeDisconnected) none)

def reportsPlugOut : PortLabel → Bool
  | .op .uevent _ ⟨.sendReport .plugOut 0, _⟩ => true
  | _ => false

theorem hotplug_right_iff_plugInAndOut :
    ∃ x, (onePort false).scheduled (fun _ _ _ => true) plugInAndOut = some x ∧
      x.1.any reportsPlugOut ∧
      ∀ l tr', l :: tr' <:+ x.1 → (Right port0 l tr' ↔ Condition port0 l tr') := by
  obtain ⟨x, hx, hrun, htest⟩ := exists_run_of_scheduled (onePort false) (fun _ _ _ => true)
    (C := fun _ _ _ => True) (fun _ _ _ _ => trivial) plugInAndOut
    (fun x => x.1.any reportsPlugOut) (by decide)
  exact ⟨x, hx, htest, hotplug_right_iff (List.mem_singleton.2 rfl) hrun⟩

/-- The client enumerates the ports when the connector has been unplugged, before
`ProcessHotPlug` looks at it. -/
def enumerateBeforePlugOut : List PortAction :=
  completeCall .uevent .processHotPlug 8 (portAnswer (some drmModeConnected) none) ++
    completeCall .message .enumeratePorts 10 (portAnswer (some drmModeDisconnected) none) ++
    .call .uevent .processHotPlug ::
      List.replicate 4 (.op .uevent (portAnswer (some drmModeDisconnected) none))

/-- The last step is the end of a round that owes a report. -/
def endsOwing (d : DrmObject) : PortTrace → Bool
  | .op .uevent _ ⟨.connAtomicEnd p, _⟩ :: tr =>
    p == d.portId && !decide ((seen d tr).reports = (seen d tr).expected)
  | _ => false

lemma not_right_of_endsOwing (h : endsOwing d tr = true) :
    ¬∀ l tr', l :: tr' <:+ tr → Right d l tr' := by
  rw [endsOwing.eq_def] at h
  split at h
  · intro hall
    have hright := hall _ _ List.suffix_rfl
    simp only [Bool.and_eq_true, beq_iff_eq, Bool.not_eq_true', decide_eq_false_iff_not] at h
    exact h.2 (hright h.1)
  · exact absurd h (by decide)

/-- The unplugging is not reported. -/
theorem plugOut_lost :
    ∃ x, (onePort false).scheduled (fun _ _ _ => true) enumerateBeforePlugOut = some x ∧
      (portSystem (onePort false)).AnyRun initState x.1 x.2 ∧
      ¬∀ l tr', l :: tr' <:+ x.1 → Right port0 l tr' := by
  obtain ⟨x, hx, hrun, htest⟩ := exists_run_of_scheduled (onePort false) (fun _ _ _ => true)
    (C := fun _ _ _ => True) (fun _ _ _ _ => trivial) enumerateBeforePlugOut
    (fun x => endsOwing port0 x.1) (by decide)
  exact ⟨x, hx, hrun, not_right_of_endsOwing htest⟩

end Hdcp.HotPlug
