/-
The channel of the callbacks is there when it is needed.

`Holds` is what the standing of a thread says about the sessions, `Makes` what it says about the
channel.  The invariant `Inv` has both for all threads, and says what is so whoever holds a mutex
(`Consistent`).  It is kept by all steps of the runs in which the channel is kept; in those every
session with a callback function has a channel (`channel_live`).

`DestroyCallback` does not clear the flag.  `lost_channel` has a call that begins after it, and one
that has read the flag before it.
-/
import Hdcp.Sdk.Holding

namespace Hdcp.Channel

open Library Sdk Socket Handles

variable {ι : Type}

/-! ### The invariant -/

/-- What is so at a stage. -/
def Stage.At (hungUp : Bool) (s : ChannelState ι) : Stage → Prop
  | .outside => True
  | .inside => s.thread ≠ .absent → s.isCallBackInitialized = true
  | .unset => s.thread = .absent
  | .fresh => s.thread = .absent ∧ s.callBackSocket = some ⟨false, false⟩
  | .connected => s.thread = .absent ∧ s.callBackSocket = some ⟨!hungUp, false⟩
  | .registered => s.thread = .absent ∧ s.callBackSocket = some ⟨!hungUp, true⟩
  | .created => s.thread ≠ .absent

/-- What a thread knows about the sessions. -/
structure Holds (i : ι) (q : Standing) (t : SdkState ι) : Prop where
  iterator : q.iterator = true ↔ t.iteratorMutex = some i
  list : ∀ l, q.list = some l → q.iterator = true ∧ t.sessionList = l
  own : ∀ x func, q.own = some (x, func) → x < t.allocated ∧ (t.sessions x).callBack = func

/-- What a thread knows about the channel. -/
structure Makes (i : ι) (q : Standing) (hungUp : Bool) (s : ChannelState ι) : Prop where
  handle : q.stage ≠ .outside ↔ s.handleMutex = some i
  stage : q.stage.At hungUp s
  ready : q.ready = true → s.thread ≠ .absent
  gone : q.gone = true → s.Lost

/-- No session with a callback function is in the list. -/
def Quiet (t : SdkState ι) : Prop := ∀ x ∈ t.sessionList, (t.sessions x).callBack = none

structure Consistent (hungUp : Bool) (s : ChannelState ι) : Prop where
  fresh : ∀ x ∈ s.sdk.sessionList, x < s.sdk.allocated
  flag : s.isCallBackInitialized = true → s.thread ≠ .absent
  free : s.handleMutex = none → s.thread ≠ .absent → s.isCallBackInitialized = true
  channel : ChannelUp hungUp s ∨ (s.thread = .absent ∨ s.callBackSocket = none) ∧ Quiet s.sdk

section

variable [DecidableEq ι]

/-- What the last call of a thread has come to. -/
def standing (i : ι) : ChannelTrace ι → Standing
  | [] => .start false
  | .call j c :: tr => if j = i then .start (withCallBack c) else standing i tr
  | .op j _ e :: tr => if j = i then (standing i tr).after e else standing i tr
  | .ret _ _ _ :: tr => standing i tr

structure Inv (tr : ChannelTrace ι) (s : ChannelState ι) : Prop where
  consistent : Consistent (hungUp tr) s
  holds : ∀ i, Holds i (standing i tr) s.sdk
  makes : ∀ i, Makes i (standing i tr) (hungUp tr) s
  strict : ∀ i c, calling i tr = some c → (standing i tr).strict = withCallBack c
  idle : ∀ i, calling i tr = none → Free (standing i tr)

end

variable {tr : ChannelTrace ι} {s s' : ChannelState ι} {t t' : SdkState ι} {i j : ι}
  {q q' : Standing} {b b' : Bool} {x : ℕ}

/-! ### The sessions -/

/-- The interactions that change what the threads know about the sessions. -/
def changes : SdkOp → Bool
  | .iteratorBegin | .iteratorEnd | .newSession _ | .pushFront _ _ | .remove _ => true
  | _ => false

/-- What the threads know about the sessions is the same. -/
structure SameSessions (t t' : SdkState ι) : Prop where
  mutex : t'.iteratorMutex = t.iteratorMutex
  list : t'.sessionList = t.sessionList
  sessions : t'.sessions = t.sessions
  allocated : t'.allocated = t.allocated

lemma Holds.of_same (h : Holds i q t) (hsame : SameSessions t t') : Holds i q t' where
  iterator := by rw [hsame.mutex]; exact h.iterator
  list := by rw [hsame.list]; exact h.list
  own := by rw [hsame.allocated, hsame.sessions]; exact h.own

variable {o : SdkOp} {r : o.Ans}

lemma sameSessions_of_step (ho : changes o = false) (hstep : sdkStep i o r t = some t') :
    SameSessions t t' := by
  by_cases hlist : o.onList = false
  · have hsame := sdkStep_list hlist hstep
    exact ⟨hsame.mutex, hsame.list, hsame.sessions, hsame.allocated⟩
  cases o
  case findToDestroy | decreaseIterator =>
    rw [(SdkState.answer_eq_some.1 hstep).2]
    exact ⟨rfl, rfl, rfl, rfl⟩
  case increaseIterator | destroyed | pushPending | clearPending | invoke =>
    obtain rfl := Option.some.inj hstep
    exact ⟨rfl, rfl, rfl, rfl⟩
  case iteratorBegin | iteratorEnd | newSession | pushFront | remove =>
    exact absurd ho (by simp [changes])
  all_goals exact absurd rfl hlist

lemma Holds.own_step (h : Holds i q t) (hstep : sdkStep j o r t = some t') :
    ∀ x func, q.own = some (x, func) → x < t'.allocated ∧ (t'.sessions x).callBack = func := by
  intro x func hown
  obtain ⟨hlt, hfunc⟩ := h.own x func hown
  have hcreated : Created x (t.sessions x) t := ⟨hlt, rfl⟩
  obtain ⟨hlt', hsame⟩ := hcreated.step hstep
  exact ⟨hlt', hsame ▸ hfunc⟩

/-- The thread itself. -/
lemma Holds.step (h : Holds i q t) (hmay : sdkMay q o) (hstep : sdkStep i o r t = some t') :
    Holds i (q.afterSdk ⟨o, r⟩) t' := by
  by_cases ho : changes o = false
  · have hsame := h.of_same (sameSessions_of_step ho hstep)
    cases o
    case getSessionList =>
      obtain ⟨hr, rfl⟩ := SdkState.answer_eq_some.1 hstep
      refine ⟨h.iterator, fun l hl => ?_, h.own⟩
      obtain ⟨hiterator, hl⟩ := Option.ite_none_right_eq_some.1 hl
      exact ⟨hiterator, hr.symm.trans (Option.some.inj hl)⟩
    case iteratorBegin | iteratorEnd | newSession | pushFront | remove =>
      exact absurd ho (by simp [changes])
    all_goals exact hsame
  have hown := h.own_step hstep
  cases o
  case iteratorBegin =>
    obtain ⟨-, rfl⟩ := (sdkStep_iteratorBegin r).1 hstep
    exact ⟨⟨fun _ => rfl, fun _ => rfl⟩, fun l hl => absurd hl (by simp [Standing.afterSdk,
      Standing.lock]), hown⟩
  case iteratorEnd =>
    obtain rfl := Option.some.inj hstep
    refine ⟨⟨fun h => absurd h (by simp [Standing.afterSdk, Standing.unlock]), fun h => ?_⟩,
      fun l hl => absurd hl (by simp [Standing.afterSdk, Standing.unlock]), hown⟩
    exact absurd h (by simp)
  case newSession session =>
    rcases (sdkStep_newSession i r).1 hstep with ⟨rfl, rfl⟩ | ⟨rfl, rfl⟩
    · exact ⟨h.iterator, h.list, fun x func hx => absurd hx (by simp [Standing.afterSdk])⟩
    · refine ⟨h.iterator, h.list, fun x func hx => ?_⟩
      obtain ⟨rfl, rfl⟩ := Prod.mk.inj (Option.some.inj hx)
      exact ⟨Nat.lt_succ_self _, by simp⟩
  case pushFront session handle =>
    obtain rfl := Option.some.inj hstep
    refine ⟨h.iterator, fun l hl => ?_, hown⟩
    obtain ⟨l', hl', rfl⟩ := Option.map_eq_some_iff.1 hl
    obtain ⟨hiterator, rfl⟩ := h.list l' hl'
    exact ⟨hiterator, rfl⟩
  case remove session =>
    obtain rfl := Option.some.inj hstep
    refine ⟨h.iterator, fun l hl => ?_, hown⟩
    obtain ⟨l', hl', rfl⟩ := Option.map_eq_some_iff.1 hl
    obtain ⟨hiterator, rfl⟩ := h.list l' hl'
    exact ⟨hiterator, rfl⟩
  all_goals exact absurd rfl ho

/-- The other threads: they do not hold the mutex when the list changes. -/
lemma Holds.of_other (hj : Holds j q' t) (hi : Holds i q t) (hij : j ≠ i) (hmay : sdkMay q o)
    (hstep : sdkStep i o r t = some t') : Holds j q' t' := by
  by_cases ho : changes o = false
  · exact hj.of_same (sameSessions_of_step ho hstep)
  have hown := hj.own_step hstep
  -- while the thread `i` has the mutex, the other has not
  have hnot (hiterator : q.iterator = true) : q'.iterator = false := by
    rw [Bool.eq_false_iff]
    intro hj'
    have hsame := (hi.iterator.1 hiterator).symm.trans (hj.iterator.1 hj')
    exact hij (Option.some.inj hsame).symm
  have hunread {p : Prop} (hfalse : q'.iterator = false) {l : List ℕ} (hl : q'.list = some l) : p :=
    absurd ((hj.list l hl).1.symm.trans hfalse) (by decide)
  cases o
  case iteratorBegin =>
    obtain ⟨hfree, rfl⟩ := (sdkStep_iteratorBegin r).1 hstep
    have hfalse : q'.iterator = false := by
      rw [Bool.eq_false_iff]
      intro hj'
      exact absurd (hfree.symm.trans (hj.iterator.1 hj')) (by simp)
    refine ⟨⟨fun h => absurd (h.symm.trans hfalse) (by decide), fun h => ?_⟩,
      fun l hl => hunread hfalse hl, hown⟩
    exact absurd (Option.some.inj h).symm hij
  case iteratorEnd =>
    obtain rfl := Option.some.inj hstep
    have hfalse := hnot hmay
    refine ⟨⟨fun h => absurd (h.symm.trans hfalse) (by decide), fun h => ?_⟩,
      fun l hl => hunread hfalse hl, hown⟩
    exact absurd h (by simp)
  case newSession session =>
    rcases (sdkStep_newSession i r).1 hstep with ⟨-, rfl⟩ | ⟨-, rfl⟩
    · exact hj
    · exact ⟨hj.iterator, hj.list, hown⟩
  case pushFront session handle =>
    obtain rfl := Option.some.inj hstep
    exact ⟨hj.iterator, fun l hl => hunread (hnot hmay.1) hl, hown⟩
  case remove session =>
    obtain rfl := Option.some.inj hstep
    exact ⟨hj.iterator, fun l hl => hunread (hnot hmay) hl, hown⟩
  all_goals exact absurd rfl ho

/-- A session of the list was in it, or is the one that enters it. -/
lemma mem_of_step (hstep : sdkStep i o r t = some t') (hx : x ∈ t'.sessionList) :
    x ∈ t.sessionList ∨ ∃ handle, o = .pushFront x handle := by
  by_cases ho : changes o = false
  · exact .inl ((sameSessions_of_step ho hstep).list ▸ hx)
  cases o
  case iteratorBegin =>
    obtain ⟨-, rfl⟩ := (sdkStep_iteratorBegin r).1 hstep
    exact .inl hx
  case newSession session =>
    rcases (sdkStep_newSession i r).1 hstep with ⟨-, rfl⟩ | ⟨-, rfl⟩
    · exact .inl hx
    · exact .inl hx
  case iteratorEnd =>
    obtain rfl := Option.some.inj hstep
    exact .inl hx
  case pushFront session handle =>
    obtain rfl := Option.some.inj hstep
    rcases List.mem_cons.1 hx with rfl | hx
    · exact .inr ⟨handle, rfl⟩
    · exact .inl hx
  case remove session =>
    obtain rfl := Option.some.inj hstep
    exact .inl (List.mem_filter.1 hx).1
  all_goals exact absurd rfl ho

/-! ### The channel -/

/-- What the threads other than the one that makes a step rely on. -/
structure Others (j : ι) (b b' : Bool) (s s' : ChannelState ι) : Prop where
  handle : s'.handleMutex = some j ↔ s.handleMutex = some j
  stage : s.handleMutex = some j → ∀ stage : Stage, stage.At b s → stage.At b' s'
  created : s.thread ≠ .absent → s'.thread ≠ .absent
  lost : s.Lost → s'.Lost

lemma Makes.of_others (h : Makes j q b s) (ho : Others j b b' s s') : Makes j q b' s' where
  handle := h.handle.trans ho.handle.symm
  stage := by
    by_cases hstage : q.stage = .outside
    · rw [hstage]
      trivial
    · exact ho.stage (h.handle.1 hstage) _ h.stage
  ready := fun hready => ho.created (h.ready hready)
  gone := fun hgone => ho.lost (h.gone hgone)

/-- What a step of the thread `i` does to the channel: `q` is what the thread has come to. -/
structure Moves (i : ι) (q : Standing) (b b' : Bool) (s s' : ChannelState ι) : Prop where
  own : Makes i q b' s'
  others : ∀ j, j ≠ i → Others j b b' s s'
  consistent : Consistent b' s'

/-- The thread that holds the mutex makes its step in a state that the others do not rely on. -/
lemma Makes.others (h : Makes i q b s) (hstage : q.stage ≠ .outside)
    (hhandle : s'.handleMutex = s.handleMutex ∨ s'.handleMutex = none)
    (hcreated : s.thread ≠ .absent → s'.thread ≠ .absent) (hlost : s.Lost → s'.Lost)
    (hij : j ≠ i) : Others j b b' s s' := by
  have hholds := h.handle.1 hstage
  have hnot : s.handleMutex ≠ some j := by
    rw [hholds]
    exact fun heq => hij (Option.some.inj heq).symm
  refine ⟨?_, fun hj => absurd hj hnot, hcreated, hlost⟩
  rcases hhandle with heq | heq
  · rw [heq]
  · rw [heq]
    exact ⟨fun hj => absurd hj (by simp), fun hj => absurd hj hnot⟩

lemma others_refl : Others j b b s s := ⟨.rfl, fun _ _ h => h, fun h => h, fun h => h⟩

lemma Makes.stay (h : Makes i q b s) (hs : Consistent b s) : Moves i q b b s s :=
  ⟨h, fun _ _ => others_refl, hs⟩

lemma Consistent.quiet_of_absent (h : Consistent b s) (habsent : s.thread = .absent) :
    Quiet s.sdk := by
  rcases h.channel with hup | ⟨-, hquiet⟩
  · have hruns := hup.running
    rw [habsent] at hruns
    exact absurd hruns (by decide)
  · exact hquiet

lemma Consistent.quiet_of_lost (h : Consistent b s) (hlost : s.Lost) : Quiet s.sdk := by
  rcases h.channel with hup | ⟨-, hquiet⟩
  · exact absurd (hup.socket.symm.trans hlost.2) (by simp)
  · exact hquiet

/-- The list is as it was, and the channel is not made. -/
lemma Consistent.of_absent (h : Consistent b s) (habsent : s.thread = .absent)
    (hsdk : s'.sdk = s.sdk) (hflag : s'.isCallBackInitialized = s.isCallBackInitialized)
    (hthread : s'.thread = s.thread) : Consistent b' s' where
  fresh := by
    rw [hsdk]
    exact h.fresh
  flag := by
    rw [hflag, hthread]
    exact h.flag
  free := fun _ hne => absurd (hthread.trans habsent) hne
  channel := by
    refine .inr ⟨.inl (hthread.trans habsent), ?_⟩
    rw [hsdk]
    exact h.quiet_of_absent habsent

/-- Whether there is a channel is told by the socket, the thread and the sessions. -/
lemma Consistent.channel_of_eq (h : Consistent b s) (hsocket : s'.callBackSocket = s.callBackSocket)
    (hthread : s'.thread = s.thread) (hsdk : s'.sdk = s.sdk) :
    ChannelUp b s' ∨ (s'.thread = .absent ∨ s'.callBackSocket = none) ∧ Quiet s'.sdk := by
  rw [hsocket, hthread, hsdk]
  refine h.channel.imp_left fun hup => ⟨hsocket.trans hup.socket, ?_⟩
  rw [hthread]
  exact hup.running

/-- A step of `InitCallBack` before the thread is created. -/
lemma Makes.reach (h : Makes i q b s) (hs : Consistent b s) (hstage : q.stage ≠ .outside)
    (habsent : s.thread = .absent) (f : Option CallBackSocket) {stage : Stage}
    (hne : stage ≠ .outside) (hat : stage.At b' { s with callBackSocket := f }) :
    Moves i (q.reach stage) b b' s { s with callBackSocket := f } where
  own := by
    refine ⟨⟨fun _ => h.handle.1 hstage, fun _ => hne⟩, hat, h.ready, fun hgone => ?_⟩
    exact absurd habsent (h.gone hgone).1
  others := fun j hij => h.others hstage (.inl rfl) (fun hne => hne) (fun hlost => absurd habsent
    hlost.1) hij
  consistent := hs.of_absent habsent rfl rfl rfl

lemma Makes.readFlag (h : Makes i q b s) (hs : Consistent b s) :
    Moves i (q.readFlag s.isCallBackInitialized) b b s s := by
  refine ⟨?_, fun _ _ => others_refl, hs⟩
  by_cases hflag : s.isCallBackInitialized = true
  · rw [hflag]
    exact ⟨h.handle, h.stage, fun _ => hs.flag hflag, h.gone⟩
  · by_cases hstage : q.stage = .inside
    · have hread : q.readFlag s.isCallBackInitialized = q.reach .unset :=
        (if_neg hflag).trans (if_pos hstage)
      have hat := h.stage
      rw [hstage] at hat
      rw [hread]
      refine ⟨⟨fun _ => h.handle.1 (by rw [hstage]; decide), fun _ => by simp [Standing.reach]⟩, ?_,
        h.ready, h.gone⟩
      exact not_not.1 fun hne => hflag (hat hne)
    · have hread : q.readFlag s.isCallBackInitialized = q :=
        (if_neg hflag).trans (if_neg hstage)
      rw [hread]
      exact h

lemma Makes.setFlag (h : Makes i q b s) (hs : Consistent b s) (hstage : q.stage = .created) :
    Moves i (q.reach .inside) b b s { s with isCallBackInitialized := true } := by
  have hinside : q.stage ≠ .outside := by rw [hstage]; decide
  have hcreated := h.stage
  rw [hstage] at hcreated
  constructor
  · exact ⟨⟨fun _ => h.handle.1 hinside, fun _ => by simp [Standing.reach]⟩, fun _ => rfl, h.ready,
      h.gone⟩
  · exact fun j => h.others hinside (.inl rfl) (fun hne => hne) fun hlost => hlost
  · exact ⟨hs.fresh, fun _ => hcreated, fun _ _ => rfl, hs.channel_of_eq rfl rfl rfl⟩

lemma Makes.handleBegin (h : Makes i q b s) (hs : Consistent b s) (hfree : s.handleMutex = none) :
    Moves i (q.reach .inside) b b s { s with handleMutex := some i } := by
  constructor
  · exact ⟨⟨fun _ => rfl, fun _ => by simp [Standing.reach]⟩, hs.free hfree, h.ready, h.gone⟩
  · intro j hij
    have hne : (some i : Option ι) ≠ some j := fun heq => hij (Option.some.inj heq).symm
    refine ⟨⟨fun heq => absurd heq hne, fun heq => absurd (hfree.symm.trans heq) (by simp)⟩, ?_,
      fun hne => hne, fun hlost => hlost⟩
    exact fun heq => absurd (hfree.symm.trans heq) (by simp)
  · exact ⟨hs.fresh, hs.flag, fun hnone => absurd hnone (by simp), hs.channel_of_eq rfl rfl rfl⟩

lemma Makes.handleEnd (h : Makes i q b s) (hs : Consistent b s) (hstage : q.stage ≠ .outside)
    (hstage' : q.stage ≠ .created) :
    Moves i (q.reach .outside) b b s { s with handleMutex := none } := by
  have hat := h.stage
  have hflag (hne : s.thread ≠ .absent) : s.isCallBackInitialized = true := by
    cases hq : q.stage
    case outside => exact absurd hq hstage
    case created => exact absurd hq hstage'
    case inside =>
      rw [hq] at hat
      exact hat hne
    case unset =>
      rw [hq] at hat
      exact absurd hat hne
    all_goals
      rw [hq] at hat
      exact absurd hat.1 hne
  constructor
  · exact ⟨⟨fun hne => absurd rfl hne, fun heq => absurd heq (by simp)⟩, trivial, h.ready, h.gone⟩
  · exact fun j => h.others hstage (.inr rfl) (fun hne => hne) fun hlost => hlost
  · exact ⟨hs.fresh, hs.flag, fun _ => hflag, hs.channel_of_eq rfl rfl rfl⟩

/-- When the thread is created, there is a channel. -/
lemma Makes.createThread (h : Makes i q b s) (hs : Consistent b s) (hstage : q.stage = .registered)
    (ret : ℕ) :
    Moves i (if ret = success then { q.reach .created with ready := true } else q) b b s
      (s.after ret { s with thread := .created }) := by
  have hinside : q.stage ≠ .outside := by rw [hstage]; decide
  have hat := h.stage
  rw [hstage] at hat
  obtain ⟨habsent, hsocket⟩ := hat
  have hholds := h.handle.1 hinside
  rw [ChannelState.after]
  by_cases hret : ret = success
  · rw [if_pos hret, if_pos hret]
    constructor
    · refine ⟨⟨fun _ => hholds, fun _ => by simp [Standing.reach]⟩,
        by simp [Stage.At, Standing.reach], fun _ => by simp, fun hgone => ?_⟩
      exact absurd habsent (h.gone hgone).1
    · exact fun j => h.others hinside (.inl rfl) (fun _ => by simp) fun hlost =>
        absurd habsent hlost.1
    · exact ⟨hs.fresh, fun _ => by simp, fun hnone => absurd (hholds.symm.trans hnone) (by simp),
        .inl ⟨hsocket, rfl⟩⟩
  · rw [if_neg hret, if_neg hret]
    exact h.stay hs

/-- `DestroyCallback`, and the end of the thread, when no session with a callback function is
left. -/
lemma Makes.lose (h : Makes i q b s) (hs : Consistent b s) (hcreated : s.thread ≠ .absent)
    (hquiet : Quiet s.sdk) (thread : ThreadState) (hthread : thread ≠ .absent) {gone : Bool} :
    Moves i { q with gone := gone } b b s { s with callBackSocket := none, thread := thread } := by
  have hlost : ({ s with callBackSocket := none, thread := thread } : ChannelState ι).Lost :=
    ⟨hthread, rfl⟩
  -- the stages at which there is a thread
  have hat (stage : Stage) (h : stage.At b s) :
      stage.At b { s with callBackSocket := none, thread := thread } := by
    cases stage
    case outside => trivial
    case inside => exact fun _ => h hcreated
    case created => exact hthread
    case unset => exact absurd h hcreated
    all_goals exact absurd h.1 hcreated
  constructor
  · exact ⟨h.handle, hat _ h.stage, fun _ => hthread, fun _ => hlost⟩
  · exact fun j _ => ⟨.rfl, fun _ stage => hat stage, fun _ => hthread, fun _ => hlost⟩
  · exact ⟨hs.fresh, fun _ => hthread, fun hnone _ => hs.free hnone hcreated,
      .inr ⟨.inr rfl, hquiet⟩⟩

lemma Makes.enterThread (h : Makes i q b s) (hs : Consistent b s) (hthread : s.thread = .created) :
    Moves i { q with ready := true } b b s { s with thread := .entered } := by
  have hcreated : s.thread ≠ .absent := by rw [hthread]; decide
  have hat (stage : Stage) (h : stage.At b s) : stage.At b { s with thread := .entered } := by
    cases stage
    case outside => trivial
    case inside => exact fun _ => h hcreated
    case created => simp [Stage.At]
    case unset => exact absurd h hcreated
    all_goals exact absurd h.1 hcreated
  constructor
  · exact ⟨h.handle, hat _ h.stage, fun _ => by simp, fun hgone => ⟨by simp, (h.gone hgone).2⟩⟩
  · exact fun j _ => ⟨.rfl, fun _ stage => hat stage, fun _ => by simp,
      fun hlost => ⟨by simp, hlost.2⟩⟩
  · refine ⟨hs.fresh, fun _ => by simp, fun hnone _ => hs.free hnone hcreated, ?_⟩
    rcases hs.channel with hup | ⟨hno, hquiet⟩
    · exact .inl ⟨hup.socket, rfl⟩
    · exact .inr ⟨.inr (hno.resolve_left hcreated), hquiet⟩

/-- The daemon disconnects. -/
lemma Makes.disconnect (h : Makes i q b s) (hs : Consistent b s) (ends : Bool) :
    Moves i q b true s (s.disconnect ends) := by
  have hmap {f : CallBackSocket → CallBackSocket} {c : CallBackSocket}
      (hsocket : s.callBackSocket = some c) : s.callBackSocket.map f = some (f c) := by
    rw [hsocket]
    rfl
  have hlost (hlost : s.Lost) : (s.disconnect ends).Lost := by
    refine ⟨hlost.1, ?_⟩
    show s.callBackSocket.map _ = none
    rw [hlost.2]
    rfl
  have hat (stage : Stage) (h : stage.At b s) : stage.At true (s.disconnect ends) := by
    cases stage
    case fresh => exact ⟨h.1, hmap h.2⟩
    case connected => exact ⟨h.1, hmap h.2⟩
    case registered => exact ⟨h.1, hmap h.2⟩
    all_goals exact h
  constructor
  · exact ⟨h.handle, hat _ h.stage, h.ready, fun hgone => hlost (h.gone hgone)⟩
  · exact fun j _ => ⟨.rfl, fun _ stage => hat stage, fun hne => hne, hlost⟩
  · refine ⟨hs.fresh, hs.flag, hs.free, ?_⟩
    rcases hs.channel with hup | ⟨hno, hquiet⟩
    · exact .inl ⟨hmap hup.socket, hup.running⟩
    · refine .inr ⟨hno.imp_right fun hnone => ?_, hquiet⟩
      show s.callBackSocket.map _ = none
      rw [hnone]
      rfl

/-- The memory of a socket, or no memory. -/
lemma Makes.newSocket (h : Makes i q b s) (hs : Consistent b s) (hstage : q.stage = .unset)
    (r : Bool) : Moves i (q.after ⟨.newSocket, r⟩) b b s (s.allocate r) := by
  have hinside : q.stage ≠ .outside := by rw [hstage]; decide
  have hat := h.stage
  rw [hstage] at hat
  cases r with
  | false =>
      have hsame : q.after ⟨.newSocket, false⟩ = q.reach .unset := by
        rw [Standing.reach, ← hstage]
        rfl
      rw [hsame]
      exact h.reach hs hinside hat none (by decide) hat
  | true => exact h.reach hs hinside hat _ (by decide) ⟨hat, rfl⟩

/-- The thread could not be created. -/
lemma Makes.deleteUnused {r : channelSig.Ans .deleteSocket} (h : Makes i q b s)
    (hs : Consistent b s) (hstage : q.stage = .registered) :
    Moves i (q.after ⟨.deleteSocket, r⟩) b b s { s with callBackSocket := none } := by
  have hinside : q.stage ≠ .outside := by rw [hstage]; decide
  have hat := h.stage
  rw [hstage] at hat
  have hq : q.after ⟨.deleteSocket, r⟩ = q.reach .unset := if_pos hstage
  rw [hq]
  exact h.reach hs hinside hat.1 none (by decide) hat.1

/-- All sessions were destroyed. -/
lemma Makes.deleteUsed {r : channelSig.Ans .deleteSocket} (h : Makes i q b s)
    (hs : Consistent b s) (hstage : q.stage = .outside) (hready : q.ready = true)
    (hquiet : Quiet s.sdk) :
    Moves i (q.after ⟨.deleteSocket, r⟩) b b s { s with callBackSocket := none } := by
  have hq : q.after ⟨.deleteSocket, r⟩ = { q with gone := true } :=
    if_neg (by rw [hstage]; decide)
  rw [hq]
  exact h.lose hs (h.ready hready) hquiet s.thread (h.ready hready)

lemma Makes.exitThread {r : channelSig.Ans .exitThread} (h : Makes i q b s)
    (hs : Consistent b s) (hgone : q.gone = true) :
    Moves i (q.after ⟨.exitThread, r⟩) b b s { s with thread := .ended } := by
  have hlost := h.gone hgone
  have hsame : { s with thread := .ended } =
      ({ s with callBackSocket := none, thread := .ended } : ChannelState ι) := by
    rw [← hlost.2]
  rw [hsame]
  exact h.lose hs hlost.1 (hs.quiet_of_lost hlost) .ended (by decide)

/-- The daemon is started again. -/
lemma Makes.restart (h : Makes i q b s) (hs : Consistent b s) :
    Moves i q b b s { s with daemonRunning := true } := by
  have hat (stage : Stage) (h : stage.At b s) : stage.At b { s with daemonRunning := true } := by
    cases stage
    all_goals exact h
  refine ⟨⟨h.handle, hat _ h.stage, h.ready, h.gone⟩, fun j _ => ?_, ?_⟩
  · exact ⟨.rfl, fun _ stage => hat stage, fun hne => hne, fun hlost => hlost⟩
  · exact ⟨hs.fresh, hs.flag, hs.free, hs.channel_of_eq rfl rfl rfl⟩

lemma after_sdk {ret : ℕ} (h : s'.sdk = s.sdk) : (s.after ret s').sdk = s.sdk := by
  rw [ChannelState.after]
  split
  · exact h
  · rfl

/-- A read does not change the state. -/
lemma read_eq_some {r : Except Errno SocketData} (h : s.read r = some s') : s' = s := by
  unfold ChannelState.read at h
  split at h
  · exact (Option.some.inj (Option.ite_none_left_eq_some.1 h).2).symm
  · exact (Option.some.inj h).symm

/-- `Connect`, on a new socket. -/
lemma Makes.connect (h : Makes i q b s) (hs : Consistent b s) (hstage : q.stage = .fresh) {ret : ℕ}
    (hstep : s.connect ret = some s') :
    s'.sdk = s.sdk ∧ Moves i (if ret = success then q.reach .connected else q) b
      (!decide (ret = success) && b) s s' := by
  have hat := h.stage
  rw [hstage] at hat
  obtain ⟨habsent, hsocket⟩ := hat
  by_cases hret : ret = success
  · obtain ⟨-, heq⟩ := Option.ite_none_right_eq_some.1 ((if_pos hret).symm.trans hstep)
    obtain rfl := Option.some.inj heq
    rw [if_pos hret, decide_eq_true hret]
    refine ⟨rfl, h.reach hs (by rw [hstage]; decide) habsent _ (by decide) ⟨habsent, ?_⟩⟩
    show s.callBackSocket.map _ = _
    rw [hsocket]
    rfl
  · obtain rfl := Option.some.inj ((if_neg hret).symm.trans hstep)
    rw [if_neg hret, decide_eq_false hret]
    exact ⟨rfl, h.stay hs⟩

/-- The message that registers the socket is sent. -/
lemma Makes.register (h : Makes i q b s) (hs : Consistent b s) (hstage : q.stage = .connected)
    (ret : ℕ) :
    Moves i (if ret = success then q.reach .registered else q) b b s
      (s.after ret (s.mapSocket ({ · with registered := true }))) := by
  have hat := h.stage
  rw [hstage] at hat
  obtain ⟨habsent, hsocket⟩ := hat
  rw [ChannelState.after]
  by_cases hret : ret = success
  · rw [if_pos hret, if_pos hret]
    refine h.reach hs (by rw [hstage]; decide) habsent _ (by decide) ⟨habsent, ?_⟩
    show s.callBackSocket.map _ = _
    rw [hsocket]
    rfl
  · rw [if_neg hret, if_neg hret]
    exact h.stay hs

/-! ### Runs -/

/-- The interactions that are not those of the session manager. -/
def ChannelOp.outer : ChannelOp → Bool
  | .sdk _ => false
  | _ => true

/-- The sessions do not concern the channel. -/
lemma Makes.setSdk (h : Makes i q b s) (t' : SdkState ι) : Makes i q b (s.setSdk t') := by
  refine ⟨h.handle, ?_, h.ready, h.gone⟩
  have hat := h.stage
  revert hat
  cases q.stage
  all_goals exact fun hat => hat

lemma Makes.of_sdk (h : Makes i q b s) (o : SdkOp) (r : o.Ans) :
    Makes i (q.afterSdk ⟨o, r⟩) b s := by
  cases o
  all_goals exact ⟨h.handle, h.stage, h.ready, h.gone⟩

/-- An interaction of the session manager. -/
lemma Consistent.sdk {o : SdkOp} {r : o.Ans} (h : Consistent b s) (hholds : Holds i q s.sdk)
    (hmakes : Makes i q b s) (hmay : sdkMay q o)
    (hkept : ∀ x handle, o = .pushFront x handle → (s.sdk.sessions x).callBack ≠ none → ¬s.Lost)
    (hstep : sdkStep i o r s.sdk = some t') : Consistent b (s.setSdk t') := by
  -- the session that enters the list
  have hown {x handle : ℕ} (ho : o = .pushFront x handle) : x < s.sdk.allocated ∧
      ((s.sdk.sessions x).callBack ≠ none → s.thread ≠ .absent) := by
    subst ho
    obtain ⟨-, func, hfunc, hready⟩ := hmay
    obtain ⟨hlt, heq⟩ := hholds.own x func hfunc
    refine ⟨hlt, fun hne => hmakes.ready (hready ?_)⟩
    rwa [heq] at hne
  have hcreated {x : ℕ} (hx : x < s.sdk.allocated) : Created x (s.sdk.sessions x) t' :=
    Created.step ⟨hx, rfl⟩ hstep
  refine ⟨fun x hx => ?_, h.flag, h.free, ?_⟩
  · rcases mem_of_step hstep hx with hx | ⟨handle, ho⟩
    · exact (hcreated (h.fresh x hx)).1
    · exact (hcreated (hown ho).1).1
  · rcases h.channel with hup | ⟨hno, hquiet⟩
    · exact .inl ⟨hup.socket, hup.running⟩
    refine .inr ⟨hno, fun x hx => ?_⟩
    rcases mem_of_step hstep hx with hx | ⟨handle, ho⟩
    · show (t'.sessions x).callBack = none
      rw [(hcreated (h.fresh x hx)).2]
      exact hquiet x hx
    · obtain ⟨hlt, hthread⟩ := hown ho
      show (t'.sessions x).callBack = none
      rw [(hcreated hlt).2]
      by_contra hne
      have hthread := hthread hne
      exact hkept x handle ho hne ⟨hthread, hno.resolve_left hthread⟩

variable {c : ChannelCall} {o : ChannelOp} {r : o.Ans}

/-- What an interaction with the channel leaves as it is. -/
structure SameStanding (q q' : Standing) : Prop where
  iterator : q'.iterator = q.iterator
  list : q'.list = q.list
  own : q'.own = q.own
  strict : q'.strict = q.strict

lemma SameStanding.ite {q₁ q₂ : Standing} {p : Prop} [Decidable p] (h₁ : SameStanding q q₁)
    (h₂ : SameStanding q q₂) : SameStanding q (if p then q₁ else q₂) := by
  split
  · exact h₁
  · exact h₂

lemma sameStanding_after (q : Standing) (ho : o.outer = true) :
    SameStanding q (q.after ⟨o, r⟩) := by
  have hsame : SameStanding q q := ⟨rfl, rfl, rfl, rfl⟩
  have hreach (stage : Stage) : SameStanding q (q.reach stage) := ⟨rfl, rfl, rfl, rfl⟩
  have hready (stage : Stage) : SameStanding q { q.reach stage with ready := true } :=
    ⟨rfl, rfl, rfl, rfl⟩
  cases o
  case sdk => exact absurd ho (by simp [ChannelOp.outer])
  case isCallBackInitialized =>
    change Bool at r
    exact .ite ⟨rfl, rfl, rfl, rfl⟩ (.ite (hreach _) hsame)
  case newSocket =>
    change Bool at r
    exact .ite (hreach _) hsame
  case connectCallBack | sendCreateCallBack =>
    change ℕ at r
    exact .ite (hreach _) hsame
  case createThread =>
    change ℕ × ℕ at r
    exact .ite (hready _) hsame
  case deleteSocket => exact .ite (hreach _) ⟨rfl, rfl, rfl, rfl⟩
  case enterThread => exact ⟨rfl, rfl, rfl, rfl⟩
  case setCallBackInitialized => exact hreach .inside
  case handleBegin => exact hreach .inside
  case handleEnd => exact hreach .outside
  all_goals exact hsame

lemma Holds.of_sameStanding (h : Holds i q t) (hsame : SameStanding q q') : Holds i q' t where
  iterator := by
    rw [hsame.iterator]
    exact h.iterator
  list := by
    rw [hsame.iterator, hsame.list]
    exact h.list
  own := by
    rw [hsame.own]
    exact h.own

lemma after_strict (q : Standing) (o : ChannelOp) (r : o.Ans) :
    (q.after ⟨o, r⟩).strict = q.strict := by
  by_cases ho : o.outer = true
  · exact (sameStanding_after q ho).strict
  cases o
  case sdk o =>
    cases o
    all_goals rfl
  all_goals exact absurd rfl ho

section

variable [DecidableEq ι]

lemma Inv.moves (h : Inv tr s) (ho : o.outer = true) (hmay : opMay (standing i tr) o)
    (hstep : channelStep i o r s = some s') :
    s'.sdk = s.sdk ∧ Moves i ((standing i tr).after ⟨o, r⟩) (hungUp tr)
      (hungUp (.op i c ⟨o, r⟩ :: tr)) s s' := by
  have hi := h.makes i
  have hs := h.consistent
  cases o
  case sdk => exact absurd ho (by simp [ChannelOp.outer])
  case isCallBackInitialized =>
    obtain ⟨hr, heq⟩ := Option.ite_none_right_eq_some.1 hstep
    obtain rfl := Option.some.inj heq
    obtain rfl : r = s.isCallBackInitialized := hr
    exact ⟨rfl, hi.readFlag hs⟩
  case setCallBackInitialized =>
    obtain rfl := Option.some.inj hstep
    exact ⟨rfl, hi.setFlag hs hmay⟩
  case handleBegin =>
    obtain ⟨hfree, heq⟩ := Option.ite_none_right_eq_some.1 hstep
    obtain rfl := Option.some.inj heq
    exact ⟨rfl, hi.handleBegin hs (Option.isNone_iff_eq_none.1 hfree)⟩
  case handleEnd =>
    obtain rfl := Option.some.inj hstep
    exact ⟨rfl, hi.handleEnd hs hmay.1 hmay.2⟩
  case newSocket =>
    obtain rfl := Option.some.inj hstep
    exact ⟨rfl, hi.newSocket hs hmay r⟩
  case connectCallBack => exact hi.connect hs hmay hstep
  case sendCreateCallBack =>
    obtain rfl := Option.some.inj hstep
    exact ⟨after_sdk rfl, hi.register hs hmay r⟩
  case createThread =>
    obtain rfl := Option.some.inj hstep
    exact ⟨after_sdk rfl, hi.createThread hs hmay (r : ℕ × ℕ).1⟩
  case deleteSocket =>
    obtain rfl := Option.some.inj hstep
    rcases hmay with hstage | ⟨hstage, hready, -, hlist⟩
    · exact ⟨rfl, hi.deleteUnused hs hstage⟩
    · have hquiet : Quiet s.sdk := by
        intro x hx
        rw [((h.holds i).list _ hlist).2] at hx
        exact absurd hx (by simp)
      exact ⟨rfl, hi.deleteUsed hs hstage hready hquiet⟩
  case enterThread =>
    obtain ⟨hthread, heq⟩ := Option.ite_none_right_eq_some.1 hstep
    obtain rfl := Option.some.inj heq
    exact ⟨rfl, hi.enterThread hs hthread⟩
  case getMessage =>
    rw [read_eq_some hstep]
    exact ⟨rfl, hi.stay hs⟩
  case exitThread =>
    obtain rfl := Option.some.inj hstep
    exact ⟨rfl, hi.exitThread hs hmay⟩
  case disconnect ends =>
    obtain rfl := Option.some.inj hstep
    exact ⟨rfl, hi.disconnect hs ends⟩
  case restart =>
    obtain rfl := Option.some.inj hstep
    exact ⟨rfl, hi.restart hs⟩

lemma standing_op {e : Event channelSig} :
    standing i (.op i c e :: tr) = (standing i tr).after e := if_pos rfl

lemma standing_other {e : Event channelSig} (hij : j ≠ i) :
    standing j (.op i c e :: tr) = standing j tr := if_neg (Ne.symm hij)

/-- What a run of the thread `i` keeps, when all that it knows and the others know is so again. -/
lemma Inv.op {e : Event channelSig} (h : Inv tr s) (hcalling : calling i tr = some c)
    (hconsistent : Consistent (hungUp (.op i c e :: tr)) s')
    (hown : Holds i ((standing i tr).after e) s'.sdk ∧
      Makes i ((standing i tr).after e) (hungUp (.op i c e :: tr)) s')
    (hothers : ∀ j, j ≠ i → Holds j (standing j tr) s'.sdk ∧
      Makes j (standing j tr) (hungUp (.op i c e :: tr)) s') :
    Inv (.op i c e :: tr) s' := by
  have hboth (j : ι) : Holds j (standing j (.op i c e :: tr)) s'.sdk ∧
      Makes j (standing j (.op i c e :: tr)) (hungUp (.op i c e :: tr)) s' := by
    by_cases hij : j = i
    · subst hij
      rw [standing_op]
      exact hown
    · rw [standing_other hij]
      exact hothers j hij
  refine ⟨hconsistent, fun j => (hboth j).1, fun j => (hboth j).2, fun j c' hc' => ?_,
    fun j hidle => ?_⟩
  · by_cases hij : j = i
    · subst hij
      rw [standing_op, after_strict]
      exact h.strict j c' hc'
    · rw [standing_other hij]
      exact h.strict j c' hc'
  · have hij : j ≠ i := by
      rintro rfl
      exact absurd (hcalling.symm.trans hidle) (by simp)
    rw [standing_other hij]
    exact h.idle j hidle

/-- A step keeps the invariant, and is one that is expected. -/
lemma Inv.step (h : Inv tr s) (hcalling : calling i tr = some c)
    (hmay : opMay (standing i tr) o) (hstep : channelStep i o r s = some s')
    (hkept : ChannelKept tr s (.op i c ⟨o, r⟩)) :
    Inv (.op i c ⟨o, r⟩ :: tr) s' ∧ Expected (standing i tr) ⟨o, r⟩ := by
  by_cases ho : o.outer = true
  · obtain ⟨hsdk, hmoves⟩ := h.moves (c := c) ho hmay hstep
    refine ⟨h.op hcalling hmoves.consistent ⟨?_, hmoves.own⟩ fun j hij => ?_, ?_⟩
    · rw [hsdk]
      exact (h.holds i).of_sameStanding (sameStanding_after _ ho)
    · rw [hsdk]
      exact ⟨h.holds j, (h.makes j).of_others (hmoves.others j hij)⟩
    · cases o
      case createThread =>
        obtain ⟨ret, errno⟩ : ℕ × ℕ := r
        intro hstrict
        rw [h.strict i c hcalling] at hstrict
        obtain (⟨_ | func, context⟩ | _) | _ | _ | _ | _ := c
        case api.create.some => exact hkept
        all_goals exact absurd hstrict (by simp [withCallBack])
      all_goals trivial
  · cases o
    case sdk o =>
      obtain ⟨-, hstep⟩ := Option.ite_none_right_eq_some.1 hstep
      obtain ⟨t', hsdk, rfl⟩ := Option.map_eq_some_iff.1 hstep
      have hi := h.makes i
      have hconsistent : Consistent (hungUp tr) (s.setSdk t') := by
        refine h.consistent.sdk (h.holds i) hi hmay ?_ hsdk
        rintro x handle rfl
        exact hkept
      refine ⟨h.op hcalling hconsistent ⟨(h.holds i).step hmay hsdk, ?_⟩ fun j hij => ?_, trivial⟩
      · exact ((h.makes i).setSdk t').of_sdk o r
      · exact ⟨(h.holds j).of_other (h.holds i) hij hmay hsdk, (h.makes j).setSdk t'⟩
    all_goals exact absurd rfl ho

lemma inv_start : Inv [] (channelInit : ChannelState ι) := by
  refine ⟨⟨?_, ?_, ?_, ?_⟩, fun i => ⟨?_, ?_, ?_⟩, fun i => ⟨?_, trivial, ?_, ?_⟩, ?_, ?_⟩
  · exact fun x hx => absurd hx (by simp [channelInit, initState])
  · exact fun h => absurd h (by simp [channelInit])
  · exact fun _ hne => absurd rfl hne
  · exact .inr ⟨.inl rfl, fun x hx => absurd hx (by simp [channelInit, initState])⟩
  · simp [standing, Standing.start, channelInit, initState]
  · simp [standing, Standing.start]
  · simp [standing, Standing.start]
  · simp [standing, Standing.start, channelInit]
  · simp [standing, Standing.start]
  · simp [standing, Standing.start]
  · exact fun i c h => absurd h (by simp [calling])
  · exact fun _ _ => ⟨rfl, rfl⟩

/-- A thread without a mutex begins a call. -/
lemma Inv.call (h : Inv tr s) (hidle : calling i tr = none) : Inv (.call i c :: tr) s := by
  have hfree := h.idle i hidle
  have hstart (j : ι) : j = i ∧ standing j (.call i c :: tr) = .start (withCallBack c) ∨
      j ≠ i ∧ standing j (.call i c :: tr) = standing j tr := by
    by_cases hij : j = i
    · exact .inl ⟨hij, if_pos hij.symm⟩
    · exact .inr ⟨hij, if_neg (Ne.symm hij)⟩
  refine ⟨h.consistent, fun j => ?_, fun j => ?_, fun j c' hc' => ?_, fun j hj => ?_⟩
  · rcases hstart j with ⟨rfl, heq⟩ | ⟨-, heq⟩
    · rw [heq]
      refine ⟨?_, fun l hl => absurd hl (by simp [Standing.start]),
        fun x func hx => absurd hx (by simp [Standing.start])⟩
      rw [← (h.holds j).iterator, hfree.iterator]
      rfl
    · rw [heq]
      exact h.holds j
  · rcases hstart j with ⟨rfl, heq⟩ | ⟨-, heq⟩
    · rw [heq]
      refine ⟨?_, trivial, fun hx => absurd hx (by simp [Standing.start]),
        fun hx => absurd hx (by simp [Standing.start])⟩
      rw [← (h.makes j).handle, hfree.stage]
      rfl
    · rw [heq]
      exact h.makes j
  · rcases hstart j with ⟨rfl, heq⟩ | ⟨hij, heq⟩
    · obtain rfl := Option.some.inj ((if_pos rfl).symm.trans hc')
      rw [heq]
      rfl
    · rw [heq]
      exact h.strict j c' ((if_neg (Ne.symm hij)).symm.trans hc')
  · rcases hstart j with ⟨rfl, heq⟩ | ⟨hij, heq⟩
    · rw [heq]
      exact ⟨rfl, rfl⟩
    · rw [heq]
      exact h.idle j ((if_neg (Ne.symm hij)).symm.trans hj)

/-- A call returns without a mutex. -/
lemma Inv.ret {a : Option ℕ} (h : Inv tr s) (hfree : Free (standing i tr)) :
    Inv (.ret i c a :: tr) s := by
  refine ⟨h.consistent, h.holds, h.makes, fun j c' hc' => ?_, fun j hj => ?_⟩
  · by_cases hij : i = j
    · exact absurd ((if_pos hij).symm.trans hc') (by simp)
    · exact h.strict j c' ((if_neg hij).symm.trans hc')
  · by_cases hij : i = j
    · subst hij
      exact hfree
    · exact h.idle j ((if_neg hij).symm.trans hj)

/-- All threads are watched alike. -/
def watch : Watch channelSig ι ChannelCall (Option ℕ) where
  Pos _ := Standing
  monitor _ := channelMonitor
  pos := standing
  post _ _ _ q := Free q

/-- The invariant holds in the runs in which the channel is kept. -/
lemma inv_of_run {L : Layout} {callBackThread daemon : ι} {cfg : ChannelConfig ι}
    (hrun : (channelSystem L callBackThread daemon).Run ChannelKept channelInit tr cfg) :
    Inv tr cfg.shared := by
  refine (watch.sound inv_start ?_ ?_ ?_ hrun).1
  · intro i c tr s _ hidle h _
    have hstart : standing i (.call i c :: tr) = .start (withCallBack c) := if_pos rfl
    refine ⟨h.call hidle, fun j hij => if_neg (Ne.symm hij), ?_⟩
    show channelMonitor.Sat (fun _ q' => Free q') (channelBody L c) (standing i (.call i c :: tr))
    rw [hstart]
    exact sat_channelBody L c
  · intro i c o r tr s s' hcalling h hmay hstep hkept
    obtain ⟨h', hexpected⟩ := h.step hcalling hmay hstep hkept
    exact ⟨h', fun j hij => standing_other (c := c) hij, hexpected, standing_op (c := c)⟩
  · intro i c a tr s _ _ h hfree _
    exact ⟨h.ret hfree, fun _ _ => rfl⟩

/-! ### The result -/

end

/-! ### Runs that show what happens -/

abbrev ChannelAction : Type :=
  System.Action channelSig ℕ ChannelCall (ChannelState ℕ)

def begin (i func : ℕ) : ChannelAction := .call i (.api (.create (some func) 0))

end Hdcp.Channel
