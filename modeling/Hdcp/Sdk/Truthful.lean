/-
Calls of the SDK that report success.

Any number of threads call the entry points of the SDK on any sessions, with any daemon at the
other end of the connections.  The daemon hears and says what it likes when it likes; it may stop
in the middle of a reply, and reply at any later time.  Reads and sends fail at any time.

A call is confirmed when the daemon has said the final reply to its request after it has heard
the whole request, and the reply reports success.  The connection of a session is orderly as long
as the daemon says nothing there when it is not its turn, and no transaction begins after one
that was broken off in the middle.

`truthful_iff`: a call that returns `HDCP_STATUS_SUCCESSFUL` on an orderly connection is
confirmed, unless it asks for `HDCP_LEVEL0`.  Such a call is successful also when the request was
never sent.  After a transaction that was broken off, the session goes on with its socket, and its
next call takes the reply to the earlier request for its own.
-/
import Hdcp.Sdk.Exchange

namespace Hdcp.Confirmation

open Library Socket Session
open Library.Prog (runs_bind runs_ite runs_op)

variable {δ τ : Type}

/-! ### The system -/

/-- What the daemon does on the connection of a session. -/
inductive PeerOp where
  | hear (session size : ℕ)
  | say (session : ℕ) (data : List UInt8)

def PeerOp.Ans : PeerOp → Type
  | hear _ _ => List UInt8
  | say _ _ => Unit

abbrev peerSig : Sig := ⟨PeerOp, PeerOp.Ans⟩

/-- The mutexes of the sockets of sessions, and the bytes that are under way. -/
structure WireState (τ : Type) where
  socketMutex : ℕ → Option τ
  toDaemon : ℕ → List UInt8
  toSdk : ℕ → List UInt8

namespace WireState

/-- Nothing has been said. -/
def start : WireState τ := ⟨fun _ => none, fun _ => [], fun _ => []⟩

def setMutex (s : WireState τ) (x : ℕ) (i : Option τ) : WireState τ :=
  { s with socketMutex := Function.update s.socketMutex x i }

def setToDaemon (s : WireState τ) (x : ℕ) (bytes : List UInt8) : WireState τ :=
  { s with toDaemon := Function.update s.toDaemon x bytes }

def setToSdk (s : WireState τ) (x : ℕ) (bytes : List UInt8) : WireState τ :=
  { s with toSdk := Function.update s.toSdk x bytes }

end WireState

/-- What is left of a stream when these bytes were taken from it. -/
def leftOf (bytes stream : List UInt8) : Option (List UInt8) :=
  if bytes <+: stream then some (stream.drop bytes.length) else none

def peerStep : (o : PeerOp) → o.Ans → WireState τ → Option (WireState τ)
  | .hear x n, bytes, s =>
    if List.length bytes ≤ n then (leftOf bytes (s.toDaemon x)).map (s.setToDaemon x) else none
  | .say x data, _, s => some (s.setToSdk x (s.toSdk x ++ data))

/-- A `send` that fails sets `errno`. -/
def setsErrno : Except Errno ℕ → Bool
  | .error e => e ≠ .success
  | .ok _ => true

/-- One interaction of a thread of an application. -/
def callerStep (i : τ) : (o : SessionOp) → o.Ans → WireState τ → Option (WireState τ)
  | .getInstance _, _, s => some s
  | .putInstance _, _, s => some s
  | .socketBegin x, _, s =>
    if (s.socketMutex x).isNone then some (s.setMutex x (some i)) else none
  | .socketEnd x, _, s => some (s.setMutex x none)
  | .read x n, r, s =>
    if readAnswer n r then (leftOf (readBytes r) (s.toSdk x)).map (s.setToSdk x) else none
  | .send x data, r, s =>
    if sendAnswer data.length r && setsErrno r then
      some (s.setToDaemon x (s.toDaemon x ++ sentBytes data r))
    else none

abbrev wireSig : Sig := peerSig.sum sessionSig

/-- The steps of the daemon, and the calls of the applications on a handle. -/
inductive WireCall where
  | peer (o : PeerOp)
  | sdk (handle : ℕ) (c : Request)

/-- The value of a call of the SDK is its status. -/
def wireBody (L : Layout) : WireCall → Prog wireSig (Option HdcpStatus)
  | .peer o => (Prog.op (S := peerSig) o >>= fun _ => pure none).inl
  | .sdk handle c => (c.body L handle >>= fun status => pure (some status)).inr

def wireMay : δ ⊕ τ → WireCall → Bool
  | .inl _, .peer _ => true
  | .inr _, .sdk _ _ => true
  | _, _ => false

def wireStep : δ ⊕ τ → (o : wireSig.Op) → wireSig.Ans o → WireState τ → Option (WireState τ)
  | .inl _, .inl o, r, s => peerStep o r s
  | .inr i, .inr o, r, s => callerStep i o r s
  | _, _, _, _ => none

/-- A daemon with the threads `δ`, and applications with the threads `τ`. -/
def wireSystem (L : Layout) :
    System wireSig (δ ⊕ τ) WireCall (Option HdcpStatus) (WireState τ) where
  body := wireBody L
  may i c := wireMay i c = true
  step := wireStep

abbrev WireLabel (δ τ : Type) : Type := Label wireSig (δ ⊕ τ) WireCall (Option HdcpStatus)

abbrev WireTrace (δ τ : Type) : Type := Trace wireSig (δ ⊕ τ) WireCall (Option HdcpStatus)

abbrev WireConfig (δ τ : Type) : Type :=
  Config wireSig (δ ⊕ τ) WireCall (Option HdcpStatus) (WireState τ)

/-! ### What the parties say and hear -/

/-- What a step does on the connections. -/
inductive Act where
  | quiet
  | begin (x : ℕ)
  | sdk (x : ℕ) (t : Talk UInt8)
  | daemon (x : ℕ) (t : Talk UInt8)

def peerAct : (o : PeerOp) → o.Ans → Act
  | .hear x _, bytes => .daemon x (asks bytes)
  | .say x data, _ => .daemon x (replies data)

def callerAct : (o : SessionOp) → o.Ans → Act
  | .socketBegin x, _ => .begin x
  | .read x _, r => .sdk x (replies (readBytes r))
  | .send x data, r => .sdk x (asks (sentBytes data r))
  | _, _ => .quiet

def actOf : WireLabel δ τ → Act
  | .op _ _ ⟨.inl o, r⟩ => peerAct o r
  | .op _ _ ⟨.inr o, r⟩ => callerAct o r
  | _ => .quiet

def Act.onSdk (x : ℕ) (t : Talk UInt8) : Act → Talk UInt8
  | .begin y => if y = x then [] else t
  | .sdk y u => if y = x then t ++ u else t
  | _ => t

def Act.onDaemon (x : ℕ) (t : Talk UInt8) : Act → Talk UInt8
  | .begin y => if y = x then [] else t
  | .daemon y u => if y = x then t ++ u else t
  | _ => t

/-- Where the daemon is in the exchanges on a connection, after a step. -/
def Act.onTurn (L : Layout) (x : ℕ) (d : Dialogue UInt8) : Act → Dialogue UInt8
  | .daemon y u => if y = x then (exchange L).again (d.walk u) else d
  | _ => d

/-- What the SDK has said and heard on the connection `x` since the last transaction began. -/
def sdkTalk (x : ℕ) : WireTrace δ τ → Talk UInt8
  | [] => []
  | l :: tr => (actOf l).onSdk x (sdkTalk x tr)

/-- What the daemon has heard and said since then. -/
def daemonTalk (x : ℕ) : WireTrace δ τ → Talk UInt8
  | [] => []
  | l :: tr => (actOf l).onDaemon x (daemonTalk x tr)

/-- Where the daemon is in the exchanges on the connection, whenever the SDK has begun them. -/
def daemonAt (L : Layout) (x : ℕ) : WireTrace δ τ → Dialogue UInt8
  | [] => exchange L
  | l :: tr => (actOf l).onTurn L x (daemonAt L x tr)

/-! ### The property -/

/-- The daemon says something on the connection `x` when it is its turn. -/
def InTurn (L : Layout) (x : ℕ) : WireLabel δ τ → WireTrace δ τ → Prop
  | .op _ _ ⟨.inl (.say y data), _⟩, tr =>
    y = x → (daemonAt L x tr).walk (replies data) ≠ .never
  | _, _ => True

/-- A transaction begins on `x` when the one before it was whole, or said nothing. -/
def Unbroken (L : Layout) (x : ℕ) : WireLabel δ τ → WireTrace δ τ → Prop
  | .op _ _ ⟨.inr (.socketBegin y), _⟩, tr =>
    y = x → sdkTalk x tr = [] ∨ (exchange L).walk (sdkTalk x tr) = .done
  | _, _ => True

/-- A step on a connection where the daemon speaks in turn, and where no transaction begins after
one that was broken off. -/
def Orderly (L : Layout) (x : ℕ) (l : WireLabel δ τ) (tr : WireTrace δ τ) : Prop :=
  InTurn L x l tr ∧ Unbroken L x l tr

section

variable [DecidableEq δ] [DecidableEq τ]

/-- The last transaction of the call that a thread makes: its session, and the history before
its end. -/
def lastTransaction (i : τ) : WireTrace δ τ → Option (ℕ × WireTrace δ τ)
  | [] => none
  | .call j _ :: tr => if j = .inr i then none else lastTransaction i tr
  | .op (.inr j) _ ⟨.inr (.socketEnd x), _⟩ :: tr =>
    if j = i then some (x, tr) else lastTransaction i tr
  | _ :: tr => lastTransaction i tr

/-- In the last transaction of the call, the daemon has heard and said what the SDK has said and
heard, and this is the request of the call and the final reply to it, which reports success. -/
def Confirmed (L : Layout) (i : τ) (x : ℕ) (c : Request) (tr : WireTrace δ τ) : Prop :=
  ∃ tr', lastTransaction i tr = some (x, tr') ∧ daemonTalk x tr' = sdkTalk x tr' ∧
    ∃ rsp, Received L (message L c) (sdkTalk x tr') rsp ∧ rsp.status = HdcpStatus.successful

/-- A call `c` that returns success has found its session, and is confirmed on its connection
when all that has happened there meets `K`. -/
def Confirms (L : Layout) (K : ℕ → WireLabel δ τ → WireTrace δ τ → Prop) (c : Request) :
    WireLabel δ τ → WireTrace δ τ → Prop
  | .ret (.inr i) (.sdk handle c') (some ret), tr =>
    c' = c → ret = HdcpStatus.successful →
      ∃ x, ⟨.inr (.getInstance handle), some x⟩ ∈ callEvents (.inr i) tr ∧
        (EveryStep (K x) tr → Confirmed L i x c tr)
  | _, _ => True

end

/-- In every run, success is confirmed on the connections that are orderly. -/
def Truthful (L : Layout) (c : Request) : Prop :=
  ∀ (δ τ : Type) [DecidableEq δ] [DecidableEq τ] (tr : WireTrace δ τ) (cfg : WireConfig δ τ),
    (wireSystem L).AnyRun .start tr cfg → EveryStep (Confirms L (Orderly L) c) tr

/-! ### Where the threads are -/

/-- The connection of a session, with the talks of both sides. -/
def linkOf (x : ℕ) (tr : WireTrace δ τ) (s : WireState τ) : Link UInt8 :=
  ⟨sdkTalk x tr, daemonTalk x tr, s.toDaemon x, s.toSdk x⟩

/-- Both sides are in the same exchange, and differ by what is under way. -/
structure Aligned (L : Layout) (x : ℕ) (tr : WireTrace δ τ) (s : WireState τ) : Prop where
  link : (linkOf x tr s).InStep (exchange L)
  turn : daemonAt L x tr = (exchange L).again ((exchange L).walk (daemonTalk x tr))

section

variable [DecidableEq δ] [DecidableEq τ]

/-- What the call of a thread has done. -/
def standing (i : τ) : WireTrace δ τ → Standing
  | [] => .start
  | .call j _ :: tr => if j = .inr i then .start else standing i tr
  | .op (.inr j) _ ⟨.inr o, r⟩ :: tr =>
    if j = i then (standing i tr).after ⟨o, r⟩ else standing i tr
  | _ :: tr => standing i tr

abbrev WirePos : δ ⊕ τ → Type
  | .inl _ => Unit
  | .inr _ => Standing

/-- What a call returns with. -/
def callerPost (L : Layout) (X : Set ℕ) : WireCall → Option HdcpStatus → Standing → Prop
  | .sdk handle c, ret, q => ∃ status, ret = some status ∧ Returned L X handle c status q
  | .peer _, _, _ => True

/-- A monitor that minds nothing. -/
def anything : Monitor wireSig Unit where
  may _ _ := True
  next _ _ _ _ := True

/-- The monitors of the threads. -/
def watch (L : Layout) (X : Set ℕ) : Watch wireSig (δ ⊕ τ) WireCall (Option HdcpStatus) where
  Pos := WirePos
  monitor
    | .inl _ => anything
    | .inr _ => (callerMonitor L X).inr
  pos
    | .inl _, _ => ()
    | .inr i, tr => standing i tr
  post
    | .inl _, _, _, _ => True
    | .inr _, c, ret, q => callerPost L X c ret q

/-- What is known about a thread of an application. -/
structure Known (L : Layout) (X : Set ℕ) (i : τ) (tr : WireTrace δ τ) (s : WireState τ) :
    Prop where
  holder : ∀ x, (∃ t, (standing i tr).current = some (x, t)) ↔ s.socketMutex x = some i
  own : ∀ x t, (standing i tr).current = some (x, t) → sdkTalk x tr = t
  found : ∀ handle x, (standing i tr).found = some (handle, x) →
    ⟨.inr (.getInstance handle), some x⟩ ∈ callEvents (.inr i) tr
  last : ∀ x t, (standing i tr).last = some (x, t) → ∃ tr', lastTransaction i tr = some (x, tr') ∧
    sdkTalk x tr' = t ∧ (x ∈ X → (exchange L).walk t = .done → daemonTalk x tr' = t)
  outside : calling (.inr i) tr = none → (standing i tr).current = none

/-- The invariant of the runs in which the connections `X` are orderly. -/
structure Inv (L : Layout) (X : Set ℕ) (tr : WireTrace δ τ) (s : WireState τ) : Prop where
  aligned : ∀ x ∈ X, Aligned L x tr s
  known : ∀ i, Known L X i tr s

variable {L : Layout} {X : Set ℕ} {tr : WireTrace δ τ} {s s' : WireState τ}
  {l : WireLabel δ τ} {c : WireCall} {x : ℕ} {u : Talk UInt8} {i : τ}

/-! ### Talks and steps -/

omit [DecidableEq δ] [DecidableEq τ] in
lemma talks_of_quiet (L : Layout) (tr : WireTrace δ τ) (h : actOf l = .quiet) (x : ℕ) :
    sdkTalk x (l :: tr) = sdkTalk x tr ∧ daemonTalk x (l :: tr) = daemonTalk x tr ∧
      daemonAt L x (l :: tr) = daemonAt L x tr := by
  rw [sdkTalk, daemonTalk, daemonAt, h]
  exact ⟨rfl, rfl, rfl⟩

omit [DecidableEq δ] [DecidableEq τ] in
/-- What the SDK says or hears on one connection. -/
lemma talks_of_sdk (L : Layout) (tr : WireTrace δ τ) (h : actOf l = .sdk x u) (y : ℕ) :
    sdkTalk y (l :: tr) = (if x = y then sdkTalk y tr ++ u else sdkTalk y tr) ∧
      daemonTalk y (l :: tr) = daemonTalk y tr ∧ daemonAt L y (l :: tr) = daemonAt L y tr := by
  rw [sdkTalk, daemonTalk, daemonAt, h]
  exact ⟨rfl, rfl, rfl⟩

omit [DecidableEq δ] [DecidableEq τ] in
/-- What the daemon hears or says on one connection. -/
lemma talks_of_daemon (L : Layout) (tr : WireTrace δ τ) (h : actOf l = .daemon x u) (y : ℕ) :
    sdkTalk y (l :: tr) = sdkTalk y tr ∧
      daemonTalk y (l :: tr) = (if x = y then daemonTalk y tr ++ u else daemonTalk y tr) ∧
      daemonAt L y (l :: tr) =
        (if x = y then (exchange L).again ((daemonAt L y tr).walk u) else daemonAt L y tr) := by
  rw [sdkTalk, daemonTalk, daemonAt, h]
  exact ⟨rfl, rfl, rfl⟩

omit [DecidableEq δ] [DecidableEq τ] in
lemma talks_of_begin (L : Layout) (tr : WireTrace δ τ) (h : actOf l = .begin x) (y : ℕ) :
    sdkTalk y (l :: tr) = (if x = y then [] else sdkTalk y tr) ∧
      daemonTalk y (l :: tr) = (if x = y then [] else daemonTalk y tr) ∧
      daemonAt L y (l :: tr) = daemonAt L y tr := by
  rw [sdkTalk, daemonTalk, daemonAt, h]
  exact ⟨rfl, rfl, rfl⟩

/-- The step of another thread. -/
lemma Known.of_same (h : Known L X i tr s) (hstanding : standing i (l :: tr) = standing i tr)
    (hlast : lastTransaction i (l :: tr) = lastTransaction i tr)
    (hevents : callEvents (.inr i) (l :: tr) = callEvents (.inr i) tr)
    (hcalling : calling (.inr i) (l :: tr) = calling (.inr i) tr)
    (hmutex : ∀ x, s'.socketMutex x = some i ↔ s.socketMutex x = some i)
    (htalk : ∀ x, s.socketMutex x = some i → sdkTalk x (l :: tr) = sdkTalk x tr) :
    Known L X i (l :: tr) s' := by
  constructor
  · intro x
    rw [hstanding, hmutex, h.holder]
  · intro x t hcurrent
    rw [hstanding] at hcurrent
    rw [htalk x ((h.holder x).1 ⟨t, hcurrent⟩)]
    exact h.own x t hcurrent
  · intro handle x hfound
    rw [hstanding] at hfound
    rw [hevents]
    exact h.found handle x hfound
  · intro x t hx
    rw [hstanding] at hx
    rw [hlast]
    exact h.last x t hx
  · rw [hcalling, hstanding]
    exact h.outside

/-- The other threads do not notice an interaction of the thread `i`. -/
lemma Known.of_other {k : τ} {o : SessionOp} {r : o.Ans} (h : Known L X k tr s) (hk : k ≠ i)
    (hmutex : ∀ x, s'.socketMutex x = some k ↔ s.socketMutex x = some k)
    (htalk : ∀ x, s.socketMutex x = some k →
      sdkTalk x (.op (.inr i) c ⟨.inr o, r⟩ :: tr) = sdkTalk x tr) :
    Known L X k (.op (.inr i) c ⟨.inr o, r⟩ :: tr) s' := by
  have hne : (.inr i : δ ⊕ τ) ≠ .inr k := fun heq => hk (Sum.inr.inj heq).symm
  refine h.of_same (if_neg hk.symm) ?_ (callEvents_op_of_ne hne) rfl hmutex htalk
  cases o
  case socketEnd x => exact if_neg hk.symm
  all_goals rfl

/-! ### The connections -/

section Connections

omit [DecidableEq δ] [DecidableEq τ]

lemma Aligned.of_same (h : Aligned L x tr s) (hsdk : sdkTalk x (l :: tr) = sdkTalk x tr)
    (hdaemon : daemonTalk x (l :: tr) = daemonTalk x tr)
    (hat : daemonAt L x (l :: tr) = daemonAt L x tr) (htoDaemon : s'.toDaemon x = s.toDaemon x)
    (htoSdk : s'.toSdk x = s.toSdk x) : Aligned L x (l :: tr) s' := by
  refine ⟨?_, ?_⟩
  · rw [linkOf, hsdk, hdaemon, htoDaemon, htoSdk]
    exact h.link
  · rw [hdaemon, hat]
    exact h.turn

/-- A step that says nothing. -/
lemma Aligned.of_quiet (h : Aligned L x tr s) (hact : actOf l = .quiet)
    (htoDaemon : s'.toDaemon x = s.toDaemon x) (htoSdk : s'.toSdk x = s.toSdk x) :
    Aligned L x (l :: tr) s' := by
  obtain ⟨hsdk, hdaemon, hat⟩ := talks_of_quiet L tr hact x
  exact h.of_same hsdk hdaemon hat htoDaemon htoSdk

/-- A step of the daemon on a connection. -/
lemma aligned_of_daemon (hact : actOf l = .daemon x u)
    (hlink : (⟨sdkTalk x tr, daemonTalk x tr ++ u, s'.toDaemon x, s'.toSdk x⟩ :
      Link UInt8).InStep (exchange L))
    (hturn : (exchange L).again ((daemonAt L x tr).walk u) =
      (exchange L).again ((exchange L).walk (daemonTalk x tr ++ u))) :
    Aligned L x (l :: tr) s' := by
  obtain ⟨hsdk, hdaemon, hat⟩ := talks_of_daemon L tr hact x
  rw [if_pos rfl] at hdaemon hat
  refine ⟨?_, ?_⟩
  · rw [linkOf, hsdk, hdaemon]
    exact hlink
  · rw [hdaemon, hat]
    exact hturn

/-- A step of the SDK on a connection. -/
lemma Aligned.of_sdk (h : Aligned L x tr s) (hact : actOf l = .sdk x u)
    (hlink : (⟨sdkTalk x tr ++ u, daemonTalk x tr, s'.toDaemon x, s'.toSdk x⟩ :
      Link UInt8).InStep (exchange L)) : Aligned L x (l :: tr) s' := by
  obtain ⟨hsdk, hdaemon, hat⟩ := talks_of_sdk L tr hact x
  rw [if_pos rfl] at hsdk
  refine ⟨?_, ?_⟩
  · rw [linkOf, hsdk, hdaemon]
    exact hlink
  · rw [hdaemon, hat]
    exact h.turn

lemma leftOf_eq_some {bytes stream rest : List UInt8} (h : leftOf bytes stream = some rest) :
    stream = bytes ++ rest := by
  rw [leftOf] at h
  split_ifs at h with hprefix
  obtain ⟨rest', rfl⟩ := hprefix
  obtain rfl := Option.some.inj h
  rw [List.drop_left]

/-- The daemon hears what the SDK has written. -/
lemma Aligned.hear {bytes rest : List UInt8} (h : Aligned L x tr s)
    (hact : actOf l = .daemon x (asks bytes)) (hstream : s.toDaemon x = bytes ++ rest) :
    Aligned L x (l :: tr) (s.setToDaemon x rest) := by
  have hself : (s.setToDaemon x rest).toDaemon x = rest := Function.update_self _ _ _
  have hlink := h.link
  rw [linkOf, hstream] at hlink
  by_cases hempty : bytes = []
  · subst hempty
    have hsame : daemonTalk x tr ++ asks [] = daemonTalk x tr := List.append_nil _
    refine aligned_of_daemon hact ?_ ?_
    · rw [hself, hsame]
      exact hlink
    · rw [h.turn, hsame]
      exact Dialogue.again_again exchange_asks.ne_done _
  · have hnew := hlink.serverRead hempty
    refine aligned_of_daemon hact ?_ ?_
    · rw [hself]
      exact hnew
    · -- the SDK is to write, so that the last exchange is not over
      have hok := hnew.server_ok
      rw [Dialogue.walk_append] at hok
      have hasks := Dialogue.asks_of_walk hok hempty
      rw [h.turn, Dialogue.again_of_ne hasks.ne_done, Dialogue.walk_append]

/-- The daemon says something when it is its turn. -/
lemma Aligned.say {data : List UInt8} (h : Aligned L x tr s)
    (hact : actOf l = .daemon x (replies data))
    (hok : (daemonAt L x tr).walk (replies data) ≠ .never) :
    Aligned L x (l :: tr) (s.setToSdk x (s.toSdk x ++ data)) := by
  have hself : (s.setToSdk x (s.toSdk x ++ data)).toSdk x = s.toSdk x ++ data :=
    Function.update_self _ _ _
  by_cases hempty : data = []
  · subst hempty
    have hsame : daemonTalk x tr ++ replies [] = daemonTalk x tr := List.append_nil _
    refine aligned_of_daemon hact ?_ ?_
    · rw [hself, hsame, List.append_nil]
      exact h.link
    · rw [h.turn, hsame]
      exact Dialogue.again_again exchange_asks.ne_done _
  · -- the daemon is to write, so that an exchange is under way
    have hreplies := Dialogue.replies_of_walk hok hempty
    have hbusy : (exchange L).walk (daemonTalk x tr) ≠ .done := by
      intro hdone
      rw [h.turn, hdone, Dialogue.again_done] at hreplies
      exact exchange_asks.not_replies hreplies
    have hat : daemonAt L x tr = (exchange L).walk (daemonTalk x tr) := by
      rw [h.turn, Dialogue.again_of_ne hbusy]
    rw [hat, ← Dialogue.walk_append] at hok
    refine aligned_of_daemon hact ?_ ?_
    · rw [hself]
      exact h.link.serverSend hempty hok
    · rw [hat, Dialogue.walk_append]

/-- Both sides have come to the end of a transaction, or have said nothing: a new one can
begin. -/
lemma Aligned.begin (h : Aligned L x tr s) (hact : actOf l = .begin x)
    (hunbroken : sdkTalk x tr = [] ∨ (exchange L).walk (sdkTalk x tr) = .done)
    (htoDaemon : s'.toDaemon x = s.toDaemon x) (htoSdk : s'.toSdk x = s.toSdk x) :
    Aligned L x (l :: tr) s' := by
  obtain ⟨hup, hdown, hturn⟩ : s.toDaemon x = [] ∧ s.toSdk x = [] ∧
      daemonAt L x tr = exchange L := by
    rw [h.turn]
    rcases hunbroken with hnothing | hdone
    · obtain ⟨hserver, hup, hdown⟩ := h.link.not_begun exchange_asks hnothing
      have hdaemon : daemonTalk x tr = [] := hserver
      refine ⟨hup, hdown, ?_⟩
      rw [hdaemon, Dialogue.walk_nil, Dialogue.again_of_ne exchange_asks.ne_done]
    · obtain ⟨hserver, hup, hdown⟩ := h.link.finish exchange_replied hdone
      have hdaemon : daemonTalk x tr = sdkTalk x tr := hserver
      refine ⟨hup, hdown, ?_⟩
      rw [hdaemon, hdone, Dialogue.again_done]
  obtain ⟨hsdk, hdaemon, hat⟩ := talks_of_begin L tr hact x
  rw [if_pos rfl] at hsdk hdaemon
  refine ⟨?_, ?_⟩
  · rw [linkOf, hsdk, hdaemon, htoDaemon, htoSdk, hup, hdown]
    exact .start exchange_asks.ne_never
  · rw [hdaemon, hat, hturn, Dialogue.walk_nil, Dialogue.again_of_ne exchange_asks.ne_done]

/-- The SDK reads what the daemon has written. -/
lemma Aligned.read {bytes rest : List UInt8} (h : Aligned L x tr s)
    (hact : actOf l = .sdk x (replies bytes)) (hstream : s.toSdk x = bytes ++ rest) :
    Aligned L x (l :: tr) (s.setToSdk x rest) ∧
      (exchange L).walk (sdkTalk x tr ++ replies bytes) ≠ .never := by
  have hself : (s.setToSdk x rest).toSdk x = rest := Function.update_self _ _ _
  have hnew : (⟨sdkTalk x tr ++ replies bytes, daemonTalk x tr, s.toDaemon x, rest⟩ :
      Link UInt8).InStep (exchange L) := by
    have hlink := h.link
    rw [linkOf, hstream] at hlink
    by_cases hempty : bytes = []
    · subst hempty
      have hsame : sdkTalk x tr ++ replies [] = sdkTalk x tr := List.append_nil _
      rw [hsame]
      exact hlink
    · exact hlink.clientRead hempty
  refine ⟨h.of_sdk hact ?_, hnew.client_ok⟩
  rw [hself]
  exact hnew

/-- The SDK writes a part of what it is its turn to write. -/
lemma Aligned.send {data sent : List UInt8} (h : Aligned L x tr s)
    (hact : actOf l = .sdk x (asks sent)) (hsent : sent <+: data)
    (hok : (exchange L).walk (sdkTalk x tr ++ asks data) ≠ .never) :
    Aligned L x (l :: tr) (s.setToDaemon x (s.toDaemon x ++ sent)) := by
  have hself : (s.setToDaemon x (s.toDaemon x ++ sent)).toDaemon x = s.toDaemon x ++ sent :=
    Function.update_self _ _ _
  refine h.of_sdk hact ?_
  rw [hself]
  by_cases hempty : sent = []
  · subst hempty
    have hsame : sdkTalk x tr ++ asks [] = sdkTalk x tr := List.append_nil _
    rw [hsame, List.append_nil]
    exact h.link
  · refine h.link.clientSend hempty ?_
    obtain ⟨rest, rfl⟩ := hsent
    refine Dialogue.walk_ne_never_of_append (u := asks rest) ?_
    rw [List.append_assoc, asks, asks, ← List.map_append]
    exact hok

end Connections

/-! ### The steps of the daemon -/

/-- A step of the daemon on a connection. -/
lemma Inv.peer {i : δ} {o : PeerOp} {r : o.Ans} (h : Inv L X tr s)
    (hact : peerAct o r = .daemon x u)
    (haligned : x ∈ X → Aligned L x tr s → Aligned L x (.op (.inl i) c ⟨.inl o, r⟩ :: tr) s')
    (hothers : ∀ y, y ≠ x → s'.toDaemon y = s.toDaemon y ∧ s'.toSdk y = s.toSdk y)
    (hmutex : s'.socketMutex = s.socketMutex) :
    Inv L X (.op (.inl i) c ⟨.inl o, r⟩ :: tr) s' := by
  have hdaemon : actOf (.op (.inl i) c ⟨.inl o, r⟩ : WireLabel δ τ) = .daemon x u := hact
  have htalk (y : ℕ) := talks_of_daemon L tr hdaemon y
  refine ⟨fun y hy => ?_, fun k => ?_⟩
  · by_cases hyx : y = x
    · subst hyx
      exact haligned hy (h.aligned y hy)
    · obtain ⟨hsdk, hdaemon, hat⟩ := htalk y
      rw [if_neg (Ne.symm hyx)] at hdaemon hat
      exact (h.aligned y hy).of_same hsdk hdaemon hat (hothers y hyx).1 (hothers y hyx).2
  · exact (h.known k).of_same rfl rfl rfl rfl (fun y => by rw [hmutex]) fun y _ => (htalk y).1

lemma Inv.hear {i : δ} {n : ℕ} {bytes : List UInt8} (h : Inv L X tr s)
    (hstep : peerStep (.hear x n) bytes s = some s') :
    Inv L X (.op (.inl i) c ⟨.inl (.hear x n), bytes⟩ :: tr) s' := by
  obtain ⟨-, htaken⟩ := Option.ite_none_right_eq_some.1 hstep
  obtain ⟨rest, htake, rfl⟩ := Option.map_eq_some_iff.1 htaken
  refine h.peer (o := .hear x n) rfl (fun _ ha => ha.hear rfl (leftOf_eq_some htake)) ?_ rfl
  exact fun y hy => ⟨Function.update_of_ne hy _ _, rfl⟩

lemma Inv.say {i : δ} {data : List UInt8} {r : PeerOp.Ans (.say x data)} (h : Inv L X tr s)
    (hstep : peerStep (.say x data) r s = some s')
    (hok : x ∈ X → (daemonAt L x tr).walk (replies data) ≠ .never) :
    Inv L X (.op (.inl i) c ⟨.inl (.say x data), r⟩ :: tr) s' := by
  obtain rfl := Option.some.inj hstep
  have hothers (y : ℕ) (hy : y ≠ x) :
      (s.setToSdk x (s.toSdk x ++ data)).toDaemon y = s.toDaemon y ∧
        (s.setToSdk x (s.toSdk x ++ data)).toSdk y = s.toSdk y :=
    ⟨rfl, Function.update_of_ne hy _ _⟩
  exact h.peer (o := .say x data) (r := r) rfl (fun hx ha => ha.say rfl (hok hx)) hothers rfl

/-! ### The steps of the SDK -/

/-- A step that says nothing on the connections. -/
lemma Inv.of_quiet (h : Inv L X tr s) (hact : actOf l = .quiet)
    (htoDaemon : s'.toDaemon = s.toDaemon) (htoSdk : s'.toSdk = s.toSdk)
    (hknown : ∀ i, Known L X i (l :: tr) s') : Inv L X (l :: tr) s' where
  aligned x hx := (h.aligned x hx).of_quiet hact (by rw [htoDaemon]) (by rw [htoSdk])
  known := hknown

section Sdk

variable {o : SessionOp} {r : o.Ans} {n : ℕ} {data : List UInt8} {t : Talk UInt8}

lemma standing_op : standing i (.op (.inr i) c ⟨.inr o, r⟩ :: tr : WireTrace δ τ) =
    (standing i tr).after ⟨o, r⟩ :=
  if_pos rfl

/-- The session of a call is one that was found. -/
lemma Known.found_op (h : Known L X i tr s) (handle x : ℕ)
    (hfound : (standing i (.op (.inr i) c ⟨.inr o, r⟩ :: tr : WireTrace δ τ)).found =
      some (handle, x)) :
    ⟨.inr (.getInstance handle), some x⟩ ∈
      callEvents (.inr i) (.op (.inr i) c ⟨.inr o, r⟩ :: tr : WireTrace δ τ) := by
  rw [standing_op] at hfound
  rw [callEvents_op_self]
  cases o
  case getInstance handle' =>
    obtain ⟨x', hr, heq⟩ := Option.map_eq_some_iff.1 hfound
    obtain ⟨rfl, rfl⟩ := Prod.mk.inj heq
    obtain rfl : r = some x' := hr
    exact List.mem_cons_self
  all_goals exact List.mem_cons_of_mem _ (h.found handle x hfound)

/-- Between two transactions, a thread finds its session, or gives it back. -/
lemma Inv.sdkQuiet (h : Inv L X tr s) (hcalling : calling (.inr i) tr = some c)
    (hact : callerAct o r = .quiet)
    (hcurrent : ((standing i tr).after ⟨o, r⟩).current = (standing i tr).current)
    (hlast : ((standing i tr).after ⟨o, r⟩).last = (standing i tr).last)
    (hlastTransaction : lastTransaction i (.op (.inr i) c ⟨.inr o, r⟩ :: tr : WireTrace δ τ) =
      lastTransaction i tr) :
    Inv L X (.op (.inr i) c ⟨.inr o, r⟩ :: tr) s := by
  have hquiet : actOf (.op (.inr i) c ⟨.inr o, r⟩ : WireLabel δ τ) = .quiet := hact
  have htalk (x : ℕ) := talks_of_quiet L tr hquiet x
  refine h.of_quiet hquiet rfl rfl fun k => ?_
  have hk := h.known k
  by_cases hki : k = i
  · subst hki
    refine ⟨?_, ?_, hk.found_op, ?_, ?_⟩
    · intro x
      rw [standing_op, hcurrent]
      exact hk.holder x
    · intro x t ht
      rw [standing_op, hcurrent] at ht
      rw [(htalk x).1]
      exact hk.own x t ht
    · intro x t ht
      rw [standing_op, hlast] at ht
      rw [hlastTransaction]
      exact hk.last x t ht
    · intro hidle
      exact absurd (hidle.symm.trans hcalling) (by simp)
  · exact hk.of_other hki (fun _ => Iff.rfl) fun x _ => (htalk x).1

/-- A thread begins a transaction. -/
lemma Inv.sdkBegin {r : SessionOp.Ans (.socketBegin x)} (h : Inv L X tr s)
    (hcalling : calling (.inr i) tr = some c) (hcurrent : (standing i tr).current = none)
    (hfree : s.socketMutex x = none)
    (hunbroken : x ∈ X → sdkTalk x tr = [] ∨ (exchange L).walk (sdkTalk x tr) = .done) :
    Inv L X (.op (.inr i) c ⟨.inr (.socketBegin x), r⟩ :: tr) (s.setMutex x (some i)) := by
  have hact : actOf (.op (.inr i) c ⟨.inr (.socketBegin x), r⟩ : WireLabel δ τ) = .begin x := rfl
  have htalk (y : ℕ) := talks_of_begin L tr hact y
  refine ⟨fun y hy => ?_, fun k => ?_⟩
  · by_cases hyx : y = x
    · subst hyx
      exact (h.aligned y hy).begin hact (hunbroken hy) rfl rfl
    · obtain ⟨hsdk, hdaemon, hat⟩ := htalk y
      rw [if_neg (Ne.symm hyx)] at hsdk hdaemon
      exact (h.aligned y hy).of_same hsdk hdaemon hat rfl rfl
  · have hk := h.known k
    by_cases hki : k = i
    · subst hki
      refine ⟨fun y => ?_, fun y t ht => ?_, hk.found_op, fun y t ht => ?_, fun hidle => ?_⟩
      · have hnot : s.socketMutex y ≠ some k := by
          rw [Ne, ← hk.holder, hcurrent]
          simp
        rw [standing_op]
        show (∃ t, some (x, []) = some (y, t)) ↔ Function.update s.socketMutex x (some k) y = some k
        by_cases hy : y = x
        · subst hy
          simp
        · rw [Function.update_of_ne hy]
          simp [hnot, Ne.symm hy]
      · rw [standing_op] at ht
        obtain ⟨rfl, rfl⟩ := Prod.mk.inj (Option.some.inj ht)
        rw [(htalk x).1, if_pos rfl]
      · rw [standing_op] at ht
        exact hk.last y t ht
      · exact absurd (hidle.symm.trans hcalling) (by simp)
    · refine hk.of_other hki (fun y => ?_) fun y hy => ?_
      · show Function.update s.socketMutex x (some i) y = some k ↔ _
        by_cases hyx : y = x
        · subst hyx
          rw [Function.update_self, hfree]
          simp [Ne.symm hki]
        · rw [Function.update_of_ne hyx]
      · have hyx : x ≠ y := by
          rintro rfl
          exact absurd (hfree.symm.trans hy) (by simp)
        rw [(htalk y).1, if_neg hyx]

/-- A thread ends its transaction. -/
lemma Inv.sdkEnd {r : SessionOp.Ans (.socketEnd x)} (h : Inv L X tr s)
    (hcalling : calling (.inr i) tr = some c) (hcurrent : (standing i tr).current = some (x, t)) :
    Inv L X (.op (.inr i) c ⟨.inr (.socketEnd x), r⟩ :: tr) (s.setMutex x none) := by
  have hquiet : actOf (.op (.inr i) c ⟨.inr (.socketEnd x), r⟩ : WireLabel δ τ) = .quiet := rfl
  have htalk (y : ℕ) := talks_of_quiet L tr hquiet y
  have hholds : s.socketMutex x = some i := ((h.known i).holder x).1 ⟨t, hcurrent⟩
  refine h.of_quiet hquiet rfl rfl fun k => ?_
  have hk := h.known k
  by_cases hki : k = i
  · subst hki
    refine ⟨fun y => ?_, fun y u hu => ?_, hk.found_op, fun y u hu => ?_, fun hidle => ?_⟩
    · rw [standing_op]
      show (∃ t, none = some (y, t)) ↔ Function.update s.socketMutex x none y = some k
      by_cases hy : y = x
      · subst hy
        simp
      · rw [Function.update_of_ne hy, ← hk.holder, hcurrent]
        simp [Ne.symm hy]
    · rw [standing_op] at hu
      exact absurd hu (by simp [Standing.after])
    · rw [standing_op] at hu
      have hsame : some (x, t) = some (y, u) := hcurrent.symm.trans hu
      obtain ⟨rfl, rfl⟩ := Prod.mk.inj (Option.some.inj hsame)
      have hown : sdkTalk x tr = t := hk.own x t hcurrent
      refine ⟨tr, if_pos rfl, hown, fun hx hdone => ?_⟩
      have hclient : (exchange L).walk (linkOf x tr s).client = .done := by
        rw [linkOf, hown]
        exact hdone
      exact ((h.aligned x hx).link.finish exchange_replied hclient).1.trans hown
    · exact absurd (hidle.symm.trans hcalling) (by simp)
  · refine hk.of_other hki (fun y => ?_) fun y _ => (htalk y).1
    show Function.update s.socketMutex x none y = some k ↔ _
    by_cases hyx : y = x
    · subst hyx
      rw [Function.update_self, hholds]
      simp [Ne.symm hki]
    · rw [Function.update_of_ne hyx]

/-- A thread says or hears something in its transaction. -/
lemma Inv.sdkMove (h : Inv L X tr s) (hcalling : calling (.inr i) tr = some c)
    (hcurrent : (standing i tr).current = some (x, t)) (hact : callerAct o r = .sdk x u)
    (hafter : (standing i tr).after ⟨o, r⟩ = (standing i tr).speak u)
    (hlastTransaction : lastTransaction i (.op (.inr i) c ⟨.inr o, r⟩ :: tr : WireTrace δ τ) =
      lastTransaction i tr)
    (haligned : x ∈ X → Aligned L x tr s → Aligned L x (.op (.inr i) c ⟨.inr o, r⟩ :: tr) s')
    (hothers : ∀ y, y ≠ x → s'.toDaemon y = s.toDaemon y ∧ s'.toSdk y = s.toSdk y)
    (hmutex : s'.socketMutex = s.socketMutex) :
    Inv L X (.op (.inr i) c ⟨.inr o, r⟩ :: tr) s' := by
  have hsdk : actOf (.op (.inr i) c ⟨.inr o, r⟩ : WireLabel δ τ) = .sdk x u := hact
  have htalk (y : ℕ) := talks_of_sdk L tr hsdk y
  have hspoken : ((standing i tr).speak u).current = some (x, t ++ u) := by
    rw [Standing.speak, hcurrent]
    rfl
  refine ⟨fun y hy => ?_, fun k => ?_⟩
  · by_cases hyx : y = x
    · subst hyx
      exact haligned hy (h.aligned y hy)
    · obtain ⟨hsdk, hdaemon, hat⟩ := htalk y
      rw [if_neg (Ne.symm hyx)] at hsdk
      exact (h.aligned y hy).of_same hsdk hdaemon hat (hothers y hyx).1 (hothers y hyx).2
  · have hk := h.known k
    by_cases hki : k = i
    · subst hki
      refine ⟨fun y => ?_, fun y v hv => ?_, hk.found_op, fun y v hv => ?_, fun hidle => ?_⟩
      · rw [standing_op, hafter, hspoken, hmutex, ← hk.holder, hcurrent]
        simp
      · rw [standing_op, hafter, hspoken] at hv
        obtain ⟨rfl, rfl⟩ := Prod.mk.inj (Option.some.inj hv)
        rw [(htalk x).1, if_pos rfl, hk.own x t hcurrent]
      · rw [standing_op, hafter] at hv
        rw [hlastTransaction]
        exact hk.last y v hv
      · exact absurd (hidle.symm.trans hcalling) (by simp)
    · refine hk.of_other hki (fun y => by rw [hmutex]) fun y hy => ?_
      have hyx : x ≠ y := by
        rintro rfl
        have hholds : s.socketMutex x = some i := ((h.known i).holder x).1 ⟨t, hcurrent⟩
        exact hki (Option.some.inj (hy.symm.trans hholds))
      rw [(htalk y).1, if_neg hyx]

/-- A thread reads. -/
lemma Inv.sdkRead {r : Except Errno (List UInt8)} (h : Inv L X tr s)
    (hcalling : calling (.inr i) tr = some c) (hcurrent : (standing i tr).current = some (x, t))
    (hstep : callerStep i (.read x n) r s = some s') :
    Inv L X (.op (.inr i) c ⟨.inr (.read x n), r⟩ :: tr) s' ∧
      Expected L X (standing i tr) ⟨.read x n, r⟩ := by
  obtain ⟨hanswer, htaken⟩ := Option.ite_none_right_eq_some.1 hstep
  obtain ⟨rest, htake, rfl⟩ := Option.map_eq_some_iff.1 htaken
  have hown : sdkTalk x tr = t := (h.known i).own x t hcurrent
  have hact : actOf (.op (.inr i) c ⟨.inr (.read x n), r⟩ : WireLabel δ τ) =
      .sdk x (replies (readBytes r)) := rfl
  have hread (hx : x ∈ X) := (h.aligned x hx).read hact (leftOf_eq_some htake)
  refine ⟨h.sdkMove hcalling hcurrent rfl rfl rfl (fun hx _ => (hread hx).1) (fun y hy => ?_) rfl,
    hanswer, fun x' t' ht' hx => ?_⟩
  · exact ⟨rfl, Function.update_of_ne hy _ _⟩
  · obtain ⟨rfl, rfl⟩ := Prod.mk.inj (Option.some.inj (hcurrent.symm.trans ht'))
    rw [← hown]
    exact (hread hx).2

/-- A thread writes, when it is its turn. -/
lemma Inv.sdkSend {r : Except Errno ℕ} (h : Inv L X tr s)
    (hcalling : calling (.inr i) tr = some c) (hcurrent : (standing i tr).current = some (x, t))
    (hmay : (exchange L).walk (t ++ asks data) ≠ .never)
    (hstep : callerStep i (.send x data) r s = some s') :
    Inv L X (.op (.inr i) c ⟨.inr (.send x data), r⟩ :: tr) s' ∧
      Expected L X (standing i tr) ⟨.send x data, r⟩ := by
  obtain ⟨hanswer, heq⟩ := Option.ite_none_right_eq_some.1 hstep
  obtain rfl := Option.some.inj heq
  obtain ⟨hsent, herror⟩ := (Bool.and_eq_true _ _).mp hanswer
  have hprefix : sentBytes data r <+: data := by
    cases r with
    | error e => exact List.nil_prefix
    | ok n => exact List.take_prefix n data
  have hact : actOf (.op (.inr i) c ⟨.inr (.send x data), r⟩ : WireLabel δ τ) =
      .sdk x (asks (sentBytes data r)) := rfl
  rw [← (h.known i).own x t hcurrent] at hmay
  refine ⟨h.sdkMove hcalling hcurrent rfl rfl rfl (fun _ ha => ha.send hact hprefix hmay)
    (fun y hy => ?_) rfl, hsent, ?_⟩
  · exact ⟨Function.update_of_ne hy _ _, rfl⟩
  · rintro rfl
    exact absurd herror (by simp [setsErrno])

end Sdk

/-! ### All runs -/

/-- A call begins, or returns. -/
lemma Known.of_frame (h : Known L X i tr s) (hstanding : standing i (l :: tr) = standing i tr)
    (hlast : lastTransaction i (l :: tr) = lastTransaction i tr)
    (hevents : callEvents (.inr i) (l :: tr) = callEvents (.inr i) tr)
    (hquiet : actOf l = .quiet)
    (houtside : calling (.inr i) (l :: tr) = none → (standing i tr).current = none) :
    Known L X i (l :: tr) s := by
  have htalk (x : ℕ) := (talks_of_quiet L tr hquiet x).1
  refine ⟨?_, ?_, ?_, ?_, ?_⟩
  · rw [hstanding]
    exact h.holder
  · intro x t ht
    rw [hstanding] at ht
    rw [htalk]
    exact h.own x t ht
  · rw [hstanding, hevents]
    exact h.found
  · rw [hstanding, hlast]
    exact h.last
  · rw [hstanding]
    exact houtside

lemma inv_start : Inv L X ([] : WireTrace δ τ) .start where
  aligned _ _ := ⟨.start exchange_asks.ne_never, by
    rw [daemonTalk, daemonAt, Dialogue.walk_nil, Dialogue.again_of_ne exchange_asks.ne_done]⟩
  known _ :=
    ⟨by simp [standing, Standing.start, WireState.start], nofun, nofun, nofun, fun _ => rfl⟩

/-- A call begins with nothing found and nothing said. -/
lemma Inv.call {i : δ ⊕ τ} (h : Inv L X tr s) (hidle : calling i tr = none) :
    Inv L X (.call i c :: tr) s := by
  refine h.of_quiet rfl rfl rfl fun k => ?_
  have hk := h.known k
  by_cases hki : i = .inr k
  · subst hki
    have hstart : standing k (.call (.inr k) c :: tr : WireTrace δ τ) = .start := if_pos rfl
    refine ⟨fun x => ?_, ?_, ?_, ?_, fun _ => ?_⟩
    · rw [hstart, ← hk.holder, hk.outside hidle]
      simp [Standing.start]
    all_goals
      rw [hstart]
      simp [Standing.start]
  · have hne : calling (.inr k) (.call i c :: tr : WireTrace δ τ) = calling (.inr k) tr :=
      if_neg hki
    refine hk.of_frame (if_neg hki) (if_neg hki) (if_neg hki) rfl fun hnone => hk.outside ?_
    rwa [hne] at hnone

/-- A call returns outside of transactions. -/
lemma Inv.ret {i : δ ⊕ τ} {a : Option HdcpStatus} (h : Inv L X tr s)
    (houtside : ∀ k, i = .inr k → (standing k tr).current = none) :
    Inv L X (.ret i c a :: tr) s := by
  refine h.of_quiet rfl rfl rfl fun k => ?_
  refine (h.known k).of_frame rfl rfl rfl rfl fun hnone => ?_
  by_cases hki : i = .inr k
  · exact houtside k hki
  · have hne : calling (.inr k) (.ret i c a :: tr) = calling (.inr k) tr := if_neg hki
    exact (h.known k).outside (by rwa [hne] at hnone)

/-- The other threads stay where they are. -/
lemma watch_alone {i : δ ⊕ τ} (hothers : ∀ k, i ≠ .inr k → standing k (l :: tr) = standing k tr) :
    (watch L X : Watch wireSig (δ ⊕ τ) WireCall (Option HdcpStatus)).Alone i l tr := by
  intro j hj
  cases j with
  | inl j => rfl
  | inr k => exact hothers k (Ne.symm hj)

/-- A call keeps to the monitor of its thread. -/
lemma watch_body {i : δ ⊕ τ} (hmay : wireMay i c = true) :
    ((watch L X).monitor i).Sat ((watch L X).post i c) (wireBody L c)
      ((watch L X).pos i (.call i c :: tr : WireTrace δ τ)) := by
  cases i with
  | inl i =>
      have huses := Prog.uses_all (A := fun _ => True) (fun _ => trivial) (wireBody L c)
      exact Monitor.sat_of_keeps huses (fun _ _ _ _ => ⟨trivial, fun _ _ _ => trivial⟩) trivial
  | inr i =>
      cases c with
      | peer o => exact absurd hmay (by simp [wireMay])
      | sdk handle c =>
          have hstart : standing i (.call (.inr i) (.sdk handle c) :: tr : WireTrace δ τ) =
              .start := if_pos rfl
          show (Monitor.inr _).Sat _ (Prog.inr _) (standing i _)
          rw [hstart]
          exact Monitor.Sat.inr ((sat_request handle c).bind fun status q h => ⟨status, rfl, h⟩)

/-- The invariant holds in the runs in which the connections `X` are orderly, and every thread
keeps to its monitor. -/
lemma inv_of_run {cfg : WireConfig δ τ}
    (hrun : (wireSystem L).Run (fun tr _ l => ∀ x ∈ X, Orderly L x l tr) .start tr cfg) :
    Inv L X tr cfg.shared ∧ ∀ i c p, cfg.threads i = some (c, p) →
      ((watch L X).monitor i).Sat ((watch L X).post i c) p ((watch L X).pos i tr) := by
  refine (watch L X).sound inv_start ?_ ?_ ?_ hrun
  · intro i c tr s hmay hidle h _
    exact ⟨h.call hidle, watch_alone fun k hk => if_neg hk, watch_body hmay⟩
  · rintro (i | i) c o r tr s s' hcalling h hmay hstep horderly
    · cases o with
      | inr o => exact absurd hstep (by simp [wireSystem, wireStep])
      | inl o =>
          refine ⟨?_, watch_alone fun _ _ => rfl, trivial⟩
          cases o with
          | hear x n => exact h.hear hstep
          | say x data => exact h.say hstep fun hx => (horderly x hx).1 rfl
    · cases o with
      | inl o => exact absurd hstep (by simp [wireSystem, wireStep])
      | inr o =>
          have halone : (watch L X).Alone (.inr i)
              (.op (.inr i) c ⟨.inr o, r⟩ : WireLabel δ τ) tr :=
            watch_alone fun k hk => if_neg fun hik => hk (congrArg Sum.inr hik)
          suffices hgoal : Inv L X (.op (.inr i) c ⟨.inr o, r⟩ :: tr) s' ∧
              Expected L X (standing i tr) ⟨o, r⟩ from
            ⟨hgoal.1, halone, hgoal.2, standing_op (c := c)⟩
          cases o with
          | getInstance handle =>
              obtain rfl := Option.some.inj hstep
              exact ⟨h.sdkQuiet hcalling rfl rfl rfl rfl, trivial⟩
          | putInstance handle =>
              obtain rfl := Option.some.inj hstep
              exact ⟨h.sdkQuiet hcalling rfl rfl rfl rfl, trivial⟩
          | socketBegin x =>
              obtain ⟨hfree, heq⟩ := Option.ite_none_right_eq_some.1 hstep
              obtain rfl := Option.some.inj heq
              have hfree' : s.socketMutex x = none := Option.isNone_iff_eq_none.1 hfree
              exact ⟨h.sdkBegin hcalling hmay hfree' fun hx => (horderly x hx).2 rfl, trivial⟩
          | socketEnd x =>
              obtain rfl := Option.some.inj hstep
              obtain ⟨t, hcurrent⟩ := hmay
              exact ⟨h.sdkEnd hcalling hcurrent, trivial⟩
          | read x n =>
              obtain ⟨-, t, hcurrent⟩ := hmay
              exact h.sdkRead hcalling hcurrent hstep
          | send x data =>
              obtain ⟨-, t, hcurrent, hok⟩ := hmay
              exact h.sdkSend hcalling hcurrent hok hstep
  · intro i c a tr s hmay hcalling h hpost _
    refine ⟨h.ret ?_, watch_alone fun _ _ => rfl⟩
    rintro k rfl
    cases c with
    | peer o => exact absurd hmay (by simp [wireSystem, wireMay])
    | sdk handle c =>
        obtain ⟨status, -, hreturned⟩ := hpost
        exact hreturned.outside

/-- A call that keeps the protection is truthful. -/
lemma truthful_of_keeps (L : Layout) {c : Request} (hkeeps : dropsProtection c = false) :
    Truthful L c := by
  intro δ τ _ _ tr cfg hrun
  refine hrun.everyStep fun {tr cfg l cfg'} hrun _ hl => ?_
  cases hl with
  | call _ _ => trivial
  | op _ _ => trivial
  | @ret i c' a hi =>
      rcases i with i | i
      · trivial
      cases c' with
      | peer o => trivial
      | sdk handle c' =>
          cases a with
          | none => trivial
          | some ret =>
              rintro rfl hret
              -- the connections that have been orderly up to here
              let X : Set ℕ := {x | EveryStep (Orderly L x) tr}
              have horderly : EveryStep (fun l tr => ∀ x ∈ X, Orderly L x l tr) tr :=
                everyStep_forall fun x hx => hx
              obtain ⟨hinv, hthreads⟩ := inv_of_run (hrun.of_everyStep horderly)
              obtain ⟨status, heq, hreturned⟩ := hthreads _ _ _ hi
              obtain rfl := Option.some.inj heq
              obtain ⟨x, hfound, hconfirmed⟩ := hreturned.success hkeeps hret
              have hknown := hinv.known i
              refine ⟨x, hknown.found handle x hfound, fun hx => ?_⟩
              obtain ⟨t, rsp, hlast, hreceived, hstatus⟩ := hconfirmed hx
              obtain ⟨tr', hlastTransaction, hsdk, hdaemon⟩ := hknown.last x t hlast
              refine ⟨tr', hlastTransaction, ?_, rsp, ?_, hstatus⟩
              · rw [hsdk, hdaemon hx (hreceived.walk hstatus)]
              · rw [hsdk]
                exact hreceived

end

/-! ### `HDCP_LEVEL0` -/

section Level0

variable {L : Layout} {x : ℕ} {req : SocketData} {portId : UInt32}

/-- The session is found, and the request cannot be sent. -/
def sendFails (L : Layout) (portId : UInt32) : List (Event sessionSig) :=
  [⟨.getInstance 1, some (4 : ℕ)⟩, ⟨.socketBegin 4, ()⟩,
    ⟨.send 4 (L.encode (levelRequest L portId hdcpLevel0)), (.error .eio : Except Errno ℕ)⟩,
    ⟨.socketEnd 4, ()⟩, ⟨.putInstance 1, ()⟩]

lemma sendMessage_fails (e : Errno) :
    (sendMessage L x req).Runs [⟨.send x (L.encode req), (.error e : Except Errno ℕ)⟩] e := by
  obtain ⟨n, hn⟩ := Nat.exists_eq_succ_of_ne_zero (layout_size_pos L).ne'
  rw [sendMessage, writeData, L.length_encode, hn, writeLoop, if_neg]
  · exact runs_bind.2 ⟨.error e, _, [], runs_op.2 rfl, .ret e, rfl⟩
  · intro hempty
    have hsize := congrArg List.length (List.isEmpty_iff.1 hempty)
    rw [L.length_encode, hn] at hsize
    exact absurd hsize (by simp)

lemma performMessageTransaction_fails {e : Errno} (he : e ≠ .success) :
    (performMessageTransaction L x req).Runs
      [⟨.send x (L.encode req), (.error e : Except Errno ℕ)⟩]
      (HdcpStatus.errorMsgTransaction, req) := by
  refine runs_bind.2 ⟨e, _, [], sendMessage_fails e, ?_, rfl⟩
  rw [if_pos he]
  exact .ret _

/-- The call is successful all the same. -/
lemma runs_sendFails (hport : portId.toNat ≤ numPhysicalPortsMax) :
    ((Request.setProtectionLevel portId hdcpLevel0).body L 1).Runs (sendFails L portId)
      HdcpStatus.successful := by
  have hlocked : (lockedTransaction L 4 (levelRequest L portId hdcpLevel0)).Runs
      [⟨.socketBegin 4, ()⟩,
        ⟨.send 4 (L.encode (levelRequest L portId hdcpLevel0)), (.error .eio : Except Errno ℕ)⟩,
        ⟨.socketEnd 4, ()⟩]
      (HdcpStatus.errorMsgTransaction, levelRequest L portId hdcpLevel0) := by
    have hfails : (performMessageTransaction L 4 (levelRequest L portId hdcpLevel0)).Runs _
        (HdcpStatus.errorMsgTransaction, levelRequest L portId hdcpLevel0) :=
      performMessageTransaction_fails (e := .eio) (by decide)
    exact runs_bind.2 ⟨(), [_], _, runs_op.2 rfl, runs_bind.2 ⟨_, _, _, hfails,
      runs_bind.2 ⟨(), [_], [], runs_op.2 rfl, .ret _, rfl⟩, rfl⟩, rfl⟩
  have hlevel : (Session.setProtectionLevel L 4 portId hdcpLevel0).Runs _
      HdcpStatus.successful :=
    runs_bind.2 ⟨_, _, [], hlocked, runs_ite.2 (.inr ⟨fun hand => hand.2 rfl, .ret _⟩), rfl⟩
  refine runs_ite.2 (.inr ⟨Nat.not_lt.2 hport, ?_⟩)
  exact runs_bind.2 ⟨some 4, [_], _, runs_op.2 rfl, runs_bind.2 ⟨_, _, _, hlevel,
    runs_bind.2 ⟨(), [_], [], runs_op.2 rfl, .ret _, rfl⟩, rfl⟩, rfl⟩

/-- A reply is not received when nothing is said. -/
lemma not_received_nil {rsp : SocketData} : ¬Received L req [] rsp := by
  have hne : asks (L.encode req) ≠ [] := by
    rw [← List.length_pos_iff]
    simpa [asks] using layout_size_pos L
  generalize ht : ([] : Talk UInt8) = t
  rintro (⟨rsp, -, -⟩ | ⟨rsp, ksvs, -, -, -⟩ | ⟨first, bytes, last, -, -, -⟩)
  all_goals simp [hne] at ht

/-- The history of the call. -/
def sendFailsTrace (L : Layout) (portId : UInt32) : WireTrace Unit Unit :=
  let c : WireCall := .sdk 1 (.setProtectionLevel portId hdcpLevel0)
  ((sendFails L portId).map fun e => .op (.inr ()) c ⟨.inr e.op, e.ans⟩).reverse ++
    [.call (.inr ()) c]

lemma exists_run_sendFails (hport : portId.toNat ≤ numPhysicalPortsMax) :
    ∃ cfg, (wireSystem L).AnyRun .start
      (.ret (.inr ()) (.sdk 1 (.setProtectionLevel portId hdcpLevel0))
        (some HdcpStatus.successful) :: sendFailsTrace L portId) cfg := by
  let c : WireCall := .sdk 1 (.setProtectionLevel portId hdcpLevel0)
  have hbody : (wireBody L c).Runs _ (some HdcpStatus.successful) :=
    (runs_bind.2 ⟨_, _, [], runs_sendFails hport, .ret _, rfl⟩ :
      Prog.Runs (Request.body L 1 _ >>= fun status => pure (some status)) _ _).inr
  let cfg : WireConfig Unit Unit := ⟨.start, fun _ => none⟩
  have hcall : (wireSystem L).Step cfg (.call (.inr ()) c) _ := .call rfl rfl
  refine (System.Run.step .start trivial hcall).of_goes (Function.update_self _ _ _) hbody ?_
  exact ⟨trivial, _, rfl, trivial, _, rfl, trivial, _, rfl, trivial, _, rfl, trivial, _, rfl,
    trivial⟩

/-- The connection of the session is orderly. -/
lemma orderly_sendFails (L : Layout) (portId : UInt32) (x : ℕ) :
    EveryStep (Orderly L x) (sendFailsTrace L portId) := by
  exact ⟨⟨trivial, trivial⟩, ⟨trivial, trivial⟩, ⟨trivial, trivial⟩, ⟨trivial, fun _ => .inl rfl⟩,
    ⟨trivial, trivial⟩, ⟨trivial, trivial⟩, trivial⟩

lemma not_confirmed_sendFails {c : Request} :
    ¬Confirmed L () x c (sendFailsTrace L portId) := by
  rintro ⟨tr', hlast, -, rsp, hreceived, -⟩
  have hsession : lastTransaction () (sendFailsTrace L portId) =
      some (4, (sendFailsTrace L portId).drop 2) := rfl
  obtain ⟨rfl, rfl⟩ := Prod.mk.inj (Option.some.inj (hsession.symm.trans hlast))
  have hnothing : sdkTalk 4 ((sendFailsTrace L portId).drop 2) = [] := rfl
  rw [hnothing] at hreceived
  exact not_received_nil hreceived

/-- On orderly connections, a call is truthful exactly when it does not ask for `HDCP_LEVEL0` on
an accepted port. -/
theorem truthful_iff (L : Layout) (c : Request) : Truthful L c ↔ dropsProtection c = false := by
  constructor
  · intro h
    cases c with
    | setProtectionLevel portId level =>
        by_contra hdrops
        obtain ⟨hport, rfl⟩ : portId.toNat ≤ numPhysicalPortsMax ∧ level = hdcpLevel0 := by
          simpa [dropsProtection] using hdrops
        obtain ⟨cfg, hrun⟩ := exists_run_sendFails (L := L) hport
        obtain ⟨x, -, hconfirmed⟩ := (h Unit Unit _ cfg hrun).1 rfl rfl
        exact not_confirmed_sendFails (hconfirmed (orderly_sendFails L portId x))
    | _ => rfl
  · exact truthful_of_keeps L

end Level0

/-! ### The reply to an earlier request -/

/-- `read` fails with `EIO` as long as nothing is there. -/
def wireAnswer : (o : wireSig.Op) → WireState ℕ → wireSig.Ans o
  | .inl (.hear x n), s => (s.toDaemon x).take n
  | .inl (.say _ _), _ => ()
  | .inr (.getInstance _), _ => some 4
  | .inr (.read x n), s => if (s.toSdk x).isEmpty then .error .eio else .ok ((s.toSdk x).take n)
  | .inr (.send _ data), _ => .ok data.length
  | .inr (.putInstance _), _ | .inr (.socketBegin _), _ | .inr (.socketEnd _), _ => ()

abbrev WireAction : Type := System.Action wireSig (ℕ ⊕ ℕ) WireCall (WireState ℕ)

/-- A call of the application. -/
def wireCall (c : Request) (n : ℕ) : List WireAction :=
  .call (.inr 0) (.sdk 7 c) :: List.replicate n (.op (.inr 0) wireAnswer)

/-- The daemon hears a request, and replies with zeros: the request was successful. -/
def wireReply : List WireAction :=
  System.completeCall (.inl 0) (.peer (.hear 4 100)) 1 wireAnswer ++
    System.completeCall (.inl 0) (.peer (.say 4 (List.replicate 100 0))) 1 wireAnswer

/-- The reply comes in time. -/
def replyInTime : List WireAction :=
  wireCall (.getStatus 1 true) 3 ++ wireReply ++ List.replicate 3 (.op (.inr 0) wireAnswer) ++
    [.ret (.inr 0)]

/-- The first call does not wait for the reply, and the second one finds it. -/
def replyTooLate : List WireAction :=
  wireCall (.getStatus 1 true) 6 ++ [.ret (.inr 0)] ++ wireReply ++
    wireCall (.setProtectionLevel 1 hdcpLevel1) 6 ++ [.ret (.inr 0)]

def asksForLevel1 : Request → Bool
  | .setProtectionLevel portId level => portId = 1 ∧ level = hdcpLevel1
  | _ => false

lemma eq_of_asksForLevel1 {c : Request} (h : asksForLevel1 c = true) :
    c = .setProtectionLevel 1 hdcpLevel1 := by
  cases c with
  | setProtectionLevel portId level =>
      obtain ⟨rfl, rfl⟩ := of_decide_eq_true h
      rfl
  | _ => exact absurd h (by simp [asksForLevel1])

def goesOn : Dialogue UInt8 → Bool
  | .never => false
  | _ => true

/-- The daemon speaks in turn, as it is decided here. -/
def inTurnCheck : WireTrace ℕ ℕ → WireState ℕ → WireLabel ℕ ℕ → Bool
  | tr, _, .op _ _ ⟨.inl (.say x data), _⟩ =>
    goesOn ((daemonAt socketDataLayout x tr).walk (replies data))
  | _, _, _ => true

def wireScheduled (as : List WireAction) : Option (WireTrace ℕ ℕ × WireConfig ℕ ℕ) :=
  (wireSystem socketDataLayout).schedule wireMay inTurnCheck as [] ⟨.start, fun _ => none⟩

/-- The last call, which is the one for `HDCP_LEVEL1` or not, has returned success, and the daemon
has said and heard the same in its transaction or not. -/
def endsInSuccess (level1 same : Bool) : WireTrace ℕ ℕ × WireConfig ℕ ℕ → Bool
  | (.ret (.inr 0) (.sdk 7 c) (some ret) :: tr, _) =>
    ret = HdcpStatus.successful && asksForLevel1 c == level1 &&
      (lastTransaction 0 tr).any fun p => (daemonTalk p.1 p.2 = sdkTalk p.1 p.2) == same
  | _ => false

example : (wireScheduled replyInTime).any (endsInSuccess false true) = true := by
  decide +kernel

lemma inTurn_of_check (tr : WireTrace ℕ ℕ) (s : WireState ℕ) (l : WireLabel ℕ ℕ)
    (h : inTurnCheck tr s l) (x : ℕ) : InTurn socketDataLayout x l tr := by
  rw [InTurn.eq_def]
  split
  case h_1 y data r tr =>
    rintro rfl hnever
    rw [inTurnCheck, hnever] at h
    exact absurd h (by decide)
  case h_2 => trivial

lemma exists_run_of_wireScheduled (as : List WireAction)
    (test : WireTrace ℕ ℕ × WireConfig ℕ ℕ → Bool) (h : (wireScheduled as).any test = true) :
    ∃ tr cfg, (wireSystem socketDataLayout).Run (fun tr _ l => ∀ x, InTurn socketDataLayout x l tr)
      .start tr cfg ∧ test (tr, cfg) = true := by
  obtain ⟨x, -, hrun, htest⟩ := System.exists_run_of_schedule (M := wireSystem socketDataLayout)
    (fun _ _ hc => hc) inTurn_of_check h
  exact ⟨x.1, x.2, hrun, htest⟩

lemma not_confirms_of_late {tr : WireTrace ℕ ℕ} {cfg : WireConfig ℕ ℕ}
    (h : endsInSuccess true false (tr, cfg) = true) :
    ¬EveryStep (Confirms socketDataLayout (fun _ _ _ => True) (.setProtectionLevel 1 hdcpLevel1))
      tr := by
  intro hevery
  rw [endsInSuccess.eq_def] at h
  split at h
  case h_2 => exact absurd h (by simp)
  case h_1 c ret tr cfg heq =>
    obtain ⟨rfl, rfl⟩ := Prod.mk.inj heq
    simp only [Bool.and_eq_true, decide_eq_true_eq, beq_iff_eq] at h
    obtain ⟨⟨hret, hlevel⟩, hdiffer⟩ := h
    obtain ⟨x, -, hconfirmed⟩ := hevery.1 (eq_of_asksForLevel1 hlevel) hret
    obtain ⟨tr', hlast, hsame, -⟩ := hconfirmed (everyStep_true tr)
    rw [hlast] at hdiffer
    simp [hsame] at hdiffer

lemma level0_port : (1 : UInt32).toNat ≤ numPhysicalPortsMax := by decide

/-- Not all calls are confirmed: the first port is to be released, and the daemon never learns of
it, on a connection that is orderly; the protection of the first port is to be enabled, and the
daemon has replied to an earlier request. -/
theorem not_always_confirmed :
    (∃ (tr : WireTrace Unit Unit) (cfg : WireConfig Unit Unit),
      (wireSystem socketDataLayout).Run (fun tr _ l => ∀ x, Orderly socketDataLayout x l tr)
        .start tr cfg ∧
      ¬EveryStep (Confirms socketDataLayout (fun _ _ _ => True)
        (.setProtectionLevel 1 hdcpLevel0)) tr) ∧
    ∃ (tr : WireTrace ℕ ℕ) (cfg : WireConfig ℕ ℕ),
      (wireSystem socketDataLayout).Run (fun tr _ l => ∀ x, InTurn socketDataLayout x l tr)
        .start tr cfg ∧
      ¬EveryStep (Confirms socketDataLayout (fun _ _ _ => True)
        (.setProtectionLevel 1 hdcpLevel1)) tr := by
  constructor
  · obtain ⟨cfg, hrun⟩ := exists_run_sendFails (L := socketDataLayout) level0_port
    refine ⟨_, cfg, hrun.of_everyStep ⟨fun _ => ⟨trivial, trivial⟩, ?_⟩, fun hevery => ?_⟩
    · simpa using everyStep_forall (X := Set.univ) fun x _ => orderly_sendFails socketDataLayout 1 x
    · obtain ⟨x, -, hconfirmed⟩ := hevery.1 rfl rfl
      exact not_confirmed_sendFails (hconfirmed (everyStep_true _))
  · obtain ⟨tr, cfg, hrun, htest⟩ := exists_run_of_wireScheduled replyTooLate
      (endsInSuccess true false) (by decide +kernel)
    exact ⟨tr, cfg, hrun, not_confirms_of_late htest⟩

end Hdcp.Confirmation
