/-
The SDK and the daemon in lock step.

Here the daemon runs together with the applications.  The threads `δ` are those of the daemon,
and `main` serves the requests; the threads `τ` are those of the applications, which call the
entry points of the SDK on any handles.  The sessions are the set `X`: a session is named by
the descriptor that the daemon has for its connection.  On such a connection two streams of
bytes are under way; a `read` takes any part of what is there, and a `send` adds any part of
what it is given.  The daemon serves other clients as well, of which nothing is assumed.

`lock_step` is about all runs in which no socket of a session fails.  What the SDK says and
hears in a transaction is what the daemon hears and says, byte by byte and in the same order;
it is a whole transaction; and nothing is left on the connection for the next one.
-/
import Hdcp.Daemon.Lifecycle
import Hdcp.Daemon.Transaction
import Hdcp.Sdk.Transaction

namespace Hdcp.LockStep

open Library Socket Daemon Session Transaction

variable {δ τ : Type}

/-! ### The system -/

/-- The state of the daemon, the mutexes of the sockets of sessions, and the bytes that are
under way. -/
structure PairState (δ τ : Type) where
  daemon : DaemonState δ
  socketMutex : ℕ → Option τ
  toDaemon : ℕ → List UInt8
  toSdk : ℕ → List UInt8

namespace PairState

def setDaemon (s : PairState δ τ) (d : DaemonState δ) : PairState δ τ := { s with daemon := d }

def setMutex (s : PairState δ τ) (x : ℕ) (i : Option τ) : PairState δ τ :=
  { s with socketMutex := Function.update s.socketMutex x i }

def setToDaemon (s : PairState δ τ) (x : ℕ) (bytes : List UInt8) : PairState δ τ :=
  { s with toDaemon := Function.update s.toDaemon x bytes }

def setToSdk (s : PairState δ τ) (x : ℕ) (bytes : List UInt8) : PairState δ τ :=
  { s with toSdk := Function.update s.toSdk x bytes }

end PairState

/-- What is left of a stream after a `read`. -/
def takeFrom (stream : List UInt8) (r : Except Errno (List UInt8)) : Option (List UInt8) :=
  if readBytes r <+: stream then some (stream.drop (readBytes r).length) else none

/-- What an interaction of the daemon does to the connections of sessions. -/
def daemonWire (X : Finset ℕ) (s : PairState δ τ) : (o : DaemonOp) → o.Ans →
    Option (PairState δ τ)
  | .read x _, r =>
    if x ∈ X then (takeFrom (s.toDaemon x) r).map (s.setToDaemon x) else some s
  | .send x data, r =>
    some (if x ∈ X then s.setToSdk x (s.toSdk x ++ sentBytes data r) else s)
  | _, _ => some s

/-- One interaction of a thread of the daemon. -/
def daemonStep (m : HdcpDaemon) (X : Finset ℕ) (i : δ) (o : DaemonOp) (r : o.Ans)
    (s : PairState δ τ) : Option (PairState δ τ) :=
  match m.step i o r s.daemon with
  | some d => daemonWire X (s.setDaemon d) o r
  | none => none

/-- One interaction of a thread of an application. -/
def sessionStep (X : Finset ℕ) (i : τ) : (o : SessionOp) → o.Ans → PairState δ τ →
    Option (PairState δ τ)
  | .getInstance _, r, s => if Option.all (· ∈ X) r then some s else none
  | .putInstance _, _, s => some s
  | .socketBegin x, _, s =>
    if (s.socketMutex x).isNone then some (s.setMutex x (some i)) else none
  | .socketEnd x, _, s => some (s.setMutex x none)
  | .read x n, r, s =>
    if readAnswer n r then (takeFrom (s.toSdk x) r).map (s.setToSdk x) else none
  | .send x data, r, s =>
    if sendAnswer data.length r then
      some (s.setToDaemon x (s.toDaemon x ++ sentBytes data r))
    else none

abbrev pairSig : Sig := daemonSig.sum sessionSig

/-- The calls of the daemon, and those of the applications on a handle. -/
inductive PairCall where
  | daemon (c : DaemonCall)
  | sdk (handle : ℕ) (c : Request)

/-- The value of a call of the SDK is its status. -/
def pairBody (m : HdcpDaemon) : PairCall → Prog pairSig (Option HdcpStatus)
  | .daemon c => (m.callBody c >>= fun _ => pure none).inl
  | .sdk handle c => (c.body m.layout handle >>= fun status => pure (some status)).inr

def pairMay [DecidableEq δ] (main : δ) : δ ⊕ τ → PairCall → Bool
  | .inl i, .daemon c => daemonMay main i c
  | .inr _, .sdk _ _ => true
  | _, _ => false

def pairStep (m : HdcpDaemon) (X : Finset ℕ) :
    δ ⊕ τ → (o : pairSig.Op) → pairSig.Ans o → PairState δ τ → Option (PairState δ τ)
  | .inl i, .inl o, r, s => daemonStep m X i o r s
  | .inr i, .inr o, r, s => sessionStep X i o r s
  | _, _, _, _ => none

/-- The daemon and the applications. -/
def pairSystem [DecidableEq δ] (m : HdcpDaemon) (main : δ) (X : Finset ℕ) :
    System pairSig (δ ⊕ τ) PairCall (Option HdcpStatus) (PairState δ τ) where
  body := pairBody m
  may i c := pairMay main i c = true
  step := pairStep m X

abbrev PairLabel (δ τ : Type) : Type := Label pairSig (δ ⊕ τ) PairCall (Option HdcpStatus)

abbrev PairTrace (δ τ : Type) : Type := Trace pairSig (δ ⊕ τ) PairCall (Option HdcpStatus)

abbrev PairConfig (δ τ : Type) : Type :=
  Config pairSig (δ ⊕ τ) PairCall (Option HdcpStatus) (PairState δ τ)

/-- The sessions are connected, and no transaction has begun. -/
structure Established (m : HdcpDaemon) (X : Finset ℕ) (s : PairState δ τ) : Prop where
  opened : ∀ x ∈ X, s.daemon.opened x = true
  listener : m.fd ∉ X
  unlisted : NotListed X s.daemon.callBackList
  mutex : ∀ x, s.socketMutex x = none
  toDaemon : ∀ x ∈ X, s.toDaemon x = []
  toSdk : ∀ x ∈ X, s.toSdk x = []

/-! ### What the parties say and hear -/

/-- What a step does on the connections of sessions. -/
inductive Act where
  | quiet
  | begin (x : ℕ)
  | sdk (x : ℕ) (t : Talk UInt8)
  | daemon (x : ℕ) (t : Talk UInt8)

def daemonAct (X : Finset ℕ) : (o : DaemonOp) → o.Ans → Act
  | .read x _, r => if x ∈ X then .daemon x (asks (readBytes r)) else .quiet
  | .send x data, r => if x ∈ X then .daemon x (replies (sentBytes data r)) else .quiet
  | _, _ => .quiet

def sessionAct : (o : SessionOp) → o.Ans → Act
  | .socketBegin x, _ => .begin x
  | .read x _, r => .sdk x (replies (readBytes r))
  | .send x data, r => .sdk x (asks (sentBytes data r))
  | _, _ => .quiet

def actOf (X : Finset ℕ) : PairLabel δ τ → Act
  | .op _ _ ⟨.inl o, r⟩ => daemonAct X o r
  | .op _ _ ⟨.inr o, r⟩ => sessionAct o r
  | _ => .quiet

/-- What the SDK has said and heard on a connection, after a step. -/
def Act.onSdk (x : ℕ) (t : Talk UInt8) : Act → Talk UInt8
  | .begin y => if y = x then [] else t
  | .sdk y u => if y = x then t ++ u else t
  | _ => t

/-- What the daemon has said and heard on a connection, after a step. -/
def Act.onDaemon (x : ℕ) (t : Talk UInt8) : Act → Talk UInt8
  | .begin y => if y = x then [] else t
  | .daemon y u => if y = x then t ++ u else t
  | _ => t

/-- What the SDK has said and heard on the connection `x` since the last transaction began:
the bytes that it has written, as `asks`, and those that it has read, as `replies`. -/
def sdkTalk (X : Finset ℕ) (x : ℕ) : PairTrace δ τ → Talk UInt8
  | [] => []
  | l :: tr => (actOf X l).onSdk x (sdkTalk X x tr)

/-- What the daemon has said and heard since then: the bytes that it has read, as `asks`, and
those that it has written, as `replies`. -/
def daemonTalk (X : Finset ℕ) (x : ℕ) : PairTrace δ τ → Talk UInt8
  | [] => []
  | l :: tr => (actOf X l).onDaemon x (daemonTalk X x tr)

/-! ### The property -/

/-- No socket of a session fails: a `read` gets a byte, and a `send` sends one. -/
def socketsWork (X : Finset ℕ) : PairTrace δ τ → PairState δ τ → PairLabel δ τ → Prop
  | _, _, .op _ _ ⟨.inl (.read x _), r⟩ => x ∈ X → readBytes r ≠ []
  | _, _, .op _ _ ⟨.inl (.send x _), r⟩ => x ∈ X → Except.isOk r
  | _, _, .op _ _ ⟨.inr (.read _ _), r⟩ => readBytes r ≠ []
  | _, _, .op _ _ ⟨.inr (.send _ _), r⟩ => Except.isOk r
  | _, _, _ => True

/-- When a transaction ends, both sides have said and heard the same, and it was a whole
transaction; when a round of the message loop ends, the daemon has said nothing or has
answered to the end. -/
def EndsInStep (L : Layout) (X : Finset ℕ) : PairLabel δ τ → PairTrace δ τ → Prop
  | .op _ _ ⟨.inr (.socketEnd x), _⟩, tr =>
    daemonTalk X x tr = sdkTalk X x tr ∧ (transaction L).walk (sdkTalk X x tr) = .done
  | .ret _ (.daemon (.messageResponse _)) _, tr => ∀ x ∈ X,
    daemonTalk X x tr = [] ∨ (transaction L).walk (daemonTalk X x tr) = .done
  | _, _ => True

/-- The SDK and the daemon are in lock step. -/
structure InLockStep (L : Layout) (X : Finset ℕ) (tr : PairTrace δ τ) (cfg : PairConfig δ τ) :
    Prop where
  /-- Every transaction ended in step. -/
  ends : EveryStep (EndsInStep L X) tr
  /-- Nothing is left over. -/
  nothing_left : ∀ x ∈ X, cfg.shared.socketMutex x = none →
    cfg.shared.toDaemon x = [] ∧ cfg.shared.toSdk x = []
  /-- When the SDK waits for bytes and none are under way, the daemon is to write. -/
  sdk_waits : ∀ i c x n k, cfg.threads (.inr i) = some (c, .call (.inr (.read x n)) k) →
    cfg.shared.toDaemon x = [] → cfg.shared.toSdk x = [] →
      ((transaction L).walk (daemonTalk X x tr)).Replies
  /-- When the daemon waits for bytes and none are under way, the SDK is to write, or the
  transaction is over. -/
  daemon_waits : ∀ i c x n k, x ∈ X →
    cfg.threads (.inl i) = some (c, .call (.inl (.read x n)) k) →
    cfg.shared.toDaemon x = [] → cfg.shared.toSdk x = [] →
      ((transaction L).walk (sdkTalk X x tr)).Asks ∨
        (transaction L).walk (sdkTalk X x tr) = .done

/-! ### Where the threads are -/

/-- Which mutex the thread has after an interaction that acquires or releases one. -/
def sessionLock : SessionOp → Option (Option ℕ)
  | .socketBegin x => some (some x)
  | .socketEnd _ => some none
  | _ => none

/-- The session in whose transaction a thread of an application is. -/
def inSession [DecidableEq τ] (i : τ) : PairTrace δ τ → Option ℕ
  | [] => none
  | .op (.inr j) _ ⟨.inr o, _⟩ :: tr =>
    if j = i then (sessionLock o).getD (inSession i tr) else inSession i tr
  | _ :: tr => inSession i tr

def serverPos (L : Layout) (X : Finset ℕ) (tr : PairTrace δ τ) : ServerPos := fun x =>
  (transaction L).again ((transaction L).walk (daemonTalk X x tr))

def clientPos [DecidableEq τ] (L : Layout) (X : Finset ℕ) (i : τ) (tr : PairTrace δ τ) :
    ClientPos :=
  (inSession i tr).map fun x => (x, (transaction L).walk (sdkTalk X x tr))

abbrev PairPos : δ ⊕ τ → Type
  | .inl _ => ServerPos
  | .inr _ => ClientPos

/-- The monitors of the threads. -/
def watch [DecidableEq δ] [DecidableEq τ] (m : HdcpDaemon) (main : δ) (X : Finset ℕ) :
    Watch pairSig (δ ⊕ τ) PairCall (Option HdcpStatus) where
  Pos := PairPos
  monitor
    | .inl i => Monitor.inl (if i = main then serverMonitor m.layout X else bystander X)
    | .inr _ => (clientMonitor m.layout X).inr
  pos
    | .inl i, tr => if i = main then serverPos m.layout X tr else idle m.layout
    | .inr i, tr => clientPos m.layout X i tr
  post
    | .inl _, _, _, q => q = idle m.layout
    | .inr _, _, _, q => q = none

/-- What the daemon knows about other connections. -/
structure Apart (X : Finset ℕ) (d : DaemonState δ) : Prop where
  opened : ∀ x ∈ X, d.opened x = true
  unlisted : NotListed X d.callBackList

/-- The connection of a session, with the talks of both sides. -/
def linkOf (X : Finset ℕ) (x : ℕ) (tr : PairTrace δ τ) (s : PairState δ τ) : Link UInt8 :=
  ⟨sdkTalk X x tr, daemonTalk X x tr, s.toDaemon x, s.toSdk x⟩

/-- The invariant of all runs. -/
structure Inv [DecidableEq δ] [DecidableEq τ] (m : HdcpDaemon) (main : δ) (X : Finset ℕ)
    (tr : PairTrace δ τ) (s : PairState δ τ) : Prop where
  link : ∀ x ∈ X, (linkOf X x tr s).InStep (transaction m.layout)
  free : ∀ x ∈ X, s.socketMutex x = none →
    s.toDaemon x = [] ∧ s.toSdk x = [] ∧ serverPos m.layout X tr x = transaction m.layout
  holder : ∀ i x, inSession i tr = some x ↔ s.socketMutex x = some i
  known : ∀ x, s.socketMutex x ≠ none → x ∈ X
  idle : calling (.inl main) tr = none → serverPos m.layout X tr = idle m.layout
  outside : ∀ i : τ, calling (.inr i) tr = none → inSession i tr = none
  apart : Apart X s.daemon
  ends : EveryStep (EndsInStep m.layout X) tr

section Steps

variable [DecidableEq δ] [DecidableEq τ] {m : HdcpDaemon} {main : δ} {X : Finset ℕ} {x : ℕ}
  {L : Layout} {tr : PairTrace δ τ} {s s' : PairState δ τ} {l : PairLabel δ τ} {c : PairCall}

/-! ### Talks and steps -/

omit [DecidableEq δ] [DecidableEq τ] in
lemma talks_of_quiet (tr : PairTrace δ τ) (h : actOf X l = .quiet) (x : ℕ) :
    sdkTalk X x (l :: tr) = sdkTalk X x tr ∧ daemonTalk X x (l :: tr) = daemonTalk X x tr := by
  rw [sdkTalk, daemonTalk, h]
  exact ⟨rfl, rfl⟩

omit [DecidableEq δ] [DecidableEq τ] in
lemma serverPos_congr (h : ∀ x, daemonTalk X x (l :: tr) = daemonTalk X x tr) :
    serverPos L X (l :: tr) = serverPos L X tr := by
  ext x
  rw [serverPos, serverPos, h]

omit [DecidableEq δ] in
lemma clientPos_congr {i : τ} (hsession : inSession i (l :: tr) = inSession i tr)
    (h : ∀ x, inSession i tr = some x → sdkTalk X x (l :: tr) = sdkTalk X x tr) :
    clientPos L X i (l :: tr) = clientPos L X i tr := by
  rw [clientPos, clientPos, hsession]
  cases hi : inSession i tr with
  | none => rfl
  | some x => rw [Option.map_some, Option.map_some, h x hi]

omit [DecidableEq δ] [DecidableEq τ] in
lemma act_of_away {o : DaemonOp} {r : o.Ans} (h : Away X o) : daemonAct X o r = .quiet := by
  cases o with
  | read x n => exact if_neg h
  | send x data => exact if_neg h
  | _ => rfl

omit [DecidableEq δ] [DecidableEq τ] in
lemma wire_of_away {o : DaemonOp} {r : o.Ans} (h : Away X o) (s : PairState δ τ) :
    daemonWire X s o r = some s := by
  cases o with
  | read x n => exact if_neg h
  | send x data => exact congrArg some (if_neg h)
  | _ => rfl

omit [DecidableEq δ] [DecidableEq τ] in
/-- An interaction of the daemon with others leaves the sessions alone. -/
lemma Apart.step {d d' : DaemonState δ} {i : δ} {o : DaemonOp} {r : o.Ans} (h : Apart X d)
    (ho : Away X o) (hstep : m.step i o r d = some d') : Apart X d' ∧ Outside X o r := by
  by_cases hplaces : o.onPlaces = false
  · have hsame := step_places hplaces hstep
    have hapart : Apart X d' := by
      constructor
      · intro x hx
        rw [hsame.opened]
        exact h.opened x hx
      · rw [hsame.list]
        exact h.unlisted
    cases o with
    | accept => exact absurd hplaces (by simp [DaemonOp.onPlaces])
    | getCallBackList =>
        obtain ⟨rfl, -⟩ := DaemonState.answer_eq_some.1 hstep
        exact ⟨hapart, h.unlisted⟩
    | _ => exact ⟨hapart, trivial⟩
  cases o
  case accept =>
    cases (r : Except Errno ℕ) with
    | error e =>
        obtain rfl := Option.some.inj hstep
        exact ⟨h, fun _ hok => absurd hok (by simp)⟩
    | ok fd =>
        obtain ⟨⟨-, hclosed⟩, heq⟩ := Option.ite_none_right_eq_some.1 hstep
        obtain rfl := Option.some.inj heq
        have hfd : fd ∉ X := fun hmem => by
          rw [h.opened fd hmem] at hclosed
          exact absurd hclosed (by simp)
        refine ⟨⟨fun x hx => ?_, h.unlisted⟩, ?_⟩
        · have hne : x ≠ fd := fun heq => hfd (heq ▸ hx)
          rw [DaemonState.setOpened_opened, Function.update_of_ne hne]
          exact h.opened x hx
        · rintro fd' hok
          obtain rfl := Except.ok.inj hok
          exact hfd
  case close fd =>
    obtain rfl := Option.some.inj hstep
    refine ⟨⟨fun x hx => ?_, h.unlisted⟩, trivial⟩
    have hne : x ≠ fd := fun heq => (heq ▸ ho : x ∉ X) hx
    rw [DaemonState.setOpened_opened, Function.update_of_ne hne]
    exact h.opened x hx
  case setSlot =>
    obtain rfl := Option.some.inj hstep
    exact ⟨⟨h.opened, h.unlisted⟩, trivial⟩
  case freeSlot =>
    obtain ⟨-, rfl⟩ := DaemonState.answer_eq_some.1 hstep
    exact ⟨⟨h.opened, h.unlisted⟩, trivial⟩
  case callBackBegin =>
    obtain ⟨-, heq⟩ := Option.ite_none_right_eq_some.1 hstep
    obtain rfl := Option.some.inj heq
    exact ⟨⟨h.opened, h.unlisted⟩, trivial⟩
  case callBackEnd =>
    obtain rfl := Option.some.inj hstep
    exact ⟨⟨h.opened, h.unlisted⟩, trivial⟩
  case removeCallBack fd =>
    obtain rfl := Option.some.inj hstep
    refine ⟨⟨h.opened, fun fd' hmem => ?_⟩, trivial⟩
    exact h.unlisted fd' (List.mem_of_mem_filter hmem)
  case pushBackCallBack fd =>
    obtain rfl := Option.some.inj hstep
    refine ⟨⟨h.opened, fun fd' hmem => ?_⟩, trivial⟩
    rcases List.mem_append.1 hmem with hold | hnew
    · exact h.unlisted fd' hold
    · obtain rfl := List.mem_singleton.1 hnew
      exact ho
  case eraseCallBackAt i =>
    obtain rfl := Option.some.inj hstep
    refine ⟨⟨h.opened, fun fd' hmem => ?_⟩, trivial⟩
    exact h.unlisted fd' (List.mem_of_mem_eraseIdx hmem)
  all_goals exact absurd rfl hplaces

/-- A step that says nothing on a connection and changes nothing between the SDK and the
daemon. -/
lemma Inv.quiet (h : Inv m main X tr s) (hact : actOf X l = .quiet)
    (hsession : ∀ i, inSession i (l :: tr) = inSession i tr)
    (hmain : calling (.inl main) (l :: tr) = none →
      serverPos m.layout X tr = Transaction.idle m.layout)
    (hsdk : ∀ i : τ, calling (.inr i) (l :: tr) = none → inSession i tr = none)
    (hmutex : s'.socketMutex = s.socketMutex) (htoDaemon : s'.toDaemon = s.toDaemon)
    (htoSdk : s'.toSdk = s.toSdk) (hapart : Apart X s'.daemon)
    (hends : EndsInStep m.layout X l tr) : Inv m main X (l :: tr) s' := by
  have htalk (x : ℕ) := talks_of_quiet tr hact x
  have hpos : serverPos m.layout X (l :: tr) = serverPos m.layout X tr :=
    serverPos_congr fun x => (htalk x).2
  constructor
  · intro x hx
    rw [linkOf, (htalk x).1, (htalk x).2, htoDaemon, htoSdk]
    exact h.link x hx
  · intro x hx hfree
    rw [hpos, htoDaemon, htoSdk]
    rw [hmutex] at hfree
    exact h.free x hx hfree
  · intro i x
    rw [hsession, hmutex]
    exact h.holder i x
  · rw [hmutex]
    exact h.known
  · rw [hpos]
    exact hmain
  · intro i hi
    rw [hsession]
    exact hsdk i hi
  · exact hapart
  · exact ⟨hends, h.ends⟩

/-- A step on the connection of one session, in a transaction on it. -/
lemma Inv.move (h : Inv m main X tr s) (hheld : s.socketMutex x ≠ none)
    (hothers : ∀ y, y ≠ x → linkOf X y (l :: tr) s' = linkOf X y tr s)
    (hlink : (linkOf X x (l :: tr) s').InStep (transaction m.layout))
    (hsession : ∀ i, inSession i (l :: tr) = inSession i tr)
    (hcalling : ∀ j, calling j (l :: tr) = calling j tr)
    (hmain : calling (.inl main) tr = none →
      serverPos m.layout X (l :: tr) = serverPos m.layout X tr)
    (hmutex : s'.socketMutex = s.socketMutex) (hapart : Apart X s'.daemon)
    (hends : EndsInStep m.layout X l tr) : Inv m main X (l :: tr) s' := by
  constructor
  · intro y hy
    by_cases hyx : y = x
    · rw [hyx]
      exact hlink
    · rw [hothers y hyx]
      exact h.link y hy
  · intro y hy hfree
    rw [hmutex] at hfree
    have hyx : y ≠ x := by
      rintro rfl
      exact hheld hfree
    have htoDaemon : s'.toDaemon y = s.toDaemon y := congrArg Link.toServer (hothers y hyx)
    have htoSdk : s'.toSdk y = s.toSdk y := congrArg Link.toClient (hothers y hyx)
    have htalk : daemonTalk X y (l :: tr) = daemonTalk X y tr :=
      congrArg Link.server (hothers y hyx)
    rw [htoDaemon, htoSdk, serverPos, htalk]
    exact h.free y hy hfree
  · intro i y
    rw [hsession, hmutex]
    exact h.holder i y
  · rw [hmutex]
    exact h.known
  · intro hidle
    rw [hcalling] at hidle
    rw [hmain hidle]
    exact h.idle hidle
  · intro i hi
    rw [hcalling] at hi
    rw [hsession]
    exact h.outside i hi
  · exact hapart
  · exact ⟨hends, h.ends⟩

/-- What is left of the stream after a `read`. -/
lemma takeFrom_eq_some {stream rest : List UInt8} {r : Except Errno (List UInt8)}
    (h : takeFrom stream r = some rest) : stream = readBytes r ++ rest := by
  rw [takeFrom] at h
  split_ifs at h with hprefix
  obtain ⟨rest', rfl⟩ := hprefix
  obtain rfl := Option.some.inj h
  rw [List.drop_left]

/-! ### The steps of the daemon -/

section Daemon

variable {i : δ} {n : ℕ} {data : List UInt8}

omit [DecidableEq δ] [DecidableEq τ] in
/-- A step of the daemon is one of the daemon alone and one on the connections. -/
lemma daemonStep_eq_some {o : DaemonOp} {r : o.Ans} (h : daemonStep m X i o r s = some s') :
    ∃ d, m.step i o r s.daemon = some d ∧ daemonWire X (s.setDaemon d) o r = some s' := by
  rw [daemonStep] at h
  split at h
  case h_1 d hd => exact ⟨d, hd, h⟩
  case h_2 => exact absurd h (by simp)

/-- An interaction with others. -/
lemma daemon_away {o : DaemonOp} {r : o.Ans} (h : Inv m main X tr s) (ho : Away X o)
    (hstep : daemonStep m X i o r s = some s') :
    Inv m main X (.op (.inl i) c ⟨.inl o, r⟩ :: tr) s' ∧ Outside X o r := by
  obtain ⟨d, hd, hwire⟩ := daemonStep_eq_some hstep
  obtain ⟨hapart, houtside⟩ := h.apart.step ho hd
  rw [wire_of_away ho] at hwire
  obtain rfl := Option.some.inj hwire
  have hact : actOf X (.op (.inl i) c ⟨.inl o, r⟩ : PairLabel δ τ) = .quiet := act_of_away ho
  exact ⟨h.quiet hact (fun _ => rfl) h.idle h.outside rfl rfl rfl hapart trivial, houtside⟩

omit [DecidableEq δ] [DecidableEq τ] in
/-- What the daemon says or hears moves it on one connection. -/
lemma talks_of_daemon (L : Layout) (tr : PairTrace δ τ) {u : Talk UInt8}
    (hact : actOf X l = .daemon x u) :
    daemonTalk X x (l :: tr) = daemonTalk X x tr ++ u ∧
      (∀ y, y ≠ x → daemonTalk X y (l :: tr) = daemonTalk X y tr) ∧
      (∀ y, sdkTalk X y (l :: tr) = sdkTalk X y tr) ∧
      serverPos L X (l :: tr) = Function.update (serverPos L X tr) x
        ((transaction L).again ((transaction L).walk (daemonTalk X x tr ++ u))) := by
  have hself : daemonTalk X x (l :: tr) = daemonTalk X x tr ++ u := by
    rw [daemonTalk, hact]
    exact if_pos rfl
  have hothers (y : ℕ) (hy : y ≠ x) : daemonTalk X y (l :: tr) = daemonTalk X y tr := by
    rw [daemonTalk, hact]
    exact if_neg (Ne.symm hy)
  have hsdk (y : ℕ) : sdkTalk X y (l :: tr) = sdkTalk X y tr := by
    rw [sdkTalk, hact]
    rfl
  refine ⟨hself, hothers, hsdk, ?_⟩
  ext y
  by_cases hy : y = x
  · subst hy
    rw [Function.update_self, serverPos, hself]
  · rw [Function.update_of_ne hy, serverPos, serverPos, hothers y hy]

/-- The daemon reads what the SDK has written. -/
lemma daemon_read {r : Except Errno (List UInt8)} (h : Inv m main X tr s)
    (hcalling : calling (.inl main) tr = some c) (hx : x ∈ X)
    (hstep : daemonStep m X main (.read x n) r s = some s') (hwork : readBytes r ≠ []) :
    Inv m main X (.op (.inl main) c ⟨.inl (.read x n), r⟩ :: tr) s' ∧
      serverNext m.layout X (serverPos m.layout X tr) (.read x n) r
        (serverPos m.layout X (.op (.inl main) c ⟨.inl (.read x n), r⟩ :: tr)) := by
  obtain ⟨d, hd, hwire⟩ := daemonStep_eq_some (o := .read x n) hstep
  obtain ⟨hread, heq⟩ := Option.ite_none_right_eq_some.1 hd
  obtain rfl := Option.some.inj heq
  obtain ⟨rest, htake, rfl⟩ := Option.map_eq_some_iff.1 ((if_pos hx).symm.trans hwire)
  have hstream : s.toDaemon x = readBytes r ++ rest := takeFrom_eq_some htake
  have hact : actOf X (.op (.inl main) c ⟨.inl (.read x n), r⟩ : PairLabel δ τ) =
      .daemon x (asks (readBytes r)) := if_pos hx
  obtain ⟨hself, hothers, hsdk, hpos⟩ := talks_of_daemon m.layout tr hact
  have hlink := h.link x hx
  rw [linkOf, hstream] at hlink
  have hnew := hlink.serverRead hwork
  constructor
  · refine h.move (x := x) ?_ ?_ ?_ (fun _ => rfl) (fun _ => rfl) ?_ rfl h.apart trivial
    · intro hfree
      have hempty := (h.free x hx hfree).1
      rw [hstream] at hempty
      exact hwork (List.append_eq_nil_iff.1 hempty).1
    · intro y hy
      rw [linkOf, linkOf, hothers y hy, hsdk]
      simp [PairState.setToDaemon, PairState.setDaemon, hy]
    · rw [linkOf, hself, hsdk]
      simpa [PairState.setToDaemon, PairState.setDaemon] using hnew
    · intro hidle
      rw [hcalling] at hidle
      exact absurd hidle (by simp)
  · cases r with
    | error e => exact absurd rfl hwork
    | ok bytes =>
        have hok : ((transaction m.layout).walk (daemonTalk X x tr)).walk (asks bytes) ≠
            .never := by
          rw [← Dialogue.walk_append]
          exact hnew.server_ok
        have hasks := Dialogue.asks_of_walk hok hwork
        have hcurrent : serverPos m.layout X tr x =
            (transaction m.layout).walk (daemonTalk X x tr) :=
          Dialogue.again_of_ne hasks.ne_done
        rw [hpos, Dialogue.walk_append]
        exact serverNext_read hx (by
          rw [hcurrent]
          exact ⟨bytes, rfl, hwork, of_decide_eq_true hread, rfl, hok⟩)

/-- The daemon writes. -/
lemma daemon_send {r : Except Errno ℕ} (h : Inv m main X tr s)
    (hcalling : calling (.inl main) tr = some c) (hx : x ∈ X) (hdata : data ≠ [])
    (hmay : (serverPos m.layout X tr x).walk (replies data) ≠ .never)
    (hstep : daemonStep m X main (.send x data) r s = some s') (hwork : Except.isOk r) :
    Inv m main X (.op (.inl main) c ⟨.inl (.send x data), r⟩ :: tr) s' ∧
      serverNext m.layout X (serverPos m.layout X tr) (.send x data) r
        (serverPos m.layout X (.op (.inl main) c ⟨.inl (.send x data), r⟩ :: tr)) := by
  obtain ⟨d, hd, hwire⟩ := daemonStep_eq_some (o := .send x data) hstep
  obtain ⟨hsend, heq⟩ := Option.ite_none_right_eq_some.1 hd
  obtain rfl := Option.some.inj heq
  obtain rfl := Option.some.inj ((congrArg some (if_pos hx)).symm.trans hwire)
  -- the daemon is to write, so that a transaction is under way
  have hreplies := Dialogue.replies_of_walk hmay hdata
  have hbusy : (transaction m.layout).walk (daemonTalk X x tr) ≠ .done := by
    intro hdone
    rw [serverPos, hdone, Dialogue.again_done] at hreplies
    exact transaction_asks.not_replies hreplies
  have hcurrent : serverPos m.layout X tr x =
      (transaction m.layout).walk (daemonTalk X x tr) := Dialogue.again_of_ne hbusy
  cases r with
  | error e => exact absurd hwork (by simp [Except.isOk, Except.toBool])
  | ok k =>
      obtain ⟨hpos_k, hk⟩ : 0 < k ∧ k ≤ data.length := of_decide_eq_true hsend
      have hne : data.take k ≠ [] := by
        simp only [ne_eq, List.take_eq_nil_iff, not_or]
        exact ⟨hpos_k.ne', hdata⟩
      have hok : (transaction m.layout).walk
          (daemonTalk X x tr ++ replies (data.take k)) ≠ .never := by
        rw [hcurrent] at hmay
        rw [Dialogue.walk_append]
        refine Dialogue.walk_ne_never_of_append (u := replies (data.drop k)) ?_
        rw [replies, replies, ← List.map_append, List.take_append_drop]
        exact hmay
      have hact : actOf X (.op (.inl main) c ⟨.inl (.send x data), .ok k⟩ : PairLabel δ τ) =
          .daemon x (replies (data.take k)) := if_pos hx
      obtain ⟨hself, hothers, hsdk, hpos⟩ := talks_of_daemon m.layout tr hact
      have hnew := (h.link x hx).serverSend hne hok
      constructor
      · refine h.move (x := x) ?_ ?_ ?_ (fun _ => rfl) (fun _ => rfl) ?_ rfl h.apart trivial
        · intro hfree
          have hstart := (h.free x hx hfree).2.2
          rw [hstart] at hmay
          exact transaction_asks.not_replies (Dialogue.replies_of_walk hmay hdata)
        · intro y hy
          rw [linkOf, linkOf, hothers y hy, hsdk]
          simp [PairState.setToSdk, PairState.setDaemon, hy]
        · rw [linkOf, hself, hsdk]
          simpa [PairState.setToSdk, PairState.setDaemon, sentBytes] using hnew
        · intro hidle
          rw [hcalling] at hidle
          exact absurd hidle (by simp)
      · rw [hpos, Dialogue.walk_append]
        exact serverNext_send hx (by
          rw [hcurrent]
          exact ⟨k, rfl, hpos_k, hk, rfl⟩)

end Daemon

/-! ### The steps of the SDK -/

section Sdk

variable {i : τ} {n : ℕ} {data : List UInt8}

omit [DecidableEq δ] in
lemma clientPos_eq_some {d : Dialogue UInt8} (h : clientPos L X i tr = some (x, d)) :
    inSession i tr = some x ∧ (transaction L).walk (sdkTalk X x tr) = d := by
  rw [clientPos] at h
  obtain ⟨y, hy, heq⟩ := Option.map_eq_some_iff.1 h
  obtain ⟨rfl, hd⟩ := Prod.mk.inj heq
  exact ⟨hy, hd⟩

omit [DecidableEq δ] in
lemma clientPos_of_session (h : inSession i tr = some x) :
    clientPos L X i tr = some (x, (transaction L).walk (sdkTalk X x tr)) := by
  rw [clientPos, h, Option.map_some]

omit [DecidableEq δ] [DecidableEq τ] in
/-- What the SDK says or hears on one connection. -/
lemma talks_of_sdk (tr : PairTrace δ τ) {u : Talk UInt8} (hact : actOf X l = .sdk x u) :
    sdkTalk X x (l :: tr) = sdkTalk X x tr ++ u ∧
      (∀ y, y ≠ x → sdkTalk X y (l :: tr) = sdkTalk X y tr) ∧
      ∀ y, daemonTalk X y (l :: tr) = daemonTalk X y tr := by
  refine ⟨?_, fun y hy => ?_, fun y => ?_⟩
  · rw [sdkTalk, hact]
    exact if_pos rfl
  · rw [sdkTalk, hact]
    exact if_neg (Ne.symm hy)
  · rw [daemonTalk, hact]
    rfl

/-- Another thread is in a transaction on another session. -/
lemma Inv.session_ne (h : Inv m main X tr s) (hi : inSession i tr = some x) {j : τ} (hj : j ≠ i)
    {y : ℕ} (hy : inSession j tr = some y) : y ≠ x := by
  rintro rfl
  rw [h.holder] at hi hy
  exact hj (Option.some.inj (hy.symm.trans hi))

/-- The sessions are found and given back without a word. -/
lemma sdk_quiet {o : SessionOp} {r : o.Ans} (h : Inv m main X tr s)
    (hact : sessionAct o r = .quiet) (hlock : sessionLock o = none) :
    Inv m main X (.op (.inr i) c ⟨.inr o, r⟩ :: tr) s ∧
      ∀ j, clientPos m.layout X j (.op (.inr i) c ⟨.inr o, r⟩ :: tr) =
        clientPos m.layout X j tr := by
  have hsession (j : τ) : inSession j (.op (.inr i) c ⟨.inr o, r⟩ :: tr) = inSession j tr := by
    rw [inSession, hlock]
    exact ite_self _
  have hquiet : actOf X (.op (.inr i) c ⟨.inr o, r⟩ : PairLabel δ τ) = .quiet := hact
  have hends : EndsInStep m.layout X (.op (.inr i) c ⟨.inr o, r⟩ : PairLabel δ τ) tr := by
    cases o with
    | socketEnd x => exact absurd hlock (by simp [sessionLock])
    | _ => trivial
  exact ⟨h.quiet hquiet hsession h.idle h.outside rfl rfl rfl h.apart hends, fun j =>
    clientPos_congr (hsession j) fun x _ => (talks_of_quiet tr hquiet x).1⟩

/-- The thread begins or ends a transaction: the mutex of the session changes hands. -/
lemma Inv.holder_setMutex (h : Inv m main X tr s) {u : Option τ}
    (hself : inSession i (l :: tr) = u.map fun _ => x) (hu : ∀ j ∈ u, j = i)
    (hsession_ne : ∀ j, j ≠ i → inSession j (l :: tr) = inSession j tr)
    (honly : ∀ y, y ≠ x → inSession i tr ≠ some y)
    (hothers : ∀ j, j ≠ i → inSession j tr ≠ some x) (j : τ) (y : ℕ) :
    inSession j (l :: tr) = some y ↔ (s.setMutex x u).socketMutex y = some j := by
  show _ ↔ Function.update s.socketMutex x u y = some j
  by_cases hyx : y = x
  · rw [hyx, Function.update_self]
    by_cases hj : j = i
    · rw [hj, hself]
      cases u with
      | none => simp
      | some k => simp [hu k rfl]
    · rw [hsession_ne j hj]
      exact iff_of_false (hothers j hj) fun heq => hj (hu j heq)
  · rw [Function.update_of_ne hyx, ← h.holder]
    by_cases hj : j = i
    · rw [hj, hself]
      cases u with
      | none => simp [honly y hyx]
      | some k => simp [honly y hyx, Ne.symm hyx]
    · rw [hsession_ne j hj]

lemma Inv.known_setMutex (h : Inv m main X tr s) (hx : x ∈ X) (u : Option τ) (y : ℕ)
    (hy : (s.setMutex x u).socketMutex y ≠ none) : y ∈ X := by
  by_cases hyx : y = x
  · rwa [hyx]
  · exact h.known y (by simpa [PairState.setMutex, hyx] using hy)

/-- A transaction begins. -/
lemma sdk_begin (h : Inv m main X tr s) (hcalling : calling (.inr i) tr = some c)
    (hi : inSession i tr = none) (hx : x ∈ X)
    (hfree : s.socketMutex x = none) {r : SessionOp.Ans (.socketBegin x)} :
    Inv m main X (.op (.inr i) c ⟨.inr (.socketBegin x), r⟩ :: tr) (s.setMutex x (some i)) ∧
      clientPos m.layout X i (.op (.inr i) c ⟨.inr (.socketBegin x), r⟩ :: tr) =
        some (x, transaction m.layout) ∧
      (∀ j, j ≠ i → clientPos m.layout X j (.op (.inr i) c ⟨.inr (.socketBegin x), r⟩ :: tr) =
        clientPos m.layout X j tr) ∧
      serverPos m.layout X (.op (.inr i) c ⟨.inr (.socketBegin x), r⟩ :: tr) =
        serverPos m.layout X tr := by
  -- nobody is in a transaction on the session, so that nothing is under way on its connection
  obtain ⟨htoDaemon, htoSdk, hstart⟩ := h.free x hx hfree
  generalize hl : (.op (.inr i) c ⟨.inr (.socketBegin x), r⟩ : PairLabel δ τ) = l
  have hact : actOf X l = .begin x := by
    subst hl
    rfl
  have hself : sdkTalk X x (l :: tr) = [] ∧ daemonTalk X x (l :: tr) = [] := by
    rw [sdkTalk, daemonTalk, hact]
    exact ⟨if_pos rfl, if_pos rfl⟩
  have hothers (y : ℕ) (hy : y ≠ x) : sdkTalk X y (l :: tr) = sdkTalk X y tr ∧
      daemonTalk X y (l :: tr) = daemonTalk X y tr := by
    rw [sdkTalk, daemonTalk, hact]
    exact ⟨if_neg (Ne.symm hy), if_neg (Ne.symm hy)⟩
  have hsession : inSession i (l :: tr) = some x := by
    subst hl
    exact if_pos rfl
  have hsession_ne (j : τ) (hj : j ≠ i) : inSession j (l :: tr) = inSession j tr := by
    subst hl
    exact if_neg (Ne.symm hj)
  have hne (j : τ) (y : ℕ) (hy : inSession j tr = some y) : y ≠ x := by
    rintro rfl
    rw [h.holder, hfree] at hy
    exact absurd hy (by simp)
  have hpos : serverPos m.layout X (l :: tr) = serverPos m.layout X tr := by
    ext y
    by_cases hy : y = x
    · rw [hy, hstart, serverPos, hself.2, Dialogue.walk_nil,
        Dialogue.again_of_ne transaction_asks.ne_done]
    · rw [serverPos, serverPos, (hothers y hy).2]
  have hcalling' (j : δ ⊕ τ) : calling j (l :: tr) = calling j tr := by
    subst hl
    rfl
  refine ⟨⟨?_, ?_, ?_, ?_, ?_, ?_, h.apart, ?_⟩, ?_, ?_, hpos⟩
  · intro y hy
    by_cases hyx : y = x
    · rw [hyx, linkOf, hself.1, hself.2]
      simp only [PairState.setMutex, htoDaemon, htoSdk]
      exact Link.InStep.start transaction_asks.ne_never
    · rw [linkOf, (hothers y hyx).1, (hothers y hyx).2]
      exact h.link y hy
  · intro y hy hyfree
    have hyx : y ≠ x := by
      rintro rfl
      simp [PairState.setMutex] at hyfree
    rw [PairState.setMutex] at hyfree
    rw [hpos]
    exact h.free y hy (by simpa [hyx] using hyfree)
  · refine h.holder_setMutex hsession (fun j hj => (Option.some.inj hj).symm) hsession_ne ?_ ?_
    · exact fun y _ => by simp [hi]
    · exact fun j _ hj => hne j x hj rfl
  · exact h.known_setMutex hx _
  · rw [hcalling', hpos]
    exact h.idle
  · intro j hj
    rw [hcalling'] at hj
    by_cases hji : j = i
    · rw [hji, hcalling] at hj
      exact absurd hj (by simp)
    · rw [hsession_ne j hji]
      exact h.outside j hj
  · subst hl
    exact ⟨trivial, h.ends⟩
  · rw [clientPos_of_session hsession, hself.1, Dialogue.walk_nil]
  · intro j hj
    exact clientPos_congr (hsession_ne j hj) fun y hy => (hothers y (hne j y hy)).1

/-- A transaction ends: it is over for the daemon as well. -/
lemma sdk_end (h : Inv m main X tr s) (hi : clientPos m.layout X i tr = some (x, .done))
    {r : SessionOp.Ans (.socketEnd x)} :
    Inv m main X (.op (.inr i) c ⟨.inr (.socketEnd x), r⟩ :: tr) (s.setMutex x none) ∧
      clientPos m.layout X i (.op (.inr i) c ⟨.inr (.socketEnd x), r⟩ :: tr) = none ∧
      (∀ j, j ≠ i → clientPos m.layout X j (.op (.inr i) c ⟨.inr (.socketEnd x), r⟩ :: tr) =
        clientPos m.layout X j tr) ∧
      serverPos m.layout X (.op (.inr i) c ⟨.inr (.socketEnd x), r⟩ :: tr) =
        serverPos m.layout X tr := by
  obtain ⟨hin, hdone⟩ := clientPos_eq_some hi
  have hheld : s.socketMutex x = some i := (h.holder i x).1 hin
  have hx : x ∈ X := h.known x (by rw [hheld]; exact nofun)
  -- the SDK has heard the whole reply, so that the daemon has said it
  obtain ⟨hsame, htoDaemon, htoSdk⟩ := (h.link x hx).finish transaction_replied hdone
  have hserver : serverPos m.layout X tr x = transaction m.layout := by
    have hwalk : (transaction m.layout).walk (daemonTalk X x tr) = .done := by
      rw [← hdone]
      exact congrArg _ hsame
    rw [serverPos, hwalk, Dialogue.again_done]
  generalize hl : (.op (.inr i) c ⟨.inr (.socketEnd x), r⟩ : PairLabel δ τ) = l
  have hact : actOf X l = .quiet := by
    subst hl
    rfl
  have htalk (y : ℕ) := talks_of_quiet tr hact y
  have hpos : serverPos m.layout X (l :: tr) = serverPos m.layout X tr :=
    serverPos_congr fun y => (htalk y).2
  have hsession : inSession i (l :: tr) = none := by
    subst hl
    exact if_pos rfl
  have hsession_ne (j : τ) (hj : j ≠ i) : inSession j (l :: tr) = inSession j tr := by
    subst hl
    exact if_neg (Ne.symm hj)
  have hcalling (j : δ ⊕ τ) : calling j (l :: tr) = calling j tr := by
    subst hl
    rfl
  refine ⟨⟨?_, ?_, ?_, ?_, ?_, ?_, h.apart, ?_⟩, ?_, ?_, hpos⟩
  · intro y hy
    rw [linkOf, (htalk y).1, (htalk y).2]
    exact h.link y hy
  · intro y hy hfree
    rw [hpos]
    by_cases hyx : y = x
    · rw [hyx]
      exact ⟨htoDaemon, htoSdk, hserver⟩
    · exact h.free y hy (by simpa [PairState.setMutex, hyx] using hfree)
  · refine h.holder_setMutex hsession (fun j hj => nomatch hj) hsession_ne ?_ ?_
    · exact fun y hy heq => hy (Option.some.inj (hin.symm.trans heq)).symm
    · exact fun j hj hj' => h.session_ne hin hj hj' rfl
  · exact h.known_setMutex hx _
  · rw [hcalling, hpos]
    exact h.idle
  · intro j hj
    rw [hcalling] at hj
    by_cases hji : j = i
    · rw [hji, hsession]
    · rw [hsession_ne j hji]
      exact h.outside j hj
  · subst hl
    exact ⟨⟨hsame, hdone⟩, h.ends⟩
  · rw [clientPos, hsession, Option.map_none]
  · intro j hj
    exact clientPos_congr (hsession_ne j hj) fun y _ => (htalk y).1

/-- The SDK says or hears something on the connection of its session. -/
lemma Inv.sdkMove {o : SessionOp} {r : o.Ans} {u : Talk UInt8} (h : Inv m main X tr s)
    (s' : PairState δ τ) (hin : inSession i tr = some x) (hact : sessionAct o r = .sdk x u)
    (hlink : (⟨sdkTalk X x tr ++ u, daemonTalk X x tr, s'.toDaemon x, s'.toSdk x⟩ :
      Link UInt8).InStep (transaction m.layout))
    (hothers : ∀ y, y ≠ x → s'.toDaemon y = s.toDaemon y ∧ s'.toSdk y = s.toSdk y)
    (hmutex : s'.socketMutex = s.socketMutex) (hdaemon : s'.daemon = s.daemon) :
    Inv m main X (.op (.inr i) c ⟨.inr o, r⟩ :: tr) s' ∧
      clientPos m.layout X i (.op (.inr i) c ⟨.inr o, r⟩ :: tr) =
        some (x, ((transaction m.layout).walk (sdkTalk X x tr)).walk u) ∧
      (∀ j, j ≠ i → clientPos m.layout X j (.op (.inr i) c ⟨.inr o, r⟩ :: tr) =
        clientPos m.layout X j tr) ∧
      serverPos m.layout X (.op (.inr i) c ⟨.inr o, r⟩ :: tr) = serverPos m.layout X tr := by
  have hheld : s.socketMutex x = some i := (h.holder i x).1 hin
  have hlock : sessionLock o = none := by
    cases o with
    | socketBegin y | socketEnd y => exact absurd hact nofun
    | _ => rfl
  generalize hl : (.op (.inr i) c ⟨.inr o, r⟩ : PairLabel δ τ) = l
  have hact' : actOf X l = .sdk x u := by
    subst hl
    exact hact
  obtain ⟨hself, hsdk, hdaemonTalk⟩ := talks_of_sdk tr hact'
  have hsession (j : τ) : inSession j (l :: tr) = inSession j tr := by
    subst hl
    rw [inSession, hlock]
    exact ite_self _
  have hpos : serverPos m.layout X (l :: tr) = serverPos m.layout X tr :=
    serverPos_congr hdaemonTalk
  have hends : EndsInStep m.layout X l tr := by
    subst hl
    cases o with
    | socketEnd y => exact absurd hact nofun
    | _ => trivial
  refine ⟨?_, ?_, ?_, hpos⟩
  · refine h.move (x := x) (by rw [hheld]; exact nofun) ?_ ?_ hsession ?_ (fun _ => hpos) hmutex
      (hdaemon ▸ h.apart) hends
    · intro y hy
      rw [linkOf, linkOf, hsdk y hy, hdaemonTalk, (hothers y hy).1, (hothers y hy).2]
    · rw [linkOf, hself, hdaemonTalk]
      exact hlink
    · subst hl
      exact fun _ => rfl
  · rw [clientPos_of_session ((hsession i).trans hin), hself, Dialogue.walk_append]
  · intro j hj
    exact clientPos_congr (hsession j) fun y hy => hsdk y (h.session_ne hin hj hy)

/-- What a step of the SDK on its connection leaves. -/
structure SdkMoved (m : HdcpDaemon) (main : δ) (X : Finset ℕ) (i : τ) (o : SessionOp) (r : o.Ans)
    (tr tr' : PairTrace δ τ) (s' : PairState δ τ) : Prop where
  inv : Inv m main X tr' s'
  next : clientNext m.layout X (clientPos m.layout X i tr) o r (clientPos m.layout X i tr')
  others : ∀ j, j ≠ i → clientPos m.layout X j tr' = clientPos m.layout X j tr
  server : serverPos m.layout X tr' = serverPos m.layout X tr

/-- The SDK reads what the daemon has written. -/
lemma sdk_read {r : Except Errno (List UInt8)} {d : Dialogue UInt8} (h : Inv m main X tr s)
    (hi : clientPos m.layout X i tr = some (x, d))
    (hstep : sessionStep X i (.read x n) r s = some s') (hwork : readBytes r ≠ []) :
    SdkMoved m main X i (.read x n) r tr (.op (.inr i) c ⟨.inr (.read x n), r⟩ :: tr) s' := by
  obtain ⟨hin, hwalk⟩ := clientPos_eq_some hi
  have hx : x ∈ X := h.known x (by rw [(h.holder i x).1 hin]; exact nofun)
  obtain ⟨hread, htaken⟩ := Option.ite_none_right_eq_some.1 hstep
  obtain ⟨rest, htake, rfl⟩ := Option.map_eq_some_iff.1 htaken
  have hstream : s.toSdk x = readBytes r ++ rest := takeFrom_eq_some htake
  have hlink := h.link x hx
  rw [linkOf, hstream] at hlink
  have hnew := hlink.clientRead hwork
  obtain ⟨hinv, hpos, hothers, hserver⟩ := h.sdkMove (c := c) (o := .read x n) (r := r)
    (s.setToSdk x rest) hin rfl
    (by simpa [PairState.setToSdk] using hnew)
    (fun y hy => by simp [PairState.setToSdk, hy]) rfl rfl
  refine ⟨hinv, ?_, hothers, hserver⟩
  rw [hpos, hi, hwalk]
  cases r with
  | error e => exact absurd rfl hwork
  | ok bytes =>
      have hok : d.walk (replies bytes) ≠ .never := by
        rw [← hwalk, ← Dialogue.walk_append]
        exact hnew.client_ok
      exact ⟨_, ⟨bytes, rfl, hwork, of_decide_eq_true hread, rfl, hok⟩, rfl⟩

/-- The SDK writes. -/
lemma sdk_send {r : Except Errno ℕ} {d : Dialogue UInt8} (h : Inv m main X tr s)
    (hi : clientPos m.layout X i tr = some (x, d)) (hdata : data ≠ [])
    (hmay : d.walk (asks data) ≠ .never)
    (hstep : sessionStep X i (.send x data) r s = some s') (hwork : Except.isOk r) :
    SdkMoved m main X i (.send x data) r tr (.op (.inr i) c ⟨.inr (.send x data), r⟩ :: tr) s' := by
  obtain ⟨hin, hwalk⟩ := clientPos_eq_some hi
  have hx : x ∈ X := h.known x (by rw [(h.holder i x).1 hin]; exact nofun)
  obtain ⟨hsend, heq⟩ := Option.ite_none_right_eq_some.1 hstep
  obtain rfl := Option.some.inj heq
  cases r with
  | error e => exact absurd hwork (by simp [Except.isOk, Except.toBool])
  | ok k =>
      obtain ⟨hpos_k, hk⟩ : 0 < k ∧ k ≤ data.length := of_decide_eq_true hsend
      have hne : data.take k ≠ [] := by
        simp only [ne_eq, List.take_eq_nil_iff, not_or]
        exact ⟨hpos_k.ne', hdata⟩
      have hok : (transaction m.layout).walk (sdkTalk X x tr ++ asks (data.take k)) ≠ .never := by
        rw [Dialogue.walk_append, hwalk]
        refine Dialogue.walk_ne_never_of_append (u := asks (data.drop k)) ?_
        rw [asks, asks, ← List.map_append, List.take_append_drop]
        exact hmay
      have hnew := (h.link x hx).clientSend hne hok
      obtain ⟨hinv, hpos, hothers, hserver⟩ := h.sdkMove (c := c)
        (o := .send x data) (r := .ok k) (s.setToDaemon x (s.toDaemon x ++ data.take k)) hin rfl
        (by simpa [PairState.setToDaemon, sentBytes] using hnew)
        (fun y hy => by simp [PairState.setToDaemon, hy]) rfl rfl
      refine ⟨hinv, ?_, hothers, hserver⟩
      rw [hpos, hi, hwalk]
      exact ⟨_, ⟨k, rfl, hpos_k, hk, rfl⟩, rfl⟩

end Sdk

/-! ### Runs -/

lemma inv_of_established (h : Established m X s) : Inv m main X [] s := by
  constructor
  · intro x hx
    rw [linkOf, h.toDaemon x hx, h.toSdk x hx]
    exact Link.InStep.start transaction_asks.ne_never
  · intro x hx _
    refine ⟨h.toDaemon x hx, h.toSdk x hx, ?_⟩
    exact Dialogue.again_of_ne transaction_asks.ne_done
  · intro i x
    rw [h.mutex x]
    exact ⟨nofun, nofun⟩
  · intro x hx
    exact absurd (h.mutex x) hx
  · intro _
    ext x
    exact Dialogue.again_of_ne transaction_asks.ne_done
  · exact fun _ _ => rfl
  · exact ⟨h.opened, h.unlisted⟩
  · trivial

/-- Where the daemon and the SDK are is not changed by a step without a word. -/
lemma alone_of_pos {i : δ ⊕ τ} (hserver : ∀ j, i ≠ .inl j → j = main →
      serverPos m.layout X (l :: tr) = serverPos m.layout X tr)
    (hclient : ∀ j, i ≠ .inr j → clientPos m.layout X j (l :: tr) = clientPos m.layout X j tr) :
    (watch m main X).Alone i l tr := by
  rintro (j | j) hj
  · show (if j = main then serverPos m.layout X (l :: tr) else idle m.layout) =
      if j = main then serverPos m.layout X tr else idle m.layout
    by_cases hmain : j = main
    · rw [if_pos hmain, if_pos hmain]
      exact hserver j (Ne.symm hj) hmain
    · rw [if_neg hmain, if_neg hmain]
  · exact hclient j (Ne.symm hj)

/-- A call or a return is made without a word. -/
lemma watch_silent {i : δ ⊕ τ} (hact : actOf X l = .quiet)
    (hsession : ∀ i, inSession i (l :: tr) = inSession i tr) : (watch m main X).Alone i l tr := by
  have htalk (x : ℕ) := talks_of_quiet tr hact x
  exact alone_of_pos (fun _ _ _ => serverPos_congr fun x => (htalk x).2)
    fun j _ => clientPos_congr (hsession j) fun x _ => (htalk x).1

/-- A call begins between two transactions, and keeps to them. -/
lemma watch_call {i : δ ⊕ τ} (hmay : pairMay main i c = true) (hidle : calling i tr = none)
    (h : Inv m main X tr s) :
    Inv m main X (.call i c :: tr) s ∧ (watch m main X).Alone i (.call i c) tr ∧
      ((watch m main X).monitor i).Sat ((watch m main X).post i c) (pairBody m c)
        ((watch m main X).pos i (.call i c :: tr)) := by
  have hact : actOf X (.call i c : PairLabel δ τ) = .quiet := rfl
  have htalk (x : ℕ) := talks_of_quiet tr hact x
  have hcalling (j : δ ⊕ τ) (hj : calling j (.call i c :: tr) = none) : calling j tr = none := by
    rw [calling] at hj
    split_ifs at hj with hij
    exact hj
  refine ⟨h.quiet hact (fun _ => rfl) (fun hj => h.idle (hcalling _ hj))
    (fun j hj => h.outside j (hcalling _ hj)) rfl rfl rfl h.apart trivial,
    watch_silent hact fun _ => rfl, ?_⟩
  cases i with
  | inl i =>
      cases c with
      | sdk handle c => exact absurd hmay (by simp [pairMay])
      | daemon c =>
          show (Monitor.inl (if i = main then _ else _)).Sat (fun _ q => q = idle m.layout)
            (Prog.inl _) (if i = main then _ else idle m.layout)
          cases c with
          | messageResponse rounds =>
              have hi : i = main := of_decide_eq_true hmay
              subst hi
              have hpos : serverPos m.layout X (.call (.inl i) (.daemon (.messageResponse rounds))
                  :: tr) = idle m.layout :=
                (serverPos_congr fun x => (htalk x).2).trans (h.idle hidle)
              rw [if_pos rfl, if_pos rfl, hpos]
              refine Monitor.Sat.inl ((sat_messageResponse rounds).bind ?_)
              exact fun _ _ hq => hq
          | reportStatus event portId =>
              have hi : i ≠ main := of_decide_eq_true hmay
              rw [if_neg hi, if_neg hi]
              refine Monitor.Sat.inl ((sat_reportStatus event portId).bind ?_)
              exact fun _ _ hq => hq
  | inr i =>
      cases c with
      | daemon c => exact absurd hmay (by simp [pairMay])
      | sdk handle c =>
          show (Monitor.inr _).Sat (fun _ q => q = none) (Prog.inr _) (clientPos m.layout X i _)
          have hpos : clientPos m.layout X i (.call (.inr i) (.sdk handle c) :: tr) = none := by
            rw [clientPos_congr rfl fun x _ => (htalk x).1, clientPos, h.outside i hidle]
            rfl
          rw [hpos]
          refine Monitor.Sat.inr ((sat_request handle c).bind ?_)
          exact fun _ _ hq => hq

/-- A call returns between two transactions. -/
lemma watch_ret {i : δ ⊕ τ} {a : Option HdcpStatus} (hcalling : calling i tr = some c)
    (h : Inv m main X tr s) (hmay : pairMay main i c = true)
    (hpost : (watch m main X).post i c a ((watch m main X).pos i tr)) :
    Inv m main X (.ret i c a :: tr) s ∧ (watch m main X).Alone i (.ret i c a) tr := by
  have hact : actOf X (.ret i c a : PairLabel δ τ) = .quiet := rfl
  have hother (j : δ ⊕ τ) (hj : calling j (.ret i c a :: tr) = none) (hij : i ≠ j) :
      calling j tr = none := by
    rwa [calling, if_neg hij] at hj
  refine ⟨h.quiet hact (fun _ => rfl) ?_ ?_ rfl rfl rfl h.apart ?_,
    watch_silent hact fun _ => rfl⟩
  · intro hj
    by_cases hi : i = .inl main
    · subst hi
      have hpos : (if main = main then serverPos m.layout X tr else idle m.layout) =
          idle m.layout := hpost
      rwa [if_pos rfl] at hpos
    · exact h.idle (hother _ hj hi)
  · intro j hj
    by_cases hi : i = .inr j
    · subst hi
      have hpos : clientPos m.layout X j tr = none := hpost
      exact Option.map_eq_none_iff.1 hpos
    · exact h.outside j (hother _ hj hi)
  · cases c with
    | sdk handle c => trivial
    | daemon c =>
        cases c with
        | reportStatus event portId => trivial
        | messageResponse rounds =>
            cases i with
            | inr i => exact absurd hmay (by simp [pairMay])
            | inl i =>
                have hi : i = main := of_decide_eq_true hmay
                subst hi
                have hpos : (if i = i then serverPos m.layout X tr else idle m.layout) =
                    idle m.layout := hpost
                rw [if_pos rfl] at hpos
                intro x _
                have hx : (transaction m.layout).again
                    ((transaction m.layout).walk (daemonTalk X x tr)) = transaction m.layout :=
                  congrFun hpos x
                by_cases hdone : (transaction m.layout).walk (daemonTalk X x tr) = .done
                · exact Or.inr hdone
                · rw [Dialogue.again_of_ne hdone] at hx
                  by_contra hne
                  exact Dialogue.walk_ne_self (fun h => hne (Or.inl h))
                    transaction_asks.ne_never hx

/-- An interaction of the daemon. -/
lemma watch_daemon {i : δ} {o : DaemonOp} {r : o.Ans} (hcalling : calling (.inl i) tr = some c)
    (h : Inv m main X tr s)
    (hmay : (if i = main then serverMonitor m.layout X else bystander X).may
      (if i = main then serverPos m.layout X tr else idle m.layout) o)
    (hstep : daemonStep m X i o r s = some s')
    (hwork : socketsWork X tr s (.op (.inl i) c ⟨.inl o, r⟩)) :
    Inv m main X (.op (.inl i) c ⟨.inl o, r⟩ :: tr) s' ∧
      (watch m main X).Alone (.inl i) (.op (.inl i) c ⟨.inl o, r⟩) tr ∧
      (if i = main then serverMonitor m.layout X else bystander X).next
        (if i = main then serverPos m.layout X tr else idle m.layout) o r
        (if i = main then serverPos m.layout X (.op (.inl i) c ⟨.inl o, r⟩ :: tr)
          else idle m.layout) := by
  by_cases haway : Away X o
  · obtain ⟨hinv, houtside⟩ := daemon_away (i := i) (c := c) h haway hstep
    have hact : actOf X (.op (.inl i) c ⟨.inl o, r⟩ : PairLabel δ τ) = .quiet :=
      act_of_away haway
    refine ⟨hinv, watch_silent hact fun _ => rfl, ?_⟩
    by_cases hi : i = main
    · simp only [if_pos hi]
      rw [serverPos_congr fun x => (talks_of_quiet tr hact x).2]
      exact serverNext_of_away haway houtside
    · simp only [if_neg hi]
      exact ⟨rfl, houtside⟩
  -- the step is on the connection of a session
  have hi : i = main := by
    by_contra hi
    simp only [if_neg hi] at hmay
    exact haway hmay
  subst hi
  simp only [if_true] at hmay ⊢
  have hclient (j : τ) (u : Talk UInt8) (x : ℕ)
      (hact : actOf X (.op (.inl i) c ⟨.inl o, r⟩ : PairLabel δ τ) = .daemon x u) :
      clientPos m.layout X j (.op (.inl i) c ⟨.inl o, r⟩ :: tr) = clientPos m.layout X j tr :=
    clientPos_congr rfl fun y _ => (talks_of_daemon m.layout tr hact).2.2.1 y
  have halone (u : Talk UInt8) (x : ℕ)
      (hact : actOf X (.op (.inl i) c ⟨.inl o, r⟩ : PairLabel δ τ) = .daemon x u) :
      (watch m i X).Alone (.inl i) (.op (.inl i) c ⟨.inl o, r⟩) tr :=
    alone_of_pos (fun j hj hji => absurd (congrArg Sum.inl hji.symm) hj)
      fun j _ => hclient j u x hact
  cases o with
  | read x n =>
      have hx : x ∈ X := not_not.1 haway
      obtain ⟨hinv, hnext⟩ := daemon_read h hcalling hx hstep (hwork hx)
      exact ⟨hinv, halone _ x (if_pos hx), hnext⟩
  | send x data =>
      have hx : x ∈ X := not_not.1 haway
      obtain ⟨hdata, hok⟩ := hmay hx
      obtain ⟨hinv, hnext⟩ := daemon_send h hcalling hx hdata hok hstep (hwork hx)
      exact ⟨hinv, halone _ x (if_pos hx), hnext⟩
  | close x | pushBackCallBack x => exact absurd hmay haway
  | _ => exact absurd trivial haway

/-- An interaction of an application. -/
lemma watch_sdk (main : δ) {i : τ} {o : SessionOp} {r : o.Ans}
    (hcalling : calling (.inr i) tr = some c)
    (h : Inv m main X tr s) (hmay : clientMay X (clientPos m.layout X i tr) o)
    (hstep : sessionStep X i o r s = some s')
    (hwork : socketsWork X tr s (.op (.inr i) c ⟨.inr o, r⟩)) :
    SdkMoved m main X i o r tr (.op (.inr i) c ⟨.inr o, r⟩ :: tr) s' := by
  cases o with
  | getInstance handle =>
      obtain ⟨hfound, heq⟩ := Option.ite_none_right_eq_some.1 hstep
      obtain rfl := Option.some.inj heq
      obtain ⟨hinv, hpos⟩ :=
        sdk_quiet (i := i) (c := c) (o := .getInstance handle) (r := r) h rfl rfl
      have hmem : Found X r := fun x hx => by
        rw [hx] at hfound
        exact of_decide_eq_true hfound
      refine ⟨hinv, ?_, fun j _ => hpos j, serverPos_congr fun _ => rfl⟩
      rw [hpos i]
      exact clientNext_found hmem
  | putInstance handle =>
      obtain rfl := Option.some.inj hstep
      obtain ⟨hinv, hpos⟩ :=
        sdk_quiet (i := i) (c := c) (o := .putInstance handle) (r := r) h rfl rfl
      refine ⟨hinv, ?_, fun j _ => hpos j, serverPos_congr fun _ => rfl⟩
      rw [hpos i]
      exact clientNext_put
  | socketBegin x =>
      obtain ⟨hnone, hx⟩ := clientMay_begin hmay
      obtain ⟨hfree, heq⟩ := Option.ite_none_right_eq_some.1 hstep
      obtain rfl := Option.some.inj heq
      obtain ⟨hinv, hpos, hothers, hserver⟩ := sdk_begin (r := r) h hcalling
        (Option.map_eq_none_iff.1 hnone) hx (Option.isNone_iff_eq_none.1 hfree)
      refine ⟨hinv, ?_, hothers, hserver⟩
      rw [hpos, hnone]
      rfl
  | socketEnd x =>
      obtain rfl := Option.some.inj hstep
      have hdone := clientMay_end hmay
      obtain ⟨hinv, hpos, hothers, hserver⟩ := sdk_end (c := c) (r := r) h hdone
      refine ⟨hinv, ?_, hothers, hserver⟩
      rw [hpos, hdone]
      rfl
  | read x n =>
      obtain ⟨d, hi, -⟩ := clientMay_read hmay
      exact sdk_read h hi hstep hwork
  | send x data =>
      obtain ⟨d, hi, hdata, hok⟩ := clientMay_send hmay
      exact sdk_send h hi hdata hok hstep hwork

/-- Every run keeps the invariant, and every thread keeps to its monitor. -/
lemma inv_of_run {s₀ : PairState δ τ} (hs₀ : Established m X s₀) {cfg : PairConfig δ τ}
    (hrun : (pairSystem m main X).Run (socketsWork X) s₀ tr cfg) :
    Inv m main X tr cfg.shared ∧ ∀ i c p, cfg.threads i = some (c, p) →
      ((watch m main X).monitor i).Sat ((watch m main X).post i c) p
        ((watch m main X).pos i tr) := by
  refine (watch m main X).sound (inv_of_established hs₀) ?_ ?_ ?_ hrun
  · intro i c tr s hmay hidle hinv _
    exact watch_call hmay hidle hinv
  · intro i c o r tr s s' hcalling hinv hmay hstep hwork
    cases i with
    | inl i =>
        cases o with
        | inl o => exact watch_daemon hcalling hinv hmay hstep hwork
        | inr o => exact absurd hstep nofun
    | inr i =>
        cases o with
        | inl o => exact absurd hstep nofun
        | inr o =>
            have hmoved := watch_sdk main hcalling hinv hmay hstep hwork
            refine ⟨hmoved.inv, alone_of_pos (fun _ _ _ => hmoved.server) fun j hj => ?_,
              hmoved.next⟩
            exact hmoved.others j fun heq => hj (congrArg Sum.inr heq.symm)
  · intro i c a tr s hmay hcalling hinv hpost _
    exact watch_ret hcalling hinv hmay hpost

/-- The SDK and the daemon are in lock step on the connections of all sessions, whatever the
applications call, whatever the daemon answers, and however their steps interleave. -/
theorem lock_step {s₀ : PairState δ τ} (hs₀ : Established m X s₀) {cfg : PairConfig δ τ}
    (hrun : (pairSystem m main X).Run (socketsWork X) s₀ tr cfg) :
    InLockStep m.layout X tr cfg := by
  obtain ⟨hinv, hthreads⟩ := inv_of_run hs₀ hrun
  constructor
  · exact hinv.ends
  · intro x hx hfree
    obtain ⟨htoDaemon, htoSdk, -⟩ := hinv.free x hx hfree
    exact ⟨htoDaemon, htoSdk⟩
  · intro i c x n k hi htoDaemon htoSdk
    have hmay : clientMay X (clientPos m.layout X i tr) (.read x n) := (hthreads _ _ _ hi).1
    obtain ⟨d, hpos, hreplies⟩ := clientMay_read hmay
    obtain ⟨hin, rfl⟩ := clientPos_eq_some hpos
    have hx : x ∈ X := hinv.known x (by rw [(hinv.holder i x).1 hin]; exact nofun)
    have hsame : daemonTalk X x tr = sdkTalk X x tr :=
      (hinv.link x hx).eq_of_quiet htoDaemon htoSdk
    rwa [hsame]
  · intro i c x n k hx hi htoDaemon htoSdk
    have hsame : daemonTalk X x tr = sdkTalk X x tr :=
      (hinv.link x hx).eq_of_quiet htoDaemon htoSdk
    have hmay : (if i = main then serverMonitor m.layout X else bystander X).may
        (if i = main then serverPos m.layout X tr else idle m.layout) (.read x n) :=
      (hthreads _ _ _ hi).1
    by_cases hmain : i = main
    · simp only [if_pos hmain] at hmay
      have hasks : ((transaction m.layout).again
          ((transaction m.layout).walk (daemonTalk X x tr))).Asks := (hmay hx).2
      rw [hsame] at hasks
      by_cases hdone : (transaction m.layout).walk (sdkTalk X x tr) = .done
      · exact Or.inr hdone
      · rw [Dialogue.again_of_ne hdone] at hasks
        exact Or.inl hasks
    · simp only [if_neg hmain] at hmay
      exact absurd hx hmay

/-! ### What a returned call has exchanged -/

/-- The thread has ended a transaction on the session `x`: a request, a response, and what follows
this response.  The daemon has heard and said the same. -/
def Ended (L : Layout) (X : Finset ℕ) (i : τ) (x : ℕ) (tr : PairTrace δ τ) : Prop :=
  ∃ c tr', .op (.inr i) c ⟨.inr (.socketEnd x), ()⟩ :: tr' <:+ tr ∧
    daemonTalk X x tr' = sdkTalk X x tr' ∧
    ∃ req rsp rest, sdkTalk X x tr' = asks req ++ (replies rsp ++ rest) ∧ req.length = L.size ∧
      rsp.length = L.size ∧ (afterResponse L (L.decode req) (L.decode rsp)).walk rest = .done

/-- A call of the SDK that returns was refused, has found no session, or has ended a transaction
on the session that it has found. -/
theorem returned_exchanged {s₀ : PairState δ τ} (hs₀ : Established m X s₀) {cfg : PairConfig δ τ}
    (hrun : (pairSystem m main X).Run (socketsWork X) s₀ tr cfg) {i : τ} {handle : ℕ}
    {c : Request} {ret : Option HdcpStatus} {tr' : PairTrace δ τ} (hc : isUnknown c = false)
    (hret : .ret (.inr i) (.sdk handle c) ret :: tr' <:+ tr) :
    callEvents (.inr i) tr' = [] ∨
      ⟨.inr (.getInstance handle), (none : Option ℕ)⟩ ∈ callEvents (.inr i) tr' ∨
      ∃ x, ⟨.inr (.getInstance handle), (some x : Option ℕ)⟩ ∈ callEvents (.inr i) tr' ∧
        Ended m.layout X i x tr' := by
  obtain ⟨log, hlog, hruns⟩ := (hrun.runs_of_ret hret).of_inr
  have hmem {e : Event sessionSig} (he : e ∈ log) :
      (⟨.inr e.op, e.ans⟩ : Event pairSig) ∈ callEvents (.inr i) tr' := by
    rw [← List.mem_reverse, hlog]
    exact List.mem_map_of_mem he
  obtain ⟨status, first, last, hfirst, hlast, rfl⟩ := Prog.runs_bind.1 hruns
  obtain ⟨rfl, -⟩ := Prog.runs_ret.1 hlast
  rw [List.append_nil] at hlog hmem
  rcases exchanged_of_runs hc hfirst with rfl | hnone | ⟨x, hfound, hends⟩
  · exact .inl (List.reverse_eq_nil_iff.1 hlog)
  · exact .inr (.inl (hmem hnone))
  · refine .inr (.inr ⟨x, hmem hfound, ?_⟩)
    obtain ⟨c', tr'', hsuffix⟩ := exists_suffix_of_mem_callEvents (hmem hends)
    have hall := hsuffix.trans ((List.suffix_cons _ tr').trans hret)
    obtain ⟨hsame, hdone⟩ := (inv_of_run hs₀ hrun).1.ends.of_suffix hall
    exact ⟨c', tr'', hsuffix, hsame, transaction_over hdone⟩

end Steps

/-! ### Transactions in pieces -/

/-- The daemon has accepted the connection 4, which belongs to a session. -/
def oneSession : PairState ℕ ℕ where
  daemon := (usualDaemon.initState.setOpened 4 true).setEntry 1 ⟨some 4, 0⟩
  socketMutex _ := none
  toDaemon _ := []
  toSdk _ := []

/-- The SDK reads and writes at most 60 bytes at once.  The port has two KSVs. -/
def pairAnswer : (o : pairSig.Op) → PairState ℕ ℕ → pairSig.Ans o
  | .inl (.portManagerGetKsvList _), _ => ⟨.success, 2, 1, fun _ => 7⟩
  | .inl o, s =>
    daemonAnswer ⟨eventOn 1, .error .eagain, (s.toDaemon 4).take 60, true⟩ o s.daemon
  | .inr (.getInstance _), _ => some 4
  | .inr (.read x n), s => .ok ((s.toSdk x).take (min n 60))
  | .inr (.send _ data), _ => .ok (min 60 data.length)
  | .inr (.putInstance _), _ | .inr (.socketBegin _), _ | .inr (.socketEnd _), _ => ()

abbrev PairAction : Type := System.Action pairSig (ℕ ⊕ ℕ) PairCall (PairState ℕ ℕ)

def pairSteps (i : ℕ ⊕ ℕ) (n : ℕ) : List PairAction := List.replicate n (.op i pairAnswer)

/-- An application sends an SRM; the daemon begins to read when a part of it is there. -/
def sendSrm : List PairAction :=
  .call (.inr 0) (.sdk 7 (.sendSrmData 90 (some fun _ => 1))) :: pairSteps (.inr 0) 3 ++
    .call (.inl 0) (.daemon (.messageResponse 1)) :: pairSteps (.inl 0) 5 ++
    pairSteps (.inr 0) 1 ++ pairSteps (.inl 0) 4 ++ pairSteps (.inr 0) 3 ++
    pairSteps (.inl 0) 1 ++ pairSteps (.inr 0) 1 ++ pairSteps (.inl 0) 4 ++ [.ret (.inl 0)] ++
    pairSteps (.inr 0) 4 ++ [.ret (.inr 0)]

/-- It asks for a list of KSVs, and reads the response before the list is there. -/
def askKsvList : List PairAction :=
  .call (.inr 0) (.sdk 7 (.getKsvList 1 ⟨true, true, true⟩)) :: pairSteps (.inr 0) 4 ++
    .call (.inl 0) (.daemon (.messageResponse 1)) :: pairSteps (.inl 0) 9 ++
    pairSteps (.inr 0) 2 ++ pairSteps (.inl 0) 1 ++ [.ret (.inl 0)] ++
    pairSteps (.inr 0) 3 ++ [.ret (.inr 0)]

/-- The condition, as it is decided here. -/
def socketsCheck : PairTrace ℕ ℕ → PairState ℕ ℕ → PairLabel ℕ ℕ → Bool
  | _, _, .op _ _ ⟨.inl (.read _ _), r⟩ => !(readBytes r).isEmpty
  | _, _, .op _ _ ⟨.inl (.send _ _), r⟩ => Except.isOk r
  | _, _, .op _ _ ⟨.inr (.read _ _), r⟩ => !(readBytes r).isEmpty
  | _, _, .op _ _ ⟨.inr (.send _ _), r⟩ => Except.isOk r
  | _, _, _ => true

lemma socketsWork_of_check (X : Finset ℕ) (tr : PairTrace ℕ ℕ) (s : PairState ℕ ℕ)
    (l : PairLabel ℕ ℕ) (h : socketsCheck tr s l) : socketsWork X tr s l := by
  have hne {r : Except Errno (List UInt8)} (h : (!(readBytes r).isEmpty) = true) :
      readBytes r ≠ [] := by
    rintro heq
    rw [heq] at h
    exact absurd h (by simp)
  rw [socketsWork.eq_def]
  split
  · exact fun _ => hne h
  · exact fun _ => h
  · exact hne h
  · exact h
  · trivial

def pairScheduled (as : List PairAction) : Option (PairTrace ℕ ℕ × PairConfig ℕ ℕ) :=
  (pairSystem usualDaemon 0 {4}).schedule (pairMay 0) socketsCheck as []
    ⟨oneSession, fun _ => none⟩

lemma exists_run_of_pairScheduled (as : List PairAction)
    (test : PairTrace ℕ ℕ × PairConfig ℕ ℕ → Bool) (h : (pairScheduled as).any test = true) :
    ∃ x, pairScheduled as = some x ∧
      (pairSystem usualDaemon 0 {4}).Run (socketsWork {4}) oneSession x.1 x.2 ∧ test x = true :=
  System.exists_run_of_schedule (M := pairSystem usualDaemon 0 {4}) (fun _ _ hc => hc)
    (socketsWork_of_check {4}) h

lemma oneSession_established : Established usualDaemon {4} oneSession where
  opened x hx := by
    obtain rfl := Finset.mem_singleton.1 hx
    rfl
  listener := by decide
  unlisted := nofun
  mutex _ := rfl
  toDaemon _ _ := rfl
  toSdk _ _ := rfl

/-- How much was said and heard in the transactions that have ended, the last one first. -/
def exchanged : PairTrace ℕ ℕ → List ℕ
  | [] => []
  | .op _ _ ⟨.inr (.socketEnd x), _⟩ :: tr => (sdkTalk {4} x tr).length :: exchanged tr
  | _ :: tr => exchanged tr

theorem lock_step_sendAndAsk :
    ∃ x, pairScheduled (sendSrm ++ askKsvList) = some x ∧ exchanged x.1 = [210, 390] ∧
      InLockStep socketDataLayout {4} x.1 x.2 := by
  obtain ⟨x, hx, hrun, htest⟩ := exists_run_of_pairScheduled (sendSrm ++ askKsvList)
    (fun x => exchanged x.1 = [210, 390]) (by decide +kernel)
  exact ⟨x, hx, of_decide_eq_true htest, lock_step oneSession_established hrun⟩

end Hdcp.LockStep
