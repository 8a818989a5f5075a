/-
The daemon keeps to the transactions.

`serverMonitor` watches the thread that serves the requests.  On the connection of a session
it does what the transaction says next; the transaction begins again when it is over.  From
the SDK it relies on requests that the transaction allows.  `sat_messageResponse`: a round of
the message loop begins and ends between two transactions, whatever is asked and however the
functions of the port manager and of the SRM module end.

`bystander` watches the other threads, which have nothing to do with sessions.

The connections of the sessions are the set `X`.  The daemon has other connections as well:
those that are accepted later, those for callbacks, and those of other clients, which may send
anything.
-/
import Mathlib.Data.Finset.Basic
import Hdcp.Socket.Transaction
import Hdcp.Daemon.Steps

namespace Hdcp.Transaction

open Library Socket Daemon
open Library.Dialogue (askMany replyMany again)

/-! ### Monitors -/

/-- Where the daemon is on each connection of a session. -/
abbrev ServerPos : Type := ℕ → Dialogue UInt8

/-- Between two transactions. -/
def idle (L : Layout) : ServerPos := fun _ => transaction L

/-- In a transaction on one connection. -/
def serving (L : Layout) (fd : ℕ) (d : Dialogue UInt8) : ServerPos :=
  Function.update (idle L) fd (again (transaction L) d)

/-- The interactions that have nothing to do with the connections of sessions. -/
def Away (X : Finset ℕ) : DaemonOp → Prop
  | .read fd _ | .send fd _ | .close fd | .pushBackCallBack fd => fd ∉ X
  | _ => True

/-- A descriptor of a session is not accepted again. -/
def NotAccepted (X : Finset ℕ) (r : Except Errno ℕ) : Prop := ∀ fd, r = .ok fd → fd ∉ X

/-- A descriptor of a session is not in the list. -/
def NotListed (X : Finset ℕ) (fds : List ℕ) : Prop := ∀ fd ∈ fds, fd ∉ X

/-- What the daemon is told about other connections. -/
def Outside (X : Finset ℕ) : (o : DaemonOp) → o.Ans → Prop
  | .accept, r => NotAccepted X r
  | .getCallBackList, fds => NotListed X fds
  | _, _ => True

/-- The monitor of a thread that has nothing to do with sessions. -/
def bystander (X : Finset ℕ) : Monitor daemonSig ServerPos where
  may _ o := Away X o
  next q o r q' := q' = q ∧ Outside X o r

def serverMay (X : Finset ℕ) (q : ServerPos) : DaemonOp → Prop
  | .read fd n => fd ∈ X → 0 < n ∧ (q fd).Asks
  | .send fd data => fd ∈ X → data ≠ [] ∧ (q fd).walk (replies data) ≠ .never
  | o => Away X o

def serverNext (L : Layout) (X : Finset ℕ) (q : ServerPos) :
    (o : DaemonOp) → o.Ans → ServerPos → Prop
  | .read fd n, r, q' =>
    if fd ∈ X then
      ∃ d, Hears asks (q fd) n r d ∧ q' = Function.update q fd (again (transaction L) d)
    else q' = q
  | .send fd data, r, q' =>
    if fd ∈ X then
      ∃ d, Says replies (q fd) data r d ∧ q' = Function.update q fd (again (transaction L) d)
    else q' = q
  | o, r, q' => q' = q ∧ Outside X o r

/-- The monitor of the thread that serves the requests. -/
def serverMonitor (L : Layout) (X : Finset ℕ) : Monitor daemonSig ServerPos where
  may := serverMay X
  next := serverNext L X

variable {m : HdcpDaemon} {L : Layout} {X : Finset ℕ} {fd n : ℕ} {q : ServerPos}
  {d : Dialogue UInt8} {K : List UInt8 → Dialogue UInt8} {α : Type}

abbrev ServerSat {α : Type} (L : Layout) (X : Finset ℕ) (Q : α → ServerPos → Prop) :
    DaemonProg α → ServerPos → Prop :=
  (serverMonitor L X).Sat Q

@[simp] lemma serving_self : serving L fd d fd = again (transaction L) d :=
  Function.update_self ..

@[simp] lemma serving_done : serving L fd .done = idle L := by
  rw [serving, Dialogue.again_done]
  exact Function.update_eq_self fd _

@[simp] lemma serving_transaction (fd : ℕ) : serving L fd (transaction L) = idle L := by
  rw [serving, Dialogue.again_of_ne transaction_asks.ne_done]
  exact Function.update_eq_self fd _

@[simp] lemma update_serving (d' : Dialogue UInt8) :
    Function.update (serving L fd d) fd (again (transaction L) d') = serving L fd d' :=
  Function.update_idem ..

/-! ### What is away from the sessions -/

lemma away_of_internal (o : DaemonOp) (h : Internal o) : Away X o := by
  cases o with
  | read | send | close | pushBackCallBack => exact h.elim
  | _ => trivial

lemma away_of_serves (hfd : fd ∉ X) (o : DaemonOp) (h : Serves fd o) : Away X o := by
  rcases h with hinternal | ⟨n, rfl⟩ | ⟨bytes, rfl⟩
  · exact away_of_internal o hinternal
  · exact hfd
  · exact hfd

lemma server_of_away (q : ServerPos) (o : DaemonOp) (h : Away X o) :
    (serverMonitor L X).may q o ∧
      ∀ r q', (serverMonitor L X).next q o r q' → q' = q ∧ Outside X o r := by
  cases o with
  | read fd n =>
      have hfd : fd ∉ X := h
      refine ⟨fun hmem => absurd hmem hfd, fun r q' hnext => ?_⟩
      have hsame : if fd ∈ X then _ else q' = q := hnext
      rw [if_neg hfd] at hsame
      exact ⟨hsame, trivial⟩
  | send fd data =>
      have hfd : fd ∉ X := h
      refine ⟨fun hmem => absurd hmem hfd, fun r q' hnext => ?_⟩
      have hsame : if fd ∈ X then _ else q' = q := hnext
      rw [if_neg hfd] at hsame
      exact ⟨hsame, trivial⟩
  | _ => exact ⟨h, fun r q' hnext => hnext⟩

lemma serverNext_of_away {o : DaemonOp} {r : o.Ans} (h : Away X o) (hr : Outside X o r) :
    serverNext L X q o r q := by
  cases o with
  | read fd n =>
      show if fd ∈ X then _ else _
      rw [if_neg h]
  | send fd data =>
      show if fd ∈ X then _ else _
      rw [if_neg h]
  | _ => exact ⟨rfl, hr⟩

lemma serverNext_read {r : Except Errno (List UInt8)} (hfd : fd ∈ X)
    (h : Hears asks (q fd) n r d) :
    serverNext L X q (.read fd n) r (Function.update q fd (again (transaction L) d)) := by
  show if fd ∈ X then _ else _
  rw [if_pos hfd]
  exact ⟨d, h, rfl⟩

lemma serverNext_send {data : List UInt8} {r : Except Errno ℕ} (hfd : fd ∈ X)
    (h : Says replies (q fd) data r d) :
    serverNext L X q (.send fd data) r (Function.update q fd (again (transaction L) d)) := by
  show if fd ∈ X then _ else _
  rw [if_pos hfd]
  exact ⟨d, h, rfl⟩

/-- A program that is away from the sessions. -/
lemma sat_away {p : DaemonProg α} (hp : p.Uses (Away X)) :
    ServerSat L X (fun _ q' => q' = q) p q :=
  Monitor.sat_of_uses hp fun q o h =>
    ⟨(server_of_away q o h).1, fun r q' hnext => ((server_of_away q o h).2 r q' hnext).1⟩

lemma sat_internal {p : DaemonProg α} (hp : p.Uses Internal) :
    ServerSat L X (fun _ q' => q' = q) p q :=
  sat_away (hp.mono away_of_internal)

/-! ### Reading and writing -/

lemma sat_serverRead (hfd : fd ∈ X) (n : ℕ) (hok : askMany n K ≠ .never) :
    ServerSat L X (fun r q => ∃ bytes, r = .ok bytes ∧ bytes.length = n ∧
      q = serving L fd (K bytes) ∧ K bytes ≠ .never)
      (readData (Daemon.read fd) n) (serving L fd (askMany n K)) := by
  let I (n : ℕ) (data : List UInt8) (q : ServerPos) : Prop :=
    q = serving L fd (askMany n fun bytes => K (data ++ bytes)) ∧
      (askMany n fun bytes => K (data ++ bytes)) ≠ .never
  have hstart : I n [] (serving L fd (askMany n K)) := ⟨rfl, hok⟩
  refine (sat_readLoop (fun n data q hn hI => ?_) n le_rfl hstart).mono ?_
  rotate_left
  · rintro r q ⟨bytes, rfl, hlength, rfl, hne⟩
    simp only [Dialogue.askMany_zero, List.append_nil, List.length_nil, Nat.zero_add]
      at hlength hne ⊢
    exact ⟨bytes, rfl, hlength, rfl, hne⟩
  · obtain ⟨rfl, hne⟩ := hI
    have hasks := Dialogue.asks_askMany (K := fun bytes => K (data ++ bytes)) hn
    have hpos : serving L fd (askMany n fun bytes => K (data ++ bytes)) fd =
        askMany n fun bytes => K (data ++ bytes) := by
      rw [serving_self, Dialogue.again_of_ne hasks.ne_done]
    refine Monitor.sat_op (fun _ => ⟨hn, by rwa [hpos]⟩) fun r q' hnext => ?_
    have hmove : if fd ∈ X then _ else _ := hnext
    rw [if_pos hfd, hpos] at hmove
    obtain ⟨d', ⟨bytes, rfl, hbytes, hlength, rfl, hok'⟩, rfl⟩ := hmove
    rw [Dialogue.walk_askMany hlength] at hok' ⊢
    simp only [← List.append_assoc, update_serving] at hok' ⊢
    exact ⟨bytes, rfl, hbytes, hlength, rfl, hok'⟩

lemma sat_serverWrite (hfd : fd ∈ X) {data : List UInt8} (hok : d.walk (replies data) ≠ .never) :
    ServerSat L X (fun r q => r = .success ∧ q = serving L fd (d.walk (replies data)))
      (writeData (Daemon.send fd) data) (serving L fd d) := by
  let J (rest : List UInt8) (q : ServerPos) : Prop :=
    ∃ sent, sent ++ rest = data ∧ q = serving L fd (d.walk (replies sent))
  have hstart : J data (serving L fd d) := ⟨[], rfl, rfl⟩
  refine (sat_writeLoop (fun rest q hrest hJ => ?_) data.length le_rfl hstart).mono ?_
  rotate_left
  · rintro r q ⟨rfl, sent, hsent, rfl⟩
    rw [List.append_nil] at hsent
    subst hsent
    exact ⟨rfl, rfl⟩
  · obtain ⟨sent, hsent, rfl⟩ := hJ
    have hwalk (l : List UInt8) :
        (d.walk (replies sent)).walk (replies l) = d.walk (replies (sent ++ l)) := by
      rw [← Dialogue.walk_append]
      simp [replies]
    have hrest_ok : (d.walk (replies sent)).walk (replies rest) ≠ .never := by
      rw [hwalk, hsent]
      exact hok
    have hpos : serving L fd (d.walk (replies sent)) fd = d.walk (replies sent) := by
      rw [serving_self, Dialogue.again_of_ne (Dialogue.replies_of_walk hrest_ok hrest).ne_done]
    refine Monitor.sat_op (fun _ => ⟨hrest, by rwa [hpos]⟩) fun r q' hnext => ?_
    have hmove : if fd ∈ X then _ else _ := hnext
    rw [if_pos hfd, hpos] at hmove
    obtain ⟨d', ⟨n, rfl, hn, hle, rfl⟩, rfl⟩ := hmove
    refine ⟨n, rfl, hn, hle, sent ++ rest.take n, ?_, ?_⟩
    · rw [List.append_assoc, List.take_append_drop, hsent]
    · rw [hwalk, update_serving]

/-- A response is written. -/
lemma sat_sendResponse (hfd : fd ∈ X) (rsp : SocketData)
    (hok : K (m.layout.encode rsp) ≠ .never) :
    ServerSat m.layout X (fun r q => r = .success ∧
      q = serving m.layout fd (K (m.layout.encode rsp)))
      (m.sendResponse rsp fd) (serving m.layout fd (replyMany m.layout.size K)) := by
  have hwalk := walk_response (L := m.layout) rsp K
  rw [← hwalk] at hok ⊢
  exact sat_serverWrite hfd hok

/-- The last response of a transaction. -/
lemma sat_respond (hfd : fd ∈ X) (rsp : SocketData) (hdone : K (m.layout.encode rsp) = .done) :
    ServerSat m.layout X (fun _ q => q = idle m.layout)
      (m.respond rsp fd) (serving m.layout fd (replyMany m.layout.size K)) := by
  refine (sat_sendResponse hfd rsp (by rw [hdone]; exact nofun)).bind ?_
  rintro sts q ⟨rfl, rfl⟩
  refine Monitor.Sat.ite (fun h => absurd rfl h) fun _ => ?_
  rw [hdone, serving_done]
  exact rfl

/-! ### Requests -/

variable {data : SocketData}

/-- Bytes that are all that is left of a transaction. -/
lemma sat_lastBytes (hfd : fd ∈ X) (bytes : List UInt8) :
    ServerSat L X (fun r q => r = .success ∧ q = idle L) (writeData (Daemon.send fd) bytes)
      (serving L fd (replyMany bytes.length fun _ => .done)) := by
  have hwalk : (replyMany bytes.length fun _ => (.done : Dialogue UInt8)).walk (replies bytes) =
      .done := by
    rw [Dialogue.walk_replyMany le_rfl, Nat.sub_self]
    rfl
  refine (sat_serverWrite hfd (by rw [hwalk]; exact nofun)).mono ?_
  rintro sts q ⟨rfl, rfl⟩
  rw [hwalk, serving_done]
  exact ⟨rfl, rfl⟩

/-- The KSV list is sent. -/
lemma sat_sendKsvListData (hfd : fd ∈ X) {count : UInt8} (hcount : ¬count > maxKsvCount)
    (ksvList : Mem) :
    ServerSat L X (fun r q => r = .success ∧ q = idle L)
      (HdcpDaemon.sendKsvListData (slice ksvList 0 (count.toNat * ksvSize)) fd)
      (serving L fd (replyMany (count.toNat * ksvSize) fun _ => .done)) := by
  have hle : count.toNat ≤ maxKsvCount.toNat := UInt8.le_iff_toNat_le.1 (UInt8.not_lt.1 hcount)
  refine Monitor.Sat.ite (fun hlarge => ?_) fun _ => ?_
  · rw [length_slice, Nat.mul_comm] at hlarge
    exact absurd (Nat.mul_le_mul_left ksvSize hle) (Nat.not_le_of_gt hlarge)
  · have hlast := sat_lastBytes (L := L) hfd (slice ksvList 0 (count.toNat * ksvSize))
    rwa [length_slice] at hlast

/-- `GETKSVLIST`: the response and the list are sent, or nothing is. -/
lemma sat_daemonGetKsvList (hfd : fd ∈ X) (q₀ : ServerPos)
    (hq₀ : q₀ = serving m.layout fd
      (replyMany m.layout.size fun bytes => ksvPhase (m.layout.decode bytes))) :
    ServerSat m.layout X (fun data' q => data'.status ≠ HdcpStatus.successful ∧ q = q₀ ∨
      data'.status = HdcpStatus.successful ∧ q = idle m.layout) (m.getKsvList data fd) q₀ := by
  have hfail (data : SocketData) {status : HdcpStatus} (h : status ≠ HdcpStatus.successful) :
      ServerSat m.layout X (fun data' q => data'.status ≠ HdcpStatus.successful ∧ q = q₀ ∨
        data'.status = HdcpStatus.successful ∧ q = idle m.layout)
        (pure { data with status := status }) q₀ := Or.inl ⟨h, rfl⟩
  refine Monitor.Sat.ite (fun _ => hfail _ (by decide)) fun _ => ?_
  refine Monitor.Sat.ite (fun _ => hfail _ (by decide)) fun _ => ?_
  refine (sat_internal (internal_op (o := .new _) trivial)).bind ?_
  rintro allocated q rfl
  refine Monitor.Sat.ite (fun _ => hfail _ (by decide)) fun _ => ?_
  refine (sat_internal (internal_op (o := .portManagerGetKsvList _) trivial)).bind ?_
  rintro r q rfl
  refine Monitor.Sat.ite (fun _ => hfail _ (by decide)) fun _ => ?_
  refine Monitor.Sat.ite (fun _ => hfail _ (by decide)) fun hcount => ?_
  refine Monitor.Sat.ite (fun _ => hfail _ (by decide)) fun _ => ?_
  -- the response says how long the list is
  let rsp : SocketData :=
    { data with ksvCount := r.ksvCount, depth := r.depth, status := HdcpStatus.successful }
  have hphase : ksvPhase (m.layout.decode (m.layout.encode rsp)) =
      replyMany (r.ksvCount.toNat * ksvSize) fun _ => .done := by
    rw [m.layout.decode_encode, ksvPhase, if_pos rfl]
    exact if_neg hcount
  rw [hq₀]
  refine (sat_sendResponse hfd rsp ?_).bind ?_
  · rw [hphase]
    exact Dialogue.replyMany_ne_never (fun _ => Dialogue.done_ne_never) _
  rintro sts q ⟨rfl, rfl⟩
  refine Monitor.Sat.ite (fun h => absurd rfl h) fun _ => ?_
  rw [hphase]
  refine (sat_sendKsvListData hfd hcount r.ksvList).bind ?_
  rintro sts q ⟨rfl, rfl⟩
  exact Monitor.Sat.ite (fun h => absurd rfl h) fun _ => Or.inr ⟨rfl, rfl⟩

/-- `SENDSRMDATA`: the first response is sent and the SRM is read, or neither. -/
lemma sat_daemonSendSrmData (hfd : fd ∈ X) (q₀ : ServerPos)
    (hq₀ : q₀ = serving m.layout fd
      (replyMany m.layout.size fun bytes => srmPhase m.layout data (m.layout.decode bytes))) :
    ServerSat m.layout X (fun data' q => data'.status ≠ HdcpStatus.successful ∧ q = q₀ ∨
      q = serving m.layout fd (replyMany m.layout.size fun _ => .done))
      (m.sendSrmData data fd) q₀ := by
  have hfail (data : SocketData) {status : HdcpStatus} (h : status ≠ HdcpStatus.successful) :
      ServerSat m.layout X (fun data' q => data'.status ≠ HdcpStatus.successful ∧ q = q₀ ∨
        q = serving m.layout fd (replyMany m.layout.size fun _ => .done))
        (pure { data with status := status }) q₀ := Or.inl ⟨h, rfl⟩
  refine Monitor.Sat.ite (fun _ => hfail _ (by decide)) fun hsize => ?_
  refine (sat_internal (internal_op (o := .new _) trivial)).bind ?_
  rintro allocated q rfl
  refine Monitor.Sat.ite (fun _ => hfail _ (by decide)) fun _ => ?_
  -- the client writes as many bytes as it said
  have hlast : replyMany m.layout.size (fun _ => (.done : Dialogue UInt8)) ≠ .never :=
    Dialogue.replyMany_ne_never (fun _ => Dialogue.done_ne_never) _
  have hphase : srmPhase m.layout data (m.layout.decode (m.layout.encode
      { data with status := HdcpStatus.successful })) =
      askMany data.srmOrKsvListDataSz.toNat fun _ => replyMany m.layout.size fun _ => .done := by
    rw [m.layout.decode_encode, srmPhase, if_pos rfl]
    exact if_neg hsize
  have hsrm : askMany data.srmOrKsvListDataSz.toNat
      (fun _ => replyMany m.layout.size fun _ => (.done : Dialogue UInt8)) ≠ .never :=
    Dialogue.askMany_ne_never (fun _ => hlast) _
  rw [hq₀]
  refine (sat_sendResponse hfd { data with status := HdcpStatus.successful } ?_).bind ?_
  · rw [hphase]
    exact hsrm
  rintro sts q ⟨rfl, rfl⟩
  refine Monitor.Sat.ite (fun h => absurd rfl h) fun _ => ?_
  rw [hphase]
  have hget : ServerSat m.layout X
      (fun _ q => q = serving m.layout fd (replyMany m.layout.size fun _ => .done))
      (HdcpDaemon.getSrmData data.srmOrKsvListDataSz.toNat fd)
      (serving m.layout fd (askMany data.srmOrKsvListDataSz.toNat fun _ =>
        replyMany m.layout.size fun _ => .done)) := by
    refine Monitor.Sat.ite (fun hlarge => ?_) fun _ => ?_
    · have hmax : srmFirstGenMaxSize ≤ maxSrmDataSz := by decide
      exact absurd (lt_of_le_of_lt hmax hlarge) hsize
    · refine (sat_serverRead hfd _ hsrm).mono ?_
      rintro r q ⟨bytes, -, -, rfl, -⟩
      rfl
  refine hget.bind ?_
  rintro (e | srmData) q rfl
  · exact Or.inr rfl
  refine (sat_internal (p := Daemon.storeSrm srmData) (internal_op trivial)).bind ?_
  rintro sts q rfl
  refine Monitor.Sat.ite (fun _ => Or.inr rfl) fun _ => ?_
  refine (sat_internal (p := Daemon.portManagerSendSrmData srmData)
    (internal_op trivial)).bind ?_
  rintro sts q rfl
  exact Monitor.Sat.ite (fun _ => Or.inr rfl) fun _ => Or.inr rfl

/-- What is left to be done after `DispatchCommand`. -/
def Dispatched (L : Layout) (fd : ℕ) (r : SocketData × Bool) (q : ServerPos) : Prop :=
  if r.2 then ∃ K, q = serving L fd (replyMany L.size K) ∧ K (L.encode r.1) = .done
  else q = idle L

lemma sat_dispatchCommand (hfd : fd ∈ X) (hcommand : isSessionCommand data.command) :
    ServerSat m.layout X (Dispatched m.layout fd) (m.dispatchCommand data fd)
      (serving m.layout fd (replyMany m.layout.size fun bytes =>
        afterResponse m.layout data (m.layout.decode bytes))) := by
  -- the requests that are answered by one response
  have hplain {p : DaemonProg SocketData} (hp : p.Uses Internal)
      (hdone : ∀ rsp, afterResponse m.layout data rsp = .done) :
      ServerSat m.layout X (Dispatched m.layout fd) (p >>= fun data => pure (data, true))
        (serving m.layout fd (replyMany m.layout.size fun bytes =>
          afterResponse m.layout data (m.layout.decode bytes))) := by
    refine (sat_internal hp).bind ?_
    rintro rsp q rfl
    exact ⟨_, rfl, hdone _⟩
  have hnot {command : HdcpApiType} (hc : data.command = command)
      (h : isSessionCommand command = false) {p : DaemonProg (SocketData × Bool)} {q : ServerPos} :
      ServerSat m.layout X (Dispatched m.layout fd) p q := by
    rw [hc, h] at hcommand
    exact absurd hcommand Bool.false_ne_true
  have hphase (hksv : data.command ≠ HdcpApi.getKsvList)
      (hsrm : data.command ≠ HdcpApi.sendSrmData) (rsp : SocketData) :
      afterResponse m.layout data rsp = .done := by
    rw [afterResponse, if_neg hksv, if_neg hsrm]
  refine Monitor.Sat.ite (fun hc => ?_) fun _ => ?_
  · exact hplain internal_enumeratePorts (hphase (by rw [hc]; decide) (by rw [hc]; decide))
  refine Monitor.Sat.ite (fun hc => hnot hc rfl) fun _ => ?_
  refine Monitor.Sat.ite (fun hc => hnot hc rfl) fun _ => ?_
  refine Monitor.Sat.ite (fun hc => hnot hc rfl) fun _ => ?_
  refine Monitor.Sat.ite (fun hc => ?_) fun _ => ?_
  · exact hplain internal_setProtectionLevel (hphase (by rw [hc]; decide) (by rw [hc]; decide))
  refine Monitor.Sat.ite (fun hc => ?_) fun _ => ?_
  · exact hplain internal_getStatus (hphase (by rw [hc]; decide) (by rw [hc]; decide))
  refine Monitor.Sat.ite (fun hc => ?_) fun hksv => ?_
  · have hafter (rsp : SocketData) : afterResponse m.layout data rsp = ksvPhase rsp := by
      rw [afterResponse, if_pos hc]
    simp only [hafter]
    refine (sat_daemonGetKsvList hfd _ rfl).bind ?_
    rintro rsp q (⟨hstatus, rfl⟩ | ⟨hstatus, rfl⟩)
    · have hsend : decide (rsp.status ≠ HdcpStatus.successful) = true := decide_eq_true hstatus
      rw [hsend]
      refine ⟨_, rfl, ?_⟩
      rw [m.layout.decode_encode, ksvPhase, if_neg hstatus]
    · rw [hstatus]
      exact rfl
  refine Monitor.Sat.ite (fun hc => ?_) fun hsrm => ?_
  · have hafter (rsp : SocketData) :
        afterResponse m.layout data rsp = srmPhase m.layout data rsp := by
      rw [afterResponse, if_neg hksv, if_pos hc]
    simp only [hafter]
    refine (sat_daemonSendSrmData hfd _ rfl).bind ?_
    rintro rsp q (⟨hstatus, rfl⟩ | rfl)
    · refine ⟨_, rfl, ?_⟩
      rw [m.layout.decode_encode, srmPhase, if_neg hstatus]
    · exact ⟨_, rfl, rfl⟩
  refine Monitor.Sat.ite (fun _ => hplain internal_getSrmVersion (hphase hksv hsrm)) fun _ => ?_
  refine Monitor.Sat.ite (fun _ => hplain internal_config (hphase hksv hsrm)) fun _ => ?_
  exact ⟨_, rfl, hphase hksv hsrm _⟩

/-- A request of a session is answered to the end. -/
lemma sat_answerTask {task : HdcpDaemon.Task} (hfd : task.appId ∈ X)
    (hreq : answered m.layout task.req ≠ .never) :
    ServerSat m.layout X (fun _ q => q = idle m.layout) (m.answerTask task)
      (serving m.layout task.appId (answered m.layout task.req)) := by
  obtain ⟨⟨hsize, hcommand⟩, hanswer⟩ := answered_ne_never hreq
  rw [hanswer]
  refine Monitor.Sat.ite (fun h => absurd hsize.symm h) fun _ => ?_
  refine (sat_dispatchCommand hfd hcommand).bind ?_
  rintro ⟨rsp, sendResponse⟩ q hdispatched
  cases sendResponse with
  | false => exact hdispatched
  | true =>
      obtain ⟨K, rfl, hdone⟩ := hdispatched
      exact sat_respond hfd rsp hdone

/-! ### New connections -/

lemma away_findEmptySlot (todo i : ℕ) : (HdcpDaemon.findEmptySlot todo i).Uses (Away X) := by
  induction todo generalizing i with
  | zero => trivial
  | succ todo ih =>
      refine Prog.Uses.bind (Prog.uses_op.2 trivial) fun slot => ?_
      exact Prog.Uses.ite (fun _ => trivial) fun _ => ih (i + 1)

/-- A connection that is accepted now is not one of the sessions. -/
lemma sat_acceptLoop (rounds emptyIndex : ℕ) :
    ServerSat L X (fun _ q' => q' = q) (m.acceptLoop rounds emptyIndex) q := by
  induction rounds generalizing emptyIndex with
  | zero => rfl
  | succ rounds ih =>
      refine (Monitor.sat_op (μ := serverMonitor L X) (o := .accept)
        (Q := fun r q' => q' = q ∧ NotAccepted X r) trivial fun _ _ h => h).bind ?_
      rintro (e | incomingFd) q₁ ⟨rfl, haccept⟩
      · exact rfl
      · have hfd : incomingFd ∉ X := haccept incomingFd rfl
        refine (sat_away (away_findEmptySlot _ _)).bind ?_
        rintro (- | i) q₂ rfl
        · have hclose : (Daemon.close incomingFd).Uses (Away X) := Prog.uses_op.2 hfd
          refine (sat_away hclose).bind ?_
          rintro sts q₃ rfl
          exact rfl
        · have hset : (Daemon.setSlot i incomingFd).Uses (Away X) := Prog.uses_op.2 trivial
          refine (sat_away hset).bind ?_
          rintro - q₃ rfl
          refine (sat_away (serves_sendResponse.mono (away_of_serves hfd))).bind ?_
          rintro sts q₄ rfl
          exact ih i

/-! ### The message loop -/

/-- A request that was read. -/
def Taken (L : Layout) (X : Finset ℕ) (task : HdcpDaemon.Task) (q : ServerPos) : Prop :=
  task.appId ∉ X ∧ q = idle L ∨ task.appId ∈ X ∧ answered L task.req ≠ .never ∧
    q = serving L task.appId (answered L task.req)

lemma isSessionCommand_ne {command : HdcpApiType} (h : isSessionCommand command) :
    ¬(command = HdcpApi.createCallBack ∨ command = HdcpApi.destroy) := by
  rintro (rfl | rfl)
  · exact absurd h (by decide)
  · exact absurd h (by decide)

lemma sat_serveSlot (i fd : ℕ) :
    ServerSat m.layout X (Taken m.layout X) (m.serveSlot i fd) (idle m.layout) := by
  have haway {α : Type} {p : DaemonProg α} (hp : p.Uses (Away X)) :
      ServerSat m.layout X (fun _ q' => q' = idle m.layout) p (idle m.layout) := sat_away hp
  by_cases hfd : fd ∈ X
  · rw [← serving_transaction fd]
    have hread := sat_serverRead (L := m.layout) hfd m.layout.size
      (K := fun bytes => answered m.layout (m.layout.decode bytes))
      transaction_asks.ne_never
    refine (hread.bind (R := fun r q => ∃ req, r = .ok req ∧ answered m.layout req ≠ .never ∧
      q = serving m.layout fd (answered m.layout req)) ?_).bind ?_
    · rintro r q ⟨bytes, rfl, -, rfl, hne⟩
      exact ⟨m.layout.decode bytes, rfl, hne, rfl⟩
    · rintro r q ⟨req, rfl, hne, rfl⟩
      have hcommand := isSessionCommand_ne (answered_ne_never hne).1.2
      exact Monitor.Sat.ite (fun h => absurd h hcommand) fun _ => Or.inr ⟨hfd, hne, rfl⟩
  · -- other clients may send anything
    have hfree : (Daemon.freeSlot i).Uses (Away X) := Prog.uses_op.2 trivial
    have hclose : (Daemon.close fd).Uses (Away X) := Prog.uses_op.2 hfd
    refine (haway (serves_getRequest.mono (away_of_serves hfd))).bind ?_
    rintro (e | req) q rfl
    · refine (haway hclose).bind ?_
      rintro sts q rfl
      refine (haway hfree).bind ?_
      rintro held q rfl
      exact Or.inl ⟨hfd, rfl⟩
    · refine Monitor.Sat.ite (fun _ => ?_) fun _ => Or.inl ⟨hfd, rfl⟩
      refine (haway hfree).bind ?_
      rintro held q rfl
      exact Or.inl ⟨hfd, rfl⟩

/-- What the search for a request ends with. -/
def Searched (L : Layout) (X : Finset ℕ) (r : Except Errno (ℕ × Option HdcpDaemon.Task))
    (q : ServerPos) : Prop :=
  match r with
  | .ok (_, some task) => Taken L X task q
  | _ => q = idle L

lemma sat_getTaskLoop (fdIndex todo i : ℕ) :
    ServerSat m.layout X (Searched m.layout X) (m.getTaskLoop fdIndex todo i) (idle m.layout) := by
  induction todo generalizing i with
  | zero => rfl
  | succ todo ih =>
      refine Monitor.Sat.ite (fun _ => rfl) fun _ => ?_
      have hslot : (Daemon.getSlot i).Uses (Away X) := Prog.uses_op.2 trivial
      refine (sat_away hslot).bind ?_
      rintro ⟨fd, revents⟩ q rfl
      cases fd with
      | none => exact ih _
      | some fd =>
          refine Monitor.Sat.ite (fun _ => ih _) fun _ => Monitor.Sat.ite (fun _ => ?_) fun _ => ?_
          · refine (sat_acceptLoop _ _).bind ?_
            rintro ret q rfl
            exact Monitor.Sat.ite (fun _ => rfl) fun _ => ih _
          · refine (sat_serveSlot i fd).bind ?_
            rintro task q htaken
            exact htaken

/-- What `GetTask` ends with. -/
def Got (L : Layout) (X : Finset ℕ) (r : Except Errno HdcpDaemon.Task) (q : ServerPos) : Prop :=
  match r with
  | .ok task => Taken L X task q
  | .error _ => q = idle L

lemma sat_getTaskRound :
    ServerSat m.layout X (Monitor.Round (fun _ q => q = idle m.layout) (Got m.layout X))
      m.getTaskRound (idle m.layout) := by
  have hpoll : pollForEvent.Uses (Away X) := Prog.uses_op.2 trivial
  have hget : getFdIndex.Uses (Away X) := Prog.uses_op.2 trivial
  refine (sat_away hpoll).bind ?_
  rintro (e | revents) q rfl
  · exact rfl
  refine (sat_away hget).bind ?_
  rintro fdIndex q rfl
  refine (sat_getTaskLoop fdIndex _ fdIndex).bind ?_
  rintro (e | ⟨i, task⟩) q hsearched
  · exact hsearched
  have hset : (setFdIndex i).Uses (Away X) := Prog.uses_op.2 trivial
  refine (sat_away hset).bind ?_
  rintro - q rfl
  cases task with
  | none => exact hsearched
  | some task => exact hsearched

/-- What another client asks for is away from the sessions. -/
lemma away_answerTask {task : HdcpDaemon.Task} (hfd : task.appId ∉ X) :
    (m.answerTask task).Uses (Away X) := by
  by_cases hc : task.req.command = HdcpApi.createCallBack
  · have hrespond (rsp : SocketData) : (m.respond rsp task.appId).Uses (Away X) :=
      serves_respond.mono (away_of_serves hfd)
    have hregister : (m.dispatchCommand task.req task.appId).Uses (Away X) := by
      rw [HdcpDaemon.dispatchCommand, hc]
      refine Prog.Uses.ite (fun h => absurd h (by decide)) fun _ => ?_
      refine Prog.Uses.ite (fun h => absurd h (by decide)) fun _ => ?_
      refine Prog.Uses.ite (fun h => absurd h (by decide)) fun _ => ?_
      refine Prog.Uses.ite (fun _ => ?_) fun h => absurd rfl h
      exact ⟨trivial, fun _ => ⟨trivial, fun _ => ⟨hfd, fun _ => ⟨trivial, fun _ => trivial⟩⟩⟩⟩
    refine Prog.Uses.ite (fun _ => hrespond _) fun _ => hregister.bind ?_
    rintro ⟨rsp, sendResponse⟩
    exact Prog.Uses.ite (fun _ => hrespond rsp) fun _ => trivial
  · exact (serves_answerTask hc).mono (away_of_serves hfd)

/-- A round of the message loop begins and ends between two transactions. -/
lemma sat_messageResponse (rounds : ℕ) :
    ServerSat m.layout X (fun _ q => q = idle m.layout) (m.messageResponse rounds)
      (idle m.layout) := by
  have hround (b : Unit) (q : ServerPos) (hq : q = idle m.layout) :
      ServerSat m.layout X (Monitor.Round (fun _ q => q = idle m.layout) (Got m.layout X))
        m.getTaskRound q := by
    rw [hq]
    exact sat_getTaskRound
  refine (Monitor.sat_iter hround rounds (b := ()) rfl).bind ?_
  rintro (- | (e | task)) q hgot
  · exact hgot.elim fun _ h => h
  · exact hgot
  · rcases hgot with ⟨hfd, rfl⟩ | ⟨hfd, hreq, rfl⟩
    · exact sat_away (away_answerTask hfd)
    · exact sat_answerTask hfd hreq

/-! ### Reports -/

abbrev BystanderSat {α : Type} (X : Finset ℕ) (Q : α → ServerPos → Prop) :
    DaemonProg α → ServerPos → Prop :=
  (bystander X).Sat Q

lemma sat_bystander {p : DaemonProg α} (hp : p.Uses (Away X)) :
    BystanderSat X (fun _ q' => q' = q) p q :=
  Monitor.sat_of_uses hp fun _ _ h => ⟨h, fun _ _ hnext => hnext.1⟩

lemma sat_reportLoop {data : SocketData} {fds : List ℕ} (hfds : NotListed X fds) (i : ℕ) :
    BystanderSat X (fun _ q' => q' = q) (m.reportLoop data fds i) q := by
  induction fds generalizing i with
  | nil => rfl
  | cons fd fds ih =>
      have hfd : fd ∉ X := hfds fd List.mem_cons_self
      have hrest : NotListed X fds := fun fd' hmem => hfds fd' (List.mem_cons_of_mem fd hmem)
      refine (sat_bystander (serves_sendResponse.mono (away_of_serves hfd))).bind ?_
      rintro sts q₁ rfl
      refine Monitor.Sat.ite (fun _ => ?_) fun _ => ih hrest (i + 1)
      have hclose : (Daemon.close fd).Uses (Away X) := Prog.uses_op.2 hfd
      have herase : (eraseCallBackAt i).Uses (Away X) := Prog.uses_op.2 trivial
      refine (sat_bystander hclose).bind ?_
      rintro sts q₂ rfl
      refine (sat_bystander herase).bind ?_
      rintro - q₃ rfl
      exact ih hrest i

/-- `ReportStatus` writes to the connections for callbacks only. -/
lemma sat_reportStatus (event portId : UInt32) :
    BystanderSat X (fun _ q' => q' = q) (m.reportStatus event portId) q := by
  have hbegin : callBackBegin.Uses (Away X) := Prog.uses_op.2 trivial
  have hend : callBackEnd.Uses (Away X) := Prog.uses_op.2 trivial
  refine (sat_bystander hbegin).bind ?_
  rintro - q₁ rfl
  refine (Monitor.sat_op (μ := bystander X) (o := .getCallBackList)
    (Q := fun fds q' => q' = q₁ ∧ NotListed X fds) trivial fun _ _ h => h).bind ?_
  rintro fds q₂ ⟨rfl, hfds⟩
  refine (sat_reportLoop hfds 0).bind ?_
  rintro - q₃ rfl
  exact sat_bystander hend

end Hdcp.Transaction
