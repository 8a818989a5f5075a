/-
The calls of the SDK when everything can fail.

Here a `read` or a `send` may fail at any time, a `send` may take a part of its bytes, and the
daemon may answer what it likes.  `exchange` says which side is to write: the request, the
response, and what follows a response that reports success.  Other than `transaction`, it allows
every response.

`callerMonitor` watches a thread of the SDK.  The thread writes on the socket of a session when
it is its turn, gives the mutex back whatever happens, and `sat_request` says what it has when it
returns success: the final reply to its request, which it has sent as a whole.  This is so on
the connections `X`, where the thread reads nothing that the other side was not to write.
-/
import Hdcp.Socket.Transaction
import Hdcp.Sdk.Session

namespace Hdcp.Confirmation

open Library Socket Session Transaction
open Library.Dialogue (askMany replyMany)

variable (L : Layout)

/-! ### The dialogue -/

/-- What follows a response. -/
def following (req rsp : SocketData) : Dialogue UInt8 :=
  if rsp.status ≠ HdcpStatus.successful then .done
  else if req.command = HdcpApi.getKsvList then
    replyMany (rsp.ksvCount.toNat * ksvSize) fun _ => .done
  else if req.command = HdcpApi.sendSrmData then
    askMany req.srmOrKsvListDataSz.toNat fun _ => replyMany L.size fun _ => .done
  else .done

/-- A request, the response, and what follows. -/
def exchange : Dialogue UInt8 :=
  askMany L.size fun req => replyMany L.size fun rsp => following L (L.decode req) (L.decode rsp)

/-- The request was sent, and the final reply to it was received completely.  The reply to
`GETKSVLIST` includes the list; the reply to `SENDSRMDATA` is final when the SRM was sent. -/
inductive Received (L : Layout) (req : SocketData) : Talk UInt8 → SocketData → Prop where
  | response (rsp : List UInt8)
      (hcommand : req.command ≠ HdcpApi.getKsvList ∧ req.command ≠ HdcpApi.sendSrmData)
      (hsize : rsp.length = L.size) :
      Received L req (asks (L.encode req) ++ replies rsp) (L.decode rsp)
  | ksvList (rsp ksvList : List UInt8) (hcommand : req.command = HdcpApi.getKsvList)
      (hsize : rsp.length = L.size)
      (hlist : ksvList.length = (L.decode rsp).ksvCount.toNat * ksvSize) :
      Received L req (asks (L.encode req) ++ replies rsp ++ replies ksvList) (L.decode rsp)
  | srm (first srmData last : List UInt8) (hcommand : req.command = HdcpApi.sendSrmData)
      (hfirst : first.length = L.size)
      (hstatus : (L.decode first).status = HdcpStatus.successful)
      (hsrm : srmData.length = req.srmOrKsvListDataSz.toNat) (hlast : last.length = L.size) :
      Received L req (asks (L.encode req) ++ replies first ++ asks srmData ++ replies last)
        (L.decode last)

variable {L} {handle x n : ℕ} {req rsp : SocketData} {t u : Talk UInt8} {data : List UInt8}

lemma following_ne_never : following L req rsp ≠ .never := by
  have hdone (n : ℕ) : replyMany n (fun _ => (.done : Dialogue UInt8)) ≠ .never :=
    Dialogue.replyMany_ne_never (fun _ => Dialogue.done_ne_never) n
  rw [following]
  split_ifs
  · exact nofun
  · exact hdone _
  · exact Dialogue.askMany_ne_never (fun _ => hdone _) _
  · exact nofun

lemma exchange_asks : (exchange L).Asks := Dialogue.asks_askMany (layout_size_pos L)

/-- The daemon has the last word. -/
lemma exchange_replied : (exchange L).Replied := by
  have hlast (n : ℕ) : (replyMany n fun _ => (.done : Dialogue UInt8)).Replied :=
    Dialogue.replyMany_replied (K := fun _ => .done) (fun _ => trivial) n
  have hreply : (replyMany L.size fun _ => (.done : Dialogue UInt8)) ≠ .done :=
    (Dialogue.replies_replyMany (layout_size_pos L)).ne_done
  refine (Dialogue.askMany_replied (fun req => ⟨?_, ?_⟩) _).2
  · exact (Dialogue.replies_replyMany (layout_size_pos L)).ne_done
  · refine Dialogue.replyMany_replied (fun rsp => ?_) _
    rw [following]
    split_ifs
    · trivial
    · exact hlast _
    · exact (Dialogue.askMany_replied (fun _ => ⟨hreply, hlast _⟩) _).2
    · trivial

lemma walk_request (req : SocketData) :
    (exchange L).walk (asks (L.encode req)) =
      replyMany L.size fun rsp => following L req (L.decode rsp) := by
  rw [exchange, Dialogue.walk_askMany (by simp)]
  simp

/-- A request and its response. -/
lemma walk_respond (req : SocketData) {rsp : List UInt8} (hsize : rsp.length = L.size) :
    (exchange L).walk (asks (L.encode req) ++ replies rsp) = following L req (L.decode rsp) := by
  rw [Dialogue.walk_append, walk_request, Dialogue.walk_replyMany hsize.le, hsize]
  simp

/-- With the final reply, the exchange is over. -/
lemma Received.walk (h : Received L req t rsp) (hstatus : rsp.status = HdcpStatus.successful) :
    (exchange L).walk t = .done := by
  cases h with
  | response rsp hcommand hsize =>
      rw [walk_respond req hsize, following, if_neg (not_not.2 hstatus), if_neg hcommand.1,
        if_neg hcommand.2]
  | ksvList rsp ksvList hcommand hsize hlist =>
      rw [Dialogue.walk_append, walk_respond req hsize, following, if_neg (not_not.2 hstatus),
        if_pos hcommand, Dialogue.walk_replyMany hlist.le, hlist, Nat.sub_self]
      rfl
  | srm first srmData last hcommand hfirst hfirstStatus hsrm hlast =>
      have hksv : req.command ≠ HdcpApi.getKsvList := by
        rw [hcommand]
        decide
      rw [Dialogue.walk_append, Dialogue.walk_append, walk_respond req hfirst, following,
        if_neg (not_not.2 hfirstStatus), if_neg hksv, if_pos hcommand,
        Dialogue.walk_askMany hsrm.le, hsrm, Nat.sub_self, Dialogue.askMany_zero,
        Dialogue.walk_replyMany hlast.le, hlast, Nat.sub_self]
      rfl

/-! ### What a call has done -/

/-- What a call has done: the handle and the session that it has found for it, what it has said
and heard in the transaction that it is in, and in the last one that has ended. -/
structure Standing where
  found : Option (ℕ × ℕ)
  current : Option (ℕ × Talk UInt8)
  last : Option (ℕ × Talk UInt8)

namespace Standing

def start : Standing := ⟨none, none, none⟩

def speak (q : Standing) (u : Talk UInt8) : Standing :=
  { q with current := q.current.map fun p => (p.1, p.2 ++ u) }

def after (q : Standing) : Event sessionSig → Standing
  | ⟨.getInstance handle, r⟩ => { q with found := Option.map (handle, ·) r }
  | ⟨.putInstance _, _⟩ => q
  | ⟨.socketBegin x, _⟩ => { q with current := some (x, []) }
  | ⟨.socketEnd _, _⟩ => { q with current := none, last := q.current }
  | ⟨.read _ _, r⟩ => q.speak (replies (readBytes r))
  | ⟨.send _ data, r⟩ => q.speak (asks (sentBytes data r))

end Standing

/-- The thread uses the socket of a session while it holds its mutex, and writes when it is its
turn. -/
def callerMay (L : Layout) (q : Standing) : SessionOp → Prop
  | .getInstance _ | .putInstance _ => True
  | .socketBegin _ => q.current = none
  | .socketEnd x => ∃ t, q.current = some (x, t)
  | .read x n => 0 < n ∧ ∃ t, q.current = some (x, t)
  | .send x data =>
    data ≠ [] ∧ ∃ t, q.current = some (x, t) ∧ (exchange L).walk (t ++ asks data) ≠ .never

/-- The answers that are considered: what a system call promises, and on the connections `X` no
bytes that the other side was not to write.  A `send` that fails sets `errno`. -/
def Expected (L : Layout) (X : Set ℕ) (q : Standing) : Event sessionSig → Prop
  | ⟨.read _ n, r⟩ => readAnswer n r ∧ ∀ x t, q.current = some (x, t) → x ∈ X →
    (exchange L).walk (t ++ replies (readBytes r)) ≠ .never
  | ⟨.send _ data, r⟩ => sendAnswer data.length r ∧ r ≠ .error .success
  | _ => True

/-- The monitor of a thread of the SDK. -/
def callerMonitor (L : Layout) (X : Set ℕ) : Monitor sessionSig Standing where
  may := callerMay L
  next q o r q' := Expected L X q ⟨o, r⟩ ∧ q' = q.after ⟨o, r⟩

abbrev CallerSat {α : Type} (L : Layout) (X : Set ℕ) (Q : α → Standing → Prop) :
    SessionProg α → Standing → Prop :=
  (callerMonitor L X).Sat Q

/-- The call is in a transaction on its session. -/
structure Talking (handle x : ℕ) (t : Talk UInt8) (q : Standing) : Prop where
  found : q.found = some (handle, x)
  current : q.current = some (x, t)

/-- The call has found its session, and is in no transaction. -/
structure Between (handle x : ℕ) (q : Standing) : Prop where
  found : q.found = some (handle, x)
  current : q.current = none

variable {X : Set ℕ} {q : Standing} {ret : HdcpStatus}

lemma Talking.speak (h : Talking handle x t q) (u : Talk UInt8) :
    Talking handle x (t ++ u) (q.speak u) := by
  refine ⟨h.found, ?_⟩
  rw [Standing.speak, h.current]
  rfl

/-! ### Reading and writing -/

lemma sat_read (h : Talking handle x t q) (hn : 0 < n) :
    CallerSat L X (fun r q' => readAnswer n r = true ∧
      Talking handle x (t ++ replies (readBytes r)) q' ∧
      (x ∈ X → (exchange L).walk (t ++ replies (readBytes r)) ≠ .never)) (Session.read x n) q := by
  refine Monitor.sat_op ⟨hn, t, h.current⟩ ?_
  rintro r q' ⟨⟨hanswer, hok⟩, rfl⟩
  exact ⟨hanswer, h.speak _, hok x t h.current⟩

lemma sat_readData (n : ℕ) (h : Talking handle x t q) (hok : (exchange L).walk t ≠ .never) :
    CallerSat L X (fun r q' => (∃ bytes, r = .ok bytes ∧ bytes.length = n ∧
      Talking handle x (t ++ replies bytes) q' ∧
      (x ∈ X → (exchange L).walk (t ++ replies bytes) ≠ .never)) ∨
        (∃ e, r = .error e) ∧ ∃ t', Talking handle x t' q') (readData (Session.read x) n) q := by
  let I (_ : ℕ) (bytes : List UInt8) (q : Standing) : Prop :=
    Talking handle x (t ++ replies bytes) q ∧
      (x ∈ X → (exchange L).walk (t ++ replies bytes) ≠ .never)
  let F (q : Standing) : Prop := ∃ t', Talking handle x t' q
  have happend (l l' : List UInt8) : t ++ replies l ++ replies l' = t ++ replies (l ++ l') := by
    simp [replies]
  have hstart : I n [] q := by
    simpa [I, replies] using And.intro h fun _ => hok
  refine (sat_readLoop_or (I := I) (F := F) (fun n bytes q hn hI => ?_) n le_rfl hstart).mono ?_
  · refine (sat_read hI.1 hn).mono ?_
    rintro r q' ⟨hanswer, htalking, hok'⟩
    rw [happend] at htalking hok'
    by_cases hnone : readBytes r = []
    · exact Or.inr ⟨hnone, _, htalking⟩
    · cases (r : Except Errno (List UInt8)) with
      | error e => exact absurd rfl hnone
      | ok new =>
          exact Or.inl ⟨new, rfl, hnone, of_decide_eq_true hanswer, htalking, hok'⟩
  · rintro r q' (⟨bytes, rfl, hlength, hI⟩ | hfails)
    · exact Or.inl ⟨bytes, rfl, by simpa using hlength, hI⟩
    · exact Or.inr hfails

lemma sat_writeData (h : Talking handle x t q) (hok : (exchange L).walk (t ++ asks data) ≠ .never) :
    CallerSat L X (fun r q' => r = .success ∧ Talking handle x (t ++ asks data) q' ∨
      r ≠ .success ∧ ∃ t', Talking handle x t' q') (writeData (Session.send x) data) q := by
  let J (rest : List UInt8) (q : Standing) : Prop :=
    ∃ sent, sent ++ rest = data ∧ Talking handle x (t ++ asks sent) q
  let F (q : Standing) : Prop := ∃ t', Talking handle x t' q
  have happend (l l' : List UInt8) : t ++ asks l ++ asks l' = t ++ asks (l ++ l') := by
    simp [asks]
  have hstart : J data q := ⟨[], rfl, by simpa [asks] using h⟩
  refine (sat_writeLoop_or (J := J) (F := F) (fun rest q hrest hJ => ?_) data.length le_rfl
    hstart).mono ?_
  · obtain ⟨sent, hsent, htalking⟩ := hJ
    refine Monitor.sat_op ⟨hrest, _, htalking.current, ?_⟩ ?_
    · rw [happend, hsent]
      exact hok
    · rintro r q' ⟨⟨hanswer, herror⟩, rfl⟩
      have hspoken := htalking.speak (asks (sentBytes rest r))
      rw [happend] at hspoken
      cases (r : Except Errno ℕ) with
      | error e => exact Or.inr ⟨⟨e, rfl, fun he => herror (he ▸ rfl)⟩, _, hspoken⟩
      | ok n =>
          obtain ⟨hpos, hn⟩ : 0 < n ∧ n ≤ rest.length := of_decide_eq_true hanswer
          refine Or.inl ⟨n, rfl, hpos, hn, sent ++ rest.take n, ?_, hspoken⟩
          rw [List.append_assoc, List.take_append_drop, hsent]
  · rintro r q' (⟨rfl, sent, hsent, htalking⟩ | hfails)
    · rw [List.append_nil] at hsent
      exact Or.inl ⟨rfl, hsent ▸ htalking⟩
    · exact Or.inr hfails

lemma sat_getMessage (h : Talking handle x t q) (hok : (exchange L).walk t ≠ .never) :
    CallerSat L X (fun r q' => (∃ rsp, r = .ok (L.decode rsp) ∧ rsp.length = L.size ∧
      Talking handle x (t ++ replies rsp) q' ∧
      (x ∈ X → (exchange L).walk (t ++ replies rsp) ≠ .never)) ∨
        (∃ e, r = .error e) ∧ ∃ t', Talking handle x t' q') (getMessage L x) q := by
  refine (sat_readData L.size h hok).bind ?_
  rintro r q' (⟨rsp, rfl, hread⟩ | ⟨⟨e, rfl⟩, hfails⟩)
  · exact Or.inl ⟨rsp, rfl, hread⟩
  · exact Or.inr ⟨⟨e, rfl⟩, hfails⟩

/-- A request is made; its status is the one of the response when this is there. -/
lemma sat_performMessageTransaction (req : SocketData) (h : Talking handle x [] q) :
    CallerSat L X (fun r q' => (∃ rsp, r = ((L.decode rsp).status, L.decode rsp) ∧
      rsp.length = L.size ∧ Talking handle x (asks (L.encode req) ++ replies rsp) q') ∨
        r.1 = HdcpStatus.errorMsgTransaction ∧ ∃ t', Talking handle x t' q')
      (performMessageTransaction L x req) q := by
  have hreply : (exchange L).walk (asks (L.encode req)) ≠ .never := by
    rw [walk_request]
    exact (Dialogue.replies_replyMany (layout_size_pos L)).ne_never
  refine (sat_writeData (t := []) h hreply).bind ?_
  rintro sts q₁ (⟨rfl, h₁⟩ | ⟨hsts, hfails⟩)
  · refine Monitor.Sat.ite (fun hsts => absurd rfl hsts) fun _ => ?_
    refine (sat_getMessage h₁ hreply).bind ?_
    rintro r q₂ (⟨rsp, rfl, hsize, h₂, -⟩ | ⟨⟨e, rfl⟩, hfails⟩)
    · exact Or.inl ⟨rsp, rfl, hsize, h₂⟩
    · exact Or.inr ⟨rfl, hfails⟩
  · exact Monitor.Sat.ite (fun _ => Or.inr ⟨rfl, hfails⟩) fun hok => absurd (not_not.1 hok) hsts

lemma sat_socketBegin (h : Between handle x q) :
    CallerSat L X (fun _ q' => Talking handle x [] q') (socketBegin x) q := by
  refine Monitor.sat_op h.current ?_
  rintro r q' ⟨-, rfl⟩
  exact ⟨h.found, rfl⟩

lemma sat_socketEnd (h : Talking handle x t q) :
    CallerSat L X (fun _ q' => Between handle x q' ∧ q'.last = some (x, t)) (socketEnd x) q := by
  refine Monitor.sat_op ⟨t, h.current⟩ ?_
  rintro r q' ⟨-, rfl⟩
  exact ⟨⟨h.found, rfl⟩, h.current⟩

/-- A transaction that is all that is done under the mutex. -/
lemma sat_lockedTransaction (req : SocketData) (h : Between handle x q) :
    CallerSat L X (fun r q' => Between handle x q' ∧ (r.1 = HdcpStatus.successful →
      ∃ rsp, r.2 = L.decode rsp ∧ (L.decode rsp).status = HdcpStatus.successful ∧
        rsp.length = L.size ∧ q'.last = some (x, asks (L.encode req) ++ replies rsp)))
      (lockedTransaction L x req) q := by
  refine (sat_socketBegin h).bind fun _ q₁ h₁ => ?_
  refine (sat_performMessageTransaction req h₁).bind ?_
  rintro r q₂ (⟨rsp, rfl, hsize, h₂⟩ | ⟨hret, t', h₂⟩)
  · refine (sat_socketEnd h₂).bind fun _ q₃ h₃ => ⟨h₃.1, fun hret => ?_⟩
    exact ⟨rsp, rfl, hret, hsize, h₃.2⟩
  · refine (sat_socketEnd h₂).bind fun _ q₃ h₃ => ⟨h₃.1, fun hsuccess => ?_⟩
    have hne : HdcpStatus.errorMsgTransaction ≠ HdcpStatus.successful := by decide
    exact absurd (hret.symm.trans hsuccess) hne

/-! ### The functions of a session -/

/-- Success means that the final reply to the request was received in the last transaction. -/
structure Ends (L : Layout) (X : Set ℕ) (req : SocketData) (handle x : ℕ) (ret : HdcpStatus)
    (q : Standing) : Prop where
  between : Between handle x q
  success : ret = HdcpStatus.successful → x ∈ X →
    ∃ t rsp, q.last = some (x, t) ∧ Received L req t rsp ∧ rsp.status = HdcpStatus.successful

lemma Ends.of_failure (h : Between handle x q) (hret : ret ≠ HdcpStatus.successful) :
    Ends L X req handle x ret q :=
  ⟨h, fun hsuccess => absurd hsuccess hret⟩

/-- A function that makes one transaction, and reports success only when this does. -/
lemma sat_status {α : Type} {f : HdcpStatus × SocketData → SessionProg α} {v : α → HdcpStatus}
    (hcommand : req.command ≠ HdcpApi.getKsvList ∧ req.command ≠ HdcpApi.sendSrmData)
    (h : Between handle x q)
    (hf : ∀ r q', Between handle x q' → CallerSat L X (fun a q'' => Between handle x q'' ∧
      (v a = HdcpStatus.successful → r.1 = HdcpStatus.successful ∧ q'' = q')) (f r) q') :
    CallerSat L X (fun a q' => Ends L X req handle x (v a) q')
      (lockedTransaction L x req >>= f) q := by
  refine (sat_lockedTransaction req h).bind fun r q₁ h₁ => ?_
  refine (hf r q₁ h₁.1).mono fun a q₂ h₂ => ⟨h₂.1, fun hsuccess _ => ?_⟩
  obtain ⟨hret, rfl⟩ := h₂.2 hsuccess
  obtain ⟨rsp, -, hstatus, hsize, hlast⟩ := h₁.2 hret
  exact ⟨_, _, hlast, .response rsp hcommand hsize, hstatus⟩

lemma sat_enumerateDisplay (h : Between handle x q) (portList : Option PortList) :
    CallerSat L X (fun r q' => Ends L X (request L HdcpApi.enumerateHdcpDisplay) handle x r.1 q')
      (Session.enumerateDisplay L x portList) q := by
  cases portList with
  | none => exact Ends.of_failure h (by decide)
  | some portList =>
      refine sat_status (of_decide_eq_true rfl) h fun r q' hq' => ?_
      refine Monitor.Sat.ite (fun hret => ⟨hq', fun h => absurd h hret⟩) fun hret => ?_
      refine Monitor.Sat.ite (fun _ => ⟨hq', ?_⟩) fun _ => ⟨hq', fun _ => ⟨not_not.1 hret, rfl⟩⟩
      exact fun h => absurd h (of_decide_eq_true rfl)

/-- The call with `HDCP_LEVEL0` that follows a failure does not matter. -/
lemma sat_setProtectionLevel (h : Between handle x q) (portId : UInt32) (level : UInt8) :
    CallerSat L X (fun ret q' => Between handle x q' ∧
      (level ≠ hdcpLevel0 → Ends L X (levelRequest L portId level) handle x ret q'))
      (Session.setProtectionLevel L x portId level) q := by
  refine (sat_lockedTransaction (levelRequest L portId level) h).bind fun r q₁ h₁ => ?_
  refine Monitor.Sat.ite (fun hfailed => ?_) fun hnot => ⟨h₁.1, fun hlevel => ⟨h₁.1, fun _ _ => ?_⟩⟩
  · refine (sat_lockedTransaction (levelRequest L portId hdcpLevel0) h₁.1).bind
      fun _ q₂ h₂ => ⟨h₂.1, fun _ => Ends.of_failure h₂.1 hfailed.1⟩
  · have hret : r.1 = HdcpStatus.successful := by
      by_contra hret
      exact hnot ⟨hret, hlevel⟩
    obtain ⟨rsp, -, hstatus, hsize, hlast⟩ := h₁.2 hret
    exact ⟨_, _, hlast, .response rsp (of_decide_eq_true rfl) hsize, hstatus⟩

/-- What a function does that returns the status of its transaction and a part of the response. -/
lemma sat_part {α : Type} {f : HdcpStatus × SocketData → SessionProg (HdcpStatus × α)}
    {g : SocketData → α} {failed : α}
    (hf : ∀ ret data, f (ret, data) =
      if ret ≠ HdcpStatus.successful then pure (ret, failed)
      else pure (HdcpStatus.successful, g data))
    (hcommand : req.command ≠ HdcpApi.getKsvList ∧ req.command ≠ HdcpApi.sendSrmData)
    (h : Between handle x q) :
    CallerSat L X (fun r q' => Ends L X req handle x r.1 q')
      (lockedTransaction L x req >>= f) q := by
  refine sat_status hcommand h ?_
  rintro ⟨ret, data⟩ q' hq'
  rw [hf]
  refine Monitor.Sat.ite (fun hret => ⟨hq', fun h => absurd h hret⟩) fun hret => ?_
  exact ⟨hq', fun _ => ⟨not_not.1 hret, rfl⟩⟩

lemma sat_getStatus (h : Between handle x q) (portId : UInt32) (portStatus : Bool) :
    CallerSat L X (fun r q' => Ends L X (portRequest L HdcpApi.getStatus portId) handle x r.1 q')
      (Session.getStatus L x portId portStatus) q :=
  Monitor.Sat.ite (fun _ => Ends.of_failure h (by decide)) fun _ =>
    sat_part (fun _ _ => rfl) (of_decide_eq_true rfl) h

lemma sat_getSrmVersion (h : Between handle x q) (version : Bool) :
    CallerSat L X (fun r q' => Ends L X (request L HdcpApi.getSrmVersion) handle x r.1 q')
      (Session.getSrmVersion L x version) q :=
  Monitor.Sat.ite (fun _ => Ends.of_failure h (by decide)) fun _ =>
    sat_part (fun _ _ => rfl) (of_decide_eq_true rfl) h

lemma sat_config (h : Between handle x q) (c : HdcpConfig) :
    CallerSat L X (fun ret q' => Ends L X (configRequest L c) handle x ret q')
      (Session.config L x c) q := by
  refine Monitor.Sat.ite (fun _ => Ends.of_failure h (by decide)) fun _ => ?_
  refine sat_status (v := id) (of_decide_eq_true rfl) h fun r q' hq' => ?_
  refine Monitor.Sat.ite (fun hret => ⟨hq', fun h => absurd h hret⟩) fun hret => ?_
  exact ⟨hq', fun _ => ⟨not_not.1 hret, rfl⟩⟩

/-- The list follows a response that reports success. -/
lemma sat_getKsvList (h : Between handle x q) (portId : UInt32) (p : KsvPointers) :
    CallerSat L X (fun r q' => Ends L X (portRequest L HdcpApi.getKsvList portId) handle x r.1 q')
      (Session.getKsvList L x portId p) q := by
  refine Monitor.Sat.ite (fun _ => Ends.of_failure h (by decide)) fun _ => ?_
  refine Monitor.Sat.ite (fun _ => Ends.of_failure h (by decide)) fun _ => ?_
  -- after a failure, the mutex is given back
  have hrelease {a : HdcpStatus × KsvResult} {t : Talk UInt8} {q : Standing}
      (hq : Talking handle x t q) (ha : a.1 ≠ HdcpStatus.successful) :
      CallerSat L X (fun r q' => Ends L X (portRequest L HdcpApi.getKsvList portId) handle x r.1 q')
        (socketEnd x >>= fun _ => pure a) q :=
    (sat_socketEnd hq).bind fun _ q' hq' => Ends.of_failure hq'.1 ha
  refine (sat_socketBegin h).bind fun _ q₁ h₁ => ?_
  refine (sat_performMessageTransaction _ h₁).bind ?_
  rintro ⟨ret, data⟩ q₂ (⟨rsp, heq, hsize, h₂⟩ | ⟨hret, t', h₂⟩)
  · obtain ⟨rfl, rfl⟩ := Prod.mk.inj heq
    refine Monitor.Sat.ite (fun hret => hrelease h₂ hret) fun hret => ?_
    have hphase : (exchange L).walk (asks (L.encode (portRequest L HdcpApi.getKsvList portId)) ++
        replies rsp) ≠ .never := by
      rw [walk_respond _ hsize]
      exact following_ne_never
    have hreceive : CallerSat L X (fun r q' => (∃ ksvs, r = .ok ksvs ∧
        ksvs.length = (L.decode rsp).ksvCount.toNat * ksvSize ∧ Talking handle x
          (asks (L.encode (portRequest L HdcpApi.getKsvList portId)) ++ replies rsp ++
            replies ksvs) q') ∨ (∃ e, r = .error e) ∧ ∃ t', Talking handle x t' q')
        (receiveKsvList x (L.decode rsp).ksvCount) q₂ := by
      refine Monitor.Sat.ite (fun _ => Or.inr ⟨⟨_, rfl⟩, _, h₂⟩) fun _ => ?_
      refine (sat_readData _ h₂ hphase).mono ?_
      rintro r q₃ (⟨ksvs, rfl, hlength, h₃, -⟩ | hfails)
      · exact Or.inl ⟨ksvs, rfl, hlength, h₃⟩
      · exact Or.inr hfails
    refine hreceive.bind ?_
    rintro r q₃ (⟨ksvs, rfl, hlength, h₃⟩ | ⟨⟨e, rfl⟩, t', h₃⟩)
    · refine (sat_socketEnd h₃).bind fun _ q₄ h₄ => ⟨h₄.1, fun _ _ => ?_⟩
      exact ⟨_, _, h₄.2, .ksvList rsp ksvs rfl hsize hlength, not_not.1 hret⟩
    · exact hrelease h₃ (of_decide_eq_true rfl)
  · have hfailed : ret ≠ HdcpStatus.successful := by
      have hne : HdcpStatus.errorMsgTransaction ≠ HdcpStatus.successful := by decide
      exact fun hsuccess => hne (hret.symm.trans hsuccess)
    exact Monitor.Sat.ite (fun _ => hrelease h₂ hfailed) fun hok => absurd (not_not.1 hok) hfailed

/-- What is written of an SRM: all of it, or nothing when its size becomes negative. -/
lemma sat_sendSrmBytes {srmSize : UInt32} {K : List UInt8 → Dialogue UInt8}
    (h : Talking handle x t q)
    (hwalk : (exchange L).walk t = askMany srmSize.toNat K) (hok : ∀ l, K l ≠ .never)
    (srmData : Mem) :
    CallerSat L X (fun r q' => (r = .success ∧ ∃ bytes, Talking handle x (t ++ asks bytes) q' ∧
      (exchange L).walk (t ++ asks bytes) ≠ .never ∧
        (bytes.length = srmSize.toNat ∨ 0 < srmSize.toNat ∧ bytes = [])) ∨
          r ≠ .success ∧ ∃ t', Talking handle x t' q') (sendSrmBytes x srmData srmSize) q := by
  refine Monitor.Sat.ite (fun _ => Or.inr ⟨of_decide_eq_true rfl, t, h⟩) fun hsmall => ?_
  generalize hbytes : slice srmData 0 srmSize.toInt32.toInt.toNat = bytes
  have hlength : bytes.length = srmSize.toInt32.toInt.toNat := by
    rw [← hbytes, length_slice]
  have hsize : bytes.length = srmSize.toNat ∨ 0 < srmSize.toNat ∧ bytes = [] := by
    have hint : srmSize.toInt32.toInt = srmSize.toBitVec.toInt := rfl
    have hnat : srmSize.toBitVec.toNat = srmSize.toNat := UInt32.toNat_toBitVec srmSize
    rw [hint, BitVec.toInt_eq_toNat_cond, hnat] at hlength
    split_ifs at hlength with hpos
    · exact Or.inl (by rw [hlength, Int.toNat_natCast])
    · have hlt : srmSize.toNat < 2 ^ 32 := srmSize.toNat_lt
      exact Or.inr ⟨by omega, List.eq_nil_of_length_eq_zero (by omega)⟩
  have hask : (exchange L).walk (t ++ asks bytes) ≠ .never := by
    have hle : bytes.length ≤ srmSize.toNat := by
      rcases hsize with heq | ⟨-, rfl⟩
      · exact heq.le
      · exact Nat.zero_le _
    rw [Dialogue.walk_append, hwalk, Dialogue.walk_askMany hle]
    exact Dialogue.askMany_ne_never (fun l => hok _) _
  refine (sat_writeData h hask).mono ?_
  rintro r q' (⟨rfl, h'⟩ | hfails)
  · exact Or.inl ⟨rfl, bytes, h', hask, hsize⟩
  · exact Or.inr hfails

/-- The SRM follows a response that reports success, and the final reply follows the SRM. -/
lemma sat_sendSrmData (h : Between handle x q) (srmSize : UInt32) (srmData : Option Mem) :
    CallerSat L X (fun ret q' => Ends L X (srmRequest L srmSize) handle x ret q')
      (Session.sendSrmData L x srmSize srmData) q := by
  cases srmData with
  | none => exact Ends.of_failure h (by decide)
  | some srmData =>
      have hrelease {ret : HdcpStatus} {t : Talk UInt8} {q : Standing} (hq : Talking handle x t q)
          (hret : ret ≠ HdcpStatus.successful) :
          CallerSat L X (fun ret q' => Ends L X (srmRequest L srmSize) handle x ret q')
            (socketEnd x >>= fun _ => pure ret) q :=
        (sat_socketEnd hq).bind fun _ q' hq' => Ends.of_failure hq'.1 hret
      refine (sat_socketBegin h).bind fun _ q₁ h₁ => ?_
      refine (sat_performMessageTransaction _ h₁).bind ?_
      rintro ⟨ret, data⟩ q₂ (⟨first, heq, hfirst, h₂⟩ | ⟨hret, t', h₂⟩)
      · obtain ⟨rfl, rfl⟩ := Prod.mk.inj heq
        refine Monitor.Sat.ite (fun hret => hrelease h₂ hret) fun hret => ?_
        have hstatus : (L.decode first).status = HdcpStatus.successful := not_not.1 hret
        have hlast (l : List UInt8) : replyMany L.size (fun _ => (.done : Dialogue UInt8)) ≠
            .never := (Dialogue.replies_replyMany (layout_size_pos L)).ne_never
        have hphase : (exchange L).walk (asks (L.encode (srmRequest L srmSize)) ++ replies first) =
            askMany srmSize.toNat fun _ => replyMany L.size fun _ => .done := by
          rw [walk_respond _ hfirst, following, if_neg hret]
          rfl
        refine (sat_sendSrmBytes h₂ hphase hlast srmData).bind ?_
        rintro sts q₃ (⟨rfl, bytes, h₃, hok, hsize⟩ | ⟨hsts, t', h₃⟩)
        · refine Monitor.Sat.ite (fun hsts => absurd rfl hsts) fun _ => ?_
          refine (sat_getMessage h₃ hok).bind ?_
          rintro r q₄ (⟨last, rfl, hlastSize, h₄, hok'⟩ | ⟨⟨e, rfl⟩, t', h₄⟩)
          · -- the daemon has replied, so that the whole SRM was written
            have hsrm (hx : x ∈ X) : bytes.length = srmSize.toNat := by
              refine hsize.resolve_right ?_
              rintro ⟨hpos, rfl⟩
              have hok' := hok' hx
              rw [Dialogue.walk_append, Dialogue.walk_append, hphase] at hok'
              have hne : last ≠ [] := by
                rw [← List.length_pos_iff, hlastSize]
                exact layout_size_pos L
              exact (Dialogue.asks_askMany hpos).not_replies (Dialogue.replies_of_walk hok' hne)
            refine (sat_socketEnd h₄).bind fun _ q₅ h₅ => ?_
            refine Monitor.Sat.ite (fun hret' => Ends.of_failure h₅.1 hret') fun hret' => ?_
            refine ⟨h₅.1, fun _ hx => ⟨_, _, h₅.2, ?_, not_not.1 hret'⟩⟩
            exact .srm first bytes last rfl hfirst hstatus (hsrm hx) hlastSize
          · exact hrelease h₄ (by decide)
        · refine Monitor.Sat.ite (fun _ => hrelease h₃ (by decide)) fun hok => ?_
          exact absurd (not_not.1 hok) hsts
      · have hfailed : ret ≠ HdcpStatus.successful := by
          have hne : HdcpStatus.errorMsgTransaction ≠ HdcpStatus.successful := by decide
          exact fun hsuccess => hne (hret.symm.trans hsuccess)
        exact Monitor.Sat.ite (fun _ => hrelease h₂ hfailed) fun hok =>
          absurd (not_not.1 hok) hfailed

/-! ### The entry points -/

/-- The first message of a call. -/
def message (L : Layout) : Request → SocketData
  | .enumerateDisplay _ => request L HdcpApi.enumerateHdcpDisplay
  | .setProtectionLevel portId level => levelRequest L portId level
  | .getStatus portId _ => portRequest L HdcpApi.getStatus portId
  | .getKsvList portId _ => portRequest L HdcpApi.getKsvList portId
  | .sendSrmData srmSize _ => srmRequest L srmSize
  | .getSrmVersion _ => request L HdcpApi.getSrmVersion
  | .config c => configRequest L c

/-- A call that asks for `HDCP_LEVEL0`, on a port that is not out of range. -/
def dropsProtection : Request → Bool
  | .setProtectionLevel portId level => portId.toNat ≤ numPhysicalPortsMax ∧ level = hdcpLevel0
  | _ => false

/-- What a call returns with: it is in no transaction, and success means that the final reply to
its request was received on its session. -/
structure Returned (L : Layout) (X : Set ℕ) (handle : ℕ) (c : Request) (ret : HdcpStatus)
    (q : Standing) : Prop where
  outside : q.current = none
  success : dropsProtection c = false → ret = HdcpStatus.successful →
    ∃ x, q.found = some (handle, x) ∧ (x ∈ X →
      ∃ t rsp, q.last = some (x, t) ∧ Received L (message L c) t rsp ∧
        rsp.status = HdcpStatus.successful)

variable {c : Request}

lemma Returned.of_failure (h : q.current = none) (hret : ret ≠ HdcpStatus.successful) :
    Returned L X handle c ret q :=
  ⟨h, fun _ hsuccess => absurd hsuccess hret⟩

lemma Ends.returned (h : Ends L X (message L c) handle x ret q) : Returned L X handle c ret q := by
  refine ⟨h.between.current, fun _ hret => ?_⟩
  exact ⟨x, h.between.found, h.success hret⟩

lemma sat_withInstance {α : Type} {handle : ℕ} {failed : α} {f : ℕ → SessionProg α}
    {v : α → HdcpStatus} (hfailed : v failed ≠ HdcpStatus.successful)
    (h : q.current = none)
    (hf : ∀ x q', Between handle x q' →
      CallerSat L X (fun a q'' => Returned L X handle c (v a) q'') (f x) q') :
    CallerSat L X (fun a q' => Returned L X handle c (v a) q')
      (withInstance handle failed f) q := by
  refine (Monitor.sat_op (μ := callerMonitor L X) (o := .getInstance handle)
    (Q := fun r q' => q' = { q with found := Option.map (handle, ·) r }) trivial
    fun r q' hq' => hq'.2).bind ?_
  rintro (- | session) q₁ rfl
  · exact Returned.of_failure h hfailed
  · have hbetween : Between handle session { q with found := some (handle, session) } := ⟨rfl, h⟩
    refine (hf session _ hbetween).bind fun a q₂ h₂ => ?_
    refine (Monitor.sat_op (μ := callerMonitor L X) (o := .putInstance handle)
      (Q := fun _ q' => q' = q₂) trivial fun r q' hq' => hq'.2).bind ?_
    rintro - q₃ rfl
    exact h₂

/-- Whatever the session manager, the daemon and the transport do, a call ends so. -/
lemma sat_request (handle : ℕ) (c : Request) :
    CallerSat L X (Returned L X handle c) (c.body L handle) .start := by
  have hstart : Standing.start.current = none := rfl
  have hfst {α : Type} {p : SessionProg (HdcpStatus × α)}
      (hp : CallerSat L X (fun a q => Returned L X handle c a.1 q) p .start) :
      CallerSat L X (Returned L X handle c) (Prod.fst <$> p) .start :=
    hp.bind fun a q h => show Returned L X handle c a.1 q from h
  cases c with
  | enumerateDisplay portList =>
      refine hfst (Monitor.Sat.ite (fun _ => .of_failure hstart (by decide)) fun _ => ?_)
      refine (sat_withInstance (c := .enumerateDisplay portList) (v := Prod.fst)
        (of_decide_eq_true rfl) hstart fun x q h => ?_).bind ?_
      · exact (sat_enumerateDisplay h _).mono fun _ _ hends => hends.returned
      · rintro ⟨ret, portList⟩ q h
        exact Monitor.Sat.ite (fun hret => .of_failure h.outside hret) fun _ => h
  | setProtectionLevel portId level =>
      refine Monitor.Sat.ite (fun _ => .of_failure hstart (by decide)) fun hport => ?_
      refine sat_withInstance (v := id) (by decide) hstart fun x q h => ?_
      refine (sat_setProtectionLevel h portId level).mono fun ret q' hends => ?_
      by_cases hlevel : level = hdcpLevel0
      · refine ⟨hends.1.current, fun hdrops => ?_⟩
        exact absurd hdrops (by simpa [dropsProtection, hlevel] using Nat.le_of_not_gt hport)
      · exact (hends.2 hlevel).returned
  | getStatus portId portStatus =>
      refine hfst (Monitor.Sat.ite (fun _ => .of_failure hstart (by decide)) fun _ => ?_)
      refine Monitor.Sat.ite (fun _ => .of_failure hstart (by decide)) fun _ => ?_
      exact sat_withInstance (v := Prod.fst) (of_decide_eq_true rfl) hstart fun x q h =>
        (sat_getStatus h _ _).mono fun _ _ hends => hends.returned
  | getKsvList portId p =>
      refine hfst (Monitor.Sat.ite (fun _ => .of_failure hstart (by decide)) fun _ => ?_)
      refine Monitor.Sat.ite (fun _ => .of_failure hstart (by decide)) fun _ => ?_
      exact sat_withInstance (v := Prod.fst) (of_decide_eq_true rfl) hstart fun x q h =>
        (sat_getKsvList h _ _).mono fun _ _ hends => hends.returned
  | sendSrmData srmSize srmData =>
      refine Monitor.Sat.ite (fun _ => .of_failure hstart (by decide)) fun _ => ?_
      refine Monitor.Sat.ite (fun _ => .of_failure hstart (by decide)) fun _ => ?_
      exact sat_withInstance (v := id) (by decide) hstart fun x q h =>
        (sat_sendSrmData h _ _).mono fun _ _ hends => hends.returned
  | getSrmVersion version =>
      refine hfst (Monitor.Sat.ite (fun _ => .of_failure hstart (by decide)) fun _ => ?_)
      exact sat_withInstance (v := Prod.fst) (of_decide_eq_true rfl) hstart fun x q h =>
        (sat_getSrmVersion h _).mono fun _ _ hends => hends.returned
  | config c =>
      refine Monitor.Sat.ite (fun _ => .of_failure hstart (by decide)) fun _ => ?_
      exact sat_withInstance (v := id) (by decide) hstart fun x q h =>
        (sat_config h c).mono fun _ _ hends => hends.returned

end Hdcp.Confirmation
