/-
The SDK keeps to the transactions.

`clientMonitor` watches a thread of the SDK.  On the socket of a session the thread does what
the transaction says next, and it releases the mutex of the socket only when the transaction
is over; from the daemon it relies on responses that the transaction allows.  `sat_request`:
every call of an entry point keeps to this, whatever the daemon answers.

The sessions are the set `X`.
-/
import Mathlib.Data.Finset.Basic
import Hdcp.Socket.Transaction
import Hdcp.Sdk.Session

namespace Hdcp.Transaction

open Library Socket Session
open Library.Dialogue (askMany replyMany)

/-- Where a thread of the SDK is: in no transaction, or in one on a session. -/
abbrev ClientPos : Type := Option (ℕ × Dialogue UInt8)

def clientMay (X : Finset ℕ) : ClientPos → SessionOp → Prop
  | _, .getInstance _ | _, .putInstance _ => True
  | none, .socketBegin x => x ∈ X
  | some (x, d), .socketEnd y => y = x ∧ d = .done
  | some (x, d), .read y n => y = x ∧ 0 < n ∧ d.Replies
  | some (x, d), .send y data => y = x ∧ data ≠ [] ∧ d.walk (asks data) ≠ .never
  | _, _ => False

/-- The session that was found is one of the sessions. -/
def Found (X : Finset ℕ) (r : Option ℕ) : Prop := ∀ x, r = some x → x ∈ X

def clientNext (L : Layout) (X : Finset ℕ) :
    ClientPos → (o : SessionOp) → o.Ans → ClientPos → Prop
  | q, .getInstance _, r, q' => q' = q ∧ Found X r
  | q, .putInstance _, _, q' => q' = q
  | _, .socketBegin x, _, q' => q' = some (x, transaction L)
  | _, .socketEnd _, _, q' => q' = none
  | some (x, d), .read _ n, r, q' => ∃ d', Hears replies d n r d' ∧ q' = some (x, d')
  | some (x, d), .send _ data, r, q' => ∃ d', Says asks d data r d' ∧ q' = some (x, d')
  | none, _, _, _ => False

/-- The monitor of a thread of the SDK. -/
def clientMonitor (L : Layout) (X : Finset ℕ) : Monitor sessionSig ClientPos where
  may := clientMay X
  next := clientNext L X

variable {L : Layout} {X : Finset ℕ} {x n : ℕ} {K : List UInt8 → Dialogue UInt8} {req : SocketData}

/-! What a thread may do tells where it is. -/

lemma clientMay_begin {q : ClientPos} (h : clientMay X q (.socketBegin x)) :
    q = none ∧ x ∈ X := by
  cases q with
  | none => exact ⟨rfl, h⟩
  | some p => exact h.elim

lemma clientMay_end {q : ClientPos} (h : clientMay X q (.socketEnd x)) :
    q = some (x, .done) := by
  cases q with
  | none => exact h.elim
  | some p =>
      obtain ⟨rfl, hdone⟩ := h
      rw [← hdone]

lemma clientMay_read {q : ClientPos} (h : clientMay X q (.read x n)) :
    ∃ d, q = some (x, d) ∧ d.Replies := by
  cases q with
  | none => exact h.elim
  | some p =>
      obtain ⟨rfl, -, hreplies⟩ := h
      exact ⟨p.2, rfl, hreplies⟩

lemma clientMay_send {q : ClientPos} {data : List UInt8} (h : clientMay X q (.send x data)) :
    ∃ d, q = some (x, d) ∧ data ≠ [] ∧ d.walk (asks data) ≠ .never := by
  cases q with
  | none => exact h.elim
  | some p =>
      obtain ⟨rfl, hne, hok⟩ := h
      exact ⟨p.2, rfl, hne, hok⟩

lemma clientNext_found {q : ClientPos} {handle : ℕ} {r : Option ℕ} (h : Found X r) :
    clientNext L X q (.getInstance handle) r q := by
  cases q with
  | none => exact ⟨rfl, h⟩
  | some p => exact ⟨rfl, h⟩

lemma clientNext_put {q : ClientPos} {handle : ℕ} {r : SessionOp.Ans (.putInstance handle)} :
    clientNext L X q (.putInstance handle) r q := by
  cases q with
  | none => rfl
  | some p => rfl

abbrev ClientSat {α : Type} (L : Layout) (X : Finset ℕ) (Q : α → ClientPos → Prop) :
    SessionProg α → ClientPos → Prop :=
  (clientMonitor L X).Sat Q

lemma sat_clientRead (n : ℕ) (hok : replyMany n K ≠ .never) :
    ClientSat L X (fun r q => ∃ bytes, r = .ok bytes ∧ bytes.length = n ∧
      q = some (x, K bytes) ∧ K bytes ≠ .never)
      (readData (Session.read x) n) (some (x, replyMany n K)) := by
  let I (n : ℕ) (data : List UInt8) (q : ClientPos) : Prop :=
    q = some (x, replyMany n fun bytes => K (data ++ bytes)) ∧
      (replyMany n fun bytes => K (data ++ bytes)) ≠ .never
  have hstart : I n [] (some (x, replyMany n K)) := ⟨rfl, hok⟩
  refine (sat_readLoop (fun n data q hn hI => ?_) n le_rfl hstart).mono ?_
  rotate_left
  · rintro r q ⟨bytes, rfl, hlength, rfl, hne⟩
    simp only [Dialogue.replyMany_zero, List.append_nil, List.length_nil, Nat.zero_add]
      at hlength hne ⊢
    exact ⟨bytes, rfl, hlength, rfl, hne⟩
  · obtain ⟨rfl, hne⟩ := hI
    refine Monitor.sat_op ⟨rfl, hn, Dialogue.replies_replyMany hn⟩ ?_
    rintro r q' ⟨d', ⟨bytes, rfl, hbytes, hlength, rfl, hok'⟩, rfl⟩
    rw [Dialogue.walk_replyMany hlength] at hok' ⊢
    simp only [← List.append_assoc] at hok' ⊢
    exact ⟨bytes, rfl, hbytes, hlength, rfl, hok'⟩

lemma sat_clientWrite {d : Dialogue UInt8} {data : List UInt8}
    (hok : d.walk (asks data) ≠ .never) :
    ClientSat L X (fun r q => r = .success ∧ q = some (x, d.walk (asks data)))
      (writeData (Session.send x) data) (some (x, d)) := by
  let J (rest : List UInt8) (q : ClientPos) : Prop :=
    ∃ sent, sent ++ rest = data ∧ q = some (x, d.walk (asks sent))
  have hstart : J data (some (x, d)) := ⟨[], rfl, rfl⟩
  refine (sat_writeLoop (fun rest q hrest hJ => ?_) data.length le_rfl hstart).mono ?_
  rotate_left
  · rintro r q ⟨rfl, sent, hsent, rfl⟩
    rw [List.append_nil] at hsent
    subst hsent
    exact ⟨rfl, rfl⟩
  · obtain ⟨sent, hsent, rfl⟩ := hJ
    have hwalk (l : List UInt8) :
        (d.walk (asks sent)).walk (asks l) = d.walk (asks (sent ++ l)) := by
      rw [← Dialogue.walk_append]
      simp [asks]
    refine Monitor.sat_op ⟨rfl, hrest, ?_⟩ ?_
    · rw [hwalk, hsent]
      exact hok
    · rintro r q' ⟨d', ⟨n, rfl, hpos, hn, rfl⟩, rfl⟩
      refine ⟨n, rfl, hpos, hn, sent ++ rest.take n, ?_, ?_⟩
      · rw [List.append_assoc, List.take_append_drop, hsent]
      · rw [hwalk]

/-- A request is made and the response is read. -/
lemma sat_performMessageTransaction (hreq : answered L req ≠ .never) :
    ClientSat L X (fun r q => ∃ rsp, r = (rsp.status, rsp) ∧
      q = some (x, afterResponse L req rsp) ∧ afterResponse L req rsp ≠ .never)
      (performMessageTransaction L x req) (some (x, transaction L)) := by
  have hok : (transaction L).walk (asks (L.encode req)) ≠ .never := by rwa [walk_transaction]
  refine (sat_clientWrite hok).bind ?_
  rintro sts q ⟨rfl, rfl⟩
  refine Monitor.Sat.ite (fun h => absurd rfl h) fun _ => ?_
  have hanswer := (answered_ne_never hreq).2
  rw [walk_transaction, hanswer]
  rw [hanswer] at hreq
  refine ((sat_clientRead L.size hreq).bind (R := fun r q => ∃ rsp, r = .ok rsp ∧
    q = some (x, afterResponse L req rsp) ∧ afterResponse L req rsp ≠ .never) ?_).bind ?_
  · rintro r q ⟨bytes, rfl, -, rfl, hne⟩
    exact ⟨L.decode bytes, rfl, rfl, hne⟩
  · rintro r q ⟨rsp, rfl, rfl, hne⟩
    exact ⟨rsp, rfl, rfl, hne⟩

lemma sat_socketBegin (hx : x ∈ X) :
    ClientSat L X (fun _ q => q = some (x, transaction L)) (socketBegin x) none :=
  Monitor.sat_op (q := (none : ClientPos)) hx fun _ _ h => h

lemma sat_socketEnd : ClientSat L X (fun _ q => q = none) (socketEnd x) (some (x, .done)) :=
  Monitor.sat_op (q := (some (x, .done) : ClientPos)) ⟨rfl, rfl⟩ fun _ _ h => h

/-- A transaction that ends with the first response. -/
lemma sat_lockedTransaction (hx : x ∈ X) (hreq : answered L req ≠ .never)
    (hdone : ∀ rsp, afterResponse L req rsp = .done) :
    ClientSat L X (fun _ q => q = none) (lockedTransaction L x req) none := by
  refine (sat_socketBegin hx).bind ?_
  rintro - q rfl
  refine (sat_performMessageTransaction hreq).bind ?_
  rintro r q ⟨rsp, rfl, rfl, -⟩
  rw [hdone rsp]
  refine sat_socketEnd.bind ?_
  rintro - q rfl
  exact rfl

/-! #### The functions of a session -/

lemma sat_enumerateDisplay (hx : x ∈ X) (portList : Option PortList) :
    ClientSat L X (fun _ q => q = none) (enumerateDisplay L x portList) none := by
  cases portList with
  | none => rfl
  | some portList =>
      refine (sat_lockedTransaction hx (answered_of_request rfl rfl) fun _ => rfl).bind ?_
      rintro ⟨ret, data⟩ q rfl
      exact Monitor.Sat.ite (fun _ => rfl) fun _ => Monitor.Sat.ite (fun _ => rfl) fun _ => rfl

lemma sat_setProtectionLevel (hx : x ∈ X) (portId : UInt32) (level : UInt8) :
    ClientSat L X (fun _ q => q = none) (Session.setProtectionLevel L x portId level) none := by
  refine (sat_lockedTransaction hx (answered_of_request rfl rfl) fun _ => rfl).bind ?_
  rintro ⟨ret, data⟩ q rfl
  refine Monitor.Sat.ite (fun _ => ?_) fun _ => rfl
  refine (sat_lockedTransaction hx (answered_of_request rfl rfl) fun _ => rfl).bind ?_
  rintro r q rfl
  exact rfl

lemma sat_getStatus (hx : x ∈ X) (portId : UInt32) (portStatus : Bool) :
    ClientSat L X (fun _ q => q = none) (Session.getStatus L x portId portStatus) none := by
  refine Monitor.Sat.ite (fun _ => rfl) fun _ => ?_
  refine (sat_lockedTransaction hx (answered_of_request rfl rfl) fun _ => rfl).bind ?_
  rintro ⟨ret, data⟩ q rfl
  exact Monitor.Sat.ite (fun _ => rfl) fun _ => rfl

/-- The KSV list is read when and only when the response reports success and a number of KSVs
other than 0. -/
lemma sat_getKsvList (hx : x ∈ X) (portId : UInt32) (p : KsvPointers) :
    ClientSat L X (fun _ q => q = none) (Session.getKsvList L x portId p) none := by
  refine Monitor.Sat.ite (fun _ => rfl) fun _ => Monitor.Sat.ite (fun _ => rfl) fun _ => ?_
  refine (sat_socketBegin hx).bind ?_
  rintro - q rfl
  refine (sat_performMessageTransaction (answered_of_request rfl rfl)).bind ?_
  rintro r q ⟨rsp, rfl, rfl, hok⟩
  have hphase : afterResponse L (portRequest L HdcpApi.getKsvList portId) rsp = ksvPhase rsp :=
    if_pos rfl
  rw [hphase, ksvPhase] at hok ⊢
  refine Monitor.Sat.ite (fun hstatus => ?_) fun hstatus => ?_
  · rw [if_neg hstatus]
    refine sat_socketEnd.bind ?_
    rintro - q rfl
    exact rfl
  · have hstatus' : rsp.status = HdcpStatus.successful := not_not.1 hstatus
    rw [if_pos hstatus'] at hok ⊢
    split_ifs at hok ⊢ with hcount
    · exact absurd rfl hok
    · have hreceive : ClientSat L X (fun _ q => q = some (x, .done))
          (receiveKsvList x rsp.ksvCount)
          (some (x, replyMany (rsp.ksvCount.toNat * ksvSize) fun _ => .done)) := by
        refine Monitor.Sat.ite (fun hnone => ?_) fun _ => ?_
        · obtain hzero := hnone.resolve_left hcount
          rw [hzero]
          rfl
        · refine (sat_clientRead _ hok).mono ?_
          rintro r q ⟨bytes, -, -, rfl, -⟩
          rfl
      refine hreceive.bind ?_
      rintro (e | ksvList) q rfl
      · refine sat_socketEnd.bind ?_
        rintro - q rfl
        exact rfl
      · refine sat_socketEnd.bind ?_
        rintro - q rfl
        exact rfl

/-- The bytes of an SRM whose size the daemon accepts are all written. -/
lemma sat_sendSrmBytes {srmSize : UInt32} (h : srmSize.toNat ≤ srmFirstGenMaxSize)
    (hok : ∀ bytes, K bytes ≠ .never) (srmData : Mem) :
    ClientSat L X (fun r q => r = .success ∧ q = some (x, K (slice srmData 0 srmSize.toNat)))
      (sendSrmBytes x srmData srmSize) (some (x, askMany srmSize.toNat K)) := by
  have hgen : srmFirstGenMaxSize = 5116 := rfl
  have hmax : maxSrmDataSz = 6144 := rfl
  -- the size does not become negative as an `int32_t`
  have hint : srmSize.toInt32.toInt = srmSize.toNat :=
    BitVec.toInt_eq_toNat_of_lt (x := srmSize.toBitVec) (by
      rw [UInt32.toNat_toBitVec]
      omega)
  have hwalk : (askMany srmSize.toNat K).walk (asks (slice srmData 0 srmSize.toNat)) =
      K (slice srmData 0 srmSize.toNat) := by
    rw [Dialogue.walk_askMany (by simp)]
    simp
  refine Monitor.Sat.ite (fun hlarge => ?_) fun _ => ?_
  · rw [hint, hmax] at hlarge
    omega
  · rw [hint, Int.toNat_natCast]
    rw [← hwalk]
    refine sat_clientWrite ?_
    rw [hwalk]
    exact hok _

/-- The SRM is written when and only when the first response reports success; the daemon has
checked its size then. -/
lemma sat_sendSrmData (hx : x ∈ X) (srmSize : UInt32) (srmData : Option Mem) :
    ClientSat L X (fun _ q => q = none) (Session.sendSrmData L x srmSize srmData) none := by
  cases srmData with
  | none => rfl
  | some srmData =>
      refine (sat_socketBegin hx).bind ?_
      rintro - q rfl
      refine (sat_performMessageTransaction (answered_of_request rfl rfl)).bind ?_
      rintro r q ⟨rsp, rfl, rfl, hok⟩
      have hphase : afterResponse L (srmRequest L srmSize) rsp =
          srmPhase L (srmRequest L srmSize) rsp := rfl
      rw [hphase, srmPhase] at hok ⊢
      refine Monitor.Sat.ite (fun hstatus => ?_) fun hstatus => ?_
      · rw [if_neg hstatus]
        refine sat_socketEnd.bind ?_
        rintro - q rfl
        exact rfl
      · have hstatus' : rsp.status = HdcpStatus.successful := not_not.1 hstatus
        rw [if_pos hstatus'] at hok ⊢
        split_ifs at hok ⊢ with hsize
        · exact absurd rfl hok
        · have hlast : replyMany L.size (fun _ => (.done : Dialogue UInt8)) ≠ .never :=
            (Dialogue.replies_replyMany (layout_size_pos L)).ne_never
          refine (sat_sendSrmBytes (Nat.le_of_not_gt hsize) (fun _ => hlast) srmData).bind ?_
          rintro sts q ⟨rfl, rfl⟩
          refine Monitor.Sat.ite (fun h => absurd rfl h) fun _ => ?_
          refine ((sat_clientRead L.size hlast).bind (R := fun _ q => q = some (x, .done)) ?_).bind
            ?_
          · rintro r q ⟨bytes, rfl, -, rfl, -⟩
            exact rfl
          · rintro (e | data) q rfl
            · refine sat_socketEnd.bind ?_
              rintro - q rfl
              exact rfl
            · refine sat_socketEnd.bind ?_
              rintro - q rfl
              exact Monitor.Sat.ite (fun _ => rfl) fun _ => rfl

lemma sat_getSrmVersion (hx : x ∈ X) (version : Bool) :
    ClientSat L X (fun _ q => q = none) (Session.getSrmVersion L x version) none := by
  refine Monitor.Sat.ite (fun _ => rfl) fun _ => ?_
  refine (sat_lockedTransaction hx (answered_of_request rfl rfl) fun _ => rfl).bind ?_
  rintro ⟨ret, data⟩ q rfl
  exact Monitor.Sat.ite (fun _ => rfl) fun _ => rfl

lemma sat_config (hx : x ∈ X) (c : HdcpConfig) :
    ClientSat L X (fun _ q => q = none) (Session.config L x c) none := by
  refine Monitor.Sat.ite (fun _ => rfl) fun _ => ?_
  refine (sat_lockedTransaction hx (answered_of_request rfl rfl) fun _ => rfl).bind ?_
  rintro ⟨ret, data⟩ q rfl
  exact Monitor.Sat.ite (fun _ => rfl) fun _ => rfl

/-! #### The entry points -/

lemma sat_withInstance {α : Type} (handle : ℕ) (failed : α) {f : ℕ → SessionProg α}
    (hf : ∀ x ∈ X, ClientSat L X (fun _ q => q = none) (f x) none) :
    ClientSat L X (fun _ q => q = none) (withInstance handle failed f) none := by
  refine (Monitor.sat_op (μ := clientMonitor L X) (q := (none : ClientPos))
    (o := .getInstance handle) (Q := fun r q => q = none ∧ Found X r) trivial
    fun _ _ h => h).bind ?_
  rintro (- | session) q ⟨rfl, hfound⟩
  · exact rfl
  · refine (hf session (hfound session rfl)).bind ?_
    rintro ret q rfl
    refine (Monitor.sat_op (μ := clientMonitor L X) (q := (none : ClientPos))
      (o := .putInstance handle) (Q := fun _ q => q = none) trivial fun _ _ h => h).bind ?_
    rintro - q rfl
    exact rfl

/-- Every call keeps to the transactions. -/
lemma sat_request (handle : ℕ) (c : Request) :
    ClientSat L X (fun _ q => q = none) (c.body L handle) none := by
  have hret {α β : Type} {f : α → β} {p : SessionProg α}
      (hp : ClientSat L X (fun _ q => q = none) p none) :
      ClientSat L X (fun _ q => q = none) (f <$> p) none :=
    hp.bind fun _ _ h => h
  cases c with
  | enumerateDisplay portList =>
      refine hret (Monitor.Sat.ite (fun _ => rfl) fun _ => ?_)
      refine (sat_withInstance handle _ fun x hx => sat_enumerateDisplay hx _).bind ?_
      rintro ⟨ret, portList⟩ q rfl
      exact Monitor.Sat.ite (fun _ => rfl) fun _ => rfl
  | setProtectionLevel portId level =>
      refine Monitor.Sat.ite (fun _ => rfl) fun _ => ?_
      exact sat_withInstance handle _ fun x hx => sat_setProtectionLevel hx portId level
  | getStatus portId portStatus =>
      refine hret (Monitor.Sat.ite (fun _ => rfl) fun _ => ?_)
      refine Monitor.Sat.ite (fun _ => rfl) fun _ => ?_
      exact sat_withInstance handle _ fun x hx => sat_getStatus hx portId portStatus
  | getKsvList portId p =>
      refine hret (Monitor.Sat.ite (fun _ => rfl) fun _ => ?_)
      refine Monitor.Sat.ite (fun _ => rfl) fun _ => ?_
      exact sat_withInstance handle _ fun x hx => sat_getKsvList hx portId p
  | sendSrmData srmSize srmData =>
      refine Monitor.Sat.ite (fun _ => rfl) fun _ => Monitor.Sat.ite (fun _ => rfl) fun _ => ?_
      exact sat_withInstance handle _ fun x hx => sat_sendSrmData hx srmSize srmData
  | getSrmVersion version =>
      refine hret (Monitor.Sat.ite (fun _ => rfl) fun _ => ?_)
      exact sat_withInstance handle _ fun x hx => sat_getSrmVersion hx version
  | config c =>
      refine Monitor.Sat.ite (fun _ => rfl) fun _ => ?_
      exact sat_withInstance handle _ fun x hx => sat_config hx c

/-! ### What a returned call has done -/

/-- A call that was refused, that found no session, or that ended a transaction on the session
that it found. -/
def Exchanged (handle : ℕ) (log : List (Event sessionSig)) : Prop :=
  log = [] ∨ ⟨.getInstance handle, none⟩ ∈ log ∨
    ∃ x, ⟨.getInstance handle, some x⟩ ∈ log ∧ ⟨.socketEnd x, ()⟩ ∈ log

/-- A configuration that the session does not know: it is refused there. -/
def isUnknown : Request → Bool
  | .config c => c.type ≠ srmStorageConfig
  | _ => false

/-- The transaction is over when the program ends. -/
abbrev Closes {α : Type} (x : ℕ) (p : SessionProg α) : Prop :=
  p.Makes (⟨.socketEnd x, ()⟩ : Event sessionSig)

lemma closes_socketEnd (x : ℕ) : Closes x (socketEnd x) := Prog.makes_op fun _ => rfl

lemma closes_lockedTransaction (x : ℕ) (data : SocketData) :
    Closes x (lockedTransaction L x data) :=
  .bind_right fun _ => .bind_right fun _ => .bind_left (closes_socketEnd x)

lemma closes_getKsvList (x : ℕ) (portId : UInt32) {p : KsvPointers} (hp : p.all = true)
    (hport : ¬portId.toNat > numPhysicalPortsMax) :
    Closes x (Session.getKsvList L x portId p) := by
  refine .ite (fun hnot => absurd hnot (by simp [hp])) fun _ => ?_
  refine .ite (fun hnot => absurd hnot hport) fun _ => .bind_right fun _ => .bind_right ?_
  rintro ⟨ret, data⟩
  refine .ite (fun _ => .bind_left (closes_socketEnd x)) fun _ => .bind_right ?_
  rintro (e | ksvList)
  · exact .bind_left (closes_socketEnd x)
  · exact .bind_left (closes_socketEnd x)

lemma closes_sendSrmData (x : ℕ) (srmSize : UInt32) (srmData : Mem) :
    Closes x (Session.sendSrmData L x srmSize (some srmData)) := by
  refine .bind_right fun _ => .bind_right ?_
  rintro ⟨ret, data⟩
  refine .ite (fun _ => .bind_left (closes_socketEnd x)) fun _ => .bind_right fun sts => ?_
  refine .ite (fun _ => .bind_left (closes_socketEnd x)) fun _ => .bind_right ?_
  rintro (e | data)
  · exact .bind_left (closes_socketEnd x)
  · exact .bind_left (closes_socketEnd x)

lemma exchanged_withInstance {α : Type} {handle : ℕ} {failed a : α} {f : ℕ → SessionProg α}
    {log : List (Event sessionSig)} (hf : ∀ x, Closes x (f x))
    (h : (withInstance handle failed f).Runs log a) : Exchanged handle log := by
  obtain ⟨r, rest, rfl, hrest⟩ := Prog.runs_op_bind.1 h
  rcases r with _ | x
  · exact .inr (.inl List.mem_cons_self)
  · refine .inr (.inr ⟨x, List.mem_cons_self, List.mem_cons_of_mem _ ?_⟩)
    exact (hf x).bind_left rest a hrest

/-- A call that returns has exchanged a transaction on its session, when it got so far. -/
lemma exchanged_of_runs {handle : ℕ} {c : Request} {log : List (Event sessionSig)}
    {ret : HdcpStatus} (hc : isUnknown c = false) (h : (c.body L handle).Runs log ret) :
    Exchanged handle log := by
  have hrefused {α : Type} {a b : α} (h : (Prog.ret a : SessionProg α).Runs log b) :
      Exchanged handle log := .inl (Prog.runs_ret.1 h).1
  cases c with
  | enumerateDisplay portList =>
      obtain ⟨a, h, -⟩ := Prog.runs_map.1 h
      rcases Prog.runs_ite.1 h with ⟨-, h⟩ | ⟨-, h⟩
      · exact hrefused h
      · obtain ⟨⟨status, list⟩, first, rest, hfirst, hrest, rfl⟩ := Prog.runs_bind.1 h
        have hnil : rest = [] := by
          rcases Prog.runs_ite.1 hrest with ⟨-, hrest⟩ | ⟨-, hrest⟩
          · exact (Prog.runs_ret.1 hrest).1
          · exact (Prog.runs_ret.1 hrest).1
        rw [hnil, List.append_nil]
        exact exchanged_withInstance (fun x => .bind_left (closes_lockedTransaction x _)) hfirst
  | setProtectionLevel portId level =>
      rcases Prog.runs_ite.1 h with ⟨-, h⟩ | ⟨-, h⟩
      · exact hrefused h
      · exact exchanged_withInstance (fun x => .bind_left (closes_lockedTransaction x _)) h
  | getStatus portId portStatus =>
      obtain ⟨a, h, -⟩ := Prog.runs_map.1 h
      rcases Prog.runs_ite.1 h with ⟨-, h⟩ | ⟨hstatus, h⟩
      · exact hrefused h
      rcases Prog.runs_ite.1 h with ⟨-, h⟩ | ⟨-, h⟩
      · exact hrefused h
      · refine exchanged_withInstance (fun x => ?_) h
        refine .ite (fun hnot => absurd hnot hstatus) fun _ => ?_
        exact .bind_left (closes_lockedTransaction x _)
  | getKsvList portId p =>
      obtain ⟨a, h, -⟩ := Prog.runs_map.1 h
      rcases Prog.runs_ite.1 h with ⟨-, h⟩ | ⟨hp, h⟩
      · exact hrefused h
      rcases Prog.runs_ite.1 h with ⟨-, h⟩ | ⟨hport, h⟩
      · exact hrefused h
      · exact exchanged_withInstance
          (fun x => closes_getKsvList x portId (by simpa using hp) hport) h
  | sendSrmData srmSize srmData =>
      rcases Prog.runs_ite.1 h with ⟨-, h⟩ | ⟨hdata, h⟩
      · exact hrefused h
      rcases Prog.runs_ite.1 h with ⟨-, h⟩ | ⟨-, h⟩
      · exact hrefused h
      · cases srmData with
        | none => exact absurd rfl hdata
        | some data => exact exchanged_withInstance (fun x => closes_sendSrmData x srmSize data) h
  | getSrmVersion version =>
      obtain ⟨a, h, -⟩ := Prog.runs_map.1 h
      rcases Prog.runs_ite.1 h with ⟨-, h⟩ | ⟨hversion, h⟩
      · exact hrefused h
      · refine exchanged_withInstance (fun x => .ite (fun hnot => absurd hnot hversion)
          fun _ => ?_) h
        exact .bind_left (closes_lockedTransaction x _)
  | config c =>
      rcases Prog.runs_ite.1 h with ⟨-, h⟩ | ⟨-, h⟩
      · exact hrefused h
      · refine exchanged_withInstance (fun x => .ite (fun hnot => ?_) fun _ => ?_) h
        · exact absurd hnot (of_decide_eq_false hc)
        · exact .bind_left (closes_lockedTransaction x _)

end Hdcp.Transaction
