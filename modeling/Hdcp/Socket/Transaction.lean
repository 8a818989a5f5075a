/-
A transaction between the SDK and the daemon.

`transaction` says, byte by byte, what the SDK and the daemon say to each other for one
request: the request, the response, and, after a response that reports success, the KSV list
or the SRM and another response.  It is what both sides would agree on; neither of them has
it in its code.

The functions of the SDK and those of the daemon are compared with it separately, each under
a monitor; this file has what both need: the phases of the transaction, and the loops of
`ReadData` and `WriteData` under any monitor.
-/
import Hdcp.Library.Dialogue
import Hdcp.Library.Monitor
import Hdcp.Socket.Data

namespace Hdcp.Transaction

open Library Socket
open Library.Dialogue (askMany replyMany again)

/-! ### The dialogue -/

variable (L : Layout)

/-- After the response to `GETKSVLIST`. -/
def ksvPhase (rsp : SocketData) : Dialogue UInt8 :=
  if rsp.status = HdcpStatus.successful then
    if rsp.ksvCount > maxKsvCount then .never
    else replyMany (rsp.ksvCount.toNat * ksvSize) fun _ => .done
  else .done

/-- After the first response to `SENDSRMDATA`. -/
def srmPhase (req rsp : SocketData) : Dialogue UInt8 :=
  if rsp.status = HdcpStatus.successful then
    if req.srmOrKsvListDataSz.toNat > srmFirstGenMaxSize then .never
    else askMany req.srmOrKsvListDataSz.toNat fun _ => replyMany L.size fun _ => .done
  else .done

/-- What follows a response. -/
def afterResponse (req rsp : SocketData) : Dialogue UInt8 :=
  if req.command = HdcpApi.getKsvList then ksvPhase rsp
  else if req.command = HdcpApi.sendSrmData then srmPhase L req rsp
  else .done

/-- The requests that a session makes. -/
def isSessionCommand (command : HdcpApiType) : Bool :=
  command ∈ [HdcpApi.enumerateHdcpDisplay, HdcpApi.setProtectionLevel, HdcpApi.getStatus,
    HdcpApi.getKsvList, HdcpApi.sendSrmData, HdcpApi.getSrmVersion, HdcpApi.config]

/-- After the request. -/
def answered (req : SocketData) : Dialogue UInt8 :=
  if req.size = UInt32.ofNat L.size ∧ isSessionCommand req.command then
    replyMany L.size fun bytes => afterResponse L req (L.decode bytes)
  else .never

/-- A request and its answer. -/
def transaction : Dialogue UInt8 := askMany L.size fun bytes => answered L (L.decode bytes)

variable {L}

lemma replied_afterResponse (req rsp : SocketData) : (afterResponse L req rsp).Replied := by
  have hlast (n : ℕ) : (replyMany n fun _ => (.done : Dialogue UInt8)).Replied :=
    Dialogue.replyMany_replied (K := fun _ => .done) (fun _ => trivial) n
  have hne : replyMany L.size (fun _ => (.done : Dialogue UInt8)) ≠ .done :=
    (Dialogue.replies_replyMany (layout_size_pos L)).ne_done
  rw [afterResponse, ksvPhase, srmPhase]
  split_ifs
  · trivial
  · exact hlast _
  · trivial
  · trivial
  · exact (Dialogue.askMany_replied (fun _ => ⟨hne, hlast _⟩) _).2
  · trivial
  · trivial

lemma answered_replied (req : SocketData) : answered L req ≠ .done ∧ (answered L req).Replied := by
  rw [answered]
  split_ifs
  · constructor
    · exact (Dialogue.replies_replyMany (layout_size_pos L)).ne_done
    · exact Dialogue.replyMany_replied (fun _ => replied_afterResponse _ _) _
  · exact ⟨nofun, trivial⟩

/-- The daemon has the last word. -/
lemma transaction_replied : (transaction L).Replied :=
  (Dialogue.askMany_replied (fun _ => answered_replied _) _).2

lemma transaction_asks : (transaction L).Asks := Dialogue.asks_askMany (layout_size_pos L)

lemma answered_ne_never {req : SocketData} (h : answered L req ≠ .never) :
    (req.size = UInt32.ofNat L.size ∧ isSessionCommand req.command) ∧
      answered L req = replyMany L.size fun bytes => afterResponse L req (L.decode bytes) := by
  rw [answered] at h ⊢
  split_ifs at h ⊢ with hreq
  · exact ⟨hreq, rfl⟩
  · exact absurd rfl h

lemma answered_of_request {req : SocketData} (hsize : req.size = UInt32.ofNat L.size)
    (hcommand : isSessionCommand req.command) : answered L req ≠ .never := by
  rw [answered, if_pos ⟨hsize, hcommand⟩]
  exact (Dialogue.replies_replyMany (layout_size_pos L)).ne_never

/-- A request that was written. -/
lemma walk_transaction (req : SocketData) :
    (transaction L).walk (asks (L.encode req)) = answered L req := by
  rw [transaction, Dialogue.walk_askMany (by simp)]
  simp

/-- A response that was written. -/
lemma walk_response (rsp : SocketData) (K : List UInt8 → Dialogue UInt8) :
    (replyMany L.size K).walk (replies (L.encode rsp)) = K (L.encode rsp) := by
  rw [Dialogue.walk_replyMany (by simp)]
  simp

/-- A transaction that is over is a request, a response, and what follows this response. -/
theorem transaction_over {t : Talk UInt8} (h : (transaction L).walk t = .done) :
    ∃ req rsp rest, t = asks req ++ (replies rsp ++ rest) ∧ req.length = L.size ∧
      rsp.length = L.size ∧
      (afterResponse L (L.decode req) (L.decode rsp)).walk rest = .done := by
  obtain ⟨req, u, rfl, hreq, hanswer⟩ := Dialogue.askMany_over h
  have hok : answered L (L.decode req) ≠ .never := by
    intro hnever
    rw [hnever, Dialogue.never_walk] at hanswer
    exact absurd hanswer nofun
  rw [(answered_ne_never hok).2] at hanswer
  obtain ⟨rsp, rest, rfl, hrsp, hrest⟩ := Dialogue.replyMany_over hanswer
  exact ⟨req, rsp, rest, rfl, hreq, hrsp, hrest⟩

/-! ### Reading and writing under a monitor -/

section Loops

variable {S : Sig} {P : Type} {μ : Monitor S P}

/-- What the loop of `ReadData` ends with: `I n data` holds when `n` bytes are left to be
read and `data` was read, and `F` when a `read` has failed. -/
lemma sat_readLoop_or {read : ℕ → Prog S (Except Errno (List UInt8))}
    {I : ℕ → List UInt8 → P → Prop} {F : P → Prop}
    (hread : ∀ n data q, 0 < n → I n data q → μ.Sat (fun r q' => (∃ bytes, r = .ok bytes ∧
      bytes ≠ [] ∧ bytes.length ≤ n ∧ I (n - bytes.length) (data ++ bytes) q') ∨
        readBytes r = [] ∧ F q') (read n) q)
    (rounds : ℕ) {n : ℕ} {data : List UInt8} {q : P} (hrounds : n ≤ rounds) (hI : I n data q) :
    μ.Sat (fun r q' => (∃ bytes, r = .ok bytes ∧ bytes.length = data.length + n ∧ I 0 bytes q') ∨
      (∃ e, r = .error e) ∧ F q') (readLoop read rounds n data) q := by
  induction rounds generalizing n data q with
  | zero =>
      obtain rfl : n = 0 := by omega
      exact Or.inl ⟨data, rfl, rfl, hI⟩
  | succ rounds ih =>
      refine Monitor.Sat.ite (fun hn => ?_) fun hn => ?_
      · subst hn
        exact Or.inl ⟨data, rfl, rfl, hI⟩
      · refine (hread n data q (Nat.pos_of_ne_zero hn) hI).bind ?_
        rintro r q' (⟨bytes, rfl, hne, hlength, hI'⟩ | ⟨hfails, hF⟩)
        · have hpos : 0 < bytes.length := List.length_pos_iff.2 hne
          refine Monitor.Sat.ite (fun hempty => ?_) fun _ => ?_
          · exact absurd (List.isEmpty_iff.1 hempty) hne
          · refine (ih (by omega) hI').mono ?_
            rintro r q'' (⟨all, rfl, hall, hI''⟩ | hfails)
            · refine Or.inl ⟨all, rfl, ?_, hI''⟩
              rw [hall, List.length_append]
              omega
            · exact Or.inr hfails
        · cases r with
          | error e => exact Or.inr ⟨⟨e, rfl⟩, hF⟩
          | ok bytes =>
              obtain rfl : bytes = [] := hfails
              exact Or.inr ⟨⟨_, rfl⟩, hF⟩

/-- No `read` fails. -/
lemma sat_readLoop {read : ℕ → Prog S (Except Errno (List UInt8))}
    {I : ℕ → List UInt8 → P → Prop}
    (hread : ∀ n data q, 0 < n → I n data q → μ.Sat (fun r q' => ∃ bytes, r = .ok bytes ∧
      bytes ≠ [] ∧ bytes.length ≤ n ∧ I (n - bytes.length) (data ++ bytes) q') (read n) q)
    (rounds : ℕ) {n : ℕ} {data : List UInt8} {q : P} (hrounds : n ≤ rounds) (hI : I n data q) :
    μ.Sat (fun r q' => ∃ bytes, r = .ok bytes ∧ bytes.length = data.length + n ∧ I 0 bytes q')
      (readLoop read rounds n data) q := by
  refine (sat_readLoop_or (F := fun _ => False) (fun n data q hn hI => ?_) rounds hrounds
    hI).mono fun _ _ h => h.resolve_right And.right
  exact (hread n data q hn hI).mono fun _ _ h => Or.inl h

/-- What the loop of `WriteData` ends with: `J data` holds when `data` is left to be
written, and `F` when a `send` has failed. -/
lemma sat_writeLoop_or {send : List UInt8 → Prog S (Except Errno ℕ)} {J : List UInt8 → P → Prop}
    {F : P → Prop}
    (hsend : ∀ data q, data ≠ [] → J data q → μ.Sat (fun r q' => (∃ n, r = .ok n ∧ 0 < n ∧
      n ≤ data.length ∧ J (data.drop n) q') ∨ (∃ e, r = .error e ∧ e ≠ .success) ∧ F q')
        (send data) q)
    (rounds : ℕ) {data : List UInt8} {q : P} (hrounds : data.length ≤ rounds) (hJ : J data q) :
    μ.Sat (fun r q' => r = .success ∧ J [] q' ∨ r ≠ .success ∧ F q')
      (writeLoop send rounds data) q := by
  induction rounds generalizing data q with
  | zero =>
      obtain rfl : data = [] := List.eq_nil_of_length_eq_zero (by omega)
      exact Or.inl ⟨rfl, hJ⟩
  | succ rounds ih =>
      refine Monitor.Sat.ite (fun hempty => ?_) fun hempty => ?_
      · obtain rfl := List.isEmpty_iff.1 hempty
        exact Or.inl ⟨rfl, hJ⟩
      · have hne : data ≠ [] := fun heq => hempty (List.isEmpty_iff.2 heq)
        refine (hsend data q hne hJ).bind ?_
        rintro r q' (⟨n, rfl, hpos, hn, hJ'⟩ | ⟨⟨e, rfl, he⟩, hF⟩)
        · exact ih (by rw [List.length_drop]; omega) hJ'
        · exact Or.inr ⟨he, hF⟩

/-- No `send` fails. -/
lemma sat_writeLoop {send : List UInt8 → Prog S (Except Errno ℕ)} {J : List UInt8 → P → Prop}
    (hsend : ∀ data q, data ≠ [] → J data q → μ.Sat (fun r q' => ∃ n, r = .ok n ∧ 0 < n ∧
      n ≤ data.length ∧ J (data.drop n) q') (send data) q)
    (rounds : ℕ) {data : List UInt8} {q : P} (hrounds : data.length ≤ rounds) (hJ : J data q) :
    μ.Sat (fun r q' => r = .success ∧ J [] q') (writeLoop send rounds data) q := by
  refine (sat_writeLoop_or (F := fun _ => False) (fun data q hne hJ => ?_) rounds hrounds
    hJ).mono fun _ _ h => h.resolve_right And.right
  exact (hsend data q hne hJ).mono fun _ _ h => Or.inl h

end Loops

/-- A `read` of at most `n` bytes that does not fail takes the dialogue from `d` to `d'`. -/
def Hears (turns : List UInt8 → Talk UInt8) (d : Dialogue UInt8) (n : ℕ)
    (r : Except Errno (List UInt8)) (d' : Dialogue UInt8) : Prop :=
  ∃ bytes, r = .ok bytes ∧ bytes ≠ [] ∧ bytes.length ≤ n ∧ d' = d.walk (turns bytes) ∧ d' ≠ .never

/-- A `send` that does not fail takes the dialogue from `d` to `d'`. -/
def Says (turns : List UInt8 → Talk UInt8) (d : Dialogue UInt8) (data : List UInt8)
    (r : Except Errno ℕ) (d' : Dialogue UInt8) : Prop :=
  ∃ n, r = .ok n ∧ 0 < n ∧ n ≤ data.length ∧ d' = d.walk (turns (data.take n))

end Hdcp.Transaction
