/-
The copies of the SRM.

`HdcpDaemon::SendSRMData` hands an SRM to `StoreSrm`, which installs it in the table and writes it
to the storage file, and then to the port manager, which writes it to the file of the display
firmware.  Nothing is undone when a later step fails, and the writes may be partial.

`update_atomic_iff`: a request that does not succeed leaves the table and both files as they were
exactly when no file operation has failed, or the copies held the SRM already, as far as the
request has written it.
-/
import Hdcp.Daemon.Model
import Hdcp.Srm.Table

namespace Hdcp.SrmUpdate

open Library Daemon Srm Socket
open Library.Prog (op iter Implements Leads runs_bind runs_call runs_ite runs_op runs_ret)

/-! ### Interactions -/

/-- The interactions of a request: those of the daemon, of the SRM module on the message `data`,
and of the port manager.  `writeDisplay bytes` writes behind what was written before; `endless`
stands for a loop that goes on for ever. -/
inductive UpdateOp where
  | daemon (o : DaemonOp)
  | srm (data : List UInt8) (o : SrmOp)
  | getTable
  | setTable (g : Option SrmTable)
  | hasPortManager
  | openDisplay
  | writeDisplay (bytes : List UInt8)
  | closeDisplay
  | endless

/-- The answers: `writeDisplay` answers how many bytes were written, or `errno` when the result
was not positive. -/
def UpdateOp.Ans : UpdateOp → Type
  | daemon o => o.Ans
  | srm _ o => o.Ans
  | getTable => Option SrmTable
  | hasPortManager | openDisplay => Bool
  | writeDisplay _ => Except Errno ℕ
  | endless => Empty
  | _ => Unit

abbrev updateSig : Sig := ⟨UpdateOp, UpdateOp.Ans⟩

abbrev UpdateProg (α : Type) : Type := Prog updateSig α

def getTable : UpdateProg (Option SrmTable) := op (S := updateSig) .getTable

def setTable (g : Option SrmTable) : UpdateProg Unit := op (S := updateSig) (.setTable g)

def hasPortManager : UpdateProg Bool := op (S := updateSig) .hasPortManager

def openDisplay : UpdateProg Bool := op (S := updateSig) .openDisplay

def writeDisplay (bytes : List UInt8) : UpdateProg (Except Errno ℕ) :=
  op (S := updateSig) (.writeDisplay bytes)

def closeDisplay : UpdateProg Unit := op (S := updateSig) .closeDisplay

def endless {α : Type} : UpdateProg α :=
  op (S := updateSig) .endless >>= fun (r : Empty) => r.elim

/-! ### The request -/

/-- `StoreSrm` on the global table, with `fuel` rounds for the loop of the parser. -/
def storeSrm (fuel : ℕ) (data : List UInt8) : UpdateProg Errno := do
  let g ← getTable
  match ← (Srm.storeSrm g fuel data.length).subst fun o => op (S := updateSig) (.srm data o) with
  | none => endless
  | some (ret, g) =>
    setTable g
    return ret

/-- `EINTR == errno || EAGAIN == errno`. -/
def interrupted (e : Errno) : Bool := e = .eintr ∨ e = .eagain

/-- One round of the loop of `PortManager::SendSRMData`; the variable is `total`. -/
def writeRound (data : List UInt8) (total : ℕ) : UpdateProg (ℕ ⊕ ℕ) := do
  match ← writeDisplay (data.drop total) with
  | .error e =>
    -- `continue` jumps to the condition of the loop
    if interrupted e ∧ total ≠ data.length then
      return .inl total
    return .inr total
  | .ok count =>
    if total + count ≠ data.length then
      return .inl (total + count)
    return .inr (total + count)

/-- `PortManager::SendSRMData`, with `rounds` rounds for its loop.  The codes `-errno` and `-EIO`
are `EIO` here: the daemon only looks whether they are `SUCCESS`. -/
def sendSRMData (rounds : ℕ) (data : List UInt8) : UpdateProg Errno := do
  if !(← openDisplay) then
    return .eio
  match ← iter (writeRound data) rounds 0 with
  | none => endless
  | some total =>
    closeDisplay
    if total ≠ data.length then
      return .eio
    return .success

/-- `PortManagerSendSRMDdata`. -/
def portManagerSendSrmData (rounds : ℕ) (data : List UInt8) : UpdateProg Errno := do
  if !(← hasPortManager) then
    return .enodev
  sendSRMData rounds data

/-- What the daemon calls in other modules, where it concerns the SRM. -/
def implement (fuel rounds : ℕ) : (o : DaemonOp) → UpdateProg o.Ans
  | .storeSrm data => storeSrm fuel data
  | .portManagerSendSrmData data => portManagerSendSrmData rounds data
  | o => op (S := updateSig) (.daemon o)

/-- `HdcpDaemon::SendSRMData`, down to the files. -/
def request (m : HdcpDaemon) (fuel rounds : ℕ) (data : SocketData) (appId : ℕ) :
    UpdateProg SocketData :=
  (m.sendSrmData data appId).subst (implement fuel rounds)

/-! ### The state -/

/-- The copies of the SRM: the table, the storage file, the file of the display firmware. -/
structure Copies where
  table : Option SrmTable
  storage : Option (List UInt8)
  display : Option (List UInt8)

/-- `heap` is what memory holds behind the message, `position` where the display file is
written next. -/
structure UpdateState extends Copies where
  position : ℕ
  heap : Mem

/-- The message, as the parser finds it. -/
def UpdateState.message (s : UpdateState) (data : List UInt8) : Mem :=
  copyInto s.heap 0 (memOf data) data.length

/-- `open` with `O_CREAT`, and without `O_TRUNC`. -/
def create (file : Option (List UInt8)) : Option (List UInt8) := some (file.getD [])

/-- `write` of `count` of the bytes. -/
def writeFile (file : Option (List UInt8)) (position : ℕ) (bytes : List UInt8) (count : ℕ) :
    Option (List UInt8) :=
  file.map fun contents => overwrite contents position (bytes.take count)

namespace UpdateState

variable (s : UpdateState)

def openStorage (succeeds : Bool) : UpdateState :=
  if succeeds then { s with storage := create s.storage } else s

/-- The result -1 is a number that is greater than the size. -/
def writeStorage (data : List UInt8) (size count : ℕ) : UpdateState :=
  if count ≤ size then { s with storage := writeFile s.storage 0 data count } else s

def openDisplay (succeeds : Bool) : UpdateState :=
  if succeeds then { s with display := create s.display, position := 0 } else s

/-- A positive result of `write` is at most the number of bytes. -/
def writeDisplay (bytes : List UInt8) : Except Errno ℕ → Option UpdateState
  | .error _ => some s
  | .ok count =>
    if 0 < count ∧ count ≤ bytes.length then
      some { s with
        display := writeFile s.display s.position bytes count
        position := s.position + count }
    else
      none

/-- `read` gives at most as many bytes as it is asked for. -/
def receive (size : ℕ) : Except Errno (List UInt8) → Option UpdateState
  | .error _ => some s
  | .ok bytes => if bytes.length ≤ size then some s else none

def answer (x r : Option SrmTable) : Option UpdateState := if r = x then some s else none

end UpdateState

def updateStep : (o : UpdateOp) → o.Ans → UpdateState → Option UpdateState
  | .daemon (.read _ size), r, s => s.receive size r
  | .srm _ (.openStorage true), r, s => some (s.openStorage r)
  | .srm data (.writeStorage size), r, s => some (s.writeStorage data size r)
  | .srm data o, r, s => if faithful (s.message data) ⟨o, r⟩ then some s else none
  | .getTable, r, s => s.answer s.table r
  | .setTable g, _, s => some { s with table := g }
  | .openDisplay, r, s => some (s.openDisplay r)
  | .writeDisplay bytes, r, s => s.writeDisplay bytes r
  | _, _, s => some s

/-! ### What a log does to the files -/

/-- The files that hold an SRM. -/
inductive StoredFile where
  | storage
  | display
deriving DecidableEq

def Copies.file (c : Copies) : StoredFile → Option (List UInt8)
  | .storage => c.storage
  | .display => c.display

/-- The file was opened. -/
def opens (f : StoredFile) : Event updateSig → Bool
  | ⟨.srm _ (.openStorage true), r⟩ => opened .storage r
  | ⟨.openDisplay, r⟩ => opened .display r
  | _ => false
where
  opened (f' : StoredFile) (succeeds : Bool) : Bool := decide (f = f') && succeeds

/-- The number of bytes that were written to the file. -/
def wrote (f : StoredFile) : Event updateSig → ℕ
  | ⟨.srm _ (.writeStorage size), r⟩ => toStorage size r
  | ⟨.writeDisplay _, r⟩ => toDisplay r
  | _ => 0
where
  toStorage (size count : ℕ) : ℕ := if f = .storage ∧ count ≤ size then count else 0
  toDisplay : Except Errno ℕ → ℕ
    | .ok count => if f = .display then count else 0
    | .error _ => 0

/-- A file could not be opened or written, or there is no port manager to write its file. -/
def fileFails : Event updateSig → Bool
  | ⟨.srm _ (.openStorage true), r⟩ => refused r
  | ⟨.srm _ (.writeStorage size), r⟩ => short size r
  | ⟨.hasPortManager, r⟩ => refused r
  | ⟨.openDisplay, r⟩ => refused r
  | ⟨.writeDisplay _, r⟩ => gaveUp r
  | _ => false
where
  refused (succeeds : Bool) : Bool := !succeeds
  short (size count : ℕ) : Bool := count ≠ size
  gaveUp : Except Errno ℕ → Bool
    | .ok _ => false
    | .error e => !interrupted e

abbrev UpdateLog : Type := List (Event updateSig)

def opened (f : StoredFile) (log : UpdateLog) : Bool := log.any (opens f)

def written (f : StoredFile) (log : UpdateLog) : ℕ := (log.map (wrote f)).sum

/-- The bytes that a `read` of the daemon has given. -/
def gave : Event daemonSig → List UInt8
  | ⟨.read _ _, r⟩ => readBytes r
  | _ => []

def receivedBy : Event updateSig → List UInt8
  | ⟨.daemon o, r⟩ => gave ⟨o, r⟩
  | _ => []

/-- The SRM, as the request has received it. -/
def received (log : UpdateLog) : List UInt8 := log.flatMap receivedBy

/-- A file after the first `count` bytes of the SRM were written to it. -/
def fileAfter (file : Option (List UInt8)) (srm : List UInt8) (isOpened : Bool) (count : ℕ) :
    Option (List UInt8) :=
  if isOpened then some (overwrite (file.getD []) 0 (srm.take count)) else file

/-- The file is as it was exactly when it held what was written to it. -/
lemma fileAfter_eq_self_iff {file : Option (List UInt8)} {srm : List UInt8} {isOpened : Bool}
    {count : ℕ} : fileAfter file srm isOpened count = file ↔
      (isOpened = true → ∃ contents, file = some contents ∧ srm.take count <+: contents) := by
  rw [fileAfter]
  cases isOpened with
  | false => simp
  | true =>
      cases file with
      | none => simp
      | some contents => simp [overwrite_eq_self_iff]

section Log

variable {f : StoredFile} {e : Event updateSig} {log log' : UpdateLog}

@[simp] lemma opened_nil : opened f [] = false := rfl

@[simp] lemma opened_append : opened f (log ++ log') = (opened f log || opened f log') :=
  List.any_append

@[simp] lemma written_nil : written f [] = 0 := rfl

@[simp] lemma written_cons : written f (e :: log) = wrote f e + written f log := by
  simp [written]

@[simp] lemma written_append : written f (log ++ log') = written f log + written f log' := by
  simp [written]

/-- An interaction that concerns no file. -/
structure Silent (e : Event updateSig) : Prop where
  opens : ∀ f, opens f e = false
  wrote : ∀ f, wrote f e = 0
  fileFails : fileFails e = false

lemma opened_of_silent (h : ∀ e ∈ log, Silent e) : opened f log = false :=
  List.any_eq_false.2 fun e he => by simp [(h e he).opens]

lemma written_of_silent (h : ∀ e ∈ log, Silent e) : written f log = 0 := by
  induction log with
  | nil => rfl
  | cons e log ih =>
      obtain ⟨he, hlog⟩ := List.forall_mem_cons.1 h
      rw [written_cons, he.wrote, ih hlog]

lemma fileFails_of_silent (h : ∀ e ∈ log, Silent e) : log.any fileFails = false :=
  List.any_eq_false.2 fun e he => by simp [(h e he).fileFails]

end Log

/-! ### The parser -/

/-- The interactions of the parser. -/
def parsing : SrmOp → Bool
  | .read _ | .memmove _ _ | .verifySignature _ _ _ _ | .new _ | .useLength _ _ => true
  | _ => false

lemma uses_newVectorRevocationList (buf length : ℕ) :
    (newVectorRevocationList buf length).Uses fun o : SrmOp => parsing o = true := by
  rw [newVectorRevocationList]
  refine Prog.Uses.ite (fun _ => trivial) fun _ => ?_
  refine Prog.Uses.bind (Prog.uses_op.2 rfl) fun _ => ?_
  refine Prog.Uses.ite (fun _ => trivial) fun _ => ?_
  refine Prog.Uses.bind (Prog.uses_op.2 rfl) fun _ => ?_
  refine Prog.Uses.ite (fun _ => trivial) fun _ => ?_
  exact Prog.Uses.bind (Prog.uses_op.2 rfl) fun _ => trivial

lemma uses_sectionRound (length : ℕ) (x : SectionState) :
    (sectionRound length x).Uses fun o : SrmOp => parsing o = true := by
  rw [sectionRound]
  refine Prog.Uses.ite (fun _ => trivial) fun _ => ?_
  refine Prog.Uses.ite (fun _ => trivial) fun _ => ?_
  refine Prog.Uses.bind (Prog.uses_op.2 rfl) fun _ => ?_
  refine Prog.Uses.bind (Prog.uses_op.2 rfl) fun _ => ?_
  refine Prog.Uses.ite (fun _ => trivial) fun _ => ?_
  refine Prog.Uses.ite (fun _ => trivial) fun _ => ?_
  refine Prog.Uses.bind (Prog.uses_op.2 rfl) fun _ => ?_
  refine Prog.Uses.bind (Prog.uses_op.2 rfl) fun _ => ?_
  refine Prog.Uses.bind (Prog.uses_op.2 rfl) fun _ => ?_
  refine Prog.Uses.ite (fun _ => trivial) fun _ => ?_
  refine Prog.Uses.bind (Prog.uses_op.2 rfl) fun _ => ?_
  refine Prog.Uses.ite (fun _ => trivial) fun _ => ?_
  refine (uses_newVectorRevocationList _ _).bind fun _ => ?_
  exact Prog.Uses.ite (fun _ => trivial) fun _ => trivial

lemma uses_parseSrm (fuel version length : ℕ) :
    (parseSrm fuel version length).Uses fun o : SrmOp => parsing o = true := by
  have hheader : readHeader.Uses fun o : SrmOp => parsing o = true := by
    refine Prog.Uses.bind (Prog.uses_op.2 rfl) fun _ => ?_
    refine Prog.Uses.bind (Prog.uses_op.2 rfl) fun _ => ?_
    refine Prog.Uses.bind (Prog.uses_op.2 rfl) fun _ => ?_
    exact Prog.Uses.bind (Prog.uses_op.2 rfl) fun _ => trivial
  rw [parseSrm]
  refine hheader.bind fun _ => ?_
  refine Prog.Uses.ite (fun _ => trivial) fun _ => ?_
  refine Prog.Uses.ite (fun _ => trivial) fun _ => ?_
  refine Prog.Uses.bind (Prog.uses_op.2 rfl) fun _ => ?_
  refine Prog.Uses.bind (Prog.uses_op.2 rfl) fun _ => ?_
  refine Prog.Uses.bind (Prog.uses_op.2 rfl) fun _ => ?_
  refine Prog.Uses.ite (fun _ => trivial) fun _ => ?_
  refine Prog.Uses.ite (fun _ => trivial) fun _ => ?_
  refine Prog.Uses.bind (Prog.uses_op.2 rfl) fun _ => ?_
  refine Prog.Uses.bind (Prog.uses_op.2 rfl) fun _ => ?_
  refine Prog.Uses.bind (Prog.uses_op.2 rfl) fun _ => ?_
  refine Prog.Uses.bind (Prog.uses_op.2 rfl) fun _ => ?_
  refine Prog.Uses.ite (fun _ => trivial) fun _ => ?_
  refine Prog.Uses.bind (Prog.uses_op.2 rfl) fun _ => ?_
  refine Prog.Uses.ite (fun _ => trivial) fun _ => ?_
  refine Prog.Uses.bind (Prog.uses_op.2 rfl) fun _ => ?_
  refine Prog.Uses.ite (fun _ => trivial) fun _ => ?_
  refine (uses_newVectorRevocationList _ _).bind fun _ => ?_
  refine Prog.Uses.ite (fun _ => trivial) fun _ => ?_
  refine (Prog.uses_iter (uses_sectionRound length) fuel _).bind ?_
  rintro (_ | (_ | _)) <;> trivial

lemma uses_retrieve (t : SrmTable) (fuel length : ℕ) :
    (t.retrieveSrmFromBuffer fuel length).Uses fun o : SrmOp => parsing o = true := by
  rw [SrmTable.retrieveSrmFromBuffer]
  refine (uses_parseSrm fuel t.version length).bind ?_
  rintro (_ | (_ | _)) <;> trivial

/-! ### StoreSrm -/

/-- An interaction of the SRM module on a message. -/
def onMessage (data : List UInt8) (e : Event srmSig) : Event updateSig := ⟨.srm data e.op, e.ans⟩

variable {α : Type} {data srm : List UInt8} {log log' : UpdateLog} {s s' s₁ : UpdateState}
  {fuel rounds : ℕ}

lemma runs_onMessage {p : SrmProg α} {a : α}
    (h : (p.subst fun o => op (S := updateSig) (.srm data o)).Runs log a) :
    ∃ l, log = l.map (onMessage data) ∧ p.Runs l a := by
  induction p generalizing log with
  | ret b =>
      obtain ⟨rfl, rfl⟩ := runs_ret.1 h
      exact ⟨[], rfl, .ret a⟩
  | call o k ih =>
      obtain ⟨r, rest, rfl, hrest⟩ := runs_call.1 h
      obtain ⟨l, rfl, hl⟩ := ih r hrest
      exact ⟨⟨o, r⟩ :: l, rfl, .call o k r hl⟩

lemma not_runs_endless {a : α} : ¬(endless : UpdateProg α).Runs log a := by
  intro h
  obtain ⟨r, -⟩ := runs_call.1 h
  exact r.elim

lemma silent_of_parsing {e : Event srmSig} (h : parsing e.op = true) :
    Silent (onMessage data e) := by
  obtain ⟨o, r⟩ := e
  cases o
  case mutexInit | openStorage | fstat | mmap | writeStorage | closeStorage =>
    exact absurd h Bool.false_ne_true
  all_goals exact ⟨fun _ => rfl, fun _ => rfl, rfl⟩

/-- The parser leaves the state alone, and its reads get the bytes of the message. -/
lemma leads_parsing {l : List (Event srmSig)} (hl : ∀ e ∈ l, parsing e.op = true)
    (hleads : Leads updateStep (l.map (onMessage data)) s s') :
    s' = s ∧ ∀ e ∈ l, faithful (s.message data) e = true := by
  induction l generalizing s with
  | nil => exact ⟨hleads, by simp⟩
  | cons e l ih =>
      obtain ⟨he, hl⟩ := List.forall_mem_cons.1 hl
      obtain ⟨t, hstep, hrest⟩ := hleads
      have hstep' : (if faithful (s.message data) e then some s else none) = some t := by
        obtain ⟨o, r⟩ := e
        cases o
        case mutexInit | openStorage | fstat | mmap | writeStorage | closeStorage =>
          exact absurd he Bool.false_ne_true
        all_goals exact hstep
      rw [Option.ite_none_right_eq_some, Option.some.injEq] at hstep'
      obtain ⟨hfaithful, rfl⟩ := hstep'
      obtain ⟨rfl, hall⟩ := ih hl hrest
      exact ⟨rfl, List.forall_mem_cons.2 ⟨hfaithful, hall⟩⟩

/-- What lies behind the message does not matter for a read within it. -/
lemma faithful_memOf {heap : Mem} {e : Event srmSig} (he : InBounds data.length e.op)
    (hfaithful : faithful (copyInto heap 0 (memOf data) data.length) e = true) :
    faithful (memOf data) e = true := by
  have hbyte : ∀ i < data.length,
      copyInto heap 0 (memOf data) data.length i = memOf data i := fun i hi => by
    rw [copyInto, if_pos ⟨Nat.zero_le i, by omega⟩, Nat.sub_zero]
  obtain ⟨o, r⟩ := e
  cases o
  case read i =>
    have hread : answeredBy (copyInto heap 0 (memOf data) data.length i) r = true := hfaithful
    rw [hbyte i he] at hread
    exact hread
  case memmove src len =>
    have hmove : answeredBy (slice (copyInto heap 0 (memOf data) data.length) src len) r = true :=
      hfaithful
    have hslice : slice (copyInto heap 0 (memOf data) data.length) src len =
        slice (memOf data) src len := by
      rcases he with rfl | hin
      · rfl
      · exact slice_eq_iff.2 ⟨rfl, fun i hi => hbyte (src + i) (by omega)⟩
    rw [hslice] at hmove
    exact hmove
  all_goals rfl

/-- The parser installs the message in the table. -/
def Parses (data : List UInt8) (t t' : SrmTable) (l : List (Event srmSig)) : Prop :=
  ∃ ω, Returns (memOf data) ω t data.length .success t' l

/-- What the parser does on a message in memory: it refuses it and leaves the table alone, or
installs it. -/
lemma parses_of_runs {heap : Mem} {t t' : SrmTable} {ret : Errno} {l : List (Event srmSig)}
    (hsize : data.length + 2 ^ 16 ≤ 2 ^ 32)
    (h : (t.retrieveSrmFromBuffer fuel data.length).Runs l (some (ret, t')))
    (hfaithful : ∀ e ∈ l, faithful (copyInto heap 0 (memOf data) data.length) e = true) :
    ret ≠ .success ∧ t' = t ∨ ret = .success ∧ Parses data t t' l := by
  obtain ⟨ω, n, hexec⟩ := exists_exec h hfaithful 0
  have hreturns : Returns _ ω t data.length ret t' l := ⟨fuel, n, hexec⟩
  by_cases hret : ret = .success
  · subst hret
    obtain ⟨hok, -⟩ := hreturns.success
    have hfits := hok.fits
    have hmin := hok.min
    obtain ⟨fuel', hspec⟩ := hreturns.spec
    -- the parser has not read behind the message, so that `memOf data` does as well
    have hinBounds : LogInBounds data.length l := hspec.inBounds hsize (by omega)
    obtain ⟨ω', n', hexec'⟩ :=
      exists_exec h (fun e he => faithful_memOf (hinBounds e he) (hfaithful e he)) 0
    exact .inr ⟨rfl, ω', fuel, n', hexec'⟩
  · exact .inl ⟨hret, hreturns.failure hret⟩

/-- `StoreSrm` has refused the SRM. -/
structure Refuses (s s' : UpdateState) (log : UpdateLog) (sts : Errno) : Prop where
  failed : sts ≠ .success
  same : s'.toCopies = s.toCopies
  silent : ∀ e ∈ log, Silent e

/-- The message was written to the file `f`, as far as that went well. -/
structure Writes (f : StoredFile) (data : List UInt8) (s s' : UpdateState) (log : UpdateLog)
    (sts : Errno) : Prop where
  file : s'.file f = fileAfter (s.file f) data (opened f log) (written f log)
  others : ∀ f' ≠ f, s'.file f' = s.file f' ∧ opened f' log = false ∧ written f' log = 0
  success : sts = .success ↔ log.any fileFails = false
  whole : sts = .success → opened f log = true → written f log = data.length

/-- `StoreSrm` has taken the SRM: it is in the table, and in the storage file as far as it was
written. -/
structure Takes (data : List UInt8) (t t' : SrmTable) (s s' : UpdateState) (log : UpdateLog)
    (sts : Errno) : Prop where
  before : s.table = some t
  after : s'.table = some t'
  parses : ∃ l, (∀ e ∈ l, onMessage data e ∈ log) ∧ Parses data t t' l
  writes : Writes .storage data s s' log sts
  stored : sts = .success → t.isSrmStorageDisable = false → opened .storage log = true

lemma silent_getTable {r : Option SrmTable} : Silent ⟨.getTable, r⟩ :=
  ⟨fun _ => rfl, fun _ => rfl, rfl⟩

lemma silent_setTable {g : Option SrmTable} {u : Unit} : Silent ⟨.setTable g, u⟩ :=
  ⟨fun _ => rfl, fun _ => rfl, rfl⟩

/-- The storage file is opened, and `write` answers `count`. -/
def storing (size count : ℕ) : List (Event srmSig) :=
  [⟨.openStorage true, true⟩, ⟨.writeStorage size, count⟩, ⟨.closeStorage, ()⟩]

/-- What `StoreSrm` does with the storage file, and what it returns. -/
inductive Stores (size : ℕ) : Bool → List (Event srmSig) → Errno → Prop where
  | disabled : Stores size true [] .success
  | openFails : Stores size false [⟨.openStorage true, false⟩] .eio
  | writes (count : ℕ) :
      Stores size false (storing size count) (if count = size then .success else .eio)

lemma runs_return {g g' : Option SrmTable} {ret ret' : Errno} {l : List (Event srmSig)}
    (h : (Prog.ret (some (ret', g')) : SrmProg (Option (Errno × Option SrmTable))).Runs l
      (some (ret, g))) : l = [] ∧ ret = ret' ∧ g = g' := by
  obtain ⟨hl, hret⟩ := runs_ret.1 h
  obtain ⟨hret, hg⟩ := Prod.mk.inj (Option.some.inj hret)
  exact ⟨hl, hret, hg⟩

lemma runs_storeSrm {g g' : Option SrmTable} {size : ℕ} {ret : Errno} {l : List (Event srmSig)}
    (h : (Srm.storeSrm g fuel size).Runs l (some (ret, g'))) :
    g = none ∧ l = [] ∧ ret = .enodev ∧ g' = none ∨
      ∃ t t' sts l₁ l₂, g = some t ∧ g' = some t' ∧ l = l₁ ++ l₂ ∧
        (t.retrieveSrmFromBuffer fuel size).Runs l₁ (some (sts, t')) ∧
        (sts ≠ .success ∧ l₂ = [] ∧ ret = sts ∨
          sts = .success ∧ Stores size t'.isSrmStorageDisable l₂ ret) := by
  cases g with
  | none =>
      obtain ⟨rfl, rfl, rfl⟩ := runs_return h
      exact .inl ⟨rfl, rfl, rfl, rfl⟩
  | some t =>
      refine .inr ?_
      obtain ⟨r, l₁, l₂, hretrieve, hrest, rfl⟩ := runs_bind.1 h
      rcases r with _ | ⟨sts, t'⟩
      · exact absurd (runs_ret.1 hrest).2 (by simp)
      rcases runs_ite.1 hrest with ⟨hsts, hret⟩ | ⟨hsts, hstore⟩
      · obtain ⟨rfl, rfl, rfl⟩ := runs_return hret
        exact ⟨t, t', ret, l₁, [], rfl, rfl, rfl, hretrieve, .inl ⟨hsts, rfl, rfl⟩⟩
      obtain rfl : sts = .success := not_not.1 hsts
      rcases runs_ite.1 hstore with ⟨hdisable, hret⟩ | ⟨hdisable, henabled⟩
      · obtain ⟨rfl, rfl, rfl⟩ := runs_return hret
        refine ⟨t, t', .success, l₁, [], rfl, rfl, rfl, hretrieve, .inr ⟨rfl, ?_⟩⟩
        rw [hdisable]
        exact .disabled
      have hdisable : t'.isSrmStorageDisable = false := by simpa using hdisable
      obtain ⟨r, lo, l₃, hopen, hopened, rfl⟩ := runs_bind.1 henabled
      obtain rfl := runs_op.1 hopen
      rcases runs_ite.1 hopened with ⟨hfails, hret⟩ | ⟨hfails, hfile⟩
      · obtain ⟨rfl, rfl, rfl⟩ := runs_return hret
        obtain rfl : r = false := by simpa using hfails
        refine ⟨t, t', .success, l₁, _, rfl, rfl, rfl, hretrieve, .inr ⟨rfl, ?_⟩⟩
        rw [hdisable]
        exact .openFails
      obtain rfl : r = true := by simpa using hfails
      obtain ⟨count, lw, l₄, hwrite, hwritten, rfl⟩ := runs_bind.1 hfile
      obtain rfl := runs_op.1 hwrite
      obtain ⟨u, lc, l₅, hclose, hend, rfl⟩ := runs_bind.1 hwritten
      obtain rfl := runs_op.1 hclose
      refine ⟨t, t', .success, l₁, _, rfl, ?_, rfl, hretrieve, .inr ⟨rfl, ?_⟩⟩
      · rcases runs_ite.1 hend with ⟨-, hret⟩ | ⟨-, hret⟩
        · exact (runs_return hret).2.2
        · exact (runs_return hret).2.2
      · have hwrites : Stores size false (storing size count) _ := .writes count
        rw [hdisable]
        rcases runs_ite.1 hend with ⟨hcount, hret⟩ | ⟨hcount, hret⟩
        · obtain ⟨rfl, rfl, rfl⟩ := runs_return hret
          rwa [if_neg hcount] at hwrites
        · obtain ⟨rfl, rfl, rfl⟩ := runs_return hret
          rwa [if_pos (not_not.1 hcount)] at hwrites

/-- An operation on the storage file, in a log that leads somewhere. -/
lemma leads_file {e : Event updateSig} {s₂ : UpdateState}
    (hleads : Leads updateStep (e :: log) s s') (hstep : updateStep e.op e.ans s = some s₂) :
    Leads updateStep log s₂ s' := by
  obtain ⟨s₃, hstep', hrest⟩ := hleads
  obtain rfl : s₂ = s₃ := Option.some.inj (hstep.symm.trans hstep')
  exact hrest

section Storing

variable {size count : ℕ}

lemma fileFails_storing :
    ((storing size count).map (onMessage data)).any fileFails = decide (count ≠ size) := by
  show (false || (decide (count ≠ size) || (false || false))) = _
  simp

lemma written_storing : written .storage ((storing size count).map (onMessage data)) =
    if count ≤ size then count else 0 := by
  show 0 + (if StoredFile.storage = .storage ∧ count ≤ size then count else 0) + 0 = _
  simp

lemma written_display_storing :
    written .display ((storing size count).map (onMessage data)) = 0 := by
  show 0 + (if StoredFile.display = .storage ∧ count ≤ size then count else 0) + 0 = _
  simp

end Storing

lemma writes_of_stores {disabled : Bool} {l : List (Event srmSig)} {ret : Errno}
    (h : Stores data.length disabled l ret)
    (hleads : Leads updateStep (l.map (onMessage data)) s s') :
    s'.table = s.table ∧ Writes .storage data s s' (l.map (onMessage data)) ret ∧
      (ret = .success → disabled = false → opened .storage (l.map (onMessage data)) = true) := by
  cases h with
  | disabled =>
      obtain rfl : s' = s := hleads
      refine ⟨rfl, ⟨rfl, fun _ _ => ⟨rfl, rfl, rfl⟩, ⟨fun _ => rfl, fun _ => rfl⟩, ?_⟩, by simp⟩
      exact fun _ hopened => absurd hopened Bool.false_ne_true
  | openFails =>
      obtain rfl : s' = s := leads_file hleads rfl
      refine ⟨rfl, ⟨rfl, fun f' hf' => ⟨rfl, ?_, rfl⟩, ?_, by simp⟩, by simp⟩
      · cases f' with
        | storage => exact absurd rfl hf'
        | display => rfl
      · exact iff_of_false (by decide) fun h => Bool.noConfusion h
  | writes count =>
      have hopened := leads_file hleads rfl
      have hwritten := leads_file hopened rfl
      obtain rfl : s' = (s.openStorage true).writeStorage data data.length count :=
        leads_file hwritten rfl
      have hstate : (s.openStorage true).writeStorage data data.length count =
          { s with storage := fileAfter s.storage data true <|
            if count ≤ data.length then count else 0 } := by
        rw [UpdateState.writeStorage]
        split
        · rfl
        · rw [fileAfter, if_pos rfl, List.take_zero, overwrite_nil]
          rfl
      rw [hstate]
      refine ⟨rfl, ⟨?_, ?_, ?_, ?_⟩, fun _ _ => rfl⟩
      · rw [written_storing]
        rfl
      · intro f' hf'
        cases f' with
        | storage => exact absurd rfl hf'
        | display => exact ⟨rfl, rfl, written_display_storing⟩
      · rw [fileFails_storing]
        by_cases hcount : count = data.length <;> simp [hcount]
      · intro hret _
        have hcount : count = data.length := by
          by_contra hne
          rw [if_neg hne] at hret
          exact absurd hret (by decide)
        rw [written_storing, if_pos hcount.le, hcount]

section Log

variable {f : StoredFile} {logA logB : UpdateLog} {sts : Errno}

/-- What is written does not depend on the silent parts of the log. -/
lemma Writes.wrap {t : UpdateState} (h : Writes f data s t log sts)
    (hbefore : ∀ e ∈ logA, Silent e) (hafter : ∀ e ∈ logB, Silent e)
    (hfile : ∀ f', s'.file f' = t.file f') : Writes f data s s' (logA ++ log ++ logB) sts := by
  have hopened (f' : StoredFile) : opened f' (logA ++ log ++ logB) = opened f' log := by
    simp [opened_of_silent hbefore, opened_of_silent hafter]
  have hwritten (f' : StoredFile) : written f' (logA ++ log ++ logB) = written f' log := by
    simp [written_of_silent hbefore, written_of_silent hafter]
  refine ⟨?_, fun f' hf' => ?_, ?_, ?_⟩
  · rw [hfile, hopened, hwritten, h.file]
  · rw [hfile, hopened, hwritten]
    exact h.others f' hf'
  · rw [h.success, List.any_append, List.any_append, fileFails_of_silent hbefore,
      fileFails_of_silent hafter, Bool.false_or, Bool.or_false]
  · rw [hopened, hwritten]
    exact h.whole

end Log

lemma storeSrm_spec {sts : Errno} (hsize : data.length + 2 ^ 16 ≤ 2 ^ 32)
    (h : (storeSrm fuel data).Runs log sts) (hleads : Leads updateStep log s s') :
    Refuses s s' log sts ∨ ∃ t t', Takes data t t' s s' log sts := by
  obtain ⟨g, lg, log₁, hg, hbody, rfl⟩ := runs_bind.1 h
  obtain rfl := runs_op.1 hg
  obtain ⟨r, lm, lr, hlifted, hrest, rfl⟩ := runs_bind.1 hbody
  obtain ⟨l, rfl, hstore⟩ := runs_onMessage hlifted
  obtain ⟨s₀, hget, hlater⟩ := hleads
  have hanswer : (if g = s.table then some s else none) = some s₀ := hget
  rw [Option.ite_none_right_eq_some, Option.some.injEq] at hanswer
  obtain ⟨htable, rfl⟩ := hanswer
  rcases r with _ | ⟨ret, g'⟩
  · exact absurd hrest not_runs_endless
  obtain ⟨u, ls, le, hset, hret, rfl⟩ := runs_bind.1 hrest
  obtain rfl := runs_op.1 hset
  obtain ⟨rfl, rfl⟩ := runs_ret.1 hret
  have hlater : Leads updateStep (l.map (onMessage data) ++ [⟨.setTable g', u⟩]) s s' := hlater
  -- the state between what the SRM module does and the assignment of the table
  obtain ⟨s₁, hmessage, hlast⟩ := Prog.leads_append.1 hlater
  obtain rfl : s' = { s₁ with table := g' } := leads_file hlast rfl
  rcases runs_storeSrm hstore with ⟨rfl, rfl, rfl, rfl⟩ |
    ⟨t, t', sts', l₁, l₂, rfl, rfl, rfl, hretrieve, hend⟩
  · obtain rfl : s₁ = s := hmessage
    refine .inl ⟨by decide, ?_, ?_⟩
    · show Copies.mk none _ _ = s₁.toCopies
      rw [htable]
    · simpa using ⟨silent_getTable, silent_setTable⟩
  -- the parser comes first, and then the storage file
  rw [List.map_append] at hmessage
  obtain ⟨s₂, hparse, hfile⟩ := Prog.leads_append.1 hmessage
  have hparsing : ∀ e ∈ l₁, parsing e.op = true :=
    fun e he => (uses_retrieve t fuel data.length).of_runs hretrieve he
  obtain ⟨rfl, hfaithful⟩ := leads_parsing hparsing hparse
  have hsilent : ∀ e ∈ l₁.map (onMessage data), Silent e := by
    simp only [List.forall_mem_map]
    exact fun e he => silent_of_parsing (hparsing e he)
  have hbefore : ∀ e ∈ [⟨.getTable, some t⟩] ++ l₁.map (onMessage data), Silent e := by
    simpa using ⟨silent_getTable, by simpa using hsilent⟩
  have hafter : ∀ e ∈ ([⟨.setTable (some t'), u⟩] ++ [] : UpdateLog), Silent e := by
    simpa using silent_setTable
  have hlog : [⟨.getTable, some t⟩] ++
      (List.map (onMessage data) (l₁ ++ l₂) ++ ([⟨.setTable (some t'), u⟩] ++ [])) =
        [⟨.getTable, some t⟩] ++ l₁.map (onMessage data) ++ l₂.map (onMessage data) ++
          ([⟨.setTable (some t'), u⟩] ++ []) := by simp
  rw [hlog]
  rcases parses_of_runs hsize hretrieve hfaithful with ⟨hfails, rfl⟩ | ⟨rfl, hparses⟩
  · rcases hend with ⟨-, rfl, rfl⟩ | ⟨rfl, -⟩
    · obtain rfl : s₁ = s₂ := hfile
      refine .inl ⟨hfails, ?_, ?_⟩
      · show Copies.mk (some t') _ _ = s₁.toCopies
        rw [htable]
      · simp only [List.map_nil, List.append_nil, List.forall_mem_append] at hbefore hafter ⊢
        exact ⟨hbefore, hafter⟩
    · exact absurd rfl hfails
  · rcases hend with ⟨hfails, -⟩ | ⟨-, hstores⟩
    · exact absurd rfl hfails
    · obtain ⟨-, hwrites, hstored⟩ := writes_of_stores hstores hfile
      refine .inr ⟨t, t', htable.symm, rfl, ⟨l₁, fun e he => ?_, hparses⟩, ?_, ?_⟩
      · simp [List.mem_map_of_mem he]
      · refine hwrites.wrap hbefore hafter fun f' => ?_
        cases f' <;> rfl
      · intro hret hdisable
        obtain ⟨ω, hreturns⟩ := hparses
        obtain ⟨-, ss, -, rfl, -⟩ := hreturns.success
        rw [opened_append, opened_append, hstored hret hdisable, Bool.or_true, Bool.true_or]

/-! ### The port manager -/

/-- What the loop of `PortManager::SendSRMData` has done when `total` bytes are written: the
display file holds them at its start. -/
structure Written (data : List UInt8) (file : List UInt8) (total : ℕ) (s : UpdateState) :
    Prop where
  display : s.display = some (overwrite file 0 (data.take total))
  position : s.position = total
  le : total ≤ data.length

/-- One write of the loop. -/
inductive WriteStep (data : List UInt8) (total : ℕ) : Event updateSig → ℕ ⊕ ℕ → Prop where
  | interrupted (e : Errno) (h : interrupted e = true) (hne : total ≠ data.length) :
      WriteStep data total ⟨.writeDisplay (data.drop total), .error e⟩ (.inl total)
  | failed (e : Errno) (h : interrupted e = false ∨ total = data.length) :
      WriteStep data total ⟨.writeDisplay (data.drop total), .error e⟩ (.inr total)
  | wrote (count : ℕ) (hne : total + count ≠ data.length) :
      WriteStep data total ⟨.writeDisplay (data.drop total), .ok count⟩ (.inl (total + count))
  | done (count : ℕ) (heq : total + count = data.length) :
      WriteStep data total ⟨.writeDisplay (data.drop total), .ok count⟩ (.inr (total + count))

lemma runs_writeRound {total : ℕ} {r : ℕ ⊕ ℕ} (h : (writeRound data total).Runs log r) :
    ∃ e, log = [e] ∧ WriteStep data total e r := by
  obtain ⟨x, l₁, l₂, hwrite, hrest, rfl⟩ := runs_bind.1 h
  obtain rfl := runs_op.1 hwrite
  cases x with
  | error e =>
      rcases runs_ite.1 hrest with ⟨⟨hinterrupted, hne⟩, hret⟩ | ⟨hnot, hret⟩
      · obtain ⟨rfl, rfl⟩ := runs_ret.1 hret
        exact ⟨_, rfl, .interrupted e hinterrupted hne⟩
      · obtain ⟨rfl, rfl⟩ := runs_ret.1 hret
        refine ⟨_, rfl, .failed e ?_⟩
        by_cases heq : total = data.length
        · exact .inr heq
        · exact .inl (by simpa [heq] using hnot)
  | ok count =>
      rcases runs_ite.1 hrest with ⟨hne, hret⟩ | ⟨heq, hret⟩
      · obtain ⟨rfl, rfl⟩ := runs_ret.1 hret
        exact ⟨_, rfl, .wrote count hne⟩
      · obtain ⟨rfl, rfl⟩ := runs_ret.1 hret
        exact ⟨_, rfl, .done count (not_not.1 heq)⟩

/-- What the rest of the loop does from `total` bytes on. -/
structure Finishes (data file : List UInt8) (total total' : ℕ) (s s' : UpdateState)
    (log : UpdateLog) : Prop where
  table : s'.table = s.table
  storage : s'.storage = s.storage
  written : Written data file total' s'
  count : total' = total + SrmUpdate.written .display log
  notStorage : SrmUpdate.written .storage log = 0
  unopened : ∀ f, opened f log = false
  whole : total' = data.length ↔ log.any fileFails = false

lemma Written.step {file : List UInt8} {total count : ℕ} (h : Written data file total s)
    (hstep : updateStep (.writeDisplay (data.drop total)) (.ok count) s = some s₁) :
    s₁.table = s.table ∧ s₁.storage = s.storage ∧ Written data file (total + count) s₁ := by
  have hwrite : (if 0 < count ∧ count ≤ (data.drop total).length then
      some { s with
        display := writeFile s.display s.position (data.drop total) count
        position := s.position + count }
    else none) = some s₁ := hstep
  rw [Option.ite_none_right_eq_some, Option.some.injEq] at hwrite
  obtain ⟨⟨-, hcount⟩, rfl⟩ := hwrite
  rw [List.length_drop] at hcount
  have hle := h.le
  refine ⟨rfl, rfl, ?_, ?_, by omega⟩
  · show writeFile s.display s.position _ _ = _
    have htotal : (data.take total).length = total := List.length_take_of_le hle
    rw [h.display, h.position, writeFile, Option.map_some, List.take_add, ← overwrite_overwrite,
      htotal]
  · show s.position + count = _
    rw [h.position]

/-- A write after which the loop goes on. -/
lemma Finishes.cons {file bytes : List UInt8} {total total₁ total' : ℕ} {r : Except Errno ℕ}
    (h : Finishes data file total₁ total' s₁ s' log) (htable : s₁.table = s.table)
    (hstorage : s₁.storage = s.storage)
    (hcount : total₁ = total + wrote .display ⟨.writeDisplay bytes, r⟩)
    (hzero : wrote .storage ⟨.writeDisplay bytes, r⟩ = 0)
    (hgood : fileFails ⟨.writeDisplay bytes, r⟩ = false) :
    Finishes data file total total' s s' (⟨.writeDisplay bytes, r⟩ :: log) where
  table := h.table.trans htable
  storage := h.storage.trans hstorage
  written := h.written
  count := by rw [h.count, hcount, written_cons, Nat.add_assoc]
  notStorage := by rw [written_cons, hzero, h.notStorage]
  unopened f := (Bool.false_or _).trans (h.unopened f)
  whole := by rw [h.whole, List.any_cons, hgood, Bool.false_or]

/-- The induction is on the rounds; what is written so far is the invariant. -/
lemma finishes_loop {file : List UInt8} {total total' : ℕ} {n : ℕ}
    (h : (iter (writeRound data) n total).Runs log (some total'))
    (hleads : Leads updateStep log s s') (hwritten : Written data file total s)
    (hlt : total < data.length) : Finishes data file total total' s s' log := by
  induction n generalizing total log s with
  | zero => exact absurd (runs_ret.1 h).2 (by simp)
  | succ n ih =>
      obtain ⟨r, l₁, l₂, hround, hrest, rfl⟩ := runs_bind.1 h
      obtain ⟨e, rfl, hstep⟩ := runs_writeRound hround
      obtain ⟨s₁, hfirst, hlater⟩ := hleads
      have hlater : Leads updateStep l₂ s₁ s' := hlater
      cases hstep with
      | interrupted e hinterrupted hne =>
          obtain rfl : s = s₁ := Option.some.inj hfirst
          refine (ih hrest hlater hwritten hlt).cons rfl rfl rfl rfl ?_
          show (!interrupted e) = false
          rw [hinterrupted, Bool.not_true]
      | failed e hfailed =>
          obtain rfl : s = s₁ := Option.some.inj hfirst
          obtain ⟨rfl, htotal⟩ := runs_ret.1 hrest
          obtain rfl : total' = total := Option.some.inj htotal
          obtain rfl : s' = s := hlater
          -- some bytes are left, so that the loop has given up
          have hfailed : interrupted e = false := hfailed.resolve_right hlt.ne
          refine ⟨rfl, rfl, hwritten, rfl, rfl, fun _ => rfl, iff_of_false hlt.ne ?_⟩
          show ¬(!interrupted e || false) = false
          simp [hfailed]
      | wrote count hne =>
          obtain ⟨htable, hstorage, hnext⟩ := hwritten.step hfirst
          have hlt' : total + count < data.length := lt_of_le_of_ne hnext.le hne
          exact (ih hrest hlater hnext hlt').cons htable hstorage rfl rfl rfl
      | done count heq =>
          obtain ⟨htable, hstorage, hnext⟩ := hwritten.step hfirst
          obtain ⟨rfl, htotal⟩ := runs_ret.1 hrest
          obtain rfl : total' = total + count := Option.some.inj htotal
          obtain rfl : s' = s₁ := hlater
          refine ⟨htable, hstorage, hnext, ?_, rfl, fun _ => rfl, ?_⟩
          · exact (Nat.add_zero _).symm
          · exact iff_of_true heq rfl

/-- The port manager changes the display file only. -/
structure Delivers (data : List UInt8) (s s' : UpdateState) (log : UpdateLog) (sts : Errno) :
    Prop where
  table : s'.table = s.table
  writes : Writes .display data s s' log sts
  stored : sts = .success → opened .display log = true

lemma Delivers.refuse {sts : Errno} (hsts : sts ≠ .success)
    (hopened : ∀ f, opened f log = false) (hwritten : ∀ f, written f log = 0)
    (hfails : log.any fileFails = true) : Delivers data s s log sts where
  table := rfl
  writes :=
    { file := by rw [hopened, hwritten]; rfl
      others := fun f _ => ⟨rfl, hopened f, hwritten f⟩
      success := iff_of_false hsts (by simp [hfails])
      whole := fun h => absurd h hsts }
  stored h := absurd h hsts

lemma portManagerSendSrmData_spec {sts : Errno} (hdata : 0 < data.length)
    (h : (portManagerSendSrmData rounds data).Runs log sts) (hleads : Leads updateStep log s s') :
    Delivers data s s' log sts := by
  obtain ⟨has, l₁, l₂, hhas, hsend, rfl⟩ := runs_bind.1 h
  obtain rfl := runs_op.1 hhas
  have hafter : Leads updateStep l₂ s s' := leads_file hleads rfl
  rcases runs_ite.1 hsend with ⟨hmissing, hret⟩ | ⟨hpresent, hfile⟩
  · obtain ⟨rfl, rfl⟩ := runs_ret.1 hret
    obtain rfl : s' = s := hafter
    obtain rfl : has = false := by simpa using hmissing
    exact .refuse (by decide) (fun _ => rfl) (fun _ => rfl) rfl
  obtain rfl : has = true := by simpa using hpresent
  obtain ⟨isOpened, l₃, l₄, hopen, hloop, rfl⟩ := runs_bind.1 hfile
  obtain rfl := runs_op.1 hopen
  have hsecond : Leads updateStep l₄ (s.openDisplay isOpened) s' := leads_file hafter rfl
  rcases runs_ite.1 hloop with ⟨hfails, hret⟩ | ⟨hsucceeds, hwrites⟩
  · obtain ⟨rfl, rfl⟩ := runs_ret.1 hret
    obtain rfl : isOpened = false := by simpa using hfails
    obtain rfl : s' = s := hsecond
    exact .refuse (by decide) (fun f => by cases f <;> rfl) (fun _ => rfl) rfl
  obtain rfl : isOpened = true := by simpa using hsucceeds
  obtain ⟨r, lw, lc, hiter, hclose, rfl⟩ := runs_bind.1 hwrites
  obtain ⟨s₂, hwriting, hclosing⟩ := Prog.leads_append.1 hsecond
  rcases r with _ | total
  · exact absurd hclose not_runs_endless
  obtain ⟨u, lu, lr, hu, hret, rfl⟩ := runs_bind.1 hclose
  obtain rfl := runs_op.1 hu
  obtain ⟨rfl, hsts⟩ : lr = [] ∧ (sts = .success ↔ total = data.length) := by
    rcases runs_ite.1 hret with ⟨hne, hend⟩ | ⟨heq, hend⟩
    · obtain ⟨rfl, rfl⟩ := runs_ret.1 hend
      exact ⟨rfl, iff_of_false (by decide) hne⟩
    · obtain ⟨rfl, rfl⟩ := runs_ret.1 hend
      exact ⟨rfl, iff_of_true rfl (not_not.1 heq)⟩
  obtain rfl : s' = s₂ := leads_file hclosing rfl
  -- the loop starts on the file as it is, since `open` does not truncate it
  have hstart : Written data (s.display.getD []) 0 (s.openDisplay true) :=
    ⟨by rw [List.take_zero, overwrite_nil]; rfl, rfl, Nat.zero_le _⟩
  have hloop := finishes_loop hiter hwriting hstart hdata
  have htotal : total = written .display lw := by rw [hloop.count, Nat.zero_add]
  have hwritten (f : StoredFile) : written f ([⟨.hasPortManager, true⟩] ++
      ([⟨.openDisplay, true⟩] ++ (lw ++ ([⟨.closeDisplay, u⟩] ++ [])))) = written f lw := by
    rw [written_append, written_append, written_append]
    show 0 + (0 + (_ + 0)) = _
    rw [Nat.zero_add, Nat.zero_add, Nat.add_zero]
  have hfails : ([⟨.hasPortManager, true⟩] ++ ([⟨.openDisplay, true⟩] ++
      (lw ++ ([⟨.closeDisplay, u⟩] ++ []))) : UpdateLog).any fileFails = lw.any fileFails := by
    rw [List.any_append, List.any_append, List.any_append]
    show (false || (false || (_ || false))) = _
    rw [Bool.false_or, Bool.false_or, Bool.or_false]
  refine ⟨hloop.table, ⟨?_, fun f hf => ?_, ?_, fun hret _ => ?_⟩, fun _ => rfl⟩
  · rw [hwritten, ← htotal]
    exact hloop.written.display
  · rw [hwritten]
    cases f with
    | display => exact absurd rfl hf
    | storage =>
        refine ⟨hloop.storage, ?_, hloop.notStorage⟩
        rw [opened_append, opened_append, opened_append, hloop.unopened]
        rfl
  · rw [hfails, hsts, hloop.whole]
  · rw [hwritten, ← htotal, hsts.1 hret]

/-! ### The request -/

/-- An interaction that the daemon has with the system itself. -/
def own : DaemonOp → Bool
  | .storeSrm _ | .portManagerSendSrmData _ => false
  | _ => true

def onDaemon (e : Event daemonSig) : Event updateSig := ⟨.daemon e.op, e.ans⟩

/-- A `read` gives at most what it is asked for. -/
def bounded : Event daemonSig → Bool
  | ⟨.read _ size, r⟩ => readAnswer size r
  | _ => true

lemma silent_onDaemon {e : Event daemonSig} : Silent (onDaemon e) :=
  ⟨fun _ => rfl, fun _ => rfl, rfl⟩

lemma silent_map_onDaemon (l : List (Event daemonSig)) : ∀ e ∈ l.map onDaemon, Silent e := by
  simp only [List.forall_mem_map]
  exact fun _ _ => silent_onDaemon

lemma received_map_onDaemon (l : List (Event daemonSig)) :
    received (l.map onDaemon) = l.flatMap gave := by
  rw [received, List.flatMap_map]
  rfl

lemma implements_own {l : List (Event daemonSig)} (hl : ∀ e ∈ l, own e.op = true)
    (h : Implements (implement fuel rounds) l log) : log = l.map onDaemon := by
  induction h with
  | nil => rfl
  | @cons e l le log' he hrest ih =>
      obtain ⟨hown, hl⟩ := List.forall_mem_cons.1 hl
      have hop : le = [onDaemon e] := by
        obtain ⟨o, r⟩ := e
        cases o
        case storeSrm | portManagerSendSrmData => exact absurd hown Bool.false_ne_true
        all_goals exact runs_op.1 he
      rw [ih hl, hop]
      rfl

lemma leads_onDaemon {l : List (Event daemonSig)}
    (h : Leads updateStep (l.map onDaemon) s s') : s' = s ∧ ∀ e ∈ l, bounded e = true := by
  induction l generalizing s with
  | nil => exact ⟨h, by simp⟩
  | cons e l ih =>
      obtain ⟨s₁, hstep, hrest⟩ := h
      obtain ⟨hsame, hl⟩ := ih hrest
      have he : s₁ = s ∧ bounded e = true := by
        obtain ⟨o, r⟩ := e
        cases o
        case read fd size =>
          have hreceive : s.receive size r = some s₁ := hstep
          cases r with
          | error e => exact ⟨(Option.some.inj hreceive).symm, rfl⟩
          | ok bytes =>
              obtain ⟨hle, hs⟩ := Option.ite_none_right_eq_some.1 hreceive
              exact ⟨(Option.some.inj hs).symm, decide_eq_true hle⟩
        all_goals exact ⟨(Option.some.inj hstep).symm, rfl⟩
      exact ⟨hsame.trans he.1, List.forall_mem_cons.2 ⟨he.2, hl⟩⟩

lemma runs_readLoop {fd n k : ℕ} {bytes prev : List UInt8} {l : List (Event daemonSig)}
    (h : (readLoop (Daemon.read fd) n k prev).Runs l (.ok bytes))
    (hl : ∀ e ∈ l, bounded e = true) :
    bytes = prev ++ l.flatMap gave ∧ bytes.length ≤ prev.length + k := by
  induction n generalizing k prev l with
  | zero =>
      obtain ⟨rfl, hret⟩ := runs_ret.1 h
      obtain rfl := Except.ok.inj hret
      simp
  | succ n ih =>
      rcases runs_ite.1 h with ⟨-, hret⟩ | ⟨-, hread⟩
      · obtain ⟨rfl, hbytes⟩ := runs_ret.1 hret
        obtain rfl := Except.ok.inj hbytes
        simp
      obtain ⟨r, l₁, l₂, hop, hrest, rfl⟩ := runs_bind.1 hread
      obtain rfl := runs_op.1 hop
      obtain ⟨he, hlater⟩ := List.forall_mem_cons.1 hl
      cases r with
      | error e => exact absurd (runs_ret.1 hrest).2 (by simp)
      | ok got =>
          have hgot : got.length ≤ k := of_decide_eq_true he
          rcases runs_ite.1 hrest with ⟨-, hret⟩ | ⟨-, hloop⟩
          · exact absurd (runs_ret.1 hret).2 (by simp)
          obtain ⟨hbytes, hle⟩ := ih hloop hlater
          refine ⟨?_, ?_⟩
          · rw [hbytes, List.append_assoc]
            rfl
          · rw [List.length_append] at hle
            omega

/-- The response to the size, and what comes before. -/
def answersSize : DaemonOp → Bool
  | .send _ _ | .new _ => true
  | _ => false

/-- What follows when `StoreSrm` has answered `sts`. -/
inductive Continues (srm : List UInt8) (sts : Errno) :
    List (Event daemonSig) → SocketData → Prop where
  | refused {rsp : SocketData} (hsts : sts ≠ .success)
      (hrsp : rsp.status ≠ HdcpStatus.successful) : Continues srm sts [] rsp
  | delivered {rsp : SocketData} (sts' : Errno) (hsts : sts = .success)
      (hrsp : rsp.status = HdcpStatus.successful ↔ sts' = .success) :
      Continues srm sts [⟨.portManagerSendSrmData srm, sts'⟩] rsp

/-- How a request goes: it stops, or it has received the SRM. -/
inductive Goes : List (Event daemonSig) → SocketData → Prop where
  | stopped {l : List (Event daemonSig)} {rsp : SocketData} (hl : ∀ e ∈ l, own e.op = true)
      (hrsp : rsp.status ≠ HdcpStatus.successful) : Goes l rsp
  | received {l l' : List (Event daemonSig)} {srm : List UInt8} {sts : Errno} {rsp : SocketData}
      (hl : ∀ e ∈ l, own e.op = true)
      (hsrm : (∀ e ∈ l, bounded e = true) →
        srm = l.flatMap gave ∧ srm.length ≤ Srm.srmFirstGenMaxSize)
      (hl' : Continues srm sts l' rsp) : Goes (l ++ (⟨.storeSrm srm, sts⟩ :: l')) rsp

variable {m : HdcpDaemon} {req rsp : SocketData} {appId : ℕ}

lemma answersSize_sendResponse :
    (m.sendResponse rsp appId).Uses fun o : DaemonOp => answersSize o = true :=
  uses_writeLoop (fun _ => Prog.uses_op.2 (by rfl)) _ _

lemma own_of_answersSize {o : DaemonOp} (h : answersSize o = true) : own o = true := by
  cases o
  case storeSrm | portManagerSendSrmData => exact absurd h Bool.false_ne_true
  all_goals rfl

lemma gave_of_answersSize {e : Event daemonSig} (h : answersSize e.op = true) : gave e = [] := by
  obtain ⟨o, r⟩ := e
  cases o
  case read => exact absurd h Bool.false_ne_true
  all_goals rfl

lemma own_getSrmData {n : ℕ} :
    (HdcpDaemon.getSrmData n appId).Uses fun o : DaemonOp => own o = true :=
  Prog.Uses.ite (fun _ => trivial) fun _ =>
    uses_readLoop (fun _ => Prog.uses_op.2 (by rfl)) _ _ _

/-- The read of the SRM gives exactly as many bytes as fit. -/
lemma runs_getSrmData {n : ℕ} {srm : List UInt8} {l : List (Event daemonSig)}
    (h : (HdcpDaemon.getSrmData n appId).Runs l (.ok srm)) (hl : ∀ e ∈ l, bounded e = true) :
    srm = l.flatMap gave ∧ srm.length ≤ n := by
  rcases runs_ite.1 h with ⟨-, hret⟩ | ⟨-, hread⟩
  · exact absurd (runs_ret.1 hret).2 (by simp)
  · simpa using runs_readLoop hread hl

lemma storeFailureStatus_ne (sts : Errno) :
    HdcpDaemon.storeFailureStatus sts ≠ HdcpStatus.successful := by
  rw [HdcpDaemon.storeFailureStatus]
  split
  · decide
  · split <;> decide

lemma goes_of_runs {l : List (Event daemonSig)} (h : (m.sendSrmData req appId).Runs l rsp) :
    Goes l rsp := by
  have hinternal : HdcpStatus.errorInternal ≠ HdcpStatus.successful := by decide
  have hmemory : HdcpStatus.errorInsufficientMemory ≠ HdcpStatus.successful := by decide
  have hinvalid : HdcpStatus.errorInvalidParameter ≠ HdcpStatus.successful := by decide
  rcases runs_ite.1 h with ⟨-, hret⟩ | ⟨hsize, hnew⟩
  · obtain ⟨rfl, rfl⟩ := runs_ret.1 hret
    exact .stopped (by simp) hinvalid
  obtain ⟨r, ln, l₁, hop, hallocated, rfl⟩ := runs_bind.1 hnew
  obtain rfl := runs_op.1 hop
  rcases runs_ite.1 hallocated with ⟨-, hret⟩ | ⟨-, hsend⟩
  · obtain ⟨rfl, rfl⟩ := runs_ret.1 hret
    exact .stopped (by simp [own]) hmemory
  obtain ⟨sts, ls, l₂, hresponse, hsent, rfl⟩ := runs_bind.1 hsend
  have hls : ∀ e ∈ ⟨.new req.srmOrKsvListDataSz.toNat, r⟩ :: ls, answersSize e.op = true :=
    List.forall_mem_cons.2 ⟨rfl, fun e he => answersSize_sendResponse.of_runs hresponse he⟩
  rcases runs_ite.1 hsent with ⟨-, hret⟩ | ⟨-, hget⟩
  · obtain ⟨rfl, rfl⟩ := runs_ret.1 hret
    refine .stopped (fun e he => ?_) hinternal
    exact own_of_answersSize (hls e (by simpa using he))
  obtain ⟨got, lg, l₃, hread, hgot, rfl⟩ := runs_bind.1 hget
  have hlg : ∀ e ∈ lg, own e.op = true := fun e he => own_getSrmData.of_runs hread he
  have hbefore : ∀ e ∈ (⟨.new req.srmOrKsvListDataSz.toNat, r⟩ :: ls) ++ lg, own e.op = true :=
    List.forall_mem_append.2 ⟨fun e he => own_of_answersSize (hls e he), hlg⟩
  cases got with
  | error e =>
      obtain ⟨rfl, rfl⟩ := runs_ret.1 hgot
      refine .stopped (fun e he => hbefore e ?_) hinternal
      simpa using he
  | ok srm =>
      obtain ⟨sts', lo, l₄, hstore, hstored, rfl⟩ := runs_bind.1 hgot
      obtain rfl := runs_op.1 hstore
      have hsrm : (∀ e ∈ (⟨.new req.srmOrKsvListDataSz.toNat, r⟩ :: ls) ++ lg, bounded e = true) →
          srm = ((⟨.new req.srmOrKsvListDataSz.toNat, r⟩ :: ls) ++ lg).flatMap gave ∧
            srm.length ≤ Srm.srmFirstGenMaxSize := by
        intro hbounded
        obtain ⟨hbytes, hle⟩ := runs_getSrmData hread (List.forall_mem_append.1 hbounded).2
        -- what comes before the SRM reads nothing
        have hnone : (⟨.new req.srmOrKsvListDataSz.toNat, r⟩ :: ls).flatMap gave = [] :=
          List.flatMap_eq_nil_iff.2 fun e he => gave_of_answersSize (hls e he)
        refine ⟨by rw [List.flatMap_append, hnone, hbytes, List.nil_append], hle.trans ?_⟩
        exact not_lt.1 hsize
      have hgoes : Goes (((⟨.new req.srmOrKsvListDataSz.toNat, r⟩ :: ls) ++ lg) ++
          (⟨.storeSrm srm, sts'⟩ :: l₄)) rsp := by
        refine .received hbefore hsrm ?_
        rcases runs_ite.1 hstored with ⟨hsts, hret⟩ | ⟨hsts, hdeliver⟩
        · obtain ⟨rfl, rfl⟩ := runs_ret.1 hret
          exact .refused hsts (storeFailureStatus_ne sts')
        obtain ⟨sts'', lp, l₅, hport, hend, rfl⟩ := runs_bind.1 hdeliver
        obtain rfl := runs_op.1 hport
        rcases runs_ite.1 hend with ⟨hne, hret⟩ | ⟨heq, hret⟩
        · obtain ⟨rfl, rfl⟩ := runs_ret.1 hret
          exact .delivered sts'' (not_not.1 hsts) (iff_of_false hinternal hne)
        · obtain ⟨rfl, rfl⟩ := runs_ret.1 hret
          exact .delivered sts'' (not_not.1 hsts) (iff_of_true rfl (not_not.1 heq))
      simpa using hgoes

/-- An interaction of the daemon with the system. -/
def ofDaemon : UpdateOp → Bool
  | .daemon _ => true
  | _ => false

lemma received_eq_nil (h : ∀ e ∈ log, ofDaemon e.op = false) : received log = [] := by
  refine List.flatMap_eq_nil_iff.2 fun e he => ?_
  obtain ⟨o, r⟩ := e
  cases o
  case daemon => exact absurd (h _ he) Bool.noConfusion
  all_goals rfl

lemma uses_endless {α : Type} {A : UpdateOp → Prop} (h : A .endless) :
    (endless : UpdateProg α).Uses A := ⟨h, fun r => r.elim⟩

lemma received_storeSrm {sts : Errno} (h : (storeSrm fuel data).Runs log sts) :
    received log = [] := by
  have huses : (storeSrm fuel data).Uses fun o : UpdateOp => ofDaemon o = false := by
    refine Prog.Uses.bind (Prog.uses_op.2 rfl) fun g => ?_
    have hparser : ((Srm.storeSrm g fuel data.length).subst fun o =>
        op (S := updateSig) (.srm data o)).Uses fun o : UpdateOp => ofDaemon o = false :=
      Prog.Uses.subst _ fun _ => Prog.uses_op.2 rfl
    refine hparser.bind ?_
    rintro (_ | ⟨ret, g'⟩)
    · exact uses_endless rfl
    · exact Prog.Uses.bind (Prog.uses_op.2 rfl) fun _ => trivial
  exact received_eq_nil fun e he => huses.of_runs h he

lemma received_portManagerSendSrmData {sts : Errno}
    (h : (portManagerSendSrmData rounds data).Runs log sts) : received log = [] := by
  have hround (total : ℕ) :
      (writeRound data total).Uses fun o : UpdateOp => ofDaemon o = false := by
    refine Prog.Uses.bind (Prog.uses_op.2 rfl) ?_
    rintro (e | count)
    · exact Prog.Uses.ite (fun _ => trivial) fun _ => trivial
    · exact Prog.Uses.ite (fun _ => trivial) fun _ => trivial
  have huses :
      (portManagerSendSrmData rounds data).Uses fun o : UpdateOp => ofDaemon o = false := by
    refine Prog.Uses.bind (Prog.uses_op.2 rfl) fun _ => Prog.Uses.ite (fun _ => trivial) fun _ => ?_
    refine Prog.Uses.bind (Prog.uses_op.2 rfl) fun _ => Prog.Uses.ite (fun _ => trivial) fun _ => ?_
    refine (Prog.uses_iter hround _ _).bind ?_
    rintro (_ | total)
    · exact uses_endless rfl
    · exact Prog.Uses.bind (Prog.uses_op.2 rfl) fun _ =>
        Prog.Uses.ite (fun _ => trivial) fun _ => trivial
  exact received_eq_nil fun e he => huses.of_runs h he

/-- The request has brought the SRM into the table, and into the files as far as it wrote it. -/
structure Updates (srm : List UInt8) (t t' : SrmTable) (s s' : UpdateState) (log : UpdateLog)
    (rsp : SocketData) : Prop where
  before : s.table = some t
  after : s'.table = some t'
  parses : ∃ l, (∀ e ∈ l, onMessage srm e ∈ log) ∧ Parses srm t t' l
  file : ∀ f, s'.file f = fileAfter (s.file f) srm (opened f log) (written f log)
  success : rsp.status = HdcpStatus.successful ↔ log.any fileFails = false
  whole : rsp.status = HdcpStatus.successful →
    ∀ f, opened f log = true → written f log = srm.length
  stored : rsp.status = HdcpStatus.successful → t.isSrmStorageDisable = false →
    opened .storage log = true
  displayed : rsp.status = HdcpStatus.successful → opened .display log = true

/-- The request has stopped before it changed anything. -/
structure Stops (s s' : UpdateState) (log : UpdateLog) (rsp : SocketData) : Prop where
  failed : rsp.status ≠ HdcpStatus.successful
  same : s'.toCopies = s.toCopies
  silent : ∀ e ∈ log, Silent e

lemma Updates.of_tail {srm : List UInt8} {t t' : SrmTable} {l : List (Event daemonSig)}
    (h : Updates srm t t' s s' log rsp) : Updates srm t t' s s' (l.map onDaemon ++ log) rsp := by
  have hsilent := silent_map_onDaemon l
  have hopened (f : StoredFile) : opened f (l.map onDaemon ++ log) = opened f log := by
    rw [opened_append, opened_of_silent hsilent, Bool.false_or]
  have hwritten (f : StoredFile) : written f (l.map onDaemon ++ log) = written f log := by
    rw [written_append, written_of_silent hsilent, Nat.zero_add]
  obtain ⟨l', hl', hparses⟩ := h.parses
  refine ⟨h.before, h.after, ⟨l', fun e he => List.mem_append_right _ (hl' e he), hparses⟩,
    ?_, ?_, ?_, ?_, ?_⟩
  · simpa only [hopened, hwritten] using h.file
  · rw [List.any_append, fileFails_of_silent hsilent, Bool.false_or]
    exact h.success
  · simpa only [hopened, hwritten] using h.whole
  · simpa only [hopened] using h.stored
  · simpa only [hopened] using h.displayed

/-- A request for which `StoreSrm` has not succeeded on an SRM that it took. -/
lemma Takes.updates {srm : List UInt8} {t t' : SrmTable} {sts : Errno}
    (h : Takes srm t t' s s' log sts) (hsts : sts ≠ .success)
    (hrsp : rsp.status ≠ HdcpStatus.successful) : Updates srm t t' s s' log rsp where
  before := h.before
  after := h.after
  parses := h.parses
  file f := by
    cases f with
    | storage => exact h.writes.file
    | display =>
        obtain ⟨hsame, hopened, hwritten⟩ := h.writes.others .display (by decide)
        rw [hsame, hopened, hwritten]
        rfl
  success := iff_of_false hrsp fun hfails => hsts (h.writes.success.2 hfails)
  whole h := absurd h hrsp
  stored h := absurd h hrsp
  displayed h := absurd h hrsp

/-- A request for which `StoreSrm` has succeeded, and then the port manager was called. -/
lemma Takes.deliver {srm : List UInt8} {t t' : SrmTable} {sts : Errno}
    (h : Takes srm t t' s s₁ log .success) (h' : Delivers srm s₁ s' log' sts)
    (hrsp : rsp.status = HdcpStatus.successful ↔ sts = .success) :
    Updates srm t t' s s' (log ++ log') rsp := by
  obtain ⟨hdisplay, hopened, hwritten⟩ := h.writes.others .display (by decide)
  obtain ⟨hstorage, hopened', hwritten'⟩ := h'.writes.others .storage (by decide)
  have hopenedS : opened .storage (log ++ log') = opened .storage log := by
    rw [opened_append, hopened', Bool.or_false]
  have hopenedD : opened .display (log ++ log') = opened .display log' := by
    rw [opened_append, hopened, Bool.false_or]
  have hwrittenS : written .storage (log ++ log') = written .storage log := by
    rw [written_append, hwritten', Nat.add_zero]
  have hwrittenD : written .display (log ++ log') = written .display log' := by
    rw [written_append, hwritten, Nat.zero_add]
  obtain ⟨l, hl, hparses⟩ := h.parses
  refine ⟨h.before, h'.table.trans h.after,
    ⟨l, fun e he => List.mem_append_left _ (hl e he), hparses⟩, fun f => ?_, ?_,
    fun hsuccess f hf => ?_, fun _ hdisable => ?_, fun hsuccess => ?_⟩
  · cases f with
    | storage => rw [hopenedS, hwrittenS, hstorage, h.writes.file]
    | display => rw [hopenedD, hwrittenD, h'.writes.file, hdisplay]
  · rw [hrsp, h'.writes.success, List.any_append, h.writes.success.1 rfl, Bool.false_or]
  · cases f with
    | storage =>
        rw [hopenedS] at hf
        rw [hwrittenS, h.writes.whole rfl hf]
    | display =>
        rw [hopenedD] at hf
        rw [hwrittenD, h'.writes.whole (hrsp.1 hsuccess) hf]
  · rw [hopenedS, h.stored rfl hdisable]
  · rw [hopenedD, h'.stored (hrsp.1 hsuccess)]

/-- A message that the parser has taken is not empty. -/
lemma Parses.length_pos {t t' : SrmTable} {l : List (Event srmSig)} (h : Parses data t t' l) :
    0 < data.length := by
  obtain ⟨ω, hreturns⟩ := h
  have hfits := hreturns.success.1.fits
  omega

/-- What a request does to the copies. -/
theorem request_spec (h : (request m fuel rounds req appId).Runs log rsp)
    (hleads : Leads updateStep log s s') :
    Stops s s' log rsp ∨ ∃ t t', Updates (received log) t t' s s' log rsp := by
  obtain ⟨l, himpl, hruns⟩ := Prog.exists_runs_of_subst h
  cases goes_of_runs hruns with
  | stopped hl hrsp =>
      obtain rfl := implements_own hl himpl
      obtain ⟨rfl, -⟩ := leads_onDaemon hleads
      exact .inl ⟨hrsp, rfl, silent_map_onDaemon l⟩
  | @received la l' srm sts _ hl hsrm hcontinues =>
      obtain ⟨lo, lt, rfl, hfirst, hrest⟩ := himpl.append
      obtain rfl := implements_own hl hfirst
      have hrest : Implements (implement fuel rounds)
          ([(⟨.storeSrm srm, sts⟩ : Event daemonSig)] ++ l') lt := hrest
      obtain ⟨ls, lp, rfl, hstore, hlast⟩ := hrest.append
      have hstore : (storeSrm fuel srm).Runs ls sts := hstore.singleton
      -- the messages with the client leave the copies alone
      obtain ⟨s₁, hread, hlater⟩ := Prog.leads_append.1 hleads
      obtain ⟨rfl, hbounded⟩ := leads_onDaemon hread
      obtain ⟨hbytes, hsize⟩ := hsrm hbounded
      rw [Srm.srmFirstGenMaxSize] at hsize
      obtain ⟨s₂, hstoring, hdelivering⟩ := Prog.leads_append.1 hlater
      have hspec := storeSrm_spec (by omega) hstore hstoring
      have hreceived : received (la.map onDaemon ++ (ls ++ lp)) = srm ++ received lp := by
        rw [received, List.flatMap_append, List.flatMap_append]
        show received _ ++ (received ls ++ received lp) = _
        rw [received_map_onDaemon, received_storeSrm hstore, ← hbytes, List.nil_append]
      rw [hreceived]
      cases hcontinues with
      | refused hsts hrsp =>
          obtain ⟨⟩ := hlast
          obtain rfl : s' = s₂ := hdelivering
          rw [List.append_nil, show received [] = [] from rfl, List.append_nil]
          rcases hspec with hrefuses | ⟨t, t', htakes⟩
          · exact .inl ⟨hrsp, hrefuses.same,
              List.forall_mem_append.2 ⟨silent_map_onDaemon la, hrefuses.silent⟩⟩
          · exact .inr ⟨t, t', (htakes.updates hsts hrsp).of_tail⟩
      | delivered sts' hsts hrsp =>
          subst hsts
          have hport : (portManagerSendSrmData rounds srm).Runs lp sts' := hlast.singleton
          rcases hspec with hrefuses | ⟨t, t', htakes⟩
          · exact absurd rfl hrefuses.failed
          obtain ⟨l, -, hparses⟩ := htakes.parses
          have hdelivers := portManagerSendSrmData_spec hparses.length_pos hport hdelivering
          rw [received_portManagerSendSrmData hport, List.append_nil]
          exact .inr ⟨t, t', (htakes.deliver hdelivers hrsp).of_tail⟩

/-! ### All or nothing -/

/-- The table holds what the message says. -/
def Describes (srm : List UInt8) (t : SrmTable) : Prop :=
  ∃ ss, Walk (memOf srm) srm.length (5 + gen1Length (memOf srm)) ss ∧
    t.install (memOf srm) ss = t

/-- The copies hold the SRM already, as far as the request writes it. -/
structure Redundant (c : Copies) (srm : List UInt8) (log : UpdateLog) : Prop where
  table : ∃ t, c.table = some t ∧ Describes srm t
  files : ∀ f, opened f log = true →
    ∃ contents, c.file f = some contents ∧ srm.take (written f log) <+: contents

/-- The sections that the parser takes are determined by the message. -/
lemma walk_unique {buf : Mem} {length i : ℕ} {ss ss' : List ℕ} (h : Walk buf length i ss)
    (h' : Walk buf length i ss') : ss = ss' := by
  induction h generalizing ss' with
  | done hend =>
      cases h' with
      | done => rfl
      | step hok _ => exact absurd hok.lt hend
  | step hok _ ih =>
      cases h' with
      | done hend => exact absurd hok.lt hend
      | step _ hrest => rw [ih hrest]

lemma Parses.describes_iff {t t' : SrmTable} {l : List (Event srmSig)} (h : Parses data t t' l) :
    t' = t ↔ Describes data t := by
  obtain ⟨ω, hreturns⟩ := h
  obtain ⟨-, ss, hwalk, rfl, -⟩ := hreturns.success
  constructor
  · exact fun hsame => ⟨ss, hwalk, hsame⟩
  · rintro ⟨ss', hwalk', hsame⟩
    rw [walk_unique hwalk hwalk', hsame]

lemma Copies.ext_iff_file {c c' : Copies} :
    c = c' ↔ c.table = c'.table ∧ ∀ f, c.file f = c'.file f := by
  constructor
  · rintro rfl
    exact ⟨rfl, fun _ => rfl⟩
  · rintro ⟨htable, hfile⟩
    obtain ⟨table, storage, display⟩ := c
    obtain ⟨table', storage', display'⟩ := c'
    obtain rfl : table = table' := htable
    obtain rfl : storage = storage' := hfile .storage
    obtain rfl : display = display' := hfile .display
    rfl

/-- An update changes nothing exactly when it is redundant. -/
lemma Updates.same_iff {srm : List UInt8} {t t' : SrmTable} (h : Updates srm t t' s s' log rsp) :
    s'.toCopies = s.toCopies ↔ Redundant s.toCopies srm log := by
  obtain ⟨l, -, hparses⟩ := h.parses
  have htable : s'.table = s.table ↔ Describes srm t := by
    rw [h.before, h.after, Option.some.injEq, hparses.describes_iff]
  rw [Copies.ext_iff_file]
  constructor
  · rintro ⟨hsame, hfiles⟩
    refine ⟨⟨t, h.before, htable.1 hsame⟩, fun f hf => ?_⟩
    have hfile := hfiles f
    rw [h.file f] at hfile
    exact fileAfter_eq_self_iff.1 hfile hf
  · rintro ⟨⟨t₁, ht₁, hdescribes⟩, hfiles⟩
    obtain rfl : t = t₁ := Option.some.inj (h.before.symm.trans ht₁)
    refine ⟨htable.2 hdescribes, fun f => ?_⟩
    rw [h.file f]
    exact fileAfter_eq_self_iff.2 (hfiles f)

/-- A request that does not succeed leaves the copies as they were, exactly when no operation on
the files has failed, or the copies held the SRM already. -/
theorem update_atomic_iff (h : (request m fuel rounds req appId).Runs log rsp)
    (hleads : Leads updateStep log s s') :
    (rsp.status ≠ HdcpStatus.successful → s'.toCopies = s.toCopies) ↔
      log.any fileFails = false ∨ Redundant s.toCopies (received log) log := by
  rcases request_spec h hleads with hstops | ⟨t, t', hupdates⟩
  · exact iff_of_true (fun _ => hstops.same) (.inl (fileFails_of_silent hstops.silent))
  · rw [← hupdates.same_iff, ← hupdates.success]
    by_cases hrsp : rsp.status = HdcpStatus.successful
    · exact iff_of_true (fun hne => absurd hrsp hne) (.inl hrsp)
    -- it has failed, so that only a redundant update leaves no trace
    · constructor
      · exact fun hsame => .inr (hsame hrsp)
      · rintro (hsuccess | hsame) _
        · exact absurd hsuccess hrsp
        · exact hsame

/-- An SRM of version 1 that revokes nothing. -/
def emptySrm : List UInt8 := [0x80, 0, 0, 1, 1, 0, 0, 0x2b] ++ List.replicate 40 0

def emptySrmRequest : SocketData :=
  { newSocketData socketDataLayout with
    command := HdcpApi.sendSrmData
    srmOrKsvListDataSz := 48 }

def someDaemon : HdcpDaemon := ⟨socketDataLayout, 3⟩

/-- The daemon receives the SRM, the parser installs it in the table, and it is stored. -/
def takesEmptySrm (t : SrmTable) : UpdateLog :=
  [⟨.daemon (.new 48), true⟩,
    ⟨.daemon (.send 5 (socketDataLayout.encode
      { emptySrmRequest with status := HdcpStatus.successful })), .ok 100⟩,
    ⟨.daemon (.read 5 48), .ok emptySrm⟩, ⟨.getTable, some t⟩] ++
  ([⟨.read 0, (0x80 : UInt8)⟩, ⟨.read 3, (1 : UInt8)⟩, ⟨.read 2, (0 : UInt8)⟩,
    ⟨.read 4, (1 : UInt8)⟩, ⟨.read 5, (0 : UInt8)⟩, ⟨.read 6, (0 : UInt8)⟩,
    ⟨.read 7, (0x2b : UInt8)⟩, ⟨.useLength 43 3, ()⟩, ⟨.useLength 40 40, ()⟩,
    ⟨.useLength 48 40, ()⟩, ⟨.verifySignature 0 8 8 28, Errno.success⟩,
    ⟨.new .revocationLists, true⟩, ⟨.new .vectorRevocationList, true⟩] ++
    storing 48 48 : List (Event srmSig)).map (onMessage emptySrm) ++
  [⟨.setTable (some ⟨1, 1, false, [⟨true, 0, none⟩]⟩), ()⟩, ⟨.hasPortManager, true⟩]

/-- The file of the display firmware cannot be opened. -/
def displayFails : UpdateLog := takesEmptySrm ⟨0, 0, false, []⟩ ++ [⟨.openDisplay, false⟩]

/-- A daemon that has no SRM yet. -/
def noSrm : UpdateState where
  table := some ⟨0, 0, false, []⟩
  storage := none
  display := none
  position := 0
  heap := fun _ => 0

lemma runs_displayFails : (request someDaemon 1 0 emptySrmRequest 5).Runs displayFails
    { emptySrmRequest with status := HdcpStatus.errorInternal } := by
  repeat refine .call _ _ _ ?_
  exact .ret _

lemma leads_displayFails : ∃ s', Leads updateStep displayFails noSrm s' ∧
    s'.table ≠ noSrm.table ∧ s'.storage = some emptySrm ∧ s'.display = none :=
  ⟨_, Prog.leads_iff_follow.2 (Option.some_get (by decide +kernel)).symm, by decide +kernel,
    by decide +kernel, by decide +kernel⟩

theorem update_atomic_iff_displayFails :
    ∃ s', Leads updateStep displayFails noSrm s' ∧
      ((HdcpStatus.errorInternal ≠ HdcpStatus.successful → s'.toCopies = noSrm.toCopies) ↔
        displayFails.any fileFails = false ∨
          Redundant noSrm.toCopies (received displayFails) displayFails) := by
  obtain ⟨s', hleads, -⟩ := leads_displayFails
  exact ⟨s', hleads, update_atomic_iff runs_displayFails hleads⟩

/-- The request fails, and the table and the storage file have the SRM all the same. -/
theorem failed_update_kept :
    ¬∀ m fuel rounds req appId log rsp s s',
      (request m fuel rounds req appId).Runs log rsp → Leads updateStep log s s' →
      rsp.status ≠ HdcpStatus.successful → s'.toCopies = s.toCopies := by
  intro hall
  obtain ⟨s', hleads, htable, -⟩ := leads_displayFails
  have hsame := hall _ _ _ _ _ _ _ _ _ runs_displayFails hleads (by decide)
  exact htable (congrArg Copies.table hsame)

end Hdcp.SrmUpdate
