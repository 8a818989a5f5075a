/-
What is stored, and what a restart reads.

After a successful request both files begin with the SRM.  They are opened without `O_TRUNC`, so
that what a longer SRM has left stays behind it, and the table that is read at the next start is
read from all of the file.

`stored_exact_iff`: in a sequence of successful requests the files are the SRM after each
request, and a restart reproduces the table, exactly when no file is longer than the SRM that
is written to it: none at the beginning, and no SRM is shorter than the one before.
-/
import Mathlib.Data.List.Chain
import Hdcp.Daemon.SrmUpdate

namespace Hdcp.SrmRestart

open Library Daemon Srm Socket SrmUpdate
open Library.Prog (exec Leads Post)

/-! ### Signatures -/

/-- Whether the key of the module signs these bytes with `r` and `s`. -/
abbrev SignatureOracle : Type := (msg r s : List UInt8) → Errno

/-- The answer of `VerifySignature` on parts of the message. -/
def SignatureOracle.answer (V : SignatureOracle) (data : List UInt8) (msg len r s : ℕ) : Errno :=
  V (slice (memOf data) msg len) (slice (memOf data) r dsaSigLength)
    (slice (memOf data) s dsaSigLength)

/-- A signature check is answered by the oracle. -/
def signed (V : SignatureOracle) : Event updateSig → Bool
  | ⟨.srm data (.verifySignature msg len r s), ret⟩ => answeredBy (V.answer data msg len r s) ret
  | _ => true

/-! ### Restart -/

/-- What the constructor of `SrmTable` finds, when it can open and map the file. -/
def startAnswer (V : SignatureOracle) (file : List UInt8) : (o : SrmOp) → o.Ans
  | .read i => memOf file i
  | .memmove src len => slice (memOf file) src len
  | .verifySignature msg len r s => V.answer file msg len r s
  | .new _ | .mutexInit | .openStorage _ | .mmap => true
  | .fstat => some ⟨true, file.length⟩
  | .writeStorage size => size
  | .useLength _ _ | .closeStorage => ()

/-- The table that is constructed from the storage file, and its `m_IsValid`. -/
def restart (V : SignatureOracle) (file : List UInt8) (fuel : ℕ) : Option (SrmTable × Bool) :=
  (exec (srmHandler (memOf file) fun _ => startAnswer V file) (newSrmTable fuel) 0).val

/-- A restart reads what is in the table. -/
def Reproduces (V : SignatureOracle) (c : Copies) : Prop :=
  ∃ file t fuel t', c.storage = some file ∧ c.table = some t ∧
    restart V file fuel = some (t', true) ∧ t'.version = t.version ∧
    t'.generation = t.generation ∧
    t'.revocationListsByGeneration = t.revocationListsByGeneration

variable {V : SignatureOracle} {srm : List UInt8}

/-- The table before the file is read. -/
def emptyTable : SrmTable := ⟨0, 0, false, []⟩

/-- The constructor keeps what the parser leaves. -/
lemma restart_of_retrieve {fuel : ℕ} {ret : Errno} {t : SrmTable} (hpos : 0 < srm.length)
    (h : ∀ n, (exec (srmHandler (memOf srm) fun _ => startAnswer V srm)
      (emptyTable.retrieveSrmFromBuffer fuel srm.length) n).val = some (ret, t)) :
    restart V srm fuel = some (t, true) := by
  have hpost : Post (srmHandler (memOf srm) fun _ => startAnswer V srm) (newSrmTable fuel) 0
      fun v _ _ => v = some (t, true) := by
    rw [newSrmTable]
    simp only [post_mutexInit, post_new, post_openStorage, post_fstat, post_mmap, startAnswer,
      Bool.not_true, Bool.false_eq_true, if_false, Bool.false_or, decide_eq_true_eq, hpos.ne']
    refine Post.bind (Q := fun v _ _ => v = some (ret, t)) (h _) ?_
    rintro _ l n rfl
    rfl
  exact hpost

/-- The signature checks in a log. -/
lemma mem_signatureCalls {l : List (Event srmSig)} {c : SignatureCall} :
    c ∈ signatureCalls l ↔ ⟨.verifySignature c.msg c.msgLen c.r c.s, c.ret⟩ ∈ l := by
  rw [signatureCalls, List.mem_filterMap]
  constructor
  · rintro ⟨⟨o, r⟩, he, hcall⟩
    cases o
    case verifySignature msg len r' s' =>
      obtain rfl := Option.some.inj hcall
      exact he
    all_goals cases hcall
  · exact fun he => ⟨_, he, rfl⟩

/-- The parser goes on a message of the file as on the message of the request. -/
lemma answers_of_signed {l l' : List (Event srmSig)} {fuel n : ℕ} {t : SrmTable}
    {ret : Errno × SrmTable} {m : ℕ}
    (hexec : exec (srmHandler (memOf srm) acceptAll) (t.retrieveSrmFromBuffer fuel srm.length) n =
      ⟨some ret, l', m⟩)
    (hcalls : signatureCalls l' = signatureCalls l)
    (hsigned : ∀ e ∈ l, signed V (onMessage srm e) = true) :
    ∀ e ∈ l', ∀ k, (srmHandler (memOf srm) (fun _ => startAnswer V srm) e.op k).1 = e.ans := by
  intro e he k
  have hruns := Prog.runs_exec (srmHandler (memOf srm) acceptAll)
    (t.retrieveSrmFromBuffer fuel srm.length) n
  rw [hexec] at hruns
  have hparsing : parsing e.op = true := (uses_retrieve t fuel srm.length).of_runs hruns he
  have hmem : e ∈ (exec (srmHandler (memOf srm) acceptAll)
      (t.retrieveSrmFromBuffer fuel srm.length) n).log := by
    rw [hexec]
    exact he
  obtain ⟨k', hans⟩ := Prog.ans_of_mem_log hmem
  obtain ⟨o, r⟩ := e
  cases o
  case read | memmove | new | useLength => exact hans.symm
  case verifySignature msg len r' s' =>
    have hcall : (⟨msg, len, r', s', r⟩ : SignatureCall) ∈ signatureCalls l := by
      rw [← hcalls]
      exact mem_signatureCalls.2 he
    have hanswer : answeredBy (V.answer srm msg len r' s') r = true :=
      hsigned _ (mem_signatureCalls.1 hcall)
    exact (eq_of_answeredBy hanswer).symm
  all_goals exact absurd hparsing Bool.false_ne_true

/-- What was installed is read again from a file with the same bytes. -/
lemma restart_of_parses {t t' : SrmTable} {l : List (Event srmSig)} (h : Parses srm t t' l)
    (hsigned : ∀ e ∈ l, signed V (onMessage srm e) = true) :
    ∃ fuel t₁, restart V srm fuel = some (t₁, true) ∧ t₁.version = t'.version ∧
      t₁.generation = t'.generation ∧
      t₁.revocationListsByGeneration = t'.revocationListsByGeneration := by
  have hpos := h.length_pos
  obtain ⟨ω, hreturns⟩ := h
  obtain ⟨hok, ss, hwalk, rfl, hcalls⟩ := hreturns.success
  have hempty : Gen1Ok (memOf srm) emptyTable.version srm.length :=
    { hok with recent := Nat.zero_le _ }
  -- a parser that finds every signature good makes the same checks, and the oracle accepts these
  obtain ⟨l', hagain⟩ := returns_of_walk (t := emptyTable) acceptAll_accepting hempty hwalk
  obtain ⟨-, ss', hwalk', -, hcalls'⟩ := hagain.success
  obtain rfl := walk_unique hwalk hwalk'
  obtain ⟨fuel, n, hexec⟩ := hagain
  have hruns := Prog.runs_exec (srmHandler (memOf srm) acceptAll)
    (emptyTable.retrieveSrmFromBuffer fuel srm.length) 0
  rw [hexec] at hruns
  have hanswers := answers_of_signed hexec (hcalls'.trans hcalls.symm) hsigned
  exact ⟨fuel, _, restart_of_retrieve hpos (Prog.exec_of_runs hruns hanswers), rfl, rfl, rfl⟩

/-! ### Sequences of requests -/

/-- The SRM is to be stored. -/
def StorageEnabled (c : Copies) : Prop := ∀ t, c.table = some t → t.isSrmStorageDisable = false

/-- A successful request with an SRM, on the copies. -/
inductive Installs (V : SignatureOracle) : Copies → List UInt8 → Copies → Prop where
  | request {m : HdcpDaemon} {fuel rounds appId : ℕ} {req rsp : SocketData} {log : UpdateLog}
      {s s' : UpdateState} (hruns : (request m fuel rounds req appId).Runs log rsp)
      (hleads : Leads updateStep log s s') (hrsp : rsp.status = HdcpStatus.successful)
      (hsigned : ∀ e ∈ log, signed V e = true) (henabled : StorageEnabled s.toCopies) :
      Installs V s.toCopies (received log) s'.toCopies

/-- A sequence of successful requests: their SRMs, and the copies after each of them. -/
inductive Installed (V : SignatureOracle) : Copies → List (List UInt8 × Copies) → Prop where
  | nil (c : Copies) : Installed V c []
  | cons {c c' : Copies} {srm : List UInt8} {history : List (List UInt8 × Copies)}
      (h : Installs V c srm c') (hrest : Installed V c' history) :
      Installed V c ((srm, c') :: history)

/-- The files are the SRM and nothing else, and a restart reads the table again. -/
structure Exact (V : SignatureOracle) (srm : List UInt8) (c : Copies) : Prop where
  files : ∀ f, c.file f = some srm
  reproduces : Reproduces V c

/-- No file is longer than the SRM. -/
def Fits (c : Copies) (srm : List UInt8) : Prop :=
  ∀ f contents, c.file f = some contents → contents.length ≤ srm.length

/-- No file is longer than the SRM that is written to it. -/
def NeverShorter (c : Copies) (srms : List (List UInt8)) : Prop :=
  (∀ srm ∈ srms.head?, Fits c srm) ∧ srms.IsChain fun a b => a.length ≤ b.length

variable {c c' : Copies}

/-- What a successful request leaves: the files begin with the SRM, and a file with the same
bytes reproduces the table. -/
lemma Installs.spec (h : Installs V c srm c') :
    (∀ f, c'.file f = some (overwrite ((c.file f).getD []) 0 srm)) ∧
      (c'.storage = some srm → Reproduces V c') := by
  obtain @⟨m, fuel, rounds, appId, req, rsp, log, s, s', hruns, hleads, hrsp, hsigned,
    henabled⟩ := h
  rcases request_spec hruns hleads with hstops | ⟨t, t', hupdates⟩
  · exact absurd hrsp hstops.failed
  have hopened (f : StoredFile) : opened f log = true := by
    cases f with
    | storage => exact hupdates.stored hrsp (henabled t hupdates.before)
    | display => exact hupdates.displayed hrsp
  refine ⟨fun f => ?_, fun hstorage => ?_⟩
  · rw [hupdates.file f, hopened, hupdates.whole hrsp f (hopened f), fileAfter, if_pos rfl,
      List.take_length]
  · obtain ⟨l, hl, hparses⟩ := hupdates.parses
    obtain ⟨n, t₁, hrestart, hsame⟩ :=
      restart_of_parses hparses fun e he => hsigned _ (hl e he)
    exact ⟨_, t', n, t₁, hstorage, hupdates.after, hrestart, hsame⟩

lemma overwrite_getD_eq_iff {file : Option (List UInt8)} :
    overwrite (file.getD []) 0 srm = srm ↔
      ∀ contents, file = some contents → contents.length ≤ srm.length := by
  rw [overwrite_eq_iff]
  cases file with
  | none => simp
  | some contents => simp

lemma Installs.exact_iff (h : Installs V c srm c') : Exact V srm c' ↔ Fits c srm := by
  obtain ⟨hfile, hreproduces⟩ := h.spec
  have hfiles : (∀ f, c'.file f = some srm) ↔ Fits c srm :=
    forall_congr' fun f => by rw [hfile f, Option.some.injEq, overwrite_getD_eq_iff]
  constructor
  · exact fun hexact => hfiles.1 hexact.files
  · intro hfits
    have hexact := hfiles.2 hfits
    exact ⟨hexact, hreproduces (hexact .storage)⟩

/-- After an exact request, the next SRM fits exactly when it is not shorter. -/
lemma Exact.fits_iff {next : List UInt8} (h : Exact V srm c) :
    Fits c next ↔ srm.length ≤ next.length := by
  constructor
  · exact fun hfits => hfits .storage srm (h.files .storage)
  · intro hle f contents hcontents
    rw [h.files f, Option.some.injEq] at hcontents
    rw [← hcontents]
    exact hle

/-- In a sequence of successful requests the copies are exact after each of them, exactly when no
file is longer than the SRM that is written to it. -/
theorem stored_exact_iff {history : List (List UInt8 × Copies)} (h : Installed V c history) :
    (∀ x ∈ history, Exact V x.1 x.2) ↔ NeverShorter c (history.map Prod.fst) := by
  induction h with
  | nil c => simp [NeverShorter]
  | @cons c c' srm history hinstalls hrest ih =>
      rw [List.forall_mem_cons, ih, hinstalls.exact_iff, List.map_cons, NeverShorter,
        NeverShorter, List.isChain_cons, List.head?_cons]
      simp only [Option.mem_def, Option.some.injEq, forall_eq']
      -- when the first request is exact, its SRM is what the next one overwrites
      refine and_congr_right fun hfits => and_congr_left fun _ => ?_
      have hexact := hinstalls.exact_iff.2 hfits
      exact forall₂_congr fun next _ => hexact.fits_iff

/-! ### Two SRMs -/

/-- The request installs the SRM in the table and writes it to both files. -/
def installsEmptySrm (t : SrmTable) : UpdateLog :=
  takesEmptySrm t ++
    [⟨.openDisplay, true⟩, ⟨.writeDisplay emptySrm, .ok 48⟩, ⟨.closeDisplay, ()⟩]

def acceptsAll : SignatureOracle := fun _ _ _ => .success

def emptySrmResponse : SocketData := { emptySrmRequest with status := HdcpStatus.successful }

/-- The table that the SRM describes. -/
def emptySrmTable : SrmTable := ⟨1, 1, false, [⟨true, 0, none⟩]⟩

lemma runs_installs_noSrm :
    (request someDaemon 1 1 emptySrmRequest 5).Runs (installsEmptySrm emptyTable)
      emptySrmResponse := by
  repeat refine .call _ _ _ ?_
  exact .ret _

/-- The files after the request, from given contents. -/
def afterEmptySrm (file : List UInt8) : UpdateState where
  table := some emptySrmTable
  storage := some (overwrite file 0 emptySrm)
  display := some (overwrite file 0 emptySrm)
  position := 48
  heap := fun _ => 0

/-- An SRM of the same version that revokes a device. -/
def longerSrm : List UInt8 :=
  [0x80, 0, 0, 1, 1, 0, 0, 0x31] ++ [1, 1, 2, 3, 4, 5] ++ List.replicate 40 0

def longerSrmTable : SrmTable := ⟨1, 1, false, [⟨true, 1, some [1, 2, 3, 4, 5]⟩]⟩

/-- The longer SRM is in the table and in both files. -/
def hasLongerSrm : UpdateState where
  table := some longerSrmTable
  storage := some longerSrm
  display := some longerSrm
  position := 54
  heap := fun _ => 0

def longerSrmRequest : SocketData := { emptySrmRequest with srmOrKsvListDataSz := 54 }

def longerSrmResponse : SocketData := { longerSrmRequest with status := HdcpStatus.successful }

/-- The longer SRM follows the one that revokes nothing. -/
def installsLongerSrm : UpdateLog :=
  [⟨.daemon (.new 54), true⟩,
    ⟨.daemon (.send 5 (socketDataLayout.encode longerSrmResponse)), .ok 100⟩,
    ⟨.daemon (.read 5 54), .ok longerSrm⟩, ⟨.getTable, some emptySrmTable⟩] ++
  ([⟨.read 0, (0x80 : UInt8)⟩, ⟨.read 3, (1 : UInt8)⟩, ⟨.read 2, (0 : UInt8)⟩,
    ⟨.read 4, (1 : UInt8)⟩, ⟨.read 5, (0 : UInt8)⟩, ⟨.read 6, (0 : UInt8)⟩,
    ⟨.read 7, (0x31 : UInt8)⟩, ⟨.useLength 49 3, ()⟩, ⟨.useLength 46 40, ()⟩,
    ⟨.useLength 54 40, ()⟩, ⟨.verifySignature 0 14 14 34, Errno.success⟩,
    ⟨.new .revocationLists, true⟩, ⟨.new .vectorRevocationList, true⟩, ⟨.read 8, (1 : UInt8)⟩,
    ⟨.new (.ksvArray 5), true⟩, ⟨.memmove 9 5, [1, 2, 3, 4, 5]⟩] ++
    storing 54 54 : List (Event srmSig)).map (onMessage longerSrm) ++
  [⟨.setTable (some longerSrmTable), ()⟩, ⟨.hasPortManager, true⟩,
    ⟨.openDisplay, true⟩, ⟨.writeDisplay longerSrm, .ok 54⟩, ⟨.closeDisplay, ()⟩]

lemma runs_installsLongerSrm :
    (request someDaemon 1 1 longerSrmRequest 5).Runs installsLongerSrm longerSrmResponse := by
  repeat refine .call _ _ _ ?_
  exact .ret _

/-- The first SRM, and the longer one after it. -/
def growing : List (List UInt8 × Copies) :=
  [(emptySrm, (afterEmptySrm []).toCopies), (longerSrm, hasLongerSrm.toCopies)]

lemma installed_growing : Installed acceptsAll noSrm.toCopies growing := by
  have hfirst : Leads updateStep (installsEmptySrm emptyTable) noSrm (afterEmptySrm []) :=
    Prog.leads_iff_follow.2 rfl
  have hsecond : Leads updateStep installsLongerSrm (afterEmptySrm []) hasLongerSrm :=
    Prog.leads_iff_follow.2 rfl
  refine .cons (.request runs_installs_noSrm hfirst rfl (by decide) ?_)
    (.cons (.request runs_installsLongerSrm hsecond rfl (by decide) ?_) (.nil _))
  · rintro _ ⟨⟩
    rfl
  · rintro _ ⟨⟩
    rfl

theorem stored_exact_iff_growing :
    Installed acceptsAll noSrm.toCopies growing ∧ ∀ x ∈ growing, Exact acceptsAll x.1 x.2 := by
  refine ⟨installed_growing, (stored_exact_iff installed_growing).2 ⟨?_, by decide⟩⟩
  rintro _ ⟨⟩ f contents hcontents
  cases f <;> exact absurd hcontents (by simp [Copies.file, noSrm])

lemma runs_installs_longer : (request someDaemon 1 1 emptySrmRequest 5).Runs
    (installsEmptySrm longerSrmTable) emptySrmResponse := by
  repeat refine .call _ _ _ ?_
  exact .ret _

/-- What is left of the longer SRM makes the parser refuse the file. -/
lemma restart_longer (fuel : ℕ) :
    restart acceptsAll (overwrite longerSrm 0 emptySrm) (fuel + 1) = some (emptyTable, true) := by
  rfl

/-- After the shorter SRM, the files are longer than it, and a restart finds no SRM at all. -/
theorem rest_of_longer_srm :
    Installed acceptsAll hasLongerSrm.toCopies [(emptySrm, (afterEmptySrm longerSrm).toCopies)] ∧
      (∀ f, (afterEmptySrm longerSrm).file f ≠ some emptySrm) ∧
      ¬Reproduces acceptsAll (afterEmptySrm longerSrm).toCopies := by
  have hleads : Leads updateStep (installsEmptySrm longerSrmTable) hasLongerSrm
      (afterEmptySrm longerSrm) := Prog.leads_iff_follow.2 rfl
  have hinstalls : Installs acceptsAll hasLongerSrm.toCopies emptySrm
      (afterEmptySrm longerSrm).toCopies := by
    refine .request runs_installs_longer hleads rfl ?_ ?_
    · decide
    · rintro _ ⟨⟩
      rfl
  refine ⟨.cons hinstalls (.nil _), fun f => ?_, ?_⟩
  · cases f <;> decide
  · rintro ⟨file, t, fuel, t', hfile, htable, hrestart, hversion, -⟩
    obtain rfl := Option.some.inj hfile
    obtain rfl := Option.some.inj htable
    cases fuel with
    | zero =>
        have hnone : restart acceptsAll (overwrite longerSrm 0 emptySrm) 0 = none := rfl
        rw [hnone] at hrestart
        exact absurd hrestart (by simp)
    | succ fuel =>
        -- the version of the empty table is not that of the SRM
        rw [restart_longer, Option.some.injEq, Prod.mk.injEq] at hrestart
        obtain ⟨rfl, -⟩ := hrestart
        exact absurd hversion (by decide)

end Hdcp.SrmRestart
