/-
What a call of `RetrieveSrmFromBuffer` does to the table.

A call either installs the header and the lists of its message, all together, or
leaves the table alone (`retrieve_post`).  `Returns` says that a call comes back,
with which status, with which table and after which interactions; the loop of the
parser has no bound of its own, so a call may also not come back at all.
-/
import Hdcp.Srm.Exec

namespace Hdcp.Srm

open Library
open Library.Prog (iter Post exec)

variable {buf : Mem} {ω : SrmOracle} {n : ℕ}

/-- The table after the message at `buf` has been installed, with the further
generations at the offsets `ss`. -/
def SrmTable.install (t : SrmTable) (buf : Mem) (ss : List ℕ) : SrmTable :=
  { t with
    version := (headerOf buf).version
    generation := (headerOf buf).generation
    revocationListsByGeneration := gen1Vrl buf :: ss.map (sectionVrl buf) }

/-- The loop over the further generations of the message, from the `n`-th interaction
on. -/
def sectionLoop (buf : Mem) (ω : SrmOracle) (fuel length n : ℕ) :
    Result srmSig ℕ (Option (Except Errno (List VectorRevocationList))) :=
  exec (srmHandler buf ω) (iter (sectionRound length) fuel (5 + gen1Length buf, [gen1Vrl buf])) n

/-- What the call returns and leaves when the loop has ended with `r`. -/
def SrmTable.commit (t : SrmTable) (hdr : SrmHeader) :
    Except Errno (List VectorRevocationList) → Errno × SrmTable
  | .error ret => (ret, t)
  | .ok ls => (.success,
      { t with
        version := hdr.version
        generation := hdr.generation
        revocationListsByGeneration := ls })

/-- What a call of `RetrieveSrmFromBuffer` on the table `t` can do. -/
structure RetrieveSpec (buf : Mem) (ω : SrmOracle) (t : SrmTable) (fuel length : ℕ)
    (r : Option (Errno × SrmTable)) (l : List (Event srmSig)) : Prop where
  succeeded : ∀ t', r = some (.success, t') → Gen1Ok buf t.version length ∧
    ∃ ss, Walk buf length (5 + gen1Length buf) ss ∧ t' = t.install buf ss ∧
      signatureCalls l = gen1Call buf :: ss.map (sectionCall buf)
  failed : ∀ e t', r = some (e, t') → e ≠ .success → t' = t
  entered : Accepting ω → Gen1Ok buf t.version length → ∃ n',
    (∀ e ∈ (sectionLoop buf ω fuel length n').log, e ∈ l) ∧
      r = (sectionLoop buf ω fuel length n').val.map (t.commit (headerOf buf))
  inBounds : length + 2 ^ 16 ≤ 2 ^ 32 → 8 ≤ length → LogInBounds length l
  stops : length + 2 ^ 16 ≤ 2 ^ 32 → length < fuel → r ≠ none

lemma retrieve_post (t : SrmTable) (fuel length : ℕ) :
    Post (srmHandler buf ω) (t.retrieveSrmFromBuffer fuel length) n fun r l _ =>
      RetrieveSpec buf ω t fuel length r l := by
  rw [SrmTable.retrieveSrmFromBuffer]
  refine Post.bind (parseSrm_post fuel t.version length) ?_
  rintro r l s' hparse
  have hentered (r' : Option (Errno × SrmTable)) (l' : List (Event srmSig))
      (hr' : r' = r.map fun
        | .error ret => (ret, t)
        | .ok (hdr, ls) => t.commit hdr (.ok ls))
      (hω : Accepting ω) (hok : Gen1Ok buf t.version length) : ∃ n',
        (∀ e ∈ (sectionLoop buf ω fuel length n').log, e ∈ l ++ l') ∧
          r' = (sectionLoop buf ω fuel length n').val.map (t.commit (headerOf buf)) := by
    obtain ⟨n', hlog, hval⟩ := hparse.entered hω hok
    refine ⟨n', fun e he => List.mem_append_left _ (hlog e he), ?_⟩
    rw [hr', hval, Option.map_map]
    congr 1
    funext x
    cases x with
    | error ret => rfl
    | ok ls => rfl
  rcases r with _ | e | ⟨hdr, ls⟩
  · refine ⟨by simp, by simp, hentered _ _ rfl, fun hB h8 => ?_, fun hB hf => ?_⟩
    · simpa using hparse.inBounds hB h8
    · exact absurd rfl (hparse.stops hB hf)
  · refine ⟨fun t' ht' => ?_, fun e' t' ht' _ => ?_, hentered _ _ rfl, fun hB h8 => ?_, by simp⟩
    · obtain ⟨rfl, rfl⟩ : e = .success ∧ t = t' := by simpa using ht'
      exact absurd rfl (hparse.failed _ rfl)
    · exact (by simpa using ht' : e = e' ∧ t = t').2.symm
    · simpa using hparse.inBounds hB h8
  · obtain ⟨hok, rfl, ss, hwalk, rfl, hcalls⟩ := hparse.parsed hdr ls rfl
    refine ⟨fun t' ht' => ?_, fun e' t' ht' he => ?_, hentered _ _ rfl, fun hB h8 => ?_, by simp⟩
    · obtain rfl : t.install buf ss = t' := by simpa [SrmTable.install] using ht'
      exact ⟨hok, ss, hwalk, rfl, by simpa using hcalls⟩
    · obtain ⟨rfl, -⟩ : Errno.success = e' ∧ _ := by simpa using ht'
      exact absurd rfl he
    · simpa using hparse.inBounds hB h8

/-- The call on the message of `length` bytes at `buf` returns `ret`, leaves the table
`t'` and makes the interactions `l`. -/
def Returns (buf : Mem) (ω : SrmOracle) (t : SrmTable) (length : ℕ) (ret : Errno)
    (t' : SrmTable) (l : List (Event srmSig)) : Prop :=
  ∃ fuel n, exec (srmHandler buf ω) (t.retrieveSrmFromBuffer fuel length) 0 =
    ⟨some (ret, t'), l, n⟩

/-! ### Runs -/

/-- A read is answered by `x`. -/
def answeredBy {α : Type} [DecidableEq α] (x r : α) : Bool := r = x

lemma eq_of_answeredBy {α : Type} [DecidableEq α] {x r : α} (h : answeredBy x r = true) :
    r = x := of_decide_eq_true h

/-- The reads of a call on the message at `buf` get its bytes. -/
def faithful (buf : Mem) : Event srmSig → Bool
  | ⟨.read i, r⟩ => answeredBy (buf i) r
  | ⟨.memmove src len, r⟩ => answeredBy (slice buf src len) r
  | _ => true

/-- An execution depends on the answers from its first interaction on. -/
lemma exec_congr {ω' : SrmOracle} {p : SrmProg α} {n : ℕ} (h : ∀ m ≥ n, ω m = ω' m) :
    exec (srmHandler buf ω) p n = exec (srmHandler buf ω') p n := by
  induction p generalizing n with
  | ret a => rfl
  | call o k ih =>
      have hstep : srmHandler buf ω o n = srmHandler buf ω' o n := by
        cases o
        case read | memmove => rfl
        all_goals exact congrArg (·, n + 1) (congrFun (h n le_rfl) _)
      have hnext : (srmHandler buf ω' o n).2 = n + 1 := by cases o <;> rfl
      rw [Prog.exec_call, Prog.exec_call, hstep,
        ih _ fun m hm => h m (by rw [hnext] at hm; omega)]

/-- A run whose reads get the bytes of the message is an execution. -/
lemma exists_exec {p : SrmProg α} {log : List (Event srmSig)} {a : α} (h : p.Runs log a)
    (hlog : ∀ e ∈ log, faithful buf e = true) (n : ℕ) :
    ∃ ω m, exec (srmHandler buf ω) p n = ⟨a, log, m⟩ := by
  induction h generalizing n with
  | ret a => exact ⟨acceptAll, n, rfl⟩
  | @call o k r log a h ih =>
      obtain ⟨hr, hlog⟩ := List.forall_mem_cons.1 hlog
      obtain ⟨ω, m, hexec⟩ := ih hlog (n + 1)
      -- the first answer is that of the run, the others are those of the rest
      let ω' : SrmOracle := fun m o' => if ho : m = n ∧ o = o' then ho.2 ▸ r else ω m o'
      have hsame : ∀ m ≥ n + 1, ω' m = ω m := by
        intro m hm
        funext o'
        exact dif_neg fun ho => by omega
      have hself : ω' n o = r := by simp [ω']
      have hstep : srmHandler buf ω' o n = (r, n + 1) := by
        cases o
        case read i =>
          have hr : answeredBy (buf i) r = true := hr
          exact congrArg (·, n + 1) (eq_of_answeredBy hr).symm
        case memmove src len =>
          have hr : answeredBy (slice buf src len) r = true := hr
          exact congrArg (·, n + 1) (eq_of_answeredBy hr).symm
        all_goals exact congrArg (·, n + 1) hself
      refine ⟨ω', m, ?_⟩
      rw [Prog.exec_call, hstep, exec_congr hsame, hexec]

section Returns

variable {t t' : SrmTable} {length : ℕ} {l : List (Event srmSig)}

lemma Returns.spec {ret : Errno} (h : Returns buf ω t length ret t' l) :
    ∃ fuel, RetrieveSpec buf ω t fuel length (some (ret, t')) l := by
  obtain ⟨fuel, n, hexec⟩ := h
  have hpost : Post (srmHandler buf ω) (t.retrieveSrmFromBuffer fuel length) 0
      fun r l _ => RetrieveSpec buf ω t fuel length r l := retrieve_post t fuel length
  rw [Post, hexec] at hpost
  exact ⟨fuel, hpost⟩

/-- A call that succeeds installs the whole message and has had every section
signed. -/
lemma Returns.success (h : Returns buf ω t length .success t' l) :
    Gen1Ok buf t.version length ∧ ∃ ss, Walk buf length (5 + gen1Length buf) ss ∧
      t' = t.install buf ss ∧ signatureCalls l = gen1Call buf :: ss.map (sectionCall buf) := by
  obtain ⟨fuel, hspec⟩ := h.spec
  exact hspec.succeeded t' rfl

/-- A call that fails leaves the table alone. -/
lemma Returns.failure {ret : Errno} (h : Returns buf ω t length ret t' l)
    (hret : ret ≠ .success) : t' = t := by
  obtain ⟨fuel, hspec⟩ := h.spec
  exact hspec.failed ret t' rfl hret

/-- A message that passes the checks is installed, when the environment accepts. -/
lemma returns_of_walk (hω : Accepting ω) (hok : Gen1Ok buf t.version length) {ss : List ℕ}
    (hwalk : Walk buf length (5 + gen1Length buf) ss) :
    ∃ l, Returns buf ω t length .success (t.install buf ss) l := by
  have hpost : Post (srmHandler buf ω) (t.retrieveSrmFromBuffer (ss.length + 1) length) 0
      fun r l _ => RetrieveSpec buf ω t (ss.length + 1) length r l := retrieve_post t _ length
  obtain ⟨n', _, hval⟩ := hpost.entered hω hok
  have hloop : (sectionLoop buf ω (ss.length + 1) length n').val =
      some (.ok (gen1Vrl buf :: ss.map (sectionVrl buf))) :=
    sectionLoop_of_walk hω hwalk n' [gen1Vrl buf]
  rw [hloop] at hval
  rcases hexec : exec (srmHandler buf ω) (t.retrieveSrmFromBuffer (ss.length + 1) length) 0
    with ⟨r, l, n''⟩
  rw [hexec] at hval
  obtain rfl : r = some (.success, t.install buf ss) := hval
  exact ⟨l, ss.length + 1, n'', hexec⟩

/-- The offsets of the parser are `uint32_t`, so that it never reaches the end of a
message of 4 GiB or more. -/
lemma Walk.length_lt {s : ℕ} {ss : List ℕ} (h : Walk buf length s ss) (hs : s < 2 ^ 32) :
    length < 2 ^ 32 := by
  induction h with
  | done h => omega
  | step _ _ ih => exact ih (u32_lt _)

lemma Walk.sectionOk {s : ℕ} {ss : List ℕ} (h : Walk buf length s ss) :
    ∀ s' ∈ ss, SectionOk buf length s' := by
  induction h with
  | done => simp
  | step hok _ ih => simpa [hok] using ih

end Returns

end Hdcp.Srm
