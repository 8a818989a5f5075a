/-
The revocation check.

`Revoked ls ksv` is what the check has to decide: the bytes of `ksv`, read
backwards, are an entry of one of the lists `ls`.  The tables that the daemon can
reach are the ones that `Reached` builds from the initial one by `StoreSrm` and
`SrmConfig`; it also says which lists were installed last.

The comparison in `ContainsKsv` is right: its loop ends early exactly on a revoked
KSV (`containsKsvLoop_lt_iff`).  What the loop found is dropped, and no reached
table ever reports a KSV as revoked (`Reached.checkSrmRevoke_eq`).
-/
import Mathlib.Data.Fin.VecNotation
import Mathlib.Data.Fintype.Basic
import Hdcp.Srm.Table

namespace Hdcp.Srm

open Library
open Library.Prog (Post exec)

/-! ### Entries -/

/-- The bytes of a KSV in reverse order. -/
def reverseKsv (ksv : Ksv) : Ksv := fun i => ksv (Fin.rev i)

/-- The `i`-th entry of an array of KSVs. -/
def ksvEntry (ksvArray : List UInt8) (i : ℕ) : Ksv := fun j => ksvArray.getD (i * ksvSize + j) 0

/-- The KSVs that a revocation list holds. -/
def VectorRevocationList.entries (vrl : VectorRevocationList) : List Ksv :=
  match vrl.ksvArray with
  | none => []
  | some ksvArray => (List.range vrl.numberOfDevices).map (ksvEntry ksvArray)

/-- A KSV is revoked by the lists `ls`. -/
def Revoked (ls : List VectorRevocationList) (ksv : Ksv) : Prop :=
  ∃ vrl ∈ ls, reverseKsv ksv ∈ vrl.entries

instance (ls : List VectorRevocationList) (ksv : Ksv) : Decidable (Revoked ls ksv) :=
  inferInstanceAs (Decidable (∃ vrl ∈ ls, reverseKsv ksv ∈ vrl.entries))

lemma ksvMatches_iff {ksvArray : List UInt8} {i : ℕ} {ksv : Ksv} :
    ksvMatches ksvArray i ksv ↔ ksvEntry ksvArray i = reverseKsv ksv := by
  rw [funext_iff]
  simp only [ksvMatches, Bool.and_eq_true, beq_iff_eq, Fin.forall_fin_succ, ksvEntry, reverseKsv]
  constructor
  · rintro ⟨⟨⟨⟨h₀, h₁⟩, h₂⟩, h₃⟩, h₄⟩
    exact ⟨h₄, h₃, h₂, h₁, h₀, fun j => j.elim0⟩
  · rintro ⟨h₄, h₃, h₂, h₁, h₀, -⟩
    exact ⟨⟨⟨⟨h₀, h₁⟩, h₂⟩, h₃⟩, h₄⟩

/-- The loop of `ContainsKsv` ends before the last index exactly when one of the
entries left is the KSV in reverse. -/
lemma containsKsvLoop_lt_iff (ksvArray : List UInt8) (ksv : Ksv) (todo : ℕ) :
    ∀ i, containsKsvLoop ksvArray ksv todo i < i + todo ↔
      ∃ j < todo, ksvEntry ksvArray (i + j) = reverseKsv ksv := by
  induction todo with
  | zero => intro i; simp [containsKsvLoop]
  | succ todo ih =>
      intro i
      rw [containsKsvLoop]
      split
      case isTrue hmatch =>
        refine iff_of_true (by omega) ⟨0, by omega, ?_⟩
        exact ksvMatches_iff.1 hmatch
      case isFalse hmatch =>
        rw [show i + (todo + 1) = i + 1 + todo by omega, ih (i + 1)]
        constructor
        · rintro ⟨j, hj, heq⟩
          exact ⟨j + 1, by omega, by rw [← heq]; congr 1; omega⟩
        · rintro ⟨_ | j, hj, heq⟩
          · exact absurd (ksvMatches_iff.2 heq) hmatch
          · exact ⟨j, by omega, by rw [← heq]; congr 1; omega⟩

/-- On a list that holds an array the loop finds what it looks for. -/
lemma VectorRevocationList.containsKsvLoop_lt_numberOfDevices {vrl : VectorRevocationList}
    {ksvArray : List UInt8} (h : vrl.ksvArray = some ksvArray) (ksv : Ksv) :
    containsKsvLoop ksvArray ksv vrl.numberOfDevices 0 < vrl.numberOfDevices ↔
      reverseKsv ksv ∈ vrl.entries := by
  have hloop := containsKsvLoop_lt_iff ksvArray ksv vrl.numberOfDevices 0
  simpa [VectorRevocationList.entries, h] using hloop

/-! ### Installed lists -/

/-- A list without an array has no devices. -/
def VectorRevocationList.IsStored (vrl : VectorRevocationList) : Prop :=
  vrl.ksvArray = none → vrl.numberOfDevices = 0

lemma vrlOf_isStored (buf : Mem) (list length : ℕ) : (vrlOf buf list length).IsStored := by
  unfold vrlOf
  split <;> simp [VectorRevocationList.IsStored]

/-- The result of `ContainsKsv` is the conversion of `SUCCESS`. -/
lemma VectorRevocationList.IsStored.containsKsv_eq {vrl : VectorRevocationList}
    (h : vrl.IsStored) (ksv : Ksv) : vrl.containsKsv ksv = false := by
  unfold VectorRevocationList.containsKsv
  split
  case isTrue _ => rfl
  case isFalse hdevices =>
    cases harr : vrl.ksvArray with
    | none => exact absurd (h harr) hdevices
    | some ksvArray => rfl

/-- All lists of a table are stored lists. -/
def SrmTable.AllStored (t : SrmTable) : Prop :=
  ∀ vrl ∈ t.revocationListsByGeneration, vrl.IsStored

lemma SrmTable.install_allStored (t : SrmTable) (buf : Mem) (ss : List ℕ) :
    (t.install buf ss).AllStored := by
  intro vrl hvrl
  simp only [install, List.mem_cons, List.mem_map] at hvrl
  rcases hvrl with rfl | ⟨s, _, rfl⟩
  · exact vrlOf_isStored _ _ _
  · exact vrlOf_isStored _ _ _

/-- A call of `RetrieveSrmFromBuffer` leaves only stored lists. -/
lemma RetrieveSpec.allStored {buf : Mem} {ω : SrmOracle} {t t' : SrmTable} {fuel length : ℕ}
    {ret : Errno} {l : List (Event srmSig)}
    (h : RetrieveSpec buf ω t fuel length (some (ret, t')) l) (ht : t.AllStored) :
    t'.AllStored := by
  by_cases hret : ret = .success
  · subst hret
    obtain ⟨_, ss, _, rfl, _⟩ := h.succeeded t' rfl
    exact t.install_allStored buf ss
  · rw [h.failed ret t' rfl hret]
    exact ht

/-- The constructor of the table leaves only stored lists. -/
lemma newSrmTable_post {buf : Mem} {ω : SrmOracle} {n : ℕ} (fuel : ℕ) :
    Post (srmHandler buf ω) (newSrmTable fuel) n fun r _ _ =>
      ∀ t isValid, r = some (t, isValid) → t.AllStored := by
  have hinit : (⟨0, 0, false, []⟩ : SrmTable).AllStored := by simp [SrmTable.AllStored]
  unfold newSrmTable
  simp only [post_mutexInit]
  split
  · simpa using hinit
  simp only [post_new]
  split
  · simpa using hinit
  simp only [post_openStorage]
  split
  · simpa using hinit
  simp only [post_fstat]
  split
  · simpa using hinit
  next sb _ =>
    split
    · simpa using hinit
    simp only [post_mmap]
    split
    · simpa using hinit
    refine Post.bind (retrieve_post _ fuel sb.size) ?_
    rintro (_ | ⟨ret, t⟩) l s' hret
    · simp
    · simp only [post_closeStorage]
      rintro t' isValid heq
      obtain ⟨rfl, -⟩ : t = t' ∧ true = isValid := by simpa using heq
      exact hret.allStored hinit

/-- The table that `SrmInit` creates has only stored lists. -/
lemma srmInit_post {buf : Mem} {ω : SrmOracle} {n : ℕ} (fuel : ℕ) :
    Post (srmHandler buf ω) (srmInit none fuel) n fun r _ _ =>
      ∀ ret t, r = some (ret, some t) → t.AllStored := by
  unfold srmInit
  simp only [Option.isSome_none, Bool.false_eq_true, ↓reduceIte, post_new]
  split
  · simp
  refine Post.bind (newSrmTable_post fuel) ?_
  rintro (_ | ⟨t, isValid⟩) l s' hnew
  · simp
  dsimp only
  split
  · simp
  · rintro ret t' heq
    obtain ⟨-, rfl⟩ : Errno.success = ret ∧ t = t' := by simpa using heq
    exact hnew t isValid rfl

/-- `StoreSrm` leaves the table that `RetrieveSrmFromBuffer` leaves. -/
lemma storeSrm_post {buf : Mem} {ω : SrmOracle} {n fuel size : ℕ} {t t' : SrmTable}
    {ret : Errno}
    (h : (exec (srmHandler buf ω) (t.retrieveSrmFromBuffer fuel size) n).val =
      some (ret, t')) :
    Post (srmHandler buf ω) (storeSrm (some t) fuel size) n fun r _ _ =>
      ∃ e, r = some (e, some t') := by
  unfold storeSrm
  refine Post.bind (Q := fun r _ _ => r = some (ret, t')) h ?_
  rintro r l s' rfl
  dsimp only
  split
  · simp
  split
  · simp
  simp only [post_openStorage]
  split
  · simp
  simp only [post_writeStorage, post_closeStorage]
  split <;> simp

/-! ### Reached tables -/

/-- The tables that the daemon can reach by `StoreSrm` and `SrmConfig` from the one
that `SrmInit` creates, each with the lists that were installed last. -/
inductive Reached : SrmTable → List VectorRevocationList → Prop where
  | created (buf : Mem) (ω : SrmOracle) (fuel : ℕ) {t : SrmTable}
      (hinit : (exec (srmHandler buf ω) (srmInit none fuel) 0).val = some (.success, some t)) :
      Reached t t.revocationListsByGeneration
  | installed (buf : Mem) (ω : SrmOracle) (fuel size : ℕ) {t t' t'' : SrmTable}
      {ls : List VectorRevocationList} {e : Errno} (ht : Reached t ls)
      (hstore : (exec (srmHandler buf ω) (storeSrm (some t) fuel size) 0).val =
        some (e, some t''))
      (hretrieve : (exec (srmHandler buf ω) (t.retrieveSrmFromBuffer fuel size) 0).val =
        some (.success, t')) :
      Reached t'' t'.revocationListsByGeneration
  | refused (buf : Mem) (ω : SrmOracle) (fuel size : ℕ) {t t' t'' : SrmTable}
      {ls : List VectorRevocationList} {e ret : Errno} (ht : Reached t ls)
      (hstore : (exec (srmHandler buf ω) (storeSrm (some t) fuel size) 0).val =
        some (e, some t''))
      (hretrieve : (exec (srmHandler buf ω) (t.retrieveSrmFromBuffer fuel size) 0).val =
        some (ret, t'))
      (hret : ret ≠ .success) : Reached t'' ls
  | configured {t t' : SrmTable} {ls : List VectorRevocationList} {disable : Bool}
      (ht : Reached t ls) (hconfig : srmConfig (some t) disable = (.success, some t')) :
      Reached t' ls

/-- The table that a store leaves, in terms of the retrieval that it makes. -/
lemma storeSrm_table {buf : Mem} {ω : SrmOracle} {fuel size : ℕ} {t t' t'' : SrmTable}
    {e ret : Errno}
    (hstore : (exec (srmHandler buf ω) (storeSrm (some t) fuel size) 0).val =
      some (e, some t''))
    (hretrieve : (exec (srmHandler buf ω) (t.retrieveSrmFromBuffer fuel size) 0).val =
      some (ret, t')) :
    t'' = t' := by
  obtain ⟨e', he'⟩ := storeSrm_post hretrieve
  rw [hstore] at he'
  simpa using (congrArg (Option.map Prod.snd) he')

lemma retrieve_spec {buf : Mem} {ω : SrmOracle} {fuel size : ℕ} {t t' : SrmTable} {ret : Errno}
    (h : (exec (srmHandler buf ω) (t.retrieveSrmFromBuffer fuel size) 0).val =
      some (ret, t')) :
    RetrieveSpec buf ω t fuel size (some (ret, t'))
      (exec (srmHandler buf ω) (t.retrieveSrmFromBuffer fuel size) 0).log := by
  have hpost : Post (srmHandler buf ω) (t.retrieveSrmFromBuffer fuel size) 0
      fun r l _ => RetrieveSpec buf ω t fuel size r l := retrieve_post t fuel size
  rwa [Post, h] at hpost

/-- A reached table holds the lists that were installed last, and they are stored
lists. -/
lemma Reached.lists_eq {t : SrmTable} {ls : List VectorRevocationList} (h : Reached t ls) :
    t.revocationListsByGeneration = ls ∧ t.AllStored := by
  induction h with
  | created buf ω fuel hinit => exact ⟨rfl, srmInit_post _ _ _ hinit⟩
  | installed buf ω fuel size ht hstore hretrieve ih =>
      obtain rfl := storeSrm_table hstore hretrieve
      exact ⟨rfl, (retrieve_spec hretrieve).allStored ih.2⟩
  | refused buf ω fuel size ht hstore hretrieve hret ih =>
      obtain rfl := storeSrm_table hstore hretrieve
      obtain rfl := (retrieve_spec hretrieve).failed _ _ rfl hret
      exact ih
  | configured ht hconfig ih =>
      obtain rfl := Option.some.inj (Prod.mk.inj hconfig).2
      exact ih

/-- No reached table reports a KSV as revoked. -/
lemma Reached.checkSrmRevoke_eq {t : SrmTable} {ls : List VectorRevocationList}
    (h : Reached t ls) (ksv : Ksv) : checkSrmRevoke (some t) ksv = .success := by
  have hnone : ¬ t.revocationListsByGeneration.any fun vrl => vrl.containsKsv ksv := by
    simp only [List.any_eq_true, not_exists, not_and, Bool.not_eq_true]
    intro vrl hvrl
    exact (h.lists_eq.2 vrl hvrl).containsKsv_eq ksv
  simp [checkSrmRevoke, SrmTable.checkSrmRevoke, hnone]

/-- The check answers `EACCES` for the revoked KSVs and `SUCCESS` for the others
exactly when the KSV is not revoked. -/
theorem Reached.checkSrmRevoke_correct_iff {t : SrmTable} {ls : List VectorRevocationList}
    (h : Reached t ls) (ksv : Ksv) :
    checkSrmRevoke (some t) ksv = (if Revoked ls ksv then .eacces else .success) ↔
      ¬ Revoked ls ksv := by
  rw [h.checkSrmRevoke_eq]
  split <;> simp [*]

/-! ### A revoked KSV that passes -/

/-- A message of version 1 and generation 1 that revokes one KSV. -/
def revokingMessage : List UInt8 :=
  [0x80, 0, 0, 1, 1, 0, 0, 49, 1, 1, 2, 3, 4, 5] ++ List.replicate 40 0

/-- The table that has stored the message. -/
def revokingTable : SrmTable := ⟨1, 1, false, [⟨true, 1, some [1, 2, 3, 4, 5]⟩]⟩

/-- A KSV that the message revokes. -/
def revokedKsv : Ksv := ![5, 4, 3, 2, 1]

lemma revokingTable_reached : Reached revokingTable revokingTable.revocationListsByGeneration := by
  have hcreated : Reached ⟨0, 0, false, []⟩ [] := .created (memOf []) acceptAll 0 (by decide)
  have hstore : (exec (srmHandler (memOf revokingMessage) acceptAll)
      (storeSrm (some ⟨0, 0, false, []⟩) 1 54) 0).val =
        some (.success, some revokingTable) := by decide
  exact hcreated.installed (memOf revokingMessage) acceptAll 1 54 hstore (by decide)

/-- The check does not decide revocation: the KSV is on an installed list. -/
theorem checkSrmRevoke_misses_revoked :
    ¬ ∀ t ls, Reached t ls → ∀ ksv,
      checkSrmRevoke (some t) ksv = if Revoked ls ksv then .eacces else .success := by
  intro hall
  have hcheck := hall _ _ revokingTable_reached revokedKsv
  exact absurd hcheck (by decide)

theorem checkSrmRevoke_correct_iff_revoking :
    Reached revokingTable revokingTable.revocationListsByGeneration ∧
      (checkSrmRevoke (some revokingTable) ![1, 2, 3, 4, 5] =
        (if Revoked revokingTable.revocationListsByGeneration ![1, 2, 3, 4, 5] then .eacces
          else .success) ↔
        ¬ Revoked revokingTable.revocationListsByGeneration ![1, 2, 3, 4, 5]) :=
  ⟨revokingTable_reached, revokingTable_reached.checkSrmRevoke_correct_iff ![1, 2, 3, 4, 5]⟩

end Hdcp.Srm
