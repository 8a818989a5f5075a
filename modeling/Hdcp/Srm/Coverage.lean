/-
What an accepted message says.

`Covers` reads a message with plain arithmetic: the first section has the length of
its three-byte field, each further section the length of its two-byte field, the
sections follow each other up to the end of the message, and the installed lists
are the ones that the sections hold.

A message that the parser accepts is covered unless one of its widths is too small:
the length of the first list is converted to `uint16_t` before it is compared with
the count byte, and the offset of a further section can wrap around
(`success_covers_iff`).
-/
import Hdcp.Srm.Revocation

namespace Hdcp.Srm

open Library

variable {buf : Mem} {length : ℕ}

/-- The region of `len` bytes at `off` is empty, or it is a count byte with as many KSVs
as it says; these are the entries of the list. -/
def RegionHolds (m : Mem) (off len : ℕ) (vrl : VectorRevocationList) : Prop :=
  (len = 0 ∧ vrl.entries = []) ∨
    (len = 1 + 5 * ksvCount m off ∧
      vrl.entries = (List.range (ksvCount m off)).map
        fun i => (fun j => m (off + 1 + 5 * i + j) : Ksv))

/-- The further sections from offset `s` on hold the lists and reach the end of the
message. -/
inductive SectionsCover (m : Mem) (length : ℕ) : ℕ → List VectorRevocationList → Prop where
  | done : SectionsCover m length length []
  | step {s : ℕ} {vrl : VectorRevocationList} {ls : List VectorRevocationList}
      (hmin : 42 ≤ be16 m s) (hregion : RegionHolds m (s + 2) (be16 m s - 42) vrl)
      (hrest : SectionsCover m length (s + be16 m s) ls) : SectionsCover m length s (vrl :: ls)

/-- The sections of the message hold the lists and cover it up to its length. -/
def Covers (m : Mem) (length : ℕ) (ls : List VectorRevocationList) : Prop :=
  ∃ vrl rest, ls = vrl :: rest ∧ 43 ≤ be24 m 5 ∧ RegionHolds m 8 (be24 m 5 - 43) vrl ∧
    SectionsCover m length (5 + be24 m 5) rest

/-- The list that the parser installs is the one that the region holds. -/
lemma VrlFits.regionHolds {off len : ℕ} (h : VrlFits buf off len) :
    RegionHolds buf off len (vrlOf buf off len) := by
  by_cases hlen : len = 0
  · left
    rw [vrlOf, if_pos hlen]
    exact ⟨hlen, rfl⟩
  · right
    have hcount : len = ksvCount buf off * 5 + 1 := h.resolve_left hlen
    refine ⟨by omega, ?_⟩
    rw [vrlOf, if_neg hlen]
    refine List.map_congr_left fun i hi => ?_
    have hi' : i < ksvCount buf off := by simpa using hi
    funext j
    have hj : j.1 < 5 := j.2
    rw [ksvEntry, getD_slice _ _ (by simp only [ksvSize]; omega)]
    simp only [ksvSize]
    congr 1
    omega

lemma RegionHolds.len_le {off len : ℕ} {vrl : VectorRevocationList}
    (h : RegionHolds buf off len vrl) : len ≤ 636 := by
  have hcount := ksvCount_lt buf off
  rcases h with ⟨hlen, _⟩ | ⟨hlen, _⟩
  · omega
  · omega

lemma SectionsCover.le {s : ℕ} {ls : List VectorRevocationList}
    (h : SectionsCover buf length s ls) : s ≤ length := by
  induction h with
  | done => exact le_rfl
  | step _ _ _ ih => omega

/-! ### Walks and covers -/

/-- The two readings of a length field agree below the wrap-around. -/
lemma sectionLength_eq_be16 {s : ℕ} (hs : s + 1 < 2 ^ 32) : sectionLength buf s = be16 buf s := by
  rw [sectionLength, u32_of_lt hs]
  rfl

/-- A walk whose sections all end within the message covers the message. -/
lemma Walk.sectionsCover {s : ℕ} {ss : List ℕ} (h : Walk buf length s ss)
    (hlength : length < 2 ^ 32) (hs : s ≤ length)
    (hin : ∀ s' ∈ ss, s' + sectionLength buf s' ≤ length) :
    SectionsCover buf length s (ss.map (sectionVrl buf)) := by
  induction h with
  | @done s hend =>
      obtain rfl : s = length := by omega
      exact .done
  | @step s ss hok _ ih =>
      have hend : s + sectionLength buf s ≤ length := hin s (by simp)
      have hmin := hok.min
      have hlong : s + 42 ≤ length := by omega
      have hnext : sectionNext buf s = s + sectionLength buf s := by
        rw [sectionNext_eq hmin, u32_of_lt (by omega)]
      have hvrl := hok.vrl.regionHolds
      have hrest := ih (by omega) fun s' hs' => hin s' (List.mem_cons_of_mem _ hs')
      rw [hnext] at hrest
      rw [u32_of_lt (by omega), Nat.sub_sub] at hvrl
      rw [sectionLength_eq_be16 (by omega)] at hmin hvrl hrest
      refine .step hmin ?_ hrest
      rwa [sectionVrl, u32_of_lt (by omega), sectionLength_eq_be16 (by omega), Nat.sub_sub]

/-- When the message is covered, no section of the walk ends behind it. -/
lemma SectionsCover.walk_le {s : ℕ} {ss : List ℕ} (h : Walk buf length s ss)
    (hlength : length < 2 ^ 32) :
    ∀ {ls : List VectorRevocationList}, SectionsCover buf length s ls →
      ∀ s' ∈ ss, s' + sectionLength buf s' ≤ length := by
  induction h with
  | done => simp
  | @step s ss hok _ ih =>
      intro ls hcover
      cases hcover with
      | done => exact absurd hok.lt (lt_irrefl _)
      | step hmin _ hrest =>
          have hle := hrest.le
          have hlen := @sectionLength_eq_be16 buf s (by omega)
          have hnext : sectionNext buf s = s + be16 buf s := by
            rw [sectionNext_eq hok.min, hlen, u32_of_lt (by omega)]
          rintro s' (_ | ⟨_, hs'⟩)
          · omega
          · rw [hnext] at ih
            exact ih hrest s' hs'

/-- Below the wrap-around no further section is ever accepted. -/
lemma Walk.eq_nil {s : ℕ} {ss : List ℕ} (h : Walk buf length s ss)
    (hlength : length + 678 < 2 ^ 32) : ss = [] := by
  have hlast : ∀ {s ss}, Walk buf length s ss → ¬ s + 2 ≤ length := by
    intro s ss h
    induction h with
    | done hend => omega
    | step hok _ ih => exact absurd (hok.next_of_le hlength).2.2 ih
  cases h with
  | done => rfl
  | step hok hrest => exact absurd (hok.next_of_le hlength).2.2 (hlast hrest)

/-! ### Accepted messages -/

/-- The message passes the checks of the parser with the further sections at `ss`. -/
structure Accepts (buf : Mem) (version length : ℕ) (ss : List ℕ) : Prop where
  gen1 : Gen1Ok buf version length
  walk : Walk buf length (5 + gen1Length buf) ss

/-- An accepted message is covered by the lists that it installs exactly when the
length of its first list fits into 16 bits and no further section ends behind it. -/
lemma Accepts.covers_iff {t : SrmTable} {ss : List ℕ} (h : Accepts buf t.version length ss) :
    Covers buf length (t.install buf ss).revocationListsByGeneration ↔
      gen1Length buf - 43 < 2 ^ 16 ∧ ∀ s ∈ ss, s + sectionLength buf s ≤ length := by
  have hgen1 := gen1Length_lt buf
  have hlength : length < 2 ^ 32 := h.walk.length_lt (by omega)
  constructor
  · rintro ⟨vrl, rest, _, hmin, hregion, hcover⟩
    refine ⟨?_, hcover.walk_le h.walk hlength⟩
    exact lt_of_le_of_lt hregion.len_le (by decide)
  · rintro ⟨hshort, hin⟩
    refine ⟨gen1Vrl buf, ss.map (sectionVrl buf), rfl, h.gen1.min, ?_, ?_⟩
    · have hvrl := h.gen1.vrl.regionHolds
      rw [u16_of_lt hshort] at hvrl
      rw [gen1Vrl, u16_of_lt hshort]
      exact hvrl
    · exact h.walk.sectionsCover hlength h.gen1.fits hin

/-- A call that succeeds installs exactly what its message says, for every oracle,
unless the message is accepted with a first list of 2^16 bytes or more or with a
section that ends behind it.  Below the wrap-around there are no further sections. -/
theorem success_covers_iff (buf : Mem) (length : ℕ) (t : SrmTable) :
    ((∀ ω t' l, Returns buf ω t length .success t' l →
        Covers buf length t'.revocationListsByGeneration) ↔
      ∀ ss, Accepts buf t.version length ss →
        gen1Length buf - 43 < 2 ^ 16 ∧ ∀ s ∈ ss, s + sectionLength buf s ≤ length) ∧
    (length + 678 < 2 ^ 32 →
      ((∀ ω t' l, Returns buf ω t length .success t' l →
          Covers buf length t'.revocationListsByGeneration) ↔
        ¬ (Gen1Ok buf t.version length ∧ 5 + gen1Length buf = length ∧
          2 ^ 16 ≤ gen1Length buf - 43))) := by
  have hexact : (∀ ω t' l, Returns buf ω t length .success t' l →
        Covers buf length t'.revocationListsByGeneration) ↔
      ∀ ss, Accepts buf t.version length ss →
        gen1Length buf - 43 < 2 ^ 16 ∧ ∀ s ∈ ss, s + sectionLength buf s ≤ length := by
    constructor
    · intro hcovers ss hss
      obtain ⟨l, hret⟩ := returns_of_walk acceptAll_accepting hss.gen1 hss.walk
      exact hss.covers_iff.1 (hcovers _ _ _ hret)
    · intro hall ω t' l hret
      obtain ⟨hgen1, ss, hwalk, rfl, _⟩ := hret.success
      have hss : Accepts buf t.version length ss := ⟨hgen1, hwalk⟩
      exact hss.covers_iff.2 (hall ss hss)
  refine ⟨hexact, fun hlength => hexact.trans ⟨?_, ?_⟩⟩
  · rintro hall ⟨hgen1, hend, hlong⟩
    have hss : Accepts buf t.version length [] := ⟨hgen1, .done (by omega)⟩
    exact absurd (hall [] hss).1 (by omega)
  · intro hnot ss hss
    obtain rfl : ss = [] := hss.walk.eq_nil hlength
    have hfits := hss.gen1.fits
    have hend : ¬ 5 + gen1Length buf < length := by
      cases hss.walk with
      | done hend => exact hend
    refine ⟨?_, by simp⟩
    by_contra hlong
    exact hnot ⟨hss.gen1, by omega, by omega⟩

/-- The header of a message of 65584 bytes whose first list has 2^16 bytes. -/
def truncatedMessage : List UInt8 := [0x80, 0, 0, 1, 1, 1, 0, 0x2b]

/-- An accepted message can say more than what is installed: the first list of this
one has 2^16 bytes, of which none is read. -/
theorem truncatedMessage_not_covered :
    ¬ ∀ (buf : Mem) (length : ℕ) (t : SrmTable) (ω : SrmOracle) (t' : SrmTable)
      (l : List (Event srmSig)), Returns buf ω t length .success t' l →
        Covers buf length t'.revocationListsByGeneration := by
  intro hall
  have hlen : gen1Length (memOf truncatedMessage) = 65579 := by decide
  have hgen1 : Gen1Ok (memOf truncatedMessage) 0 65584 := by
    refine ⟨by decide, by decide, by omega, by omega, Or.inl ?_⟩
    rw [hlen]
    decide
  have hss : Accepts (memOf truncatedMessage) 0 65584 [] := ⟨hgen1, .done (by omega)⟩
  have hss' : Accepts (memOf truncatedMessage) (⟨0, 0, false, []⟩ : SrmTable).version 65584 [] :=
    hss
  obtain ⟨l, hret⟩ := returns_of_walk acceptAll_accepting hss'.gen1 hss'.walk
  have hshort := (hss'.covers_iff.1 (hall _ _ _ _ _ _ hret)).1
  omega

end Hdcp.Srm
