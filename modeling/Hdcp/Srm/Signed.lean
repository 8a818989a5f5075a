/-
What enters the table is signed.

A call that changes the table has had every section of its message verified: the
first one from byte 0 up to its signature, each further one over its revocation
list; and each list that it installs is read from within the range that was
verified for it (`Authenticated`).

The installed state is moreover a function of the verified bytes: two calls on the
same table that accept messages with equal verified ranges leave equal tables,
whatever the other bytes are.
-/
import Hdcp.Srm.Table

namespace Hdcp.Srm

open Library
open Library.Prog (Post exec)

variable {buf buf' : Mem}

/-! ### Authenticated tables -/

/-- The signature of the range of the call follows the range. -/
structure SignatureCall.Closes (c : SignatureCall) : Prop where
  ret : c.ret = .success
  r : c.r = u32 (c.msg + c.msgLen)
  s : c.s = u32 (c.r + dsaSigLength)

/-- The table `t'` comes from a message at `buf` whose sections were verified by the
calls: the first one from byte 0 on, with the header and the list of the first
generation, each further one on its list. -/
def Authenticated (buf : Mem) (t' : SrmTable) (calls : List SignatureCall) : Prop :=
  ∃ first rest vrl ls, calls = first :: rest ∧ t'.revocationListsByGeneration = vrl :: ls ∧
    (∀ c ∈ calls, c.Closes) ∧ first.msg = 0 ∧
    (∃ len, 8 + len ≤ first.msgLen ∧ vrl = vrlOf buf 8 len) ∧
    t'.version = (headerOf buf).version ∧ t'.generation = (headerOf buf).generation ∧
    List.Forall₂ (fun c vrl => vrl = vrlOf buf c.msg c.msgLen) rest ls

lemma sectionCall_closes (buf : Mem) (s : ℕ) : (sectionCall buf s).Closes := ⟨rfl, rfl, rfl⟩

lemma gen1Call_closes (h : 43 ≤ gen1Length buf) : (gen1Call buf).Closes := by
  have hlt := gen1Length_lt buf
  refine ⟨rfl, ?_, ?_⟩
  · simp only [gen1Call]
    rw [u32_of_lt (by omega)]
    omega
  · simp only [gen1Call, dsaSigLength]
    rw [u32_of_lt (by omega)]
    omega

/-- A call that changes the table installs an authenticated one. -/
lemma Returns.authenticated {ω : SrmOracle} {t t' : SrmTable} {length : ℕ} {ret : Errno}
    {l : List (Event srmSig)} (h : Returns buf ω t length ret t' l) (hne : t' ≠ t) :
    Authenticated buf t' (signatureCalls l) := by
  obtain rfl : ret = .success := by
    by_contra hret
    exact hne (h.failure hret)
  obtain ⟨hok, ss, _, rfl, hcalls⟩ := h.success
  have hmin := hok.min
  refine ⟨gen1Call buf, ss.map (sectionCall buf), gen1Vrl buf, ss.map (sectionVrl buf), hcalls,
    rfl, ?_, rfl, ⟨u16 (gen1Length buf - 43), ?_, rfl⟩, rfl, rfl, ?_⟩
  · rw [hcalls]
    intro c hc
    rcases List.mem_cons.1 hc with rfl | hc
    · exact gen1Call_closes hmin
    · obtain ⟨s, _, rfl⟩ := List.mem_map.1 hc
      exact sectionCall_closes buf s
  · have hle : u16 (gen1Length buf - 43) ≤ gen1Length buf - 43 := Nat.mod_le _ _
    simp only [gen1Call]
    omega
  · rw [List.forall₂_map_left_iff, List.forall₂_map_right_iff, List.forall₂_same]
    intro s _
    rfl

/-! ### Two runs -/

/-- The bytes that the call had verified. -/
def verifiedRanges (buf : Mem) (l : List (Event srmSig)) : List (List UInt8) :=
  (signatureCalls l).map fun c => slice buf c.msg c.msgLen

/-- A list that fits is determined by its bytes. -/
lemma vrlOf_congr {off off' len len' : ℕ} (hfits : VrlFits buf off len)
    (hslice : slice buf off len = slice buf' off' len') :
    vrlOf buf off len = vrlOf buf' off' len' := by
  obtain ⟨rfl, hbytes⟩ := slice_eq_iff.1 hslice
  rcases hfits with rfl | hlen
  · rfl
  · have hcount : ksvCount buf off = ksvCount buf' off' := by
      have hfirst := hbytes 0 (by omega)
      rw [ksvCount, ksvCount]
      simpa using congrArg (fun b => b.toNat &&& 0x7f) hfirst
    have hksvs : slice buf (off + 1) (ksvCount buf off * 5) =
        slice buf' (off' + 1) (ksvCount buf off * 5) :=
      slice_congr_of_slice hslice (by omega)
    rw [vrlOf, vrlOf, if_neg (by omega), if_neg (by omega), ← hcount, hksvs]

/-- The further lists are determined by the ranges that were verified for them. -/
lemma sectionVrls_congr {length : ℕ} {ss : List ℕ} (hok : ∀ s ∈ ss, SectionOk buf length s) :
    ∀ {ss' : List ℕ},
      (ss.map (sectionCall buf)).map (fun c => slice buf c.msg c.msgLen) =
        (ss'.map (sectionCall buf')).map (fun c => slice buf' c.msg c.msgLen) →
      ss.map (sectionVrl buf) = ss'.map (sectionVrl buf') := by
  induction ss with
  | nil =>
      intro ss' h
      obtain rfl : ss' = [] := by simpa using h.symm
      rfl
  | cons s ss ih =>
      rintro (_ | ⟨s', ss'⟩) h
      · exact absurd h (by simp)
      · rw [List.map_cons, List.map_cons, List.map_cons, List.map_cons] at h
        obtain ⟨hs, hss⟩ := List.cons.inj h
        have hvrl : sectionVrl buf s = sectionVrl buf' s' :=
          vrlOf_congr (hok s List.mem_cons_self).vrl hs
        rw [List.map_cons, List.map_cons, hvrl,
          ih (fun s hs => hok s (List.mem_cons_of_mem _ hs)) hss]

/-- The header and the list of the first generation are determined by the first range. -/
lemma gen1_congr {version length : ℕ} (hok : Gen1Ok buf version length)
    (hmin : 43 ≤ gen1Length buf')
    (hslice : slice buf 0 (gen1Length buf - 35) = slice buf' 0 (gen1Length buf' - 35)) :
    headerOf buf = headerOf buf' ∧ gen1Vrl buf = gen1Vrl buf' := by
  have hmin' := hok.min
  obtain ⟨hlen, hbytes⟩ := slice_eq_iff.1 hslice
  have hbyte (i : ℕ) (hi : i < 8) : buf i = buf' i := by
    have := hbytes i (by omega)
    rwa [Nat.zero_add] at this
  constructor
  · rw [headerOf, headerOf, hbyte 0 (by omega), hbyte 2 (by omega), hbyte 3 (by omega),
      hbyte 4 (by omega)]
  · have hle : u16 (gen1Length buf - 43) ≤ gen1Length buf - 43 := Nat.mod_le _ _
    have hlist : slice buf 8 (u16 (gen1Length buf - 43)) =
        slice buf' 8 (u16 (gen1Length buf - 43)) := by
      rw [← hlen] at hslice
      have := slice_congr_of_slice hslice (k := 8) (n := u16 (gen1Length buf - 43)) (by omega)
      rwa [Nat.zero_add] at this
    rw [gen1Vrl, gen1Vrl, show gen1Length buf' = gen1Length buf by omega]
    exact vrlOf_congr hok.vrl hlist

/-- Only authenticated data enters the table, and nothing else has an influence on it. -/
theorem only_authenticated_data_enters (t : SrmTable) :
    (∀ (buf : Mem) (ω : SrmOracle) (length : ℕ) (ret : Errno) (t' : SrmTable)
        (l : List (Event srmSig)), Returns buf ω t length ret t' l → t' ≠ t →
        Authenticated buf t' (signatureCalls l)) ∧
    (∀ (buf buf' : Mem) (ω ω' : SrmOracle) (length length' : ℕ) (t₁ t₂ : SrmTable)
        (l l' : List (Event srmSig)), Returns buf ω t length .success t₁ l →
        Returns buf' ω' t length' .success t₂ l' →
        verifiedRanges buf l = verifiedRanges buf' l' → t₁ = t₂) := by
  refine ⟨fun buf ω length ret t' l h hne => h.authenticated hne, ?_⟩
  rintro buf buf' ω ω' length length' t₁ t₂ l l' h₁ h₂ hranges
  obtain ⟨hok, ss, hwalk, rfl, hcalls⟩ := h₁.success
  obtain ⟨hok', ss', _, rfl, hcalls'⟩ := h₂.success
  rw [verifiedRanges, verifiedRanges, hcalls, hcalls', List.map_cons, List.map_cons] at hranges
  obtain ⟨hfirst, hrest⟩ := List.cons.inj hranges
  obtain ⟨hheader, hvrl⟩ := gen1_congr hok hok'.min hfirst
  rw [SrmTable.install, SrmTable.install, hheader, hvrl,
    sectionVrls_congr hwalk.sectionOk hrest]

end Hdcp.Srm
