/-
The reads of the parser.

A call is safe when each interaction that it makes stays within the message, each
unsigned difference that it uses is one, and its loop comes to an end (`Safe`).

The parser is safe on every message of 8 bytes or more, up to the lengths at which
its `uint32_t` offsets can wrap around.  On a shorter message it reads the header
all the same, since the check of the length only assigns the return code; it is
safe there only when the header is complete and refused.  For each larger length
there is a message that makes it read or run past all bounds.
-/
import Hdcp.Srm.Table

namespace Hdcp.Srm

open Library
open Library.Prog (iter Post exec)

variable {buf : Mem} {ω : SrmOracle} {length : ℕ}

/-- Every interaction of the call stays in bounds, and the call returns. -/
def Safe (buf : Mem) (ω : SrmOracle) (t : SrmTable) (length : ℕ) : Prop :=
  (∀ fuel, LogInBounds length
      (exec (srmHandler buf ω) (t.retrieveSrmFromBuffer fuel length) 0).log) ∧
    ∃ fuel, (exec (srmHandler buf ω) (t.retrieveSrmFromBuffer fuel length) 0).val ≠ none

/-! ### Short messages -/

/-- The header alone makes the parser return an error. -/
def HeaderRefused (buf : Mem) (version : ℕ) : Prop :=
  (headerOf buf).srmId ≠ srmHeaderId ∨ (headerOf buf).version < version

instance (buf : Mem) (version : ℕ) : Decidable (HeaderRefused buf version) :=
  inferInstanceAs (Decidable (_ ∨ _))

/-- The reads of the header. -/
def headerReads (buf : Mem) : List (Event srmSig) :=
  [⟨.read 0, buf 0⟩, ⟨.read 3, buf 3⟩, ⟨.read 2, buf 2⟩, ⟨.read 4, buf 4⟩]

/-- The reads of the length of the first generation. -/
def gen1LengthReads (buf : Mem) : List (Event srmSig) :=
  [⟨.read 5, buf 5⟩, ⟨.read 6, buf 6⟩, ⟨.read 7, buf 7⟩]

/-- Whatever the length of the message, the parser reads the header, and unless it
refuses the header it reads the length of the first generation. -/
lemma parseSrm_reads (fuel version length n : ℕ) :
    Post (srmHandler buf ω) (parseSrm fuel version length) n fun r l _ =>
      (HeaderRefused buf version → l = headerReads buf ∧ r ≠ none) ∧
      (¬ HeaderRefused buf version → headerReads buf ++ gen1LengthReads buf <+: l) := by
  rw [parseSrm, post_readHeader]
  by_cases hid : (headerOf buf).srmId ≠ srmHeaderId
  · rw [if_pos hid]
    exact ⟨fun _ => ⟨rfl, by simp⟩, fun hnot => absurd (Or.inl hid) hnot⟩
  · rw [if_neg hid]
    by_cases hold : (headerOf buf).version < version
    · rw [if_pos hold]
      exact ⟨fun _ => ⟨rfl, by simp⟩, fun hnot => absurd (Or.inr hold) hnot⟩
    · rw [if_neg hold]
      simp only [post_read]
      refine ⟨fun hrefused => absurd hrefused (by simp [HeaderRefused, hid, hold]), fun _ => ?_⟩
      exact List.prefix_append _ _

lemma retrieve_reads (t : SrmTable) (fuel length n : ℕ) :
    Post (srmHandler buf ω) (t.retrieveSrmFromBuffer fuel length) n fun r l _ =>
      (HeaderRefused buf t.version → l = headerReads buf ∧ r ≠ none) ∧
      (¬ HeaderRefused buf t.version → headerReads buf ++ gen1LengthReads buf <+: l) := by
  rw [SrmTable.retrieveSrmFromBuffer]
  refine Post.bind (parseSrm_reads fuel t.version length n) ?_
  rintro r l s' ⟨hrefused, hread⟩
  rcases r with _ | e | ⟨hdr, ls⟩
  · exact ⟨fun h => absurd rfl (hrefused h).2, fun h => by simpa using hread h⟩
  · exact ⟨fun h => ⟨by simpa using (hrefused h).1, by simp⟩, fun h => by simpa using hread h⟩
  · exact ⟨fun h => ⟨by simpa using (hrefused h).1, by simp⟩, fun h => by simpa using hread h⟩

/-- On a message that is too short for the header and the length of the first
generation, a call is safe only when the header is complete and refused. -/
lemma safe_iff_of_short {t : SrmTable} (hlength : length < 8) :
    Safe buf ω t length ↔ 5 ≤ length ∧ HeaderRefused buf t.version := by
  have hreads (fuel : ℕ) : _ := @retrieve_reads buf ω t fuel length 0
  constructor
  · rintro ⟨hlog, _⟩
    have hlog₀ := hlog 0
    by_cases hrefused : HeaderRefused buf t.version
    · rw [((hreads 0).1 hrefused).1] at hlog₀
      have hfour : InBounds length (.read 4) := hlog₀ ⟨.read 4, buf 4⟩ (by simp [headerReads])
      exact ⟨hfour, hrefused⟩
    · have hmem : (⟨.read 7, buf 7⟩ : Event srmSig) ∈ headerReads buf ++ gen1LengthReads buf := by
        simp [gen1LengthReads]
      have hseven : InBounds length (.read 7) :=
        hlog₀ _ (((hreads 0).2 hrefused).subset hmem)
      exact absurd hseven (by simp only [InBounds]; omega)
  · rintro ⟨hfive, hrefused⟩
    refine ⟨fun fuel => ?_, 0, ((hreads 0).1 hrefused).2⟩
    rw [((hreads fuel).1 hrefused).1]
    simp only [headerReads, logInBounds_cons, InBounds, logInBounds_nil, and_true]
    omega

/-- Below the wrap-around a call on a message of 8 bytes or more is safe. -/
lemma safe_of_le {t : SrmTable} (h8 : 8 ≤ length) (hB : length + 2 ^ 16 ≤ 2 ^ 32) :
    Safe buf ω t length := by
  have hspec (fuel : ℕ) : RetrieveSpec buf ω t fuel length
      (exec (srmHandler buf ω) (t.retrieveSrmFromBuffer fuel length) 0).val
      (exec (srmHandler buf ω) (t.retrieveSrmFromBuffer fuel length) 0).log :=
    retrieve_post t fuel length
  exact ⟨fun fuel => (hspec fuel).inBounds hB h8, length + 1,
    (hspec _).stops hB (Nat.lt_succ_self _)⟩

/-! ### Leaving the message -/

/-- A round that gets past the checks of the section length verifies the section. -/
lemma sectionRound_verifies {s n : ℕ} {lists : List VectorRevocationList} (hlt : s < length)
    (hhead : u32 (s + 2) ≤ length) (hfits : u32 (u32 (s + 2) + sectionLength buf s) ≤ length)
    (hmin : 42 ≤ sectionLength buf s) :
    Post (srmHandler buf ω) (sectionRound length (s, lists)) n fun _ l _ =>
      ∃ e ∈ l, ∃ r r', e.op =
        .verifySignature (u32 (s + 2)) (sectionLength buf s - 2 - 40) r r' := by
  have hlen : (buf s).toNat <<< 8 ||| (buf (u32 (s + 1))).toNat = sectionLength buf s := rfl
  rw [sectionRound, if_neg (not_not.2 hlt), if_neg (by omega)]
  simp only [post_read, hlen, dsaSigLength, Nat.reduceMul, Nat.reduceAdd]
  rw [if_neg (by omega), if_neg (by omega)]
  simp only [post_useLength, post_verifySignature]
  refine Post.mono (Q := fun _ _ _ => True) trivial fun a l s' _ => ?_
  -- two reads and two differences come before the call
  exact ⟨_, .tail _ (.tail _ (.tail _ (.tail _ (.head _)))), _, _, rfl⟩

/-- From the section at `s` on, the loop leaves the bounds of the message. -/
def Overreads (buf : Mem) (ω : SrmOracle) (length s : ℕ) : Prop :=
  ∃ fuel, ∀ n lists, ¬ LogInBounds length
    (exec (srmHandler buf ω) (iter (sectionRound length) fuel (s, lists)) n).log

/-- A round that takes a section goes on with the next one. -/
lemma exec_sectionRound {s : ℕ} (hω : Accepting ω) (hok : SectionOk buf length s) (n : ℕ)
    (lists : List VectorRevocationList) : ∃ l n',
      exec (srmHandler buf ω) (sectionRound length (s, lists)) n =
        ⟨.inl (sectionNext buf s, lists ++ [sectionVrl buf s]), l, n'⟩ := by
  have hround : RoundSpec buf ω length s lists _ _ :=
    @sectionRound_post buf ω n length s lists
  have hval := hround.accepted hω hok
  rcases hexec : exec (srmHandler buf ω) (sectionRound length (s, lists)) n with ⟨r, l, n'⟩
  rw [hexec] at hval
  obtain rfl : r = .inl _ := hval
  exact ⟨l, n', rfl⟩

lemma overreads_of_next {s : ℕ} (hω : Accepting ω) (hok : SectionOk buf length s)
    (h : Overreads buf ω length (sectionNext buf s)) : Overreads buf ω length s := by
  obtain ⟨fuel, hlog⟩ := h
  refine ⟨fuel + 1, fun n lists hall => ?_⟩
  obtain ⟨l, n', hexec⟩ := exec_sectionRound hω hok n lists
  exact hlog n' (lists ++ [sectionVrl buf s]) fun e he => hall e (Prog.mem_log_iter hexec he)

/-- A section whose revocation list ends behind the message, although it passes the
check of its length. -/
lemma overreads_of_not_rangeIn {s : ℕ} (hlt : s < length) (hhead : u32 (s + 2) ≤ length)
    (hfits : u32 (u32 (s + 2) + sectionLength buf s) ≤ length) (hmin : 42 ≤ sectionLength buf s)
    (hout : ¬ RangeIn length (u32 (s + 2)) (sectionLength buf s - 2 - 40)) :
    Overreads buf ω length s := by
  refine ⟨1, fun n lists hall => ?_⟩
  rw [Prog.iter_succ, Prog.exec_bind] at hall
  obtain ⟨e, he, r, r', hop⟩ := @sectionRound_verifies buf ω length s n lists hlt hhead hfits hmin
  have hin := hall e (List.mem_append_left _ he)
  rw [hop] at hin
  exact hout hin.1

/-! ### Long messages -/

/-- A message of `n` revoked KSVs, followed by sections with empty lists up to the bytes
that `patch` puts there. -/
def longMessage (n : ℕ) (patch : ℕ → Option UInt8) : Mem := fun i =>
  match patch i with
  | some b => b
  | none =>
    if i = 0 then 0x80
    else if i = 7 then UInt8.ofNat (44 + 5 * n)
    else if i = 8 then UInt8.ofNat n
    else if 49 + 5 * n ≤ i ∧ (i - (49 + 5 * n)) % 42 = 1 then 42
    else 0

section LongMessage

variable {n : ℕ} {patch : ℕ → Option UInt8}

lemma longMessage_of_some {i : ℕ} {b : UInt8} (h : patch i = some b) :
    longMessage n patch i = b := by
  rw [longMessage, h]

lemma gen1_longMessage (hn : n ≤ 41) (hpatch : ∀ i ≤ 8, patch i = none)
    (hlength : 49 + 5 * n ≤ length) :
    gen1Length (longMessage n patch) = 44 + 5 * n ∧
      Gen1Ok (longMessage n patch) 0 length := by
  have hbyte (i : ℕ) (hi : i ≤ 8) : longMessage n patch i =
      if i = 0 then 0x80 else if i = 7 then UInt8.ofNat (44 + 5 * n)
        else if i = 8 then UInt8.ofNat n else 0 := by
    rw [longMessage, hpatch i hi, if_neg (show ¬ (49 + 5 * n ≤ i ∧ _) by omega)]
  have hlen : gen1Length (longMessage n patch) = 44 + 5 * n := by
    rw [gen1Length, be24_eq, hbyte 5 (by omega), hbyte 6 (by omega), hbyte 7 (by omega)]
    simp only [Nat.reduceEqDiff, if_false, if_true, UInt8.toNat_ofNat', UInt8.toNat_zero]
    omega
  have hcount : ksvCount (longMessage n patch) 8 = n := by
    rw [ksvCount, hbyte 8 le_rfl]
    simp only [Nat.reduceEqDiff, if_false, if_true, UInt8.toNat_ofNat']
    rw [Nat.and_two_pow_sub_one_eq_mod _ 7]
    omega
  refine ⟨hlen, ?_, Nat.zero_le _, by omega, by omega, Or.inr ?_⟩
  · simp only [headerOf, hbyte 0 (by omega), if_true]
    rfl
  · rw [hlen, hcount, u16_of_lt (by omega)]
    omega

lemma sectionLength_longMessage {i : ℕ} (hi : 49 + 5 * n + 42 * i + 1 < 2 ^ 32)
    (h₀ : patch (49 + 5 * n + 42 * i) = none) (h₁ : patch (49 + 5 * n + 42 * i + 1) = none) :
    sectionLength (longMessage n patch) (49 + 5 * n + 42 * i) = 42 := by
  have hhigh : longMessage n patch (49 + 5 * n + 42 * i) = 0 := by
    rw [longMessage, h₀]
    simp only
    rw [if_neg (by omega), if_neg (by omega), if_neg (by omega), if_neg (by omega)]
  have hlow : longMessage n patch (49 + 5 * n + 42 * i + 1) = 42 := by
    rw [longMessage, h₁]
    simp only
    rw [if_neg (by omega), if_neg (by omega), if_neg (by omega), if_pos (by omega)]
  rw [sectionLength, u32_of_lt hi, hhigh, hlow]
  rfl

end LongMessage

/-- A section with an empty list. -/
lemma sectionOk_of_empty {s : ℕ} (hlen : sectionLength buf s = 42) (hs : s + 44 ≤ length)
    (hwrap : s + 44 < 2 ^ 32) : SectionOk buf length s ∧ sectionNext buf s = s + 42 := by
  have htwo : u32 (s + 2) = s + 2 := u32_of_lt (by omega)
  refine ⟨⟨by omega, by omega, ?_, by omega, Or.inl (by omega)⟩, ?_⟩
  · rw [htwo, hlen, u32_of_lt (by omega)]
    omega
  · rw [sectionNext_eq (by omega), hlen, u32_of_lt (by omega)]

/-- A call that enters the loop is unsafe when the loop overreads. -/
lemma not_safe_of_overreads {t : SrmTable} (hω : Accepting ω)
    (hgen1 : Gen1Ok buf t.version length)
    (h : Overreads buf ω length (5 + gen1Length buf)) : ¬ Safe buf ω t length := by
  rintro ⟨hlog, _⟩
  obtain ⟨fuel, hout⟩ := h
  have hspec : RetrieveSpec buf ω t fuel length _ _ := @retrieve_post buf ω 0 t fuel length
  obtain ⟨n', hsub, _⟩ := hspec.entered hω hgen1
  exact hout n' [gen1Vrl buf] fun e he => hlog fuel e (hsub e he)

/-- A call that enters the loop is unsafe when the loop never ends. -/
lemma not_safe_of_endless {t : SrmTable} (hω : Accepting ω)
    (hgen1 : Gen1Ok buf t.version length) {C : ℕ → Prop} (hstart : C (5 + gen1Length buf))
    (hround : ∀ s, C s → SectionOk buf length s ∧ C (sectionNext buf s)) :
    ¬ Safe buf ω t length := by
  rintro ⟨_, fuel, hval⟩
  have hspec : RetrieveSpec buf ω t fuel length _ _ := @retrieve_post buf ω 0 t fuel length
  obtain ⟨n', _, hloop⟩ := hspec.entered hω hgen1
  refine hval (hloop.trans ?_)
  have hnone : (sectionLoop buf ω fuel length n').val = none := by
    refine Prog.exec_iter_none (I := fun b => C b.1) ?_ fuel _ n' hstart
    rintro ⟨s, lists⟩ n hs
    obtain ⟨l, n'', hexec⟩ := exec_sectionRound hω (hround s hs).1 n lists
    rw [Post, hexec]
    exact ⟨_, rfl, (hround s hs).2⟩
  rw [hnone]
  rfl

/-! ### Lengths close to the wrap-around -/

/-- The last two bytes of the message announce a section of 65535 bytes. -/
def patchEnd (length : ℕ) : ℕ → Option UInt8 := fun i =>
  if i = length - 2 ∨ i = length - 1 then some 0xff else none

lemma not_safe_of_wrap (h₁ : 2 ^ 32 < length + 2 ^ 16) (h₂ : length < 2 ^ 32) :
    ∃ buf, ¬ Safe buf acceptAll ⟨0, 0, false, []⟩ length := by
  -- `17` inverts the five bytes of a KSV modulo the 42 bytes of an empty section
  obtain ⟨n, k, hn, hend⟩ : ∃ n k, n ≤ 41 ∧ 49 + 5 * n + 42 * k + 2 = length := by
    refine ⟨17 * (length - 51) % 42, (length - 51 - 5 * (17 * (length - 51) % 42)) / 42, ?_, ?_⟩
    · omega
    · omega
  refine ⟨longMessage n (patchEnd length), ?_⟩
  have hnone (i : ℕ) (hi : i + 2 < length) : patchEnd length i = none :=
    if_neg (by omega)
  obtain ⟨hlen, hgen1⟩ : _ ∧ Gen1Ok _ 0 length :=
    gen1_longMessage hn (fun i hi => hnone i (by omega)) (by omega)
  refine not_safe_of_overreads acceptAll_accepting hgen1 ?_
  rw [hlen, show 5 + (44 + 5 * n) = 49 + 5 * n + 42 * 0 by omega]
  have hchain (j : ℕ) (hj : j ≤ k) :
      Overreads (longMessage n (patchEnd length)) acceptAll length (49 + 5 * n + 42 * j) := by
    induction hj using Nat.decreasingInduction with
    | self =>
        have htwo : u32 (49 + 5 * n + 42 * k + 2) = length := by rw [hend, u32_of_lt h₂]
        have hlast : sectionLength (longMessage n (patchEnd length)) (49 + 5 * n + 42 * k) =
            65535 := by
          have hhigh := longMessage_of_some (n := n)
            (show patchEnd length (49 + 5 * n + 42 * k) = some 0xff from if_pos (by omega))
          have hlow := longMessage_of_some (n := n)
            (show patchEnd length (49 + 5 * n + 42 * k + 1) = some 0xff from if_pos (by omega))
          rw [sectionLength, u32_of_lt (by omega), hhigh, hlow]
          rfl
        refine overreads_of_not_rangeIn (by omega) (by omega) ?_ (by omega) ?_
        · rw [htwo, hlast, u32]
          omega
        · rw [htwo, hlast, RangeIn]
          omega
    | of_succ j hj ih =>
        have hempty := sectionLength_longMessage (n := n) (i := j) (by omega)
          (hnone _ (by omega)) (hnone _ (by omega))
        obtain ⟨hok, hnext⟩ : SectionOk _ length _ ∧ _ :=
          sectionOk_of_empty hempty (by omega) (by omega)
        refine overreads_of_next acceptAll_accepting hok ?_
        rw [hnext]
        exact ih
  exact hchain 0 (Nat.zero_le k)

/-- The last section before the wrap-around has 88 bytes, nine KSVs among them, and ends
at the first one. -/
def patchWrap : ℕ → Option UInt8 := fun i =>
  if i = 2 ^ 32 - 38 then some 88 else if i = 2 ^ 32 - 37 then some 9 else none

/-- A message of 4 GiB or more whose sections form a cycle. -/
lemma not_safe_of_cycle (h : 2 ^ 32 ≤ length) :
    ∃ buf, ¬ Safe buf acceptAll ⟨0, 0, false, []⟩ length := by
  refine ⟨longMessage 0 patchWrap, ?_⟩
  have hnone (i : ℕ) (hi : i < 2 ^ 32 - 38) : patchWrap i = none := by
    rw [patchWrap, if_neg (by omega), if_neg (by omega)]
  obtain ⟨hlen, hgen1⟩ : _ ∧ Gen1Ok (longMessage 0 patchWrap) 0 length :=
    gen1_longMessage (by omega) (fun i hi => hnone i (by omega)) (by omega)
  refine not_safe_of_endless acceptAll_accepting hgen1
    (C := fun s => ∃ i ≤ 102261124, s = 49 + 5 * 0 + 42 * i) ⟨0, by omega, by rw [hlen]⟩ ?_
  rintro _ ⟨i, hi, rfl⟩
  rcases Nat.lt_or_ge i 102261124 with hlt | hge
  · have hempty := sectionLength_longMessage (n := 0) (i := i) (by omega)
      (hnone _ (by omega)) (hnone _ (by omega))
    obtain ⟨hok, hnext⟩ : SectionOk _ length _ ∧ _ :=
      sectionOk_of_empty hempty (by omega) (by omega)
    exact ⟨hok, i + 1, by omega, by rw [hnext]; omega⟩
  · obtain rfl : i = 102261124 := by omega
    have hlast : sectionLength (longMessage 0 patchWrap) 4294967257 = 88 := by
      have hlow : longMessage 0 patchWrap 4294967258 = 88 := longMessage_of_some rfl
      have hhigh : longMessage 0 patchWrap 4294967257 = 0 := by
        rw [longMessage, hnone _ (by omega)]
        rfl
      rw [sectionLength, u32_of_lt (by omega), hhigh, hlow]
      rfl
    have hcount : ksvCount (longMessage 0 patchWrap) 4294967259 = 9 := by
      have hbyte : longMessage 0 patchWrap 4294967259 = 9 := longMessage_of_some rfl
      rw [ksvCount, hbyte]
      rfl
    simp only [Nat.reduceMul, Nat.reduceAdd]
    have htwo : u32 (4294967257 + 2) = 4294967259 := rfl
    refine ⟨⟨by omega, by omega, ?_, by omega, Or.inr ?_⟩, 0, by omega, ?_⟩
    · rw [htwo, hlast, u32]
      omega
    · rw [htwo, hlast, hcount]
    · rw [sectionNext_eq (s := 4294967257) (by omega), hlast]
      rfl

/-- At a given length every call is safe exactly when the message has a complete header
with its length field and the offsets cannot wrap around.  Below the wrap-around, a
call on a shorter message is safe exactly when the header is complete and refused. -/
theorem safe_iff (length : ℕ) :
    ((∀ buf ω t, Safe buf ω t length) ↔ 8 ≤ length ∧ length + 2 ^ 16 ≤ 2 ^ 32) ∧
    (length + 2 ^ 16 ≤ 2 ^ 32 → ∀ buf ω t, (Safe buf ω t length ↔
      8 ≤ length ∨ (5 ≤ length ∧ HeaderRefused buf t.version))) := by
  have hbelow (hB : length + 2 ^ 16 ≤ 2 ^ 32) (buf : Mem) (ω : SrmOracle) (t : SrmTable) :
      Safe buf ω t length ↔ 8 ≤ length ∨ (5 ≤ length ∧ HeaderRefused buf t.version) := by
    rcases Nat.lt_or_ge length 8 with hshort | h8
    · rw [safe_iff_of_short hshort]
      exact ⟨Or.inr, fun h => h.resolve_left (by omega)⟩
    · exact iff_of_true (safe_of_le h8 hB) (Or.inl h8)
  refine ⟨⟨fun hall => ?_, fun ⟨h8, hB⟩ buf ω t => safe_of_le h8 hB⟩, hbelow⟩
  have hB : length + 2 ^ 16 ≤ 2 ^ 32 := by
    by_contra hlong
    rcases Nat.lt_or_ge length (2 ^ 32) with hlt | hge
    · obtain ⟨buf, hbuf⟩ := not_safe_of_wrap (by omega) hlt
      exact hbuf (hall buf _ _)
    · obtain ⟨buf, hbuf⟩ := not_safe_of_cycle hge
      exact hbuf (hall buf _ _)
  refine ⟨?_, hB⟩
  have haccepted : ¬ HeaderRefused (memOf [0x80]) (⟨0, 0, false, []⟩ : SrmTable).version := by
    decide
  have hsafe := (hbelow hB (memOf [0x80]) acceptAll ⟨0, 0, false, []⟩).1 (hall _ _ _)
  exact hsafe.resolve_right fun h => haccepted h.2

/-- The parser reads past the end of a message that is too short for a header. -/
theorem emptyMessage_not_safe :
    ¬ ∀ (buf : Mem) (length : ℕ) (ω : SrmOracle) (t : SrmTable), Safe buf ω t length := by
  intro hall
  have hsafe := (safe_iff_of_short (by decide)).1 (hall (memOf []) 0 acceptAll ⟨0, 0, false, []⟩)
  exact absurd hsafe.1 (by decide)

end Hdcp.Srm
