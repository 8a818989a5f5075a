/-
The SRM format.

A message is a header, a first section and a list of further sections, each with a
revocation list and the two halves of its signature.  `SrmMessage.encode` lays it
out as the comments of the source describe, and `SrmMessage.lists` are the
revocation lists that it carries.

The parser takes an encoded message back apart (`walk_of_sections`), except that it
never accepts the last of the further sections: it adds the section length to an
offset that is already behind the length field, so that it asks for two bytes more
than the section has (`not_walk_of_sections`).  The check lets such a message pass
only when the sum wraps around, at the two largest lengths of a `uint32_t`.
-/
import Mathlib.Data.Fin.VecNotation
import Hdcp.Srm.Table

namespace Hdcp.Srm

open Library

/-! ### Messages -/

/-- What a section says about revoked devices: nothing at all, or at most 127 KSVs. -/
inductive VrlData where
  | empty
  | ksvs (l : List Ksv) (h : l.length ≤ 127)

def VrlData.encode : VrlData → List UInt8
  | empty => []
  | ksvs l _ => UInt8.ofNat l.length :: l.flatMap List.ofFn

/-- The revocation list that stands for the data. -/
def VrlData.decoded : VrlData → VectorRevocationList
  | empty => ⟨true, 0, none⟩
  | ksvs l _ => ⟨true, l.length, some (l.flatMap List.ofFn)⟩

/-- Half of a signature. -/
abbrev SignatureHalf : Type := {bytes : List UInt8 // bytes.length = 20}

structure SrmSection where
  vrl : VrlData
  r : SignatureHalf
  s : SignatureHalf

/-- The revocation list and the signature of a section. -/
def SrmSection.body (x : SrmSection) : List UInt8 := x.vrl.encode ++ (x.r.1 ++ x.s.1)

/-- A further section; its length field counts itself. -/
def SrmSection.encode (x : SrmSection) : List UInt8 :=
  beBytes16 (2 + x.vrl.encode.length + 40) ++ x.body

structure SrmMessage where
  reservedBits : Fin 16
  reserved : UInt8
  version : UInt16
  generation : UInt8
  first : SrmSection
  further : List SrmSection

def SrmMessage.encode (m : SrmMessage) : List UInt8 :=
  [UInt8.ofNat (0x80 + m.reservedBits), m.reserved] ++ beBytes16 m.version.toNat ++
    [m.generation] ++ beBytes24 (3 + m.first.vrl.encode.length + 40) ++ m.first.body ++
    m.further.flatMap SrmSection.encode

def SrmMessage.lists (m : SrmMessage) : List VectorRevocationList :=
  m.first.vrl.decoded :: m.further.map fun x => x.vrl.decoded

/-- The table with the contents of the message. -/
def SrmTable.withMessage (t : SrmTable) (m : SrmMessage) : SrmTable :=
  { t with
    version := m.version.toNat
    generation := m.generation.toNat
    revocationListsByGeneration := m.lists }

/-! ### Revocation lists -/

lemma length_flatMap_ofFn (l : List Ksv) : (l.flatMap List.ofFn).length = 5 * l.length := by
  induction l with
  | nil => rfl
  | cons k l ih =>
      simp only [List.flatMap_cons, List.length_append, List.length_ofFn, ih, List.length_cons,
        ksvSize]
      omega

lemma VrlData.length_encode_le (v : VrlData) : v.encode.length ≤ 636 := by
  cases v with
  | empty => exact Nat.zero_le _
  | ksvs l h =>
      simp only [encode, List.length_cons, length_flatMap_ofFn]
      omega

/-- The constructor of a revocation list takes encoded data back apart. -/
lemma vrlOf_of_holds {buf : Mem} {off : ℕ} {v : VrlData} (h : Holds buf off v.encode) :
    VrlFits buf off v.encode.length ∧ vrlOf buf off v.encode.length = v.decoded := by
  cases v with
  | empty => exact ⟨Or.inl rfl, rfl⟩
  | ksvs l hl =>
      obtain ⟨hcount, hksvs⟩ := holds_cons.1 h
      have hlen : (VrlData.ksvs l hl).encode.length = l.length * 5 + 1 := by
        simp only [VrlData.encode, List.length_cons, length_flatMap_ofFn, Nat.mul_comm]
      have hksvCount : ksvCount buf off = l.length := by
        rw [ksvCount, hcount, UInt8.toNat_ofNat', Nat.and_two_pow_sub_one_eq_mod _ 7]
        omega
      have hslice : slice buf (off + 1) (l.length * 5) = l.flatMap List.ofFn := by
        rw [Holds, length_flatMap_ofFn, Nat.mul_comm] at hksvs
        exact hksvs
      rw [hlen]
      refine ⟨Or.inr (by rw [hksvCount]), ?_⟩
      rw [vrlOf, if_neg (by omega), hksvCount, hslice]
      rfl

/-! ### Sections -/

@[simp] lemma SrmSection.length_body (x : SrmSection) :
    x.body.length = x.vrl.encode.length + 40 := by
  simp [body, x.r.2, x.s.2]

@[simp] lemma SrmSection.length_encode (x : SrmSection) :
    x.encode.length = 42 + x.vrl.encode.length := by
  simp only [encode, List.length_append, length_beBytes16, length_body]
  omega

/-- What the parser reads where an encoded section begins. -/
lemma section_of_holds {buf : Mem} {s : ℕ} {x : SrmSection} (h : Holds buf s x.encode)
    (hs : s + x.encode.length < 2 ^ 32) :
    sectionLength buf s = x.encode.length ∧ VrlFits buf (s + 2) (x.encode.length - 42) ∧
      sectionVrl buf s = x.vrl.decoded := by
  have hv := x.vrl.length_encode_le
  rw [SrmSection.length_encode] at hs
  rw [SrmSection.encode, holds_append] at h
  have hlen : sectionLength buf s = x.encode.length := by
    rw [sectionLength, u32_of_lt (by omega), SrmSection.length_encode]
    exact (be16_of_holds h.1 (by omega)).trans (by omega)
  have hbody : Holds buf (s + 2) x.vrl.encode := (holds_append.1 h.2).1
  obtain ⟨hfits, hdecoded⟩ := vrlOf_of_holds hbody
  have hvrl : x.encode.length - 42 = x.vrl.encode.length := by
    rw [SrmSection.length_encode]
    omega
  refine ⟨hlen, by rwa [hvrl], ?_⟩
  rw [sectionVrl, hlen, u32_of_lt (by omega), Nat.sub_sub, hvrl]
  exact hdecoded

/-- An encoded section passes the checks of the parser when two bytes follow it, or
when the sum in the check wraps around. -/
lemma sectionOk_of_holds {buf : Mem} {s length : ℕ} {x : SrmSection}
    (h : Holds buf s x.encode) (hs : s + x.encode.length < 2 ^ 32)
    (hlength : s + x.encode.length ≤ length)
    (hroom : u32 (s + x.encode.length + 2) ≤ length) : SectionOk buf length s := by
  obtain ⟨hlen, hfits, _⟩ := section_of_holds h hs
  have hlong : 42 ≤ x.encode.length := by simp
  have htwo : u32 (s + 2) = s + 2 := u32_of_lt (by omega)
  refine ⟨by omega, by omega, ?_, by omega, ?_⟩
  · rw [htwo, hlen, show s + 2 + x.encode.length = s + x.encode.length + 2 by omega]
    exact hroom
  · rw [htwo, hlen, Nat.sub_sub]
    exact hfits

lemma sectionNext_of_holds {buf : Mem} {s : ℕ} {x : SrmSection} (h : Holds buf s x.encode)
    (hs : s + x.encode.length < 2 ^ 32) : sectionNext buf s = s + x.encode.length := by
  obtain ⟨hlen, _, _⟩ := section_of_holds h hs
  have hlong : 42 ≤ x.encode.length := by simp
  rw [sectionNext_eq (by omega), hlen, u32_of_lt hs]

/-- Nothing follows a section, or at least another section does. -/
lemma length_sections (secs : List SrmSection) :
    (secs.flatMap SrmSection.encode).length = 0 ∨
      42 ≤ (secs.flatMap SrmSection.encode).length := by
  cases secs with
  | nil => exact Or.inl rfl
  | cons x secs =>
      rw [List.flatMap_cons, List.length_append, SrmSection.length_encode]
      exact Or.inr (by omega)

/-- The loop walks over encoded sections up to the end of the message, when there are
none or when the check of the last one wraps around. -/
lemma walk_of_sections {buf : Mem} {length : ℕ} (hlength : length < 2 ^ 32)
    (secs : List SrmSection) :
    ∀ s, Holds buf s (secs.flatMap SrmSection.encode) →
      s + (secs.flatMap SrmSection.encode).length = length →
      (secs ≠ [] → 2 ^ 32 ≤ length + 2) →
      ∃ ss, Walk buf length s ss ∧
        ss.map (sectionVrl buf) = secs.map fun x => x.vrl.decoded := by
  induction secs with
  | nil =>
      intro s _ hs _
      exact ⟨[], .done (by simpa using hs.ge), rfl⟩
  | cons x secs ih =>
      intro s h hs hwrap
      rw [List.flatMap_cons] at h hs
      rw [List.length_append] at hs
      obtain ⟨hx, hrest⟩ := holds_append.1 h
      have hin : s + x.encode.length < 2 ^ 32 := by omega
      obtain ⟨ss, hwalk, hmap⟩ := ih (s + x.encode.length) hrest (by omega)
        fun _ => hwrap (by simp)
      have htail := length_sections secs
      have hroom : u32 (s + x.encode.length + 2) ≤ length := by
        have hlast := hwrap (by simp)
        rw [u32]
        omega
      refine ⟨s :: ss, .step (sectionOk_of_holds hx hin (by omega) hroom) ?_, ?_⟩
      · rwa [sectionNext_of_holds hx hin]
      · simp [(section_of_holds hx hin).2.2, hmap]

/-- The loop does not reach the end of a message that ends with an encoded section,
when the check of that section does not wrap around. -/
lemma not_walk_of_sections {buf : Mem} {length : ℕ} (hlength : length + 2 < 2 ^ 32)
    (secs : List SrmSection) :
    ∀ s, Holds buf s (secs.flatMap SrmSection.encode) →
      s + (secs.flatMap SrmSection.encode).length = length → secs ≠ [] →
      ¬ ∃ ss, Walk buf length s ss := by
  induction secs with
  | nil =>
      intro s _ _ hne
      exact absurd rfl hne
  | cons x secs ih =>
      rintro s h hs - ⟨ss, hwalk⟩
      rw [List.flatMap_cons] at h hs
      rw [List.length_append] at hs
      obtain ⟨hx, hrest⟩ := holds_append.1 h
      have hin : s + x.encode.length < 2 ^ 32 := by omega
      have hlong : 42 ≤ x.encode.length := by simp
      obtain ⟨hlen, _, _⟩ := section_of_holds hx hin
      cases hwalk with
      | done hend => omega
      | step hok hwalk =>
          rw [sectionNext_of_holds hx hin] at hwalk
          rcases List.eq_nil_or_concat' secs with rfl | hne
          · -- the last section: its end is the end of the message
            have hfits := hok.fits
            rw [List.flatMap_nil, List.length_nil] at hs
            have htwo : u32 (s + 2) = s + 2 := u32_of_lt (by omega)
            rw [hlen, htwo, u32_of_lt (by omega)] at hfits
            omega
          · refine ih _ hrest (by omega) ?_ ⟨_, hwalk⟩
            obtain ⟨init, last, rfl⟩ := hne
            simp

/-! ### The message as a whole -/

lemma SrmMessage.length_encode (m : SrmMessage) :
    m.encode.length = 48 + m.first.vrl.encode.length +
      (m.further.flatMap SrmSection.encode).length := by
  simp only [encode, List.length_append, length_beBytes16, length_beBytes24, List.length_cons,
    List.length_nil, SrmSection.length_body]
  omega

/-- What the parser reads from an encoded message before it enters the loop. -/
lemma gen1_of_holds {buf : Mem} {m : SrmMessage} (h : Holds buf 0 m.encode) :
    headerOf buf = ⟨0x8, m.version.toNat, m.generation.toNat⟩ ∧
      gen1Length buf = 43 + m.first.vrl.encode.length ∧
      VrlFits buf 8 m.first.vrl.encode.length ∧ gen1Vrl buf = m.first.vrl.decoded ∧
      Holds buf (48 + m.first.vrl.encode.length) (m.further.flatMap SrmSection.encode) := by
  have hv := m.first.vrl.length_encode_le
  have hid : m.reservedBits.1 < 16 := m.reservedBits.2
  simp only [SrmMessage.encode, SrmSection.body, holds_append, List.length_append,
    length_beBytes16, length_beBytes24, List.length_cons, List.length_nil, m.first.r.2,
    m.first.s.2, holds_cons, holds_nil, and_true, Nat.zero_add, Nat.reduceAdd] at h
  obtain ⟨⟨⟨⟨⟨⟨h₀, _⟩, hver⟩, hgen⟩, hlen⟩, hvrl, _⟩, hrest⟩ := h
  have hgen1 : gen1Length buf = 43 + m.first.vrl.encode.length := by
    rw [gen1Length, be24_of_holds hlen (by omega)]
    omega
  obtain ⟨hfits, hdecoded⟩ := vrlOf_of_holds hvrl
  refine ⟨?_, hgen1, hfits, ?_, ?_⟩
  · have hbe : (buf 2).toNat <<< 8 ||| (buf 3).toNat = be16 buf 2 := rfl
    rw [headerOf, h₀, hgen, Nat.or_comm, hbe, be16_of_holds hver m.version.toNat_lt,
      UInt8.toNat_ofNat', Nat.shiftRight_eq_div_pow]
    congr 1
    omega
  · rw [gen1Vrl, hgen1, Nat.add_sub_cancel_left, u16_of_lt (by omega), hdecoded]
  · rwa [show 48 + m.first.vrl.encode.length = 8 + (m.first.vrl.encode.length + (20 + 20)) by
      omega]

/-- A table of a version that is not newer than the message accepts its first
section. -/
lemma gen1Ok_of_holds {buf : Mem} {m : SrmMessage} {version : ℕ} (h : Holds buf 0 m.encode)
    (hversion : version ≤ m.version.toNat) : Gen1Ok buf version m.encode.length := by
  have hv := m.first.vrl.length_encode_le
  obtain ⟨hheader, hlen, hfits, _, _⟩ := gen1_of_holds h
  refine ⟨by rw [hheader], by rwa [hheader], ?_, by omega, ?_⟩
  · rw [m.length_encode]
    omega
  · rwa [hlen, Nat.add_sub_cancel_left, u16_of_lt (by omega)]

/-- What an accepted message leaves in the table. -/
lemma install_of_holds {buf : Mem} {m : SrmMessage} (h : Holds buf 0 m.encode) (t : SrmTable)
    {ss : List ℕ} (hss : ss.map (sectionVrl buf) = m.further.map fun x => x.vrl.decoded) :
    t.install buf ss = t.withMessage m := by
  obtain ⟨hheader, _, _, hvrl, _⟩ := gen1_of_holds h
  rw [SrmTable.install, hheader, hvrl, hss]
  rfl

/-- An encoded message has a walk exactly when it has no further sections or when the
check of its last section wraps around. -/
lemma walk_message_iff {buf : Mem} {m : SrmMessage} (h : Holds buf 0 m.encode) :
    (∃ ss, Walk buf m.encode.length (5 + gen1Length buf) ss ∧
        ss.map (sectionVrl buf) = m.further.map fun x => x.vrl.decoded) ↔
      m.further = [] ∨ m.encode.length = 2 ^ 32 - 2 ∨ m.encode.length = 2 ^ 32 - 1 := by
  have hv := m.first.vrl.length_encode_le
  have hlen := m.length_encode
  obtain ⟨_, hgen1, _, _, hrest⟩ := gen1_of_holds h
  rw [show 5 + gen1Length buf = 48 + m.first.vrl.encode.length by omega]
  constructor
  · rintro ⟨ss, hwalk, _⟩
    have hshort := hwalk.length_lt (by omega)
    by_contra hcon
    simp only [not_or] at hcon
    exact not_walk_of_sections (by omega) m.further _ hrest (by omega) hcon.1 ⟨ss, hwalk⟩
  · rintro (hnil | hwrap)
    · refine walk_of_sections ?_ m.further _ hrest (by omega) fun hne => absurd hnil hne
      rw [hnil, List.flatMap_nil, List.length_nil] at hlen
      omega
    · exact walk_of_sections (by omega) m.further _ hrest (by omega) fun _ => by omega

/-- Decoding undoes encoding exactly for the messages without further sections and for
those of the two largest lengths. -/
theorem returns_encode_iff {ω : SrmOracle} (hω : Accepting ω) (m : SrmMessage) (t : SrmTable)
    (hversion : t.version ≤ m.version.toNat) {buf : Mem} (hbuf : Holds buf 0 m.encode) :
    (∃ l, Returns buf ω t m.encode.length .success (t.withMessage m) l) ↔
      m.further = [] ∨ m.encode.length = 2 ^ 32 - 2 ∨ m.encode.length = 2 ^ 32 - 1 := by
  rw [← walk_message_iff hbuf]
  constructor
  · rintro ⟨l, hret⟩
    obtain ⟨_, ss, hwalk, htable, _⟩ := hret.success
    refine ⟨ss, hwalk, ?_⟩
    have hlists := congrArg SrmTable.revocationListsByGeneration htable
    exact (List.cons.inj hlists).2.symm
  · rintro ⟨ss, hwalk, hss⟩
    obtain ⟨l, hret⟩ := returns_of_walk hω (gen1Ok_of_holds hbuf hversion) hwalk
    rw [install_of_holds hbuf t hss] at hret
    exact ⟨l, hret⟩

/-- A message with one KSV in the first section and one further, empty section. -/
def twoGenerations : SrmMessage where
  reservedBits := 0
  reserved := 0
  version := 1
  generation := 2
  first := ⟨.ksvs [![1, 2, 3, 4, 5]] (by decide), ⟨List.replicate 20 0, by decide⟩,
    ⟨List.replicate 20 0, by decide⟩⟩
  further := [⟨.empty, ⟨List.replicate 20 0, by decide⟩, ⟨List.replicate 20 0, by decide⟩⟩]

/-- Decoding does not undo encoding: a well-formed message of two generations is
refused. -/
theorem twoGenerations_not_decoded :
    ¬ ∀ (ω : SrmOracle) (m : SrmMessage) (t : SrmTable) (buf : Mem), Accepting ω →
      t.version ≤ m.version.toNat → Holds buf 0 m.encode →
        ∃ l, Returns buf ω t m.encode.length .success (t.withMessage m) l := by
  intro hall
  obtain ⟨l, hret⟩ := hall acceptAll twoGenerations ⟨0, 0, false, []⟩ (memOf twoGenerations.encode)
    acceptAll_accepting (by decide) (holds_memOf _)
  obtain ⟨_, ss, hwalk, htable, _⟩ := hret.success
  have hlists := congrArg SrmTable.revocationListsByGeneration htable
  have hmessage := (walk_message_iff (holds_memOf twoGenerations.encode)).1
    ⟨ss, hwalk, (List.cons.inj hlists).2.symm⟩
  exact absurd hmessage (by decide)

/-- Its first generation alone. -/
def oneGeneration : SrmMessage := { twoGenerations with further := [] }

theorem returns_encode_iff_oneGeneration :
    (∃ l, Returns (memOf oneGeneration.encode) acceptAll ⟨0, 0, false, []⟩
        oneGeneration.encode.length .success
        (SrmTable.withMessage ⟨0, 0, false, []⟩ oneGeneration) l) ↔
      oneGeneration.further = [] ∨ oneGeneration.encode.length = 2 ^ 32 - 2 ∨
        oneGeneration.encode.length = 2 ^ 32 - 1 :=
  returns_encode_iff acceptAll_accepting oneGeneration ⟨0, 0, false, []⟩ (by decide)
    (holds_memOf _)

end Hdcp.Srm
