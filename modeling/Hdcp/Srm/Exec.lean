/-
Execution of the SRM parser.

One lemma for each function of the parser says everything that a call can do: the
constructor of a revocation list (`newVectorRevocationList_post`), a round of the
loop over the further generations (`sectionRound_post`), the loop
(`sectionLoop_post`) and the parser (`parseSrm_post`).  The claims about the
parser are read off these lemmas; nothing else unfolds the functions.

The layout that the parser reads from a message is described by functions of the
memory: `sectionLength`, `sectionNext` and the conditions `SectionOk` and
`Gen1Ok`, which are the checks of the source in the arithmetic of the source.
-/
import Hdcp.Srm.Model

namespace Hdcp.Srm

open Library
open Library.Prog (op iter Post exec)

variable {buf : Mem} {ω : SrmOracle} {α : Type} {n : ℕ}

/-! ### The calls -/

section Calls

variable {Q : α → List (Event srmSig) → ℕ → Prop}

@[simp] lemma post_read {i : ℕ} {f : UInt8 → SrmProg α} :
    Post (srmHandler buf ω) (read i >>= f) n Q ↔
      Post (srmHandler buf ω) (f (buf i)) (n + 1)
        fun a l s => Q a (⟨.read i, buf i⟩ :: l) s := Iff.rfl

@[simp] lemma post_memmove {src len : ℕ} {f : List UInt8 → SrmProg α} :
    Post (srmHandler buf ω) (memmove src len >>= f) n Q ↔
      Post (srmHandler buf ω) (f (slice buf src len)) (n + 1)
        fun a l s => Q a (⟨.memmove src len, slice buf src len⟩ :: l) s := Iff.rfl

@[simp] lemma post_verifySignature {msg msgLen r s : ℕ} {f : Errno → SrmProg α} :
    Post (srmHandler buf ω) (verifySignature msg msgLen r s >>= f) n Q ↔
      Post (srmHandler buf ω) (f (ω n (.verifySignature msg msgLen r s))) (n + 1)
        fun a l s' => Q a (⟨.verifySignature msg msgLen r s,
          ω n (.verifySignature msg msgLen r s)⟩ :: l) s' := Iff.rfl

@[simp] lemma post_new {w : Allocation} {f : Bool → SrmProg α} :
    Post (srmHandler buf ω) (new w >>= f) n Q ↔
      Post (srmHandler buf ω) (f (ω n (.new w))) (n + 1)
        fun a l s => Q a (⟨.new w, ω n (.new w)⟩ :: l) s := Iff.rfl

@[simp] lemma post_useLength {a b : ℕ} {f : Unit → SrmProg α} :
    Post (srmHandler buf ω) (useLength a b >>= f) n Q ↔
      Post (srmHandler buf ω) (f ()) (n + 1)
        fun v l s => Q v (⟨.useLength a b, ω n (.useLength a b)⟩ :: l) s := Iff.rfl

@[simp] lemma post_mutexInit {f : Bool → SrmProg α} :
    Post (srmHandler buf ω) (mutexInit >>= f) n Q ↔
      Post (srmHandler buf ω) (f (ω n .mutexInit)) (n + 1)
        fun a l s => Q a (⟨.mutexInit, ω n .mutexInit⟩ :: l) s := Iff.rfl

@[simp] lemma post_openStorage {write : Bool} {f : Bool → SrmProg α} :
    Post (srmHandler buf ω) (openStorage write >>= f) n Q ↔
      Post (srmHandler buf ω) (f (ω n (.openStorage write))) (n + 1)
        fun a l s => Q a (⟨.openStorage write, ω n (.openStorage write)⟩ :: l) s := Iff.rfl

@[simp] lemma post_fstat {f : Option Stat → SrmProg α} :
    Post (srmHandler buf ω) (fstat >>= f) n Q ↔
      Post (srmHandler buf ω) (f (ω n .fstat)) (n + 1)
        fun a l s => Q a (⟨.fstat, ω n .fstat⟩ :: l) s := Iff.rfl

@[simp] lemma post_mmap {f : Bool → SrmProg α} :
    Post (srmHandler buf ω) (mmap >>= f) n Q ↔
      Post (srmHandler buf ω) (f (ω n .mmap)) (n + 1)
        fun a l s => Q a (⟨.mmap, ω n .mmap⟩ :: l) s := Iff.rfl

@[simp] lemma post_writeStorage {size : ℕ} {f : ℕ → SrmProg α} :
    Post (srmHandler buf ω) (writeStorage size >>= f) n Q ↔
      Post (srmHandler buf ω) (f (ω n (.writeStorage size))) (n + 1)
        fun a l s => Q a (⟨.writeStorage size, ω n (.writeStorage size)⟩ :: l) s := Iff.rfl

@[simp] lemma post_closeStorage {f : Unit → SrmProg α} :
    Post (srmHandler buf ω) (closeStorage >>= f) n Q ↔
      Post (srmHandler buf ω) (f ()) (n + 1)
        fun a l s => Q a (⟨.closeStorage, ω n .closeStorage⟩ :: l) s := Iff.rfl

end Calls

/-- The signature check accepts and the allocator has memory. -/
structure Accepting (ω : SrmOracle) : Prop where
  verify : ∀ n msg msgLen r s, ω n (.verifySignature msg msgLen r s) = Errno.success
  alloc : ∀ n w, ω n (.new w) = true

/-- The environment in which every signature is good, memory never runs out and the
storage can be written, but has no file yet. -/
def acceptAll : SrmOracle := fun _ o =>
  match o with
  | .read _ => (0 : UInt8)
  | .memmove _ _ => ([] : List UInt8)
  | .verifySignature _ _ _ _ => Errno.success
  | .new _ | .mutexInit => true
  | .openStorage write => write
  | .fstat => (none : Option Stat)
  | .mmap => false
  | .writeStorage size => size
  | .useLength _ _ | .closeStorage => ()

lemma acceptAll_accepting : Accepting acceptAll := ⟨fun _ _ _ _ _ => rfl, fun _ _ => rfl⟩

/-- A call of `VerifySignature` with the answer that it gave. -/
structure SignatureCall where
  msg : ℕ
  msgLen : ℕ
  r : ℕ
  s : ℕ
  ret : Errno
deriving DecidableEq, Repr

/-- The call of `VerifySignature` that an event is, if it is one. -/
def signatureCall : Event srmSig → Option SignatureCall
  | ⟨.verifySignature msg msgLen r s, ret⟩ => some ⟨msg, msgLen, r, s, ret⟩
  | _ => none

/-- The calls of `VerifySignature` in a log, in order. -/
def signatureCalls (l : List (Event srmSig)) : List SignatureCall := l.filterMap signatureCall

@[simp] lemma signatureCalls_nil : signatureCalls [] = [] := rfl

@[simp] lemma signatureCalls_append (l l' : List (Event srmSig)) :
    signatureCalls (l ++ l') = signatureCalls l ++ signatureCalls l' :=
  List.filterMap_append

/-- Each index that a call touches lies below `length`, and the unsigned
difference that it uses does not wrap around. -/
def InBounds (length : ℕ) : SrmOp → Prop
  | .read i => i < length
  | .memmove src len => RangeIn length src len
  | .verifySignature msg msgLen r s =>
      RangeIn length msg msgLen ∧ RangeIn length r 20 ∧ RangeIn length s 20
  | .useLength minuend subtrahend => subtrahend ≤ minuend
  | _ => True

/-- All calls of a log are in bounds. -/
def LogInBounds (length : ℕ) (l : List (Event srmSig)) : Prop :=
  ∀ e ∈ l, InBounds length e.op

@[simp] lemma logInBounds_nil (length : ℕ) : LogInBounds length [] := by simp [LogInBounds]

@[simp] lemma logInBounds_cons {length : ℕ} {e : Event srmSig} {l : List (Event srmSig)} :
    LogInBounds length (e :: l) ↔ InBounds length e.op ∧ LogInBounds length l := by
  simp [LogInBounds]

@[simp] lemma logInBounds_append {length : ℕ} {l l' : List (Event srmSig)} :
    LogInBounds length (l ++ l') ↔ LogInBounds length l ∧ LogInBounds length l' := by
  simp [LogInBounds, or_imp, forall_and]

/-! ### Revocation lists -/

/-- The number of devices that the count byte at `list` announces. -/
def ksvCount (buf : Mem) (list : ℕ) : ℕ := (buf list).toNat &&& 0x7f

lemma ksvCount_lt (buf : Mem) (list : ℕ) : ksvCount buf list < 128 :=
  Nat.and_lt_two_pow (n := 7) _ (by decide)

/-- The `length` bytes at `list` are nothing, or a count byte and as many KSVs as it
says. -/
def VrlFits (buf : Mem) (list length : ℕ) : Prop :=
  length = 0 ∨ length = ksvCount buf list * 5 + 1

instance (buf : Mem) (list length : ℕ) : Decidable (VrlFits buf list length) :=
  inferInstanceAs (Decidable (_ ∨ _))

/-- The revocation list of the `length` bytes at `list`, when they fit. -/
def vrlOf (buf : Mem) (list length : ℕ) : VectorRevocationList :=
  if length = 0 then
    ⟨true, 0, none⟩
  else
    ⟨true, ksvCount buf list, some (slice buf (list + 1) (ksvCount buf list * 5))⟩

/-- The constructor of a revocation list: the list is valid only when the bytes fit,
and then it holds the bytes. -/
lemma newVectorRevocationList_post (list len : ℕ) :
    Post (srmHandler buf ω) (newVectorRevocationList list len) n fun vrl l _ =>
      (vrl.isValid → VrlFits buf list len ∧ vrl = vrlOf buf list len) ∧
      (Accepting ω → VrlFits buf list len → vrl = vrlOf buf list len ∧ vrl.isValid) ∧
      signatureCalls l = [] ∧
      ∀ length, RangeIn length list len → LogInBounds length l := by
  have hcount : (buf list).toNat &&& 0x7f = ksvCount buf list := rfl
  have hlt := ksvCount_lt buf list
  have harr : u32 (ksvCount buf list * 5) = ksvCount buf list * 5 := u32_of_lt (by omega)
  have hsize : u32 (ksvCount buf list * 5 + 1) = ksvCount buf list * 5 + 1 :=
    u32_of_lt (by omega)
  unfold newVectorRevocationList
  simp only [Prog.pure_eq, ksvSize]
  split
  case isTrue h₀ => simp [h₀, VrlFits, vrlOf]
  case isFalse h₀ =>
    simp only [post_read, hcount, harr, hsize]
    split
    case isTrue hne =>
      refine ⟨by simp, fun _ hfit => absurd (hfit.resolve_left h₀) hne, rfl, ?_⟩
      intro length hin
      simp only [RangeIn] at hin
      simp only [Prog.exec_ret, logInBounds_cons, logInBounds_nil, InBounds, and_true]
      omega
    case isFalse heq =>
      have hlen : len = ksvCount buf list * 5 + 1 := not_not.1 heq
      simp only [post_new]
      split
      case isTrue hfail =>
        refine ⟨by simp, fun hω _ => ?_, rfl, fun length hin => ?_⟩
        · simp [hω.alloc] at hfail
        · simp only [RangeIn] at hin
          simp only [Prog.exec_ret, logInBounds_cons, logInBounds_nil, InBounds, and_true]
          omega
      case isFalse _ =>
        have hvrl : vrlOf buf list len = ⟨true, ksvCount buf list,
            some (slice buf (list + 1) (ksvCount buf list * 5))⟩ := by
          rw [vrlOf, if_neg h₀]
        simp only [post_memmove, Prog.post_ret, hvrl]
        refine ⟨fun _ => ⟨Or.inr hlen, trivial⟩, fun _ _ => ⟨trivial, trivial⟩, rfl, ?_⟩
        intro length hin
        simp only [RangeIn] at hin
        simp only [logInBounds_cons, logInBounds_nil, InBounds, RangeIn, and_true, true_and]
        omega

/-! ### The further generations -/

/-- The length field of the section at offset `s`. -/
def sectionLength (buf : Mem) (s : ℕ) : ℕ :=
  (buf s).toNat <<< 8 ||| (buf (u32 (s + 1))).toNat

/-- The offset behind the section at offset `s`, as the parser computes it. -/
def sectionNext (buf : Mem) (s : ℕ) : ℕ :=
  u32 (u32 (u32 (u32 (s + 2) + (sectionLength buf s - 2 - 40)) + 20) + 20)

/-- The revocation list of the section at offset `s`. -/
def sectionVrl (buf : Mem) (s : ℕ) : VectorRevocationList :=
  vrlOf buf (u32 (s + 2)) (sectionLength buf s - 2 - 40)

/-- The successful signature check of the section at offset `s`. -/
def sectionCall (buf : Mem) (s : ℕ) : SignatureCall where
  msg := u32 (s + 2)
  msgLen := sectionLength buf s - 2 - 40
  r := u32 (u32 (s + 2) + (sectionLength buf s - 2 - 40))
  s := u32 (u32 (u32 (s + 2) + (sectionLength buf s - 2 - 40)) + 20)
  ret := .success

/-- The checks on the section at offset `s`, apart from the signature. -/
structure SectionOk (buf : Mem) (length s : ℕ) : Prop where
  lt : s < length
  head : u32 (s + 2) ≤ length
  fits : u32 (u32 (s + 2) + sectionLength buf s) ≤ length
  min : 42 ≤ sectionLength buf s
  vrl : VrlFits buf (u32 (s + 2)) (sectionLength buf s - 2 - 40)

lemma sectionLength_lt (buf : Mem) (s : ℕ) : sectionLength buf s < 2 ^ 16 := by
  have h₁ := toNat_lt_pow (buf s)
  have h₂ := toNat_lt_pow (buf (u32 (s + 1)))
  rw [sectionLength, shiftLeft_or_eq h₂]
  omega

/-- The offset behind a section is the offset of the section plus its length. -/
lemma sectionNext_eq {s : ℕ} (h : 42 ≤ sectionLength buf s) :
    sectionNext buf s = u32 (s + sectionLength buf s) := by
  simp only [sectionNext, u32]
  omega

/-- What a round of the loop over the further generations can do: answer `r` with
the log `l`. -/
structure RoundSpec (buf : Mem) (ω : SrmOracle) (length s : ℕ)
    (lists : List VectorRevocationList)
    (r : SectionState ⊕ Except Errno (List VectorRevocationList))
    (l : List (Event srmSig)) : Prop where
  /-- It goes on only with a section that passes its checks. -/
  taken : ∀ b, r = .inl b → SectionOk buf length s ∧
    b = (sectionNext buf s, lists ++ [sectionVrl buf s]) ∧
    signatureCalls l = [sectionCall buf s]
  /-- It ends well only at the end of the message. -/
  ended : ∀ ls, r = .inr (.ok ls) → ¬ s < length ∧ ls = lists ∧ signatureCalls l = []
  failed : ∀ e, r = .inr (.error e) → e ≠ .success
  atEnd : ¬ s < length → r = .inr (.ok lists)
  accepted : Accepting ω → SectionOk buf length s →
    r = .inl (sectionNext buf s, lists ++ [sectionVrl buf s])
  inBounds : length + 2 ^ 16 ≤ 2 ^ 32 → LogInBounds length l

/-- A round that refuses the section. -/
lemma RoundSpec.refuse {length s : ℕ} {lists : List VectorRevocationList} {e : Errno}
    {l : List (Event srmSig)} (hs : s < length) (he : e ≠ .success)
    (hω : Accepting ω → ¬ SectionOk buf length s)
    (hl : length + 2 ^ 16 ≤ 2 ^ 32 → LogInBounds length l) :
    RoundSpec buf ω length s lists (.inr (.error e)) l where
  taken := by simp
  ended := by simp
  failed := by simpa using he
  atEnd h := absurd hs h
  accepted h₁ h₂ := absurd h₂ (hω h₁)
  inBounds := hl

lemma sectionRound_post (length s : ℕ) (lists : List VectorRevocationList) :
    Post (srmHandler buf ω) (sectionRound length (s, lists)) n fun r l _ =>
      RoundSpec buf ω length s lists r l := by
  have hlen : (buf s).toNat <<< 8 ||| (buf (u32 (s + 1))).toNat = sectionLength buf s := rfl
  have hlt := sectionLength_lt buf s
  have h16 : u16 (sectionLength buf s - 2 - 40) = sectionLength buf s - 2 - 40 :=
    u16_of_lt (by omega)
  unfold sectionRound
  simp only [Prog.pure_eq, dsaSigLength, Nat.reduceMul, Nat.reduceAdd]
  split
  case isTrue hend =>
    refine ⟨by simp, fun ls hls => ?_, by simp, fun _ => rfl, fun _ hok => ?_, by simp⟩
    · exact ⟨hend, (Except.ok.inj (Sum.inr.inj hls)).symm, rfl⟩
    · exact absurd hok.lt hend
  case isFalse hend =>
  replace hend := not_not.1 hend
  split
  case isTrue hhead =>
    exact .refuse hend (by decide) (fun _ hok => absurd hok.head (by omega)) (by simp)
  case isFalse hhead =>
  have htwo (hB : length + 2 ^ 16 ≤ 2 ^ 32) : u32 (s + 2) = s + 2 ∧ s + 2 ≤ length := by
    have h₂ : u32 (s + 2) = s + 2 := u32_of_lt (by omega)
    exact ⟨h₂, by omega⟩
  have hread (hB : length + 2 ^ 16 ≤ 2 ^ 32) :
      InBounds length (.read s) ∧ InBounds length (.read (u32 (s + 1))) := by
    have h₂ := htwo hB
    have h₁ : u32 (s + 1) = s + 1 := u32_of_lt (by omega)
    simp only [InBounds, h₁]
    omega
  simp only [post_read, hlen, h16]
  split
  case isTrue hfits =>
    refine .refuse hend (by decide) (fun _ hok => absurd hok.fits (by omega)) fun hB => ?_
    simp [hread hB]
  case isFalse hfits =>
  split
  case isTrue hmin =>
    refine .refuse hend (by decide) (fun _ hok => absurd hok.min (by omega)) fun hB => ?_
    simp [hread hB]
  case isFalse hmin =>
  have hsub₁ : InBounds length (.useLength (sectionLength buf s) 2) := by
    simp only [InBounds]
    omega
  have hsub₂ : InBounds length (.useLength (sectionLength buf s - 2) 40) := by
    simp only [InBounds]
    omega
  have hsec (hB : length + 2 ^ 16 ≤ 2 ^ 32) : s + 2 + sectionLength buf s ≤ length := by
    obtain ⟨h₂, h₃⟩ := htwo hB
    rw [h₂, u32_of_lt (by omega)] at hfits
    omega
  have hver (hB : length + 2 ^ 16 ≤ 2 ^ 32) : InBounds length (.verifySignature (u32 (s + 2))
      (sectionLength buf s - 2 - 40)
      (u32 (u32 (s + 2) + (sectionLength buf s - 2 - 40)))
      (u32 (u32 (u32 (s + 2) + (sectionLength buf s - 2 - 40)) + 20))) := by
    have h₃ := hsec hB
    have h₄ : u32 (s + 2 + (sectionLength buf s - 2 - 40)) = s + sectionLength buf s - 40 := by
      rw [u32_of_lt (by omega)]
      omega
    have h₅ : u32 (s + sectionLength buf s - 40 + 20) = s + sectionLength buf s - 20 := by
      rw [u32_of_lt (by omega)]
      omega
    simp only [InBounds, RangeIn, (htwo hB).1, h₄, h₅]
    omega
  simp only [post_useLength, post_verifySignature]
  split
  case isTrue hsig =>
    refine .refuse hend hsig (fun hω _ => absurd (hω.verify _ _ _ _ _) hsig) fun hB => ?_
    simp [hread hB, hver hB, hsub₁, hsub₂]
  case isFalse hsig =>
  simp only [post_new]
  have hnewIn : InBounds length (.new .vectorRevocationList) := trivial
  split
  case isTrue hnew =>
    refine .refuse hend (by decide) (fun hω _ => ?_) fun hB => ?_
    · simp [hω.alloc] at hnew
    · simp [hread hB, hver hB, hsub₁, hsub₂, hnewIn]
  case isFalse _ =>
  refine Post.bind (newVectorRevocationList_post _ _) ?_
  rintro vrl l s' ⟨hvalid, hacc, hcalls, hlog⟩
  have hin (hB : length + 2 ^ 16 ≤ 2 ^ 32) : LogInBounds length l := by
    have h₃ := hsec hB
    refine hlog length ?_
    rw [(htwo hB).1]
    exact Or.inr (by omega)
  split
  case isTrue hbad =>
    refine .refuse hend (by decide) (fun hω hok => ?_) fun hB => ?_
    · simp [(hacc hω hok.vrl).2] at hbad
    · simp [hread hB, hver hB, hsub₁, hsub₂, hnewIn, hin hB]
  case isFalse hgood =>
    obtain ⟨hfit, rfl⟩ := hvalid (by simpa using hgood)
    have hok : SectionOk buf length s := ⟨hend, by omega, by omega, by omega, hfit⟩
    refine ⟨?_, by simp, by simp, fun h => absurd hend h, fun _ _ => rfl, fun hB => ?_⟩
    · rintro b hb
      obtain rfl : _ = b := Sum.inl.inj hb
      refine ⟨hok, rfl, ?_⟩
      rw [not_not.1 hsig]
      have hrest : signatureCalls (l ++ []) = [] := by simpa using hcalls
      exact congrArg (sectionCall buf s :: ·) hrest
    · simp [hread hB, hver hB, hsub₁, hsub₂, hnewIn, hin hB]

/-- The sections that the loop takes from offset `s` on, until it reaches the end of
the message: their offsets, in order. -/
inductive Walk (buf : Mem) (length : ℕ) : ℕ → List ℕ → Prop where
  | done {s : ℕ} (h : ¬ s < length) : Walk buf length s []
  | step {s : ℕ} {ss : List ℕ} (h : SectionOk buf length s)
      (hss : Walk buf length (sectionNext buf s) ss) : Walk buf length s (s :: ss)

/-- The revocation list bounds the length of a section. -/
lemma SectionOk.length_le {length s : ℕ} (h : SectionOk buf length s) :
    sectionLength buf s ≤ 678 := by
  have hmin := h.min
  have hcount := ksvCount_lt buf (u32 (s + 2))
  rcases h.vrl with hnil | hvrl
  · omega
  · omega

/-- Below the wrap-around a section lies within the message, and so does the length
field of the next one. -/
lemma SectionOk.next_of_le {length s : ℕ} (h : SectionOk buf length s)
    (hB : length + 678 < 2 ^ 32) :
    sectionNext buf s = s + sectionLength buf s ∧ s + 42 ≤ sectionNext buf s ∧
      sectionNext buf s + 2 ≤ length := by
  have hlen := h.length_le
  have hs := h.lt
  have hmin := h.min
  have htwo : u32 (s + 2) = s + 2 := u32_of_lt (by omega)
  have hnext : sectionNext buf s = s + sectionLength buf s := by
    rw [sectionNext_eq h.min, u32_of_lt (by omega)]
  have hhead := h.head
  have hfits := h.fits
  rw [htwo] at hhead
  rw [htwo, u32_of_lt (by omega)] at hfits
  omega

/-- What the loop over the further generations can do from offset `s` on, with the
lists `lists` taken before. -/
structure LoopSpec (buf : Mem) (length fuel s : ℕ) (lists : List VectorRevocationList)
    (r : Option (Except Errno (List VectorRevocationList)))
    (l : List (Event srmSig)) : Prop where
  /-- It ends well only when it has walked to the end of the message. -/
  walked : ∀ ls, r = some (.ok ls) → ∃ ss, Walk buf length s ss ∧
    ls = lists ++ ss.map (sectionVrl buf) ∧ signatureCalls l = ss.map (sectionCall buf)
  failed : ∀ e, r = some (.error e) → e ≠ .success
  inBounds : length + 2 ^ 16 ≤ 2 ^ 32 → LogInBounds length l
  stops : length + 2 ^ 16 ≤ 2 ^ 32 → 0 < fuel → length < s + fuel → r ≠ none

lemma sectionLoop_post (length fuel : ℕ) :
    ∀ (s n : ℕ) (lists : List VectorRevocationList),
      Post (srmHandler buf ω) (iter (sectionRound length) fuel (s, lists)) n fun r l _ =>
        LoopSpec buf length fuel s lists r l := by
  induction fuel with
  | zero => intro s n lists; exact ⟨by simp, by simp, by simp, by simp⟩
  | succ fuel ih =>
      intro s n lists
      rw [Prog.iter_succ]
      refine Post.bind (sectionRound_post length s lists) ?_
      rintro (⟨s', lists'⟩ | r) l n' hround
      · obtain ⟨hok, hb, hcall⟩ := hround.taken _ rfl
        obtain ⟨rfl, rfl⟩ := Prod.mk.inj hb
        refine (ih (sectionNext buf s) n' (lists ++ [sectionVrl buf s])).mono ?_
        rintro r l' n'' hr
        refine ⟨?_, hr.failed, fun hB => ?_, fun hB _ hfuel => ?_⟩
        · rintro ls hls
          obtain ⟨ss, hwalk, rfl, hcalls⟩ := hr.walked ls hls
          exact ⟨s :: ss, .step hok hwalk, by simp, by simp [hcall, hcalls]⟩
        · simp [hround.inBounds hB, hr.inBounds hB]
        · have hnext := hok.next_of_le (by omega)
          exact hr.stops hB (by omega) (by omega)
      · refine ⟨?_, ?_, fun hB => by simpa using hround.inBounds hB, by simp⟩
        · rintro ls hls
          obtain rfl : r = .ok ls := by simpa using hls
          obtain ⟨hs, rfl, hcalls⟩ := hround.ended _ rfl
          exact ⟨[], .done hs, by simp, by simpa using hcalls⟩
        · rintro e he
          obtain rfl : r = .error e := by simpa using he
          exact hround.failed e rfl

/-- Conversely the loop takes every walk, when nothing outside it refuses. -/
lemma sectionLoop_of_walk {length s : ℕ} {ss : List ℕ} (hω : Accepting ω)
    (hwalk : Walk buf length s ss) :
    ∀ (n : ℕ) (lists : List VectorRevocationList),
      Post (srmHandler buf ω) (iter (sectionRound length) (ss.length + 1) (s, lists)) n
        fun r _ _ => r = some (.ok (lists ++ ss.map (sectionVrl buf))) := by
  induction hwalk with
  | @done s hs =>
      intro n lists
      rw [Prog.iter_succ]
      refine Post.bind (sectionRound_post length s lists) ?_
      rintro r l n' hround
      rw [hround.atEnd hs]
      simp
  | @step s ss hok _ ih =>
      intro n lists
      rw [Prog.iter_succ]
      refine Post.bind (sectionRound_post length s lists) ?_
      rintro r l n' hround
      rw [hround.accepted hω hok]
      refine (ih n' (lists ++ [sectionVrl buf s])).mono ?_
      rintro r l' n'' rfl
      simp

/-! ### The parser -/

/-- The header of the message. -/
def headerOf (buf : Mem) : SrmHeader where
  srmId := (buf 0).toNat >>> 4
  version := (buf 3).toNat ||| (buf 2).toNat <<< 8
  generation := (buf 4).toNat

/-- The length field of the first generation. -/
def gen1Length (buf : Mem) : ℕ := be24 buf 5

/-- The revocation list of the first generation. -/
def gen1Vrl (buf : Mem) : VectorRevocationList := vrlOf buf 8 (u16 (gen1Length buf - 43))

/-- The successful signature check of the first generation. -/
def gen1Call (buf : Mem) : SignatureCall where
  msg := 0
  msgLen := gen1Length buf - 35
  r := gen1Length buf - 35
  s := gen1Length buf - 15
  ret := .success

/-- The checks on the header and on the first generation, apart from the signature. -/
structure Gen1Ok (buf : Mem) (version length : ℕ) : Prop where
  id : (headerOf buf).srmId = srmHeaderId
  recent : version ≤ (headerOf buf).version
  fits : 5 + gen1Length buf ≤ length
  min : 43 ≤ gen1Length buf
  vrl : VrlFits buf 8 (u16 (gen1Length buf - 43))

lemma gen1Length_lt (buf : Mem) : gen1Length buf < 2 ^ 24 := be24_lt buf 5

/-- Reading the header takes four reads. -/
lemma post_readHeader {f : SrmHeader → SrmProg α} {Q : α → List (Event srmSig) → ℕ → Prop} :
    Post (srmHandler buf ω) (readHeader >>= f) n Q ↔
      Post (srmHandler buf ω) (f (headerOf buf)) (n + 4) fun a l s =>
        Q a ([⟨.read 0, buf 0⟩, ⟨.read 3, buf 3⟩, ⟨.read 2, buf 2⟩, ⟨.read 4, buf 4⟩] ++ l) s :=
  Iff.rfl

/-- What the parser can do on a table of version `version`. -/
structure ParseSpec (buf : Mem) (ω : SrmOracle) (fuel version length : ℕ)
    (r : Option (Except Errno (SrmHeader × List VectorRevocationList)))
    (l : List (Event srmSig)) : Prop where
  /-- It succeeds only when the first generation passes its checks and the loop walks
  from there to the end of the message. -/
  parsed : ∀ hdr ls, r = some (.ok (hdr, ls)) → Gen1Ok buf version length ∧
    hdr = headerOf buf ∧
    ∃ ss, Walk buf length (5 + gen1Length buf) ss ∧
      ls = gen1Vrl buf :: ss.map (sectionVrl buf) ∧
      signatureCalls l = gen1Call buf :: ss.map (sectionCall buf)
  /-- When the first generation passes and the environment accepts, it enters the loop. -/
  entered : Accepting ω → Gen1Ok buf version length → ∃ n',
    let loop := exec (srmHandler buf ω)
      (iter (sectionRound length) fuel (5 + gen1Length buf, [gen1Vrl buf])) n'
    (∀ e ∈ loop.log, e ∈ l) ∧ r = loop.val.map (Except.map (Prod.mk (headerOf buf)))
  failed : ∀ e, r = some (.error e) → e ≠ .success
  inBounds : length + 2 ^ 16 ≤ 2 ^ 32 → 8 ≤ length → LogInBounds length l
  stops : length + 2 ^ 16 ≤ 2 ^ 32 → length < fuel → r ≠ none

/-- A message that the parser refuses before the loop. -/
lemma ParseSpec.refuse {fuel version length : ℕ} {e : Errno} {l : List (Event srmSig)}
    (he : e ≠ .success) (hω : Accepting ω → ¬ Gen1Ok buf version length)
    (hl : 8 ≤ length → LogInBounds length l) :
    ParseSpec buf ω fuel version length (some (.error e)) l where
  parsed := by simp
  entered h₁ h₂ := absurd h₂ (hω h₁)
  failed := by simpa using he
  inBounds _ := hl
  stops := by simp

lemma parseSrm_post (fuel version length : ℕ) :
    Post (srmHandler buf ω) (parseSrm fuel version length) n fun r l _ =>
      ParseSpec buf ω fuel version length r l := by
  have hlen : ((buf 5).toNat <<< 16 ||| (buf 6).toNat <<< 8) ||| (buf 7).toNat =
    gen1Length buf := rfl
  have hlt := gen1Length_lt buf
  have hread (h8 : 8 ≤ length) (i : ℕ) (hi : i < 8) : InBounds length (.read i) := by
    simp only [InBounds]
    omega
  unfold parseSrm
  simp only [Prog.pure_eq, post_readHeader, srmHeaderLength, dsaSigLength, Nat.reduceMul,
    Nat.reduceAdd]
  split
  case isTrue hid =>
    exact .refuse (by decide) (fun _ hok => hid hok.id) fun h8 => by simp [hread h8]
  case isFalse hid =>
  split
  case isTrue hold =>
    exact .refuse (by decide) (fun _ hok => absurd hok.recent (by omega)) fun h8 => by
      simp [hread h8]
  case isFalse hold =>
  simp only [post_read, hlen]
  have hbuf : u32 (5 + gen1Length buf) = 5 + gen1Length buf := u32_of_lt (by omega)
  rw [hbuf]
  split
  case isTrue hfits =>
    exact .refuse (by decide) (fun _ hok => absurd hok.fits (by omega)) fun h8 => by
      simp [hread h8]
  case isFalse hfits =>
  split
  case isTrue hmin =>
    exact .refuse (by decide) (fun _ hok => absurd hok.min (by omega)) fun h8 => by
      simp [hread h8]
  case isFalse hmin =>
  have hr : u32 (8 + (gen1Length buf - 43)) = gen1Length buf - 35 := by
    rw [u32_of_lt (by omega)]
    omega
  have hs : u32 (gen1Length buf - 35 + 20) = gen1Length buf - 15 := by
    rw [u32_of_lt (by omega)]
    omega
  have hoff : u32 (gen1Length buf - 15 + 20) = 5 + gen1Length buf := by
    rw [u32_of_lt (by omega)]
    omega
  have hmsg : 5 + gen1Length buf - 40 = gen1Length buf - 35 := by omega
  have hvrl : gen1Length buf - 3 - 40 = gen1Length buf - 43 := by omega
  have hsub₁ : InBounds length (.useLength (gen1Length buf) 3) := by
    simp only [InBounds]
    omega
  have hsub₂ : InBounds length (.useLength (gen1Length buf - 3) 40) := by
    simp only [InBounds]
    omega
  have hsub₃ : InBounds length (.useLength (5 + gen1Length buf) 40) := by
    simp only [InBounds]
    omega
  have hver : InBounds length (.verifySignature 0 (gen1Length buf - 35) (gen1Length buf - 35)
      (gen1Length buf - 15)) := by
    simp only [InBounds, RangeIn]
    omega
  have hnewIn (w : Allocation) : InBounds length (.new w) := trivial
  simp only [post_useLength, post_verifySignature, hvrl, hr, hs, hoff, hmsg]
  split
  case isTrue hsig =>
    exact .refuse hsig (fun hω _ => hsig (hω.verify _ _ _ _ _)) fun h8 => by
      simp [hread h8, hsub₁, hsub₂, hsub₃, hver]
  case isFalse hsig =>
  simp only [post_new]
  split
  case isTrue hnew =>
    refine .refuse (by decide) (fun hω _ => ?_) fun h8 => ?_
    · simp [hω.alloc] at hnew
    · simp [hread h8, hsub₁, hsub₂, hsub₃, hver, hnewIn]
  case isFalse _ =>
  simp only [post_new]
  split
  case isTrue hnew =>
    refine .refuse (by decide) (fun hω _ => ?_) fun h8 => ?_
    · simp [hω.alloc] at hnew
    · simp [hread h8, hsub₁, hsub₂, hsub₃, hver, hnewIn]
  case isFalse _ =>
  refine Post.bind (newVectorRevocationList_post _ _) ?_
  rintro vrl l s' ⟨hvalid, hacc, hcalls, hlog⟩
  have hin : LogInBounds length l := by
    have hu16 : u16 (gen1Length buf - 43) ≤ gen1Length buf - 43 := Nat.mod_le _ _
    exact hlog length (Or.inr (by omega))
  split
  case isTrue hbad =>
    refine .refuse (by decide) (fun hω hok => ?_) fun h8 => ?_
    · simp [(hacc hω hok.vrl).2] at hbad
    · simp [hread h8, hsub₁, hsub₂, hsub₃, hver, hnewIn, hin]
  case isFalse hgood =>
  obtain ⟨hfit, rfl⟩ := hvalid (by simpa using hgood)
  have hok : Gen1Ok buf version length :=
    ⟨not_not.1 hid, by omega, by omega, by omega, hfit⟩
  let loop := exec (srmHandler buf ω)
    (iter (sectionRound length) fuel (5 + gen1Length buf, [gen1Vrl buf])) s'
  refine Post.bind (Q := fun r l _ =>
    LoopSpec buf length fuel (5 + gen1Length buf) [gen1Vrl buf] r l ∧
      r = loop.val ∧ l = loop.log) ⟨sectionLoop_post _ _ _ _ _, rfl, rfl⟩ ?_
  rintro (_ | e | ls) l' s'' ⟨hloop, hval, hlog'⟩
  all_goals
    have hsub : ∀ e ∈ loop.log, e ∈ l' := fun e he => hlog' ▸ he
  · refine ⟨by simp, fun _ _ => ?_, by simp, fun hB h8 => ?_,
      fun hB hf => absurd rfl (hloop.stops hB (by omega) (by omega))⟩
    · exact ⟨s', fun e he => by simp [hsub e he], by rw [← hval]; rfl⟩
    · simp [hread h8, hsub₁, hsub₂, hsub₃, hver, hnewIn, hin, hloop.inBounds hB]
  · refine ⟨by simp, fun _ _ => ?_, fun e' he' => ?_, fun hB h8 => ?_, by simp⟩
    · exact ⟨s', fun e he => by simp [hsub e he], by rw [← hval]; rfl⟩
    · obtain rfl : e = e' := by simpa using he'
      exact hloop.failed e rfl
    · simp [hread h8, hsub₁, hsub₂, hsub₃, hver, hnewIn, hin, hloop.inBounds hB]
  · refine ⟨?_, fun _ _ => ?_, by simp, fun hB h8 => ?_, by simp⟩
    · rintro hdr ls' heq
      obtain ⟨rfl, rfl⟩ : headerOf buf = hdr ∧ ls = ls' := by simpa using heq
      obtain ⟨ss, hw, hls, hc⟩ := hloop.walked ls rfl
      refine ⟨hok, rfl, ss, hw, hls, ?_⟩
      rw [not_not.1 hsig, ← hc]
      have hrest : signatureCalls (l ++ (l' ++ [])) = signatureCalls l' := by simp [hcalls]
      exact congrArg (gen1Call buf :: ·) hrest
    · exact ⟨s', fun e he => by simp [hsub e he], by rw [← hval]; rfl⟩
    · simp [hread h8, hsub₁, hsub₂, hsub₃, hver, hnewIn, hin, hloop.inBounds hB]

end Hdcp.Srm
