/-
The SRM table of the daemon.

This file translates `daemon/srm.cpp`: the vector revocation lists, the parser of
SRM messages, the revocation check and the entry points that use them.  The parser
is a program over the signature `srmSig`; its calls are the reads of the message,
the calls of `VerifySignature`, the allocations and the file operations.

The message is a pointer `buf` and a `length`.  Pointers into the message are the
indices that they stand for: `&buf[offset]` is `offset`.  The variables `offset`
and `vrlLength` are `uint32_t` and wrap around; `length` is a `size_t`.  Pointer
arguments that the callers have checked against `nullptr` are not optional here,
and the mutex of the table, which is locked and released within one call, is left
out.
-/
import Hdcp.Library.Prog
import Hdcp.Library.Bytes
import Hdcp.Status

namespace Hdcp.Srm

open Library
open Library.Prog (op iter)

/-! ### Constants -/

abbrev ksvSize : ℕ := 5

abbrev dsaSigLength : ℕ := 20

abbrev srmHeaderLength : ℕ := 5

abbrev srmHeaderId : ℕ := 0x8

abbrev srmFirstGenMaxSize : ℕ := 5116

/-! ### Interactions -/

/-- What the module allocates with `new (std::nothrow)`. -/
inductive Allocation where
  | srmTable
  | revocationLists
  | vectorRevocationList
  | ksvArray (size : ℕ)
deriving DecidableEq, Repr

/-- The interactions of the SRM module.  Pointers are indices into the message.
`useLength a b` records that the difference of the unsigned lengths `a` and `b` is
used; it has no counterpart at run time. -/
inductive SrmOp where
  | read (i : ℕ)
  | memmove (src len : ℕ)
  | verifySignature (msg msgLen r s : ℕ)
  | new (what : Allocation)
  | useLength (minuend subtrahend : ℕ)
  | mutexInit
  | openStorage (write : Bool)
  | fstat
  | mmap
  | writeStorage (size : ℕ)
  | closeStorage
deriving DecidableEq, Repr

/-- What `fstat` tells about the storage file. -/
structure Stat where
  isRegular : Bool
  size : ℕ
deriving DecidableEq, Repr

/-- The answers: `new`, `mutexInit`, `openStorage` and `mmap` tell whether they
succeeded, `writeStorage` the number of bytes that it wrote. -/
def SrmOp.Ans : SrmOp → Type
  | read _ => UInt8
  | memmove _ _ => List UInt8
  | verifySignature _ _ _ _ => Errno
  | new _ | mutexInit | openStorage _ | mmap => Bool
  | fstat => Option Stat
  | writeStorage _ => ℕ
  | useLength _ _ | closeStorage => Unit

abbrev srmSig : Sig := ⟨SrmOp, SrmOp.Ans⟩

abbrev SrmProg (α : Type) : Type := Prog srmSig α

/-- The environment of a call: the signature check, the allocator and the file
system.  `ω n` answers the `n`-th interaction of the call, so that every pattern
of answers is covered. -/
abbrev SrmOracle : Type := (n : ℕ) → (o : SrmOp) → o.Ans

/-- A call on the message at `buf`: the reads are answered by the memory, the rest
by the oracle.  The state counts the interactions. -/
def srmHandler (buf : Mem) (ω : SrmOracle) : Handler srmSig ℕ
  | .read i, n => (buf i, n + 1)
  | .memmove src len, n => (slice buf src len, n + 1)
  | o, n => (ω n o, n + 1)

def read (i : ℕ) : SrmProg UInt8 := op (S := srmSig) (.read i)

def memmove (src len : ℕ) : SrmProg (List UInt8) := op (S := srmSig) (.memmove src len)

def verifySignature (msg msgLen r s : ℕ) : SrmProg Errno :=
  op (S := srmSig) (.verifySignature msg msgLen r s)

def new (what : Allocation) : SrmProg Bool := op (S := srmSig) (.new what)

def useLength (minuend subtrahend : ℕ) : SrmProg Unit :=
  op (S := srmSig) (.useLength minuend subtrahend)

def mutexInit : SrmProg Bool := op (S := srmSig) .mutexInit

def openStorage (write : Bool) : SrmProg Bool := op (S := srmSig) (.openStorage write)

def fstat : SrmProg (Option Stat) := op (S := srmSig) .fstat

def mmap : SrmProg Bool := op (S := srmSig) .mmap

def writeStorage (size : ℕ) : SrmProg ℕ := op (S := srmSig) (.writeStorage size)

def closeStorage : SrmProg Unit := op (S := srmSig) .closeStorage

/-! ### Vector revocation lists -/

/-- A KSV as the callers of the revocation check pass it. -/
abbrev Ksv : Type := Fin ksvSize → UInt8

structure VectorRevocationList where
  isValid : Bool
  numberOfDevices : ℕ
  ksvArray : Option (List UInt8)
deriving DecidableEq, Repr

/-- The constructor of `VectorRevocationList` on the `length` bytes at `buf`.  The
callers convert the length to `uint16_t`. -/
def newVectorRevocationList (buf length : ℕ) : SrmProg VectorRevocationList := do
  if length = 0 then
    return ⟨true, 0, none⟩
  let ksvCount := (← read buf).toNat &&& 0x7f
  let ksvArraySize := u32 (ksvCount * ksvSize)
  if length ≠ u32 (ksvArraySize + 1) then
    return ⟨false, 0, none⟩
  if !(← new (.ksvArray ksvArraySize)) then
    return ⟨false, ksvCount, none⟩
  let ksvArray ← memmove (buf + 1) ksvArraySize
  return ⟨true, ksvCount, some ksvArray⟩

/-- The comparison in the loop of `ContainsKsv`; the bytes are in reverse order. -/
def ksvMatches (ksvArray : List UInt8) (i : ℕ) (ksv : Ksv) : Bool :=
  ksvArray.getD (i * ksvSize + 4) 0 == ksv 0 &&
  ksvArray.getD (i * ksvSize + 3) 0 == ksv 1 &&
  ksvArray.getD (i * ksvSize + 2) 0 == ksv 2 &&
  ksvArray.getD (i * ksvSize + 1) 0 == ksv 3 &&
  ksvArray.getD (i * ksvSize + 0) 0 == ksv 4

/-- The loop of `ContainsKsv`: `todo` devices are left from index `i` on; the value
is the index at which the loop ends. -/
def containsKsvLoop (ksvArray : List UInt8) (ksv : Ksv) : (todo i : ℕ) → ℕ
  | 0, i => i
  | todo + 1, i =>
    if ksvMatches ksvArray i ksv then i else containsKsvLoop ksvArray ksv todo (i + 1)

def VectorRevocationList.containsKsv (vrl : VectorRevocationList) (ksv : Ksv) : Bool :=
  if vrl.numberOfDevices = 0 then
    false
  else
    match vrl.ksvArray with
    | none => true
    | some ksvArray =>
      -- the loop only breaks; after it the function returns `SUCCESS`
      let _i := containsKsvLoop ksvArray ksv vrl.numberOfDevices 0
      Errno.success.toBool

/-! ### The table -/

/-- The table, once `m_RevocationListsByGeneration` is allocated. -/
structure SrmTable where
  version : ℕ
  generation : ℕ
  isSrmStorageDisable : Bool
  revocationListsByGeneration : List VectorRevocationList
deriving DecidableEq, Repr

/-- `SrmTable::CheckSrmRevoke`. -/
def SrmTable.checkSrmRevoke (t : SrmTable) (ksv : Ksv) : Errno :=
  if t.revocationListsByGeneration.any fun vrl => vrl.containsKsv ksv then
    .eacces
  else
    .success

structure SrmHeader where
  srmId : ℕ
  version : ℕ
  generation : ℕ
deriving DecidableEq, Repr

/-- The header bytes.  Before it reads them the source compares `length` with
`SRM_HEADER_LENGTH + 3`, but it only assigns `ret` when the message is too short
and goes on. -/
def readHeader : SrmProg SrmHeader := do
  let srmId := (← read 0).toNat >>> 4
  let low ← read 3
  let high ← read 2
  let generation ← read 4
  return ⟨srmId, low.toNat ||| high.toNat <<< 8, generation.toNat⟩

/-- The variables of the loop over the further generations: `offset` and
`revocationLists`. -/
abbrev SectionState : Type := ℕ × List VectorRevocationList

/-- One round of the loop over the further generations. -/
def sectionRound (length : ℕ) : SectionState →
    SrmProg (SectionState ⊕ Except Errno (List VectorRevocationList))
  | (offset, revocationLists) => do
    if ¬ offset < length then
      return .inr (.ok revocationLists)
    if u32 (offset + 2) > length then
      return .inr (.error .einval)
    let high ← read offset
    let low ← read (u32 (offset + 1))
    let offset := u32 (offset + 2)
    let vrlLength := high.toNat <<< 8 ||| low.toNat
    if u32 (offset + vrlLength) > length then
      return .inr (.error .einval)
    if vrlLength < 2 + 2 * dsaSigLength then
      return .inr (.error .einval)
    useLength vrlLength 2
    useLength (vrlLength - 2) (2 * dsaSigLength)
    let vrlLength := vrlLength - 2 - 2 * dsaSigLength
    let vrlList := offset
    let signatureR := u32 (vrlList + vrlLength)
    let signatureS := u32 (signatureR + dsaSigLength)
    let offset := u32 (signatureS + dsaSigLength)
    let ret ← verifySignature vrlList vrlLength signatureR signatureS
    if ret ≠ .success then
      return .inr (.error ret)
    if !(← new .vectorRevocationList) then
      return .inr (.error .enomem)
    let vrl ← newVectorRevocationList vrlList (u16 vrlLength)
    if !vrl.isValid then
      return .inr (.error .einval)
    return .inl (offset, revocationLists ++ [vrl])

/-- `SrmTable::RetrieveSrmFromBuffer` up to the point where the new lists are
complete, on a table of version `version`. -/
def parseSrm (fuel version length : ℕ) :
    SrmProg (Option (Except Errno (SrmHeader × List VectorRevocationList))) := do
  let srmHeader ← readHeader
  if srmHeader.srmId ≠ srmHeaderId then
    return some (.error .einval)
  if srmHeader.version < version then
    return some (.error .eagain)
  let high ← read 5
  let mid ← read 6
  let low ← read 7
  let vrlLength := (high.toNat <<< 16 ||| mid.toNat <<< 8) ||| low.toNat
  let gen1BufLength := u32 (srmHeaderLength + vrlLength)
  if gen1BufLength > length then
    return some (.error .einval)
  -- the difference `gen1BufLength - 2 * DSA_SIG_LENGTH` is taken here, but it is
  -- used only when the next check has passed
  if vrlLength < 3 + 2 * dsaSigLength then
    return some (.error .einval)
  useLength vrlLength 3
  useLength (vrlLength - 3) (2 * dsaSigLength)
  let vrlLength := vrlLength - 3 - 2 * dsaSigLength
  let vrlList := srmHeaderLength + 3
  let signatureR := u32 (vrlList + vrlLength)
  let signatureS := u32 (signatureR + dsaSigLength)
  let offset := u32 (signatureS + dsaSigLength)
  useLength gen1BufLength (2 * dsaSigLength)
  let gen1BufLength := gen1BufLength - 2 * dsaSigLength
  let ret ← verifySignature 0 gen1BufLength signatureR signatureS
  if ret ≠ .success then
    return some (.error ret)
  if !(← new .revocationLists) then
    return some (.error .enomem)
  if !(← new .vectorRevocationList) then
    return some (.error .enomem)
  let vrl ← newVectorRevocationList vrlList (u16 vrlLength)
  if !vrl.isValid then
    return some (.error .einval)
  match ← iter (sectionRound length) fuel (offset, [vrl]) with
  | none => return none
  | some (.error ret) => return some (.error ret)
  | some (.ok revocationLists) => return some (.ok (srmHeader, revocationLists))

/-- `SrmTable::RetrieveSrmFromBuffer`, with `fuel` rounds for its loop. -/
def SrmTable.retrieveSrmFromBuffer (t : SrmTable) (fuel length : ℕ) :
    SrmProg (Option (Errno × SrmTable)) := do
  match ← parseSrm fuel t.version length with
  | none => return none
  | some (.error ret) => return some (ret, t)
  | some (.ok (srmHeader, revocationLists)) =>
    return some (.success,
      { t with
        revocationListsByGeneration := revocationLists
        version := srmHeader.version
        generation := srmHeader.generation })

/-! ### Entry points -/

/-- `StoreSrm` on the global table. -/
def storeSrm (g : Option SrmTable) (fuel size : ℕ) :
    SrmProg (Option (Errno × Option SrmTable)) := do
  match g with
  | none => return some (.enodev, none)
  | some t =>
    match ← t.retrieveSrmFromBuffer fuel size with
    | none => return none
    | some (ret, t) =>
      if ret ≠ .success then
        return some (ret, some t)
      if t.isSrmStorageDisable then
        return some (.success, some t)
      if !(← openStorage true) then
        return some (.eio, some t)
      let bytesWritten ← writeStorage size
      closeStorage
      if bytesWritten ≠ size then
        return some (.eio, some t)
      return some (.success, some t)

/-- `CheckSrmRevoke` on the global table. -/
def checkSrmRevoke (g : Option SrmTable) (ksv : Ksv) : Errno :=
  match g with
  | some t => t.checkSrmRevoke ksv
  | none => .enodev

/-- The constructor of `SrmTable`: the value is the table and its `m_IsValid`.  The
message at `buf` is the storage file. -/
def newSrmTable (fuel : ℕ) : SrmProg (Option (SrmTable × Bool)) := do
  let t : SrmTable := ⟨0, 0, false, []⟩
  if !(← mutexInit) then
    return some (t, false)
  if !(← new .revocationLists) then
    return some (t, false)
  if !(← openStorage false) then
    return some (t, true)
  match ← fstat with
  | none =>
    closeStorage
    return some (t, true)
  | some sb =>
    if !sb.isRegular || sb.size = 0 then
      closeStorage
      return some (t, true)
    if !(← mmap) then
      closeStorage
      return some (t, true)
    match ← t.retrieveSrmFromBuffer fuel sb.size with
    | none => return none
    | some (_, t) =>
      closeStorage
      return some (t, true)

/-- `SrmInit` on the global table. -/
def srmInit (g : Option SrmTable) (fuel : ℕ) :
    SrmProg (Option (Errno × Option SrmTable)) := do
  if g.isSome then
    return some (.eexist, g)
  if !(← new .srmTable) then
    return some (.enomem, none)
  match ← newSrmTable fuel with
  | none => return none
  | some (t, isValid) =>
    if !isValid then
      return some (.einval, none)
    return some (.success, some t)

/-- `SrmConfig` on the global table. -/
def srmConfig (g : Option SrmTable) (disableSrmStorage : Bool) : Errno × Option SrmTable :=
  match g with
  | none => (.enodev, none)
  | some t => (.success, some { t with isSrmStorageDisable := disableSrmStorage })

end Hdcp.Srm
