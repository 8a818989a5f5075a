/-
What the SDK and the daemon send each other.

This file translates `common/socketdata.h`, the constants of `common/gensock.h` and
`sdk/hdcpapi.h` that concern the messages, and the two loops of `common/gensock.cpp` that
read and write a number of bytes.

A message is a `SocketData` as it lies in memory.  Its fields are of fixed width: an
enumeration that comes from the other side can have any value.  The SDK and the daemon are
built with the same layout of `SocketData`; which one it is matters nowhere, so that the
layout is a parameter, a codec.  `socketDataLayout` is the layout that the usual ABI gives.
-/
import Mathlib.Data.Fintype.Basic
import Hdcp.Library.Codec
import Hdcp.Library.Prog
import Hdcp.Status

namespace Hdcp.Socket

open Library

/-! ### Constants -/

abbrev numPhysicalPortsMax : ℕ := 5

abbrev portIdMax : UInt32 := 5

abbrev onePort : UInt32 := 1

abbrev maxKsvCount : UInt8 := 127

abbrev maxTopologyDepth : UInt8 := 7

abbrev ksvSize : ℕ := 5

abbrev maxSrmDataSz : ℕ := 6 * 1024

abbrev srmFirstGenMaxSize : ℕ := 5116

abbrev srmMinLength : UInt32 := 8

abbrev hdcpLevel0 : UInt8 := 0

abbrev hdcpLevel1 : UInt8 := 1

abbrev hdcpLevel2 : UInt8 := 2

/-- `HDCP_API_TYPE`. -/
abbrev HdcpApiType : Type := UInt32

namespace HdcpApi

abbrev create : HdcpApiType := 1

abbrev destroy : HdcpApiType := 2

abbrev enumerateHdcpDisplay : HdcpApiType := 3

abbrev sendSrmData : HdcpApiType := 4

abbrev getSrmVersion : HdcpApiType := 5

abbrev getStatus : HdcpApiType := 8

abbrev getKsvList : HdcpApiType := 9

abbrev reportStatus : HdcpApiType := 10

abbrev createCallBack : HdcpApiType := 12

abbrev setProtectionLevel : HdcpApiType := 13

abbrev config : HdcpApiType := 14

abbrev illegal : HdcpApiType := 15

end HdcpApi

/-- `HDCP_STATUS`. -/
abbrev HdcpStatus : Type := UInt32

namespace HdcpStatus

abbrev successful : HdcpStatus := 0

abbrev errorInvalidParameter : HdcpStatus := 2

abbrev errorNoDisplay : HdcpStatus := 3

abbrev errorSrmInvalid : HdcpStatus := 5

abbrev errorInsufficientMemory : HdcpStatus := 6

abbrev errorInternal : HdcpStatus := 7

abbrev errorSrmNotRecent : HdcpStatus := 8

abbrev errorMaxDevicesExceeded : HdcpStatus := 10

abbrev errorMaxDepthExceeded : HdcpStatus := 11

abbrev errorMsgTransaction : HdcpStatus := 12

end HdcpStatus

/-! ### Messages -/

structure Port where
  id : UInt32
  status : UInt32
  event : UInt32
deriving DecidableEq

structure HdcpConfig where
  type : UInt32
  disableSrmStorage : Bool
deriving DecidableEq

/-- The types of a configuration. -/
abbrev srmStorageConfig : UInt32 := 1

abbrev invalidConfig : UInt32 := 0

/-- `SocketData`.  `SinglePort` is the first one of `Ports`. -/
structure SocketData where
  size : UInt32
  command : HdcpApiType
  status : HdcpStatus
  ksvCount : UInt8
  depth : UInt8
  isType1Capable : Bool
  ports : Fin numPhysicalPortsMax → Port
  portCount : UInt32
  srmOrKsvListDataSz : UInt32
  srmVersion : UInt16
  config : HdcpConfig
  level : UInt8
deriving DecidableEq

/-- The place of `SinglePort`. -/
abbrev firstPort : Fin numPhysicalPortsMax := ⟨0, by decide⟩

def SocketData.singlePort (data : SocketData) : Port := data.ports firstPort

def SocketData.setSinglePort (data : SocketData) (port : Port) : SocketData :=
  { data with ports := Function.update data.ports firstPort port }

/-- The layout of a message: its `size` is `sizeof(SocketData)`. -/
abbrev Layout : Type := Codec SocketData

/-- The constructor of `SocketData`.  The fields that it does not set are 0 here; no
function reads such a field. -/
def newSocketData (L : Layout) : SocketData where
  size := UInt32.ofNat L.size
  command := HdcpApi.illegal
  status := HdcpStatus.errorInternal
  ksvCount := 0
  depth := 0
  isType1Capable := false
  ports := fun _ => ⟨0, 0, 0⟩
  portCount := 0
  srmOrKsvListDataSz := 0
  srmVersion := 0
  config := ⟨0, false⟩
  level := 0

/-- A message has bytes. -/
lemma layout_size_pos (L : Layout) : 0 < L.size := by
  -- two messages differ, so that they are not both encoded by no bytes
  by_contra hzero
  have hnil (d : SocketData) : L.encode d = [] := by
    rw [← List.length_eq_zero_iff, L.length_encode]
    omega
  have heq : newSocketData L = { newSocketData L with level := 1 } := by
    rw [← L.decode_encode (newSocketData L), hnil, ← hnil { newSocketData L with level := 1 },
      L.decode_encode]
  have hlevel : (0 : UInt8) = 1 := congrArg SocketData.level heq
  exact absurd hlevel (by decide)

open Codec in
def portLayout : Codec Port :=
  (uint32.prod (uint32.prod uint32)).rename (fun x => ⟨x.1, x.2.1, x.2.2⟩)
    (fun p => (p.id, p.status, p.event)) fun _ => rfl

open Codec in
def configLayout : Codec HdcpConfig :=
  (uint32.prod (bool.prod (padding 3))).rename (fun x => ⟨x.1, x.2.1⟩)
    (fun c => (c.type, c.disableSrmStorage, ())) fun _ => rfl

open Codec in
/-- Every field is aligned to its size. -/
def socketDataLayout : Layout :=
  (uint32.prod <| uint32.prod <| uint32.prod <| uint8.prod <| uint8.prod <| bool.prod <|
    (padding 1).prod <| (portLayout.array numPhysicalPortsMax).prod <| uint32.prod <|
    uint32.prod <| uint16.prod <| (padding 2).prod <| configLayout.prod <|
    uint8.prod (padding 3)).rename
    (fun (size, command, status, ksvCount, depth, isType1Capable, _, ports, portCount,
      srmOrKsvListDataSz, srmVersion, _, config, level, _) =>
      ⟨size, command, status, ksvCount, depth, isType1Capable, ports, portCount,
        srmOrKsvListDataSz, srmVersion, config, level⟩)
    (fun d => (d.size, d.command, d.status, d.ksvCount, d.depth, d.isType1Capable, (), d.ports,
      d.portCount, d.srmOrKsvListDataSz, d.srmVersion, (), d.config, d.level, ()))
    fun _ => rfl

example : socketDataLayout.size = 100 := rfl

/-! ### Reading and writing a number of bytes -/

/-- Whether a `read` of at most `n` bytes can have this answer. -/
def readAnswer (n : ℕ) : Except Errno (List UInt8) → Bool
  | .error _ => true
  | .ok bytes => bytes.length ≤ n

/-- Whether a `send` of `n` bytes can have this answer. -/
def sendAnswer (n : ℕ) : Except Errno ℕ → Bool
  | .error _ => true
  | .ok count => 0 < count ∧ count ≤ n

/-- The bytes that a `read` has read. -/
def readBytes : Except Errno (List UInt8) → List UInt8
  | .ok bytes => bytes
  | .error _ => []

/-- The bytes that a `send` has sent. -/
def sentBytes (data : List UInt8) : Except Errno ℕ → List UInt8
  | .ok n => data.take n
  | .error _ => []

variable {S : Sig}

/-- The loop of `ReadData`: `read n` answers with at most `n` bytes, none at the end of the
stream.  A call that is interrupted is repeated; it is left out.  Every round reads a
byte, so that `rounds` suffices when it is at least `bytesRemaining`. -/
def readLoop (read : ℕ → Prog S (Except Errno (List UInt8))) :
    (rounds bytesRemaining : ℕ) → (data : List UInt8) → Prog S (Except Errno (List UInt8))
  | 0, _, data => return .ok data
  | rounds + 1, bytesRemaining, data => do
    if bytesRemaining = 0 then
      return .ok data
    match ← read bytesRemaining with
    | .error e => return .error e
    | .ok bytes =>
      if bytes.isEmpty then
        return .error .enotconn
      readLoop read rounds (bytesRemaining - bytes.length) (data ++ bytes)

def readData (read : ℕ → Prog S (Except Errno (List UInt8))) (dataSz : ℕ) :
    Prog S (Except Errno (List UInt8)) :=
  readLoop read dataSz dataSz []

/-- The loop of `WriteData`: `send data` answers how many of the bytes were sent. -/
def writeLoop (send : List UInt8 → Prog S (Except Errno ℕ)) :
    (rounds : ℕ) → (data : List UInt8) → Prog S Errno
  | 0, _ => return .success
  | rounds + 1, data => do
    if data.isEmpty then
      return .success
    match ← send data with
    | .error e => return e
    | .ok count => writeLoop send rounds (data.drop count)

def writeData (send : List UInt8 → Prog S (Except Errno ℕ)) (data : List UInt8) :
    Prog S Errno :=
  writeLoop send data.length data

variable {A : S.Op → Prop} {read : ℕ → Prog S (Except Errno (List UInt8))}
  {send : List UInt8 → Prog S (Except Errno ℕ)}

lemma uses_readLoop (hread : ∀ n, (read n).Uses A) (rounds n : ℕ) (data : List UInt8) :
    (readLoop read rounds n data).Uses A := by
  induction rounds generalizing n data with
  | zero => trivial
  | succ rounds ih =>
      refine Prog.Uses.ite (fun _ => trivial) fun _ => (hread n).bind ?_
      rintro (e | bytes)
      · trivial
      · exact Prog.Uses.ite (fun _ => trivial) fun _ => ih _ _

lemma uses_writeLoop (hsend : ∀ data, (send data).Uses A) (rounds : ℕ) (data : List UInt8) :
    (writeLoop send rounds data).Uses A := by
  induction rounds generalizing data with
  | zero => trivial
  | succ rounds ih =>
      refine Prog.Uses.ite (fun _ => trivial) fun _ => (hsend data).bind ?_
      rintro (e | count)
      · trivial
      · exact ih _

/-- What a `WriteData` that reports success says is what it was given, when every `send` says
the bytes that it sends. -/
lemma said_writeLoop {β : Type} (said : List (Event S) → List β) (say : List UInt8 → List β)
    {P : Event S → Prop} (hsaidNil : said [] = [])
    (hsaidAppend : ∀ log log', said (log ++ log') = said log ++ said log')
    (hsayNil : say [] = []) (hsayAppend : ∀ xs ys, say (xs ++ ys) = say xs ++ say ys)
    (hsend : ∀ {data log r}, (send data).Runs log r → (∀ e ∈ log, P e) →
      said log = say (sentBytes data r) ∧ sendAnswer data.length r ∧ r ≠ .error .success)
    (rounds : ℕ) {data : List UInt8} {log : List (Event S)} (hrounds : data.length ≤ rounds)
    (h : (writeLoop send rounds data).Runs log .success) (hlog : ∀ e ∈ log, P e) :
    said log = say data := by
  induction rounds generalizing data log with
  | zero =>
      obtain ⟨rfl, -⟩ := Prog.runs_ret.1 h
      rw [List.eq_nil_of_length_eq_zero (Nat.le_zero.1 hrounds), hsaidNil, hsayNil]
  | succ rounds ih =>
      rw [writeLoop] at h
      by_cases hempty : data.isEmpty = true
      · rw [if_pos hempty] at h
        obtain ⟨rfl, -⟩ := Prog.runs_ret.1 h
        rw [List.isEmpty_iff.1 hempty, hsaidNil, hsayNil]
      · rw [if_neg hempty] at h
        obtain ⟨r, l, l', hop, hround, rfl⟩ := Prog.runs_bind.1 h
        obtain ⟨hl, hl'⟩ := List.forall_mem_append.1 hlog
        obtain ⟨hsaid, hanswer, herror⟩ := hsend hop hl
        cases r with
        | error e =>
            obtain ⟨-, rfl⟩ := Prog.runs_ret.1 hround
            exact absurd rfl herror
        | ok count =>
            obtain ⟨hpos, hcount⟩ := of_decide_eq_true hanswer
            have hrest : said l' = say (data.drop count) :=
              ih (by rw [List.length_drop]; omega) hround hl'
            rw [hsaidAppend, hsaid, hrest, ← hsayAppend, sentBytes, List.take_append_drop]

end Hdcp.Socket
