/-
Transfers over a stream socket.

`ReadData` and `WriteData` of `common/gensock.cpp` call `read` and `send` until all bytes have
been transferred; a call may transfer a part of the bytes, or fail with `EINTR` or `EAGAIN`, and
is then repeated.  In `Socket.Data` they appear without the repeated calls and without the
buffers; here they are translated with both, against a stream that takes and delivers the bytes
in parts, after a schedule.

`transfer_exact`: whatever the schedule, `ReadData` succeeds when the bytes arrive, stores
exactly these bytes and consumes no other; `WriteData` appends exactly the bytes that it is
given; and blocks that are written are read again as they were.
-/
import Hdcp.Library.Bytes
import Hdcp.Library.Prog
import Hdcp.Status

namespace Hdcp.Transfer

open Library
open Library.Prog (op iter exec Post post_call)

/-! ### The two functions -/

/-- The calls of the system, with addresses, and what the callers of the two functions do with
their buffers. -/
inductive StreamOp where
  | read (fd : ℤ) (addr n : ℕ)
  | send (fd : ℤ) (addr n : ℕ)
  | errno
  | load (addr n : ℕ)

def StreamOp.Ans : StreamOp → Type
  | read _ _ _ => ℤ
  | send _ _ _ => ℤ
  | errno => ℤ
  | load _ _ => List UInt8

abbrev streamSig : Sig := ⟨StreamOp, StreamOp.Ans⟩

abbrev StreamProg (α : Type) : Type := Prog streamSig α

def read (fd : ℤ) (addr n : ℕ) : StreamProg ℤ := op (S := streamSig) (.read fd addr n)

def send (fd : ℤ) (addr n : ℕ) : StreamProg ℤ := op (S := streamSig) (.send fd addr n)

def errno : StreamProg ℤ := op (S := streamSig) .errno

def load (addr n : ℕ) : StreamProg (List UInt8) := op (S := streamSig) (.load addr n)

/-- `bytesRemaining`, an `ssize_t`, and `offset`, a `uint32_t`. -/
structure Left where
  bytesRemaining : ℤ
  offset : ℕ

/-- `bytesRemaining -= count; offset += count;` -/
def Left.advance (l : Left) (count : ℤ) : Left :=
  ⟨l.bytesRemaining - count, u32 (l.offset + count.toNat)⟩

/-- A failure that is answered with another call. -/
def Transient (errno : ℤ) : Prop := Errno.eintr.code = errno ∨ Errno.eagain.code = errno

instance (errno : ℤ) : Decidable (Transient errno) := inferInstanceAs (Decidable (_ ∨ _))

/-- A round of the loop of `ReadData`. -/
def readRound (fd : ℤ) (data : ℕ) (l : Left) : StreamProg (Left ⊕ ℤ) := do
  if l.bytesRemaining > 0 then
    let count ← read fd (data + l.offset) l.bytesRemaining.toNat
    if count = -1 then
      let err ← errno
      if Transient err then
        return .inl l
      else
        return .inr err
    else if count = 0 then
      return .inr Errno.enotconn.code
    else
      return .inl (l.advance count)
  else
    return .inr Errno.success.code

/-- `data` is an address, or null.  `none` when the loop is cut off. -/
def readData (fuel : ℕ) (fd : ℤ) (data : Option ℕ) (dataSz : ℤ) : StreamProg (Option ℤ) :=
  match data with
  | none => return some Errno.einval.code
  | some data =>
    if fd = -1 then
      return some Errno.einval.code
    else
      iter (readRound fd data) fuel ⟨dataSz, 0⟩

/-- A round of the loop of `WriteData`. -/
def writeRound (fd : ℤ) (data : ℕ) (l : Left) : StreamProg (Left ⊕ ℤ) := do
  if l.bytesRemaining > 0 then
    let count ← send fd (data + l.offset) l.bytesRemaining.toNat
    if count = -1 then
      let err ← errno
      if Transient err then
        return .inl l
      else
        return .inr err
    else
      return .inl (l.advance count)
  else
    return .inr Errno.success.code

def writeData (fuel : ℕ) (fd : ℤ) (data : Option ℕ) (dataSz : ℤ) : StreamProg (Option ℤ) :=
  match data with
  | none => return some Errno.einval.code
  | some data =>
    if fd = -1 then
      return some Errno.einval.code
    else
      iter (writeRound fd data) fuel ⟨dataSz, 0⟩

/-! ### The stream -/

/-- What a call does. -/
inductive Attempt where
  /-- It transfers at most so many bytes. -/
  | part (k : ℕ)
  | interrupted
  | again

/-- A stream of bytes, and the memory of the processes at its two ends. -/
structure ByteStream where
  mem : Mem
  errno : ℤ
  /-- The bytes that have been sent, and those that will arrive before the end. -/
  bytes : List UInt8
  /-- What follows them: the end of the stream, or an error. -/
  ending : Option ℤ
  /-- How many bytes the stream still takes, and the error that follows them. -/
  room : Option (ℕ × ℤ)
  /-- What the next calls do.  Those that follow transfer all they can. -/
  schedule : List Attempt

namespace ByteStream

/-- A call that fails. -/
def fail (s : ByteStream) (err : ℤ) : ℤ × ByteStream := (-1, { s with errno := err })

/-- A `read` of at most `limit` bytes. -/
def deliver (s : ByteStream) (limit addr n : ℕ) : ℤ × ByteStream :=
  if s.bytes = [] then
    match s.ending with
    | none => (0, s)
    | some err => s.fail err
  else
    let count := min limit (min n s.bytes.length)
    (count, { s with
      mem := copyInto s.mem addr (memOf s.bytes) count
      bytes := s.bytes.drop count })

/-- How many of `n` bytes the stream takes. -/
def space (s : ByteStream) (n : ℕ) : ℕ :=
  match s.room with
  | none => n
  | some (m, _) => min n m

/-- A `send` of `count` bytes. -/
def append (s : ByteStream) (addr count : ℕ) : ℤ × ByteStream :=
  (count, { s with
    bytes := s.bytes ++ slice s.mem addr count
    room := s.room.map fun r => (r.1 - count, r.2) })

/-- A `send` of at most `limit` bytes. -/
def accept (s : ByteStream) (limit addr n : ℕ) : ℤ × ByteStream :=
  match s.room with
  | none => s.append addr (min limit n)
  | some (0, err) => s.fail err
  | some (m + 1, _) => s.append addr (min limit (min n (m + 1)))

/-- A `read` that does not fail delivers a byte at least, a `send` may take none. -/
def handler : Handler streamSig ByteStream
  | .read _ addr n, s =>
    match s.schedule with
    | [] => s.deliver n addr n
    | .part k :: rest => { s with schedule := rest }.deliver (max 1 k) addr n
    | .interrupted :: rest => { s with schedule := rest }.fail Errno.eintr.code
    | .again :: rest => { s with schedule := rest }.fail Errno.eagain.code
  | .send _ addr n, s =>
    match s.schedule with
    | [] => s.accept n addr n
    | .part k :: rest => { s with schedule := rest }.accept k addr n
    | .interrupted :: rest => { s with schedule := rest }.fail Errno.eintr.code
    | .again :: rest => { s with schedule := rest }.fail Errno.eagain.code
  | .errno, s => (s.errno, s)
  | .load addr n, s => (slice s.mem addr n, s)

end ByteStream

/-! ### Reading -/

namespace ByteStream

/-- The errors that end a transfer. -/
structure Hard (s : ByteStream) : Prop where
  ending : ∀ err, s.ending = some err → ¬ Transient err ∧ err ≠ Errno.success.code
  room : ∀ m err, s.room = some (m, err) → ¬ Transient err ∧ err ≠ Errno.success.code

/-- `n` bytes were read into the memory at `addr`, or as many as there were. -/
structure Reads (s s' : ByteStream) (addr n : ℕ) : Prop where
  mem : ∀ i, s'.mem i =
    if addr ≤ i ∧ i < addr + n then s.bytes.getD (i - addr) (s.mem i) else s.mem i
  bytes : s'.bytes = s.bytes.drop n
  ending : s'.ending = s.ending
  room : s'.room = s.room
  schedule : s'.schedule.length ≤ s.schedule.length

lemma Reads.trans {s s' s'' : ByteStream} {addr m n : ℕ} (h : Reads s s' addr m)
    (h' : Reads s' s'' (addr + m) n) : Reads s s'' addr (m + n) := by
  refine ⟨fun i => ?_, by rw [h'.bytes, h.bytes, List.drop_drop], h'.ending.trans h.ending,
    h'.room.trans h.room, h'.schedule.trans h.schedule⟩
  rw [h'.mem, h.mem, h.bytes]
  by_cases hfirst : addr ≤ i ∧ i < addr + m
  · rw [if_neg (by omega), if_pos hfirst, if_pos (by omega)]
  · rw [if_neg hfirst]
    by_cases hsecond : addr + m ≤ i ∧ i < addr + m + n
    · rw [if_pos hsecond, if_pos (by omega), List.getD_eq_getElem?_getD,
        List.getD_eq_getElem?_getD, List.getElem?_drop]
      congr 3
      omega
    · rw [if_neg hsecond, if_neg (by omega)]

/-- The bytes that were read are in the buffer. -/
lemma Reads.slice_mem {s s' : ByteStream} {addr n : ℕ} (h : Reads s s' addr n)
    (hn : n ≤ s.bytes.length) : slice s'.mem addr n = s.bytes.take n := by
  refine List.ext_getElem (by simpa using hn) fun i hi _ => ?_
  rw [length_slice] at hi
  rw [getElem_slice, h.mem, if_pos (by omega), Nat.add_sub_cancel_left, List.getElem_take,
    List.getD_eq_getElem _ _ (by omega)]

/-- Nothing was read, or there was nothing to read. -/
lemma reads_of_same {s s' : ByteStream} {addr n : ℕ} (hmem : s'.mem = s.mem)
    (hbytes : s'.bytes = s.bytes) (hending : s'.ending = s.ending) (hroom : s'.room = s.room)
    (hschedule : s'.schedule.length ≤ s.schedule.length) (hnone : n = 0 ∨ s.bytes = []) :
    Reads s s' addr n := by
  refine ⟨fun i => ?_, ?_, hending, hroom, hschedule⟩
  · rw [hmem]
    split_ifs with hi
    · rcases hnone with rfl | hnil
      · omega
      · rw [hnil, List.getD_nil]
    · rfl
  · rcases hnone with rfl | hnil
    · rw [hbytes, List.drop_zero]
    · rw [hbytes, hnil, List.drop_nil]

lemma Reads.hard {s s' : ByteStream} {addr n : ℕ} (h : Reads s s' addr n) (hhard : s.Hard) :
    s'.Hard :=
  ⟨h.ending ▸ hhard.ending, h.room ▸ hhard.room⟩

/-- The calls that are needed: those of the schedule, and one for the rest. -/
def readCalls (s : ByteStream) (n : ℕ) : ℕ :=
  s.schedule.length + if n = 0 ∨ s.bytes = [] then 0 else 1

/-- What a `read` of `n` bytes can do. -/
inductive ReadAnswer (s : ByteStream) (addr n : ℕ) : ℤ × ByteStream → Prop where
  | transient {s' : ByteStream} (herrno : Transient s'.errno) (h : Reads s s' addr 0)
      (hcalls : s'.readCalls n < s.readCalls n) : ReadAnswer s addr n (-1, s')
  | atEnd {s' : ByteStream} (hbytes : s.bytes = []) (hending : s.ending = none)
      (h : Reads s s' addr n) : ReadAnswer s addr n (0, s')
  | failed {s' : ByteStream} (hbytes : s.bytes = []) (hending : s.ending = some s'.errno)
      (h : Reads s s' addr n) : ReadAnswer s addr n (-1, s')
  | part {s' : ByteStream} {count : ℕ} (hpos : 0 < count) (hle : count ≤ n)
      (hbytes : count ≤ s.bytes.length) (h : Reads s s' addr count)
      (hcalls : s'.readCalls (n - count) < s.readCalls n) : ReadAnswer s addr n (count, s')

/-- A delivery of at most `limit` bytes, when the schedule had a call for it, or of all that
there is. -/
lemma readAnswer_deliver (s : ByteStream) {rest : List Attempt} {limit addr n : ℕ} (hn : 0 < n)
    (hlimit : 0 < limit) (hrest : rest.length < s.schedule.length ∨
      rest.length = s.schedule.length ∧ limit = n) :
    ReadAnswer s addr n ({ s with schedule := rest }.deliver limit addr n) := by
  have hle : rest.length ≤ s.schedule.length := by omega
  rw [deliver]
  split_ifs with hbytes
  · rcases hending : s.ending with _ | err
    · exact .atEnd hbytes hending (reads_of_same rfl rfl hending.symm rfl hle (.inr hbytes))
    · exact .failed hbytes hending (reads_of_same rfl rfl hending.symm rfl hle (.inr hbytes))
  · have hnil : s.bytes ≠ [] := hbytes
    have hlen : 0 < s.bytes.length := List.length_pos_iff.2 hnil
    show ReadAnswer s addr n ((min limit (min n s.bytes.length) : ℕ), { s with
      mem := copyInto s.mem addr (memOf s.bytes) (min limit (min n s.bytes.length))
      bytes := s.bytes.drop (min limit (min n s.bytes.length))
      schedule := rest })
    obtain ⟨count, hcount⟩ : ∃ count, min limit (min n s.bytes.length) = count := ⟨_, rfl⟩
    rw [hcount]
    refine .part (by omega) (by omega) (by omega) ⟨fun i => ?_, rfl, rfl, rfl, hle⟩ ?_
    · show (if addr ≤ i ∧ i < addr + count then memOf s.bytes (i - addr) else s.mem i) = _
      split_ifs with hi
      · rw [memOf, List.getD_eq_getElem _ _ (by omega), List.getD_eq_getElem _ _ (by omega)]
      · rfl
    · show rest.length + (if n - count = 0 ∨ s.bytes.drop count = [] then 0 else 1) <
        s.schedule.length + (if n = 0 ∨ s.bytes = [] then 0 else 1)
      have hone : (if n = 0 ∨ s.bytes = [] then 0 else 1) = 1 :=
        if_neg (not_or.2 ⟨Nat.ne_of_gt hn, hnil⟩)
      rw [hone]
      rcases hrest with hlt | ⟨heq, rfl⟩
      · split_ifs <;> omega
      · -- all that can be delivered is delivered: no further call is needed
        rw [if_pos, heq]
        · omega
        · rw [List.drop_eq_nil_iff]
          omega

lemma readAnswer_handler (s : ByteStream) (fd : ℤ) (addr : ℕ) {n : ℕ} (hn : 0 < n) :
    ReadAnswer s addr n (handler (.read fd addr n) s) := by
  have hfail : ∀ rest err, rest.length < s.schedule.length → Transient err →
      ReadAnswer s addr n ({ s with schedule := rest }.fail err) := by
    intro rest err hlt herr
    exact .transient herr (reads_of_same rfl rfl rfl rfl hlt.le (.inl rfl))
      (Nat.add_lt_add_right hlt _)
  rw [handler]
  rcases hs : s.schedule with _ | ⟨_ | _ | _, rest⟩
  · exact readAnswer_deliver s hn hn (.inr ⟨rfl, rfl⟩)
  · exact readAnswer_deliver s hn (by omega) (.inl (by simp [hs]))
  · exact hfail rest _ (by simp [hs]) (.inl rfl)
  · exact hfail rest _ (by simp [hs]) (.inr rfl)

/-- What `ReadData` answers for `n` bytes. -/
def readResult (s : ByteStream) (n : ℕ) : ℤ :=
  if n ≤ s.bytes.length then Errno.success.code else s.ending.getD Errno.enotconn.code

lemma post_read {α : Type} {s : ByteStream} {fd : ℤ} {addr n : ℕ} {answer : ℤ × ByteStream}
    (hanswer : handler (.read fd addr n) s = answer) {f : ℤ → StreamProg α}
    {Q : α → List (Event streamSig) → ByteStream → Prop} :
    Post handler (read fd addr n >>= f) s Q ↔
      Post handler (f answer.1) answer.2 fun a l s' =>
        Q a (⟨.read fd addr n, answer.1⟩ :: l) s' := by
  subst hanswer
  rfl

lemma post_errno {α : Type} {s : ByteStream} {f : ℤ → StreamProg α}
    {Q : α → List (Event streamSig) → ByteStream → Prop} :
    Post handler (Transfer.errno >>= f) s Q ↔
      Post handler (f s.errno) s fun a l s' => Q a (⟨.errno, s.errno⟩ :: l) s' := Iff.rfl

lemma advance_natCast {n offset count : ℕ} (hle : count ≤ n) (hoffset : offset + n < 2 ^ 32) :
    (⟨n, offset⟩ : Left).advance count = ⟨(n - count : ℕ), offset + count⟩ := by
  rw [Left.advance, Int.toNat_natCast, u32_of_lt (by dsimp only; omega), Int.natCast_sub hle]

/-- What a round of the loop can do with `n` bytes left: it reads some of them, or none when the
call fails and is repeated, or it ends. -/
inductive ReadRound (s : ByteStream) (addr n offset : ℕ) : Left ⊕ ℤ → ByteStream → Prop where
  | again {s' : ByteStream} (count : ℕ) (hle : count ≤ n) (hbytes : count ≤ s.bytes.length)
      (h : Reads s s' addr count) (hcalls : s'.readCalls (n - count) < s.readCalls n) :
      ReadRound s addr n offset (.inl ⟨(n - count : ℕ), offset + count⟩) s'
  | done {s' : ByteStream} (h : Reads s s' addr n) :
      ReadRound s addr n offset (.inr (s.readResult n)) s'

lemma post_readRound {s : ByteStream} {fd : ℤ} {data n offset : ℕ} (hhard : s.Hard)
    (hoffset : offset + n < 2 ^ 32) :
    Post handler (readRound fd data ⟨n, offset⟩) s fun r _ s' =>
      ReadRound s (data + offset) n offset r s' := by
  rw [readRound]
  rcases Nat.eq_zero_or_pos n with rfl | hn
  · rw [if_neg (by simp)]
    have hdone : ReadRound s (data + offset) 0 offset (.inr (s.readResult 0)) s :=
      .done (reads_of_same rfl rfl rfl rfl le_rfl (.inl rfl))
    exact hdone
  · obtain ⟨answer, hanswer⟩ : ∃ answer : ℤ × ByteStream,
        handler (.read fd (data + offset) n) s = answer := ⟨_, rfl⟩
    rw [if_pos (by simpa using hn)]
    simp only [Int.toNat_natCast, post_read hanswer]
    have hcase := hanswer ▸ readAnswer_handler s fd (data + offset) hn
    cases hcase with
    | @transient s' herrno h hcalls =>
        rw [if_pos rfl]
        rw [post_errno, if_pos herrno]
        exact .again 0 (by omega) (by omega) h hcalls
    | @atEnd s' hbytes hending h =>
        rw [if_neg (by simp), if_pos rfl]
        have hdone : ReadRound s (data + offset) n offset (.inr (s.readResult n)) s' := .done h
        rw [readResult, if_neg (by simpa [hbytes] using Nat.ne_of_gt hn), hending] at hdone
        exact hdone
    | @failed s' hbytes hending h =>
        rw [if_pos rfl]
        rw [post_errno, if_neg (hhard.ending _ hending).1]
        have hdone : ReadRound s (data + offset) n offset (.inr (s.readResult n)) s' := .done h
        rw [readResult, if_neg (by simpa [hbytes] using Nat.ne_of_gt hn), hending] at hdone
        exact hdone
    | @part s' count hpos hle hbytes h hcalls =>
        rw [if_neg (by simp), if_neg (by simpa using Nat.ne_of_gt hpos),
          advance_natCast hle hoffset]
        exact .again count hle hbytes h hcalls

/-- The loop, with `n` bytes left to read. -/
lemma post_readLoop {fd : ℤ} {data : ℕ} (fuel : ℕ) : ∀ {s : ByteStream} {n offset : ℕ}, s.Hard →
    offset + n < 2 ^ 32 → s.readCalls n < fuel →
    Post handler (iter (readRound fd data) fuel ⟨n, offset⟩) s fun r _ s' =>
      r = some (s.readResult n) ∧ Reads s s' (data + offset) n := by
  induction fuel with
  | zero =>
      intro s n offset _ _ hfuel
      omega
  | succ fuel ih =>
      intro s n offset hhard hoffset hfuel
      rw [Prog.iter_succ]
      refine Post.bind (post_readRound hhard hoffset) ?_
      rintro _ l s' (⟨count, hle, hbytes, h, hcalls⟩ | h)
      · refine (ih (h.hard hhard) (by omega) (by omega)).mono ?_
        rintro r l' s'' ⟨rfl, h'⟩
        refine ⟨?_, ?_⟩
        · rw [readResult, readResult, h.bytes, h.ending, List.length_drop]
          have hiff : n - count ≤ s.bytes.length - count ↔ n ≤ s.bytes.length := by omega
          simp only [hiff]
        · have htrans := h.trans (by rwa [← Nat.add_assoc] at h')
          rwa [Nat.add_sub_cancel' hle] at htrans
      · exact ⟨rfl, h⟩

/-! ### Sending -/

/-- `n` bytes of the memory at `addr` were sent, or as many as the stream takes. -/
structure Sends (s s' : ByteStream) (addr n : ℕ) : Prop where
  mem : s'.mem = s.mem
  bytes : s'.bytes = s.bytes ++ slice s.mem addr (s.space n)
  ending : s'.ending = s.ending
  room : s'.room = s.room.map fun r => (r.1 - n, r.2)
  schedule : s'.schedule.length ≤ s.schedule.length

/-- What was sent and what can be sent then. -/
lemma space_add {s s' : ByteStream} {m n : ℕ} (hroom : s'.room = s.room.map fun r => (r.1 - m, r.2))
    (hm : s.space m = m) : s.space (m + n) = m + s'.space n := by
  rcases hs : s.room with _ | ⟨k, err⟩
  · simp only [space, hroom, hs, Option.map_none]
  · simp only [space, hroom, hs, Option.map_some] at hm ⊢
    omega

lemma Sends.trans {s s' s'' : ByteStream} {addr m n : ℕ} (h : Sends s s' addr m)
    (hm : s.space m = m) (h' : Sends s' s'' (addr + m) n) : Sends s s'' addr (m + n) := by
  refine ⟨h'.mem.trans h.mem, ?_, h'.ending.trans h.ending, ?_, h'.schedule.trans h.schedule⟩
  · rw [h'.bytes, h.bytes, h.mem, hm, space_add h.room hm, slice_add, List.append_assoc]
  · rw [h'.room, h.room]
    rcases s.room with _ | ⟨k, err⟩
    · rfl
    · simp [Nat.sub_sub]

lemma Sends.hard {s s' : ByteStream} {addr n : ℕ} (h : Sends s s' addr n) (hhard : s.Hard) :
    s'.Hard := by
  refine ⟨h.ending ▸ hhard.ending, fun m err hroom => ?_⟩
  rw [h.room] at hroom
  obtain ⟨⟨k, err'⟩, hk, heq⟩ := Option.map_eq_some_iff.1 hroom
  obtain ⟨-, rfl⟩ := Prod.mk.inj heq
  exact hhard.room k err' hk

/-- Nothing was sent, or the stream took nothing. -/
lemma sends_of_same {s s' : ByteStream} {addr n : ℕ} (hmem : s'.mem = s.mem)
    (hbytes : s'.bytes = s.bytes) (hending : s'.ending = s.ending) (hroom : s'.room = s.room)
    (hschedule : s'.schedule.length ≤ s.schedule.length)
    (hnone : n = 0 ∨ ∃ err, s.room = some (0, err)) : Sends s s' addr n := by
  refine ⟨hmem, ?_, hending, ?_, hschedule⟩
  · have hspace : s.space n = 0 := by
      rcases hnone with rfl | ⟨err, hfull⟩
      · rw [space]
        split <;> simp
      · rw [space, hfull]
        exact Nat.min_zero n
    rw [hbytes, hspace, slice_zero, List.append_nil]
  · rw [hroom]
    rcases hnone with rfl | ⟨err, hfull⟩
    · simp
    · simp [hfull]

/-- The calls that are needed: those of the schedule, and one for the rest. -/
def sendCalls (s : ByteStream) (n : ℕ) : ℕ :=
  s.schedule.length + if n = 0 ∨ s.space 1 = 0 then 0 else 1

/-- What a `send` of `n` bytes can do. -/
inductive SendAnswer (s : ByteStream) (addr n : ℕ) : ℤ × ByteStream → Prop where
  | transient {s' : ByteStream} (herrno : Transient s'.errno) (h : Sends s s' addr 0)
      (hcalls : s'.sendCalls n < s.sendCalls n) : SendAnswer s addr n (-1, s')
  | failed {s' : ByteStream} (hroom : s.room = some (0, s'.errno)) (h : Sends s s' addr n) :
      SendAnswer s addr n (-1, s')
  | part {s' : ByteStream} {count : ℕ} (hle : count ≤ n) (hspace : s.space count = count)
      (h : Sends s s' addr count) (hcalls : s'.sendCalls (n - count) < s.sendCalls n) :
      SendAnswer s addr n (count, s')

/-- Some bytes are taken, or none. -/
lemma sendAnswer_part (s : ByteStream) {rest : List Attempt} {limit addr n : ℕ} (hn : 0 < n)
    (hspace : s.space 1 = 1) (hrest : rest.length < s.schedule.length ∨
      rest.length = s.schedule.length ∧ limit = n) :
    SendAnswer s addr n ({ s with schedule := rest }.append addr (min limit (s.space n))) := by
  have hle : rest.length ≤ s.schedule.length := by omega
  obtain ⟨count, hcount⟩ : ∃ count, min limit (s.space n) = count := ⟨_, rfl⟩
  rw [hcount]
  obtain ⟨hcountLe, hroom⟩ : count ≤ n ∧ s.space count = count := by
    rcases hs : s.room with _ | ⟨m, err⟩ <;> simp only [space, hs, and_true] at hcount ⊢ <;> omega
  refine .part hcountLe hroom ⟨rfl, by rw [hroom], rfl, rfl, hle⟩ ?_
  rw [sendCalls, sendCalls, hspace]
  have hone : (if n = 0 ∨ 1 = 0 then 0 else 1) = 1 := if_neg (by omega)
  rw [hone]
  rcases hrest with hlt | ⟨heq, rfl⟩
  · dsimp only
    split_ifs <;> omega
  · -- all that the stream takes is sent: no further call is needed
    have hdone : limit - count = 0 ∨ space { s with
        bytes := s.bytes ++ slice s.mem addr count
        room := s.room.map fun r => (r.1 - count, r.2)
        schedule := rest } 1 = 0 := by
      rcases hs : s.room with _ | ⟨m, err⟩ <;>
        simp only [space, hs, Option.map_none, Option.map_some] at hcount ⊢ <;> omega
    rw [if_pos hdone]
    dsimp only
    omega

lemma accept_full {s : ByteStream} {err : ℤ} (hroom : s.room = some (0, err)) (limit addr n : ℕ) :
    s.accept limit addr n = s.fail err := by
  simp only [accept, hroom]

lemma accept_of_space {s : ByteStream} (hspace : s.space 1 = 1) (limit addr n : ℕ) :
    s.accept limit addr n = s.append addr (min limit (s.space n)) := by
  rcases hroom : s.room with _ | ⟨_ | m, err⟩
  · simp only [accept, space, hroom]
  · simp [space, hroom] at hspace
  · simp only [accept, space, hroom]

lemma sendAnswer_accept (s : ByteStream) {rest : List Attempt} {limit addr n : ℕ} (hn : 0 < n)
    (hrest : rest.length < s.schedule.length ∨
      rest.length = s.schedule.length ∧ limit = n) :
    SendAnswer s addr n ({ s with schedule := rest }.accept limit addr n) := by
  have hle : rest.length ≤ s.schedule.length := by omega
  have hcases : (∃ err, s.room = some (0, err)) ∨ s.space 1 = 1 := by
    rcases hs : s.room with _ | ⟨_ | m, err⟩
    · exact .inr (by rw [space, hs])
    · exact .inl ⟨err, rfl⟩
    · exact .inr (by simp [space, hs])
  rcases hcases with ⟨err, hfull⟩ | hspace
  · rw [accept_full (s := { s with schedule := rest }) hfull]
    exact .failed hfull (sends_of_same rfl rfl rfl rfl hle (.inr ⟨err, hfull⟩))
  · rw [accept_of_space (s := { s with schedule := rest }) hspace]
    exact sendAnswer_part s hn hspace hrest

lemma sendAnswer_handler (s : ByteStream) (fd : ℤ) (addr : ℕ) {n : ℕ} (hn : 0 < n) :
    SendAnswer s addr n (handler (.send fd addr n) s) := by
  have hfail : ∀ rest err, rest.length < s.schedule.length → Transient err →
      SendAnswer s addr n ({ s with schedule := rest }.fail err) := by
    intro rest err hlt herr
    exact .transient herr (sends_of_same rfl rfl rfl rfl hlt.le (.inl rfl))
      (Nat.add_lt_add_right hlt _)
  rw [handler]
  rcases hs : s.schedule with _ | ⟨_ | _ | _, rest⟩
  · exact sendAnswer_accept s hn (.inr ⟨rfl, rfl⟩)
  · exact sendAnswer_accept s hn (.inl (by simp [hs]))
  · exact hfail rest _ (by simp [hs]) (.inl rfl)
  · exact hfail rest _ (by simp [hs]) (.inr rfl)

/-- What `WriteData` answers for `n` bytes. -/
def sendResult (s : ByteStream) (n : ℕ) : ℤ :=
  match s.room with
  | none => Errno.success.code
  | some (m, err) => if n ≤ m then Errno.success.code else err

lemma post_send {α : Type} {s : ByteStream} {fd : ℤ} {addr n : ℕ} {answer : ℤ × ByteStream}
    (hanswer : handler (.send fd addr n) s = answer) {f : ℤ → StreamProg α}
    {Q : α → List (Event streamSig) → ByteStream → Prop} :
    Post handler (send fd addr n >>= f) s Q ↔
      Post handler (f answer.1) answer.2 fun a l s' =>
        Q a (⟨.send fd addr n, answer.1⟩ :: l) s' := by
  subst hanswer
  rfl

/-- What a round of the loop can do with `n` bytes left. -/
inductive WriteRound (s : ByteStream) (addr n offset : ℕ) : Left ⊕ ℤ → ByteStream → Prop where
  | again {s' : ByteStream} (count : ℕ) (hle : count ≤ n) (hspace : s.space count = count)
      (h : Sends s s' addr count) (hcalls : s'.sendCalls (n - count) < s.sendCalls n) :
      WriteRound s addr n offset (.inl ⟨(n - count : ℕ), offset + count⟩) s'
  | done {s' : ByteStream} (h : Sends s s' addr n) :
      WriteRound s addr n offset (.inr (s.sendResult n)) s'

lemma space_zero (s : ByteStream) : s.space 0 = 0 := by
  rcases hs : s.room with _ | ⟨m, err⟩ <;> simp [space, hs]

lemma sendResult_zero (s : ByteStream) : s.sendResult 0 = Errno.success.code := by
  rcases hs : s.room with _ | ⟨m, err⟩ <;> simp [sendResult, hs]

lemma post_writeRound {s : ByteStream} {fd : ℤ} {data n offset : ℕ} (hhard : s.Hard)
    (hoffset : offset + n < 2 ^ 32) :
    Post handler (writeRound fd data ⟨n, offset⟩) s fun r _ s' =>
      WriteRound s (data + offset) n offset r s' := by
  rw [writeRound]
  rcases Nat.eq_zero_or_pos n with rfl | hn
  · rw [if_neg (by simp)]
    have hdone : WriteRound s (data + offset) 0 offset (.inr (s.sendResult 0)) s :=
      .done (sends_of_same rfl rfl rfl rfl le_rfl (.inl rfl))
    rw [sendResult_zero] at hdone
    exact hdone
  · obtain ⟨answer, hanswer⟩ : ∃ answer : ℤ × ByteStream,
        handler (.send fd (data + offset) n) s = answer := ⟨_, rfl⟩
    rw [if_pos (by simpa using hn)]
    simp only [Int.toNat_natCast, post_send hanswer]
    have hcase := hanswer ▸ sendAnswer_handler s fd (data + offset) hn
    cases hcase with
    | @transient s' herrno h hcalls =>
        rw [if_pos rfl, post_errno, if_pos herrno]
        exact .again 0 (by omega) s.space_zero h hcalls
    | @failed s' hroom h =>
        rw [if_pos rfl, post_errno, if_neg (hhard.room _ _ hroom).1]
        have hdone : WriteRound s (data + offset) n offset (.inr (s.sendResult n)) s' := .done h
        rw [sendResult, hroom] at hdone
        dsimp only at hdone
        rw [if_neg (by omega)] at hdone
        exact hdone
    | @part s' count hle hspace h hcalls =>
        rw [if_neg (by simp), advance_natCast hle hoffset]
        exact .again count hle hspace h hcalls

/-- The bytes that were sent do not change the answer. -/
lemma sendResult_sub {s s' : ByteStream} {n count : ℕ}
    (hroom : s'.room = s.room.map fun r => (r.1 - count, r.2)) (hspace : s.space count = count)
    (hle : count ≤ n) : s'.sendResult (n - count) = s.sendResult n := by
  rcases hs : s.room with _ | ⟨m, err⟩
  · simp only [sendResult, hroom, hs, Option.map_none]
  · simp only [space, hs] at hspace
    simp only [sendResult, hroom, hs, Option.map_some]
    have hiff : n - count ≤ m - count ↔ n ≤ m := by omega
    simp only [hiff]

/-- The loop, with `n` bytes left to send. -/
lemma post_writeLoop {fd : ℤ} {data : ℕ} (fuel : ℕ) : ∀ {s : ByteStream} {n offset : ℕ}, s.Hard →
    offset + n < 2 ^ 32 → s.sendCalls n < fuel →
    Post handler (iter (writeRound fd data) fuel ⟨n, offset⟩) s fun r _ s' =>
      r = some (s.sendResult n) ∧ Sends s s' (data + offset) n := by
  induction fuel with
  | zero =>
      intro s n offset _ _ hfuel
      omega
  | succ fuel ih =>
      intro s n offset hhard hoffset hfuel
      rw [Prog.iter_succ]
      refine Post.bind (post_writeRound hhard hoffset) ?_
      rintro _ l s' (⟨count, hle, hspace, h, hcalls⟩ | h)
      · refine (ih (h.hard hhard) (by omega) (by omega)).mono ?_
        rintro r l' s'' ⟨rfl, h'⟩
        refine ⟨by rw [sendResult_sub h.room hspace hle], ?_⟩
        have htrans := h.trans hspace (by rwa [← Nat.add_assoc] at h')
        rwa [Nat.add_sub_cancel' hle] at htrans
      · exact ⟨rfl, h⟩

lemma readCalls_le (s : ByteStream) (n : ℕ) : s.readCalls n ≤ s.schedule.length + 1 := by
  rw [readCalls]
  split_ifs <;> omega

lemma sendCalls_le (s : ByteStream) (n : ℕ) : s.sendCalls n ≤ s.schedule.length + 1 := by
  rw [sendCalls]
  split_ifs <;> omega

lemma post_readData {s : ByteStream} {fuel : ℕ} {fd : ℤ} (data : ℕ) {n : ℕ} (hhard : s.Hard)
    (hfd : fd ≠ -1) (hn : n < 2 ^ 31) (hfuel : s.schedule.length + 1 < fuel) :
    Post handler (readData fuel fd (some data) n) s fun r _ s' =>
      r = some (s.readResult n) ∧ Reads s s' data n := by
  rw [readData, if_neg hfd]
  exact post_readLoop fuel hhard (by omega) ((s.readCalls_le n).trans_lt hfuel)

lemma post_writeData {s : ByteStream} {fuel : ℕ} {fd : ℤ} (data : ℕ) {n : ℕ} (hhard : s.Hard)
    (hfd : fd ≠ -1) (hn : n < 2 ^ 31) (hfuel : s.schedule.length + 1 < fuel) :
    Post handler (writeData fuel fd (some data) n) s fun r _ s' =>
      r = some (s.sendResult n) ∧ Sends s s' data n := by
  rw [writeData, if_neg hfd]
  exact post_writeLoop fuel hhard (by omega) ((s.sendCalls_le n).trans_lt hfuel)

end ByteStream

/-! ### Blocks -/

/-- Bytes that are sent from one place and received at another. -/
structure Block where
  src : ℕ
  dst : ℕ
  size : ℕ

def writeBlocks (fuel : ℕ) (fd : ℤ) : List Block → StreamProg (List (Option ℤ))
  | [] => return []
  | b :: blocks => do
    let sts ← writeData fuel fd (some b.src) b.size
    let rest ← writeBlocks fuel fd blocks
    return sts :: rest

/-- The blocks are looked at when they have been received. -/
def readBlocks (fuel : ℕ) (fd : ℤ) : List Block → StreamProg (List (Option ℤ × List UInt8))
  | [] => return []
  | b :: blocks => do
    let sts ← readData fuel fd (some b.dst) b.size
    let bytes ← load b.dst b.size
    let rest ← readBlocks fuel fd blocks
    return (sts, bytes) :: rest

/-- The blocks are written, and then read. -/
def transfer (fuel : ℕ) (fd : ℤ) (blocks : List Block) :
    StreamProg (List (Option ℤ) × List (Option ℤ × List UInt8)) := do
  let sent ← writeBlocks fuel fd blocks
  let received ← readBlocks fuel fd blocks
  return (sent, received)

open ByteStream (handler)

variable {s : ByteStream} {fd : ℤ} {fuel : ℕ}

lemma post_writeBlocks (hfd : fd ≠ -1) {blocks : List Block}
    (hblocks : ∀ b ∈ blocks, b.size < 2 ^ 31) (hhard : s.Hard) (hroom : s.room = none)
    (hfuel : s.schedule.length + 1 < fuel) :
    Post handler (writeBlocks fuel fd blocks) s fun r _ s' =>
      r = blocks.map (fun _ => some Errno.success.code) ∧ s'.Hard ∧ s'.mem = s.mem ∧
        s'.bytes = s.bytes ++ blocks.flatMap (fun b => slice s.mem b.src b.size) ∧
          s'.schedule.length ≤ s.schedule.length := by
  induction blocks generalizing s with
  | nil =>
      have hbytes : s.bytes = s.bytes ++ [].flatMap fun b : Block => slice s.mem b.src b.size := by
        simp
      exact ⟨rfl, hhard, rfl, hbytes, le_rfl⟩
  | cons b blocks ih =>
      obtain ⟨hb, hblocks⟩ := List.forall_mem_cons.1 hblocks
      refine Post.bind (ByteStream.post_writeData b.src hhard hfd hb hfuel) ?_
      rintro sts l s₁ ⟨rfl, h₁⟩
      have hroom₁ : s₁.room = none := by rw [h₁.room, hroom, Option.map_none]
      refine Post.bind (ih hblocks (h₁.hard hhard) hroom₁ ?_) ?_
      · exact (Nat.add_le_add_right h₁.schedule 1).trans_lt hfuel
      rintro rest l' s₂ ⟨rfl, hhard₂, hmem₂, hbytes₂, hschedule₂⟩
      have hbytes : s₂.bytes =
          s.bytes ++ (b :: blocks).flatMap fun b => slice s.mem b.src b.size := by
        rw [hbytes₂, h₁.bytes, h₁.mem, ByteStream.space, hroom, List.flatMap_cons,
          List.append_assoc]
      refine ⟨?_, hhard₂, hmem₂.trans h₁.mem, hbytes, hschedule₂.trans h₁.schedule⟩
      rw [ByteStream.sendResult, hroom]
      rfl

lemma post_load {α : Type} {addr n : ℕ} {f : List UInt8 → StreamProg α}
    {Q : α → List (Event streamSig) → ByteStream → Prop} :
    Post handler (load addr n >>= f) s Q ↔
      Post handler (f (slice s.mem addr n)) s fun a l s' =>
        Q a (⟨.load addr n, slice s.mem addr n⟩ :: l) s' := Iff.rfl

lemma post_readBlocks (hfd : fd ≠ -1) {blocks : List Block} {content : Block → List UInt8}
    (rest : List UInt8) (hblocks : ∀ b ∈ blocks, b.size < 2 ^ 31 ∧ (content b).length = b.size)
    (hhard : s.Hard) (hbytes : s.bytes = blocks.flatMap content ++ rest)
    (hfuel : s.schedule.length + 1 < fuel) :
    Post handler (readBlocks fuel fd blocks) s fun r _ s' =>
      r = blocks.map (fun b => (some Errno.success.code, content b)) ∧ s'.bytes = rest := by
  induction blocks generalizing s with
  | nil => exact ⟨rfl, hbytes⟩
  | cons b blocks ih =>
      obtain ⟨⟨hb, hlength⟩, hblocks⟩ := List.forall_mem_cons.1 hblocks
      rw [List.flatMap_cons, List.append_assoc] at hbytes
      have hle : b.size ≤ s.bytes.length := by
        rw [hbytes, List.length_append]
        omega
      refine Post.bind (ByteStream.post_readData b.dst hhard hfd hb hfuel) ?_
      rintro sts l s₁ ⟨rfl, h₁⟩
      have hslice : slice s₁.mem b.dst b.size = content b := by
        rw [h₁.slice_mem hle, hbytes, ← hlength, List.take_left]
      have hbytes₁ : s₁.bytes = blocks.flatMap content ++ rest := by
        rw [h₁.bytes, hbytes, ← hlength, List.drop_left]
      rw [post_load]
      refine Post.bind (ih hblocks (h₁.hard hhard) hbytes₁ ?_) ?_
      · exact (Nat.add_le_add_right h₁.schedule 1).trans_lt hfuel
      rintro received l' s₂ ⟨rfl, hrest⟩
      refine ⟨?_, hrest⟩
      rw [hslice, ByteStream.readResult, if_pos hle]
      rfl

/-- What `ReadData` does for `n` bytes on a stream, and what it leaves. -/
structure ReadExact (s : ByteStream) (data n : ℕ)
    (r : Library.Result streamSig ByteStream (Option ℤ)) : Prop where
  success_iff : r.val = some Errno.success.code ↔ n ≤ s.bytes.length
  /-- Before all bytes have arrived the stream ends, or an error. -/
  short : s.bytes.length < n → r.val = some (s.ending.getD Errno.enotconn.code)
  buffer : n ≤ s.bytes.length → slice r.st.mem data n = s.bytes.take n
  frame : ∀ i, ¬ (data ≤ i ∧ i < data + n) → r.st.mem i = s.mem i
  consumed : r.st.bytes = s.bytes.drop n

/-- What `WriteData` does with `n` bytes, and what it leaves. -/
structure WriteExact (s : ByteStream) (data n : ℕ)
    (r : Library.Result streamSig ByteStream (Option ℤ)) : Prop where
  success_iff : r.val = some Errno.success.code ↔ s.space n = n
  appended : s.space n = n → r.st.bytes = s.bytes ++ slice s.mem data n
  /-- An error is reported after the bytes that the stream has taken. -/
  short : ∀ m err, s.room = some (m, err) → m < n →
    r.val = some err ∧ r.st.bytes = s.bytes ++ slice s.mem data m
  mem : r.st.mem = s.mem

/-- Every block is sent and received, and received as it was when it was sent. -/
structure BlocksExact (s : ByteStream) (blocks : List Block)
    (r : Library.Result streamSig ByteStream (List (Option ℤ) × List (Option ℤ × List UInt8))) :
    Prop where
  sent : r.val.1 = blocks.map fun _ => some Errno.success.code
  received : r.val.2 = blocks.map fun b => (some Errno.success.code, slice s.mem b.src b.size)
  consumed : r.st.bytes = []

/-- The two functions on a stream. -/
structure TransferExact (fuel : ℕ) (fd : ℤ) (s : ByteStream) : Prop where
  read : ∀ data n, n < 2 ^ 31 →
    ReadExact s data n (exec handler (readData fuel fd (some data) n) s)
  write : ∀ data n, n < 2 ^ 31 →
    WriteExact s data n (exec handler (writeData fuel fd (some data) n) s)
  blocks : ∀ blocks : List Block, (∀ b ∈ blocks, b.size < 2 ^ 31) → s.bytes = [] →
    s.room = none → BlocksExact s blocks (exec handler (transfer fuel fd blocks) s)

lemma readExact_of_reads {data n : ℕ} (hhard : s.Hard)
    {r : Library.Result streamSig ByteStream (Option ℤ)} (hval : r.val = some (s.readResult n))
    (h : s.Reads r.st data n) : ReadExact s data n r := by
  have hshort : s.bytes.length < n → s.readResult n = s.ending.getD Errno.enotconn.code :=
    fun hlt => if_neg (Nat.not_le_of_lt hlt)
  refine ⟨?_, fun hlt => by rw [hval, hshort hlt], h.slice_mem, fun i hi => ?_, h.bytes⟩
  · rw [hval, Option.some_inj]
    refine ⟨fun hsuccess => ?_, fun hle => if_pos hle⟩
    by_contra hlt
    rw [hshort (Nat.lt_of_not_le hlt)] at hsuccess
    rcases hending : s.ending with _ | err
    · rw [hending] at hsuccess
      exact absurd hsuccess (by decide)
    · rw [hending] at hsuccess
      exact (hhard.ending err hending).2 hsuccess
  · rw [h.mem, if_neg hi]

lemma writeExact_of_sends {data n : ℕ} (hhard : s.Hard)
    {r : Library.Result streamSig ByteStream (Option ℤ)} (hval : r.val = some (s.sendResult n))
    (h : s.Sends r.st data n) : WriteExact s data n r := by
  refine ⟨?_, fun hspace => by rw [h.bytes, hspace], fun m err hroom hlt => ?_, h.mem⟩
  · rw [hval, Option.some_inj]
    rcases hroom : s.room with _ | ⟨m, err⟩
    · simp [ByteStream.sendResult, ByteStream.space, hroom]
    · have herr := (hhard.room m err hroom).2
      simp only [ByteStream.sendResult, ByteStream.space, hroom, min_eq_left_iff]
      split_ifs with hle
      · simp [hle]
      · simp [hle, herr]
  · rw [hval, h.bytes, ByteStream.sendResult, ByteStream.space, hroom]
    dsimp only
    rw [if_neg (Nat.not_le_of_lt hlt), Nat.min_eq_right hlt.le]
    exact ⟨rfl, rfl⟩

/-- Whatever the schedule of the stream. -/
theorem transfer_exact (hhard : s.Hard) (hfd : fd ≠ -1) (hfuel : s.schedule.length + 1 < fuel) :
    TransferExact fuel fd s := by
  refine ⟨fun data n hn => ?_, fun data n hn => ?_, fun blocks hblocks hbytes hroom => ?_⟩
  · obtain ⟨hval, h⟩ := ByteStream.post_readData data hhard hfd hn hfuel
    exact readExact_of_reads hhard hval h
  · obtain ⟨hval, h⟩ := ByteStream.post_writeData data hhard hfd hn hfuel
    exact writeExact_of_sends hhard hval h
  · have hpost : Post handler (transfer fuel fd blocks) s fun r _ s' =>
        r.1 = blocks.map (fun _ => some Errno.success.code) ∧
          r.2 = blocks.map (fun b => (some Errno.success.code, slice s.mem b.src b.size)) ∧
            s'.bytes = [] := by
      refine Post.bind (post_writeBlocks hfd hblocks hhard hroom hfuel) ?_
      rintro sent l s₁ ⟨rfl, hhard₁, -, hbytes₁, hschedule₁⟩
      rw [hbytes, List.nil_append] at hbytes₁
      refine Post.bind (post_readBlocks hfd [] (fun b hb => ⟨hblocks b hb, ?_⟩) hhard₁
        (by rw [hbytes₁, List.append_nil]) ?_) ?_
      · exact length_slice _ _ _
      · exact (Nat.add_le_add_right hschedule₁ 1).trans_lt hfuel
      rintro received l' s₂ ⟨rfl, hrest⟩
      exact ⟨rfl, rfl, hrest⟩
    exact ⟨hpost.1, hpost.2.1, hpost.2.2⟩

/-- A stream that delivers two bytes first, and whose next calls fail. -/
def twoFirst : ByteStream where
  mem := memOf [1, 2, 3, 4]
  errno := 0
  bytes := [5, 6, 7]
  ending := some Errno.eio.code
  room := none
  schedule := [.part 2, .interrupted, .again, .part 0]

theorem transfer_exact_twoFirst : TransferExact 6 3 twoFirst := by
  refine transfer_exact ⟨fun err herr => ?_, fun m err hroom => ?_⟩ (by decide) (by decide)
  · obtain rfl := Option.some_inj.1 herr
    decide
  · exact absurd hroom (by simp [twoFirst])

end Hdcp.Transfer
