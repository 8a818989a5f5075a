/-
The datagrams of the kernel.

The uevent thread receives a datagram into a buffer that it has cleared, clears the last byte of
the buffer, and cuts the buffer into the strings that the NULs end.  It then compares three of
the strings with the texts of a hotplug event.

`uEventRound_faithful`: whatever the bytes of the datagram, the loop ends, searches and copies
inside the buffer only, and makes the strings that the buffer holds, up to one more than
`MAX_MSG_STRS`; the strings that are compared are those of the datagram.  Behind them the buffer
has empty strings, and no text of an event is empty.
-/
import Mathlib.Tactic.Common
import Hdcp.Library.Prog

namespace Hdcp.Uevent

open Library
open Library.Prog (op iter exec Post post_ret)

def ueventMsgSize : ℕ := 1024

def maxMsgStrs : ℕ := 16

def ueventMsgPart1 : ℕ := 1

def ueventMsgPart4 : ℕ := 4

def ueventMsgPart7 : ℕ := 7

/-- The characters of a text. -/
def chars (text : String) : List UInt8 := text.toList.map fun c => UInt8.ofNat c.toNat

def ueventMsgStrChange : List UInt8 := chars "ACTION=change"

def ueventMsgStrCard : List UInt8 := chars "DEVNAME=dri/card0"

def ueventMsgStrHotplug : List UInt8 := chars "HOTPLUG=1"

def ueventMsgStrS0 : List UInt8 := chars "GSTATE=0"

def ueventMsgStrS3 : List UInt8 := chars "GSTATE=3"

/-! ### The thread -/

/-- What a round of the thread does besides its arithmetic: it receives, it looks into `msg` and
into `messages`, and it calls the port manager. -/
inductive UeventOp where
  | recv (length : ℕ)
  | isDestroyThreads
  | find (msg : List UInt8) (c : UInt8) (index : ℕ)
  | substr (msg : List UInt8) (index count : ℕ)
  | element (messages : List (List UInt8)) (k : ℕ)
  | portManagerProcessHotPlug

/-- The answers.  A failed `recv` is `none`; `find` answers `npos` by `none`, and a `substr` that
throws is `none`. -/
def UeventOp.Ans : UeventOp → Type
  | recv _ => Option (List UInt8)
  | isDestroyThreads => Bool
  | find _ _ _ => Option ℕ
  | substr _ _ _ => Option (List UInt8)
  | element _ _ => List UInt8
  | portManagerProcessHotPlug => Unit

abbrev ueventSig : Sig := ⟨UeventOp, UeventOp.Ans⟩

abbrev UeventProg (α : Type) : Type := Prog ueventSig α

def recv (length : ℕ) : UeventProg (Option (List UInt8)) := op (S := ueventSig) (.recv length)

def isDestroyThreads : UeventProg Bool := op (S := ueventSig) .isDestroyThreads

def find (msg : List UInt8) (c : UInt8) (index : ℕ) : UeventProg (Option ℕ) :=
  op (S := ueventSig) (.find msg c index)

def substr (msg : List UInt8) (index count : ℕ) : UeventProg (Option (List UInt8)) :=
  op (S := ueventSig) (.substr msg index count)

def element (messages : List (List UInt8)) (k : ℕ) : UeventProg (List UInt8) :=
  op (S := ueventSig) (.element messages k)

def portManagerProcessHotPlug : UeventProg Unit := op (S := ueventSig) .portManagerProcessHotPlug

/-- `index` and `messages`. -/
structure SplitState where
  index : ℕ
  messages : List (List UInt8)

/-- A round of the loop that cuts `msg`.  The loop ends with the strings, or with `none` when
`substr` throws. -/
def splitRound (msg : List UInt8) (s : SplitState) :
    UeventProg (SplitState ⊕ Option (List (List UInt8))) := do
  match ← find msg 0 s.index with
  | none => return .inr (some s.messages)
  | some nextTerminator =>
    match ← substr msg s.index (nextTerminator - s.index) with
    | none => return .inr none
    | some message =>
      let messages := s.messages ++ [message]
      let index := nextTerminator + 1
      if index < ueventMsgSize ∧ messages.length ≤ maxMsgStrs then
        return .inl ⟨index, messages⟩
      else
        return .inr (some messages)

def split (fuel : ℕ) (msg : List UInt8) : UeventProg (Option (Option (List (List UInt8)))) :=
  iter (splitRound msg) fuel ⟨0, []⟩

/-- `messages[k] == text`. -/
def equals (messages : List (List UInt8)) (k : ℕ) (text : List UInt8) : UeventProg Bool := do
  let message ← element messages k
  return message = text

/-- `p && q`. -/
def both (p q : UeventProg Bool) : UeventProg Bool := do
  if ← p then q else return false

def dispatch (messages : List (List UInt8)) : UeventProg Unit := do
  if ← both (equals messages ueventMsgPart1 ueventMsgStrChange)
      (both (equals messages ueventMsgPart4 ueventMsgStrHotplug)
        (equals messages ueventMsgPart7 ueventMsgStrCard)) then
    portManagerProcessHotPlug
  -- the power states are compared and not handled
  else if ← both (equals messages ueventMsgPart1 ueventMsgStrChange)
      (equals messages ueventMsgPart4 ueventMsgStrS0) then
    return ()
  else if ← both (equals messages ueventMsgPart1 ueventMsgStrChange)
      (equals messages ueventMsgPart4 ueventMsgStrS3) then
    return ()
  else
    return ()

/-- What follows a round of the thread. -/
inductive RoundEnd where
  | again
  | exit
  | thrown
deriving DecidableEq

/-- A round of `InitUEventHandler`; `none` when its loop is cut off. -/
def uEventRound (fuel : ℕ) : UeventProg (Option RoundEnd) := do
  let buf := List.replicate ueventMsgSize (0 : UInt8)
  match ← recv ueventMsgSize with
  | none => return some .again
  | some received =>
    -- `bytesReceived <= 0`
    if received.length = 0 then
      return some .again
    else
      let buf := received ++ buf.drop received.length
      if ← isDestroyThreads then
        return some .exit
      else
        let buf := buf.set (ueventMsgSize - 1) 0
        let msg := buf.take ueventMsgSize
        match ← split fuel msg with
        | none => return none
        | some none => return some .thrown
        | some (some messages) =>
          if messages.length < 8 then
            return some .again
          else
            dispatch messages
            return some .again

/-- The answer of `msg.find`. -/
def foundAt (msg : List UInt8) (c : UInt8) (index : ℕ) : Option ℕ :=
  ((msg.drop index).findIdx? (· == c)).map (index + ·)

/-- The strings answer as `std::string` and `std::vector` do; the kernel and the other threads
answer as the parameters say. -/
def ueventHandler (received : Option (List UInt8)) (destroy : Bool) : Handler ueventSig Unit
  | .recv _, s => (received, s)
  | .isDestroyThreads, s => (destroy, s)
  | .find msg c index, s => (foundAt msg c index, s)
  | .substr msg index count, s =>
    (if index ≤ msg.length then some ((msg.drop index).take count) else none, s)
  | .element messages k, s => (messages.getD k [], s)
  | .portManagerProcessHotPlug, s => ((), s)

/-! ### The strings of a buffer -/

/-- The strings that the NULs of a buffer end.  What follows the last NUL is none of them. -/
def fields (bytes : List UInt8) : List (List UInt8) := (bytes.splitOn 0).dropLast

@[simp] lemma fields_nil : fields [] = [] := rfl

lemma fields_of_notMem {bytes : List UInt8} (h : 0 ∉ bytes) : fields bytes = [] := by
  rw [fields, List.splitOn_eq_singleton h]
  rfl

/-- The first NUL ends the first string. -/
lemma fields_append_cons {field : List UInt8} (h : 0 ∉ field) (rest : List UInt8) :
    fields (field ++ 0 :: rest) = field :: fields rest := by
  rw [fields, List.splitOn_append_cons_self_of_not_mem h, List.dropLast_cons_of_ne_nil]
  · rfl
  · exact List.splitOn_ne_nil 0 rest

lemma splitOn_replicate (m : ℕ) :
    (List.replicate m (0 : UInt8)).splitOn 0 = List.replicate (m + 1) [] := by
  induction m with
  | zero => rfl
  | succ m ih =>
      rw [List.replicate_succ, List.splitOn_cons_eq_if_modifyHead, if_pos (beq_self_eq_true _), ih]
      rfl

/-- The zeros that pad some bytes end the last string of the bytes and add empty ones. -/
lemma fields_append_replicate (bytes : List UInt8) (m : ℕ) :
    fields (bytes ++ List.replicate (m + 1) 0) = bytes.splitOn 0 ++ List.replicate m [] := by
  rw [fields, List.replicate_succ, List.splitOn_append_cons_self, splitOn_replicate,
    List.replicate_succ', ← List.append_assoc, List.dropLast_concat]

/-- The buffer that is cut, when the datagram has been received. -/
def bufferOf (received : List UInt8) : List UInt8 :=
  ((received ++ (List.replicate ueventMsgSize 0).drop received.length).set
    (ueventMsgSize - 1) 0).take ueventMsgSize

/-- The bytes of a datagram that the last byte of the buffer does not overwrite. -/
def kept (received : List UInt8) : List UInt8 := received.take (ueventMsgSize - 1)

lemma length_kept_le (received : List UInt8) : (kept received).length ≤ 1023 :=
  List.length_take_le _ _

lemma bufferOf_eq {received : List UInt8} (h : received.length ≤ ueventMsgSize) :
    bufferOf received =
      kept received ++ List.replicate (1023 - (kept received).length + 1) 0 := by
  rw [ueventMsgSize] at h
  refine List.ext_getElem ?_ fun k hk hk' => ?_
  · simp only [bufferOf, kept, ueventMsgSize, List.length_take, List.length_set,
      List.length_append, List.length_drop, List.length_replicate]
    omega
  · simp only [bufferOf, kept, ueventMsgSize, List.getElem_take, List.getElem_set,
      List.getElem_append, List.getElem_drop, List.getElem_replicate, List.length_take]
    grind

lemma length_bufferOf {received : List UInt8} (h : received.length ≤ ueventMsgSize) :
    (bufferOf received).length = ueventMsgSize := by
  have hlen := length_kept_le received
  rw [bufferOf_eq h, List.length_append, List.length_replicate, ueventMsgSize]
  omega

/-- The strings of a datagram: its bytes, cut at the NULs. -/
def ownFields (received : List UInt8) : List (List UInt8) := (kept received).splitOn 0

/-- The strings of the buffer are those of the datagram, and empty ones after them. -/
lemma fields_bufferOf {received : List UInt8} (h : received.length ≤ ueventMsgSize) :
    fields (bufferOf received) =
      ownFields received ++ List.replicate (1023 - (kept received).length) [] := by
  rw [bufferOf_eq h, fields_append_replicate, ownFields]

/-! ### The loop -/

/-- The calls of the loop: `find` and `substr`, inside `msg`. -/
def Cuts (msg : List UInt8) : UeventOp → Prop
  | .find msg' _ index => msg' = msg ∧ index < msg.length
  | .substr msg' index count => msg' = msg ∧ index + count < msg.length
  | _ => False

/-- The calls of `find` and `substr` stay inside `msg`. -/
def InBuffer (msg : List UInt8) : UeventOp → Prop
  | .find msg' _ index => msg' = msg ∧ index < msg.length
  | .substr msg' index count => msg' = msg ∧ index + count < msg.length
  | _ => True

lemma Cuts.inBuffer {msg : List UInt8} {o : UeventOp} (h : Cuts msg o) : InBuffer msg o := by
  cases o <;> first | exact h | trivial

/-- The first NUL from a position on. -/
lemma of_find {msg : List UInt8} {index nextTerminator : ℕ}
    (h : foundAt msg 0 index = some nextTerminator) :
    index ≤ nextTerminator ∧ nextTerminator < msg.length ∧
      fields (msg.drop index) =
        (msg.drop index).take (nextTerminator - index) ::
          fields (msg.drop (nextTerminator + 1)) := by
  obtain ⟨k, hk, rfl⟩ := Option.map_eq_some_iff.1 h
  obtain ⟨hlt, hzero, hbefore⟩ := List.findIdx?_eq_some_iff_getElem.1 hk
  rw [List.length_drop] at hlt
  refine ⟨by omega, by omega, ?_⟩
  rw [Nat.add_sub_cancel_left]
  have hsplit : msg.drop index =
      (msg.drop index).take k ++ 0 :: msg.drop (index + k + 1) := by
    rw [List.getElem_drop] at hzero
    rw [← eq_of_beq hzero, ← List.drop_eq_getElem_cons, ← List.drop_drop,
      List.take_append_drop]
  have hnot : 0 ∉ (msg.drop index).take k := by
    intro hmem
    obtain ⟨j, hj, hj0⟩ := List.mem_iff_getElem.1 hmem
    rw [List.length_take] at hj
    rw [List.getElem_take] at hj0
    exact hbefore j (by omega) (by rw [hj0]; rfl)
  conv_lhs => rw [hsplit, fields_append_cons hnot]

variable {received : Option (List UInt8)} {destroy : Bool}

/-- What a round of the loop can do: there is no further string, or the next one is cut. -/
structure RoundSpec (msg : List UInt8) (s : SplitState)
    (r : SplitState ⊕ Option (List (List UInt8))) (l : List (Event ueventSig)) : Prop where
  cuts : ∀ e ∈ l, Cuts msg e.op
  cut : (fields (msg.drop s.index) = [] ∧ r = .inr (some s.messages)) ∨
    ∃ message index, fields (msg.drop s.index) = message :: fields (msg.drop index) ∧
      r = if index < ueventMsgSize ∧ (s.messages ++ [message]).length ≤ maxMsgStrs then
        .inl ⟨index, s.messages ++ [message]⟩ else .inr (some (s.messages ++ [message]))

lemma post_find {α : Type} {msg : List UInt8} {c : UInt8} {index : ℕ}
    {f : Option ℕ → UeventProg α} {Q : α → List (Event ueventSig) → Unit → Prop} :
    Post (ueventHandler received destroy) (find msg c index >>= f) () Q ↔
      Post (ueventHandler received destroy) (f (foundAt msg c index)) () fun a l s =>
        Q a (⟨.find msg c index, foundAt msg c index⟩ :: l) s := Iff.rfl

/-- A copy from inside `msg` does not throw. -/
lemma post_substr {α : Type} {msg : List UInt8} {index count : ℕ}
    {f : Option (List UInt8) → UeventProg α} {Q : α → List (Event ueventSig) → Unit → Prop}
    (hindex : index ≤ msg.length) :
    Post (ueventHandler received destroy) (substr msg index count >>= f) () Q ↔
      Post (ueventHandler received destroy) (f (some ((msg.drop index).take count))) () fun a l s =>
        Q a (⟨.substr msg index count, some ((msg.drop index).take count)⟩ :: l) s := by
  have hans : (ueventHandler received destroy (.substr msg index count) ()).1 =
      some ((msg.drop index).take count) := if_pos hindex
  rw [← hans]
  rfl

lemma post_splitRound {msg : List UInt8} {s : SplitState} (hindex : s.index < msg.length) :
    Post (ueventHandler received destroy) (splitRound msg s) () fun r l _ =>
      RoundSpec msg s r l := by
  rw [splitRound, post_find]
  rcases hfind : foundAt msg 0 s.index with _ | nextTerminator
  · have hnone : 0 ∉ msg.drop s.index := by
      intro hmem
      have hall := List.findIdx?_eq_none_iff.1 (Option.map_eq_none_iff.1 hfind) 0 hmem
      exact absurd hall (by decide)
    exact ⟨by simpa [Cuts] using hindex, .inl ⟨fields_of_notMem hnone, rfl⟩⟩
  · obtain ⟨hle, hlt, hfields⟩ := of_find hfind
    simp only [post_substr (Nat.le_of_lt hindex)]
    set message := (msg.drop s.index).take (nextTerminator - s.index)
    have hround : ∀ r, (r = if nextTerminator + 1 < ueventMsgSize ∧
          (s.messages ++ [message]).length ≤ maxMsgStrs then
          .inl ⟨nextTerminator + 1, s.messages ++ [message]⟩
        else .inr (some (s.messages ++ [message]))) →
        RoundSpec msg s r [⟨.find msg 0 s.index, some nextTerminator⟩,
          ⟨.substr msg s.index (nextTerminator - s.index), some message⟩] := by
      refine fun r hr => ⟨?_, .inr ⟨message, nextTerminator + 1, hfields, hr⟩⟩
      simp only [List.mem_cons, List.not_mem_nil, or_false, forall_eq_or_imp, forall_eq, Cuts,
        true_and]
      omega
    split_ifs with hagain
    · exact hround _ (if_pos hagain).symm
    · exact hround _ (if_neg hagain).symm

/-- The loop, from a position to which the strings before it have been cut: it cuts the next
strings, until the buffer ends or there is one more than `MAX_MSG_STRS`. -/
lemma post_iter_splitRound {msg : List UInt8} (hmsg : msg.length = ueventMsgSize) (fuel : ℕ) :
    ∀ s : SplitState, s.index < ueventMsgSize → s.messages.length ≤ maxMsgStrs →
      maxMsgStrs < s.messages.length + fuel →
      Post (ueventHandler received destroy) (iter (splitRound msg) fuel s) () fun r l _ =>
        r = some (some (s.messages ++ (fields (msg.drop s.index)).take
          (maxMsgStrs + 1 - s.messages.length))) ∧ ∀ e ∈ l, Cuts msg e.op := by
  induction fuel with
  | zero =>
      intro s _ hle hfuel
      omega
  | succ fuel ih =>
      rintro ⟨index, messages⟩ hindex hle hfuel
      rw [Prog.iter_succ]
      refine Post.bind (post_splitRound (hmsg ▸ hindex)) ?_
      rintro r l - ⟨hl, ⟨hnone, rfl⟩ | ⟨message, next, hfields, rfl⟩⟩
      · simpa [hnone] using hl
      · have htake : maxMsgStrs + 1 - messages.length =
            maxMsgStrs + 1 - (messages ++ [message]).length + 1 := by
          rw [List.length_append, List.length_singleton]
          simp only at hle
          omega
        split_ifs with hagain
        · refine (ih ⟨next, messages ++ [message]⟩ hagain.1 hagain.2 ?_).mono ?_
          · rw [List.length_append, List.length_singleton]
            simp only at hfuel
            omega
          · rintro r l' - ⟨rfl, hl'⟩
            refine ⟨?_, ?_⟩
            · simp only [hfields, htake, List.take_succ_cons, List.append_assoc,
                List.singleton_append]
            · simpa [or_imp, forall_and] using ⟨hl, hl'⟩
        · refine ⟨?_, by simpa using hl⟩
          -- the buffer has ended, or there are no more strings to cut
          have hrest : (fields (msg.drop next)).take
              (maxMsgStrs + 1 - (messages ++ [message]).length) = [] := by
            rcases Nat.lt_or_ge next ueventMsgSize with hlt | hge
            · have hfull : maxMsgStrs < (messages ++ [message]).length :=
                Nat.lt_of_not_le fun hle' => hagain ⟨hlt, hle'⟩
              rw [Nat.sub_eq_zero_of_le hfull, List.take_zero]
            · rw [List.drop_of_length_le (by omega), fields_nil, List.take_nil]
          simp only [hfields, htake, List.take_succ_cons, hrest]
          rfl

/-! ### The datagram -/

/-- The strings that the loop makes of a datagram. -/
def strings (received : List UInt8) : List (List UInt8) :=
  (fields (bufferOf received)).take (min (fields (bufferOf received)).length (maxMsgStrs + 1))

lemma strings_eq (bytes : List UInt8) :
    strings bytes = (fields (bufferOf bytes)).take (maxMsgStrs + 1) := by
  rw [strings, Nat.min_comm, ← List.take_take, List.take_length]

lemma post_split {bytes : List UInt8} (hlen : bytes.length ≤ ueventMsgSize) {fuel : ℕ}
    (hfuel : maxMsgStrs < fuel) :
    Post (ueventHandler received destroy) (split fuel (bufferOf bytes)) () fun r l _ =>
      r = some (some (strings bytes)) ∧ ∀ e ∈ l, Cuts (bufferOf bytes) e.op := by
  refine (post_iter_splitRound (length_bufferOf hlen) fuel ⟨0, []⟩ (by decide) (by decide)
    (by simpa using hfuel)).mono ?_
  rintro r l - ⟨rfl, hl⟩
  exact ⟨by simp [strings_eq], hl⟩

/-- A string that the thread compares is the one of the datagram, or empty when the datagram has
fewer strings. -/
lemma getD_strings {bytes : List UInt8} (hlen : bytes.length ≤ ueventMsgSize) {k : ℕ}
    (hk : k < 8) : (strings bytes).getD k [] = (ownFields bytes).getD k [] := by
  rw [List.getD_eq_getElem?_getD, List.getD_eq_getElem?_getD, strings_eq,
    List.getElem?_take_of_lt (by rw [maxMsgStrs]; omega), fields_bufferOf hlen,
    List.getElem?_append]
  split_ifs with hown
  · rfl
  · rw [List.getElem?_replicate, List.getElem?_eq_none (Nat.le_of_not_lt hown)]
    split_ifs <;> rfl

lemma getD_eq_iff {l : List (List UInt8)} {k : ℕ} {text : List UInt8} (htext : text ≠ []) :
    l.getD k [] = text ↔ l[k]? = some text := by
  rw [List.getD_eq_getElem?_getD]
  cases l[k]? with
  | none => simpa using htext.symm
  | some x => simp

/-- The positions that are compared. -/
def parts : List ℕ := [ueventMsgPart1, ueventMsgPart4, ueventMsgPart7]

/-- The program only compares strings, and answers whether `c` holds. -/
def Compares (messages : List (List UInt8)) (p : UeventProg Bool) (c : Prop) : Prop :=
  ∀ received destroy, Post (ueventHandler received destroy) p () fun b l _ =>
    (b = true ↔ c) ∧ ∀ e ∈ l, ∃ k ∈ parts, e.op = .element messages k

section Compares

variable {messages : List (List UInt8)} {p q : UeventProg Bool} {c d : Prop}

lemma compares_equals {k : ℕ} (hk : k ∈ parts) (text : List UInt8) :
    Compares messages (equals messages k text) (messages.getD k [] = text) := by
  intro received destroy
  have hval : (decide (messages.getD k [] = text) = true) ↔ messages.getD k [] = text :=
    decide_eq_true_iff
  exact ⟨hval, fun e he => ⟨k, hk, by rw [List.mem_singleton.1 he]⟩⟩

lemma Compares.both (hp : Compares messages p c) (hq : Compares messages q d) :
    Compares messages (both p q) (c ∧ d) := by
  intro received destroy
  refine Post.bind (hp received destroy) ?_
  rintro b l - ⟨hb, hl⟩
  split_ifs with htrue
  · refine (hq received destroy).mono ?_
    rintro b' l' - ⟨hb', hl'⟩
    refine ⟨by rw [hb', and_iff_right (hb.1 htrue)], fun e he => ?_⟩
    exact (List.mem_append.1 he).elim (hl e) (hl' e)
  · refine ⟨?_, by simpa using hl⟩
    exact iff_of_false (by simp) fun hcd => htrue (hb.2 hcd.1)

end Compares

/-- The three strings of a hotplug event. -/
def IsHotplug (messages : List (List UInt8)) : Prop :=
  messages.getD ueventMsgPart1 [] = ueventMsgStrChange ∧
    messages.getD ueventMsgPart4 [] = ueventMsgStrHotplug ∧
      messages.getD ueventMsgPart7 [] = ueventMsgStrCard

/-- The thread compares strings, and calls the port manager for a hotplug event. -/
structure DispatchSpec (messages : List (List UInt8)) (l : List (Event ueventSig)) : Prop where
  uses : ∀ e ∈ l, e.op = .portManagerProcessHotPlug ∨ ∃ k ∈ parts, e.op = .element messages k
  hotplug : (∃ e ∈ l, e.op = .portManagerProcessHotPlug) ↔ IsHotplug messages

lemma post_dispatch (messages : List (List UInt8)) :
    Post (ueventHandler received destroy) (dispatch messages) () fun _ l _ =>
      DispatchSpec messages l := by
  have hhotplug : Compares messages _ (IsHotplug messages) :=
    (compares_equals (k := ueventMsgPart1) (by decide) _).both
      ((compares_equals (k := ueventMsgPart4) (by decide) _).both
        (compares_equals (k := ueventMsgPart7) (by decide) _))
  have hpower : ∀ text, Compares messages (both (equals messages ueventMsgPart1
      ueventMsgStrChange) (equals messages ueventMsgPart4 text)) _ := fun text =>
    (compares_equals (by decide) _).both (compares_equals (by decide) _)
  have hno : ∀ {e : Event ueventSig}, (∃ k ∈ parts, e.op = .element messages k) →
      e.op ≠ .portManagerProcessHotPlug := by
    rintro e ⟨k, -, he⟩ heq
    exact absurd (he.symm.trans heq) (by simp)
  refine Post.bind (hhotplug received destroy) ?_
  rintro b l - ⟨hb, hl⟩
  split_ifs with htrue
  · refine ⟨fun e he => ?_, iff_of_true ?_ (hb.1 htrue)⟩
    · rcases List.mem_append.1 he with he | he
      · exact .inr (hl e he)
      · exact .inl (by rw [List.mem_singleton.1 he])
    · exact ⟨_, List.mem_append_right l (List.mem_singleton_self _), rfl⟩
  · have hquiet : ∀ {l' : List (Event ueventSig)},
        (∀ e ∈ l', ∃ k ∈ parts, e.op = .element messages k) → DispatchSpec messages (l ++ l') := by
      intro l' hl'
      have hall : ∀ e ∈ l ++ l', ∃ k ∈ parts, e.op = .element messages k := fun e he =>
        (List.mem_append.1 he).elim (hl e) (hl' e)
      refine ⟨fun e he => .inr (hall e he), iff_of_false ?_ fun h => htrue (hb.2 h)⟩
      rintro ⟨e, he, hop⟩
      exact hno (hall e he) hop
    refine Post.bind (hpower _ received destroy) ?_
    rintro b₀ l₀ - ⟨-, hl₀⟩
    split_ifs
    · exact hquiet (by simpa using hl₀)
    · refine Post.bind (hpower _ received destroy) ?_
      rintro b₃ l₃ - ⟨-, hl₃⟩
      split_ifs <;>
        exact hquiet (by simpa [or_imp, forall_and] using ⟨hl₀, hl₃⟩)

/-- What a round does with a datagram, apart from the loop. -/
structure RoundFaithful (bytes : List UInt8) (destroy : Bool) (r : Option RoundEnd)
    (l : List (Event ueventSig)) : Prop where
  ends : r = some (if destroy then .exit else .again)
  inBuffer : ∀ e ∈ l, InBuffer (bufferOf bytes) e.op
  compared : ∀ e ∈ l, ∀ messages k, e.op = .element messages k →
    messages = strings bytes ∧ k ∈ parts ∧ 8 ≤ messages.length
  hotplug : (∃ e ∈ l, e.op = .portManagerProcessHotPlug) ↔
    destroy = false ∧ 8 ≤ (strings bytes).length ∧ IsHotplug (strings bytes)

/-- Receiving and looking at the flag are none of the calls that are described. -/
lemma RoundFaithful.cons {bytes : List UInt8} {r : Option RoundEnd} {e : Event ueventSig}
    {l : List (Event ueventSig)} (h : RoundFaithful bytes destroy r l)
    (he : e.op = .recv ueventMsgSize ∨ e.op = .isDestroyThreads) :
    RoundFaithful bytes destroy r (e :: l) := by
  obtain ⟨o, x⟩ := e
  refine ⟨h.ends, ?_, ?_, ?_⟩
  · rintro e' (_ | ⟨_, he'⟩)
    · rcases he with rfl | rfl <;> trivial
    · exact h.inBuffer e' he'
  · rintro e' (_ | ⟨_, he'⟩) messages k hop
    · rcases he with rfl | rfl <;> exact absurd hop (by simp)
    · exact h.compared e' he' messages k hop
  · rw [← h.hotplug]
    constructor
    · rintro ⟨e', _ | ⟨_, he'⟩, hop⟩
      · rcases he with rfl | rfl <;> exact absurd hop (by simp)
      · exact ⟨e', he', hop⟩
    · rintro ⟨e', he', hop⟩
      exact ⟨e', .tail _ he', hop⟩

/-- A round with few strings ends after the loop. -/
lemma RoundFaithful.of_cuts {bytes : List UInt8} {l : List (Event ueventSig)}
    (hl : ∀ e ∈ l, Cuts (bufferOf bytes) e.op) (hshort : ¬ 8 ≤ (strings bytes).length) :
    RoundFaithful bytes false (some .again) l := by
  refine ⟨rfl, fun e he => (hl e he).inBuffer, fun e he messages k hop => ?_,
    iff_of_false ?_ fun h => hshort h.2.1⟩
  · exact absurd (hop ▸ hl e he) (by simp [Cuts])
  · rintro ⟨e, he, hop⟩
    exact absurd (hop ▸ hl e he) (by simp [Cuts])

/-- A round with enough strings compares them. -/
lemma RoundFaithful.of_dispatch {bytes : List UInt8} {l l' : List (Event ueventSig)}
    (hl : ∀ e ∈ l, Cuts (bufferOf bytes) e.op) (hlong : 8 ≤ (strings bytes).length)
    (hl' : DispatchSpec (strings bytes) l') :
    RoundFaithful bytes false (some .again) (l ++ l') := by
  refine ⟨rfl, fun e he => ?_, fun e he messages k hop => ?_, ?_⟩
  · rcases List.mem_append.1 he with he | he
    · exact (hl e he).inBuffer
    · rcases hl'.uses e he with hop | ⟨k, -, hop⟩ <;> rw [hop] <;> trivial
  · rcases List.mem_append.1 he with he | he
    · exact absurd (hop ▸ hl e he) (by simp [Cuts])
    · rcases hl'.uses e he with hop' | ⟨k', hk', hop'⟩
      · exact absurd (hop.symm.trans hop') (by simp)
      · obtain ⟨rfl, rfl⟩ : messages = strings bytes ∧ k = k' := by
          simpa using hop.symm.trans hop'
        exact ⟨rfl, hk', hlong⟩
  · rw [and_iff_right rfl, and_iff_right hlong, ← hl'.hotplug]
    constructor
    · rintro ⟨e, he, hop⟩
      rcases List.mem_append.1 he with he | he
      · exact absurd (hop ▸ hl e he) (by simp [Cuts])
      · exact ⟨e, he, hop⟩
    · rintro ⟨e, he, hop⟩
      exact ⟨e, List.mem_append_right l he, hop⟩

lemma post_recv {α : Type} {length : ℕ} {f : Option (List UInt8) → UeventProg α}
    {Q : α → List (Event ueventSig) → Unit → Prop} :
    Post (ueventHandler received destroy) (recv length >>= f) () Q ↔
      Post (ueventHandler received destroy) (f received) () fun a l s =>
        Q a (⟨.recv length, received⟩ :: l) s := Iff.rfl

lemma post_isDestroyThreads {α : Type} {f : Bool → UeventProg α}
    {Q : α → List (Event ueventSig) → Unit → Prop} :
    Post (ueventHandler received destroy) (isDestroyThreads >>= f) () Q ↔
      Post (ueventHandler received destroy) (f destroy) () fun a l s =>
        Q a (⟨.isDestroyThreads, destroy⟩ :: l) s := Iff.rfl

lemma post_uEventRound {bytes : List UInt8} (hpos : 0 < bytes.length)
    (hlen : bytes.length ≤ ueventMsgSize) {fuel : ℕ} (hfuel : maxMsgStrs < fuel) (destroy : Bool) :
    Post (ueventHandler (some bytes) destroy) (uEventRound fuel) () fun r l _ =>
      RoundFaithful bytes destroy r l := by
  rw [uEventRound, post_recv]
  refine Post.mono (Q := fun r l _ => RoundFaithful bytes destroy r l) ?_
    fun r l _ h => h.cons (.inl rfl)
  show Post _ (if bytes.length = 0 then _ else isDestroyThreads >>= _) _ _
  rw [if_neg (Nat.ne_of_gt hpos), post_isDestroyThreads]
  refine Post.mono (Q := fun r l _ => RoundFaithful bytes destroy r l) ?_
    fun r l _ h => h.cons (.inr rfl)
  split_ifs with hdestroy
  · subst hdestroy
    exact ⟨rfl, by simp, by simp, by simp⟩
  · obtain rfl : destroy = false := by simpa using hdestroy
    refine Post.bind (post_split hlen hfuel) ?_
    rintro r l - ⟨rfl, hl⟩
    show Post _ (if (strings bytes).length < 8 then _ else _) () _
    split_ifs with hshort
    · rw [Prog.pure_eq, post_ret, List.append_nil]
      exact .of_cuts hl (Nat.not_le_of_lt hshort)
    · refine Post.bind (post_dispatch (strings bytes)) ?_
      rintro - l' - hl'
      rw [Prog.pure_eq, post_ret, List.append_nil]
      exact .of_dispatch hl (Nat.le_of_not_lt hshort) hl'

/-- What the thread does with a datagram. -/
structure Faithful (bytes : List UInt8) (destroy : Bool) (fuel : ℕ) : Prop where
  /-- The loop ends with the strings of the buffer, up to one more than `MAX_MSG_STRS`. -/
  split : (exec (ueventHandler (some bytes) destroy) (split fuel (bufferOf bytes)) ()).val =
    some (some (strings bytes))
  /-- So the round ends. -/
  ends : (exec (ueventHandler (some bytes) destroy) (uEventRound fuel) ()).val =
    some (if destroy then .exit else .again)
  /-- It searches and copies inside the buffer. -/
  inBuffer : ∀ e ∈ (exec (ueventHandler (some bytes) destroy) (uEventRound fuel) ()).log,
    InBuffer (bufferOf bytes) e.op
  /-- A string that it compares is there, and is the one of the datagram. -/
  compared : ∀ e ∈ (exec (ueventHandler (some bytes) destroy) (uEventRound fuel) ()).log,
    ∀ messages k, e.op = .element messages k → messages = strings bytes ∧ k ∈ parts ∧
      messages[k]? = some ((ownFields bytes).getD k [])
  /-- It tells the port manager when the strings of the datagram are those of a hotplug. -/
  hotplug : (∃ e ∈ (exec (ueventHandler (some bytes) destroy) (uEventRound fuel) ()).log,
      e.op = .portManagerProcessHotPlug) ↔ destroy = false ∧
    (ownFields bytes)[ueventMsgPart1]? = some ueventMsgStrChange ∧
      (ownFields bytes)[ueventMsgPart4]? = some ueventMsgStrHotplug ∧
        (ownFields bytes)[ueventMsgPart7]? = some ueventMsgStrCard

lemma length_strings_of_lt {bytes : List UInt8} (hlen : bytes.length ≤ ueventMsgSize) {k : ℕ}
    (hk : k < (ownFields bytes).length) (hmax : k ≤ maxMsgStrs) : k < (strings bytes).length := by
  rw [strings_eq, fields_bufferOf hlen, List.length_take, List.length_append]
  omega

/-- The strings of the buffer are those of a hotplug exactly when those of the datagram are. -/
lemma isHotplug_strings {bytes : List UInt8} (hlen : bytes.length ≤ ueventMsgSize) :
    (8 ≤ (strings bytes).length ∧ IsHotplug (strings bytes)) ↔
      (ownFields bytes)[ueventMsgPart1]? = some ueventMsgStrChange ∧
        (ownFields bytes)[ueventMsgPart4]? = some ueventMsgStrHotplug ∧
          (ownFields bytes)[ueventMsgPart7]? = some ueventMsgStrCard := by
  rw [IsHotplug, getD_strings hlen (by decide), getD_strings hlen (by decide),
    getD_strings hlen (by decide), getD_eq_iff (by decide), getD_eq_iff (by decide),
    getD_eq_iff (by decide)]
  refine and_iff_right_of_imp fun h => ?_
  obtain ⟨hpart, -⟩ := List.getElem?_eq_some_iff.1 h.2.2
  exact length_strings_of_lt hlen hpart (by decide)

/-- Whatever the bytes of the datagram. -/
theorem uEventRound_faithful {bytes : List UInt8} (hpos : 0 < bytes.length)
    (hlen : bytes.length ≤ ueventMsgSize) (destroy : Bool) {fuel : ℕ} (hfuel : maxMsgStrs < fuel) :
    Faithful bytes destroy fuel := by
  have hround := post_uEventRound hpos hlen hfuel destroy
  refine ⟨(post_split hlen hfuel).1, hround.ends, hround.inBuffer, ?_, ?_⟩
  · rintro e he messages k hop
    obtain ⟨rfl, hk, hlong⟩ := hround.compared e he messages k hop
    have hlt : k < 8 := (by decide : ∀ k ∈ parts, k < 8) k hk
    refine ⟨rfl, hk, ?_⟩
    rw [← getD_strings hlen hlt, List.getD_eq_getElem?_getD, List.getElem?_eq_getElem (by omega)]
    rfl
  · rw [← isHotplug_strings hlen]
    exact hround.hotplug

/-- The datagram of a hotplug event. -/
def hotplugDatagram : List UInt8 :=
  chars "change@/devices/card0" ++ 0 :: (ueventMsgStrChange ++ 0 :: (chars "DEVPATH=/devices" ++
    0 :: (chars "SUBSYSTEM=drm" ++ 0 :: (ueventMsgStrHotplug ++ 0 :: (chars "CONNECTOR=95" ++
      0 :: (chars "DEVTYPE=drm_minor" ++ 0 :: (ueventMsgStrCard ++ [0])))))))

theorem uEventRound_faithful_hotplugDatagram : Faithful hotplugDatagram false 17 :=
  uEventRound_faithful (by decide +kernel) (by decide +kernel) false (by decide)

end Hdcp.Uevent
