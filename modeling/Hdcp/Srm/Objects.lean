/-
The objects of the SRM table.

The table owns a list of pointers to revocation lists.  `RetrieveSrmFromBuffer` builds a new
list of new objects, and either deletes it, on each of its exits that fail, or deletes the list
of the table and installs the new one.  Here the lists and the objects are in memory: they are
allocated and deleted, and an access to one that is not there is a fault.

The program has the parser of `Srm.Model` in it, read for read; it simulates the program there,
in which the lists are values (`simulates_retrieve`).

`commits_or_keeps`: in every sequence of calls, a call that fails leaves the version, the
generation and the lists of the table as they are, and one that succeeds replaces them by those
of its message, with a version that is not lower.
-/
import Hdcp.Library.Simulation
import Hdcp.Srm.Table

namespace Hdcp.Objects

open Library Srm
open Library.Prog (Leads Ensures Simulates iter op)

/-! ### Interactions -/

/-- The interactions of the parser, and those with the table, with lists of pointers and with
revocation lists.  `newVrl` gives memory for an object and `construct` is the end of its
constructor. -/
inductive ObjectOp where
  | srm (o : SrmOp)
  | getVersion
  | getLists
  | setLists (lists : ℕ)
  | setVersion (version : ℕ)
  | setGeneration (generation : ℕ)
  | newLists
  | newVrl
  | construct (vrl : ℕ) (fields : VectorRevocationList)
  | isValid (vrl : ℕ)
  | deleteVrl (vrl : ℕ)
  | pushBack (lists vrl : ℕ)
  | isEmpty (lists : ℕ)
  | back (lists : ℕ)
  | popBack (lists : ℕ)
  | deleteLists (lists : ℕ)

/-- The answers; `new` answers with no address when there is no memory. -/
def ObjectOp.Ans : ObjectOp → Type
  | srm o => o.Ans
  | getVersion | getLists | back _ => ℕ
  | newLists | newVrl => Option ℕ
  | isValid _ | isEmpty _ => Bool
  | _ => Unit

abbrev objectSig : Sig := ⟨ObjectOp, ObjectOp.Ans⟩

abbrev ObjectProg (α : Type) : Type := Prog objectSig α

def getVersion : ObjectProg ℕ := op (S := objectSig) .getVersion

def getLists : ObjectProg ℕ := op (S := objectSig) .getLists

def setLists (lists : ℕ) : ObjectProg Unit := op (S := objectSig) (.setLists lists)

def setVersion (version : ℕ) : ObjectProg Unit := op (S := objectSig) (.setVersion version)

def setGeneration (generation : ℕ) : ObjectProg Unit :=
  op (S := objectSig) (.setGeneration generation)

def newLists : ObjectProg (Option ℕ) := op (S := objectSig) .newLists

def newVrl : ObjectProg (Option ℕ) := op (S := objectSig) .newVrl

def construct (vrl : ℕ) (fields : VectorRevocationList) : ObjectProg Unit :=
  op (S := objectSig) (.construct vrl fields)

def isValid (vrl : ℕ) : ObjectProg Bool := op (S := objectSig) (.isValid vrl)

def deleteVrl (vrl : ℕ) : ObjectProg Unit := op (S := objectSig) (.deleteVrl vrl)

def pushBack (lists vrl : ℕ) : ObjectProg Unit := op (S := objectSig) (.pushBack lists vrl)

def isEmpty (lists : ℕ) : ObjectProg Bool := op (S := objectSig) (.isEmpty lists)

def back (lists : ℕ) : ObjectProg ℕ := op (S := objectSig) (.back lists)

def popBack (lists : ℕ) : ObjectProg Unit := op (S := objectSig) (.popBack lists)

def deleteLists (lists : ℕ) : ObjectProg Unit := op (S := objectSig) (.deleteLists lists)

/-- The parser's own interactions. -/
def lift {α : Type} (p : SrmProg α) : ObjectProg α :=
  p.subst fun o => op (S := objectSig) (.srm o)

/-! ### Programs -/

/-- A round of the loop that empties a list. -/
def emptyRound (lists : ℕ) (_ : Unit) : ObjectProg (Unit ⊕ Unit) := do
  if ← isEmpty lists then
    return .inr ()
  let vrl ← back lists
  deleteVrl vrl
  popBack lists
  return .inl ()

/-- The list and the objects in it are deleted. -/
def killLists (rounds lists : ℕ) : ObjectProg (Option Unit) := do
  match ← iter (emptyRound lists) rounds () with
  | none => return none
  | some () =>
    deleteLists lists
    return some ()

/-- `out_kill_list`. -/
def outKillList (rounds lists : ℕ) (ret : Errno) : ObjectProg (Option Errno) := do
  match ← killLists rounds lists with
  | none => return none
  | some () => return some ret

/-- `new VectorRevocationList`, the check of its validity and `push_back`. -/
def addVrl (lists vrlList length : ℕ) : ObjectProg Errno := do
  match ← newVrl with
  | none => return .enomem
  | some vrl =>
    construct vrl (← lift (newVectorRevocationList vrlList length))
    if !(← isValid vrl) then
      deleteVrl vrl
      return .einval
    pushBack lists vrl
    return .success

/-- One round of the loop over the further generations. -/
def generationRound (length lists : ℕ) (offset : ℕ) : ObjectProg (ℕ ⊕ Errno) := do
  if ¬ offset < length then
    return .inr .success
  if u32 (offset + 2) > length then
    return .inr .einval
  let high ← lift (read offset)
  let low ← lift (read (u32 (offset + 1)))
  let offset := u32 (offset + 2)
  let vrlLength := high.toNat <<< 8 ||| low.toNat
  if u32 (offset + vrlLength) > length then
    return .inr .einval
  if vrlLength < 2 + 2 * dsaSigLength then
    return .inr .einval
  lift (useLength vrlLength 2)
  lift (useLength (vrlLength - 2) (2 * dsaSigLength))
  let vrlLength := vrlLength - 2 - 2 * dsaSigLength
  let vrlList := offset
  let signatureR := u32 (vrlList + vrlLength)
  let signatureS := u32 (signatureR + dsaSigLength)
  let offset := u32 (signatureS + dsaSigLength)
  let ret ← lift (verifySignature vrlList vrlLength signatureR signatureS)
  if ret ≠ .success then
    return .inr ret
  let ret ← addVrl lists vrlList (u16 vrlLength)
  if ret ≠ .success then
    return .inr ret
  return .inl offset

/-- The new list is complete: the old one is deleted, and the table takes the new one. -/
def install (rounds lists : ℕ) (srmHeader : SrmHeader) : ObjectProg (Option Errno) := do
  let old ← getLists
  match ← killLists rounds old with
  | none => return none
  | some () =>
    setLists lists
    setVersion srmHeader.version
    setGeneration srmHeader.generation
    return some .success

/-- The end of `RetrieveSrmFromBuffer`, when the first signature is good. -/
def buildLists (fuel rounds length vrlList vrlLength offset : ℕ) (srmHeader : SrmHeader) :
    ObjectProg (Option Errno) := do
  match ← newLists with
  | none => return some .enomem
  | some lists =>
    let ret ← addVrl lists vrlList vrlLength
    if ret ≠ .success then
      outKillList rounds lists ret
    else
      match ← iter (generationRound length lists) fuel offset with
      | none => return none
      | some ret =>
        if ret ≠ .success then outKillList rounds lists ret else install rounds lists srmHeader

/-- `SrmTable::RetrieveSrmFromBuffer`, with `fuel` rounds for the loop over the further
generations and `rounds` for those that delete a list. -/
def retrieveSrmFromBuffer (fuel rounds length : ℕ) : ObjectProg (Option Errno) := do
  let srmHeader ← lift readHeader
  if srmHeader.srmId ≠ srmHeaderId then
    return some .einval
  let version ← getVersion
  if srmHeader.version < version then
    return some .eagain
  let high ← lift (read 5)
  let mid ← lift (read 6)
  let low ← lift (read 7)
  let vrlLength := (high.toNat <<< 16 ||| mid.toNat <<< 8) ||| low.toNat
  let gen1BufLength := u32 (srmHeaderLength + vrlLength)
  if gen1BufLength > length then
    return some .einval
  if vrlLength < 3 + 2 * dsaSigLength then
    return some .einval
  lift (useLength vrlLength 3)
  lift (useLength (vrlLength - 3) (2 * dsaSigLength))
  let vrlLength := vrlLength - 3 - 2 * dsaSigLength
  let vrlList := srmHeaderLength + 3
  let signatureR := u32 (vrlList + vrlLength)
  let signatureS := u32 (signatureR + dsaSigLength)
  let offset := u32 (signatureS + dsaSigLength)
  lift (useLength gen1BufLength (2 * dsaSigLength))
  let gen1BufLength := gen1BufLength - 2 * dsaSigLength
  let ret ← lift (verifySignature 0 gen1BufLength signatureR signatureS)
  if ret ≠ .success then
    return some ret
  buildLists fuel rounds length vrlList (u16 vrlLength) offset srmHeader

/-! ### States -/

/-- The table, and the lists and objects in memory.  `fault` is set when one of them is accessed
that is not there. -/
structure TableState where
  version : ℕ
  generation : ℕ
  revocationListsByGeneration : ℕ
  lists : ℕ → Option (List ℕ)
  vrls : ℕ → Option VectorRevocationList
  fault : Bool

namespace TableState

/-- The table after its constructor, before the storage file is read. -/
def initial : TableState where
  version := 0
  generation := 0
  revocationListsByGeneration := 0
  lists := fun l => if l = 0 then some [] else none
  vrls := fun _ => none
  fault := false

def setList (s : TableState) (l : ℕ) (x : Option (List ℕ)) : TableState :=
  { s with lists := Function.update s.lists l x }

def setVrl (s : TableState) (a : ℕ) (x : Option VectorRevocationList) : TableState :=
  { s with vrls := Function.update s.vrls a x }

/-- An access to a list. -/
def onList (s : TableState) (l : ℕ) (f : List ℕ → Option TableState) : Option TableState :=
  match s.lists l with
  | none => some { s with fault := true }
  | some objects => f objects

/-- An access to an object. -/
def onVrl (s : TableState) (a : ℕ) (f : VectorRevocationList → Option TableState) :
    Option TableState :=
  match s.vrls a with
  | none => some { s with fault := true }
  | some vrl => f vrl

/-- A read that is answered by the value `x`. -/
def answer {α : Type} [DecidableEq α] (s : TableState) (x r : α) : Option TableState :=
  if r = x then some s else none

/-- `back` of a list. -/
def readBack (s : TableState) (objects : List ℕ) (r : ℕ) : Option TableState :=
  match objects.getLast? with
  | none => some { s with fault := true }
  | some a => s.answer a r

/-- The memory of a new list, or no memory. -/
def allocateList (s : TableState) : Option ℕ → Option TableState
  | none => some s
  | some l => if s.lists l = none then some (s.setList l (some [])) else none

def allocateVrl (s : TableState) : Option ℕ → Option TableState
  | none => some s
  | some a => if s.vrls a = none then some (s.setVrl a (some ⟨false, 0, none⟩)) else none

/-- The revocation lists of the table, in order. -/
def contents (s : TableState) : Option (List VectorRevocationList) :=
  (s.lists s.revocationListsByGeneration).bind fun objects => objects.mapM s.vrls

/-- What the table says. -/
def table (s : TableState) : ℕ × ℕ × Option (List VectorRevocationList) :=
  (s.version, s.generation, s.contents)

end TableState

/-- One interaction of a call on the message at `buf` with the answer that it gets. -/
def objectStep (buf : Mem) : (o : ObjectOp) → o.Ans → TableState → Option TableState
  | .srm o, r, s => if faithful buf ⟨o, r⟩ then some s else none
  | .getVersion, r, s => s.answer s.version r
  | .getLists, r, s => s.answer s.revocationListsByGeneration r
  | .setLists l, _, s => some { s with revocationListsByGeneration := l }
  | .setVersion version, _, s => some { s with version := version }
  | .setGeneration generation, _, s => some { s with generation := generation }
  | .newLists, r, s => s.allocateList r
  | .newVrl, r, s => s.allocateVrl r
  | .construct a fields, _, s => s.onVrl a fun _ => some (s.setVrl a (some fields))
  | .isValid a, r, s => s.onVrl a fun vrl => s.answer vrl.isValid r
  | .deleteVrl a, _, s => s.onVrl a fun _ => some (s.setVrl a none)
  | .pushBack l a, _, s => s.onList l fun objects => some (s.setList l (some (objects ++ [a])))
  | .isEmpty l, r, s => s.onList l fun objects => s.answer objects.isEmpty r
  | .back l, r, s => s.onList l fun objects => s.readBack objects r
  | .popBack l, _, s => s.onList l fun objects => some (s.setList l (some objects.dropLast))
  | .deleteLists l, _, s => s.onList l fun _ => some (s.setList l none)

/-! ### What is claimed -/

/-- A call commits the message, or keeps the table. -/
structure CommitsOrKeeps (buf : Mem) (length : ℕ) (ret : Errno) (s s' : TableState) : Prop where
  version : s.version ≤ s'.version
  keeps : ret ≠ .success → s'.table = s.table
  commits : ret = .success → ∃ ss, Walk buf length (5 + gen1Length buf) ss ∧
    s'.table = ((headerOf buf).version, (headerOf buf).generation,
      some (gen1Vrl buf :: ss.map (sectionVrl buf)))
  noFault : s'.fault = false

/-- The states after a sequence of calls that return, on any messages. -/
inductive Reached : TableState → Prop where
  | initial : Reached TableState.initial
  | call {s s' : TableState} {buf : Mem} {fuel rounds length : ℕ} {ret : Errno}
      {log : List (Event objectSig)} (hs : Reached s)
      (h : (retrieveSrmFromBuffer fuel rounds length).Runs log (some ret))
      (hleads : Leads (objectStep buf) log s s') : Reached s'

/-! ### Deleting a list -/

variable {buf : Mem} {s s' : TableState} {l a : ℕ} {objects : List ℕ}
  {ls : List VectorRevocationList}

@[simp] lemma onList_some {f : List ℕ → Option TableState} (h : s.lists l = some objects) :
    s.onList l f = f objects := by rw [TableState.onList, h]

@[simp] lemma onVrl_some {f : VectorRevocationList → Option TableState}
    {vrl : VectorRevocationList} (h : s.vrls a = some vrl) : s.onVrl a f = f vrl := by
  rw [TableState.onVrl, h]

lemma answer_eq_some {α : Type} [DecidableEq α] {x r : α} :
    s.answer x r = some s' ↔ r = x ∧ s' = s := by
  rw [TableState.answer, Option.ite_none_right_eq_some, Option.some.injEq, eq_comm (a := s)]

/-- The state in which the list is empty and its objects are deleted. -/
def emptied (s : TableState) (l : ℕ) (objects : List ℕ) : TableState :=
  { s with
    lists := Function.update s.lists l (some [])
    vrls := fun a => if a ∈ objects then none else s.vrls a }

/-- The objects of a list are there, each of them once. -/
structure Owned (s : TableState) (l : ℕ) (objects : List ℕ) : Prop where
  list : s.lists l = some objects
  nodup : objects.Nodup
  objects : ∀ a ∈ objects, s.vrls a ≠ none

lemma ensures_emptyLoop (rounds : ℕ) (h : Owned s l objects) :
    Ensures (objectStep buf) (fun r s' => r = some () → s' = emptied s l objects)
      (iter (emptyRound l) rounds ()) s := by
  induction rounds generalizing s objects with
  | zero => exact fun h => absurd h (by simp)
  | succ rounds ih =>
      rw [Prog.iter_succ]
      refine Ensures.op_bind fun (b : Bool) s₁ h₁ => ?_
      have h₁ : s.onList l (fun objects => s.answer objects.isEmpty b) = some s₁ := h₁
      rw [onList_some h.list] at h₁
      obtain ⟨rfl, rfl⟩ := answer_eq_some.1 h₁
      rcases List.eq_nil_or_concat objects with rfl | ⟨init, a, rfl⟩
      · refine fun _ => ?_
        have hsame : Function.update s₁.lists l (some []) = s₁.lists := by
          rw [← h.list, Function.update_eq_self]
        simp [emptied, hsame]
      · -- the last object is deleted, and the rest is emptied by the other rounds
        rw [List.concat_eq_append] at h ⊢
        have hnonempty : (init ++ [a]).isEmpty = false := by simp
        rw [hnonempty]
        refine Ensures.op_bind fun (r : ℕ) s₂ h₂ => ?_
        have h₂ : s₁.onList l (fun objects => s₁.readBack objects r) = some s₂ := h₂
        rw [onList_some h.list, TableState.readBack, List.getLast?_concat] at h₂
        obtain ⟨rfl, rfl⟩ := answer_eq_some.1 h₂
        refine Ensures.op_bind fun _ s₃ h₃ => ?_
        obtain ⟨vrl, hvrl⟩ := Option.ne_none_iff_exists'.1 (h.objects r (by simp))
        have h₃ : s₂.onVrl r (fun _ => some (s₂.setVrl r none)) = some s₃ := h₃
        rw [onVrl_some hvrl] at h₃
        obtain rfl := Option.some.inj h₃
        refine Ensures.op_bind fun _ s₄ h₄ => ?_
        have h₄ : (s₂.setVrl r none).onList l (fun objects =>
          some ((s₂.setVrl r none).setList l (some objects.dropLast))) = some s₄ := h₄
        rw [onList_some (show (s₂.setVrl r none).lists l = _ from h.list),
          List.dropLast_concat] at h₄
        obtain rfl := Option.some.inj h₄
        obtain ⟨hinit, -, hdisjoint⟩ := List.nodup_append.1 h.nodup
        have hne (b : ℕ) (hb : b ∈ init) : b ≠ r := hdisjoint b hb r (by simp)
        have hrest : Owned ((s₂.setVrl r none).setList l (some init)) l init := by
          refine ⟨by simp [TableState.setList], hinit, fun b hb => ?_⟩
          simp only [TableState.setList, TableState.setVrl, Function.update_of_ne (hne b hb)]
          exact h.objects b (List.mem_append_left _ hb)
        refine (ih hrest).mono fun r' s' hs' hr' => ?_
        · rw [hs' hr']
          simp only [emptied, TableState.setList, TableState.setVrl, Function.update_idem,
            TableState.mk.injEq, true_and, and_true]
          funext b
          by_cases hb : b = r
          · simp [hb]
          · simp [hb]

/-- The list is deleted with its objects; nothing else changes. -/
lemma ensures_killLists (rounds : ℕ) (h : Owned s l objects) :
    Ensures (objectStep buf) (fun r s' => r = some () → s' = (emptied s l objects).setList l none)
      (killLists rounds l) s := by
  refine (ensures_emptyLoop rounds h).bind fun r s₁ hs₁ => ?_
  cases r with
  | none => exact fun h => absurd h (by simp)
  | some u =>
      obtain rfl := hs₁ rfl
      refine Ensures.op_bind fun _ s₂ h₂ => ?_
      have h₂ : (emptied s l objects).onList l (fun _ =>
        some ((emptied s l objects).setList l none)) = some s₂ := h₂
      rw [onList_some (by simp [emptied] : (emptied s l objects).lists l = some [])] at h₂
      exact fun _ => (Option.some.inj h₂).symm

/-! ### The simulation -/

/-- Whether there was memory. -/
def given (r : Option ℕ) : Bool := r.isSome

/-- What the parser sees: its own interactions, and whether there was memory. -/
def visible : Event objectSig → Option (Event srmSig)
  | ⟨.srm o, r⟩ => some ⟨o, r⟩
  | ⟨.newLists, r⟩ => some ⟨.new .revocationLists, given r⟩
  | ⟨.newVrl, r⟩ => some ⟨.new .vectorRevocationList, given r⟩
  | _ => none

/-- The interactions that the parser does not see. -/
def hidden : ObjectOp → Bool
  | .srm _ | .newLists | .newVrl => false
  | _ => true

lemma visible_of_hidden (e : Event objectSig) (h : hidden e.op = true) : visible e = none := by
  rcases e with ⟨o, r⟩
  cases o
  case srm | newLists | newVrl => exact absurd h (by simp [hidden])
  all_goals rfl

lemma hidden_killLists (rounds : ℕ) :
    (killLists rounds l).Uses fun o : ObjectOp => hidden o = true := by
  refine Prog.Uses.bind (Prog.uses_iter (fun _ => ?_) rounds ()) fun r => ?_
  · refine .op_bind rfl fun (b : Bool) => .ite (fun _ => trivial) fun _ => ?_
    exact .op_bind rfl fun _ => .op_bind rfl fun _ => .op_bind rfl fun _ => trivial
  · cases r with
    | none => trivial
    | some u => exact .op_bind rfl fun _ => trivial

/-- The table is in memory, with the objects `old`. -/
structure Represents (t : SrmTable) (old : List ℕ) (s : TableState) : Prop where
  version : s.version = t.version
  generation : s.generation = t.generation
  noFault : s.fault = false
  table : s.lists s.revocationListsByGeneration = some old
  contents : old.map s.vrls = t.revocationListsByGeneration.map some
  nodup : old.Nodup

/-- A new list is in memory beside the table: the list at `l` of the objects `new`. -/
structure Building (t : SrmTable) (old : List ℕ) (l : ℕ) (ls : List VectorRevocationList)
    (new : List ℕ) (s : TableState) : Prop extends Represents t old s where
  other : l ≠ s.revocationListsByGeneration
  list : s.lists l = some new
  built : new.map s.vrls = ls.map some
  newNodup : new.Nodup
  disjoint : ∀ a ∈ old, a ∉ new

variable {t : SrmTable} {old new : List ℕ}

/-- The objects of a list with contents are there. -/
lemma ne_none_of_map {f : ℕ → Option VectorRevocationList} (h : new.map f = ls.map some) :
    ∀ a ∈ new, f a ≠ none := by
  intro a ha
  have hmem : f a ∈ ls.map some := h ▸ List.mem_map_of_mem ha
  obtain ⟨vrl, -, hvrl⟩ := List.mem_map.1 hmem
  rw [← hvrl]
  exact Option.some_ne_none vrl

/-- A change of an object outside the list. -/
lemma map_update {f : ℕ → Option VectorRevocationList} {x : Option VectorRevocationList}
    (ha : a ∉ new) : new.map (Function.update f a x) = new.map f :=
  List.map_congr_left fun b hb =>
    Function.update_of_ne (fun h : b = a => ha (h ▸ hb)) _ _

lemma simulates_lift {α : Type} (p : SrmProg α) :
    Simulates (objectStep buf) visible (fun a a' s' => a' = a ∧ s' = s) p (lift p) s := by
  induction p with
  | ret a => exact Prog.simulates_ret ⟨rfl, rfl⟩
  | call o k ih =>
      refine Simulates.call fun r s' hs' => ⟨r, rfl, ?_⟩
      obtain ⟨-, hs'⟩ := Option.ite_none_right_eq_some.1 hs'
      obtain rfl := Option.some.inj hs'
      exact ih r

/-- An object that neither list has does not matter. -/
lemma Building.setVrl {x : Option VectorRevocationList} (h : Building t old l ls new s)
    (hold : a ∉ old) (hnew : a ∉ new) : Building t old l ls new (s.setVrl a x) where
  version := h.version
  generation := h.generation
  noFault := h.noFault
  table := h.table
  contents := (map_update hold).trans h.contents
  nodup := h.nodup
  other := h.other
  list := h.list
  built := (map_update hnew).trans h.built
  newNodup := h.newNodup
  disjoint := h.disjoint

/-- The object at `a` is at the end of the new list. -/
lemma Building.pushed {vrl : VectorRevocationList} (h : Building t old l ls new s)
    (ha : s.vrls a = some vrl) (hold : a ∉ old) (hnew : a ∉ new) :
    Building t old l (ls ++ [vrl]) (new ++ [a]) (s.setList l (some (new ++ [a]))) where
  version := h.version
  generation := h.generation
  noFault := h.noFault
  table := (Function.update_of_ne (Ne.symm h.other) _ _).trans h.table
  contents := h.contents
  nodup := h.nodup
  other := h.other
  list := Function.update_self _ _ _
  built := by
    rw [List.map_append, List.map_append, show new.map (s.setList l _).vrls = _ from h.built]
    simp [TableState.setList, ha]
  newNodup := List.nodup_append.2 ⟨h.newNodup, by simp, fun b hb c hc => by
    rintro rfl
    exact hnew (List.mem_singleton.1 hc ▸ hb)⟩
  disjoint := by
    intro b hb hmem
    rcases List.mem_append.1 hmem with hmem | hmem
    · exact h.disjoint b hb hmem
    · exact hold (List.mem_singleton.1 hmem ▸ hb)

lemma Building.fresh (h : Building t old l ls new s) (ha : s.vrls a = none) :
    a ∉ old ∧ a ∉ new :=
  ⟨fun hmem => ne_none_of_map h.contents a hmem ha, fun hmem => ne_none_of_map h.built a hmem ha⟩

/-- A new object: it is in the new list, or the list is as it was. -/
lemma simulates_addVrl {β β' : Type} {R : β → β' → TableState → Prop}
    (refuse : Errno → SrmProg β) {accept : VectorRevocationList → SrmProg β}
    {next : Errno → ObjectProg β'} {vrlList length : ℕ} (h : Building t old l ls new s)
    (hrefuse : ∀ e s', e ≠ .success → Building t old l ls new s' →
      Simulates (objectStep buf) visible R (refuse e) (next e) s')
    (haccept : ∀ vrl new' s', Building t old l (ls ++ [vrl]) new' s' →
      Simulates (objectStep buf) visible R (accept vrl) (next .success) s') :
    Simulates (objectStep buf) visible R
      (Srm.new .vectorRevocationList >>= fun b => if !b then refuse .enomem else
        newVectorRevocationList vrlList length >>= fun vrl =>
          if !vrl.isValid then refuse .einval else accept vrl)
      (addVrl l vrlList length >>= next) s := by
  refine Simulates.call fun r s₁ h₁ => ⟨given r, rfl, ?_⟩
  rcases (r : Option ℕ) with _ | a
  · obtain rfl := Option.some.inj h₁
    exact hrefuse .enomem s (by decide) h
  obtain ⟨hfree, h₁⟩ := Option.ite_none_right_eq_some.1 h₁
  obtain rfl := Option.some.inj h₁
  obtain ⟨hold, hnew⟩ := h.fresh hfree
  have h₁ := h.setVrl (x := some ⟨false, 0, none⟩) hold hnew
  show Simulates _ _ R (newVectorRevocationList vrlList length >>= fun vrl =>
    if !vrl.isValid then refuse .einval else accept vrl)
    ((lift (newVectorRevocationList vrlList length) >>= fun fields => construct a fields >>=
      fun _ => isValid a >>= fun b => if !b then deleteVrl a >>= fun _ => pure .einval
        else pushBack l a >>= fun _ => pure .success) >>= next) _
  rw [Prog.bind_assoc]
  refine (simulates_lift _).bind ?_
  rintro _ vrl _ ⟨rfl, rfl⟩
  -- the fields of the object are set
  refine Simulates.silent fun _ s₂ h₂ => ⟨rfl, ?_⟩
  have h₂ : (s.setVrl a (some ⟨false, 0, none⟩)).onVrl a (fun _ =>
    some ((s.setVrl a (some ⟨false, 0, none⟩)).setVrl a (some vrl))) = some s₂ := h₂
  rw [onVrl_some (by simp [TableState.setVrl] : _ = some ⟨false, 0, none⟩)] at h₂
  obtain rfl := Option.some.inj h₂
  have h₂ := h₁.setVrl (x := some vrl) hold hnew
  have ha : ((s.setVrl a (some ⟨false, 0, none⟩)).setVrl a (some vrl)).vrls a = some vrl := by
    simp [TableState.setVrl]
  generalize (s.setVrl a (some ⟨false, 0, none⟩)).setVrl a (some vrl) = s₂ at h₂ ha ⊢
  refine Simulates.silent fun (b : Bool) s₃ h₃ => ⟨rfl, ?_⟩
  have h₃ : s₂.onVrl a (fun vrl => s₂.answer vrl.isValid b) = some s₃ := h₃
  rw [onVrl_some ha] at h₃
  obtain ⟨rfl, rfl⟩ := answer_eq_some.1 h₃
  rcases hvalid : vrl.isValid with _ | _
  · refine Simulates.silent fun _ s₄ h₄ => ⟨rfl, ?_⟩
    have h₄ : s₃.onVrl a (fun _ => some (s₃.setVrl a none)) = some s₄ := h₄
    rw [onVrl_some ha] at h₄
    obtain rfl := Option.some.inj h₄
    exact hrefuse .einval _ (by decide) (h₂.setVrl hold hnew)
  · refine Simulates.silent fun _ s₄ h₄ => ⟨rfl, ?_⟩
    have h₄ : s₃.onList l (fun objects => some (s₃.setList l (some (objects ++ [a])))) =
      some s₄ := h₄
    rw [onList_some h₂.list] at h₄
    obtain rfl := Option.some.inj h₄
    exact haccept vrl _ _ (h₂.pushed ha hold hnew)

/-- What the call returns, and the table that it leaves. -/
def Outcome (t : SrmTable) (r : Option (Except Errno (SrmHeader × List VectorRevocationList)))
    (ret : Option Errno) (s : TableState) : Prop :=
  ∀ e, ret = some e →
    (e ≠ .success ∧ r = some (.error e) ∧ ∃ old, Represents t old s) ∨
      (e = .success ∧ ∃ hdr ls, r = some (.ok (hdr, ls)) ∧
        ∃ old, Represents (t.commit hdr (.ok ls)).2 old s)

lemma outcome_error {e : Errno} (he : e ≠ .success) (h : Represents t old s) :
    Outcome t (some (.error e)) (some e) s := by
  intro e' he'
  obtain rfl := Option.some.inj he'
  exact .inl ⟨he, rfl, old, h⟩

/-- The new list is deleted: the table is as it was. -/
lemma Building.killed (h : Building t old l ls new s) :
    Represents t old ((emptied s l new).setList l none) where
  version := h.version
  generation := h.generation
  noFault := h.noFault
  table := by
    simp only [TableState.setList, emptied, Function.update_of_ne (Ne.symm h.other)]
    exact h.table
  contents := by
    rw [← h.contents]
    exact List.map_congr_left fun a ha => if_neg (h.disjoint a ha)
  nodup := h.nodup

lemma simulates_outKillList {e : Errno} (he : e ≠ .success) (h : Building t old l ls new s)
    (rounds : ℕ) :
    Simulates (objectStep buf) visible (Outcome t) (Prog.ret (some (.error e)))
      (outKillList rounds l e) s := by
  have howned : Owned s l new := ⟨h.list, h.newNodup, ne_none_of_map h.built⟩
  refine Simulates.ensures_bind visible_of_hidden (hidden_killLists rounds)
    (ensures_killLists rounds howned) fun r s' hs' => ?_
  cases r with
  | none => exact Prog.simulates_ret fun e' he' => absurd he' (by simp)
  | some u =>
      obtain rfl := hs' rfl
      exact Prog.simulates_ret (outcome_error he h.killed)

/-- The old list is deleted, and the table has the new one. -/
lemma simulates_install (h : Building t old l ls new s) (rounds : ℕ) (hdr : SrmHeader) :
    Simulates (objectStep buf) visible (Outcome t) (Prog.ret (some (.ok (hdr, ls))))
      (install rounds l hdr) s := by
  have howned : Owned s s.revocationListsByGeneration old :=
    ⟨h.table, h.nodup, ne_none_of_map h.contents⟩
  refine Simulates.silent fun (p : ℕ) s₁ h₁ => ⟨rfl, ?_⟩
  obtain ⟨rfl, rfl⟩ := answer_eq_some.1 (show s.answer s.revocationListsByGeneration p = _ from h₁)
  show Simulates _ _ _ _ (killLists rounds s₁.revocationListsByGeneration >>= _) s₁
  refine Simulates.ensures_bind visible_of_hidden (hidden_killLists rounds)
    (ensures_killLists rounds howned) fun r s' hs' => ?_
  cases r with
  | none => exact Prog.simulates_ret fun e he => absurd he (by simp)
  | some u =>
      obtain rfl := hs' rfl
      refine Simulates.silent fun _ s₂ h₂ => ⟨rfl, ?_⟩
      obtain rfl := Option.some.inj h₂
      refine Simulates.silent fun _ s₃ h₃ => ⟨rfl, ?_⟩
      obtain rfl := Option.some.inj h₃
      refine Simulates.silent fun _ s₄ h₄ => ⟨rfl, ?_⟩
      obtain rfl := Option.some.inj h₄
      refine Prog.simulates_ret fun e he => .inr ⟨(Option.some.inj he).symm, hdr, ls, rfl, new, ?_⟩
      constructor
      · rfl
      · rfl
      · exact h.noFault
      · simp only [TableState.setList, emptied, Function.update_of_ne h.other]
        exact h.list
      · show new.map _ = ls.map some
        rw [← h.built]
        exact List.map_congr_left fun a ha => if_neg fun hold => h.disjoint a hold ha
      · exact h.newNodup

/-- How the rounds over the further generations end. -/
def Sections (t : SrmTable) (old : List ℕ) (l : ℕ)
    (r : Except Errno (List VectorRevocationList)) (ret : Errno) (s : TableState) : Prop :=
  match r with
  | .error e => e ≠ .success ∧ ret = e ∧ ∃ ls new, Building t old l ls new s
  | .ok ls => ret = .success ∧ ∃ new, Building t old l ls new s

/-- The variables of the two loops. -/
def Going (t : SrmTable) (old : List ℕ) (l : ℕ) (x : SectionState) (offset : ℕ)
    (s : TableState) : Prop :=
  x.1 = offset ∧ ∃ new, Building t old l x.2 new s

lemma simulates_generationRound (length : ℕ) {x : SectionState} {offset : ℕ}
    (h : Going t old l x offset s) :
    Simulates (objectStep buf) visible (Prog.SameEnd (Going t old l) (Sections t old l))
      (sectionRound length x) (generationRound length l offset) s := by
  obtain ⟨_, ls⟩ := x
  obtain ⟨rfl, new, hnew⟩ := h
  have hrefused {e : Errno} {s' : TableState} (he : e ≠ .success)
      (h : Building t old l ls new s') :
      Simulates (objectStep buf) visible (Prog.SameEnd (Going t old l) (Sections t old l))
        (Prog.ret (.inr (.error e))) (Prog.ret (.inr e)) s' :=
    Prog.simulates_ret ⟨he, rfl, ls, new, h⟩
  unfold sectionRound generationRound
  refine Simulates.ite (fun _ => Prog.simulates_ret ⟨rfl, new, hnew⟩) fun _ => ?_
  refine Simulates.ite (fun _ => hrefused (by decide) hnew) fun _ => ?_
  refine (simulates_lift _).bind ?_
  rintro _ high _ ⟨rfl, rfl⟩
  refine (simulates_lift _).bind ?_
  rintro _ low _ ⟨rfl, rfl⟩
  refine Simulates.ite (fun _ => hrefused (by decide) hnew) fun _ => ?_
  refine Simulates.ite (fun _ => hrefused (by decide) hnew) fun _ => ?_
  refine (simulates_lift _).bind ?_
  rintro _ _ _ ⟨rfl, rfl⟩
  refine (simulates_lift _).bind ?_
  rintro _ _ _ ⟨rfl, rfl⟩
  refine (simulates_lift _).bind ?_
  rintro _ ret _ ⟨rfl, rfl⟩
  refine Simulates.ite (fun hret => hrefused hret hnew) fun _ => ?_
  let refuse (e : Errno) : SrmProg (SectionState ⊕ Except Errno (List VectorRevocationList)) :=
    pure (.inr (.error e))
  refine simulates_addVrl refuse hnew (fun e s' he h => ?_) fun vrl new' s' h => ?_
  · rw [if_pos he]
    exact hrefused he h
  · exact Prog.simulates_ret ⟨rfl, new', h⟩

/-- A new list, with nothing in it yet. -/
lemma Represents.building (h : Represents t old s) (hfree : s.lists l = none) :
    Building t old l [] [] (s.setList l (some [])) := by
  have hother : l ≠ s.revocationListsByGeneration := by
    rintro rfl
    exact absurd (hfree.symm.trans h.table) (by simp)
  refine ⟨⟨h.version, h.generation, h.noFault, ?_, h.contents, h.nodup⟩, hother, ?_, rfl,
    List.nodup_nil, fun a _ => List.not_mem_nil⟩
  · exact (Function.update_of_ne (Ne.symm hother) _ _).trans h.table
  · exact Function.update_self _ _ _

/-- The call returns what the parser returns, and leaves the table that it says. -/
lemma simulates_parse (fuel rounds length : ℕ) (h : Represents t old s) :
    Simulates (objectStep buf) visible (Outcome t) (parseSrm fuel t.version length)
      (retrieveSrmFromBuffer fuel rounds length) s := by
  have hrefused {e : Errno} {s : TableState} (he : e ≠ .success) (h : Represents t old s) :
      Simulates (objectStep buf) visible (Outcome t) (Prog.ret (some (.error e)))
        (Prog.ret (some e)) s := Prog.simulates_ret (outcome_error he h)
  unfold parseSrm retrieveSrmFromBuffer
  refine (simulates_lift _).bind ?_
  rintro _ srmHeader _ ⟨rfl, rfl⟩
  refine Simulates.ite (fun _ => hrefused (by decide) h) fun _ => ?_
  refine Simulates.silent fun (version : ℕ) s₁ h₁ => ⟨rfl, ?_⟩
  obtain ⟨rfl, rfl⟩ := answer_eq_some.1 h₁
  rw [h.version]
  refine Simulates.ite (fun _ => hrefused (by decide) h) fun _ => ?_
  iterate 3
    refine (simulates_lift _).bind ?_
    rintro _ _ _ ⟨rfl, rfl⟩
  refine Simulates.ite (fun _ => hrefused (by decide) h) fun _ => ?_
  refine Simulates.ite (fun _ => hrefused (by decide) h) fun _ => ?_
  iterate 3
    refine (simulates_lift _).bind ?_
    rintro _ _ _ ⟨rfl, rfl⟩
  refine (simulates_lift _).bind ?_
  rintro _ ret _ ⟨rfl, rfl⟩
  refine Simulates.ite (fun hret => hrefused hret h) fun _ => ?_
  refine Simulates.call fun r s₂ h₂ => ⟨given r, rfl, ?_⟩
  rcases (r : Option ℕ) with _ | l
  · obtain rfl := Option.some.inj h₂
    exact hrefused (by decide) h
  obtain ⟨hfree, h₂⟩ := Option.ite_none_right_eq_some.1 h₂
  obtain rfl := Option.some.inj h₂
  let refuse (e : Errno) :
      SrmProg (Option (Except Errno (SrmHeader × List VectorRevocationList))) :=
    pure (some (.error e))
  refine simulates_addVrl refuse (h.building hfree) (fun e s' he h => ?_) fun vrl new s' h => ?_
  · rw [if_pos he]
    exact simulates_outKillList he h rounds
  refine (Prog.simulates_iter (fun _ _ _ h => simulates_generationRound length h) fuel
    ⟨rfl, new, h⟩).bind ?_
  rintro (_ | e | ls) (_ | ret) s'' hend
  · exact Prog.simulates_ret fun e he => absurd he (by simp)
  · exact absurd hend not_false
  · exact absurd hend not_false
  · obtain ⟨he, rfl, ls, new', h'⟩ := hend
    show Simulates _ _ _ _ (if ret ≠ .success then outKillList rounds l ret else _) _
    rw [if_pos he]
    exact simulates_outKillList he h' rounds
  · exact absurd hend not_false
  · obtain ⟨rfl, new', h'⟩ := hend
    exact simulates_install h' rounds _

/-- The program on memory simulates the one on values. -/
lemma simulates_retrieve (fuel rounds length : ℕ) (h : Represents t old s) :
    Simulates (objectStep buf) visible (fun r ret s' => ∀ e, ret = some e →
      ∃ t', r = some (e, t') ∧ ∃ old, Represents t' old s')
      (t.retrieveSrmFromBuffer fuel length) (retrieveSrmFromBuffer fuel rounds length) s := by
  refine (simulates_parse fuel rounds length h).bind_ret fun r ret s' hout => ?_
  have hend (x : Option (Errno × SrmTable)) (hx : ∀ e, ret = some e →
      ∃ t', x = some (e, t') ∧ ∃ old, Represents t' old s') : ∃ b, (Prog.ret x : SrmProg _) =
        Prog.ret b ∧ ∀ e, ret = some e → ∃ t', b = some (e, t') ∧ ∃ old, Represents t' old s' :=
    ⟨x, rfl, hx⟩
  rcases r with _ | e | ⟨hdr, ls⟩
  · refine hend none fun e he => ?_
    rcases hout e he with ⟨-, hr, -⟩ | ⟨-, _, _, hr, -⟩
    · exact absurd hr (by simp)
    · exact absurd hr (by simp)
  · refine hend (some (e, t)) fun e' he' => ?_
    rcases hout e' he' with ⟨-, hr, hrep⟩ | ⟨-, _, _, hr, -⟩
    · obtain rfl : e = e' := by simpa using hr
      exact ⟨t, rfl, hrep⟩
    · exact absurd hr (by simp)
  · refine hend (some (t.commit hdr (.ok ls))) fun e' he' => ?_
    rcases hout e' he' with ⟨-, hr, -⟩ | ⟨rfl, hdr', ls', hr, hrep⟩
    · exact absurd hr (by simp)
    · obtain ⟨rfl, rfl⟩ : hdr = hdr' ∧ ls = ls' := by simpa using hr
      exact ⟨_, rfl, hrep⟩

/-! ### Calls -/

/-- The interactions that the parser sees get the bytes of the message. -/
lemma faithful_of_leads {log : List (Event objectSig)}
    (h : Leads (objectStep buf) log s s') : ∀ e ∈ log.filterMap visible, faithful buf e = true := by
  induction log generalizing s with
  | nil => simp
  | cons e log ih =>
      obtain ⟨s₁, h₁, hrest⟩ := h
      intro e' he'
      rcases List.mem_filterMap.1 he' with ⟨x, hx, hvisible⟩
      rcases List.mem_cons.1 hx with rfl | hx
      · rcases x with ⟨o, r⟩
        cases o
        case srm o =>
          obtain rfl := Option.some.inj hvisible
          exact (Option.ite_none_right_eq_some.1 h₁).1
        case newLists | newVrl =>
          obtain rfl := Option.some.inj hvisible
          rfl
        all_goals exact absurd hvisible (by simp [visible])
      · exact ih hrest e' (List.mem_filterMap.2 ⟨x, hx, hvisible⟩)

lemma mapM_of_map {f : ℕ → Option VectorRevocationList} (h : new.map f = ls.map some) :
    new.mapM f = some ls := by
  induction new generalizing ls with
  | nil =>
      obtain rfl : ls = [] := by simpa using h.symm
      rfl
  | cons a new ih =>
      rcases ls with _ | ⟨vrl, ls⟩
      · exact absurd h (by simp)
      · obtain ⟨ha, hrest⟩ := List.cons.inj h
        rw [List.mapM_cons, ha, ih hrest]
        rfl

lemma Represents.table_eq (h : Represents t old s) :
    s.table = (t.version, t.generation, some t.revocationListsByGeneration) := by
  rw [TableState.table, TableState.contents, h.table, h.version, h.generation]
  exact congrArg (t.version, t.generation, ·) (mapM_of_map h.contents)

/-- A call from a state that represents a table. -/
lemma Represents.call {fuel rounds length : ℕ} {ret : Errno} {log : List (Event objectSig)}
    (h : Represents t old s)
    (hruns : (retrieveSrmFromBuffer fuel rounds length).Runs log (some ret))
    (hleads : Leads (objectStep buf) log s s') :
    ∃ t' old', Represents t' old' s' ∧ CommitsOrKeeps buf length ret s s' := by
  obtain ⟨r, hr, hend⟩ := simulates_retrieve fuel rounds length h log (some ret) s' hruns hleads
  obtain ⟨t', rfl, old', h'⟩ := hend ret rfl
  obtain ⟨ω, n, hexec⟩ := exists_exec hr (faithful_of_leads hleads) 0
  have hreturns : Returns buf ω t length ret t' (log.filterMap visible) := ⟨fuel, n, hexec⟩
  refine ⟨t', old', h', ?_⟩
  by_cases hret : ret = .success
  · subst hret
    obtain ⟨hok, ss, hwalk, rfl, -⟩ := hreturns.success
    refine ⟨?_, fun hne => absurd rfl hne, fun _ => ⟨ss, hwalk, h'.table_eq⟩, h'.noFault⟩
    rw [h.version, h'.version]
    exact hok.recent
  · obtain rfl := hreturns.failure hret
    refine ⟨?_, fun _ => ?_, fun heq => absurd heq hret, h'.noFault⟩
    · rw [h.version, h'.version]
    · rw [h.table_eq, h'.table_eq]

lemma represents_initial : Represents ⟨0, 0, false, []⟩ [] TableState.initial :=
  ⟨rfl, rfl, rfl, rfl, rfl, List.nodup_nil⟩

lemma Reached.represents (h : Reached s) : ∃ t old, Represents t old s := by
  induction h with
  | initial => exact ⟨_, _, represents_initial⟩
  | call hs h hleads ih =>
      obtain ⟨t, old, hrep⟩ := ih
      obtain ⟨t', old', hrep', -⟩ := hrep.call h hleads
      exact ⟨t', old', hrep'⟩

/-- Whatever messages were handed to the table before, whether their calls returned success or
not: a call that succeeds replaces the version, the generation and the lists by those of its
message, and one that fails keeps them; the version does not decrease. -/
theorem commits_or_keeps (s s' : TableState) (hs : Reached s) (buf : Mem)
    (fuel rounds length : ℕ) (ret : Errno) (log : List (Event objectSig))
    (h : (retrieveSrmFromBuffer fuel rounds length).Runs log (some ret))
    (hleads : Leads (objectStep buf) log s s') : CommitsOrKeeps buf length ret s s' := by
  obtain ⟨t, old, hrep⟩ := hs.represents
  obtain ⟨-, -, -, hcommits⟩ := hrep.call h hleads
  exact hcommits

/-! ### A run that shows what happens -/

/-- An SRM of version 1 whose list has one device; the signatures are left out. -/
def oneDeviceSrm : Mem := memOf [0x80, 0, 0, 1, 1, 0, 0, 0x31, 1, 1, 2, 3, 4, 5]

/-- An SRM of version 2 with a further generation, at 48, whose list has one device. -/
def twoGenerationsSrm : Mem :=
  memOf ([0x80, 0, 0, 2, 2, 0, 0, 0x2b] ++ List.replicate 40 0 ++ [0, 48, 1, 5, 4, 3, 2, 1])

/-- The memory is allocated at the first free address, and a signature is good when it is that
of the first generation. -/
def answerOf (buf : Mem) (s : TableState) : (o : ObjectOp) → o.Ans
  | .srm (.read i) => buf i
  | .srm (.memmove src len) => slice buf src len
  | .srm (.verifySignature msg _ _ _) => if msg = 0 then Errno.success else Errno.einval
  | .srm o => acceptAll 0 o
  | .getVersion => s.version
  | .getLists => s.revocationListsByGeneration
  | .newLists => (List.range 4).find? fun l => (s.lists l).isNone
  | .newVrl => (List.range 4).find? fun a => (s.vrls a).isNone
  | .isValid a => ((s.vrls a).map (·.isValid)).getD false
  | .isEmpty l => ((s.lists l).map List.isEmpty).getD true
  | .back l => ((s.lists l).bind List.getLast?).getD 0
  | .setLists _ | .setVersion _ | .setGeneration _ | .construct _ _ | .deleteVrl _ | .pushBack _ _
  | .popBack _ | .deleteLists _ => ()

/-- A call on the message at `buf`. -/
def called (buf : Mem) (length : ℕ) (s : TableState) :
    Option (Result objectSig TableState (Option Errno)) :=
  Prog.answered (answerOf buf) (objectStep buf) (retrieveSrmFromBuffer 2 2 length) s

/-- The first message is accepted. -/
def accepted : Result objectSig TableState (Option Errno) :=
  (called oneDeviceSrm 54 .initial).get (by decide +kernel)

/-- The second message is rejected, when its first generation is already in a list. -/
def rejected : Result objectSig TableState (Option Errno) :=
  (called twoGenerationsSrm 98 accepted.st).get (by decide +kernel)

lemma reached_accepted : Reached accepted.st := by
  have hcalled : called oneDeviceSrm 54 .initial = some accepted := (Option.some_get _).symm
  obtain ⟨hruns, hleads⟩ := Prog.of_answered hcalled
  have hval : accepted.val = some .success := by decide +kernel
  rw [hval] at hruns
  exact .call .initial hruns hleads

theorem commits_or_keeps_rejected :
    accepted.st.table = (1, 1, some [⟨true, 1, some [1, 2, 3, 4, 5]⟩]) ∧
      CommitsOrKeeps twoGenerationsSrm 98 .einval accepted.st rejected.st := by
  have hcalled : called twoGenerationsSrm 98 accepted.st = some rejected := (Option.some_get _).symm
  obtain ⟨hruns, hleads⟩ := Prog.of_answered hcalled
  have hval : rejected.val = some .einval := by decide +kernel
  rw [hval] at hruns
  refine ⟨by decide +kernel, ?_⟩
  exact commits_or_keeps accepted.st rejected.st reached_accepted twoGenerationsSrm 2 2 98 .einval
    rejected.log hruns hleads

end Hdcp.Objects
