/-
Threads that are watched by monitors.

A monitor is an automaton that watches the interactions of one thread.  It says which
interactions the thread may make next (`may`), and where the thread is after an interaction
and its answer (`next`).  Answers that lead nowhere need not be considered: with them the
monitor states what the thread relies on.

A program that keeps to the monitor is described by the rules for `Monitor.Sat`, one thread
at a time.  `Watch.sound` is about all the threads of a system together: where
each of them is, is a function of the history of the run, and an invariant of the run tells
that the answers are such as the monitors say.

The programs of a system may be written over two signatures; `Prog.inl` and `Prog.inr` bring
them to the sum.
-/
import Hdcp.Library.Threads

namespace Hdcp.Library

variable {S T : Sig} {α β P : Type}

/-- The interactions of programs of two kinds. -/
abbrev Sig.sum (S T : Sig) : Sig where
  Op := S.Op ⊕ T.Op
  Ans
    | .inl o => S.Ans o
    | .inr o => T.Ans o

namespace Prog

def inl : Prog S α → Prog (S.sum T) α
  | ret a => ret a
  | call o k => .call (S := S.sum T) (.inl o) fun r => (k r).inl

def inr : Prog T α → Prog (S.sum T) α
  | ret a => ret a
  | call o k => .call (S := S.sum T) (.inr o) fun r => (k r).inr

lemma Runs.inr {p : Prog T α} {log : List (Event T)} {a : α} (h : p.Runs log a) :
    (p.inr (S := S)).Runs (log.map fun e => ⟨.inr e.op, e.ans⟩) a := by
  induction h with
  | ret a => exact .ret a
  | call o k r h ih => exact .call (S := S.sum T) (.inr o) (fun r => (k r).inr) r ih

lemma Runs.of_inr {p : Prog T α} {log : List (Event (S.sum T))} {a : α}
    (h : (p.inr (S := S)).Runs log a) :
    ∃ log', log = log'.map (fun e => ⟨.inr e.op, e.ans⟩) ∧ p.Runs log' a := by
  induction p generalizing log with
  | ret b =>
      obtain ⟨rfl, rfl⟩ := runs_ret.1 h
      exact ⟨[], rfl, .ret a⟩
  | call o k ih =>
      obtain ⟨r, rest, rfl, hrest⟩ := runs_call.1 h
      obtain ⟨log', rfl, hlog'⟩ := ih r hrest
      exact ⟨⟨o, r⟩ :: log', rfl, .call o k r hlog'⟩

end Prog

/-- A monitor: the interactions that are possible next, and where they lead. -/
structure Monitor (S : Sig) (P : Type) where
  may : P → S.Op → Prop
  next : P → (o : S.Op) → S.Ans o → P → Prop

namespace Monitor

variable {μ : Monitor S P} {ν : Monitor T P} {Q : α → P → Prop} {p : Prog S α} {q : P}

/-- The program keeps to the monitor and ends with `Q`. -/
def Sat (μ : Monitor S P) (Q : α → P → Prop) : Prog S α → P → Prop
  | .ret a, q => Q a q
  | .call o k, q => μ.may q o ∧ ∀ r q', μ.next q o r q' → Sat μ Q (k r) q'

lemma Sat.ite {b : Prop} [Decidable b] {p' : Prog S α} (hp : b → μ.Sat Q p q)
    (hp' : ¬b → μ.Sat Q p' q) : μ.Sat Q (if b then p else p') q := by
  by_cases h : b
  · rw [if_pos h]
    exact hp h
  · rw [if_neg h]
    exact hp' h

lemma Sat.mono {Q' : α → P → Prop} (h : μ.Sat Q p q) (hQ : ∀ a q, Q a q → Q' a q) :
    μ.Sat Q' p q := by
  induction p generalizing q with
  | ret a => exact hQ a q h
  | call o k ih => exact ⟨h.1, fun r q' hnext => ih r (h.2 r q' hnext)⟩

/-- The rule of composition. -/
lemma Sat.bind {f : α → Prog S β} {R : β → P → Prop} (h : μ.Sat Q p q)
    (hf : ∀ a q, Q a q → μ.Sat R (f a) q) : μ.Sat R (p >>= f) q := by
  induction p generalizing q with
  | ret a => exact hf a q h
  | call o k ih => exact ⟨h.1, fun r q' hnext => ih r (h.2 r q' hnext)⟩

/-- The rule of one interaction. -/
lemma sat_op {o : S.Op} {Q : S.Ans o → P → Prop} (hmay : μ.may q o)
    (hnext : ∀ r q', μ.next q o r q' → Q r q') : μ.Sat Q (Prog.op o) q :=
  ⟨hmay, hnext⟩

/-- A program whose interactions the monitor does not mind. -/
lemma sat_of_uses {A : S.Op → Prop} (hp : p.Uses A)
    (hA : ∀ q o, A o → μ.may q o ∧ ∀ r q', μ.next q o r q' → q' = q) :
    μ.Sat (fun _ q' => q' = q) p q := by
  induction p with
  | ret a => rfl
  | call o k ih =>
      obtain ⟨hmay, hnext⟩ := hA q o hp.1
      refine ⟨hmay, fun r q' h => ?_⟩
      obtain rfl := hnext r q' h
      exact ih r (hp.2 r)

/-- A program whose interactions all keep a fact. -/
lemma sat_of_keeps {A : S.Op → Prop} {F : P → Prop} (hp : p.Uses A)
    (hA : ∀ q o, F q → A o → μ.may q o ∧ ∀ r q', μ.next q o r q' → F q') (hF : F q) :
    μ.Sat (fun _ => F) p q := by
  induction p generalizing q with
  | ret a => exact hF
  | call o k ih =>
      obtain ⟨hmay, hnext⟩ := hA q o hF hp.1
      exact ⟨hmay, fun r q' h => ih r (hp.2 r) (hnext r q' h)⟩

/-- What a round of a loop ends with. -/
def Round (I : β → P → Prop) (Q : α → P → Prop) : β ⊕ α → P → Prop
  | .inl b, q => I b q
  | .inr a, q => Q a q

/-- What a loop ends with, when it stops and when it is cut off. -/
def Loop (I : β → P → Prop) (Q : α → P → Prop) : Option α → P → Prop
  | none, q => ∃ b, I b q
  | some a, q => Q a q

/-- The rule of loops. -/
lemma sat_iter {body : β → Prog S (β ⊕ α)} {I : β → P → Prop}
    (hround : ∀ b q, I b q → μ.Sat (Round I Q) (body b) q) (n : ℕ) {b : β} (hI : I b q) :
    μ.Sat (Loop I Q) (Prog.iter body n b) q := by
  induction n generalizing b q with
  | zero => exact ⟨b, hI⟩
  | succ n ih =>
      refine (hround b q hI).bind ?_
      rintro (b' | a) q' hr
      · exact ih hr
      · exact hr

/-- The rule of substitution: what implements an interaction does what the monitor for it says. -/
lemma Sat.subst {f : (o : T.Op) → Prog S (T.Ans o)} {p : Prog T α}
    (hf : ∀ q o, ν.may q o → μ.Sat (fun r q' => ν.next q o r q') (f o) q) (h : ν.Sat Q p q) :
    μ.Sat Q (p.subst f) q := by
  induction p generalizing q with
  | ret a => exact h
  | call o k ih => exact (hf q o h.1).bind fun r q' hnext => ih r (h.2 r q' hnext)

/-! ### Monitors for the sum of two signatures -/

/-- A monitor for a thread whose interactions are all of the first kind. -/
def inl (μ : Monitor S P) : Monitor (S.sum T) P where
  may
    | q, .inl o => μ.may q o
    | _, .inr _ => False
  next
    | q, .inl o, r, q' => μ.next q o r q'
    | _, .inr _, _, _ => False

/-- A monitor for a thread whose interactions are all of the second kind. -/
def inr (ν : Monitor T P) : Monitor (S.sum T) P where
  may
    | _, .inl _ => False
    | q, .inr o => ν.may q o
  next
    | _, .inl _, _, _ => False
    | q, .inr o, r, q' => ν.next q o r q'

lemma Sat.inl (h : μ.Sat Q p q) : (μ.inl (T := T)).Sat Q p.inl q := by
  induction p generalizing q with
  | ret a => exact h
  | call o k ih => exact ⟨h.1, fun r q' hnext => ih r (h.2 r q' hnext)⟩

lemma Sat.inr {p : Prog T α} (h : ν.Sat Q p q) : (ν.inr (S := S)).Sat Q p.inr q := by
  induction p generalizing q with
  | ret a => exact h
  | call o k ih => exact ⟨h.1, fun r q' hnext => ih r (h.2 r q' hnext)⟩

end Monitor

/-! ### Systems -/

/-- A monitor for each thread of a system.  Where a thread is, is told by the history. -/
structure Watch (S : Sig) (ι κ ρ : Type) where
  Pos : ι → Type
  monitor : (i : ι) → Monitor S (Pos i)
  pos : (i : ι) → Trace S ι κ ρ → Pos i
  /-- What a call ends with. -/
  post : (i : ι) → κ → ρ → Pos i → Prop

namespace Watch

variable {ι κ ρ σ : Type} (W : Watch S ι κ ρ)

/-- A step of the thread `i` does not change where the others are. -/
def Alone (i : ι) (l : Label S ι κ ρ) (tr : Trace S ι κ ρ) : Prop :=
  ∀ j, j ≠ i → W.pos j (l :: tr) = W.pos j tr

/-- Every run keeps the invariant, and every thread keeps to its monitor, when each call
keeps to the monitor and each interaction that the monitor expects keeps the invariant. -/
theorem sound [DecidableEq ι] {M : System S ι κ ρ σ}
    {admits : Trace S ι κ ρ → σ → Label S ι κ ρ → Prop} {inv : Trace S ι κ ρ → σ → Prop}
    {s₀ : σ} (hstart : inv [] s₀)
    (hcall : ∀ i c tr s, M.may i c → calling i tr = none → inv tr s →
      admits tr s (.call i c) → inv (.call i c :: tr) s ∧ W.Alone i (.call i c) tr ∧
        (W.monitor i).Sat (W.post i c) (M.body c) (W.pos i (.call i c :: tr)))
    (hop : ∀ i c o r tr s s', calling i tr = some c → inv tr s →
      (W.monitor i).may (W.pos i tr) o → M.step i o r s = some s' →
      admits tr s (.op i c ⟨o, r⟩) →
        inv (.op i c ⟨o, r⟩ :: tr) s' ∧ W.Alone i (.op i c ⟨o, r⟩) tr ∧
          (W.monitor i).next (W.pos i tr) o r (W.pos i (.op i c ⟨o, r⟩ :: tr)))
    (hret : ∀ i c a tr s, M.may i c → calling i tr = some c → inv tr s →
      W.post i c a (W.pos i tr) → admits tr s (.ret i c a) →
        inv (.ret i c a :: tr) s ∧ W.Alone i (.ret i c a) tr)
    {tr : Trace S ι κ ρ} {cfg : Config S ι κ ρ σ} (hrun : M.Run admits s₀ tr cfg) :
    inv tr cfg.shared ∧ ∀ i c p, cfg.threads i = some (c, p) →
      (W.monitor i).Sat (W.post i c) p (W.pos i tr) := by
  induction hrun with
  | start => exact ⟨hstart, by simp⟩
  | @step tr cfg cfg' l hrun hadm hl ih =>
      obtain ⟨hinv, hthreads⟩ := ih
      -- the thread `i` makes the step and continues with `x`; the others stay where they are
      have hothers (i : ι) (x : Option (κ × Prog S ρ)) (hlocal : W.Alone i l tr)
          (hown : ∀ c p, x = some (c, p) →
            (W.monitor i).Sat (W.post i c) p (W.pos i (l :: tr))) (j : ι) (c : κ)
          (p : Prog S ρ) (hj : Function.update cfg.threads i x j = some (c, p)) :
          (W.monitor j).Sat (W.post j c) p (W.pos j (l :: tr)) := by
        by_cases hji : j = i
        · subst hji
          rw [Function.update_self] at hj
          exact hown c p hj
        · rw [Function.update_of_ne hji] at hj
          rw [hlocal j hji]
          exact hthreads j c p hj
      cases hl with
      | @call i c hi hc =>
          have hidle : calling i tr = none := by rw [hrun.calling_eq, hi, Option.map_none]
          obtain ⟨hinv', hlocal, hsat⟩ := hcall i c tr cfg.shared hc hidle hinv hadm
          refine ⟨hinv', hothers i _ hlocal ?_⟩
          rintro c' p hx
          obtain ⟨rfl, rfl⟩ := Prod.mk.inj (Option.some.inj hx)
          exact hsat
      | @op i c o k r s' hi hr =>
          have hcalling : calling i tr = some c := by rw [hrun.calling_eq, hi, Option.map_some]
          obtain ⟨hmay, hrest⟩ := hthreads i c _ hi
          obtain ⟨hinv', hlocal, hnext⟩ :=
            hop i c o r tr cfg.shared s' hcalling hinv hmay hr hadm
          refine ⟨hinv', hothers i _ hlocal ?_⟩
          rintro c' p hx
          obtain ⟨rfl, rfl⟩ := Prod.mk.inj (Option.some.inj hx)
          exact hrest r _ hnext
      | @ret i c a hi =>
          have hcalling : calling i tr = some c := by rw [hrun.calling_eq, hi, Option.map_some]
          have hmay : M.may i c := System.Run.may M hrun hi
          obtain ⟨hinv', hlocal⟩ :=
            hret i c a tr cfg.shared hmay hcalling hinv (hthreads i c _ hi) hadm
          refine ⟨hinv', hothers i _ hlocal ?_⟩
          rintro c' p hx
          exact absurd hx (by simp)

end Watch

/-! ### The history of a call -/

/-- The monitor of a call that remembers its interactions, the last one first. -/
def Monitor.history (may : List (Event S) → S.Op → Prop) (answers : Event S → Prop) :
    Monitor S (List (Event S)) where
  may := may
  next log o r log' := answers ⟨o, r⟩ ∧ log' = ⟨o, r⟩ :: log

section History

variable {ι κ ρ σ : Type} [DecidableEq ι] {may : ι → List (Event S) → S.Op → Prop}
  {ends : ι → κ → ρ → List (Event S) → Prop} {answers : Event S → Prop}

/-- A step is one that the history of the call allows. -/
def Allowed (may : ι → List (Event S) → S.Op → Prop)
    (ends : ι → κ → ρ → List (Event S) → Prop) : Label S ι κ ρ → Trace S ι κ ρ → Prop
  | .call _ _, _ => True
  | .op i _ e, tr => may i (callEvents i tr) e.op
  | .ret i c a, tr => ends i c a (callEvents i tr)

/-- Every step of a run is allowed when each call keeps to its monitor. -/
theorem allowed_of_sat {M : System S ι κ ρ σ}
    {admits : Trace S ι κ ρ → σ → Label S ι κ ρ → Prop} {s₀ : σ}
    (hcall : ∀ i c, M.may i c →
      (Monitor.history (may i) answers).Sat (fun a log => ends i c a log) (M.body c) [])
    (hstep : ∀ i o r s s', M.step i o r s = some s' → answers ⟨o, r⟩)
    {tr : Trace S ι κ ρ} {cfg : Config S ι κ ρ σ} (hrun : M.Run admits s₀ tr cfg) :
    EveryStep (Allowed may ends) tr := by
  let W : Watch S ι κ ρ :=
    ⟨fun _ => List (Event S), fun i => .history (may i) answers, fun i => callEvents i, ends⟩
  have halone (i : ι) (c : κ) (tr : Trace S ι κ ρ) : W.Alone i (.call i c) tr :=
    fun j hj => if_neg (Ne.symm hj)
  let I (tr : Trace S ι κ ρ) (_ : σ) : Prop := EveryStep (Allowed may ends) tr
  have hstart : I [] s₀ := trivial
  refine (W.sound hstart ?_ ?_ ?_ hrun).1
  · intro i c tr s hc _ hinv _
    refine ⟨⟨trivial, hinv⟩, halone i c tr, ?_⟩
    have hnil : callEvents i (.call i c :: tr) = [] := if_pos rfl
    show (Monitor.history (may i) answers).Sat _ _ (callEvents i (.call i c :: tr))
    rw [hnil]
    exact hcall i c hc
  · intro i c o r tr s s' _ hinv hmay hr _
    exact ⟨⟨hmay, hinv⟩, fun j hj => callEvents_op_of_ne (c := c) (Ne.symm hj),
      hstep i o r s s' hr, callEvents_op_self (c := c)⟩
  · intro i c a tr s _ _ hinv hpost _
    exact ⟨⟨hpost, hinv⟩, fun j _ => rfl⟩

end History

end Hdcp.Library
