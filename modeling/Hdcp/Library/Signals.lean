/-
Threads that a signal interrupts.

A signal can reach a thread at any moment: between two steps, while it waits for a lock and
while it makes no call.  The thread leaves what it does, with the locks that it holds, and
executes the body of a call of its own, the handler.  The handler does not return, so that
what the thread has left is never continued.

When the locks are taken in the order of their ranks, the threads do not wait for each other
in a cycle.  A signal keeps this as long as the handler is disciplined also with the locks
that the interrupted thread holds.
-/
import Mathlib.Logic.Relation
import Hdcp.Library.Locks

namespace Hdcp.Library

variable {S : Sig} {ι κ ρ σ L : Type}

/-! ### Runs -/

section Runs

variable [DecidableEq ι] (M : System S ι κ ρ σ)

/-- The runs with signals.  The steps are admitted by `C`; a signal interrupts a thread when
`D` admits it in the shared state. -/
inductive System.InterruptedRun (handler : κ)
    (C : Trace S ι κ ρ → σ → Label S ι κ ρ → Prop) (D : σ → ι → Prop) (s₀ : σ) :
    Trace S ι κ ρ → Config S ι κ ρ σ → Prop where
  | start : InterruptedRun handler C D s₀ [] ⟨s₀, fun _ => none⟩
  | step {tr : Trace S ι κ ρ} {cfg cfg' : Config S ι κ ρ σ} {l : Label S ι κ ρ}
      (h : InterruptedRun handler C D s₀ tr cfg) (hC : C tr cfg.shared l)
      (hl : M.Step cfg l cfg') : InterruptedRun handler C D s₀ (l :: tr) cfg'
  | signal {tr : Trace S ι κ ρ} {cfg : Config S ι κ ρ σ} (i : ι)
      (h : InterruptedRun handler C D s₀ tr cfg) (hD : D cfg.shared i) :
      InterruptedRun handler C D s₀ (.call i handler :: tr)
        { cfg with threads := Function.update cfg.threads i (some (handler, M.body handler)) }

end Runs

namespace Locking

variable {M : System S ι κ ρ σ} [DecidableEq L] {K : Locking M L}
  {expects : (o : S.Op) → S.Ans o → Prop} {cfg : Config S ι κ ρ σ} {i j : ι}

/-- A thread that is interrupted begins the handler with the locks that it holds. -/
lemma AllOrderly.signal [DecidableEq ι] {c : κ} {p : Prog S ρ} (h : AllOrderly K expects cfg)
    (hp : ∀ held : List L, (∀ l ∈ held, K.holder cfg.shared l = some i) →
      K.Disciplined expects [] p held) :
    AllOrderly K expects
      { cfg with threads := Function.update cfg.threads i (some (c, p)) } := by
  refine h.update (fun _ _ _ => Iff.rfl) (fun c' q hx => ?_) fun h => absurd h (by simp)
  obtain ⟨rfl, rfl⟩ := Prod.mk.inj (Option.some.inj hx)
  rcases hi : cfg.threads i with _ | ⟨c', q⟩
  · refine ⟨[], List.nodup_nil, fun l => ?_, hp [] fun l hl => absurd hl List.not_mem_nil⟩
    exact iff_of_false (h.idle i hi l) List.not_mem_nil
  · obtain ⟨held, horderly⟩ := h.busy i c' q hi
    exact ⟨held, horderly.nodup, horderly.holds, hp held fun l hl => (horderly.holds l).2 hl⟩

/-- The threads are disciplined in every run with signals that the handler can bear. -/
lemma allOrderly_of_interruptedRun [DecidableEq ι] {handler : κ} {s₀ : σ}
    {C : Trace S ι κ ρ → σ → Label S ι κ ρ → Prop} {D : σ → ι → Prop} {tr : Trace S ι κ ρ}
    (hstart : ∀ l, K.holder s₀ l = none)
    (hexpects : ∀ tr s i c o r s', C tr s (.op i c ⟨o, r⟩) → M.step i o r s = some s' → expects o r)
    (hbody : ∀ i c, M.may i c → K.Disciplined expects [] (M.body c) [])
    (hhandler : ∀ s i, D s i → ∀ held : List L, (∀ l ∈ held, K.holder s l = some i) →
      K.Disciplined expects [] (M.body handler) held)
    (hrun : M.InterruptedRun handler C D s₀ tr cfg) : AllOrderly K expects cfg := by
  induction hrun with
  | start => exact allOrderly_start hstart
  | step h hC hl ih =>
      exact ih.step hbody hl fun heq hstep => hexpects _ _ _ _ _ _ _ (heq ▸ hC) hstep
  | signal i h hD ih => exact ih.signal (hhandler _ i hD)

/-! ### Cycles -/

/-- The thread is about to acquire the lock. -/
def Awaits (K : Locking M L) (cfg : Config S ι κ ρ σ) (i : ι) (l : L) : Prop :=
  ∃ c o k, cfg.threads i = some (c, .call o k) ∧ K.acquires o = some l

/-- The thread waits for a lock of the other one. -/
def WaitsFor (K : Locking M L) (cfg : Config S ι κ ρ σ) (i j : ι) : Prop :=
  ∃ l, K.Awaits cfg i l ∧ K.holder cfg.shared l = some j

lemma Awaits.unique {l l' : L} (h : K.Awaits cfg i l) (h' : K.Awaits cfg i l') : l = l' := by
  obtain ⟨c, o, k, hi, hl⟩ := h
  obtain ⟨c', o', k', hi', hl'⟩ := h'
  rw [hi, Option.some.injEq, Prod.mk.injEq, Prog.call.injEq] at hi'
  obtain ⟨-, rfl, -⟩ := hi'
  exact Option.some.inj (hl.symm.trans hl')

/-- The holder of a lock awaits only locks of a higher rank. -/
lemma AllOrderly.rank_lt (h : AllOrderly K expects cfg) {l l' : L}
    (hl : K.holder cfg.shared l = some j) (hj : K.Awaits cfg j l') : K.rank l < K.rank l' := by
  obtain ⟨c, o, k, hj, hl'⟩ := hj
  obtain ⟨held, horderly⟩ := h.busy j c _ hj
  have hp := horderly.disciplined
  rw [disciplined_acquire hl'] at hp
  exact hp.2.1 l ((horderly.holds l).1 hl)

/-- Disciplined threads do not wait for each other in a cycle. -/
lemma AllOrderly.not_transGen (h : AllOrderly K expects cfg) :
    ¬Relation.TransGen (K.WaitsFor cfg) i i := by
  -- along a chain of waiting threads the ranks of the awaited locks grow
  have hchain {i j : ι} (hij : Relation.TransGen (K.WaitsFor cfg) i j) :
      ∀ l l', K.Awaits cfg i l → K.Awaits cfg j l' → K.rank l < K.rank l' := by
    induction hij with
    | single hij =>
        obtain ⟨l₁, hi, hheld⟩ := hij
        intro l l' hl hl'
        obtain rfl := hi.unique hl
        exact h.rank_lt hheld hl'
    | tail _ hjk ih =>
        obtain ⟨l₁, hj, hheld⟩ := hjk
        intro l l' hl hl'
        exact Nat.lt_trans (ih l l₁ hl hj) (h.rank_lt hheld hl')
  intro hcycle
  obtain ⟨k, ⟨l, hl, -⟩, -⟩ := Relation.TransGen.head'_iff.1 hcycle
  exact Nat.lt_irrefl _ (hchain hcycle l l hl hl)

end Locking

end Hdcp.Library
