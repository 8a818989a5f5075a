/-
Threads that take locks in the order of their ranks.

A lock has a rank.  A program is disciplined when it acquires only locks that rank above
those that it holds, releases only locks that it holds, and makes no interaction that
waits for another thread in some other way.  When all calls of a system are disciplined,
then some thread can go on in every configuration that a run reaches, unless no call is
being made: the lock for which a thread waits ranks below the lock for which its holder
waits, and the ranks are bounded.
-/
import Hdcp.Library.Threads

namespace Hdcp.Library

/-- How the interactions of a system use locks `L`. -/
structure Locking {S : Sig} {ι κ ρ σ : Type} (M : System S ι κ ρ σ) (L : Type)
    [DecidableEq L] where
  /-- The lock that an interaction acquires. -/
  acquires : S.Op → Option L
  /-- The lock that an interaction releases. -/
  releases : S.Op → Option L
  /-- The interactions that wait for something else than a lock. -/
  waits : S.Op → Bool
  /-- Who holds a lock. -/
  holder : σ → L → Option ι
  rank : L → ℕ
  bound : ℕ
  rank_lt : ∀ l, rank l < bound
  acquire : ∀ {i o r s s' l}, acquires o = some l → M.step i o r s = some s' →
    holder s l = none ∧ holder s' = Function.update (holder s) l (some i)
  release : ∀ {i o r s s' l}, acquires o = none → releases o = some l →
    M.step i o r s = some s' → holder s' = Function.update (holder s) l none
  other : ∀ {i o r s s'}, waits o = false → acquires o = none → releases o = none →
    M.step i o r s = some s' → holder s' = holder s
  ready : ∀ i o s, waits o = false → (∀ l, acquires o = some l → holder s l = none) →
    ∃ r s', M.step i o r s = some s'

namespace Locking

variable {S : Sig} {ι κ ρ σ L : Type} {M : System S ι κ ρ σ} [DecidableEq L]
  (K : Locking M L) (expects : (o : S.Op) → S.Ans o → Prop) {α β : Type}

/-- The program is disciplined: it starts with the locks `held` and ends with `held'`, as
long as the answers are among those that are expected. -/
def Disciplined (held' : List L) : Prog S α → List L → Prop
  | .ret _, held => held = held'
  | .call o k, held => K.waits o = false ∧
    match K.acquires o, K.releases o with
    | some l, _ => (∀ l' ∈ held, K.rank l' < K.rank l) ∧
        ∀ r, expects o r → Disciplined held' (k r) (l :: held)
    | none, some l => l ∈ held ∧ ∀ r, expects o r → Disciplined held' (k r) (held.erase l)
    | none, none => ∀ r, expects o r → Disciplined held' (k r) held

variable {K expects} {held held' held'' : List L} {p : Prog S α} {o : S.Op}
  {k : S.Ans o → Prog S α} {l : L}

lemma disciplined_ret {a : α} : K.Disciplined expects held (.ret a : Prog S α) held := rfl

lemma disciplined_acquire (hl : K.acquires o = some l) :
    K.Disciplined expects held' (.call o k) held ↔ K.waits o = false ∧
      (∀ l' ∈ held, K.rank l' < K.rank l) ∧
        ∀ r, expects o r → K.Disciplined expects held' (k r) (l :: held) := by
  rw [Disciplined, hl]

lemma disciplined_release (ha : K.acquires o = none) (hl : K.releases o = some l) :
    K.Disciplined expects held' (.call o k) held ↔ K.waits o = false ∧
      l ∈ held ∧ ∀ r, expects o r → K.Disciplined expects held' (k r) (held.erase l) := by
  rw [Disciplined, ha, hl]

lemma disciplined_other (ha : K.acquires o = none) (hl : K.releases o = none) :
    K.Disciplined expects held' (.call o k) held ↔ K.waits o = false ∧
      ∀ r, expects o r → K.Disciplined expects held' (k r) held := by
  rw [Disciplined, ha, hl]

/-- The rule of composition. -/
lemma Disciplined.bind {f : α → Prog S β} (hp : K.Disciplined expects held' p held)
    (hf : ∀ a, K.Disciplined expects held'' (f a) held') :
    K.Disciplined expects held'' (p >>= f) held := by
  induction p generalizing held with
  | ret a =>
      obtain rfl : held = held' := hp
      exact hf a
  | call o k ih =>
      rw [Prog.call_bind]
      rcases ha : K.acquires o with _ | l
      · rcases hl : K.releases o with _ | l
        · rw [disciplined_other ha hl] at hp ⊢
          exact ⟨hp.1, fun r hr => ih r (hp.2 r hr)⟩
        · rw [disciplined_release ha hl] at hp ⊢
          exact ⟨hp.1, hp.2.1, fun r hr => ih r (hp.2.2 r hr)⟩
      · rw [disciplined_acquire ha] at hp ⊢
        exact ⟨hp.1, hp.2.1, fun r hr => ih r (hp.2.2 r hr)⟩

lemma Disciplined.ite {b : Prop} [Decidable b] {q : Prog S α}
    (hp : b → K.Disciplined expects held' p held)
    (hq : ¬b → K.Disciplined expects held' q held) :
    K.Disciplined expects held' (if b then p else q) held := by
  by_cases h : b
  · rw [if_pos h]
    exact hp h
  · rw [if_neg h]
    exact hq h

lemma disciplined_forEach {f : α → Prog S Unit} (l : List α)
    (hf : ∀ a, K.Disciplined expects held (f a) held) :
    K.Disciplined expects held (Prog.forEach l f) held := by
  induction l with
  | nil => exact disciplined_ret
  | cons a l ih => exact (hf a).bind fun _ => ih

/-! ### Runs -/

/-- The locks that a thread holds, and its discipline. -/
structure Orderly (K : Locking M L) (expects : (o : S.Op) → S.Ans o → Prop) (s : σ) (i : ι)
    (p : Prog S ρ) (held : List L) : Prop where
  nodup : held.Nodup
  holds : ∀ l, K.holder s l = some i ↔ l ∈ held
  disciplined : K.Disciplined expects [] p held

/-- What a thread can do next, once it is its turn. -/
def Ready (K : Locking M L) (s : σ) (i : ι) : Prog S ρ → Prop
  | .ret _ => True
  | .call o _ => K.waits o = false ∧ ∃ r s', M.step i o r s = some s'

variable {i j : ι} {r : S.Ans o} {s s' : σ} {k : S.Ans o → Prog S ρ} {q : Prog S ρ}

/-- A disciplined step of a thread, and what the others see of it. -/
lemma Orderly.step (h : Orderly K expects s i (.call o k) held) (hr : expects o r)
    (hstep : M.step i o r s = some s') :
    (∃ held', Orderly K expects s' i (k r) held') ∧
      ∀ j, j ≠ i → ∀ l, K.holder s' l = some j ↔ K.holder s l = some j := by
  have hp := h.disciplined
  rcases ha : K.acquires o with _ | l
  · rcases hl : K.releases o with _ | l
    · rw [disciplined_other ha hl] at hp
      rw [K.other hp.1 ha hl hstep]
      refine ⟨⟨held, h.nodup, ?_, hp.2 r hr⟩, fun _ _ _ => Iff.rfl⟩
      intro l
      rw [K.other hp.1 ha hl hstep]
      exact h.holds l
    · rw [disciplined_release ha hl] at hp
      have hholder := K.release ha hl hstep
      constructor
      · refine ⟨held.erase l, h.nodup.erase l, fun l' => ?_, hp.2.2 r hr⟩
        rw [hholder, h.nodup.mem_erase_iff]
        by_cases hne : l' = l
        · subst hne
          simp
        · rw [Function.update_of_ne hne, h.holds]
          simp [hne]
      · intro j hj l'
        rw [hholder]
        by_cases hne : l' = l
        · subst hne
          rw [Function.update_self, (h.holds l').2 hp.2.1]
          simp [Ne.symm hj]
        · rw [Function.update_of_ne hne]
  · rw [disciplined_acquire ha] at hp
    obtain ⟨hfree, hholder⟩ := K.acquire ha hstep
    constructor
    · refine ⟨l :: held, List.nodup_cons.2 ⟨fun hmem => ?_, h.nodup⟩, fun l' => ?_, hp.2.2 r hr⟩
      · rw [← h.holds, hfree] at hmem
        exact absurd hmem (by simp)
      · rw [hholder, List.mem_cons, ← h.holds]
        by_cases hne : l' = l
        · subst hne
          simp
        · rw [Function.update_of_ne hne]
          simp [hne]
    · intro j hj l'
      rw [hholder]
      by_cases hne : l' = l
      · subst hne
        rw [Function.update_self, hfree]
        simp [Ne.symm hj]
      · rw [Function.update_of_ne hne]

/-- Every thread is disciplined, and a thread that makes no call holds no lock. -/
structure AllOrderly (K : Locking M L) (expects : (o : S.Op) → S.Ans o → Prop)
    (cfg : Config S ι κ ρ σ) : Prop where
  busy : ∀ i c q, cfg.threads i = some (c, q) → ∃ held, Orderly K expects cfg.shared i q held
  idle : ∀ i, cfg.threads i = none → ∀ l, K.holder cfg.shared l ≠ some i

variable {C : Trace S ι κ ρ → σ → Label S ι κ ρ → Prop} {s₀ : σ} {tr : Trace S ι κ ρ}
  {cfg cfg' : Config S ι κ ρ σ}

/-- The locks that the others hold are theirs also after a step of the thread `i`. -/
lemma Orderly.of_others {s s' : σ} (h : Orderly K expects s j q held)
    (hsame : ∀ l, K.holder s' l = some j ↔ K.holder s l = some j) :
    Orderly K expects s' j q held :=
  ⟨h.nodup, fun l => (hsame l).trans (h.holds l), h.disciplined⟩

/-- One thread goes on, and the others hold what they held. -/
lemma AllOrderly.update [DecidableEq ι] {x : Option (κ × Prog S ρ)} {s' : σ}
    (h : AllOrderly K expects cfg)
    (hothers : ∀ j, j ≠ i → ∀ l, K.holder s' l = some j ↔ K.holder cfg.shared l = some j)
    (hbusy : ∀ c q, x = some (c, q) → ∃ held, Orderly K expects s' i q held)
    (hidle : x = none → ∀ l, K.holder s' l ≠ some i) :
    AllOrderly K expects ⟨s', Function.update cfg.threads i x⟩ := by
  constructor
  · intro j c q hj
    dsimp only at hj
    by_cases hji : j = i
    · subst hji
      rw [Function.update_self] at hj
      exact hbusy c q hj
    · rw [Function.update_of_ne hji] at hj
      obtain ⟨held, horderly⟩ := h.busy j c q hj
      exact ⟨held, horderly.of_others (hothers j hji)⟩
  · intro j hj l
    dsimp only at hj
    by_cases hji : j = i
    · subst hji
      rw [Function.update_self] at hj
      exact hidle hj l
    · rw [Function.update_of_ne hji] at hj
      rw [Ne, hothers j hji]
      exact h.idle j hj l

/-- Every step of a disciplined call keeps the discipline. -/
lemma AllOrderly.step [DecidableEq ι] {l : Label S ι κ ρ} (h : AllOrderly K expects cfg)
    (hbody : ∀ i c, M.may i c → K.Disciplined expects [] (M.body c) [])
    (hl : M.Step cfg l cfg')
    (hexpects : ∀ {i c o r s'}, l = .op i c ⟨o, r⟩ → M.step i o r cfg.shared = some s' →
      expects o r) : AllOrderly K expects cfg' := by
  cases hl with
  | @call i c hi hc =>
      refine h.update (fun _ _ _ => Iff.rfl) ?_ fun h => absurd h (by simp)
      intro c' q hx
      obtain ⟨rfl, rfl⟩ := Prod.mk.inj (Option.some.inj hx)
      refine ⟨[], List.nodup_nil, fun l => ?_, hbody i c hc⟩
      exact iff_of_false (h.idle i hi l) List.not_mem_nil
  | @op i c o k r s' hi hr =>
      obtain ⟨held, horderly⟩ := h.busy i c _ hi
      obtain ⟨hself, hothers⟩ := horderly.step (hexpects rfl hr) hr
      refine h.update hothers ?_ fun h => absurd h (by simp)
      intro c' q hx
      obtain ⟨rfl, rfl⟩ := Prod.mk.inj (Option.some.inj hx)
      exact hself
  | @ret i c a hi =>
      obtain ⟨held, horderly⟩ := h.busy i c _ hi
      obtain rfl : held = [] := horderly.disciplined
      refine h.update (fun _ _ _ => Iff.rfl) (fun c q h => absurd h (by simp)) ?_
      exact fun _ l hl => List.not_mem_nil ((horderly.holds l).1 hl)

/-- The threads are disciplined at the start. -/
lemma allOrderly_start (hstart : ∀ l, K.holder s₀ l = none) :
    AllOrderly K expects (⟨s₀, fun _ => none⟩ : Config S ι κ ρ σ) := by
  refine ⟨fun i c q hi => absurd hi (by simp), fun i _ l => ?_⟩
  rw [hstart]
  simp

/-- The threads are disciplined in every run of disciplined calls. -/
lemma allOrderly_of_run [DecidableEq ι] (hstart : ∀ l, K.holder s₀ l = none)
    (hexpects : ∀ tr s i c o r s', C tr s (.op i c ⟨o, r⟩) → M.step i o r s = some s' → expects o r)
    (hbody : ∀ i c, M.may i c → K.Disciplined expects [] (M.body c) [])
    (hrun : M.Run C s₀ tr cfg) : AllOrderly K expects cfg := by
  induction hrun with
  | start => exact allOrderly_start hstart
  | step h hC hl ih =>
      exact ih.step hbody hl fun heq hstep => hexpects _ _ _ _ _ _ _ (heq ▸ hC) hstep

/-- A thread that cannot go on waits for a lock of somebody who holds it. -/
lemma Orderly.ready_or_waits (h : Orderly K expects s i q held) :
    K.Ready s i q ∨ ∃ o k l j, q = .call o k ∧ K.acquires o = some l ∧ K.holder s l = some j := by
  cases q with
  | ret a => exact .inl trivial
  | call o k =>
      have hwaits : K.waits o = false := by
        have hp := h.disciplined
        rw [Disciplined] at hp
        exact hp.1
      by_cases hblocked : ∃ l j, K.acquires o = some l ∧ K.holder s l = some j
      · obtain ⟨l, j, hl, hj⟩ := hblocked
        exact .inr ⟨o, k, l, j, rfl, hl, hj⟩
      · refine .inl ⟨hwaits, K.ready i o s hwaits fun l hl => ?_⟩
        by_contra hheld
        obtain ⟨j, hj⟩ := Option.ne_none_iff_exists'.1 hheld
        exact hblocked ⟨l, j, hl, hj⟩

/-- When a call is being made, some call can go on. -/
lemma AllOrderly.exists_ready (h : AllOrderly K expects cfg) {c : κ}
    (hi : cfg.threads i = some (c, q)) :
    ∃ j c' q', cfg.threads j = some (c', q') ∧ K.Ready cfg.shared j q' := by
  -- from a waiting thread to the one it waits for, the rank of the awaited lock grows
  suffices hrank : ∀ m i c q o k l, cfg.threads i = some (c, q) → q = .call o k →
      K.acquires o = some l → K.bound ≤ K.rank l + m →
      ∃ j c' q', cfg.threads j = some (c', q') ∧ K.Ready cfg.shared j q' by
    obtain ⟨held, horderly⟩ := h.busy i c q hi
    rcases horderly.ready_or_waits with hready | ⟨o, k, l, j, hq, hl, -⟩
    · exact ⟨i, c, q, hi, hready⟩
    · exact hrank K.bound i c q o k l hi hq hl (Nat.le_add_left _ _)
  intro m
  induction m with
  | zero =>
      intro i c q o k l _ _ _ hm
      exact absurd (K.rank_lt l) (Nat.not_lt.2 hm)
  | succ m ih =>
      intro i c q o k l hi hq hl hm
      obtain ⟨held, horderly⟩ := h.busy i c q hi
      rcases horderly.ready_or_waits with hready | ⟨o₁, k₁, l₁, j, hq₁, hl₁, hj⟩
      · exact ⟨i, c, q, hi, hready⟩
      obtain ⟨rfl, rfl⟩ : o₁ = o ∧ HEq k₁ k := by
        rw [hq] at hq₁
        injection hq₁ with ho hk
        exact ⟨ho.symm, hk.symm⟩
      obtain rfl : l₁ = l := Option.some.inj (hl₁.symm.trans hl)
      -- the thread `j` holds the lock
      rcases hthread : cfg.threads j with _ | ⟨c', q'⟩
      · exact absurd hj (h.idle j hthread l₁)
      obtain ⟨held', horderly'⟩ := h.busy j c' q' hthread
      rcases horderly'.ready_or_waits with hready | ⟨o', k', l', -, hq', hl', -⟩
      · exact ⟨j, c', q', hthread, hready⟩
      refine ih j c' q' o' k' l' hthread hq' hl' ?_
      have hp := horderly'.disciplined
      rw [hq', disciplined_acquire hl'] at hp
      have hlt := hp.2.1 l₁ ((horderly'.holds l₁).1 hj)
      omega

end Locking

end Hdcp.Library
