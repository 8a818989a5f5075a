/-
Simulation of a program by one with more interactions.

A program over `T` simulates a program over `S` when each of its runs, seen through `visible`,
is a run of the other one, with a value that is related to it.  The interactions that are not
visible are those that the simulated program does not know, such as the accesses to memory in
which it has values; they move the state that the relation speaks about.

The rules follow the constructors of the programs: an interaction of both (`Simulates.call`), an
interaction of the simulating program alone (`Simulates.silent`), composition and loops.
-/
import Hdcp.Library.Prog

namespace Hdcp.Library.Prog

variable {S T : Sig} {τ α α' β β' : Type} {step : (o : T.Op) → T.Ans o → τ → Option τ}
  {visible : Event T → Option (Event S)}

/-- Every run of `q` from the state `t` is a run of `p`, with values that are related in the
last state. -/
def Simulates (step : (o : T.Op) → T.Ans o → τ → Option τ)
    (visible : Event T → Option (Event S)) (R : α → α' → τ → Prop) (p : Prog S α)
    (q : Prog T α') (t : τ) : Prop :=
  ∀ log a' t', q.Runs log a' → Leads step log t t' →
    ∃ a, p.Runs (log.filterMap visible) a ∧ R a a' t'

variable {R R' : α → α' → τ → Prop} {p : Prog S α} {q : Prog T α'} {t : τ}

lemma simulates_ret {a : α} {a' : α'} (h : R a a' t) :
    Simulates step visible R (ret a) (ret a') t := by
  intro log b t' hruns hleads
  obtain ⟨rfl, rfl⟩ := runs_ret.1 hruns
  obtain rfl : t' = t := hleads
  exact ⟨a, .ret a, h⟩

/-- An interaction of both programs. -/
lemma Simulates.call {o : S.Op} {o' : T.Op} {k : S.Ans o → Prog S α} {k' : T.Ans o' → Prog T α'}
    (h : ∀ r' t', step o' r' t = some t' → ∃ r, visible ⟨o', r'⟩ = some ⟨o, r⟩ ∧
      Simulates step visible R (k r) (k' r') t') :
    Simulates step visible R (call o k) (call o' k') t := by
  intro log a' t' hruns hleads
  obtain ⟨r', rest, rfl, hrest⟩ := runs_call.1 hruns
  obtain ⟨t₁, ht₁, hleads'⟩ := hleads
  obtain ⟨r, hvisible, hsim⟩ := h r' t₁ ht₁
  obtain ⟨a, ha, hR⟩ := hsim rest a' t' hrest hleads'
  refine ⟨a, ?_, hR⟩
  rw [List.filterMap_cons_some hvisible]
  exact .call o k r ha

/-- An interaction of the simulating program alone. -/
lemma Simulates.silent {o' : T.Op} {k' : T.Ans o' → Prog T α'}
    (h : ∀ r' t', step o' r' t = some t' → visible ⟨o', r'⟩ = none ∧
      Simulates step visible R p (k' r') t') :
    Simulates step visible R p (Prog.call o' k') t := by
  intro log a' t' hruns hleads
  obtain ⟨r', rest, rfl, hrest⟩ := runs_call.1 hruns
  obtain ⟨t₁, ht₁, hleads'⟩ := hleads
  obtain ⟨hvisible, hsim⟩ := h r' t₁ ht₁
  rw [List.filterMap_cons_none hvisible]
  exact hsim rest a' t' hrest hleads'

/-- The rule of composition. -/
lemma Simulates.bind {f : α → Prog S β} {f' : α' → Prog T β'} {R' : β → β' → τ → Prop}
    (h : Simulates step visible R p q t)
    (hf : ∀ a a' t', R a a' t' → Simulates step visible R' (f a) (f' a') t') :
    Simulates step visible R' (p >>= f) (q >>= f') t := by
  intro log b' t' hruns hleads
  obtain ⟨a', l, l', hl, hl', rfl⟩ := runs_bind.1 hruns
  obtain ⟨t₁, hleads₁, hleads₂⟩ := leads_append.1 hleads
  obtain ⟨a, ha, hR⟩ := h l a' t₁ hl hleads₁
  obtain ⟨b, hb, hR'⟩ := hf a a' t₁ hR l' b' t' hl' hleads₂
  refine ⟨b, runs_bind.2 ⟨a, _, _, ha, hb, ?_⟩, hR'⟩
  rw [List.filterMap_append]

/-- What the simulated program computes at its end. -/
lemma Simulates.bind_ret {f : α → Prog S β} {R' : β → α' → τ → Prop}
    (h : Simulates step visible R p q t)
    (hf : ∀ a a' t', R a a' t' → ∃ b, f a = ret b ∧ R' b a' t') :
    Simulates step visible R' (p >>= f) q t := by
  intro log a' t' hruns hleads
  obtain ⟨a, ha, hR⟩ := h log a' t' hruns hleads
  obtain ⟨b, hb, hR'⟩ := hf a a' t' hR
  exact ⟨b, runs_bind.2 ⟨a, _, [], ha, hb ▸ .ret b, (List.append_nil _).symm⟩, hR'⟩

lemma Simulates.ite {c : Prop} [Decidable c] {p' : Prog S α} {q' : Prog T α'}
    (h : c → Simulates step visible R p q t) (h' : ¬c → Simulates step visible R p' q' t) :
    Simulates step visible R (if c then p else p') (if c then q else q') t := by
  by_cases hc : c
  · rw [if_pos hc, if_pos hc]
    exact h hc
  · rw [if_neg hc, if_neg hc]
    exact h' hc

/-- A program without visible interactions before a program that simulates. -/
lemma Simulates.ensures_bind {A : T.Op → Prop} {Q : β' → τ → Prop} {q₀ : Prog T β'}
    {f : β' → Prog T α'} (hA : ∀ e : Event T, A e.op → visible e = none) (huses : q₀.Uses A)
    (h : Ensures step Q q₀ t) (hf : ∀ b t', Q b t' → Simulates step visible R p (f b) t') :
    Simulates step visible R p (q₀ >>= f) t := by
  intro log a' t' hruns hleads
  obtain ⟨b, l, l', hl, hl', rfl⟩ := runs_bind.1 hruns
  obtain ⟨t₁, hleads₁, hleads₂⟩ := leads_append.1 hleads
  have hnone : l.filterMap visible = [] :=
    List.filterMap_eq_nil_iff.2 fun e he => hA e (huses.of_runs hl he)
  rw [List.filterMap_append, hnone, List.nil_append]
  exact hf b t₁ (h.of_runs hl hleads₁) l' a' t' hl' hleads₂

/-- Both rounds go on, or both end. -/
def SameEnd (I : β → β' → τ → Prop) (R : α → α' → τ → Prop) :
    β ⊕ α → β' ⊕ α' → τ → Prop
  | .inl b, .inl b', t => I b b' t
  | .inr a, .inr a', t => R a a' t
  | _, _, _ => False

/-- Both loops end, or both are cut off. -/
def SameStop (R : α → α' → τ → Prop) : Option α → Option α' → τ → Prop
  | some a, some a', t => R a a' t
  | none, none, _ => True
  | _, _, _ => False

/-- The rule of loops. -/
lemma simulates_iter {I : β → β' → τ → Prop} {body : β → Prog S (β ⊕ α)}
    {body' : β' → Prog T (β' ⊕ α')}
    (h : ∀ b b' t, I b b' t → Simulates step visible (SameEnd I R) (body b) (body' b') t)
    (n : ℕ) {b : β} {b' : β'} (hI : I b b' t) :
    Simulates step visible (SameStop R) (iter body n b) (iter body' n b') t := by
  induction n generalizing b b' t with
  | zero => exact simulates_ret trivial
  | succ n ih =>
      rw [iter_succ, iter_succ]
      refine (h b b' t hI).bind ?_
      rintro (b₁ | a) (b₁' | a') t' hend
      · exact ih hend
      · exact absurd hend not_false
      · exact absurd hend not_false
      · exact simulates_ret hend

end Hdcp.Library.Prog
