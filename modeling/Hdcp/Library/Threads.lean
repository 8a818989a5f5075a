/-
Threads that share a state.

A system has threads that make calls.  The body of a call is a program; its calls
are the atomic steps on the state that the threads share, so that the steps of
different threads interleave in any order.  A step may be impossible in a state, as
the acquisition of a mutex that another thread holds.

A run is a sequence of labelled steps.  Its trace, with the last label first, is the
history of the run: what an observer knows about a run is a function of its trace.

Properties of all runs are proved with a protocol: an invariant of the trace and of
the shared state, and for each thread the changes that it relies on the other
threads to make at most.  `Protocol.sound` reduces the runs of the system to the
bodies of the calls, one at a time.
-/
import Mathlib.Data.List.Basic
import Mathlib.Logic.Function.Basic
import Hdcp.Library.Prog

namespace Hdcp.Library

/-- Threads `ι` that make calls `κ` with results `ρ` on a shared state `σ`. -/
structure System (S : Sig) (ι κ ρ σ : Type) where
  /-- The body of a call. -/
  body : κ → Prog S ρ
  /-- The calls that a thread makes. -/
  may : ι → κ → Prop
  /-- One step of a thread, with the answer that it gets. -/
  step : ι → (o : S.Op) → S.Ans o → σ → Option σ

/-- What happens in a step: a call begins, makes one interaction, or returns. -/
inductive Label (S : Sig) (ι κ ρ : Type) where
  | call (i : ι) (c : κ)
  | op (i : ι) (c : κ) (e : Event S)
  | ret (i : ι) (c : κ) (a : ρ)

/-- The labels of a run, the last one first. -/
abbrev Trace (S : Sig) (ι κ ρ : Type) : Type := List (Label S ι κ ρ)

/-- The shared state, and what is left of the call that each thread is making. -/
structure Config (S : Sig) (ι κ ρ σ : Type) where
  shared : σ
  threads : ι → Option (κ × Prog S ρ)

/-! ### What a history tells -/

section History

variable {S : Sig} {ι κ ρ : Type} {on off : Label S ι κ ρ → Bool}
  {l : Label S ι κ ρ} {tr : Trace S ι κ ρ}

/-- A label of the kind `on` has occurred, and none of the kind `off` after it. -/
def since (on off : Label S ι κ ρ → Bool) : Trace S ι κ ρ → Bool
  | [] => false
  | l :: tr => on l || !off l && since on off tr

/-- The call that a thread is making. -/
def calling [DecidableEq ι] (i : ι) : Trace S ι κ ρ → Option κ
  | [] => none
  | .call j c :: tr => if j = i then some c else calling i tr
  | .op _ _ _ :: tr => calling i tr
  | .ret j _ _ :: tr => if j = i then none else calling i tr

/-- The interactions of the call that a thread is making, or of its last call; the last one
first. -/
def callEvents [DecidableEq ι] (i : ι) : Trace S ι κ ρ → List (Event S)
  | [] => []
  | .call j _ :: tr => if j = i then [] else callEvents i tr
  | .op j _ e :: tr => if j = i then e :: callEvents i tr else callEvents i tr
  | .ret _ _ _ :: tr => callEvents i tr

lemma callEvents_op_self [DecidableEq ι] {i : ι} {c : κ} {e : Event S} :
    callEvents i (.op i c e :: tr) = e :: callEvents i tr := if_pos rfl

lemma callEvents_op_of_ne [DecidableEq ι] {i j : ι} {c : κ} {e : Event S} (h : j ≠ i) :
    callEvents i (.op j c e :: tr) = callEvents i tr := if_neg h

/-- An interaction of a call is a step of the history. -/
lemma exists_suffix_of_mem_callEvents [DecidableEq ι] {i : ι} {e : Event S}
    (h : e ∈ callEvents i tr) : ∃ c tr', .op i c e :: tr' <:+ tr := by
  induction tr with
  | nil => exact absurd h List.not_mem_nil
  | cons l tr ih =>
      have hlater (h : e ∈ callEvents i tr) : ∃ c tr', .op i c e :: tr' <:+ l :: tr := by
        obtain ⟨c, tr', hsuffix⟩ := ih h
        exact ⟨c, tr', hsuffix.trans (List.suffix_cons l tr)⟩
      cases l with
      | call j c =>
          by_cases hij : j = i
          · rw [callEvents, if_pos hij] at h
            exact absurd h List.not_mem_nil
          · rw [callEvents, if_neg hij] at h
            exact hlater h
      | op j c e' =>
          by_cases hij : j = i
          · subst hij
            rw [callEvents_op_self] at h
            rcases List.mem_cons.1 h with rfl | h
            · exact ⟨c, tr, List.suffix_rfl⟩
            · exact hlater h
          · rw [callEvents_op_of_ne hij] at h
            exact hlater h
      | ret j c a => exact hlater h

lemma since_cons : since on off (l :: tr) = (on l || !off l && since on off tr) := rfl

lemma since_cons_of_on (hon : on l = true) : since on off (l :: tr) = true := by
  rw [since_cons, hon, Bool.true_or]

lemma since_cons_of_eq (hon : on l = false) (hoff : off l = false) :
    since on off (l :: tr) = since on off tr := by
  rw [since_cons, hon, hoff]
  rfl

/-- What holds of every step of a history, when each step is told the history before. -/
def EveryStep (K : Label S ι κ ρ → Trace S ι κ ρ → Prop) : Trace S ι κ ρ → Prop
  | [] => True
  | l :: tr => K l tr ∧ EveryStep K tr

/-- Every step of a history is one that is seen when the history has grown so far. -/
lemma EveryStep.of_suffix {K : Label S ι κ ρ → Trace S ι κ ρ → Prop} {tr' : Trace S ι κ ρ}
    (h : EveryStep K tr) (hsuffix : l :: tr' <:+ tr) : K l tr' := by
  induction tr with
  | nil => exact absurd (List.suffix_nil.1 hsuffix) (by simp)
  | cons l₁ tr ih =>
      rcases List.suffix_cons_iff.1 hsuffix with heq | htail
      · obtain ⟨rfl, rfl⟩ := List.cons.inj heq
        exact h.1
      · exact ih h.2 htail

lemma everyStep_true (tr : Trace S ι κ ρ) : EveryStep (fun _ _ => True) tr := by
  induction tr with
  | nil => trivial
  | cons l tr ih => exact ⟨trivial, ih⟩

lemma everyStep_forall {β : Type} {X : Set β} {K : β → Label S ι κ ρ → Trace S ι κ ρ → Prop}
    (h : ∀ x ∈ X, EveryStep (K x) tr) : EveryStep (fun l tr => ∀ x ∈ X, K x l tr) tr := by
  induction tr with
  | nil => trivial
  | cons l tr ih => exact ⟨fun x hx => (h x hx).1, ih fun x hx => (h x hx).2⟩

end History

namespace System

variable {S : Sig} {ι κ ρ σ : Type} [DecidableEq ι] (M : System S ι κ ρ σ)

/-- One step of the system. -/
inductive Step : Config S ι κ ρ σ → Label S ι κ ρ → Config S ι κ ρ σ → Prop where
  | call {cfg : Config S ι κ ρ σ} {i : ι} {c : κ} (hi : cfg.threads i = none)
      (hc : M.may i c) :
      Step cfg (.call i c)
        { cfg with threads := Function.update cfg.threads i (some (c, M.body c)) }
  | op {cfg : Config S ι κ ρ σ} {i : ι} {c : κ} {o : S.Op} {k : S.Ans o → Prog S ρ}
      {r : S.Ans o} {s' : σ} (hi : cfg.threads i = some (c, .call o k))
      (hr : M.step i o r cfg.shared = some s') :
      Step cfg (.op i c ⟨o, r⟩)
        ⟨s', Function.update cfg.threads i (some (c, k r))⟩
  | ret {cfg : Config S ι κ ρ σ} {i : ι} {c : κ} {a : ρ}
      (hi : cfg.threads i = some (c, .ret a)) :
      Step cfg (.ret i c a) { cfg with threads := Function.update cfg.threads i none }

/-- The runs from the shared state `s₀` whose steps are all admitted by `C`, which sees
the trace so far, the shared state and the label of the step. -/
inductive Run (C : Trace S ι κ ρ → σ → Label S ι κ ρ → Prop) (s₀ : σ) :
    Trace S ι κ ρ → Config S ι κ ρ σ → Prop where
  | start : Run C s₀ [] ⟨s₀, fun _ => none⟩
  | step {tr : Trace S ι κ ρ} {cfg cfg' : Config S ι κ ρ σ} {l : Label S ι κ ρ}
      (h : Run C s₀ tr cfg) (hC : C tr cfg.shared l) (hl : M.Step cfg l cfg') :
      Run C s₀ (l :: tr) cfg'

/-- Every run. -/
abbrev AnyRun (s₀ : σ) : Trace S ι κ ρ → Config S ι κ ρ σ → Prop :=
  M.Run (fun _ _ _ => True) s₀

/-- The history tells which calls are being made. -/
lemma Run.calling_eq {C : Trace S ι κ ρ → σ → Label S ι κ ρ → Prop} {s₀ : σ}
    {tr : Trace S ι κ ρ} {cfg : Config S ι κ ρ σ} (hrun : M.Run C s₀ tr cfg) (j : ι) :
    calling j tr = (cfg.threads j).map Prod.fst := by
  induction hrun with
  | start => rfl
  | @step tr cfg cfg' l hrun _ hl ih =>
      -- the step is one of the thread `j`, or leaves its call as it is
      cases hl with
      | @call i c hi hc =>
          by_cases hij : i = j
          · subst hij
            simp [calling]
          · simp [calling, hij, Function.update_of_ne (Ne.symm hij), ih]
      | @op i c o k r s' hi hr =>
          by_cases hij : i = j
          · subst hij
            simp [calling, ih, hi]
          · simp [calling, Function.update_of_ne (Ne.symm hij), ih]
      | @ret i c a hi =>
          by_cases hij : i = j
          · subst hij
            simp [calling]
          · simp [calling, hij, Function.update_of_ne (Ne.symm hij), ih]

/-- A call that is being made is one that the thread may make. -/
lemma Run.may {C : Trace S ι κ ρ → σ → Label S ι κ ρ → Prop} {s₀ : σ}
    {tr : Trace S ι κ ρ} {cfg : Config S ι κ ρ σ} (hrun : M.Run C s₀ tr cfg) {j : ι} {c' : κ}
    {p : Prog S ρ} (hj : cfg.threads j = some (c', p)) : M.may j c' := by
  induction hrun generalizing p with
  | start => exact absurd hj (by simp)
  | @step tr cfg cfg' l hrun _ hl ih =>
      have hother {i : ι} {x : Option (κ × Prog S ρ)} (hij : j ≠ i)
          (hj : Function.update cfg.threads i x j = some (c', p)) : M.may j c' :=
        ih (by rwa [Function.update_of_ne hij] at hj)
      have hself {x : Option (κ × Prog S ρ)}
          (hj : Function.update cfg.threads j x j = some (c', p)) : x = some (c', p) := by
        rwa [Function.update_self] at hj
      cases hl with
      | @call i c hi hc =>
          by_cases hij : j = i
          · subst hij
            obtain ⟨rfl, -⟩ := Prod.mk.inj (Option.some.inj (hself hj))
            exact hc
          · exact hother hij hj
      | @op i c o k r s' hi hr =>
          by_cases hij : j = i
          · subst hij
            obtain ⟨rfl, -⟩ := Prod.mk.inj (Option.some.inj (hself hj))
            exact ih hi
          · exact hother hij hj
      | @ret i c a hi =>
          by_cases hij : j = i
          · subst hij
            exact absurd (hself hj) (by simp)
          · exact hother hij hj

/-! ### Schedules -/

/-- What a scheduler does next; the answers may depend on the shared state. -/
inductive Action (S : Sig) (ι κ σ : Type) where
  | call (i : ι) (c : κ)
  | op (i : ι) (answer : (o : S.Op) → σ → S.Ans o)
  | ret (i : ι)

/-- The label and the configuration that an action leads to, when it is possible. -/
def act (mayCall : ι → κ → Bool) (cfg : Config S ι κ ρ σ) :
    Action S ι κ σ → Option (Label S ι κ ρ × Config S ι κ ρ σ)
  | .call i c =>
    match cfg.threads i with
    | none =>
      if mayCall i c then
        some (.call i c,
          { cfg with threads := Function.update cfg.threads i (some (c, M.body c)) })
      else
        none
    | some _ => none
  | .op i answer =>
    match cfg.threads i with
    | some (c, .call o k) =>
      let r := answer o cfg.shared
      match M.step i o r cfg.shared with
      | some s' => some (.op i c ⟨o, r⟩, ⟨s', Function.update cfg.threads i (some (c, k r))⟩)
      | none => none
    | _ => none
  | .ret i =>
    match cfg.threads i with
    | some (c, .ret a) =>
      some (.ret i c a, { cfg with threads := Function.update cfg.threads i none })
    | _ => none

/-- The trace and the configuration that a schedule leads to, when all its actions are
possible and pass the check. -/
def schedule (mayCall : ι → κ → Bool) (check : Trace S ι κ ρ → σ → Label S ι κ ρ → Bool) :
    List (Action S ι κ σ) → Trace S ι κ ρ → Config S ι κ ρ σ →
      Option (Trace S ι κ ρ × Config S ι κ ρ σ)
  | [], tr, cfg => some (tr, cfg)
  | a :: as, tr, cfg =>
    match M.act mayCall cfg a with
    | none => none
    | some (l, cfg') =>
      if check tr cfg.shared l then schedule mayCall check as (l :: tr) cfg' else none

/-- A call with `n` interactions, without steps of other threads in between. -/
def completeCall (i : ι) (c : κ) (n : ℕ) (answer : (o : S.Op) → σ → S.Ans o) :
    List (Action S ι κ σ) :=
  .call i c :: List.replicate n (.op i answer) ++ [.ret i]

variable {M}

lemma step_of_act {mayCall : ι → κ → Bool} (hmay : ∀ i c, mayCall i c → M.may i c)
    {cfg cfg' : Config S ι κ ρ σ} {a : Action S ι κ σ} {l : Label S ι κ ρ}
    (h : M.act mayCall cfg a = some (l, cfg')) : M.Step cfg l cfg' := by
  cases a with
  | call i c =>
      rw [act] at h
      split at h
      case h_2 => exact absurd h (by simp)
      case h_1 hi =>
        split at h
        case isFalse => exact absurd h (by simp)
        case isTrue hc =>
          obtain ⟨rfl, rfl⟩ := Prod.mk.inj (Option.some.inj h)
          exact .call hi (hmay i c hc)
  | op i answer =>
      rw [act] at h
      split at h
      case h_2 => exact absurd h (by simp)
      case h_1 c o k hi =>
        dsimp only at h
        split at h
        case h_2 => exact absurd h (by simp)
        case h_1 s' hr =>
          obtain ⟨rfl, rfl⟩ := Prod.mk.inj (Option.some.inj h)
          exact .op hi hr
  | ret i =>
      rw [act] at h
      split at h
      case h_2 => exact absurd h (by simp)
      case h_1 c a hi =>
        obtain ⟨rfl, rfl⟩ := Prod.mk.inj (Option.some.inj h)
        exact .ret hi

/-- What every step of a schedule keeps holds at its end. -/
lemma schedule_keeps {mayCall : ι → κ → Bool} (hmay : ∀ i c, mayCall i c → M.may i c)
    {check : Trace S ι κ ρ → σ → Label S ι κ ρ → Bool}
    {I : Trace S ι κ ρ → Config S ι κ ρ σ → Prop}
    (hI : ∀ {tr cfg l cfg'}, I tr cfg → check tr cfg.shared l → M.Step cfg l cfg' →
      I (l :: tr) cfg') (as : List (Action S ι κ σ)) :
    ∀ {tr tr' : Trace S ι κ ρ} {cfg cfg' : Config S ι κ ρ σ}, I tr cfg →
      M.schedule mayCall check as tr cfg = some (tr', cfg') → I tr' cfg' := by
  induction as with
  | nil =>
      intro tr tr' cfg cfg' hstart h
      obtain ⟨rfl, rfl⟩ := Prod.mk.inj (Option.some.inj h)
      exact hstart
  | cons a as ih =>
      intro tr tr' cfg cfg' hstart h
      rw [schedule] at h
      split at h
      case h_1 => exact absurd h (by simp)
      case h_2 l cfg₁ hact =>
        split at h
        case isFalse => exact absurd h (by simp)
        case isTrue hcheck => exact ih (hI hstart hcheck (step_of_act hmay hact)) h

/-- A schedule is a run. -/
lemma run_of_schedule {mayCall : ι → κ → Bool} (hmay : ∀ i c, mayCall i c → M.may i c)
    {check : Trace S ι κ ρ → σ → Label S ι κ ρ → Bool}
    {C : Trace S ι κ ρ → σ → Label S ι κ ρ → Prop} (hC : ∀ tr s l, check tr s l → C tr s l)
    {s₀ : σ} (as : List (Action S ι κ σ)) {tr tr' : Trace S ι κ ρ}
    {cfg cfg' : Config S ι κ ρ σ} (hrun : M.Run C s₀ tr cfg)
    (h : M.schedule mayCall check as tr cfg = some (tr', cfg')) : M.Run C s₀ tr' cfg' :=
  schedule_keeps hmay (fun hrun hcheck hl => .step hrun (hC _ _ _ hcheck) hl) as hrun h

/-- A schedule shows that there is a run of a kind. -/
lemma exists_run_of_schedule {mayCall : ι → κ → Bool}
    (hmay : ∀ i c, mayCall i c → M.may i c)
    {check : Trace S ι κ ρ → σ → Label S ι κ ρ → Bool}
    {C : Trace S ι κ ρ → σ → Label S ι κ ρ → Prop} (hC : ∀ tr s l, check tr s l → C tr s l)
    {s₀ : σ} {as : List (Action S ι κ σ)} {test : Trace S ι κ ρ × Config S ι κ ρ σ → Bool}
    (h : (M.schedule mayCall check as [] ⟨s₀, fun _ => none⟩).any test = true) :
    ∃ x, M.schedule mayCall check as [] ⟨s₀, fun _ => none⟩ = some x ∧
      M.Run C s₀ x.1 x.2 ∧ test x = true := by
  rcases hrun : M.schedule mayCall check as [] ⟨s₀, fun _ => none⟩ with _ | ⟨tr, cfg⟩
  · rw [hrun] at h
    exact absurd h (by simp)
  · rw [hrun] at h
    exact ⟨(tr, cfg), rfl, run_of_schedule hmay hC as .start hrun, h⟩

/-- What a call has done when it returns, is a run of its body. -/
def Returns (M : System S ι κ ρ σ) : Label S ι κ ρ → Trace S ι κ ρ → Prop
  | .ret i c a, tr => (M.body c).Runs (callEvents i tr).reverse a
  | _, _ => True

/-- What a call has done so far, and then does, is a run of its body. -/
def Continues (M : System S ι κ ρ σ) (tr : Trace S ι κ ρ) (i : ι) (c : κ) (p : Prog S ρ) : Prop :=
  ∀ log a, p.Runs log a → (M.body c).Runs ((callEvents i tr).reverse ++ log) a

lemma Run.returns {C : Trace S ι κ ρ → σ → Label S ι κ ρ → Prop} {s₀ : σ} {tr : Trace S ι κ ρ}
    {cfg : Config S ι κ ρ σ} (hrun : M.Run C s₀ tr cfg) : EveryStep (Returns M) tr := by
  suffices hgoal : EveryStep (Returns M) tr ∧
      ∀ i c p, cfg.threads i = some (c, p) → Continues M tr i c p from hgoal.1
  induction hrun with
  | start => exact ⟨trivial, by simp⟩
  | @step tr cfg cfg' l hrun _ hl ih =>
      obtain ⟨hreturns, hthreads⟩ := ih
      -- a step of another thread does not add to what the call has done
      have hothers {i j : ι} {x : Option (κ × Prog S ρ)} {c : κ} {p : Prog S ρ} (hji : j ≠ i)
          (hevents : callEvents j (l :: tr) = callEvents j tr)
          (hj : Function.update cfg.threads i x j = some (c, p)) :
          Continues M (l :: tr) j c p := by
        rw [Function.update_of_ne hji] at hj
        rw [Continues, hevents]
        exact hthreads j c p hj
      have hself {j : ι} {x : Option (κ × Prog S ρ)} {c : κ} {p : Prog S ρ}
          (hj : Function.update cfg.threads j x j = some (c, p)) : x = some (c, p) := by
        rwa [Function.update_self] at hj
      cases hl with
      | @call i c hi hc =>
          refine ⟨⟨trivial, hreturns⟩, fun j c' p hj => ?_⟩
          by_cases hji : j = i
          · subst hji
            obtain ⟨rfl, rfl⟩ := Prod.mk.inj (Option.some.inj (hself hj))
            have hnil : callEvents j (.call j c :: tr) = [] := if_pos rfl
            rw [Continues, hnil]
            exact fun log a h => h
          · exact hothers hji (if_neg (Ne.symm hji)) hj
      | @op i c o k r s' hi hr =>
          refine ⟨⟨trivial, hreturns⟩, fun j c' p hj => ?_⟩
          by_cases hji : j = i
          · subst hji
            obtain ⟨rfl, rfl⟩ := Prod.mk.inj (Option.some.inj (hself hj))
            rw [Continues, callEvents_op_self]
            intro log a h
            rw [List.reverse_cons, List.append_assoc]
            exact hthreads j c _ hi _ _ (.call o k r h)
          · exact hothers hji (callEvents_op_of_ne (Ne.symm hji)) hj
      | @ret i c a hi =>
          refine ⟨⟨?_, hreturns⟩, fun j c' p hj => ?_⟩
          · have hlog := hthreads i c _ hi [] a (.ret a)
            rwa [List.append_nil] at hlog
          · by_cases hji : j = i
            · subst hji
              exact absurd (hself hj) (by simp)
            · exact hothers hji rfl hj

/-- A call that has returned was a run of its body. -/
theorem Run.runs_of_ret {C : Trace S ι κ ρ → σ → Label S ι κ ρ → Prop} {s₀ : σ}
    {tr tr' : Trace S ι κ ρ} {cfg : Config S ι κ ρ σ} {i : ι} {c : κ} {a : ρ}
    (hrun : M.Run C s₀ tr cfg) (hret : .ret i c a :: tr' <:+ tr) :
    (M.body c).Runs (callEvents i tr').reverse a :=
  hrun.returns.of_suffix hret

/-- What holds of each step of a run holds of every step of its history. -/
lemma Run.everyStep {C : Trace S ι κ ρ → σ → Label S ι κ ρ → Prop} {s₀ : σ}
    {K : Label S ι κ ρ → Trace S ι κ ρ → Prop} {tr : Trace S ι κ ρ} {cfg : Config S ι κ ρ σ}
    (hrun : M.Run C s₀ tr cfg)
    (hK : ∀ {tr cfg l cfg'}, M.Run C s₀ tr cfg → C tr cfg.shared l → M.Step cfg l cfg' → K l tr) :
    EveryStep K tr := by
  induction hrun with
  | start => trivial
  | step hrun hC hl ih => exact ⟨hK hrun hC hl, ih⟩

/-- A run with a condition on each step is a run whose history meets it. -/
lemma Run.of_everyStep {s₀ : σ} {K : Label S ι κ ρ → Trace S ι κ ρ → Prop} {tr : Trace S ι κ ρ}
    {cfg : Config S ι κ ρ σ} (hrun : M.AnyRun s₀ tr cfg) (hK : EveryStep K tr) :
    M.Run (fun tr _ l => K l tr) s₀ tr cfg := by
  induction hrun with
  | start => exact .start
  | step hrun _ hl ih => exact .step (ih hK.2) hK.1 hl

/-- A thread makes these interactions in its call and returns, and `C` admits every step. -/
def Goes (M : System S ι κ ρ σ) (C : Trace S ι κ ρ → σ → Label S ι κ ρ → Prop) (i : ι) (c : κ)
    (a : ρ) : List (Event S) → Trace S ι κ ρ → σ → Prop
  | [], tr, s => C tr s (.ret i c a)
  | e :: log, tr, s =>
    C tr s (.op i c e) ∧ ∃ s', M.step i e.op e.ans s = some s' ∧
      Goes M C i c a log (.op i c e :: tr) s'

/-- A run goes on with the rest of a call that makes these interactions. -/
lemma Run.of_goes {C : Trace S ι κ ρ → σ → Label S ι κ ρ → Prop} {s₀ : σ} {tr : Trace S ι κ ρ}
    {cfg : Config S ι κ ρ σ} {i : ι} {c : κ} {p : Prog S ρ} {log : List (Event S)} {a : ρ}
    (hrun : M.Run C s₀ tr cfg) (hi : cfg.threads i = some (c, p)) (hp : p.Runs log a)
    (hgoes : M.Goes C i c a log tr cfg.shared) :
    ∃ cfg', M.Run C s₀ (.ret i c a :: ((log.map (.op i c)).reverse ++ tr)) cfg' := by
  induction hp generalizing tr cfg with
  | ret a => exact ⟨_, .step hrun hgoes (.ret hi)⟩
  | call o k r h ih =>
      obtain ⟨hC, s', hr, hrest⟩ := hgoes
      have hnext := ih (.step hrun hC (.op hi hr)) (Function.update_self _ _ _) hrest
      rwa [List.map_cons, List.reverse_cons, List.append_assoc]

end System

/-! ### Protocols -/

/-- What holds of the trace and of the shared state between any two steps, and the
changes that a thread allows the others to make. -/
structure Protocol (S : Sig) (ι κ ρ σ : Type) where
  /-- The steps that are considered. -/
  admits : Trace S ι κ ρ → σ → Label S ι κ ρ → Prop
  /-- The invariant. -/
  inv : Trace S ι κ ρ → σ → Prop
  /-- The changes of trace and state that a thread allows. -/
  rely : ι → Trace S ι κ ρ → σ → Trace S ι κ ρ → σ → Prop
  refl : ∀ i tr s, rely i tr s tr s
  trans : ∀ {i tr s tr' s' tr'' s''}, rely i tr s tr' s' → rely i tr' s' tr'' s'' →
    rely i tr s tr'' s''

namespace Protocol

variable {S : Sig} {ι κ ρ σ α β : Type} (P : Protocol S ι κ ρ σ) (M : System S ι κ ρ σ)

/-- A step of the thread `i` that keeps the invariant and that the others allow. -/
def Keeps (i : ι) (tr : Trace S ι κ ρ) (s : σ) (l : Label S ι κ ρ) (s' : σ) : Prop :=
  P.inv (l :: tr) s' ∧ ∀ j, j ≠ i → P.rely j tr s (l :: tr) s'

/-- The program, executed by the thread `i` for the call `c` among steps of the others,
keeps the invariant and ends with `Q`. -/
def Sat (i : ι) (c : κ) (Q : α → Trace S ι κ ρ → σ → Prop) :
    Prog S α → Trace S ι κ ρ → σ → Prop
  | .ret a, tr, s => ∀ tr' s', P.rely i tr s tr' s' → P.inv tr' s' → Q a tr' s'
  | .call o k, tr, s => ∀ tr' s', P.rely i tr s tr' s' → P.inv tr' s' → ∀ r s'',
      M.step i o r s' = some s'' → P.admits tr' s' (.op i c ⟨o, r⟩) →
        P.Keeps i tr' s' (.op i c ⟨o, r⟩) s'' ∧
          Sat i c Q (k r) (.op i c ⟨o, r⟩ :: tr') s''

/-- The return of the call keeps the invariant and is allowed by the others. -/
def Returned (i : ι) (c : κ) (a : ρ) (tr : Trace S ι κ ρ) (s : σ) : Prop :=
  P.admits tr s (.ret i c a) → P.Keeps i tr s (.ret i c a) s

variable {P M} {i : ι} {c : κ} {Q Q' : α → Trace S ι κ ρ → σ → Prop}
  {p : Prog S α} {tr tr' : Trace S ι κ ρ} {s s' : σ}

/-- What a program is proved to do holds after any steps of the others. -/
lemma Sat.stable (h : P.Sat M i c Q p tr s) (hrely : P.rely i tr s tr' s') :
    P.Sat M i c Q p tr' s' := by
  cases p with
  | ret a =>
      intro tr'' s'' hrely' hinv
      exact h _ _ (P.trans hrely hrely') hinv
  | call o k =>
      intro tr'' s'' hrely' hinv
      exact h _ _ (P.trans hrely hrely') hinv

/-- A program may be considered from the moment on at which it goes on. -/
lemma Sat.of_rely
    (h : ∀ tr' s', P.rely i tr s tr' s' → P.inv tr' s' → P.Sat M i c Q p tr' s') :
    P.Sat M i c Q p tr s := by
  cases p with
  | ret a =>
      intro tr' s' hrely hinv
      exact h _ _ hrely hinv _ _ (P.refl _ _ _) hinv
  | call o k =>
      intro tr' s' hrely hinv
      exact h _ _ hrely hinv _ _ (P.refl _ _ _) hinv

lemma Sat.ite {b : Prop} [Decidable b] {q : Prog S α} (hp : b → P.Sat M i c Q p tr s)
    (hq : ¬b → P.Sat M i c Q q tr s) : P.Sat M i c Q (if b then p else q) tr s := by
  by_cases h : b
  · rw [if_pos h]
    exact hp h
  · rw [if_neg h]
    exact hq h

lemma Sat.mono (h : P.Sat M i c Q p tr s)
    (hQ : ∀ a tr' s', P.inv tr' s' → Q a tr' s' → Q' a tr' s') :
    P.Sat M i c Q' p tr s := by
  induction p generalizing tr s with
  | ret a =>
      intro tr' s' hrely hinv
      exact hQ _ _ _ hinv (h _ _ hrely hinv)
  | call o k ih =>
      intro tr' s' hrely hinv r s'' hstep hadm
      obtain ⟨hkeeps, hrest⟩ := h _ _ hrely hinv r s'' hstep hadm
      exact ⟨hkeeps, ih r hrest⟩

/-- The rule of composition. -/
lemma Sat.bind {f : α → Prog S β} {Q' : β → Trace S ι κ ρ → σ → Prop}
    (hp : P.Sat M i c Q p tr s)
    (hf : ∀ a tr' s', P.inv tr' s' → Q a tr' s' → P.Sat M i c Q' (f a) tr' s') :
    P.Sat M i c Q' (p >>= f) tr s := by
  induction p generalizing tr s with
  | ret a =>
      refine Sat.of_rely fun tr' s' hrely hinv => ?_
      exact hf a tr' s' hinv (hp _ _ hrely hinv)
  | call o k ih =>
      intro tr' s' hrely hinv r s'' hstep hadm
      obtain ⟨hkeeps, hrest⟩ := hp _ _ hrely hinv r s'' hstep hadm
      exact ⟨hkeeps, ih r hrest⟩

/-- The rule of frames: a fact that no step destroys holds to the end. -/
lemma Sat.frame {F : Trace S ι κ ρ → σ → Prop} (h : P.Sat M i c Q p tr s) (hF : F tr s)
    (hrely : ∀ {tr s tr' s'}, P.rely i tr s tr' s' → F tr s → F tr' s')
    (hstep : ∀ {o r tr s s'}, M.step i o r s = some s' → F tr s → F (.op i c ⟨o, r⟩ :: tr) s') :
    P.Sat M i c (fun a tr' s' => Q a tr' s' ∧ F tr' s') p tr s := by
  induction p generalizing tr s with
  | ret a => exact fun tr' s' hrely' hinv => ⟨h _ _ hrely' hinv, hrely hrely' hF⟩
  | call o k ih =>
      intro tr' s' hrely' hinv r s'' hs hadm
      obtain ⟨hkeeps, hrest⟩ := h _ _ hrely' hinv r s'' hs hadm
      exact ⟨hkeeps, ih r hrest (hstep hs (hrely hrely' hF))⟩

/-- A loop whose rounds may be executed at any time. -/
lemma sat_forEach {l : List β} {f : β → Prog S Unit}
    (hf : ∀ b ∈ l, ∀ tr s, P.Sat M i c (fun _ _ _ => True) (f b) tr s) :
    P.Sat M i c (fun _ _ _ => True) (Prog.forEach l f) tr s := by
  induction l generalizing tr s with
  | nil => exact fun _ _ _ _ => trivial
  | cons b l ih =>
      refine (hf b List.mem_cons_self tr s).bind fun _ tr' s' _ _ => ?_
      exact ih fun b' hb' => hf b' (List.mem_cons_of_mem b hb')

/-- A program whose steps keep the invariant and a fact that the others keep. -/
lemma sat_of_keeps {A : S.Op → Prop} {F : Trace S ι κ ρ → σ → Prop} (hp : p.Uses A)
    (hF : F tr s) (hrely : ∀ {tr s tr' s'}, P.rely i tr s tr' s' → F tr s → F tr' s')
    (hA : ∀ {o r tr s s'}, A o → P.inv tr s → F tr s → M.step i o r s = some s' →
      P.admits tr s (.op i c ⟨o, r⟩) →
        P.Keeps i tr s (.op i c ⟨o, r⟩) s' ∧ F (.op i c ⟨o, r⟩ :: tr) s') :
    P.Sat M i c (fun _ => F) p tr s := by
  induction p generalizing tr s with
  | ret a => exact fun _ _ hrely' _ => hrely hrely' hF
  | call o k ih =>
      intro tr' s' hrely' hinv r s'' hstep hadm
      obtain ⟨hkeeps, hF'⟩ := hA hp.1 hinv (hrely hrely' hF) hstep hadm
      exact ⟨hkeeps, ih r (hp.2 r) hF'⟩

/-- A program that keeps the invariant and a fact makes one of its runs, and the history of the
call grows by the log. -/
lemma sat_runs [DecidableEq ι] {A : S.Op → Prop} {K : Event S → Prop}
    {F : Trace S ι κ ρ → σ → Prop} (hp : p.Uses A) (hF : F tr s)
    (hrely : ∀ {tr s tr' s'}, P.rely i tr s tr' s' →
      callEvents i tr' = callEvents i tr ∧ (F tr s → F tr' s'))
    (hA : ∀ {o r tr s s'}, A o → P.inv tr s → F tr s → M.step i o r s = some s' →
      P.admits tr s (.op i c ⟨o, r⟩) →
        P.Keeps i tr s (.op i c ⟨o, r⟩) s' ∧ F (.op i c ⟨o, r⟩ :: tr) s' ∧ K ⟨o, r⟩) :
    P.Sat M i c (fun a tr' s' => F tr' s' ∧ ∃ log, p.Runs log a ∧ (∀ e ∈ log, K e) ∧
      callEvents i tr' = log.reverse ++ callEvents i tr) p tr s := by
  induction p generalizing tr s with
  | ret a =>
      intro tr' s' hrely' _
      obtain ⟨hevents, hkept⟩ := hrely hrely'
      exact ⟨hkept hF, [], .ret a, by simp, hevents⟩
  | call o k ih =>
      intro tr' s' hrely' hinv r s'' hstep hadm
      obtain ⟨hevents, hkept⟩ := hrely hrely'
      obtain ⟨hkeeps, hF', hK⟩ := hA hp.1 hinv (hkept hF) hstep hadm
      refine ⟨hkeeps, (ih r (hp.2 r) hF').mono ?_⟩
      rintro a tr'' s₃ - ⟨hF'', log, hruns, hlog, hlast⟩
      refine ⟨hF'', ⟨o, r⟩ :: log, .call o k r hruns, List.forall_mem_cons.2 ⟨hK, hlog⟩, ?_⟩
      rw [hlast, callEvents_op_self, hevents, List.reverse_cons, List.append_assoc]
      rfl

/-- A program of steps that keep the invariant and that look like steps of others to
the thread that makes them. -/
lemma sat_of_uses {A : S.Op → Prop}
    (hA : ∀ o r tr' s' s'', A o → P.rely i tr s tr' s' → P.inv tr' s' →
      M.step i o r s' = some s'' → P.admits tr' s' (.op i c ⟨o, r⟩) →
        P.Keeps i tr' s' (.op i c ⟨o, r⟩) s'' ∧ P.rely i tr' s' (.op i c ⟨o, r⟩ :: tr') s'')
    (hp : p.Uses A) : P.Sat M i c (fun _ tr' s' => P.rely i tr s tr' s') p tr s := by
  refine sat_of_keeps hp (P.refl _ _ _) (fun hrely hF => P.trans hF hrely) ?_
  intro o r tr' s' s'' ho hinv hF hstep hadm
  obtain ⟨hkeeps, hown⟩ := hA o r tr' s' s'' ho hF hinv hstep hadm
  exact ⟨hkeeps, P.trans hF hown⟩

/-- Every run keeps the invariant, when each call does. -/
theorem sound [DecidableEq ι] {s₀ : σ} (hstart : P.inv [] s₀)
    (hcall : ∀ i c tr s, M.may i c → calling i tr = none → P.inv tr s →
      P.admits tr s (.call i c) → P.Keeps i tr s (.call i c) s ∧
        P.Sat M i c (P.Returned i c) (M.body c) (.call i c :: tr) s)
    {tr : Trace S ι κ ρ} {cfg : Config S ι κ ρ σ} (hrun : M.Run P.admits s₀ tr cfg) :
    P.inv tr cfg.shared ∧ ∀ i c p, cfg.threads i = some (c, p) →
      P.Sat M i c (P.Returned i c) p tr cfg.shared := by
  induction hrun with
  | start => exact ⟨hstart, by simp⟩
  | @step tr cfg cfg' l hrun hadm hl ih =>
      obtain ⟨hinv, hthreads⟩ := ih
      -- the thread `i` makes the step and continues with `x`; the others see it
      have hothers (i : ι) (x : Option (κ × Prog S ρ)) (s' : σ)
          (hkeeps : P.Keeps i tr cfg.shared l s')
          (hown : ∀ c p, x = some (c, p) → P.Sat M i c (P.Returned i c) p (l :: tr) s') :
          P.inv (l :: tr) s' ∧ ∀ j c p, Function.update cfg.threads i x j = some (c, p) →
            P.Sat M j c (P.Returned j c) p (l :: tr) s' := by
        refine ⟨hkeeps.1, fun j c p hj => ?_⟩
        by_cases hji : j = i
        · subst hji
          rw [Function.update_self] at hj
          exact hown c p hj
        · rw [Function.update_of_ne hji] at hj
          exact (hthreads j c p hj).stable (hkeeps.2 j hji)
      cases hl with
      | @call i c hi hc =>
          have hidle : calling i tr = none := by rw [hrun.calling_eq, hi, Option.map_none]
          obtain ⟨hkeeps, hsat⟩ := hcall i c tr cfg.shared hc hidle hinv hadm
          refine hothers i _ _ hkeeps ?_
          rintro c' p hx
          obtain ⟨rfl, rfl⟩ := Prod.mk.inj (Option.some.inj hx)
          exact hsat
      | @op i c o k r s' hi hr =>
          obtain ⟨hkeeps, hsat⟩ :=
            hthreads i c _ hi _ _ (P.refl _ _ _) hinv r s' hr hadm
          refine hothers i _ _ hkeeps ?_
          rintro c' p hx
          obtain ⟨rfl, rfl⟩ := Prod.mk.inj (Option.some.inj hx)
          exact hsat
      | @ret i c a hi =>
          have hkeeps := hthreads i c _ hi _ _ (P.refl _ _ _) hinv hadm
          refine hothers i _ _ hkeeps ?_
          rintro c' p hx
          exact absurd hx (by simp)

end Protocol

end Hdcp.Library
