/-
Programs that interact with their environment.

A program over a signature `S` is a finite tree of calls, each followed by a
continuation that reads the answer of the environment.  The environment is a
*handler*: it answers one call and moves its own state.  Executing a program
against a handler gives the value of the program, the log of the calls that were
made together with their answers, and the final state of the environment.

Everything that is claimed about a program can be read off this triple: what it
returns, what it touched and in which order, and what it left behind.  Loops are
programs with fuel (`iter`); running out of fuel is visible in the value, so that
termination is a statement about the existence of enough fuel.
-/
import Mathlib.Tactic.Common

namespace Hdcp.Library

/-- A signature: the calls that a program may make and the type of the answer to
each of them. -/
structure Sig where
  /-- The calls. -/
  Op : Type
  /-- The answers to a call. -/
  Ans : Op → Type

/-- A call together with the answer that it received. -/
structure Event (S : Sig) where
  /-- The call. -/
  op : S.Op
  /-- Its answer. -/
  ans : S.Ans op

/-- Programs over a signature. -/
inductive Prog (S : Sig) (α : Type) : Type where
  | ret (a : α) : Prog S α
  | call (op : S.Op) (k : S.Ans op → Prog S α) : Prog S α

/-- What the execution of a program leaves: its value, the log of the calls and
the final state of the environment. -/
structure Result (S : Sig) (σ α : Type) where
  /-- The value returned. -/
  val : α
  /-- The calls made, in order, with their answers. -/
  log : List (Event S)
  /-- The final state of the environment. -/
  st : σ

/-- A handler answers a call and moves the state of the environment. -/
abbrev Handler (S : Sig) (σ : Type) : Type := (o : S.Op) → σ → S.Ans o × σ

namespace Prog

variable {S : Sig} {σ α β γ : Type}

/-- Sequential composition. -/
def bind : Prog S α → (α → Prog S β) → Prog S β
  | ret a, f => f a
  | call o k, f => call o fun r => (k r).bind f

/-- The program that makes one call and returns its answer. -/
def op (o : S.Op) : Prog S (S.Ans o) := call o ret

instance : Monad (Prog S) where
  pure := ret
  bind := bind

@[simp] lemma pure_eq (a : α) : (pure a : Prog S α) = ret a := rfl

@[simp] lemma ret_bind (a : α) (f : α → Prog S β) : (ret a >>= f) = f a := rfl

@[simp] lemma call_bind (o : S.Op) (k : S.Ans o → Prog S α) (f : α → Prog S β) :
    (call o k >>= f) = call o fun r => k r >>= f := rfl

@[simp] lemma op_bind (o : S.Op) (f : S.Ans o → Prog S β) : (op o >>= f) = call o f := rfl

lemma bind_assoc (p : Prog S α) (f : α → Prog S β) (g : β → Prog S γ) :
    (p >>= f) >>= g = p >>= fun a => f a >>= g := by
  induction p with
  | ret a => rfl
  | call o k ih =>
      rw [call_bind, call_bind, call_bind]
      exact congrArg (call o) (funext ih)

lemma bind_ret (p : Prog S α) : p >>= ret = p := by
  induction p with
  | ret a => rfl
  | call o k ih =>
      rw [call_bind]
      exact congrArg (call o) (funext ih)

/-! ### Execution -/

/-- The execution of a program against a handler. -/
def exec (h : Handler S σ) : Prog S α → σ → Result S σ α
  | ret a, s => ⟨a, [], s⟩
  | call o k, s =>
      let r := exec h (k (h o s).1) (h o s).2
      ⟨r.val, ⟨o, (h o s).1⟩ :: r.log, r.st⟩

variable (h : Handler S σ)

@[simp] lemma exec_ret (a : α) (s : σ) : exec h (ret a) s = ⟨a, [], s⟩ := rfl

@[simp] lemma exec_call (o : S.Op) (k : S.Ans o → Prog S α) (s : σ) :
    exec h (call o k) s =
      ⟨(exec h (k (h o s).1) (h o s).2).val,
        ⟨o, (h o s).1⟩ :: (exec h (k (h o s).1) (h o s).2).log,
        (exec h (k (h o s).1) (h o s).2).st⟩ := rfl

/-- The execution of a composition is the execution of its parts, one after the
other. -/
lemma exec_bind (p : Prog S α) (f : α → Prog S β) (s : σ) :
    exec h (p >>= f) s =
      ⟨(exec h (f (exec h p s).val) (exec h p s).st).val,
        (exec h p s).log ++ (exec h (f (exec h p s).val) (exec h p s).st).log,
        (exec h (f (exec h p s).val) (exec h p s).st).st⟩ := by
  induction p generalizing s with
  | ret a => rfl
  | call o k ih =>
      rw [call_bind, exec_call, ih, exec_call]
      rfl

/-- The composition of a program whose execution is known. -/
lemma exec_bind_of_eq {p : Prog S α} {s s' : σ} {a : α} {l : List (Event S)}
    (hp : exec h p s = ⟨a, l, s'⟩) (f : α → Prog S β) :
    exec h (p >>= f) s =
      ⟨(exec h (f a) s').val, l ++ (exec h (f a) s').log, (exec h (f a) s').st⟩ := by
  rw [exec_bind, hp]

/-! ### Postconditions -/

/-- The execution of `p` from `s` ends with a value, a log and a state that
satisfy `Q`. -/
def Post (p : Prog S α) (s : σ) (Q : α → List (Event S) → σ → Prop) : Prop :=
  Q (exec h p s).val (exec h p s).log (exec h p s).st

variable {h}

@[simp] lemma post_ret {a : α} {s : σ} {Q : α → List (Event S) → σ → Prop} :
    Post h (ret a) s Q ↔ Q a [] s := Iff.rfl

@[simp] lemma post_call {o : S.Op} {k : S.Ans o → Prog S α} {s : σ}
    {Q : α → List (Event S) → σ → Prop} :
    Post h (call o k) s Q ↔
      Post h (k (h o s).1) (h o s).2 fun a l s' => Q a (⟨o, (h o s).1⟩ :: l) s' := Iff.rfl

lemma post_bind {p : Prog S α} {f : α → Prog S β} {s : σ}
    {Q : β → List (Event S) → σ → Prop} :
    Post h (p >>= f) s Q ↔
      Post h p s fun a l s' => Post h (f a) s' fun b l' s'' => Q b (l ++ l') s'' := by
  simp only [Post, exec_bind]

lemma Post.mono {p : Prog S α} {s : σ} {Q Q' : α → List (Event S) → σ → Prop}
    (hp : Post h p s Q) (hQ : ∀ a l s', Q a l s' → Q' a l s') : Post h p s Q' :=
  hQ _ _ _ hp

/-- The rule of composition: a postcondition of the first part is a precondition
of the second. -/
lemma Post.bind {p : Prog S α} {f : α → Prog S β} {s : σ}
    {Q : α → List (Event S) → σ → Prop} {R : β → List (Event S) → σ → Prop}
    (hp : Post h p s Q)
    (hf : ∀ a l s', Q a l s' → Post h (f a) s' fun b l' s'' => R b (l ++ l') s'') :
    Post h (p >>= f) s R :=
  post_bind.2 (hp.mono hf)

/-- The program `f` for each element of a list. -/
def forEach (l : List β) (f : β → Prog S Unit) : Prog S Unit :=
  match l with
  | [] => ret ()
  | b :: l => f b >>= fun _ => forEach l f

@[simp] lemma forEach_nil (f : β → Prog S Unit) : forEach [] f = ret () := rfl

@[simp] lemma forEach_cons (b : β) (l : List β) (f : β → Prog S Unit) :
    forEach (b :: l) f = (f b >>= fun _ => forEach l f) := rfl

/-! ### Runs

The runs of a program against any environment at all. -/

/-- The program can make the calls of the log, with these answers, and return the value. -/
inductive Runs : Prog S α → List (Event S) → α → Prop where
  | ret (a : α) : Runs (ret a) [] a
  | call (o : S.Op) (k : S.Ans o → Prog S α) (r : S.Ans o) {log : List (Event S)} {a : α}
      (h : Runs (k r) log a) : Runs (call o k) (⟨o, r⟩ :: log) a

lemma runs_ret {a b : α} {log : List (Event S)} :
    (ret a : Prog S α).Runs log b ↔ log = [] ∧ b = a := by
  constructor
  · rintro ⟨⟩
    exact ⟨rfl, rfl⟩
  · rintro ⟨rfl, rfl⟩
    exact .ret _

lemma runs_call {o : S.Op} {k : S.Ans o → Prog S α} {log : List (Event S)} {a : α} :
    (call o k).Runs log a ↔ ∃ r rest, log = ⟨o, r⟩ :: rest ∧ (k r).Runs rest a := by
  constructor
  · rintro ⟨⟩
    exact ⟨_, _, rfl, ‹_›⟩
  · rintro ⟨r, rest, rfl, h⟩
    exact .call o k r h

lemma runs_op {o : S.Op} {log : List (Event S)} {r : S.Ans o} :
    (op o).Runs log r ↔ log = [⟨o, r⟩] := by
  constructor
  · intro h
    obtain ⟨r', rest, rfl, hret⟩ := runs_call.1 h
    obtain ⟨rfl, rfl⟩ := runs_ret.1 hret
    rfl
  · rintro rfl
    exact .call o _ r (.ret r)

lemma runs_op_bind {o : S.Op} {f : S.Ans o → Prog S α} {log : List (Event S)} {a : α} :
    (op o >>= f).Runs log a ↔ ∃ r rest, log = ⟨o, r⟩ :: rest ∧ (f r).Runs rest a :=
  runs_call

/-- The answers determine the value. -/
lemma Runs.unique {p : Prog S α} {log : List (Event S)} {a b : α} (h : p.Runs log a)
    (h' : p.Runs log b) : a = b := by
  induction h with
  | ret a => exact (runs_ret.1 h').2.symm
  | call o k r h ih =>
      obtain ⟨r', rest, heq, hrest⟩ := runs_call.1 h'
      obtain ⟨he, rfl⟩ := List.cons.inj heq
      obtain ⟨-, hr⟩ := Event.mk.inj he
      obtain rfl := eq_of_heq hr
      exact ih hrest

/-- A run of a composition is a run of its first part and one of its second part. -/
lemma runs_bind {p : Prog S α} {f : α → Prog S β} {log : List (Event S)} {b : β} :
    (p >>= f).Runs log b ↔
      ∃ a l l', p.Runs l a ∧ (f a).Runs l' b ∧ log = l ++ l' := by
  induction p generalizing log with
  | ret a =>
      constructor
      · intro h
        exact ⟨a, [], log, .ret a, h, rfl⟩
      · rintro ⟨a', l, l', hp, hf, rfl⟩
        obtain ⟨rfl, rfl⟩ := runs_ret.1 hp
        exact hf
  | call o k ih =>
      rw [call_bind, runs_call]
      constructor
      · rintro ⟨r, rest, rfl, h⟩
        obtain ⟨a, l, l', hp, hf, rfl⟩ := (ih r).1 h
        exact ⟨a, ⟨o, r⟩ :: l, l', .call o k r hp, hf, rfl⟩
      · rintro ⟨a, l, l', hp, hf, rfl⟩
        obtain ⟨r, rest, rfl, hk⟩ := runs_call.1 hp
        exact ⟨r, rest ++ l', rfl, (ih r).2 ⟨a, rest, l', hk, hf, rfl⟩⟩

lemma runs_ite {c : Prop} [Decidable c] {p q : Prog S α} {log : List (Event S)} {a : α} :
    (if c then p else q).Runs log a ↔ c ∧ p.Runs log a ∨ ¬c ∧ q.Runs log a := by
  by_cases hc : c
  · simp [hc]
  · simp [hc]

/-- Every run of the program has the event. -/
def Makes (e : Event S) (p : Prog S α) : Prop := ∀ log a, p.Runs log a → e ∈ log

lemma makes_op {e : Event S} {o : S.Op} (h : ∀ r, e = ⟨o, r⟩) : (op o).Makes e := by
  intro log r hruns
  rw [runs_op.1 hruns, h r]
  exact List.mem_singleton.2 rfl

lemma Makes.bind_left {e : Event S} {p : Prog S α} {f : α → Prog S β} (hp : p.Makes e) :
    (p >>= f).Makes e := by
  intro log b hruns
  obtain ⟨a, first, rest, hfirst, -, rfl⟩ := runs_bind.1 hruns
  exact List.mem_append_left _ (hp first a hfirst)

lemma Makes.bind_right {e : Event S} {p : Prog S α} {f : α → Prog S β}
    (hf : ∀ a, (f a).Makes e) : (p >>= f).Makes e := by
  intro log b hruns
  obtain ⟨a, first, rest, -, hrest, rfl⟩ := runs_bind.1 hruns
  exact List.mem_append_right _ (hf a rest b hrest)

lemma Makes.ite {e : Event S} {c : Prop} [Decidable c] {p q : Prog S α} (hp : c → p.Makes e)
    (hq : ¬c → q.Makes e) : (if c then p else q).Makes e := by
  intro log a hruns
  rcases runs_ite.1 hruns with ⟨hc, hruns⟩ | ⟨hc, hruns⟩
  · exact hp hc log a hruns
  · exact hq hc log a hruns

/-- What the rounds of a loop contribute, one after the other. -/
lemma runs_forEach_filterMap {β γ : Type} {l : List β} {body : β → Prog S Unit}
    {f : Event S → Option γ} {g : β → List γ}
    (hbody : ∀ b ∈ l, ∀ log, (body b).Runs log () → log.filterMap f = g b) {log : List (Event S)}
    (hruns : (forEach l body).Runs log ()) : log.filterMap f = l.flatMap g := by
  induction l generalizing log with
  | nil =>
      obtain ⟨rfl, -⟩ := runs_ret.1 hruns
      rfl
  | cons b l ih =>
      obtain ⟨⟨⟩, first, rest, hfirst, hrest, rfl⟩ := runs_bind.1 hruns
      rw [List.filterMap_append, List.flatMap_cons, hbody b List.mem_cons_self first hfirst,
        ih (fun b' hb' => hbody b' (List.mem_cons_of_mem b hb')) hrest]

lemma runs_map {p : Prog S α} {f : α → β} {log : List (Event S)} {b : β} :
    (f <$> p).Runs log b ↔ ∃ a, p.Runs log a ∧ b = f a := by
  constructor
  · intro h
    obtain ⟨a, l, l', hp, hret, rfl⟩ := runs_bind.1 h
    obtain ⟨rfl, rfl⟩ := runs_ret.1 hret
    rw [List.append_nil]
    exact ⟨a, hp, rfl⟩
  · rintro ⟨a, hp, rfl⟩
    exact runs_bind.2 ⟨a, log, [], hp, .ret _, (List.append_nil log).symm⟩

/-- An execution is a run. -/
lemma runs_exec (h : Handler S σ) (p : Prog S α) (s : σ) :
    p.Runs (exec h p s).log (exec h p s).val := by
  induction p generalizing s with
  | ret a => exact .ret a
  | call o k ih => exact .call o k (h o s).1 (ih (h o s).1 (h o s).2)

/-- The answers in the log of an execution are those of the handler. -/
lemma ans_of_mem_log {h : Handler S σ} {p : Prog S α} {s : σ} {e : Event S}
    (he : e ∈ (exec h p s).log) : ∃ t, e.ans = (h e.op t).1 := by
  induction p generalizing s with
  | ret a => exact absurd he List.not_mem_nil
  | call o k ih =>
      rcases List.mem_cons.1 he with rfl | hrest
      · exact ⟨s, rfl⟩
      · exact ih _ hrest

/-- A run with the answers of the handler is its execution. -/
lemma exec_of_runs {h : Handler S σ} {p : Prog S α} {log : List (Event S)} {a : α}
    (hruns : p.Runs log a) (hlog : ∀ e ∈ log, ∀ t, (h e.op t).1 = e.ans) (s : σ) :
    (exec h p s).val = a := by
  induction hruns generalizing s with
  | ret a => rfl
  | call o k r hrest ih =>
      obtain ⟨hr, hlater⟩ := List.forall_mem_cons.1 hlog
      obtain rfl : (h o s).1 = r := hr s
      exact ih hlater (h o s).2

/-- Whatever the environment answers, there is a run in which it answers so. -/
lemma exists_runs (ans : (o : S.Op) → S.Ans o) (p : Prog S α) :
    ∃ log a, p.Runs log a ∧ ∀ e ∈ log, e.ans = ans e.op := by
  induction p with
  | ret a => exact ⟨[], a, .ret a, by simp⟩
  | call o k ih =>
      obtain ⟨log, a, hruns, hans⟩ := ih (ans o)
      exact ⟨_, a, .call o k (ans o) hruns, List.forall_mem_cons.2 ⟨rfl, hans⟩⟩

/-! ### Calls that a program makes -/

/-- Every call that the program can make is in `A`. -/
def Uses (A : S.Op → Prop) : Prog S α → Prop
  | ret _ => True
  | call o k => A o ∧ ∀ r, (k r).Uses A

variable {A B : S.Op → Prop}

@[simp] lemma uses_ret {a : α} : (ret a : Prog S α).Uses A := trivial

@[simp] lemma uses_op {o : S.Op} : (op o).Uses A ↔ A o :=
  ⟨fun h => h.1, fun h => ⟨h, fun _ => trivial⟩⟩

lemma Uses.ite {c : Prop} [Decidable c] {p q : Prog S α} (hp : c → p.Uses A)
    (hq : ¬c → q.Uses A) : (if c then p else q).Uses A := by
  by_cases h : c
  · rw [if_pos h]
    exact hp h
  · rw [if_neg h]
    exact hq h

lemma Uses.op_bind {o : S.Op} {f : S.Ans o → Prog S α} (ho : A o) (hf : ∀ r, (f r).Uses A) :
    (op o >>= f).Uses A := ⟨ho, hf⟩

lemma Uses.bind {p : Prog S α} {f : α → Prog S β} (hp : p.Uses A) (hf : ∀ a, (f a).Uses A) :
    (p >>= f).Uses A := by
  induction p with
  | ret a => exact hf a
  | call o k ih => exact ⟨hp.1, fun r => ih r (hp.2 r)⟩

lemma uses_forEach {l : List β} {f : β → Prog S Unit} (hf : ∀ b ∈ l, (f b).Uses A) :
    (forEach l f).Uses A := by
  induction l with
  | nil => trivial
  | cons b l ih =>
      have hrest : (forEach l f).Uses A := ih fun b' hb' => hf b' (List.mem_cons_of_mem b hb')
      exact (hf b List.mem_cons_self).bind fun _ => hrest

lemma Uses.mono {p : Prog S α} (hp : p.Uses A) (hAB : ∀ o, A o → B o) : p.Uses B := by
  induction p with
  | ret a => trivial
  | call o k ih => exact ⟨hAB o hp.1, fun r => ih r (hp.2 r)⟩

/-- Every program makes calls that everything is allowed for. -/
lemma uses_all (hA : ∀ o, A o) (p : Prog S α) : p.Uses A := by
  induction p with
  | ret a => trivial
  | call o k ih => exact ⟨hA o, ih⟩

lemma Uses.of_runs {p : Prog S α} {log : List (Event S)} {a : α} (hp : p.Uses A)
    (h : p.Runs log a) {e : Event S} (he : e ∈ log) : A e.op := by
  induction h with
  | ret a => exact absurd he List.not_mem_nil
  | call o k r h ih =>
      rcases List.mem_cons.1 he with rfl | hrest
      · exact hp.1
      · exact ih (hp.2 r) hrest

/-! ### States

What a log does to a state, when each interaction has an effect on it. -/

/-- The interactions of the log lead from one state to another. -/
def Leads (step : (o : S.Op) → S.Ans o → σ → Option σ) : List (Event S) → σ → σ → Prop
  | [], s, s' => s' = s
  | e :: log, s, s' => ∃ t, step e.op e.ans s = some t ∧ Leads step log t s'

variable {step : (o : S.Op) → S.Ans o → σ → Option σ} {log log' : List (Event S)} {s s' : σ}

lemma leads_append :
    Leads step (log ++ log') s s' ↔ ∃ t, Leads step log s t ∧ Leads step log' t s' := by
  induction log generalizing s with
  | nil =>
      constructor
      · exact fun h => ⟨s, rfl, h⟩
      · rintro ⟨t, rfl, h⟩
        exact h
  | cons e log ih =>
      constructor
      · rintro ⟨t, ht, h⟩
        obtain ⟨t', h₁, h₂⟩ := ih.1 h
        exact ⟨t', ⟨t, ht, h₁⟩, h₂⟩
      · rintro ⟨t', ⟨t, ht, h₁⟩, h₂⟩
        exact ⟨t, ht, ih.2 ⟨t', h₁, h₂⟩⟩

lemma Leads.unique {t : σ} (h : Leads step log s s') (h' : Leads step log s t) : s' = t := by
  induction log generalizing s with
  | nil => exact h.trans h'.symm
  | cons e log ih =>
      obtain ⟨t₁, ht₁, hrest⟩ := h
      obtain ⟨t₂, ht₂, hrest'⟩ := h'
      obtain rfl := Option.some.inj (ht₁.symm.trans ht₂)
      exact ih hrest hrest'

/-- A fact that every interaction of the log keeps. -/
lemma Leads.keeps {I : σ → Prop} (h : Leads step log s s')
    (hI : ∀ e ∈ log, ∀ {s s'}, step e.op e.ans s = some s' → I s → I s') (hs : I s) : I s' := by
  induction log generalizing s with
  | nil =>
      obtain rfl : s' = s := h
      exact hs
  | cons e log ih =>
      obtain ⟨t, ht, hrest⟩ := h
      refine ih hrest (fun e' he' => hI e' (List.mem_cons_of_mem e he')) ?_
      exact hI e List.mem_cons_self ht hs

/-- The state that the log leads to. -/
def follow (step : (o : S.Op) → S.Ans o → σ → Option σ) : List (Event S) → σ → Option σ
  | [], s => some s
  | e :: log, s => (step e.op e.ans s).bind (follow step log)

lemma leads_iff_follow : Leads step log s s' ↔ follow step log s = some s' := by
  induction log generalizing s with
  | nil =>
      show s' = s ↔ some s = some s'
      rw [Option.some.injEq, eq_comm]
  | cons e log ih =>
      show (∃ t, step e.op e.ans s = some t ∧ Leads step log t s') ↔ _
      simp only [ih]
      exact Option.bind_eq_some_iff.symm

/-- The run of a program whose answers come from the state, when each of its steps is possible. -/
def answered (answer : σ → (o : S.Op) → S.Ans o) (step : (o : S.Op) → S.Ans o → σ → Option σ) :
    Prog S α → σ → Option (Result S σ α)
  | ret a, s => some ⟨a, [], s⟩
  | call o k, s => (step o (answer s o) s).bind fun t =>
      (answered answer step (k (answer s o)) t).map fun r =>
        ⟨r.val, ⟨o, answer s o⟩ :: r.log, r.st⟩

lemma of_answered {answer : σ → (o : S.Op) → S.Ans o} {p : Prog S α} {r : Result S σ α}
    (h : answered answer step p s = some r) : p.Runs r.log r.val ∧ Leads step r.log s r.st := by
  induction p generalizing s r with
  | ret a =>
      obtain rfl := Option.some.inj h
      exact ⟨.ret a, rfl⟩
  | call o k ih =>
      obtain ⟨t, ht, hrest⟩ := Option.bind_eq_some_iff.1 h
      obtain ⟨r', hr', rfl⟩ := Option.map_eq_some_iff.1 hrest
      obtain ⟨hruns, hleads⟩ := ih _ hr'
      exact ⟨.call o k _ hruns, t, ht, hleads⟩

/-- Whatever the environment answers, as long as the state admits it: the program that is
executed from a state ends with `Q`. -/
def Ensures (step : (o : S.Op) → S.Ans o → σ → Option σ) (Q : α → σ → Prop) : Prog S α → σ → Prop
  | ret a, s => Q a s
  | call o k, s => ∀ r s', step o r s = some s' → Ensures step Q (k r) s'

section Ensures

variable {Q Q' : α → σ → Prop} {p : Prog S α}

@[simp] lemma ensures_ret {a : α} : Ensures step Q (ret a) s ↔ Q a s := Iff.rfl

@[simp] lemma ensures_call {o : S.Op} {k : S.Ans o → Prog S α} :
    Ensures step Q (call o k) s ↔ ∀ r s', step o r s = some s' → Ensures step Q (k r) s' := Iff.rfl

@[simp] lemma ensures_op {o : S.Op} {Q : S.Ans o → σ → Prop} :
    Ensures step Q (op o) s ↔ ∀ r s', step o r s = some s' → Q r s' := Iff.rfl

/-- The rule of one interaction. -/
lemma Ensures.op_bind {o : S.Op} {f : S.Ans o → Prog S α}
    (h : ∀ r s', step o r s = some s' → Ensures step Q (f r) s') :
    Ensures step Q (op o >>= f) s := h

lemma Ensures.mono (hp : Ensures step Q p s) (hQ : ∀ a s, Q a s → Q' a s) :
    Ensures step Q' p s := by
  induction p generalizing s with
  | ret a => exact hQ a s hp
  | call o k ih => exact fun r s' hstep => ih r (hp r s' hstep)

/-- The rule of composition. -/
lemma Ensures.bind {f : α → Prog S β} {R : β → σ → Prop} (hp : Ensures step Q p s)
    (hf : ∀ a s', Q a s' → Ensures step R (f a) s') : Ensures step R (p >>= f) s := by
  induction p generalizing s with
  | ret a => exact hf a s hp
  | call o k ih => exact fun r s' hstep => ih r (hp r s' hstep)

lemma Ensures.ite {c : Prop} [Decidable c] {q : Prog S α} (hp : c → Ensures step Q p s)
    (hq : ¬c → Ensures step Q q s) : Ensures step Q (if c then p else q) s := by
  by_cases h : c
  · rw [if_pos h]
    exact hp h
  · rw [if_neg h]
    exact hq h

/-- What is ensured holds after each run. -/
lemma Ensures.of_runs {a : α} (hp : Ensures step Q p s) (h : p.Runs log a)
    (hleads : Leads step log s s') : Q a s' := by
  induction h generalizing s with
  | ret a =>
      obtain rfl : s' = s := hleads
      exact hp
  | call o k r h ih =>
      obtain ⟨t, ht, hrest⟩ := hleads
      exact ih (hp r t ht) hrest

end Ensures

/-! ### Substitution

A call of one signature is implemented by a program over another one. -/

section Subst

variable {T : Sig} {τ : Type} {f : (o : S.Op) → Prog T (S.Ans o)}

/-- Every call is replaced by the program that implements it. -/
def subst (f : (o : S.Op) → Prog T (S.Ans o)) : Prog S α → Prog T α
  | ret a => ret a
  | call o k => f o >>= fun r => subst f (k r)

@[simp] lemma subst_ret (a : α) : (ret a : Prog S α).subst f = ret a := rfl

@[simp] lemma subst_call (o : S.Op) (k : S.Ans o → Prog S α) :
    (call o k).subst f = f o >>= fun r => (k r).subst f := rfl

lemma subst_op (o : S.Op) : (op o).subst f = f o := bind_ret (f o)

lemma subst_bind (p : Prog S α) (g : α → Prog S β) :
    (p >>= g).subst f = p.subst f >>= fun a => (g a).subst f := by
  induction p with
  | ret a => rfl
  | call o k ih =>
      rw [call_bind, subst_call, subst_call, bind_assoc]
      exact congrArg (f o >>= ·) (funext ih)

lemma Uses.subst {A : T.Op → Prop} (p : Prog S α) (hf : ∀ o, (f o).Uses A) :
    (p.subst f).Uses A := by
  induction p with
  | ret a => trivial
  | call o k ih => exact (hf o).bind ih

/-- A log of the implementation: a run of what implements each call, one after the other. -/
inductive Implements (f : (o : S.Op) → Prog T (S.Ans o)) :
    List (Event S) → List (Event T) → Prop where
  | nil : Implements f [] []
  | cons {e : Event S} {log : List (Event S)} {l log' : List (Event T)}
      (h : (f e.op).Runs l e.ans) (hrest : Implements f log log') :
      Implements f (e :: log) (l ++ log')

/-- A run of the implementation is a run of the program. -/
lemma exists_runs_of_subst {p : Prog S α} {log' : List (Event T)} {a : α}
    (h : (p.subst f).Runs log' a) : ∃ log, Implements f log log' ∧ p.Runs log a := by
  induction p generalizing log' with
  | ret b =>
      obtain ⟨rfl, rfl⟩ := runs_ret.1 h
      exact ⟨[], .nil, .ret a⟩
  | call o k ih =>
      obtain ⟨r, l, l', hl, hl', rfl⟩ := runs_bind.1 h
      obtain ⟨log, himpl, hruns⟩ := ih r hl'
      exact ⟨⟨o, r⟩ :: log, .cons hl himpl, .call o k r hruns⟩

lemma Implements.append {log₁ log₂ : List (Event S)} {log' : List (Event T)}
    (h : Implements f (log₁ ++ log₂) log') :
    ∃ l₁ l₂, log' = l₁ ++ l₂ ∧ Implements f log₁ l₁ ∧ Implements f log₂ l₂ := by
  induction log₁ generalizing log' with
  | nil => exact ⟨[], log', rfl, .nil, h⟩
  | cons e log₁ ih =>
      obtain ⟨⟩ := h
      rename_i l rest hl hrest
      obtain ⟨l₁, l₂, rfl, h₁, h₂⟩ := ih hrest
      exact ⟨l ++ l₁, l₂, (List.append_assoc l l₁ l₂).symm, .cons hl h₁, h₂⟩

lemma Implements.singleton {e : Event S} {log' : List (Event T)} (h : Implements f [e] log') :
    (f e.op).Runs log' e.ans := by
  obtain ⟨⟩ := h
  rename_i l rest hl hrest
  obtain ⟨⟩ := hrest
  rwa [List.append_nil]

end Subst

/-! ### Loops -/

/-- Repeat `body` until it answers `inr`, at most `fuel` times. -/
def iter (body : β → Prog S (β ⊕ α)) : ℕ → β → Prog S (Option α)
  | 0, _ => ret none
  | n + 1, b => body b >>= fun
    | .inl b' => iter body n b'
    | .inr a => ret (some a)

@[simp] lemma iter_zero (body : β → Prog S (β ⊕ α)) (b : β) : iter body 0 b = ret none := rfl

lemma iter_succ (body : β → Prog S (β ⊕ α)) (n : ℕ) (b : β) :
    iter body (n + 1) b = (body b >>= fun
      | .inl b' => iter body n b'
      | .inr a => ret (some a)) := rfl

variable {body : β → Prog S (β ⊕ α)}

lemma uses_iter (hbody : ∀ b, (body b).Uses A) (n : ℕ) (b : β) : (iter body n b).Uses A := by
  induction n generalizing b with
  | zero => trivial
  | succ n ih =>
      refine (hbody b).bind ?_
      rintro (b' | a)
      · exact ih b'
      · trivial

lemma exec_iter_inl {b b' : β} {s s' : σ} {l : List (Event S)}
    (hb : exec h (body b) s = ⟨.inl b', l, s'⟩) (n : ℕ) :
    exec h (iter body (n + 1) b) s =
      ⟨(exec h (iter body n b') s').val, l ++ (exec h (iter body n b') s').log,
        (exec h (iter body n b') s').st⟩ := by
  rw [iter_succ, exec_bind_of_eq h hb]

/-- A loop with an invariant under which no round stops runs out of any fuel. -/
lemma exec_iter_none {I : β → Prop}
    (hround : ∀ b s, I b → Post h (body b) s fun r _ _ => ∃ b', r = .inl b' ∧ I b') (n : ℕ) :
    ∀ b s, I b → (exec h (iter body n b) s).val = none := by
  induction n with
  | zero => intro b s _; rfl
  | succ n ih =>
      intro b s hI
      obtain ⟨b', hb', hI'⟩ := hround b s hI
      rcases hr : exec h (body b) s with ⟨r, l, s'⟩
      rw [hr] at hb'
      obtain rfl : r = .inl b' := hb'
      rw [exec_iter_inl hr]
      exact ih b' s' hI'

/-- What the rounds after the first one log is in the log of the loop. -/
lemma mem_log_iter {b b' : β} {s s' : σ} {l : List (Event S)} {e : Event S} {n : ℕ}
    (hb : exec h (body b) s = ⟨.inl b', l, s'⟩) (he : e ∈ (exec h (iter body n b') s').log) :
    e ∈ (exec h (iter body (n + 1) b) s).log := by
  rw [exec_iter_inl hb]
  exact List.mem_append_right _ he

end Prog

end Hdcp.Library
