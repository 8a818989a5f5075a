/-
Remote calls.

A client and a server are connected by two streams of bytes, one in each direction.  What a
party has heard is a beginning of what the other party has said, and nothing more is known
about the connection: a message may arrive in any parts, and at any time.  The server works
in rounds; besides the connection it has inner interactions of its own.

A program of the client is *transparent* with respect to a program of the server when it
does not matter that the two are apart: each run of the client uses up some rounds of the
server, and what the server has done inside in these rounds is a run of its program, with the
value that the client has got.  `Transparent.subst` is about a whole application: if each call
of an interface is transparent, so is every program that makes such calls.
-/
import Hdcp.Library.Prog

namespace Hdcp.Library

variable {S T : Sig} {α γ β : Type}

/-! ### Parties -/

/-- A party of a connection: what an interaction writes there, and what it reads; what is
known of an interaction; and which interactions do not concern the connection but are to be
recorded. -/
structure Party (S : Sig) (β : Type) where
  said : Event S → List β
  heard : Event S → List β
  works : Event S → Prop
  inner : Event S → Bool

namespace Party

variable (P : Party S β)

def saidIn (log : List (Event S)) : List β := log.flatMap P.said

def heardIn (log : List (Event S)) : List β := log.flatMap P.heard

def innerIn (log : List (Event S)) : List (Event S) := log.filter P.inner

/-- What the runs of a program do: `Q` is about the value, what was heard and said, and the
inner interactions. -/
def Does (Q : α → List β → List β → List (Event S) → Prop) (p : Prog S α) : Prop :=
  ∀ ⦃log a⦄, p.Runs log a → (∀ e ∈ log, P.works e) →
    Q a (P.heardIn log) (P.saidIn log) (P.innerIn log)

variable {P} {e : Event S} {log log' : List (Event S)}
  {Q Q' : α → List β → List β → List (Event S) → Prop} {p p' : Prog S α}

@[simp] lemma saidIn_nil : P.saidIn [] = [] := rfl

@[simp] lemma heardIn_nil : P.heardIn [] = [] := rfl

@[simp] lemma innerIn_nil : P.innerIn [] = [] := rfl

@[simp] lemma saidIn_singleton : P.saidIn [e] = P.said e := List.append_nil _

@[simp] lemma heardIn_singleton : P.heardIn [e] = P.heard e := List.append_nil _

@[simp] lemma saidIn_append : P.saidIn (log ++ log') = P.saidIn log ++ P.saidIn log' :=
  List.flatMap_append

@[simp] lemma heardIn_append : P.heardIn (log ++ log') = P.heardIn log ++ P.heardIn log' :=
  List.flatMap_append

@[simp] lemma innerIn_append : P.innerIn (log ++ log') = P.innerIn log ++ P.innerIn log' :=
  List.filter_append ..

lemma does_ret {a : α} (h : Q a [] [] []) : P.Does Q (.ret a) := by
  intro log b hrun _
  obtain ⟨rfl, rfl⟩ := Prog.runs_ret.1 hrun
  exact h

/-- The end of a composition. -/
lemma does_ret_append {a : α} {heard said : List β} {inner : List (Event S)}
    (h : Q a heard said inner) :
    P.Does (fun c heard' said' inner' => Q c (heard ++ heard') (said ++ said')
      (inner ++ inner')) (.ret a) :=
  does_ret (by simpa using h)

lemma Does.mono (h : P.Does Q p) (hQ : ∀ a heard said inner, Q a heard said inner →
    Q' a heard said inner) : P.Does Q' p :=
  fun _ _ hrun hworks => hQ _ _ _ _ (h hrun hworks)

/-- The rule of composition. -/
lemma Does.bind {f : α → Prog S γ} {R : γ → List β → List β → List (Event S) → Prop}
    (h : P.Does Q p) (hf : ∀ a heard said inner, Q a heard said inner →
      P.Does (fun c heard' said' inner' => R c (heard ++ heard') (said ++ said')
        (inner ++ inner')) (f a)) : P.Does R (p >>= f) := by
  intro log c hrun hworks
  obtain ⟨a, l, l', hp, hrest, rfl⟩ := Prog.runs_bind.1 hrun
  obtain ⟨hl, hl'⟩ := List.forall_mem_append.1 hworks
  rw [heardIn_append, saidIn_append, innerIn_append]
  exact hf a _ _ _ (h hp hl) hrest hl'

lemma Does.ite {b : Prop} [Decidable b] (h : b → P.Does Q p) (h' : ¬b → P.Does Q p') :
    P.Does Q (if b then p else p') := by
  by_cases hb : b
  · rw [if_pos hb]
    exact h hb
  · rw [if_neg hb]
    exact h' hb

/-- The rule of one interaction. -/
lemma does_op {o : S.Op} {Q : S.Ans o → List β → List β → List (Event S) → Prop}
    (h : ∀ r, P.works ⟨o, r⟩ →
      Q r (P.heard ⟨o, r⟩) (P.said ⟨o, r⟩) (P.innerIn [⟨o, r⟩])) :
    P.Does Q (Prog.op o) := by
  intro log r hrun hworks
  obtain rfl := Prog.runs_op.1 hrun
  rw [heardIn_singleton, saidIn_singleton]
  exact h r (hworks _ List.mem_cons_self)

/-- A program whose interactions are all inner ones is recorded as it is. -/
lemma does_of_inner {A : S.Op → Prop} (huses : p.Uses A) (hA : ∀ o r, A o →
    P.heard ⟨o, r⟩ = [] ∧ P.said ⟨o, r⟩ = [] ∧ P.inner ⟨o, r⟩ = true) :
    P.Does (fun a heard said inner => heard = [] ∧ said = [] ∧ p.Runs inner a) p := by
  intro log a hrun _
  have hmem (e : Event S) (he : e ∈ log) := hA e.op e.ans (huses.of_runs hrun he)
  refine ⟨List.flatMap_eq_nil_iff.2 fun e he => (hmem e he).1,
    List.flatMap_eq_nil_iff.2 fun e he => (hmem e he).2.1, ?_⟩
  rwa [innerIn, List.filter_eq_self.2 fun e he => (hmem e he).2.2]

/-- Inside, the program `p` does what `q` does; `R` is about the values of both, and what `p`
has heard and said. -/
def Mirrors (P : Party S β) (R : γ → α → List β → List β → Prop) (q : Prog S γ)
    (p : Prog S α) : Prop :=
  P.Does (fun a heard said inner => ∃ c, q.Runs inner c ∧ R c a heard said) p

section Mirrors

variable {R : γ → α → List β → List β → Prop} {q q' : Prog S γ}

lemma mirrors_ret {c : γ}
    (h : P.Does (fun a heard said inner => R c a heard said ∧ inner = []) p) :
    P.Mirrors R (.ret c) p := by
  refine h.mono ?_
  rintro a heard said inner ⟨hR, rfl⟩
  exact ⟨c, .ret c, hR⟩

lemma Mirrors.ite {b : Prop} [Decidable b] (h : b → P.Mirrors R q p)
    (h' : ¬b → P.Mirrors R q' p') :
    P.Mirrors R (if b then q else q') (if b then p else p') := by
  by_cases hb : b
  · rw [if_pos hb, if_pos hb]
    exact h hb
  · rw [if_neg hb, if_neg hb]
    exact h' hb

/-- Both programs make the same inner interaction. -/
lemma Mirrors.op {o : S.Op} {f : S.Ans o → Prog S α} {k : S.Ans o → Prog S γ}
    (ho : ∀ r, P.heard ⟨o, r⟩ = [] ∧ P.said ⟨o, r⟩ = [] ∧ P.inner ⟨o, r⟩ = true)
    (h : ∀ r, P.Mirrors R (k r) (f r)) : P.Mirrors R (Prog.op o >>= k) (Prog.op o >>= f) := by
  intro log a hrun hworks
  obtain ⟨r, rest, rfl, hrest⟩ := Prog.runs_call.1 hrun
  obtain ⟨-, hworks⟩ := List.forall_mem_cons.1 hworks
  obtain ⟨c, hc, hR⟩ := h r hrest hworks
  obtain ⟨hheard, hsaid, hinner⟩ := ho r
  refine ⟨c, ?_, ?_⟩
  · rw [innerIn, List.filter_cons_of_pos hinner]
    exact .call o k r hc
  · rwa [heardIn, List.flatMap_cons, hheard, saidIn, List.flatMap_cons, hsaid]

/-- The rule of composition, when nothing is done inside any more. -/
lemma Mirrors.bind {δ : Type} {f : α → Prog S δ} {R' : γ → δ → List β → List β → Prop}
    (h : P.Mirrors R q p) (hf : ∀ c a heard said, R c a heard said →
      P.Does (fun d heard' said' inner => R' c d (heard ++ heard') (said ++ said') ∧ inner = [])
        (f a)) : P.Mirrors R' q (p >>= f) := by
  refine Does.bind h ?_
  rintro a heard said inner ⟨c, hc, hR⟩
  refine (hf c a heard said hR).mono ?_
  rintro d heard' said' inner' ⟨hR', rfl⟩
  exact ⟨c, by rwa [List.append_nil], hR'⟩

end Mirrors

end Party

/-- Two beginnings of one stream that have the same length. -/
lemma prefix_append_of_length {a b x y : List β} (h : a ++ x <+: b ++ y)
    (hlength : a.length = b.length) : a = b ∧ x <+: y := by
  obtain ⟨z, hz⟩ := h
  rw [List.append_assoc] at hz
  obtain ⟨hab, hxy⟩ := List.append_inj hz hlength
  exact ⟨hab, z, hxy⟩

/-! ### Transparency -/

/-- A client and a server that are connected; `round` are the logs of the rounds of the server
in which it hears something. -/
structure Service (S T : Sig) (β : Type) where
  client : Party S β
  server : Party T β
  round : List (Event T) → Prop

namespace Service

variable (V : Service S T β)

/-- Each party has heard a beginning of what the other one has said. -/
structure Wired (log : List (Event S)) (rounds : List (List (Event T))) : Prop where
  toServer : V.server.heardIn rounds.flatten <+: V.client.saidIn log
  toClient : V.client.heardIn log <+: V.server.saidIn rounds.flatten

/-- It does not matter that the two programs are apart. -/
def Transparent (p : Prog S α) (q : Prog T α) : Prop :=
  ∀ ⦃log a log' rounds⦄, p.Runs log a → (∀ e ∈ log, V.client.works e) →
    (∀ r ∈ rounds, V.round r) → V.Wired (log ++ log') rounds →
      ∃ rounds₁ rounds₂, rounds = rounds₁ ++ rounds₂ ∧ V.Wired log' rounds₂ ∧
        q.Runs (V.server.innerIn rounds₁.flatten) a

variable {V} {log log' : List (Event S)} {rounds : List (List (Event T))}
  {p p' : Prog S α} {q q' : Prog T α}

lemma transparent_ret (a : α) : V.Transparent (.ret a) (.ret a) := by
  intro log b log' rounds hrun _ _ hwired
  obtain ⟨rfl, rfl⟩ := Prog.runs_ret.1 hrun
  exact ⟨[], rounds, rfl, hwired, .ret b⟩

/-- The rule of composition: the client continues with what it makes of the value that the
server has. -/
lemma Transparent.bind_map {δ : Type} {q : Prog T δ} {f : δ → α} {g : α → Prog S γ}
    {k : δ → Prog T γ} (h : V.Transparent p (q >>= fun b => .ret (f b)))
    (hk : ∀ b, V.Transparent (g (f b)) (k b)) : V.Transparent (p >>= g) (q >>= k) := by
  intro log c log' rounds hrun hworks hround hwired
  obtain ⟨a, l, l', hp, hrest, rfl⟩ := Prog.runs_bind.1 hrun
  obtain ⟨hl, hl'⟩ := List.forall_mem_append.1 hworks
  rw [List.append_assoc] at hwired
  obtain ⟨rounds₁, rounds₂, rfl, hwired₂, hq⟩ := h hp hl hround hwired
  obtain ⟨b, hb, rfl⟩ := Prog.runs_map.1 hq
  obtain ⟨-, hround₂⟩ := List.forall_mem_append.1 hround
  obtain ⟨rounds₃, rounds₄, rfl, hwired₄, hg⟩ := hk b hrest hl' hround₂ hwired₂
  refine ⟨rounds₁ ++ rounds₃, rounds₄, (List.append_assoc _ _ _).symm, hwired₄, ?_⟩
  rw [List.flatten_append, Party.innerIn_append]
  exact Prog.runs_bind.2 ⟨b, _, _, hb, hg, rfl⟩

lemma Transparent.bind {f : α → Prog S γ} {g : α → Prog T γ} (h : V.Transparent p q)
    (hf : ∀ a, V.Transparent (f a) (g a)) : V.Transparent (p >>= f) (q >>= g) := by
  rw [← Prog.bind_ret q] at h
  exact h.bind_map hf

lemma Transparent.ite {b : Prop} [Decidable b] (h : b → V.Transparent p q)
    (h' : ¬b → V.Transparent p' q') :
    V.Transparent (if b then p else p') (if b then q else q') := by
  by_cases hb : b
  · rw [if_pos hb, if_pos hb]
    exact h hb
  · rw [if_neg hb, if_neg hb]
    exact h' hb

/-- An interaction of the client that the server does not notice. -/
lemma Transparent.quiet {o : S.Op} {f : S.Ans o → Prog S α}
    (hquiet : ∀ r, V.client.said ⟨o, r⟩ = [] ∧ V.client.heard ⟨o, r⟩ = [])
    (hf : ∀ r, V.client.works ⟨o, r⟩ → V.Transparent (f r) q) :
    V.Transparent (Prog.op o >>= f) q := by
  intro log a log' rounds hrun hworks hround hwired
  obtain ⟨r, rest, rfl, hrest⟩ := Prog.runs_call.1 hrun
  obtain ⟨hr, hworks⟩ := List.forall_mem_cons.1 hworks
  obtain ⟨hsaid, hheard⟩ := hquiet r
  refine hf r hr hrest hworks hround ⟨?_, ?_⟩
  · simpa [Party.saidIn, hsaid] using hwired.toServer
  · simpa [Party.heardIn, hheard] using hwired.toClient

/-- One exchange: the client says `u` first and hears something, and the server hears as
much first in each round.  What both do then, `C` and `D`, fits together. -/
lemma transparent_of_round {u : List β} {C : α → List β → List β → Prop}
    {D : List β → List β → List (Event T) → Prop}
    (hclient : V.client.Does (fun a heard said _ => heard ≠ [] ∧
      ∃ more, said = u ++ more ∧ C a heard more) p)
    (hserver : ∀ r, V.round r → ∃ first more, V.server.heardIn r = first ++ more ∧
      first.length = u.length ∧ (first = u → D more (V.server.saidIn r) (V.server.innerIn r)))
    (hmatch : ∀ a heard said heard' said' inner, C a heard said → D heard' said' inner →
      (∀ x y z w, heard ++ x <+: said' ++ y → heard' ++ z <+: said ++ w →
        heard = said' ∧ heard' = said ∧ q.Runs inner a)) :
    V.Transparent p q := by
  intro log a log' rounds hrun hworks hround hwired
  obtain ⟨hne, said, hsaid, hC⟩ := hclient hrun hworks
  obtain ⟨htoServer, htoClient⟩ := hwired
  rw [Party.saidIn_append, hsaid, List.append_assoc] at htoServer
  rw [Party.heardIn_append] at htoClient
  cases rounds with
  | nil =>
      -- the client has heard something
      have hnil := List.append_eq_nil_iff.1 (List.prefix_nil.1 htoClient)
      exact absurd hnil.1 hne
  | cons r rounds =>
      obtain ⟨hr, hround⟩ := List.forall_mem_cons.1 hround
      obtain ⟨first, heard', hheard', hlength, hD⟩ := hserver r hr
      rw [List.flatten_cons, Party.heardIn_append, hheard', List.append_assoc] at htoServer
      rw [List.flatten_cons, Party.saidIn_append] at htoClient
      obtain ⟨rfl, hmore⟩ := prefix_append_of_length htoServer hlength
      obtain ⟨hh, hs, hq⟩ := hmatch a _ _ _ _ _ hC (hD rfl) _ _ _ _ htoClient hmore
      refine ⟨[r], rounds, rfl, ⟨?_, ?_⟩, ?_⟩
      · rw [hs] at hmore
        exact (List.prefix_append_right_inj _).1 hmore
      · rw [hh] at htoClient
        exact (List.prefix_append_right_inj _).1 htoClient
      · rwa [List.flatten_singleton]

/-- Every application that makes the calls of an interface, when each call is transparent. -/
theorem Transparent.subst {A : Sig} {stub : (c : A.Op) → Prog S (A.Ans c)}
    {direct : (c : A.Op) → Prog T (A.Ans c)} (h : ∀ c, V.Transparent (stub c) (direct c))
    (p : Prog A α) : V.Transparent (p.subst stub) (p.subst direct) := by
  induction p with
  | ret a => exact transparent_ret a
  | call c k ih => exact (h c).bind ih

/-- A server that has not been told anything more has made no round. -/
lemma Wired.rounds_eq_nil (h : V.Wired [] rounds)
    (hheard : ∀ r ∈ rounds, V.server.heardIn r ≠ []) : rounds = [] := by
  cases rounds with
  | nil => rfl
  | cons r rounds =>
      have hnil := List.prefix_nil.1 h.toServer
      rw [List.flatten_cons, Party.heardIn_append] at hnil
      exact absurd (List.append_eq_nil_iff.1 hnil).1 (hheard r List.mem_cons_self)

/-- A whole run of the client, and all the rounds of the server in the meantime. -/
theorem Transparent.runs {a : α} (h : V.Transparent p q)
    (hrun : p.Runs log a) (hworks : ∀ e ∈ log, V.client.works e)
    (hround : ∀ r ∈ rounds, V.round r) (hheard : ∀ r ∈ rounds, V.server.heardIn r ≠ [])
    (hwired : V.Wired log rounds) : q.Runs (V.server.innerIn rounds.flatten) a := by
  rw [← List.append_nil log] at hwired
  obtain ⟨rounds₁, rounds₂, rfl, hwired₂, hq⟩ := h hrun hworks hround hwired
  obtain rfl := hwired₂.rounds_eq_nil (List.forall_mem_append.1 hheard).2
  rwa [List.append_nil]

end Service

end Hdcp.Library
