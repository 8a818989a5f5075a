/-
Dialogues of two parties over a connection.

A dialogue says, letter by letter, who writes next: the client asks, the server replies, and
what is written decides how the dialogue goes on.  Neither party sees the dialogue: each of
them knows its *talk*, what it has written and read itself, and the connection carries what
one of them has written and the other one has not read yet.

When both parties keep to the dialogue, what one of them has said is what the other one has
heard and what is under way.  Only one direction is ever in use, and when the dialogue is
over, nothing is left on the connection (`Link.InStep`).
-/
import Mathlib.Data.List.Basic
import Mathlib.Logic.Function.Basic

namespace Hdcp.Library

/-- Who writes. -/
inductive Turn where
  | ask
  | reply
deriving DecidableEq, Repr

/-- What a party has written and read, in this order. -/
abbrev Talk (α : Type) : Type := List (Turn × α)

def asks {α : Type} (l : List α) : Talk α := l.map fun a => (Turn.ask, a)

def replies {α : Type} (l : List α) : Talk α := l.map fun a => (Turn.reply, a)

/-- A dialogue; `never` is where it is after something that it does not allow. -/
inductive Dialogue (α : Type) where
  | done
  | never
  | ask (k : α → Dialogue α)
  | reply (k : α → Dialogue α)

namespace Dialogue

variable {α : Type} {d : Dialogue α} {t : Talk α} {l l' : List α} {n : ℕ}
  {K : List α → Dialogue α}

lemma done_ne_never : (done : Dialogue α) ≠ never := nofun

/-- Where the dialogue is after a letter. -/
def say : Dialogue α → Turn → α → Dialogue α
  | ask k, .ask, a => k a
  | reply k, .reply, a => k a
  | _, _, _ => never

/-- Where the dialogue is after a talk. -/
def walk : Dialogue α → Talk α → Dialogue α
  | d, [] => d
  | d, x :: t => (d.say x.1 x.2).walk t

@[simp] lemma walk_nil : d.walk [] = d := rfl

lemma never_say (turn : Turn) (a : α) : (never : Dialogue α).say turn a = never := by
  cases turn <;> rfl

lemma done_say (turn : Turn) (a : α) : (done : Dialogue α).say turn a = never := by
  cases turn <;> rfl

@[simp] lemma never_walk : (never : Dialogue α).walk t = never := by
  induction t with
  | nil => rfl
  | cons x t ih => rw [walk, never_say, ih]

lemma done_walk (ht : t ≠ []) : (done : Dialogue α).walk t = never := by
  cases t with
  | nil => exact absurd rfl ht
  | cons x t => rw [walk, done_say, never_walk]

lemma walk_append (d : Dialogue α) (t u : Talk α) : d.walk (t ++ u) = (d.walk t).walk u := by
  induction t generalizing d with
  | nil => rfl
  | cons x t ih => exact ih (d.say x.1 x.2)

lemma walk_ne_never_of_append {u : Talk α} (h : d.walk (t ++ u) ≠ never) : d.walk t ≠ never := by
  intro ht
  rw [walk_append, ht, never_walk] at h
  exact h rfl

/-- A dialogue does not come back to where it was. -/
lemma walk_ne_self (ht : t ≠ []) (hd : d ≠ never) : d.walk t ≠ d := by
  -- coming back would lead on from the next letter to where this letter led
  have hnext {d : Dialogue α} (hd : d ≠ never) (x : Turn × α) (t : Talk α)
      (ih : ∀ t ≠ [], d.say x.1 x.2 ≠ never → (d.say x.1 x.2).walk t ≠ d.say x.1 x.2) :
      d.walk (x :: t) ≠ d := by
    intro heq
    have hsay : d.say x.1 x.2 ≠ never := by
      intro hnever
      rw [walk, hnever, never_walk] at heq
      exact hd heq.symm
    refine ih (t ++ [x]) (by simp) hsay ?_
    have hback : (d.say x.1 x.2).walk t = d := heq
    rw [walk_append, hback]
    rfl
  obtain ⟨x, t, rfl⟩ := List.exists_cons_of_ne_nil ht
  clear ht
  induction d generalizing x t with
  | done =>
      rw [done_walk (by simp)]
      exact nofun
  | never => exact absurd rfl hd
  | ask k ih =>
      obtain ⟨turn, a⟩ := x
      refine hnext hd _ t fun t ht hk => ?_
      obtain ⟨x, t, rfl⟩ := List.exists_cons_of_ne_nil ht
      cases turn with
      | ask => exact ih a hk x t
      | reply => exact absurd rfl hk
  | reply k ih =>
      obtain ⟨turn, a⟩ := x
      refine hnext hd _ t fun t ht hk => ?_
      obtain ⟨x, t, rfl⟩ := List.exists_cons_of_ne_nil ht
      cases turn with
      | ask => exact absurd rfl hk
      | reply => exact ih a hk x t

/-- The client is to write. -/
def Asks : Dialogue α → Prop
  | ask _ => True
  | _ => False

/-- The server is to write. -/
def Replies : Dialogue α → Prop
  | reply _ => True
  | _ => False

lemma asks_of_walk (h : d.walk (Library.asks l) ≠ never) (hl : l ≠ []) : d.Asks := by
  obtain ⟨a, l, rfl⟩ := List.exists_cons_of_ne_nil hl
  cases d with
  | ask k => trivial
  | done | never | reply k => exact absurd never_walk h

lemma replies_of_walk (h : d.walk (Library.replies l) ≠ never) (hl : l ≠ []) : d.Replies := by
  obtain ⟨a, l, rfl⟩ := List.exists_cons_of_ne_nil hl
  cases d with
  | reply k => trivial
  | done | never | ask k => exact absurd never_walk h

lemma Asks.not_replies (h : d.Asks) : ¬d.Replies := by
  cases d with
  | ask k => exact id
  | done | never | reply k => exact h.elim

lemma Replies.ne_done (h : d.Replies) : d ≠ done := by
  rintro rfl
  exact h

lemma Replies.ne_never (h : d.Replies) : d ≠ never := by
  rintro rfl
  exact h

lemma Asks.ne_never (h : d.Asks) : d ≠ never := by
  rintro rfl
  exact h

lemma Asks.ne_done (h : d.Asks) : d ≠ done := by
  rintro rfl
  exact h

/-! ### Phases -/

/-- The client writes `n` letters. -/
def askMany : ℕ → (List α → Dialogue α) → Dialogue α
  | 0, K => K []
  | n + 1, K => ask fun a => askMany n fun l => K (a :: l)

/-- The server writes `n` letters. -/
def replyMany : ℕ → (List α → Dialogue α) → Dialogue α
  | 0, K => K []
  | n + 1, K => reply fun a => replyMany n fun l => K (a :: l)

@[simp] lemma askMany_zero : askMany 0 K = K [] := rfl

@[simp] lemma replyMany_zero : replyMany 0 K = K [] := rfl

lemma asks_askMany (hn : 0 < n) : (askMany n K).Asks := by
  cases n with
  | zero => exact absurd hn (by simp)
  | succ n => trivial

lemma replies_replyMany (hn : 0 < n) : (replyMany n K).Replies := by
  cases n with
  | zero => exact absurd hn (by simp)
  | succ n => trivial

lemma askMany_ne_never (h : ∀ l, K l ≠ never) (n : ℕ) : askMany n K ≠ never := by
  cases n with
  | zero => exact h []
  | succ n => exact nofun

lemma replyMany_ne_never (h : ∀ l, K l ≠ never) (n : ℕ) : replyMany n K ≠ never := by
  cases n with
  | zero => exact h []
  | succ n => exact nofun

lemma walk_askMany (h : l.length ≤ n) :
    (askMany n K).walk (Library.asks l) = askMany (n - l.length) fun l' => K (l ++ l') := by
  induction l generalizing n K with
  | nil => exact walk_nil
  | cons a l ih =>
      cases n with
      | zero => exact absurd h (by simp)
      | succ n =>
          have hrest := ih (K := fun l' => K (a :: l')) (Nat.le_of_succ_le_succ h)
          rw [List.length_cons, Nat.add_sub_add_right]
          exact hrest

lemma walk_replyMany (h : l.length ≤ n) :
    (replyMany n K).walk (Library.replies l) =
      replyMany (n - l.length) fun l' => K (l ++ l') := by
  induction l generalizing n K with
  | nil => exact walk_nil
  | cons a l ih =>
      cases n with
      | zero => exact absurd h (by simp)
      | succ n =>
          have hrest := ih (K := fun l' => K (a :: l')) (Nat.le_of_succ_le_succ h)
          rw [List.length_cons, Nat.add_sub_add_right]
          exact hrest

/-- A dialogue that is over has gone through the phase it began with. -/
lemma askMany_over (h : (askMany n K).walk t = done) :
    ∃ l u, t = Library.asks l ++ u ∧ l.length = n ∧ (K l).walk u = done := by
  induction n generalizing K t with
  | zero => exact ⟨[], t, rfl, rfl, h⟩
  | succ n ih =>
      cases t with
      | nil => exact absurd h nofun
      | cons x t =>
          obtain ⟨turn, a⟩ := x
          cases turn with
          | reply => exact absurd (never_walk.symm.trans h) nofun
          | ask =>
              obtain ⟨l, u, rfl, rfl, hrest⟩ := ih h
              exact ⟨a :: l, u, rfl, rfl, hrest⟩

lemma replyMany_over (h : (replyMany n K).walk t = done) :
    ∃ l u, t = Library.replies l ++ u ∧ l.length = n ∧ (K l).walk u = done := by
  induction n generalizing K t with
  | zero => exact ⟨[], t, rfl, rfl, h⟩
  | succ n ih =>
      cases t with
      | nil => exact absurd h nofun
      | cons x t =>
          obtain ⟨turn, a⟩ := x
          cases turn with
          | ask => exact absurd (never_walk.symm.trans h) nofun
          | reply =>
              obtain ⟨l, u, rfl, rfl, hrest⟩ := ih h
              exact ⟨a :: l, u, rfl, rfl, hrest⟩

/-- A dialogue in which the server has the last word. -/
def Replied : Dialogue α → Prop
  | ask k => ∀ a, k a ≠ done ∧ (k a).Replied
  | reply k => ∀ a, (k a).Replied
  | done | never => True

lemma Replied.say (h : d.Replied) (turn : Turn) (a : α) : (d.say turn a).Replied := by
  cases d with
  | done => rw [done_say]; trivial
  | never => rw [never_say]; trivial
  | ask k =>
      cases turn with
      | ask => exact (h a).2
      | reply => trivial
  | reply k =>
      cases turn with
      | ask => trivial
      | reply => exact h a

lemma Replied.walk (h : d.Replied) (t : Talk α) : (d.walk t).Replied := by
  induction t generalizing d with
  | nil => exact h
  | cons x t ih => exact ih (h.say x.1 x.2)

lemma Replied.say_ask_ne_done (h : d.Replied) (a : α) : d.say .ask a ≠ done := by
  cases d with
  | ask k => exact (h a).1
  | done | never | reply k => exact nofun

lemma Replied.walk_asks_ne_done (h : d.Replied) (hl : l ≠ []) :
    d.walk (Library.asks l) ≠ done := by
  induction l generalizing d with
  | nil => exact absurd rfl hl
  | cons a l ih =>
      by_cases hrest : l = []
      · subst hrest
        exact h.say_ask_ne_done a
      · exact ih (h.say .ask a) hrest

lemma askMany_replied (h : ∀ l, K l ≠ done ∧ (K l).Replied) (n : ℕ) :
    askMany n K ≠ done ∧ (askMany n K).Replied := by
  induction n generalizing K with
  | zero => exact h []
  | succ n ih => exact ⟨nofun, fun a => ih fun l => h (a :: l)⟩

lemma replyMany_replied (h : ∀ l, (K l).Replied) (n : ℕ) : (replyMany n K).Replied := by
  induction n generalizing K with
  | zero => exact h []
  | succ n ih => exact fun a => ih fun l => h (a :: l)

/-- After the end, the dialogue `start` begins again. -/
def again (start : Dialogue α) : Dialogue α → Dialogue α
  | done => start
  | d => d

@[simp] lemma again_done (start : Dialogue α) : again start done = start := rfl

lemma again_of_ne {start : Dialogue α} (h : d ≠ done) : again start d = d := by
  cases d with
  | done => exact absurd rfl h
  | never | ask k | reply k => rfl

lemma again_again {start : Dialogue α} (h : start ≠ done) (d : Dialogue α) :
    again start (again start d) = again start d := by
  cases d with
  | done => rw [again_done, again_of_ne h]
  | never | ask k | reply k => rfl

end Dialogue

/-! ### A connection between two parties -/

/-- A connection, with the talks of both parties. -/
structure Link (α : Type) where
  client : Talk α
  server : Talk α
  toServer : List α
  toClient : List α

namespace Link

open Dialogue

variable {α : Type} {d : Dialogue α} {c s : Talk α} {up down l : List α}

/-- Both parties keep to the dialogue, and differ by what is under way in one direction. -/
structure InStep (d : Dialogue α) (x : Link α) : Prop where
  client_ok : d.walk x.client ≠ never
  server_ok : d.walk x.server ≠ never
  under_way : x.toServer = [] ∧ x.server = x.client ++ replies x.toClient ∨
    x.toClient = [] ∧ x.client = x.server ++ asks x.toServer

lemma InStep.start (h : d ≠ never) : InStep d ⟨[], [], [], []⟩ where
  client_ok := by rwa [walk_nil]
  server_ok := by rwa [walk_nil]
  under_way := .inl ⟨rfl, rfl⟩

/-- The client writes: what the server has written was read before. -/
lemma InStep.clientSend (h : InStep d ⟨c, s, up, down⟩) (hl : l ≠ [])
    (hok : d.walk (c ++ asks l) ≠ never) : InStep d ⟨c ++ asks l, s, up ++ l, down⟩ := by
  refine ⟨hok, h.server_ok, .inr ?_⟩
  rcases h.under_way with ⟨hup, hserver⟩ | ⟨hdown, hclient⟩
  · -- the client is to write, so that the server has not written
    have hasks : (d.walk c).Asks := by
      rw [walk_append] at hok
      exact asks_of_walk hok hl
    have hdown : down = [] := by
      by_contra hne
      have hserver_ok := h.server_ok
      rw [hserver, walk_append] at hserver_ok
      exact hasks.not_replies (replies_of_walk hserver_ok hne)
    obtain rfl : up = [] := hup
    obtain rfl := hdown
    obtain rfl : s = c := by simpa [replies] using hserver
    exact ⟨rfl, rfl⟩
  · obtain rfl : c = s ++ asks up := hclient
    exact ⟨hdown, by simp [asks]⟩

/-- The server writes. -/
lemma InStep.serverSend (h : InStep d ⟨c, s, up, down⟩) (hl : l ≠ [])
    (hok : d.walk (s ++ replies l) ≠ never) : InStep d ⟨c, s ++ replies l, up, down ++ l⟩ := by
  refine ⟨h.client_ok, hok, .inl ?_⟩
  rcases h.under_way with ⟨hup, hserver⟩ | ⟨hdown, hclient⟩
  · obtain rfl : s = c ++ replies down := hserver
    exact ⟨hup, by simp [replies]⟩
  · have hreplies : (d.walk s).Replies := by
      rw [walk_append] at hok
      exact replies_of_walk hok hl
    have hup : up = [] := by
      by_contra hne
      have hclient_ok := h.client_ok
      rw [hclient, walk_append] at hclient_ok
      exact (asks_of_walk hclient_ok hne).not_replies hreplies
    obtain rfl : down = [] := hdown
    obtain rfl := hup
    obtain rfl : c = s := by simpa [asks] using hclient
    exact ⟨rfl, rfl⟩

/-- The client reads something that is under way. -/
lemma InStep.clientRead (h : InStep d ⟨c, s, up, l ++ down⟩) (hl : l ≠ []) :
    InStep d ⟨c ++ replies l, s, up, down⟩ := by
  rcases h.under_way with ⟨hup, hserver⟩ | ⟨hdown, -⟩
  · have hsplit : s = (c ++ replies l) ++ replies down := by
      simpa [replies] using hserver
    refine ⟨?_, h.server_ok, .inl ⟨hup, hsplit⟩⟩
    have hserver_ok := h.server_ok
    rw [hsplit] at hserver_ok
    exact walk_ne_never_of_append hserver_ok
  · exact absurd (List.append_eq_nil_iff.1 hdown).1 hl

/-- The server reads something that is under way. -/
lemma InStep.serverRead (h : InStep d ⟨c, s, l ++ up, down⟩) (hl : l ≠ []) :
    InStep d ⟨c, s ++ asks l, up, down⟩ := by
  rcases h.under_way with ⟨hup, -⟩ | ⟨hdown, hclient⟩
  · exact absurd (List.append_eq_nil_iff.1 hup).1 hl
  · have hsplit : c = (s ++ asks l) ++ asks up := by
      simpa [asks] using hclient
    refine ⟨h.client_ok, ?_, .inr ⟨hdown, hsplit⟩⟩
    have hclient_ok := h.client_ok
    rw [hsplit] at hclient_ok
    exact walk_ne_never_of_append hclient_ok

/-- When the dialogue is over for the client, it is over. -/
lemma InStep.finish {x : Link α} (h : InStep d x) (hreplied : d.Replied)
    (hdone : d.walk x.client = done) :
    x.server = x.client ∧ x.toServer = [] ∧ x.toClient = [] := by
  rcases h.under_way with ⟨hup, hserver⟩ | ⟨hdown, hclient⟩
  · have hdown : x.toClient = [] := by
      by_contra hne
      have hserver_ok := h.server_ok
      rw [hserver, walk_append, hdone, done_walk (by simpa [replies] using hne)] at hserver_ok
      exact hserver_ok rfl
    exact ⟨by rw [hserver, hdown]; simp [replies], hup, hdown⟩
  · have hup : x.toServer = [] := by
      by_contra hne
      rw [hclient, walk_append] at hdone
      exact (hreplied.walk x.server).walk_asks_ne_done hne hdone
    exact ⟨by rw [hclient, hup]; simp [asks], hup, hdown⟩

/-- As long as the client, whose turn it is, has not begun, nobody has. -/
lemma InStep.not_begun {x : Link α} (h : InStep d x) (hasks : d.Asks) (hclient : x.client = []) :
    x.server = [] ∧ x.toServer = [] ∧ x.toClient = [] := by
  rcases h.under_way with ⟨hup, hserver⟩ | ⟨hdown, hserver⟩
  · rw [hclient, List.nil_append] at hserver
    have hdown : x.toClient = [] := by
      by_contra hne
      have hserver_ok := h.server_ok
      rw [hserver] at hserver_ok
      exact hasks.not_replies (replies_of_walk hserver_ok hne)
    exact ⟨by rw [hserver, hdown]; rfl, hup, hdown⟩
  · rw [hclient] at hserver
    obtain ⟨hserver, hup⟩ := List.append_eq_nil_iff.1 hserver.symm
    exact ⟨hserver, by simpa [asks] using hup, hdown⟩

/-- With nothing under way, both parties know the same. -/
lemma InStep.eq_of_quiet {x : Link α} (h : InStep d x) (hup : x.toServer = [])
    (hdown : x.toClient = []) : x.server = x.client := by
  rcases h.under_way with ⟨-, hserver⟩ | ⟨-, hclient⟩
  · rw [hserver, hdown]
    simp [replies]
  · rw [hclient, hup]
    simp [asks]

end Link

end Hdcp.Library
