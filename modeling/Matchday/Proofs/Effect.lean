import Mathlib.Data.List.Forall2

/-!
# Computations with a state

A run talks to a client and to a storage, which may have states of their own.  What a computation
gives in every state says what holds whatever they answer.  A state that is passed along beside a
computation does not change what the computation gives.

## Main definitions

* `Gives`: a computation has results of one sort only, whatever the state is.
* `Keeps`: a computation leaves a property of the state as it is.
* `Agree`: two computations with states of their own go hand in hand.
* `aside`: a computation with a state of its own inside another one.

## Main results

* `getElem?_replies_of_cons`: a request is answered in the state that the requests before it leave.
* `Gives.bind`, `Gives.mapM`: what computations give one after another.
* `Keeps.bind_of`, `Keeps.mapM`: what computations keep one after another.
* `Agree.bind`, `Agree.mapM`: computations that go hand in hand one after another.
* `mapM_flatMap`: lists of computations one after another.
* `run_mapM_of_run`: a state beside a list of computations.
* `run_mapM_of_run_append`: what is noted beside a list of computations.
* `run_mapM_replicate`: a state beside a computation that is repeated.
-/

namespace Matchday

variable {α β σ τ : Type}

/-- Two steps that may fail succeed when each of them does. -/
theorem bind_eq_ok_iff {ε : Type} {x : Except ε α} {f : α → Except ε β} {b : β} :
    x >>= f = .ok b ↔ ∃ a, x = .ok a ∧ f a = .ok b := by
  cases x with
  | error e =>
    have hstop : (.error e >>= f) = .error e := rfl
    rw [hstop]
    exact iff_of_false nofun fun ⟨_, h, _⟩ => nomatch h
  | ok a =>
    constructor
    · exact fun h => ⟨a, rfl, h⟩
    · rintro ⟨_, h, hf⟩
      obtain rfl := Except.ok.inj h
      exact hf

/-- **When requests are served one after another, each is answered in the state that the requests
before it leave.** -/
theorem getElem?_replies_of_cons {serve : σ → α → β × σ} {replies : σ → List α → List β}
    (hcons : ∀ s a as, replies s (a :: as) = (serve s a).1 :: replies (serve s a).2 as) (s : σ)
    (earlier later : List α) (a : α) : (replies s (earlier ++ a :: later))[earlier.length]? =
      some (serve (earlier.foldl (fun s a => (serve s a).2) s) a).1 := by
  induction earlier generalizing s with
  | nil =>
    rw [List.nil_append, hcons]
    rfl
  | cons first earlier ih =>
    rw [List.cons_append, hcons]
    exact ih (serve s first).2

/-- A computation that gives results with a property, whatever the state is. -/
def Gives (P : α → Prop) (x : StateM σ α) : Prop :=
  ∀ s, P (x.run s).1

namespace Gives

theorem pure {P : α → Prop} {a : α} (h : P a) : Gives P (Pure.pure a : StateM σ α) :=
  fun _ => h

theorem bind {P : α → Prop} {Q : β → Prop} {x : StateM σ α} {f : α → StateM σ β}
    (hx : Gives P x) (hf : ∀ a, P a → Gives Q (f a)) : Gives Q (x >>= f) := by
  intro s
  rw [StateT.run_bind]
  exact hf _ (hx s) _

theorem trivial (x : StateM σ α) : Gives (fun _ => True) x :=
  fun _ => True.intro

theorem of_run_eq {P : α → Prop} {x : StateM σ α} {a : α} {s s' : σ} (h : Gives P x)
    (hrun : x.run s = (a, s')) : P a := by
  have ha := h s
  rwa [hrun] at ha

/-- The results of a list of computations stand in the same order as the inputs. -/
theorem mapM {R : α → β → Prop} {f : α → StateM σ β} (h : ∀ x, Gives (R x) (f x)) (xs : List α) :
    Gives (List.Forall₂ R xs) (xs.mapM f) := by
  induction xs with
  | nil => exact pure List.Forall₂.nil
  | cons x xs ih =>
    rw [List.mapM_cons]
    exact bind (h x) fun _ hy => bind ih fun _ hys => pure (List.Forall₂.cons hy hys)

theorem mapM_eq {f : α → StateM σ β} {g : α → β} (h : ∀ x, Gives (· = g x) (f x)) (xs : List α) :
    Gives (· = xs.map g) (xs.mapM f) := by
  induction xs with
  | nil => exact pure rfl
  | cons x xs ih =>
    rw [List.mapM_cons]
    exact bind (h x) fun _ hy => bind ih fun _ hys => pure (by rw [hy, hys, List.map_cons])

end Gives

/-- A computation after which the state has a property if it had it before. -/
def Keeps (I : σ → Prop) (x : StateM σ α) : Prop :=
  ∀ s, I s → I (x.run s).2

namespace Keeps

variable {I : σ → Prop}

theorem pure (a : α) : Keeps I (Pure.pure a : StateM σ α) :=
  fun _ h => h

/-- What is known about the first result may be used for what comes next. -/
theorem bind_of {P : α → Prop} {x : StateM σ α} {f : α → StateM σ β} (hx : Keeps I x)
    (hresult : ∀ s, I s → P (x.run s).1) (hf : ∀ a, P a → Keeps I (f a)) : Keeps I (x >>= f) := by
  intro s hs
  rw [StateT.run_bind]
  exact hf _ (hresult s hs) _ (hx s hs)

theorem bind {x : StateM σ α} {f : α → StateM σ β} (hx : Keeps I x) (hf : ∀ a, Keeps I (f a)) :
    Keeps I (x >>= f) :=
  hx.bind_of (P := fun _ => True) (fun _ _ => True.intro) fun a _ => hf a

theorem mapM {f : α → StateM σ β} {xs : List α} (h : ∀ x ∈ xs, Keeps I (f x)) :
    Keeps I (xs.mapM f) := by
  induction xs with
  | nil => exact pure []
  | cons x xs ih =>
    rw [List.forall_mem_cons] at h
    rw [List.mapM_cons]
    exact h.1.bind fun _ => (ih h.2).bind fun _ => pure _

end Keeps

/-- Two computations that give the same result in related states, and leave related states. -/
def Agree (R : σ → τ → Prop) (x : StateM σ α) (y : StateM τ α) : Prop :=
  ∀ s t, R s t → (x.run s).1 = (y.run t).1 ∧ R (x.run s).2 (y.run t).2

namespace Agree

variable {R : σ → τ → Prop}

theorem pure (a : α) : Agree R (Pure.pure a) (Pure.pure a) :=
  fun _ _ h => ⟨rfl, h⟩

theorem bind {x : StateM σ α} {y : StateM τ α} {f : α → StateM σ β} {g : α → StateM τ β}
    (hxy : Agree R x y) (hfg : ∀ a, Agree R (f a) (g a)) : Agree R (x >>= f) (y >>= g) := by
  intro s t h
  obtain ⟨hresult, hstates⟩ := hxy s t h
  rw [StateT.run_bind, StateT.run_bind]
  rcases hx : x.run s with ⟨a, s'⟩
  rcases hy : y.run t with ⟨b, t'⟩
  rw [hx, hy] at hresult hstates
  obtain rfl : a = b := hresult
  exact hfg a s' t' hstates

theorem mapM {f : α → StateM σ β} {g : α → StateM τ β} {xs : List α}
    (h : ∀ x ∈ xs, Agree R (f x) (g x)) : Agree R (xs.mapM f) (xs.mapM g) := by
  induction xs with
  | nil => exact pure []
  | cons x xs ih =>
    rw [List.forall_mem_cons] at h
    rw [List.mapM_cons, List.mapM_cons]
    exact h.1.bind fun _ => (ih h.2).bind fun _ => pure _

/-- A computation that leaves a property of the state as it is goes hand in hand with itself. -/
theorem of_keeps {I : σ → Prop} {x : StateM σ α} (h : Keeps I x) :
    Agree (fun s t => s = t ∧ I s) x x := by
  rintro s _ ⟨rfl, hs⟩
  exact ⟨rfl, rfl, h s hs⟩

end Agree

section Lists

variable {m : Type → Type} [Monad m] [LawfulMonad m] {γ : Type}

theorem map_mapM (f : β → γ) (g : α → m β) (xs : List α) :
    List.map f <$> xs.mapM g = xs.mapM fun x => f <$> g x := by
  induction xs with
  | nil => simp
  | cons x xs ih =>
    rw [List.mapM_cons, List.mapM_cons, ← ih]
    simp only [bind_map_left, map_bind, map_pure, List.map_cons]

/-- Lists of computations one after another are one list of computations. -/
theorem mapM_flatMap (f : β → m γ) (g : α → List β) (xs : List α) :
    (xs.flatMap g).mapM f = List.flatten <$> xs.mapM fun x => (g x).mapM f := by
  induction xs with
  | nil => simp
  | cons x xs ih =>
    rw [List.flatMap_cons, List.mapM_append, ih, List.mapM_cons]
    simp only [bind_map_left, map_bind, map_pure, List.flatten_cons]

end Lists

section Beside

variable {m : Type → Type} [Monad m] [LawfulMonad m]

/-- A list of computations, beside each of which a state changes. -/
theorem run_mapM_of_run {f : α → m β} {g : α → StateT τ m β} {note : τ → α → τ}
    (h : ∀ x t, (g x).run t = (fun y => (y, note t x)) <$> f x) (xs : List α) (t : τ) :
    (xs.mapM g).run t = (fun ys => (ys, xs.foldl note t)) <$> xs.mapM f := by
  induction xs generalizing t with
  | nil => simp
  | cons x xs ih =>
    simp only [List.mapM_cons, StateT.run_bind, h, ih, List.foldl_cons, StateT.run_pure,
      bind_map_left, map_bind, map_pure]

/-- A list of computations, beside which a state stays as it is. -/
theorem run_mapM_of_run_self {f : α → m β} {g : α → StateT τ m β}
    (h : ∀ x t, (g x).run t = (fun y => (y, t)) <$> f x) (xs : List α) (t : τ) :
    (xs.mapM g).run t = (fun ys => (ys, t)) <$> xs.mapM f := by
  have hfold := run_mapM_of_run h xs t
  rwa [List.foldl_fixed] at hfold

/-- A list of computations, beside which the results are noted, one after another. -/
theorem run_mapM_of_run_append {γ : Type} {f : α → m β} {g : α → StateT (List γ) m β}
    {note : β → List γ}
    (h : ∀ x notes, (g x).run notes = (fun y => (y, notes ++ note y)) <$> f x) (xs : List α)
    (notes : List γ) :
    (xs.mapM g).run notes = (fun ys => (ys, notes ++ ys.flatMap note)) <$> xs.mapM f := by
  induction xs generalizing notes with
  | nil => simp
  | cons x xs ih =>
    simp only [List.mapM_cons, StateT.run_bind, h, ih, StateT.run_pure, bind_map_left, map_bind,
      map_pure, List.flatMap_cons, List.append_assoc]

/-- A computation whose result is fixed and whose change of the state beside it is done once and for
all, repeated. -/
theorem run_mapM_replicate {f : α → StateT τ (StateM σ) β} {x : α} {y : β} {change : τ → τ}
    (h : ∀ t s, (((f x).run t).run s).1 = (y, change t))
    (hchange : ∀ t, change (change t) = change t) (n : Nat) (t : τ) (s : σ) :
    ((((List.replicate (n + 1) x).mapM f).run t).run s).1 =
      (List.replicate (n + 1) y, change t) := by
  have hcons (xs : List α) (t : τ) (s : σ) : ((((x :: xs).mapM f).run t).run s).1 =
      (let rest := (((xs.mapM f).run (change t)).run (((f x).run t).run s).2).1
       (y :: rest.1, rest.2)) := by
    have hfirst := h t s
    rw [List.mapM_cons]
    change (let first := ((f x).run t).run s
      let rest := (((xs.mapM f).run first.1.2).run first.2).1
      (first.1.1 :: rest.1, rest.2)) = _
    simp only [hfirst]
  induction n generalizing t s with
  | zero => exact hcons [] t s
  | succ n ih => rw [List.replicate_succ, hcons, ih, hchange, List.replicate_succ (n := n + 1)]

/-- A computation that only changes the state that is passed along beside others. -/
def aside (x : StateM τ α) : StateT τ m α :=
  fun t => pure (x.run t)

omit [LawfulMonad m] in
theorem aside_pure (a : α) : aside (pure a : StateM τ α) = (pure a : StateT τ m α) := rfl

theorem aside_bind (x : StateM τ α) (f : α → StateM τ β) :
    aside (m := m) (x >>= f) = aside x >>= fun a => aside (f a) := by
  funext t
  exact (pure_bind (x.run t) fun p : α × τ => (pure ((f p.1).run p.2) : m _)).symm

theorem aside_mapM (f : α → StateM τ β) (xs : List α) :
    aside (m := m) (xs.mapM f) = xs.mapM fun x => aside (f x) := by
  induction xs with
  | nil => rfl
  | cons x xs ih => simp only [List.mapM_cons, aside_bind, ih, aside_pure]

end Beside

end Matchday
