import Mathlib.Data.List.Basic

/-!
# Finite executions of a partial step function

A system is a partial step function `step : σ → α → Option σ`: the label says
everything the environment chooses, and `none` means that the label is not
enabled.  This file packages the two inductions every safety proof needs:

* `exec_invariant` — what each step preserves, each execution preserves;
* `exec_invariant_along` — the same when every step of the execution meets a
  side condition on the label and the state before it.
-/

namespace Exec

variable {σ α : Type*} (step : σ → α → Option σ)

/-- Perform the labels in order; `none` as soon as one is not enabled. -/
def exec : σ → List α → Option σ
  | s, [] => some s
  | s, a :: as => (step s a).bind fun m => exec m as

/-- Every step of the execution of `as` from `s` meets `ok`, judged in the
state before the step. -/
def Along (ok : σ → α → Prop) : σ → List α → Prop
  | _, [] => True
  | s, a :: as => ok s a ∧ ∀ m, step s a = some m → Along ok m as

/-- `t` is reached from `s` by some execution. -/
def Reached (s t : σ) : Prop := ∃ as, exec step s as = some t

/-- `t` is reached from `s` by an execution whose steps all meet `ok`. -/
def ReachedAlong (ok : σ → α → Prop) (s t : σ) : Prop :=
  ∃ as, exec step s as = some t ∧ Along step ok s as

variable {step}

@[simp] theorem exec_nil (s : σ) : exec step s [] = some s := rfl

@[simp] theorem exec_cons (s : σ) (a : α) (as : List α) :
    exec step s (a :: as) = (step s a).bind fun m => exec step m as := rfl

/-- Peel the first step off a successful execution. -/
theorem exec_cons_some {s t : σ} {a : α} {as : List α}
    (h : exec step s (a :: as) = some t) :
    ∃ m, step s a = some m ∧ exec step m as = some t :=
  Option.bind_eq_some_iff.mp h

/-- Executions compose at the state in between. -/
theorem exec_append (s : σ) (as bs : List α) :
    exec step s (as ++ bs) = (exec step s as).bind fun m => exec step m bs := by
  induction as generalizing s with
  | nil => rfl
  | cons a as ih =>
      simp only [List.cons_append, exec_cons, Option.bind_assoc]
      congr 1
      funext m
      exact ih m

/-- An execution that can be evaluated ends in a state that passes a test. -/
theorem exec_any {s : σ} {as : List α} {p : σ → Bool} (h : (exec step s as).any p = true) :
    ∃ t, exec step s as = some t ∧ p t = true :=
  (Option.any_eq_true _ _).mp h

/-- A side condition on labels alone holds along any list of such labels. -/
theorem along_of_forall {ok : α → Prop} {as : List α} (h : ∀ a ∈ as, ok a) (s : σ) :
    Along step (fun _ a => ok a) s as := by
  induction as generalizing s with
  | nil => trivial
  | cons a as ih =>
      exact ⟨h a List.mem_cons_self, fun m _ => ih (fun b hb => h b (List.mem_cons_of_mem _ hb)) m⟩

/-- Two side conditions that hold along an execution hold together. -/
theorem along_and {P Q : σ → α → Prop} {s : σ} {as : List α} (hP : Along step P s as)
    (hQ : Along step Q s as) : Along step (fun s a => P s a ∧ Q s a) s as := by
  induction as generalizing s with
  | nil => trivial
  | cons a as ih => exact ⟨⟨hP.1, hQ.1⟩, fun m hm => ih (hP.2 m hm) (hQ.2 m hm)⟩

/-- An execution that meets a side condition is an execution. -/
theorem ReachedAlong.reached {ok : σ → α → Prop} {s t : σ} (h : ReachedAlong step ok s t) :
    Reached step s t :=
  h.imp fun _ has => has.1

/-- A side condition that can be tested can be tested along an execution. -/
instance decidableAlong {ok : σ → α → Prop} [∀ s a, Decidable (ok s a)] :
    ∀ (s : σ) (as : List α), Decidable (Along step ok s as)
  | _, [] => .isTrue trivial
  | s, a :: as =>
      match hm : step s a with
      | none => decidable_of_iff (ok s a)
          ⟨fun h => ⟨h, fun m h' => by cases hm.symm.trans h'⟩, And.left⟩
      | some m =>
          have : Decidable (Along step ok m as) := decidableAlong m as
          decidable_of_iff (ok s a ∧ Along step ok m as)
            ⟨fun h => ⟨h.1, fun m' h' => Option.some.inj (hm.symm.trans h') ▸ h.2⟩,
              fun h => ⟨h.1, h.2 m hm⟩⟩

/-- **Conditional run rule.**  An invariant preserved by every step that
meets `ok` holds at the end of an execution all of whose steps meet it. -/
theorem exec_invariant_along {ok : σ → α → Prop} {Inv : σ → Prop}
    (hstep : ∀ s a t, Inv s → ok s a → step s a = some t → Inv t)
    {s t : σ} {as : List α} (hs : Inv s) (hok : Along step ok s as)
    (h : exec step s as = some t) : Inv t := by
  induction as generalizing s with
  | nil =>
      obtain rfl : s = t := by simpa using h
      exact hs
  | cons a as ih =>
      obtain ⟨m, hm, ht⟩ := exec_cons_some h
      exact ih (hstep s a m hs hok.1 hm) (hok.2 m hm) ht

/-- **Run rule.**  What each step preserves, each execution preserves. -/
theorem exec_invariant {Inv : σ → Prop}
    (hstep : ∀ s a t, Inv s → step s a = some t → Inv t)
    {s t : σ} {as : List α} (hs : Inv s)
    (h : exec step s as = some t) : Inv t := by
  induction as generalizing s with
  | nil =>
      obtain rfl : s = t := by simpa using h
      exact hs
  | cons a as ih =>
      obtain ⟨m, hm, ht⟩ := exec_cons_some h
      exact ih (hstep s a m hs hm) ht

/-- Two side conditions that agree in the states of an invariant, on the labels
of the execution, hold along the same executions; the steps that meet the first
keep the invariant. -/
theorem along_congr {P Q : σ → α → Prop} (ok : α → Prop) (Inv : σ → Prop)
    (hstep : ∀ s a t, Inv s → ok a → P s a → step s a = some t → Inv t)
    (hPQ : ∀ s a, Inv s → ok a → (P s a ↔ Q s a))
    {s : σ} {as : List α} (hs : Inv s) (hok : ∀ a ∈ as, ok a) :
    Along step P s as ↔ Along step Q s as := by
  induction as generalizing s with
  | nil => exact Iff.rfl
  | cons a as ih =>
      have ha : ok a := hok a List.mem_cons_self
      have htail : ∀ m, P s a → step s a = some m → (Along step P m as ↔ Along step Q m as) :=
        fun m hP hm =>
          ih (hstep s a m hs ha hP hm) fun b hb => hok b (List.mem_cons_of_mem _ hb)
      constructor
      · rintro ⟨hP, h⟩
        exact ⟨(hPQ s a hs ha).mp hP, fun m hm => (htail m hP hm).mp (h m hm)⟩
      · rintro ⟨hQ, h⟩
        have hP : P s a := (hPQ s a hs ha).mpr hQ
        exact ⟨hP, fun m hm => (htail m hP hm).mpr (h m hm)⟩

/-- One more step. -/
theorem Reached.tail {s t u : σ} {a : α} (h : Reached step s t) (hstep : step t a = some u) :
    Reached step s u := by
  obtain ⟨as, has⟩ := h
  refine ⟨as ++ [a], ?_⟩
  rw [exec_append, has, Option.bind_some, exec_cons, hstep]
  rfl

/-- Executions compose. -/
theorem Reached.trans {s t u : σ} (h : Reached step s t) (h' : Reached step t u) :
    Reached step s u := by
  obtain ⟨as, has⟩ := h
  obtain ⟨bs, hbs⟩ := h'
  exact ⟨as ++ bs, by rw [exec_append, has, Option.bind_some, hbs]⟩

/-- The run rule for reached states. -/
theorem Reached.invariant {s t : σ} (h : Reached step s t) (Inv : σ → Prop) (hs : Inv s)
    (hstep : ∀ s a t, Inv s → step s a = some t → Inv t) : Inv t := by
  obtain ⟨as, has⟩ := h
  exact exec_invariant hstep hs has

/-- The conditional run rule for reached states. -/
theorem ReachedAlong.invariant {ok : σ → α → Prop} {s t : σ}
    (h : ReachedAlong step ok s t) (Inv : σ → Prop) (hs : Inv s)
    (hstep : ∀ s a t, Inv s → ok s a → step s a = some t → Inv t) : Inv t := by
  obtain ⟨as, has, hok⟩ := h
  exact exec_invariant_along hstep hs hok has

end Exec
