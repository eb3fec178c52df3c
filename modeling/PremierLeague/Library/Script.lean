import Mathlib

/-!
# Scripts with output

A script shows outputs one after the other and may raise. What was shown before an exception
stays, and nothing is shown after it.
-/

namespace Tabular

structure Script (ε ω α : Type) where
  shown : List ω
  result : Except ε α
deriving DecidableEq

namespace Script

variable {ε ω α β : Type}

/-- The second script runs when the first has returned, and shows its outputs below. -/
def andThen (x : Script ε ω α) (f : α → Script ε ω β) : Script ε ω β :=
  match x.result with
  | .ok a => ⟨x.shown ++ (f a).shown, (f a).result⟩
  | .error e => ⟨x.shown, .error e⟩

instance : Monad (Script ε ω) where
  pure a := ⟨[], .ok a⟩
  bind := andThen

/-- Shows one output. -/
def emit (w : ω) : Script ε ω Unit := ⟨[w], .ok ()⟩

/-- A computation that shows nothing. -/
def lift (x : Except ε α) : Script ε ω α := ⟨[], x⟩

@[simp] lemma pure_shown (a : α) : (pure a : Script ε ω α).shown = [] := rfl

@[simp] lemma pure_result (a : α) : (pure a : Script ε ω α).result = .ok a := rfl

@[simp] lemma emit_shown (w : ω) : (emit w : Script ε ω Unit).shown = [w] := rfl

@[simp] lemma emit_result (w : ω) : (emit w : Script ε ω Unit).result = .ok () := rfl

@[simp] lemma lift_shown (x : Except ε α) : (lift x : Script ε ω α).shown = [] := rfl

@[simp] lemma lift_result (x : Except ε α) : (lift x : Script ε ω α).result = x := rfl

lemma bind_of_ok {x : Script ε ω α} {a : α} (h : x.result = .ok a) (f : α → Script ε ω β) :
    x >>= f = ⟨x.shown ++ (f a).shown, (f a).result⟩ := by
  change andThen x f = _
  unfold andThen
  rw [h]

lemma bind_of_error {x : Script ε ω α} {e : ε} (h : x.result = .error e) (f : α → Script ε ω β) :
    x >>= f = ⟨x.shown, .error e⟩ := by
  change andThen x f = _
  unfold andThen
  rw [h]

@[simp] lemma pure_bind' (a : α) (f : α → Script ε ω β) : pure a >>= f = f a := rfl

@[simp] lemma lift_ok_bind (a : α) (f : α → Script ε ω β) : lift (.ok a) >>= f = f a := rfl

@[simp] lemma lift_error_bind (e : ε) (f : α → Script ε ω β) :
    lift (.error e) >>= f = lift (.error e) := rfl

instance : LawfulMonad (Script ε ω) := LawfulMonad.mk' (Script ε ω)
  (by
    rintro α ⟨shown, result⟩
    cases result with
    | ok a => exact congrArg (fun l => (⟨l, .ok a⟩ : Script ε ω α)) (List.append_nil shown)
    | error e => rfl)
  (fun a f => rfl)
  (by
    rintro α β γ ⟨shown, result⟩ f g
    cases result with
    | error e => rfl
    | ok a =>
      change andThen ⟨shown ++ (f a).shown, (f a).result⟩ g =
        ⟨shown ++ (andThen (f a) g).shown, (andThen (f a) g).result⟩
      unfold andThen
      cases (f a).result with
      | error e => rfl
      | ok b => simp only [List.append_assoc])

/-! ### Loops -/

variable {f : α → Script ε ω Unit}

lemma forM_cons (a : α) (l : List α) : (a :: l).forM f = f a >>= fun _ => l.forM f := rfl

/-- A loop whose rounds return shows the outputs of all rounds. -/
theorem forM_of_ok {l : List α} (h : ∀ a ∈ l, (f a).result = .ok ()) :
    l.forM f = ⟨l.flatMap (fun a => (f a).shown), .ok ()⟩ := by
  induction l with
  | nil => rfl
  | cons a l ih =>
    rw [forM_cons, bind_of_ok (h a List.mem_cons_self),
      ih (fun b hb => h b (List.mem_cons_of_mem a hb)), List.flatMap_cons]

end Script

end Tabular
