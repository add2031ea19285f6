/-
Outcomes of computations in steps. When a computation succeeds, each of its steps has succeeded; when
it fails, one step has failed after all steps before it succeeded. A state, such as the log, is handed
from one step to the next in either case. What every step answers and every invariant that it keeps
is answered and kept by the whole.
-/
import CatchAudit.Log
import Mathlib.Tactic

namespace CatchAudit

/-! ## Computations without a state -/

theorem bind_ok {ε α β : Type} {x : Except ε α} {f : α → Except ε β} {b : β} (h : (x >>= f) = .ok b) :
    ∃ a, x = .ok a ∧ f a = .ok b := by
  cases x with
  | error e => cases h
  | ok a => exact ⟨a, rfl, h⟩

/-- A result satisfies `Q`, an error satisfies `P`. -/
def Answers {ε α : Type} (P : ε → Prop) (Q : α → Prop) : Except ε α → Prop
  | .ok a => Q a
  | .error e => P e

theorem Answers.bind {ε α β : Type} {P : ε → Prop} {Q : α → Prop} {R : β → Prop} {x : Except ε α}
    {f : α → Except ε β} (hx : Answers P Q x) (hf : ∀ a, Q a → Answers P R (f a)) : Answers P R (x >>= f) := by
  cases x with
  | error e => exact hx
  | ok a => exact hf a hx

theorem Answers.mono {ε α : Type} {P : ε → Prop} {Q R : α → Prop} {x : Except ε α} (hx : Answers P Q x)
    (hQR : ∀ a, Q a → R a) : Answers P R x := by
  cases x with
  | error e => exact hx
  | ok a => exact hQR a hx

theorem ok_of_toOption {ε α : Type} {x : Except ε α} {a : α} (h : x.toOption = some a) : x = .ok a := by
  cases x with
  | error e => cases h
  | ok b =>
    cases h
    rfl

/-- The computation has a result. -/
def Succeeds {ε α : Type} (x : Except ε α) : Prop := ∃ a, x = .ok a

theorem succeeds_ok {ε α : Type} (a : α) : Succeeds (.ok a : Except ε α) := ⟨a, rfl⟩

instance {ε α : Type} (x : Except ε α) : Decidable (Succeeds x) :=
  match x with
  | .ok a => isTrue ⟨a, rfl⟩
  | .error _ => isFalse fun h => by obtain ⟨a, h⟩ := h; cases h

theorem Succeeds.bind {ε α β : Type} {x : Except ε α} {f : α → Except ε β} (hx : Succeeds x)
    (hf : ∀ a, x = .ok a → Succeeds (f a)) : Succeeds (x >>= f) := by
  obtain ⟨a, rfl⟩ := hx
  exact hf a rfl

theorem succeeds_mapM_iff {ε α β : Type} {f : α → Except ε β} {xs : List α} :
    Succeeds (xs.mapM f) ↔ ∀ x ∈ xs, Succeeds (f x) := by
  induction xs with
  | nil => simp [Succeeds, pure, Except.pure]
  | cons x rest ih =>
    rw [List.mapM_cons, List.forall_mem_cons, ← ih]
    constructor
    · rintro ⟨ys, hys⟩
      obtain ⟨y, hy, hys⟩ := bind_ok hys
      obtain ⟨zs, hzs, -⟩ := bind_ok hys
      exact ⟨⟨y, hy⟩, ⟨zs, hzs⟩⟩
    · rintro ⟨hx, hrest⟩
      exact hx.bind fun _ _ => hrest.bind fun _ _ => succeeds_ok _

theorem forall₂_of_mapM_ok {ε α β : Type} {f : α → Except ε β} : ∀ {xs : List α} {ys : List β}, xs.mapM f = .ok ys →
    List.Forall₂ (fun x y => f x = .ok y) xs ys
  | [], ys, h => by
    cases h
    exact .nil
  | x :: xs, ys, h => by
    rw [List.mapM_cons] at h
    obtain ⟨y, hy, h⟩ := bind_ok h
    obtain ⟨rest, hrest, h⟩ := bind_ok h
    cases h
    exact .cons hy (forall₂_of_mapM_ok hrest)

theorem exists_of_mapM_ok {ε α β : Type} {f : α → Except ε β} {xs : List α} {ys : List β} {y : β}
    (h : xs.mapM f = .ok ys) (hy : y ∈ ys) : ∃ x ∈ xs, f x = .ok y := by
  induction xs generalizing ys with
  | nil =>
    cases h
    cases hy
  | cons x rest ih =>
    rw [List.mapM_cons] at h
    obtain ⟨first, hfirst, h⟩ := bind_ok h
    obtain ⟨others, hothers, h⟩ := bind_ok h
    cases h
    rcases List.mem_cons.1 hy with rfl | hy
    · exact ⟨x, List.mem_cons_self, hfirst⟩
    · obtain ⟨x', hx', hy⟩ := ih hothers hy
      exact ⟨x', List.mem_cons_of_mem _ hx', hy⟩

/-- Two computations, neither of which needs the result of the other. -/
theorem succeeds_both_iff {ε α β γ : Type} {x : Except ε α} {y : Except ε β} {f : α → β → γ} :
    Succeeds (x >>= fun a => y >>= fun b => .ok (f a b)) ↔ Succeeds x ∧ Succeeds y := by
  constructor
  · rintro ⟨c, h⟩
    obtain ⟨a, ha, h⟩ := bind_ok h
    obtain ⟨b, hb, -⟩ := bind_ok h
    exact ⟨⟨a, ha⟩, ⟨b, hb⟩⟩
  · rintro ⟨hx, hy⟩
    exact hx.bind fun _ _ => hy.bind fun _ _ => succeeds_ok _

/-- The computation ends with the error `e` where `C` holds, and with a result where it does not. -/
structure FailsIff {ε α : Type} (C : Prop) (e : ε) (x : Except ε α) : Prop where
  error : C → x = .error e
  result : ¬ C → Succeeds x

namespace FailsIff

variable {ε α β : Type} {C D : Prop} {e : ε} {x : Except ε α}

theorem never (hC : ¬ C) (h : Succeeds x) : FailsIff C e x := ⟨fun h => absurd h hC, fun _ => h⟩

theorem congr (h : FailsIff C e x) (hCD : C ↔ D) : FailsIff D e x :=
  ⟨fun hD => h.error (hCD.2 hD), fun hD => h.result (mt hCD.1 hD)⟩

theorem bind {f : α → Except ε β} (hx : FailsIff C e x) (hf : ∀ a, x = .ok a → FailsIff D e (f a)) :
    FailsIff (C ∨ D) e (x >>= f) := by
  by_cases hC : C
  · rw [hx.error hC]
    exact ⟨fun _ => rfl, fun h => absurd (.inl hC) h⟩
  · obtain ⟨a, rfl⟩ := hx.result hC
    exact (hf a rfl).congr (or_iff_right hC).symm

theorem succeeds_iff (h : FailsIff C e x) : Succeeds x ↔ ¬ C := by
  refine ⟨?_, h.result⟩
  rintro ⟨a, ha⟩ hC
  rw [h.error hC] at ha
  cases ha

/-- There is no other error than the `e` of `FailsIff`. -/
theorem eq_of_error (h : FailsIff C e x) {e' : ε} (he : x = .error e') : e' = e := by
  by_cases hC : C
  · rw [h.error hC] at he
    cases he
    rfl
  · obtain ⟨a, ha⟩ := h.result hC
    rw [ha] at he
    cases he

end FailsIff

/-- A comparison of outcomes that goes step by step through two computations. -/
structure Stepwise {ε : Type} (R : (α : Type) → Except ε α → Except ε α → Prop) : Prop where
  refl : ∀ {α : Type} (x : Except ε α), R α x x
  bind : ∀ {α β : Type} {x y : Except ε α} {f g : α → Except ε β}, R α x y →
    (∀ a, x = .ok a → R β (f a) (g a)) → R β (x >>= f) (y >>= g)

theorem stepwise_eq {ε : Type} : Stepwise fun (α : Type) (x y : Except ε α) => x = y := by
  refine ⟨fun _ => rfl, ?_⟩
  rintro α β x y f g rfl hfg
  cases x with
  | error e => rfl
  | ok a => exact hfg a rfl

/-- The second computation gives every result that the first one gives: a `Stepwise` comparison. -/
theorem stepwise_ok {ε : Type} : Stepwise fun (α : Type) (x y : Except ε α) => ∀ a, x = .ok a → y = .ok a := by
  refine ⟨fun _ _ h => h, ?_⟩
  intro α β x y f g hxy hfg b h
  obtain ⟨a, ha, hb⟩ := bind_ok h
  rw [hxy a ha]
  exact hfg a ha b hb

/-- Both outcomes are the same error, or both are results, which `R` relates. -/
def Agree {ε α β : Type} (R : α → β → Prop) : Except ε α → Except ε β → Prop
  | .ok a, .ok b => R a b
  | .error e, .error e' => e = e'
  | _, _ => False

namespace Agree

variable {ε α β γ δ : Type} {R : α → β → Prop} {S : γ → δ → Prop} {x : Except ε α} {y : Except ε β}

protected theorem bind {f : α → Except ε γ} {g : β → Except ε δ} (h : Agree R x y)
    (hfg : ∀ a b, R a b → Agree S (f a) (g b)) : Agree S (x >>= f) (y >>= g) := by
  cases x <;> cases y
  · exact h
  · exact h.elim
  · exact h.elim
  · exact hfg _ _ h

theorem bind_eq {f : α → Except ε γ} {g : β → Except ε γ} (h : Agree R x y) (hfg : ∀ a b, R a b → f a = g b) :
    (x >>= f) = (y >>= g) := by
  cases x <;> cases y
  · exact congrArg Except.error h
  · exact h.elim
  · exact h.elim
  · exact hfg _ _ h

theorem mono {R' : α → β → Prop} (h : Agree R x y) (hRR' : ∀ a b, R a b → R' a b) : Agree R' x y := by
  cases x <;> cases y
  · exact h
  · exact h
  · exact h
  · exact hRR' _ _ h

theorem of_eq {z : Except ε α} (h : x = z) : Agree Eq x z := by
  subst h
  cases x
  · exact rfl
  · exact rfl

end Agree

/-- Where the first computation gives a result, the second one gives a related result. -/
def Yields {ε α β : Type} (R : α → β → Prop) (x : Except ε α) (y : Except ε β) : Prop :=
  ∀ a, x = .ok a → ∃ b, y = .ok b ∧ R a b

theorem Yields.ok {ε α β : Type} {R : α → β → Prop} {a : α} {b : β} (h : R a b) :
    Yields R (.ok a : Except ε α) (.ok b : Except ε β) := by
  rintro _ ⟨⟩
  exact ⟨b, rfl, h⟩

theorem Yields.bind {ε α β γ δ : Type} {R : α → β → Prop} {S : γ → δ → Prop} {x : Except ε α} {y : Except ε β}
    {f : α → Except ε γ} {g : β → Except ε δ} (h : Yields R x y) (hfg : ∀ a b, R a b → Yields S (f a) (g b)) :
    Yields S (x >>= f) (y >>= g) := by
  intro c hc
  obtain ⟨a, ha, hfa⟩ := bind_ok hc
  obtain ⟨b, hb, hab⟩ := h a ha
  obtain ⟨c', hc', hcc'⟩ := hfg a b hab c hfa
  refine ⟨c', ?_, hcc'⟩
  rw [hb]
  exact hc'

/-! ## Computations with a state -/

section State

variable {ε σ α β : Type} {s s' : σ}

theorem run_bind (x : ExceptT ε (StateM σ) α) (f : α → ExceptT ε (StateM σ) β) (s : σ) :
    (x >>= f).run s = match x.run s with
      | (.ok a, mid) => (f a).run mid
      | (.error e, mid) => (.error e, mid) := by
  show (ExceptT.bind x f).run s = _
  simp only [ExceptT.bind, ExceptT.run, ExceptT.mk, ExceptT.bindCont, bind, StateT.bind]
  rcases x s with ⟨_ | _, _⟩ <;> rfl

theorem run_bind_ok {x : ExceptT ε (StateM σ) α} {f : α → ExceptT ε (StateM σ) β} {b : β}
    (h : (x >>= f).run s = (.ok b, s')) : ∃ a mid, x.run s = (.ok a, mid) ∧ (f a).run mid = (.ok b, s') := by
  rw [run_bind] at h
  rcases hx : x.run s with ⟨e | a, mid⟩ <;> rw [hx] at h
  · cases h
  · exact ⟨a, mid, rfl, h⟩

theorem run_pure_ok {a b : α} (h : (pure a : ExceptT ε (StateM σ) α).run s = (.ok b, s')) : b = a ∧ s' = s := by
  cases h; exact ⟨rfl, rfl⟩

theorem run_lift_ok {x : Except ε α} {a : α} (h : (liftM x : ExceptT ε (StateM σ) α).run s = (.ok a, s')) :
    x = .ok a ∧ s' = s := by
  cases h; exact ⟨rfl, rfl⟩

theorem run_lift_bind_ok {x : Except ε α} {f : α → ExceptT ε (StateM σ) β} {b : β}
    (h : ((liftM x : ExceptT ε (StateM σ) α) >>= f).run s = (.ok b, s')) :
    ∃ a, x = .ok a ∧ (f a).run s = (.ok b, s') := by
  obtain ⟨a, mid, hx, hf⟩ := run_bind_ok h
  obtain ⟨hok, rfl⟩ := run_lift_ok hx
  exact ⟨a, hok, hf⟩

theorem lift_bind_lift {γ : Type} (x : Except ε α) (f : α → Except ε β) (k : β → ExceptT ε (StateM σ) γ) :
    ((liftM x : ExceptT ε (StateM σ) α) >>= fun a => (liftM (f a) : ExceptT ε (StateM σ) β) >>= k) =
      (liftM (x >>= f) : ExceptT ε (StateM σ) β) >>= k := by
  cases x <;> rfl

theorem run_get_bind_ok {f : σ → ExceptT ε (StateM σ) β} {b : β}
    (h : ((get : ExceptT ε (StateM σ) σ) >>= f).run s = (.ok b, s')) : (f s).run s = (.ok b, s') := h

theorem run_modify_bind_ok {g : σ → σ} {f : PUnit → ExceptT ε (StateM σ) β} {b : β}
    (h : ((modify g : ExceptT ε (StateM σ) PUnit) >>= f).run s = (.ok b, s')) :
    (f ⟨⟩).run (g s) = (.ok b, s') := h

theorem FailsIff.run_bind {C D : Prop} {e : ε} {x : ExceptT ε (StateM σ) α} {f : α → ExceptT ε (StateM σ) β}
    (hx : FailsIff C e (x.run s).1) (hf : ∀ a mid, x.run s = (.ok a, mid) → FailsIff D e ((f a).run mid).1) :
    FailsIff (C ∨ D) e ((x >>= f).run s).1 := by
  rw [CatchAudit.run_bind]
  rcases hrun : x.run s with ⟨e' | a, mid⟩ <;> rw [hrun] at hx
  · have hC : C := by
      by_contra hC
      obtain ⟨a, ha⟩ := hx.result hC
      cases ha
    cases hx.error hC
    exact ⟨fun _ => rfl, fun h => absurd (.inl hC) h⟩
  · exact (hf a mid hrun).congr (or_iff_right fun hC => by cases hx.error hC).symm

/-- The state keeps `I`, a result satisfies `Q`, an error satisfies `P`. -/
def Ensures (I : σ → Prop) (P : ε → Prop) (Q : α → Prop) (x : ExceptT ε (StateM σ) α) : Prop :=
  ∀ s, I s → I (x.run s).2 ∧ Answers P Q (x.run s).1

namespace Ensures

variable {I : σ → Prop} {P : ε → Prop} {Q : α → Prop} {R : β → Prop}

protected theorem pure {a : α} (h : Q a) : Ensures I P Q (pure a) := fun _ hs => ⟨hs, h⟩

protected theorem bind {x : ExceptT ε (StateM σ) α} {f : α → ExceptT ε (StateM σ) β} (hx : Ensures I P Q x)
    (hf : ∀ a, Q a → Ensures I P R (f a)) : Ensures I P R (x >>= f) := by
  intro s hs
  have h := hx s hs
  rw [run_bind]
  rcases hrun : x.run s with ⟨e | a, mid⟩ <;> rw [hrun] at h
  · exact h
  · exact hf a h.2 mid h.1

protected theorem lift {x : Except ε α} (h : Answers P Q x) : Ensures I P Q (liftM x) := fun _ hs => ⟨hs, h⟩

protected theorem get : Ensures I P I (get : ExceptT ε (StateM σ) σ) := fun _ hs => ⟨hs, hs⟩

protected theorem modify {f : σ → σ} (h : ∀ s, I s → I (f s)) :
    Ensures I P (fun _ => True) (modify f : ExceptT ε (StateM σ) PUnit) := fun s hs => ⟨h s hs, trivial⟩

end Ensures

/-- From states related by `I`, where the first computation gives a result, the second one gives a result related by
`R`, and the states stay related. -/
def Follows (I : σ → σ → Prop) (R : α → β → Prop) (x : ExceptT ε (StateM σ) α) (y : ExceptT ε (StateM σ) β) : Prop :=
  ∀ s s', I s s' → ∀ a t, x.run s = (.ok a, t) → ∃ b t', y.run s' = (.ok b, t') ∧ R a b ∧ I t t'

namespace Follows

variable {γ δ : Type} {I : σ → σ → Prop} {R : α → β → Prop} {S : γ → δ → Prop}

protected theorem pure {a : α} {b : β} (h : R a b) : Follows I R (pure a : ExceptT ε (StateM σ) α) (pure b) := by
  intro s s' hs a' t hrun
  obtain ⟨rfl, rfl⟩ := run_pure_ok hrun
  exact ⟨b, s', rfl, h, hs⟩

protected theorem bind {x : ExceptT ε (StateM σ) α} {y : ExceptT ε (StateM σ) β} {f : α → ExceptT ε (StateM σ) γ}
    {g : β → ExceptT ε (StateM σ) δ} (hxy : Follows I R x y) (hfg : ∀ a b, R a b → Follows I S (f a) (g b)) :
    Follows I S (x >>= f) (y >>= g) := by
  intro s s' hs c t hrun
  obtain ⟨a, mid, ha, hc⟩ := run_bind_ok hrun
  obtain ⟨b, mid', hb, hab, hmid⟩ := hxy s s' hs a mid ha
  obtain ⟨c', t', hc', hcc', ht⟩ := hfg a b hab mid mid' hmid c t hc
  refine ⟨c', t', ?_, hcc', ht⟩
  rw [run_bind, hb]
  exact hc'

protected theorem lift {x : Except ε α} {y : Except ε β} (h : Yields R x y) :
    Follows I R (liftM x : ExceptT ε (StateM σ) α) (liftM y) := by
  intro s s' hs a t hrun
  obtain ⟨ha, rfl⟩ := run_lift_ok hrun
  obtain ⟨b, rfl, hab⟩ := h a ha
  exact ⟨b, s', rfl, hab, hs⟩

protected theorem get : Follows I I (get : ExceptT ε (StateM σ) σ) get := by
  intro s s' hs a t hrun
  cases hrun
  exact ⟨s', s', rfl, hs, hs⟩

protected theorem modify {f g : σ → σ} (h : ∀ s s', I s s' → I (f s) (g s')) :
    Follows I (fun _ _ => True) (modify f : ExceptT ε (StateM σ) PUnit) (modify g) := by
  intro s s' hs a t hrun
  cases hrun
  exact ⟨⟨⟩, g s', rfl, trivial, h s s' hs⟩

end Follows

end State

/-! ## Computations that leave log records -/

namespace Logged

variable {ε δ α β : Type}

/-- The outcome does not depend on the records left before. -/
def Blind (x : Logged ε α) : Prop := ∀ log log', (x.run log).1 = (x.run log').1

namespace Blind

protected theorem pure (a : α) : Blind (pure a : Logged ε α) := fun _ _ => rfl

protected theorem note (records : Log) : Blind (note records : Logged ε Unit) := fun _ _ => rfl

protected theorem lift (x : Except ε α) : Blind (liftM x : Logged ε α) := fun _ _ => rfl

protected theorem bind {x : Logged ε α} {f : α → Logged ε β} (hx : x.Blind) (hf : ∀ a, (f a).Blind) :
    (x >>= f).Blind := by
  intro log log'
  have h := hx log log'
  rw [run_bind, run_bind]
  rcases hl : x.run log with ⟨out, mid⟩
  rcases hl' : x.run log' with ⟨out', mid'⟩
  rw [hl, hl'] at h
  cases h
  cases out with
  | error e => rfl
  | ok a => exact hf a mid mid'

/-- The `outcome` goes from step to step, whatever has been noted in between, if the steps are `Blind`. -/
theorem outcome_bind {x : Logged ε α} {f : α → Logged ε β} (hf : ∀ a, (f a).Blind) :
    (x >>= f).outcome.1 = x.outcome.1 >>= fun a => (f a).outcome.1 := by
  unfold outcome
  rw [run_bind]
  rcases x.run [] with ⟨e | a, log⟩
  · rfl
  · exact hf a log []

end Blind

/-- From the same records on, two `Logged` computations leave the same records and their outcomes agree. -/
def Agrees (R : α → β → Prop) (x : Logged ε α) (y : Logged ε β) : Prop :=
  ∀ log, Agree R (x.run log).1 (y.run log).1 ∧ (x.run log).2 = (y.run log).2

namespace Agrees

variable {γ : Type} {R : α → β → Prop} {S : δ → γ → Prop}

protected theorem pure {a : α} {b : β} (h : R a b) : Agrees R (pure a : Logged ε α) (pure b) := fun _ => ⟨h, rfl⟩

protected theorem note (records : Log) : Agrees Eq (note records : Logged ε Unit) (note records) := fun _ => ⟨rfl, rfl⟩

protected theorem lift {x : Except ε α} {y : Except ε β} (h : Agree R x y) :
    Agrees R (liftM x : Logged ε α) (liftM y) := fun _ => ⟨h, rfl⟩

protected theorem bind {x : Logged ε α} {y : Logged ε β} {f : α → Logged ε δ} {g : β → Logged ε γ} (h : Agrees R x y)
    (hfg : ∀ a b, R a b → Agrees S (f a) (g b)) : Agrees S (x >>= f) (y >>= g) := by
  intro log
  have hlog := h log
  rw [run_bind, run_bind]
  rcases hx : x.run log with ⟨e | a, mid⟩ <;> rcases hy : y.run log with ⟨e' | b, mid'⟩ <;> rw [hx, hy] at hlog
  · exact hlog
  · exact hlog.1.elim
  · exact hlog.1.elim
  · have hmid : mid = mid' := hlog.2
    rw [← hmid]
    exact hfg a b hlog.1 mid

end Agrees

theorem note_run (records log : Log) : (note records : Logged ε Unit).run log = (.ok (), log ++ records) := rfl

theorem mapError_run (f : ε → δ) (x : Logged ε α) (log : Log) :
    (x.mapError f).run log = ((x.run log).1.mapError f, (x.run log).2) := by
  have hget : (get : Logged δ Log).run log = (.ok log, log) := rfl
  unfold mapError
  rw [run_bind, hget]
  dsimp only
  rcases x.run log with ⟨e | a, log'⟩ <;> rfl

end Logged

end CatchAudit
