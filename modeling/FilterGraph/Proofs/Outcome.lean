import Mathlib.Data.List.Forall2

namespace FilterGraph

theorem bind_ok {ε α β : Type} {a : Except ε α} {f : α → Except ε β} {b : β} (done : a >>= f = .ok b) :
    ∃ x, a = .ok x ∧ f x = .ok b := by
  cases a with
  | error e => cases done
  | ok x => exact ⟨x, rfl, done⟩

theorem ok_bind {ε α β : Type} {a : Except ε α} {f : α → Except ε β} {x : α} (done : a = .ok x) : a >>= f = f x := by
  rw [done]
  rfl

theorem ok_of_toOption {ε α : Type} {a : Except ε α} {x : α} (found : a.toOption = some x) : a = .ok x := by
  cases a with
  | error e => cases found
  | ok y =>
    cases found
    rfl

theorem bind_error {ε α β : Type} {a : Except ε α} {f : α → Except ε β} {e : ε} (failed : a >>= f = .error e) :
    a = .error e ∨ ∃ x, a = .ok x ∧ f x = .error e := by
  cases a with
  | error d =>
    cases failed
    exact Or.inl rfl
  | ok x => exact Or.inr ⟨x, rfl, failed⟩

theorem mapError_ok {ε δ α : Type} {f : ε → δ} {a : Except ε α} {x : α} :
    a.mapError f = .ok x ↔ a = .ok x := by
  cases a <;> simp [Except.mapError]

theorem map_ok {ε α β : Type} {f : α → β} {a : Except ε α} {y : β} (done : a.map f = .ok y) :
    ∃ x, a = .ok x ∧ f x = y := by
  cases a with
  | error e => cases done
  | ok x =>
    cases done
    exact ⟨x, rfl, rfl⟩

theorem map_error {ε α β : Type} {f : α → β} {a : Except ε α} {e : ε} : a.map f = .error e ↔ a = .error e := by
  cases a <;> simp [Except.map]

theorem bind_guarded {ε α β γ : Type} {p q : Prop} [Decidable p] [Decidable q] (a : α) (b : β) (e : ε) (f : α → β → γ) :
    ((if p then .ok a else .error e : Except ε α) >>= fun x =>
        (if q then .ok b else .error e : Except ε β) >>= fun y => pure (f x y)) =
      if p ∧ q then .ok (f a b) else .error e := by
  by_cases first : p
  · by_cases second : q
    · rw [if_pos first, if_pos second, if_pos ⟨first, second⟩]
      rfl
    · have not : ¬ (p ∧ q) := fun both => second both.2
      rw [if_pos first, if_neg second, if_neg not]
      rfl
  · have not : ¬ (p ∧ q) := fun both => first both.1
    rw [if_neg first, if_neg not]
    rfl

theorem mapM_ok {ε α β : Type} {f : α → Except ε β} {xs : List α} {ys : List β} (done : xs.mapM f = .ok ys) :
    List.Forall₂ (fun x y => f x = .ok y) xs ys := by
  induction xs generalizing ys with
  | nil =>
    cases done
    exact .nil
  | cons x rest ih =>
    rw [List.mapM_cons] at done
    obtain ⟨y, first, done⟩ := bind_ok done
    obtain ⟨others, later, done⟩ := bind_ok done
    cases done
    exact .cons first (ih later)

theorem mapM_some {α β : Type} {f : α → Option β} {xs : List α} {ys : List β} (done : xs.mapM f = some ys) :
    List.Forall₂ (fun x y => f x = some y) xs ys := by
  induction xs generalizing ys with
  | nil =>
    cases done
    exact .nil
  | cons x rest ih =>
    rw [List.mapM_cons] at done
    obtain ⟨y, first, done⟩ := Option.bind_eq_some_iff.mp done
    obtain ⟨others, later, done⟩ := Option.bind_eq_some_iff.mp done
    cases done
    exact .cons first (ih later)

theorem filterMapM_ok {ε α β : Type} {f : α → Except ε (Option β)} {g : α → Option β} (step : ∀ x o, f x = .ok o → o = g x)
    {xs : List α} {ys : List β} (done : xs.filterMapM f = .ok ys) : ys = xs.filterMap g ∧ ∀ x ∈ xs, f x = .ok (g x) := by
  induction xs generalizing ys with
  | nil =>
    cases done
    exact ⟨rfl, nofun⟩
  | cons x rest ih =>
    rw [List.filterMapM_cons] at done
    obtain ⟨o, first, done⟩ := bind_ok done
    obtain rfl := step x o first
    rw [List.filterMap_cons]
    cases kept : g x with
    | none =>
      rw [kept] at done first
      obtain ⟨rfl, later⟩ := ih done
      exact ⟨rfl, List.forall_mem_cons.mpr ⟨kept ▸ first, later⟩⟩
    | some y =>
      rw [kept] at done first
      obtain ⟨others, left, done⟩ := bind_ok done
      cases done
      obtain ⟨rfl, later⟩ := ih left
      exact ⟨rfl, List.forall_mem_cons.mpr ⟨kept ▸ first, later⟩⟩

theorem mapM_each {ε α β : Type} {f : α → Except ε β} {xs : List α} (each : ∀ x ∈ xs, ∃ y, f x = .ok y) :
    ∃ ys, xs.mapM f = .ok ys := by
  induction xs with
  | nil => exact ⟨[], rfl⟩
  | cons x rest ih =>
    obtain ⟨⟨y, first⟩, others⟩ := List.forall_mem_cons.mp each
    obtain ⟨ys, later⟩ := ih others
    refine ⟨y :: ys, ?_⟩
    rw [List.mapM_cons, first, later]
    rfl

theorem foldlM_congr {ε α β : Type} {f h : β → α → Except ε β} {xs : List α}
    (same : ∀ x ∈ xs, ∀ b, f b x = h b x) (start : β) : xs.foldlM f start = xs.foldlM h start := by
  induction xs generalizing start with
  | nil => rfl
  | cons x rest ih =>
    rw [List.foldlM_cons, List.foldlM_cons, same x List.mem_cons_self]
    exact bind_congr fun b => ih (fun y member => same y (List.mem_cons_of_mem _ member)) b

theorem foldlM_keeps {ε α β : Type} {holds : β → Prop} {f : β → α → Except ε β}
    (step : ∀ x b next, holds b → f b x = .ok next → holds next) {xs : List α} {start last : β} (first : holds start)
    (done : xs.foldlM f start = .ok last) : holds last := by
  induction xs generalizing start with
  | nil =>
    cases done
    exact first
  | cons x rest ih =>
    rw [List.foldlM_cons] at done
    obtain ⟨b, one, later⟩ := bind_ok done
    exact ih (step x start b first one) later

theorem foldlM_fails {ε α β : Type} {holds : ε → Prop} {f : β → α → Except ε β}
    (step : ∀ x b e, f b x = .error e → holds e) {xs : List α} {start : β} {e : ε}
    (failed : xs.foldlM f start = .error e) : holds e := by
  induction xs generalizing start with
  | nil => cases failed
  | cons x rest ih =>
    rw [List.foldlM_cons] at failed
    rcases bind_error failed with first | ⟨b, -, later⟩
    · exact step x start e first
    · exact ih later

/-- A computation that can only end in errors of one sort. -/
def FailsBy {ε α : Type} (holds : ε → Prop) (a : Except ε α) : Prop := ∀ e, a = .error e → holds e

namespace FailsBy

variable {ε δ α β : Type} {holds : ε → Prop}

theorem done (x : α) : FailsBy holds (.ok x) := by
  intro e same
  cases same

theorem failed {e : ε} (here : holds e) : FailsBy holds (.error e : Except ε α) := by
  intro d same
  cases same
  exact here

theorem bind {a : Except ε α} {f : α → Except ε β} (first : FailsBy holds a) (next : ∀ x, FailsBy holds (f x)) :
    FailsBy holds (a >>= f) := by
  intro e failed
  rcases bind_error failed with early | ⟨x, -, later⟩
  · exact first e early
  · exact next x e later

theorem map {a : Except ε α} (here : FailsBy holds a) (f : α → β) : FailsBy holds (a.map f) :=
  fun e failed => here e (map_error.mp failed)

theorem renamed {a : Except δ α} {f : δ → ε} (named : ∀ e, holds (f e)) : FailsBy holds (a.mapError f) := by
  cases a with
  | ok x => exact done x
  | error e => exact failed (named e)

theorem mapError {other : δ → Prop} {a : Except ε α} {f : ε → δ} (here : FailsBy holds a) (named : ∀ e, holds e → other (f e)) :
    FailsBy other (a.mapError f) := by
  cases a with
  | ok x => exact done x
  | error e => exact failed (named e (here e rfl))

theorem mapM {f : α → Except ε β} (each : ∀ x, FailsBy holds (f x)) (xs : List α) : FailsBy holds (xs.mapM f) := by
  induction xs with
  | nil => exact done []
  | cons x rest ih =>
    rw [List.mapM_cons]
    exact (each x).bind fun y => ih.bind fun ys => done _

end FailsBy

theorem forall₂_partners {α β : Type} {R : α → β → Prop} {xs : List α} {ys : List β} (related : List.Forall₂ R xs ys) :
    (∀ x ∈ xs, ∃ y ∈ ys, R x y) ∧ ∀ y ∈ ys, ∃ x ∈ xs, R x y := by
  induction related with
  | nil => exact ⟨fun x member => absurd member List.not_mem_nil, fun y member => absurd member List.not_mem_nil⟩
  | cons head _ ih =>
    constructor
    · intro x member
      rcases List.mem_cons.mp member with rfl | later
      · exact ⟨_, List.mem_cons_self, head⟩
      · obtain ⟨y, present, holds⟩ := ih.1 x later
        exact ⟨y, List.mem_cons_of_mem _ present, holds⟩
    · intro y member
      rcases List.mem_cons.mp member with rfl | later
      · exact ⟨_, List.mem_cons_self, head⟩
      · obtain ⟨x, present, holds⟩ := ih.2 y later
        exact ⟨x, List.mem_cons_of_mem _ present, holds⟩

theorem forall₂_map_eq {α β γ : Type} {R : α → β → Prop} {f : α → γ} {h : β → γ} {xs : List α} {ys : List β}
    (related : List.Forall₂ R xs ys) (same : ∀ x y, R x y → f x = h y) : xs.map f = ys.map h := by
  induction related with
  | nil => rfl
  | cons head _ ih => rw [List.map_cons, List.map_cons, same _ _ head, ih]

/-- Two computations that both fail, or both succeed with results that are related. -/
inductive Matched {ε α β : Type} (R : α → β → Prop) : Except ε α → Except ε β → Prop
  | failed (d e : ε) : Matched R (.error d) (.error e)
  | done {a : α} {b : β} (related : R a b) : Matched R (.ok a) (.ok b)

namespace Matched

theorem refl {ε α : Type} {R : α → α → Prop} (same : ∀ a, R a a) (a : Except ε α) : Matched R a a := by
  cases a with
  | error e => exact .failed e e
  | ok x => exact .done (same x)

theorem mono {ε α β : Type} {R S : α → β → Prop} {a : Except ε α} {b : Except ε β} (matched : Matched R a b)
    (weaker : ∀ x y, R x y → S x y) : Matched S a b := by
  cases matched with
  | failed d e => exact .failed d e
  | done related => exact .done (weaker _ _ related)

theorem bind {ε α β γ δ : Type} {R : α → β → Prop} {S : γ → δ → Prop} {a : Except ε α} {b : Except ε β}
    {f : α → Except ε γ} {h : β → Except ε δ} (first : Matched R a b)
    (next : ∀ x y, R x y → Matched S (f x) (h y)) : Matched S (a >>= f) (b >>= h) := by
  cases first with
  | failed d e => exact .failed d e
  | done related => exact next _ _ related

theorem map {ε α β γ δ : Type} {R : α → β → Prop} {S : γ → δ → Prop} {a : Except ε α} {b : Except ε β}
    (matched : Matched R a b) {f : α → γ} {h : β → δ} (related : ∀ x y, R x y → S (f x) (h y)) :
    Matched S (a.map f) (b.map h) := by
  cases matched with
  | failed d e => exact .failed d e
  | done here => exact .done (related _ _ here)

theorem trans {ε α β γ : Type} {R : α → β → Prop} {S : β → γ → Prop} {T : α → γ → Prop} {a : Except ε α} {b : Except ε β}
    {c : Except ε γ} (first : Matched R a b) (second : Matched S b c) (joined : ∀ x y z, R x y → S y z → T x z) :
    Matched T a c := by
  cases first with
  | failed d e =>
    cases second
    exact .failed _ _
  | done one =>
    cases second with
    | done two => exact .done (joined _ _ _ one two)

theorem mapError {ε δ α β : Type} {R : α → β → Prop} {a : Except ε α} {b : Except ε β} (matched : Matched R a b)
    (f : ε → δ) : Matched R (a.mapError f) (b.mapError f) := by
  cases matched with
  | failed d e => exact .failed _ _
  | done related => exact .done related

theorem mapM_perm {ε α β : Type} (f : α → Except ε β) {xs ys : List α} (perm : xs.Perm ys) :
    Matched List.Perm (xs.mapM f) (ys.mapM f) := by
  induction perm with
  | nil => exact .done .rfl
  | cons x _ ih =>
    rw [List.mapM_cons, List.mapM_cons]
    refine (refl (R := Eq) (fun _ => rfl) (f x)).bind fun a b same => ih.bind fun as bs perm => ?_
    exact .done (same ▸ perm.cons a)
  | swap x y rest =>
    simp only [List.mapM_cons]
    cases f x <;> cases f y <;> cases rest.mapM f
    case ok.ok.ok => exact .done (.swap _ _ _)
    all_goals exact .failed _ _
  | trans _ _ first second => exact first.trans second fun _ _ _ one two => one.trans two

theorem mapM_order {ε α β : Type} (f : α → Except ε β) {xs ys : List α} (perm : xs.Perm ys) :
    Matched (fun as bs => as.Perm bs ∧ (xs = ys → as = bs)) (xs.mapM f) (ys.mapM f) := by
  by_cases same : xs = ys
  · rw [same]
    exact refl (fun _ => ⟨.rfl, fun _ => rfl⟩) _
  · exact (mapM_perm f perm).mono fun _ _ related => ⟨related, fun order => absurd order same⟩

end Matched

end FilterGraph
