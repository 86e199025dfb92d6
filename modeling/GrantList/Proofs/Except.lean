import Mathlib.Data.List.Forall2

/-!
# Results that may be failures

`List.mapM` gives results exactly when the function gives one for every member, and the results
are then those of the members, in their order. Functions that fail alike and give related results
(`Alike`) do so for all members together.
-/

namespace GrantList

variable {α β ε : Type} {f : α → Except ε β} {l : List α} {l' : List β}

theorem mapM_eq_ok_iff : l.mapM f = .ok l' ↔ List.Forall₂ (fun a b => f a = .ok b) l l' := by
  induction l generalizing l' with
  | nil => cases l' <;> simp [pure, Except.pure]
  | cons a l ih =>
    rw [List.mapM_cons, List.forall₂_cons_left_iff]
    cases ha : f a with
    | error err => simp [bind, Except.bind]
    | ok b =>
      cases hl : l.mapM f with
      | error err => simp [bind, Except.bind, ← ih, hl]
      | ok bs => simp [bind, Except.bind, pure, Except.pure, ← ih, hl, eq_comm]

theorem mem_iff_of_mapM (h : l.mapM f = .ok l') {b : β} : b ∈ l' ↔ ∃ a ∈ l, f a = .ok b := by
  rw [mapM_eq_ok_iff] at h
  induction h with
  | nil => simp
  | @cons a c l l' hac _ ih =>
    rw [List.mem_cons, List.exists_mem_cons_iff, ih, hac, Except.ok.injEq, eq_comm]

theorem mapM_isOk_iff : (∃ l', l.mapM f = .ok l') ↔ ∀ a ∈ l, ∃ b, f a = .ok b := by
  simp only [mapM_eq_ok_iff]
  induction l with
  | nil => simp
  | cons a l ih =>
    rw [List.forall_mem_cons, ← ih]
    constructor
    · rintro ⟨_, h⟩
      cases h with
      | cons hb h => exact ⟨⟨_, hb⟩, _, h⟩
    · rintro ⟨⟨b, hb⟩, l', h⟩
      exact ⟨b :: l', .cons hb h⟩

/-- A failure is that of a member. -/
theorem exists_eq_error_of_mapM {err : ε} (h : l.mapM f = .error err) :
    ∃ a ∈ l, f a = .error err := by
  induction l with
  | nil => cases h
  | cons a l ih =>
    rw [List.mapM_cons] at h
    cases ha : f a with
    | error err' =>
      rw [ha] at h
      exact ⟨a, List.mem_cons_self, ha.trans (congrArg _ (Except.error.inj h))⟩
    | ok b =>
      cases hl : l.mapM f with
      | error err' =>
        rw [ha, hl] at h
        obtain rfl := Except.error.inj h
        obtain ⟨a', ha', herr⟩ := ih hl
        exact ⟨a', List.mem_cons_of_mem a ha', herr⟩
      | ok bs =>
        rw [ha, hl] at h
        cases h

/-- Where every member gives a list, the members of all these lists together are found. -/
theorem exists_mapM_flatten {f : α → Except ε (List β)} (h : ∀ a ∈ l, ∃ bs, f a = .ok bs) :
    ∃ l', l.mapM f = .ok l' ∧ ∀ b, b ∈ l'.flatten ↔ ∃ a ∈ l, ∃ bs, f a = .ok bs ∧ b ∈ bs := by
  obtain ⟨l', hl'⟩ := mapM_isOk_iff.mpr h
  refine ⟨l', hl', fun b => ?_⟩
  simp only [List.mem_flatten, mem_iff_of_mapM hl']
  constructor
  · rintro ⟨bs, ⟨a, ha, hbs⟩, hb⟩
    exact ⟨a, ha, bs, hbs, hb⟩
  · rintro ⟨a, ha, bs, hbs, hb⟩
    exact ⟨bs, ⟨a, ha, hbs⟩, hb⟩

theorem mapM_congr_left {g : α → Except ε β} (h : ∀ a ∈ l, f a = g a) : l.mapM f = l.mapM g := by
  induction l with
  | nil => rfl
  | cons a l ih =>
    obtain ⟨ha, hl⟩ := List.forall_mem_cons.mp h
    rw [List.mapM_cons, List.mapM_cons, ha, ih hl]

/-! ### Related results -/

/-- Both fail, with the same failure, or both give results, and these are related. -/
inductive Alike {α' : Type} (R : α → α' → Prop) : Except ε α → Except ε α' → Prop
  /-- Both fail. -/
  | error (err : ε) : Alike R (.error err) (.error err)
  /-- Both give a result. -/
  | ok {a : α} {a' : α'} (h : R a a') : Alike R (.ok a) (.ok a')

section Alike

variable {α' β' : Type} {R : α → α' → Prop} {S : β → β' → Prop}

/-- What goes on alike from related results ends alike. -/
theorem Alike.bind {x : Except ε α} {x' : Except ε α'} {next : α → Except ε β}
    {next' : α' → Except ε β'} (h : Alike R x x')
    (hnext : ∀ {a a'}, R a a' → Alike S (next a) (next' a')) :
    Alike S (x >>= next) (x' >>= next') := by
  cases h with
  | error err => exact .error err
  | ok ha => exact hnext ha

/-- The members of a list give results that are related one by one. -/
theorem Alike.mapM {f' : α → Except ε β'} (h : ∀ a ∈ l, Alike S (f a) (f' a)) :
    Alike (List.Forall₂ S) (l.mapM f) (l.mapM f') := by
  induction l with
  | nil => exact .ok .nil
  | cons a l ih =>
    obtain ⟨ha, hl⟩ := List.forall_mem_cons.mp h
    rw [List.mapM_cons, List.mapM_cons]
    exact ha.bind fun hb => (ih hl).bind fun hbs => .ok (.cons hb hbs)

end Alike

theorem eq_ok_of_toOption_eq_some {x : Except ε α} {a : α} (h : x.toOption = some a) :
    x = .ok a := by
  cases x with
  | error err => cases h
  | ok b => rw [Option.some_inj.mp h]

theorem exists_eq_error_of_toOption_eq_none {x : Except ε α} (h : x.toOption = none) :
    ∃ err, x = .error err := by
  cases x with
  | error err => exact ⟨err, rfl⟩
  | ok a => cases h

end GrantList
