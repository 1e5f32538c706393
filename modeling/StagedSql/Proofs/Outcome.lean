import Mathlib.Data.List.Forall2
import StagedSql.Session.Basic

/-!
# Outcomes

Work with the engine and actions on a session end with a result or with a fault, and in a state
either way. The rules follow a piece of work through its parts.
-/

namespace StagedSql.Outcome

section

variable {ε α β : Type} {x : Except ε α} {f : α → Except ε β}

theorem exists_of_bind_ok {b : β} (h : x >>= f = .ok b) : ∃ a, x = .ok a ∧ f a = .ok b := by
  cases x with
  | error e => cases h
  | ok a => exact ⟨a, rfl, h⟩

theorem exists_bind_ok_iff :
    (∃ b, x >>= f = .ok b) ↔ ∃ a, x = .ok a ∧ ∃ b, f a = .ok b := by
  constructor
  · rintro ⟨b, h⟩
    obtain ⟨a, ha, hb⟩ := exists_of_bind_ok h
    exact ⟨a, ha, b, hb⟩
  · rintro ⟨a, rfl, b, hb⟩
    exact ⟨b, hb⟩

theorem exists_error_iff : (∃ e, x = .error e) ↔ ¬ ∃ a, x = .ok a := by
  cases x <;> simp

theorem cases_of_bind_error {e : ε} (h : x >>= f = .error e) :
    x = .error e ∨ ∃ a, x = .ok a ∧ f a = .error e := by
  cases x with
  | error e' =>
    cases h
    exact .inl rfl
  | ok a => exact .inr ⟨a, rfl, h⟩

theorem ok_of_toOption {a : α} (h : x.toOption = some a) : x = .ok a := by
  cases x with
  | error e => cases h
  | ok b => rw [Option.some.inj h]

theorem exists_mapM_ok_iff {items : List α} :
    (∃ bs, items.mapM f = .ok bs) ↔ ∀ a ∈ items, ∃ b, f a = .ok b := by
  induction items with
  | nil => exact ⟨fun _ a ha => absurd ha List.not_mem_nil, fun _ => ⟨[], rfl⟩⟩
  | cons a rest ih =>
    rw [List.mapM_cons, List.forall_mem_cons, ← ih]
    constructor
    · rintro ⟨bs, h⟩
      obtain ⟨b, hb, h⟩ := exists_of_bind_ok h
      obtain ⟨more, hmore, -⟩ := exists_of_bind_ok h
      exact ⟨⟨b, hb⟩, more, hmore⟩
    · rintro ⟨⟨b, hb⟩, more, hmore⟩
      rw [hb, hmore]
      exact ⟨b :: more, rfl⟩

theorem forall₂_of_mapM_ok {items : List α} {bs : List β} (h : items.mapM f = .ok bs) :
    List.Forall₂ (fun a b => f a = .ok b) items bs := by
  induction items generalizing bs with
  | nil =>
    rw [← Except.ok.inj h]
    exact .nil
  | cons a rest ih =>
    rw [List.mapM_cons] at h
    obtain ⟨b, hb, h⟩ := exists_of_bind_ok h
    obtain ⟨more, hmore, h⟩ := exists_of_bind_ok h
    rw [← Except.ok.inj h]
    exact .cons hb (ih hmore)

theorem ne_nil_of_mapM_ok {items : List α} {bs : List β} (hne : items ≠ [])
    (h : items.mapM f = .ok bs) : bs ≠ [] := by
  rintro rfl
  exact hne (List.forall₂_nil_right_iff.mp (forall₂_of_mapM_ok h))

theorem map_eq_of_mapM_ok {γ : Type} {before : α → γ} {after : β → γ}
    (hkept : ∀ a b, f a = .ok b → after b = before a) {items : List α} {bs : List β}
    (h : items.mapM f = .ok bs) : bs.map after = items.map before := by
  have hitems := forall₂_of_mapM_ok h
  clear h
  induction hitems with
  | nil => rfl
  | cons hb _ ih => rw [List.map_cons, List.map_cons, hkept _ _ hb, ih]

theorem exists_mem_of_mapM_ok {items : List α} {bs : List β} (h : items.mapM f = .ok bs) {b : β}
    (hb : b ∈ bs) : ∃ a ∈ items, f a = .ok b := by
  have hitems := forall₂_of_mapM_ok h
  clear h
  induction hitems with
  | nil => cases hb
  | cons hfirst _ ih =>
    rcases List.mem_cons.mp hb with rfl | hb
    · exact ⟨_, List.mem_cons_self .., hfirst⟩
    · obtain ⟨a, ha, hab⟩ := ih hb
      exact ⟨a, List.mem_cons_of_mem _ ha, hab⟩

theorem mapM_error {items : List α} {e : ε} (h : items.mapM f = .error e) :
    ∃ a ∈ items, f a = .error e := by
  induction items with
  | nil => cases h
  | cons a rest ih =>
    rw [List.mapM_cons] at h
    rcases cases_of_bind_error h with ha | ⟨b, -, h⟩
    · exact ⟨a, List.mem_cons_self .., ha⟩
    · rcases cases_of_bind_error h with hrest | ⟨bs, -, h⟩
      · obtain ⟨x, hx, hfx⟩ := ih hrest
        exact ⟨x, List.mem_cons_of_mem _ hx, hfx⟩
      · cases h

def FailsWith (P : ε → Prop) (x : Except ε α) : Prop := ∀ e, x = .error e → P e

variable {P : ε → Prop}

theorem FailsWith.ok (a : α) : FailsWith P (.ok a) := fun _ h => by cases h

theorem FailsWith.error {e : ε} (h : P e) : FailsWith P (.error e : Except ε α) := by
  intro e' heq
  rwa [← Except.error.inj heq]

theorem FailsWith.bind (hx : FailsWith P x) (hf : ∀ a, FailsWith P (f a)) :
    FailsWith P (x >>= f) := by
  intro e h
  rcases cases_of_bind_error h with h | ⟨a, -, h⟩
  · exact hx e h
  · exact hf a e h

theorem FailsWith.map (g : α → β) (hx : FailsWith P x) : FailsWith P (x.map g) := by
  cases x with
  | error e => exact .error (hx e rfl)
  | ok a => exact .ok (g a)

theorem FailsWith.mapM {items : List α} (hf : ∀ a, FailsWith P (f a)) :
    FailsWith P (items.mapM f) := by
  induction items with
  | nil => exact .ok []
  | cons a rest ih =>
    rw [List.mapM_cons]
    exact (hf a).bind fun b => ih.bind fun bs => .ok (b :: bs)

end

variable {σ α β : Type} {s : σ}

def final (m : EStateM Fault σ α) (s : σ) : σ :=
  match m s with
  | .ok _ t => t
  | .error _ t => t

theorem final_of_ok {m : EStateM Fault σ α} {a : α} {t : σ} (h : m s = .ok a t) :
    final m s = t := by
  simp only [final, h]

theorem final_of_error {m : EStateM Fault σ α} {fault : Fault} {t : σ}
    (h : m s = .error fault t) : final m s = t := by
  simp only [final, h]

theorem final_congr {m m' : EStateM Fault σ α} {t : σ} (h : m s = m' t) :
    final m s = final m' t := by
  simp only [final, h]

def fault? (m : EStateM Fault σ α) (s : σ) : Option Fault :=
  match m s with
  | .ok _ _ => none
  | .error fault _ => some fault

theorem fault?_congr {m m' : EStateM Fault σ α} {t : σ} (h : m s = m' t) :
    fault? m s = fault? m' t := by
  simp only [fault?, h]

theorem error_of_fault? {m : EStateM Fault σ α} {fault : Fault} (h : fault? m s = some fault) :
    m s = .error fault (final m s) := by
  unfold fault? at h
  unfold final
  cases hm : m s with
  | ok a t => simp [hm] at h
  | error f t =>
    rw [hm] at h
    rw [Option.some.inj h]

def result? (m : EStateM Fault σ α) (s : σ) : Option α :=
  match m s with
  | .ok a _ => some a
  | .error _ _ => none

theorem ok_of_result? {m : EStateM Fault σ α} {a : α} (h : result? m s = some a) :
    m s = .ok a (final m s) := by
  unfold result? at h
  unfold final
  cases hm : m s with
  | ok b t =>
    rw [hm] at h
    rw [Option.some.inj h]
  | error fault t => simp [hm] at h

/-! ### Running the parts -/

theorem bind_apply (m : EStateM Fault σ α) (f : α → EStateM Fault σ β) :
    (m >>= f) s = match m s with
      | .ok a t => f a t
      | .error fault t => .error fault t := by
  show EStateM.bind m f s = _
  unfold EStateM.bind
  cases m s <;> rfl

theorem bind_of_ok {m : EStateM Fault σ α} {f : α → EStateM Fault σ β} {a : α} {t : σ}
    (h : m s = .ok a t) : (m >>= f) s = f a t := by
  rw [bind_apply, h]

theorem bind_of_error {m : EStateM Fault σ α} {f : α → EStateM Fault σ β} {fault : Fault} {t : σ}
    (h : m s = .error fault t) : (m >>= f) s = .error fault t := by
  rw [bind_apply, h]

theorem exists_of_run_ok {m : EStateM Fault σ α} {f : α → EStateM Fault σ β} {b : β} {u : σ}
    (h : (m >>= f) s = .ok b u) : ∃ a t, m s = .ok a t ∧ f a t = .ok b u := by
  rw [bind_apply] at h
  cases hm : m s with
  | ok a t =>
    rw [hm] at h
    exact ⟨a, t, rfl, h⟩
  | error fault t =>
    rw [hm] at h
    cases h

theorem final_bind_of_ok {m : EStateM Fault σ α} {f : α → EStateM Fault σ β} {a : α} {t : σ}
    (h : m s = .ok a t) : final (m >>= f) s = final (f a) t := by
  simp only [final, bind_of_ok h]

theorem final_bind_of_error {m : EStateM Fault σ α} {f : α → EStateM Fault σ β} {fault : Fault}
    {t : σ} (h : m s = .error fault t) : final (m >>= f) s = t :=
  final_of_error (bind_of_error h)

theorem final_bind_pure (m : EStateM Fault σ α) (f : α → β) (s : σ) :
    final (m >>= fun a => pure (f a)) s = final m s := by
  cases hm : m s with
  | ok a t =>
    rw [final_bind_of_ok hm, final_of_ok hm]
    rfl
  | error fault t => rw [final_bind_of_error hm, final_of_error hm]

theorem fault?_bind_pure (m : EStateM Fault σ α) (f : α → β) (s : σ) :
    fault? (m >>= fun a => pure (f a)) s = fault? m s := by
  unfold fault?
  rw [bind_apply]
  cases m s <;> rfl

theorem pure_apply (a : α) : (pure a : EStateM Fault σ α) s = .ok a s := rfl

theorem throw_apply (fault : Fault) : (throw fault : EStateM Fault σ α) s = .error fault s := rfl

theorem tryCatch_of_ok {m : EStateM Fault σ α} {handle : Fault → EStateM Fault σ α} {a : α} {t : σ}
    (h : m s = .ok a t) : tryCatch m handle s = .ok a t := by
  show EStateM.tryCatch m handle s = _
  delta EStateM.tryCatch
  simp only [h]

/-- What was done before a failure stays done when the failure is handled. -/
theorem tryCatch_of_error {m : EStateM Fault σ α} {handle : Fault → EStateM Fault σ α}
    {fault : Fault} {t : σ} (h : m s = .error fault t) : tryCatch m handle s = handle fault t := by
  show EStateM.tryCatch m handle s = _
  delta EStateM.tryCatch
  simp only [h]
  rfl

/-! ### What work keeps -/

/-- The work keeps `I`, whether it returns or fails. -/
def Keeps (I : σ → Prop) (m : EStateM Fault σ α) : Prop := ∀ s, I s → I (final m s)

section

variable {I : σ → Prop}

theorem Keeps.pure (a : α) : Keeps I (Pure.pure a : EStateM Fault σ α) := fun _ hs => hs

theorem Keeps.throw (fault : Fault) : Keeps I (MonadExcept.throw fault : EStateM Fault σ α) :=
  fun _ hs => hs

theorem Keeps.bind {m : EStateM Fault σ α} {f : α → EStateM Fault σ β} (hm : Keeps I m)
    (hf : ∀ a, Keeps I (f a)) : Keeps I (m >>= f) := by
  intro s hs
  have hkept := hm s hs
  cases hr : m s with
  | ok a t =>
    rw [final_of_ok hr] at hkept
    rw [final_bind_of_ok hr]
    exact hf a t hkept
  | error fault t =>
    rw [final_of_error hr] at hkept
    rw [final_bind_of_error hr]
    exact hkept

theorem Keeps.tryCatch {m : EStateM Fault σ α} {handle : Fault → EStateM Fault σ α} (hm : Keeps I m)
    (hhandle : ∀ fault, Keeps I (handle fault)) : Keeps I (tryCatch m handle) := by
  intro s hs
  have hkept := hm s hs
  cases hr : m s with
  | ok a t =>
    rw [final_of_ok hr] at hkept
    rw [final_of_ok (tryCatch_of_ok hr)]
    exact hkept
  | error fault t =>
    rw [final_of_error hr] at hkept
    rw [final_congr (tryCatch_of_error hr)]
    exact hhandle fault t hkept

end

end StagedSql.Outcome

namespace StagedSql.Action

/-! ### Single actions -/

theorem store_apply (s : Session) : store s = .ok s.store s := rfl

variable {α : Type} {work : Engine.Work α} {s : Session} {c : Engine.Connection}

theorem engine_of_ok {a : α} (h : work s.connection = .ok a c) :
    engine work s = .ok a { s with connection := c } := by
  simp only [engine, h]

theorem engine_of_error {fault : Fault} (h : work s.connection = .error fault c) :
    engine work s = .error fault { s with connection := c } := by
  simp only [engine, h]

theorem final_engine (work : Engine.Work α) (s : Session) :
    Outcome.final (engine work) s = { s with connection := Outcome.final work s.connection } := by
  cases hr : work s.connection with
  | ok a c => rw [Outcome.final_of_ok hr, Outcome.final_of_ok (engine_of_ok hr)]
  | error fault c => rw [Outcome.final_of_error hr, Outcome.final_of_error (engine_of_error hr)]

theorem keeps_engine {I : Engine.Connection → Prop} (h : Outcome.Keeps I work) :
    Outcome.Keeps (fun s : Session => I s.connection) (engine work) := by
  intro s hs
  rw [final_engine]
  exact h s.connection hs

end StagedSql.Action
