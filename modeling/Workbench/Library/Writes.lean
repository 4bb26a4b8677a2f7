import Workbench.Library.Program

/-!
# Library: the ends and the single writes of a program

`wp prog ok err s` says that from `s`, under every list of faults, the program ends with `ok`
of its value and the final state or with `err` of its error and that state.  The rules are
equations, so a program is unfolded into its conditions by rewriting, and `wp_run` turns them
into a fact about each run.

A crash can stop a program between any two of its calls.  `wpVia T prog ok err s` says in
addition that every call of every run leaves the state alone or changes it by `T`.  Without
that condition it is `wp` (`wp_eq_wpVia`), so one induction over programs serves both.
-/

namespace Workbench.Library

namespace Program

variable {σ ε α β : Type}

/-- The states before and after each call that is not made to fail. -/
def writes : Program σ ε α → List Bool → σ → List (σ × σ)
  | done _, _, _ => []
  | call none op next, faults, s =>
    (s, (perform op s).2) :: writes (next (perform op s).1) faults (perform op s).2
  | call (some e) _ next, true :: faults, s => writes (next (.error e)) faults s
  | call (some _) op next, faults, s =>
    (s, (perform op s).2) :: writes (next (perform op s).1) faults.tail (perform op s).2

/-- The states from which every run changes the state by `T` only and ends in `ok` or `err`. -/
def wpVia (T : σ → σ → Prop) :
    Program σ ε α → (α → σ → Prop) → (ε → σ → Prop) → σ → Prop
  | done (.ok a), ok, _, s => ok a s
  | done (.error e), _, err, s => err e s
  | call fault op next, ok, err, s =>
    (∀ e, fault = some e → wpVia T (next (.error e)) ok err s) ∧
      match op s with
      | .ok (b, s') => (s' = s ∨ T s s') ∧ wpVia T (next (.ok b)) ok err s'
      | .error e => wpVia T (next (.error e)) ok err s

section

variable (T : σ → σ → Prop) (ok : β → σ → Prop) (err : ε → σ → Prop) (s : σ)

@[simp] theorem wpVia_pure (b : β) : wpVia T (pure b : Program σ ε β) ok err s = ok b s := rfl

@[simp] theorem wpVia_bind (prog : Program σ ε α) (rest : α → Program σ ε β) :
    wpVia T (prog >>= rest) ok err s
      = wpVia T prog (fun a s' => wpVia T (rest a) ok err s') err s := by
  show wpVia T (andThen prog rest) ok err s = _
  induction prog generalizing s with
  | done result => cases result <;> rfl
  | call _ _ _ ih =>
    simp only [andThen, wpVia, ih]

theorem wpVia_invoke (fault : ε) (op : σ → Except ε (β × σ)) :
    wpVia T (invoke fault op) ok err s
      = (err fault s ∧
        match op s with
        | .ok (b, s') => (s' = s ∨ T s s') ∧ ok b s'
        | .error e => err e s) := by
  simp only [invoke, wpVia, Option.some.injEq, forall_eq']

theorem wpVia_update (ok : Unit → σ → Prop) (f : σ → σ) :
    wpVia T (update f : Program σ ε Unit) ok err s = ((f s = s ∨ T s (f s)) ∧ ok () (f s)) := by
  simp [update, access, wpVia]

@[simp] theorem wpVia_ignoringErrors (ok : Unit → σ → Prop) (prog : Program σ ε α) :
    wpVia T (ignoringErrors prog) ok err s
      = wpVia T prog (fun _ s' => ok () s') (fun _ s' => ok () s') s := by
  induction prog generalizing s with
  | done result => cases result <;> rfl
  | call _ _ _ ih => simp only [ignoringErrors, wpVia, ih]

@[simp] theorem wpVia_catchError (handler : ε → Program σ ε β) (prog : Program σ ε β) :
    wpVia T (catchError handler prog) ok err s
      = wpVia T prog ok (fun e s' => wpVia T (handler e) ok err s') s := by
  induction prog generalizing s with
  | done result => cases result <;> rfl
  | call _ _ _ ih => simp only [catchError, wpVia, ih]

@[simp] theorem wpVia_ite (c : Prop) [Decidable c] (yes no : Program σ ε β) :
    wpVia T (if c then yes else no) ok err s
      = if c then wpVia T yes ok err s else wpVia T no ok err s := by
  split <;> rfl

theorem wpVia_on_invoke {τ : Type} (T : τ → τ → Prop) (part : Part τ σ) (ok : β → τ → Prop)
    (err : ε → τ → Prop) (t : τ) (fault : ε) (op : σ → Except ε (β × σ)) :
    wpVia T (on part (invoke fault op)) ok err t
      = (err fault t ∧
        match op (part.get t) with
        | .ok (b, s') => (part.set t s' = t ∨ T t (part.set t s')) ∧ ok b (part.set t s')
        | .error e => err e t) := by
  simp only [invoke, on, wpVia, Option.some.injEq, forall_eq']
  cases op (part.get t) <;> rfl

end

variable {prog : Program σ ε α}

theorem wpVia_bind_pure (T : σ → σ → Prop) (ok : α → σ → Prop) (err : ε → σ → Prop) (s : σ) :
    wpVia T (prog >>= pure) ok err s = wpVia T prog ok err s := by
  rw [wpVia_bind]
  rfl

variable {err err' : ε → σ → Prop} {ok ok' : α → σ → Prop}

/-- A program meets a weaker specification than one it meets. -/
theorem wpVia_mono {T T' : σ → σ → Prop}
    (hT : ∀ s s', T s s' → T' s s') (hok : ∀ a s, ok a s → ok' a s)
    (herr : ∀ e s, err e s → err' e s) {s : σ} (h : wpVia T prog ok err s) :
    wpVia T' prog ok' err' s := by
  induction prog generalizing s with
  | done result =>
    cases result with
    | ok a => exact hok a s h
    | error e => exact herr e s h
  | call fault op next ih =>
    rw [wpVia] at h ⊢
    refine ⟨fun e he => ih _ (h.1 e he), ?_⟩
    have hop := h.2
    cases hs : op s with
    | ok pair => rw [hs] at hop; exact ⟨hop.1.imp id (hT _ _), ih _ hop.2⟩
    | error e => rw [hs] at hop; exact ih _ hop

variable {T : σ → σ → Prop} {ok : α → σ → Prop} {err : ε → σ → Prop} {s : σ}

/-- The same for the conditions at the end only. -/
theorem wpVia_imp
    (h : wpVia T prog ok err s) (hok : ∀ a s, ok a s → ok' a s) (herr : ∀ e s, err e s → err' e s) :
    wpVia T prog ok' err' s :=
  wpVia_mono (fun _ _ h => h) hok herr h

variable {rest : α → Program σ ε β}

/-- A program and what follows it. -/
theorem wpVia_seq {ok' : β → σ → Prop} (h : wpVia T prog ok err s)
    (hrest : ∀ a s, ok a s → wpVia T (rest a) ok' err s) : wpVia T (prog >>= rest) ok' err s := by
  rw [wpVia_bind]
  exact wpVia_imp h hrest fun _ _ h => h

variable {body : α → Program σ ε Unit}

/-- A loop keeps a condition on the elements still to come. -/
theorem wpVia_forEach (I : List α → σ → Prop)
    (hstep : ∀ item rest s, I (item :: rest) s → wpVia T (body item) (fun _ => I rest) err s)
    (items : List α) (s : σ) (h : I items s) :
    wpVia T (forEach items body) (fun _ => I []) err s := by
  induction items generalizing s with
  | nil => exact h
  | cons item rest ih =>
    have hbind := wpVia_bind T (fun _ => I []) err s (body item) (fun _ => forEach rest body)
    exact hbind.mpr (wpVia_imp (hstep item rest s h) (fun _ s' hs' => ih s' hs') fun _ _ he => he)

/-- The same for a loop that gathers results. -/
theorem wpVia_collect {body : α → Program σ ε β}
    (I : List α → σ → Prop)
    (hstep : ∀ item rest s, I (item :: rest) s → wpVia T (body item) (fun _ => I rest) err s)
    (items : List α) (s : σ) (h : I items s) :
    wpVia T (collect items body) (fun _ => I []) err s := by
  induction items generalizing s with
  | nil => exact h
  | cons item rest ih =>
    have hhead := wpVia_bind T (fun _ => I []) err s (body item)
      (fun result => collect rest body >>= fun results => pure (result :: results))
    refine hhead.mpr (wpVia_imp (hstep item rest s h) (fun result s' hs' => ?_) fun _ _ he => he)
    have htail := wpVia_bind T (fun _ => I []) err s' (collect rest body)
      (fun results => pure (result :: results))
    exact htail.mpr (ih s' hs')

/-- The conditions hold of every run and of each of its writes. -/
theorem wpVia_run (h : wpVia T prog ok err s) (faults : List Bool) :
    Ends ok err (run prog faults s) ∧
      ∀ write ∈ writes prog faults s, write.2 = write.1 ∨ T write.1 write.2 := by
  induction prog generalizing s faults with
  | done result => cases result <;> exact ⟨h, List.forall_mem_nil _⟩
  | call fault op next ih =>
    rw [wpVia] at h
    have hperform : ((perform op s).2 = s ∨ T s (perform op s).2) ∧
        wpVia T (next (perform op s).1) ok err (perform op s).2 := by
      have hop := h.2
      unfold perform
      cases hs : op s with
      | ok pair => rw [hs] at hop; exact hop
      | error e => rw [hs] at hop; exact ⟨.inl rfl, hop⟩
    have hcall : ∀ rest, Ends ok err (run (next (perform op s).1) rest (perform op s).2) ∧
        ∀ write ∈ (s, (perform op s).2) :: writes (next (perform op s).1) rest (perform op s).2,
          write.2 = write.1 ∨ T write.1 write.2 := fun rest =>
      ⟨(ih _ hperform.2 rest).1, List.forall_mem_cons.mpr ⟨hperform.1, (ih _ hperform.2 rest).2⟩⟩
    cases fault with
    | none => exact hcall faults
    | some e =>
      match faults with
      | [] => exact hcall []
      | false :: rest => exact hcall rest
      | true :: rest => exact ih _ (h.1 e rfl) rest

/-- What holds however a program ends holds of the state it leaves. -/
theorem wpVia_run_final {P : σ → Prop}
    (h : wpVia T prog (fun _ => P) (fun _ => P) s) (faults : List Bool) :
    P (run prog faults s).2 := by
  have hends := (wpVia_run h faults).1
  cases hrun : run prog faults s with
  | mk result =>
    rw [hrun] at hends
    cases result <;> exact hends

/-- What each single write keeps holds wherever a run can be cut off. -/
theorem writes_invariant {I : σ → Prop} {faults : List Bool}
    (hkeep : ∀ write ∈ writes prog faults s, I write.1 → I write.2) (hstart : I s) :
    I (run prog faults s).2 ∧ ∀ write ∈ writes prog faults s, I write.1 ∧ I write.2 := by
  induction prog generalizing s faults with
  | done result => exact ⟨hstart, List.forall_mem_nil _⟩
  | call fault op next ih =>
    have hcall : ∀ rest,
        (∀ write ∈ (s, (perform op s).2) ::
            writes (next (perform op s).1) rest (perform op s).2, I write.1 → I write.2) →
          I (run (next (perform op s).1) rest (perform op s).2).2 ∧
            ∀ write ∈ (s, (perform op s).2) ::
              writes (next (perform op s).1) rest (perform op s).2, I write.1 ∧ I write.2 := by
      intro rest hwrites
      obtain ⟨hfirst, hrest⟩ := List.forall_mem_cons.mp hwrites
      obtain ⟨hend, hall⟩ := ih _ hrest (hfirst hstart)
      exact ⟨hend, List.forall_mem_cons.mpr ⟨⟨hstart, hfirst hstart⟩, hall⟩⟩
    cases fault with
    | none => exact hcall faults hkeep
    | some e =>
      match faults with
      | [] => exact hcall [] hkeep
      | false :: rest => exact hcall rest hkeep
      | true :: rest => exact ih _ hkeep hstart

/-- What every write keeps holds wherever a run can be cut off. -/
theorem wpVia_invariant {I : σ → Prop}
    (hkeep : ∀ s s', I s → T s s' → I s') (h : wpVia T prog ok err s) (hstart : I s)
    (faults : List Bool) :
    I (run prog faults s).2 ∧ ∀ write ∈ writes prog faults s, I write.1 ∧ I write.2 := by
  refine writes_invariant (fun write hwrite hI => ?_) hstart
  obtain hsame | hchange := (wpVia_run h faults).2 write hwrite
  · rw [hsame]
    exact hI
  · exact hkeep _ _ hI hchange

/-! ## Ends alone -/

/-- The start states from which every run ends in `ok` or `err`. -/
def wp : Program σ ε α → (α → σ → Prop) → (ε → σ → Prop) → σ → Prop
  | done (.ok a), ok, _, s => ok a s
  | done (.error e), _, err, s => err e s
  | call fault op next, ok, err, s =>
    (∀ e, fault = some e → wp (next (.error e)) ok err s) ∧
      match op s with
      | .ok (b, s') => wp (next (.ok b)) ok err s'
      | .error e => wp (next (.error e)) ok err s

theorem wp_eq_wpVia (prog : Program σ ε α) (ok : α → σ → Prop) (err : ε → σ → Prop) (s : σ) :
    wp prog ok err s = wpVia (fun _ _ => True) prog ok err s := by
  induction prog generalizing s with
  | done result => cases result <;> rfl
  | call _ _ _ ih => simp only [wp, wpVia, ih, or_true, true_and]

section

variable (ok : β → σ → Prop) (err : ε → σ → Prop) (s : σ)

@[simp] theorem wp_pure (b : β) : wp (pure b : Program σ ε β) ok err s = ok b s := rfl

@[simp] theorem wp_fail (e : ε) : wp (fail e : Program σ ε β) ok err s = err e s := rfl

@[simp] theorem wp_lift_ok (b : β) : wp (lift (.ok b) : Program σ ε β) ok err s = ok b s := rfl

@[simp] theorem wp_bind (prog : Program σ ε α) (rest : α → Program σ ε β) :
    wp (prog >>= rest) ok err s = wp prog (fun a s' => wp (rest a) ok err s') err s := by
  simp only [wp_eq_wpVia, wpVia_bind]

@[simp] theorem wp_read (f : σ → β) : wp (read f : Program σ ε β) ok err s = ok (f s) s := by
  simp [read, access, wp]

@[simp] theorem wp_update (ok : Unit → σ → Prop) (f : σ → σ) :
    wp (update f : Program σ ε Unit) ok err s = ok () (f s) := by
  simp [update, access, wp]

theorem wp_access (op : σ → Except ε (β × σ)) :
    wp (access op) ok err s
      = match op s with
        | .ok (b, s') => ok b s'
        | .error e => err e s := by
  simp only [access, wp, reduceCtorEq, false_implies, implies_true, true_and]

theorem wp_invoke (fault : ε) (op : σ → Except ε (β × σ)) :
    wp (invoke fault op) ok err s
      = (err fault s ∧
        match op s with
        | .ok (b, s') => ok b s'
        | .error e => err e s) := by
  simp only [invoke, wp, Option.some.injEq, forall_eq']

@[simp] theorem wp_ignoringErrors (ok : Unit → σ → Prop) (prog : Program σ ε α) :
    wp (ignoringErrors prog) ok err s
      = wp prog (fun _ s' => ok () s') (fun _ s' => ok () s') s := by
  simp only [wp_eq_wpVia, wpVia_ignoringErrors]

@[simp] theorem wp_catchError (handler : ε → Program σ ε β) (prog : Program σ ε β) :
    wp (catchError handler prog) ok err s
      = wp prog ok (fun e s' => wp (handler e) ok err s') s := by
  simp only [wp_eq_wpVia, wpVia_catchError]

@[simp] theorem wp_ite (c : Prop) [Decidable c] (yes no : Program σ ε β) :
    wp (if c then yes else no) ok err s = if c then wp yes ok err s else wp no ok err s := by
  split <;> rfl

end

/-- A program meets a weaker specification than one it meets. -/
theorem wp_mono (hok : ∀ a s, ok a s → ok' a s)
    (herr : ∀ e s, err e s → err' e s) (h : wp prog ok err s) : wp prog ok' err' s := by
  rw [wp_eq_wpVia] at h ⊢
  exact wpVia_imp h hok herr

/-- What the first program establishes is what the rest starts from. -/
theorem wp_seq {mid : α → σ → Prop} {ok : β → σ → Prop} (h : wp prog mid err s)
    (hrest : ∀ a s, mid a s → wp (rest a) ok err s) : wp (prog >>= rest) ok err s := by
  rw [wp_bind]
  exact wp_mono hrest (fun _ _ herr => herr) h

/-- A program that may end anywhere meets its specification. -/
theorem wp_of_forall (hok : ∀ a s, ok a s)
    (herr : ∀ e s, err e s) (prog : Program σ ε α) (s : σ) : wp prog ok err s := by
  induction prog generalizing s with
  | done result =>
    cases result with
    | ok a => exact hok a s
    | error e => exact herr e s
  | call fault op next ih =>
    rw [wp]
    refine ⟨fun e _ => ih _ s, ?_⟩
    cases op s with
    | ok pair | error e => exact ih _ _

/-- A program that meets two specifications meets both at once. -/
theorem wp_and (h : wp prog ok err s) (h' : wp prog ok' err' s) :
    wp prog (fun a s => ok a s ∧ ok' a s) (fun e s => err e s ∧ err' e s) s := by
  induction prog generalizing s with
  | done result => cases result <;> exact ⟨h, h'⟩
  | call fault op next ih =>
    rw [wp] at h h' ⊢
    refine ⟨fun e he => ih _ (h.1 e he) (h'.1 e he), ?_⟩
    have hop := h.2
    have hop' := h'.2
    cases hs : op s with
    | ok pair | error e => rw [hs] at hop hop'; exact ih _ hop hop'

/-- A loop keeps a condition on the elements still to come. -/
theorem wp_forEach (I : List α → σ → Prop)
    (hstep : ∀ item rest s, I (item :: rest) s → wp (body item) (fun _ => I rest) err s)
    (items : List α) (s : σ) (h : I items s) :
    wp (forEach items body) (fun _ => I []) err s := by
  simp only [wp_eq_wpVia] at hstep ⊢
  exact wpVia_forEach I hstep items s h

/-- A program on a part leaves the rest as it was. -/
@[simp] theorem wp_on {τ : Type} (part : Part τ σ) (ok : α → τ → Prop) (err : ε → τ → Prop) (t : τ)
    (prog : Program σ ε α) :
    wp (on part prog) ok err t
      = wp prog (fun a s => ok a (part.set t s)) (fun e s => err e (part.set t s))
        (part.get t) := by
  induction prog generalizing t with
  | done result =>
    cases result with
    | ok a | error e => simp only [on, wp, part.set_get]
  | call fault op next ih =>
    rw [on, wp, wp]
    cases hop : op (part.get t) with
    | ok pair => simp only [ih, part.get_set, part.set_set]
    | error e => simp only [ih]

/-- The conditions hold of every run. -/
theorem wp_run (h : wp prog ok err s) (faults : List Bool) : Ends ok err (run prog faults s) := by
  rw [wp_eq_wpVia] at h
  exact (wpVia_run h faults).1

/-- What holds however a program ends holds of the state it leaves. -/
theorem wp_run_final {P : σ → Prop} (h : wp prog (fun _ => P) (fun _ => P) s)
    (faults : List Bool) : P (run prog faults s).2 := by
  rw [wp_eq_wpVia] at h
  exact wpVia_run_final h faults

end Program

end Workbench.Library
