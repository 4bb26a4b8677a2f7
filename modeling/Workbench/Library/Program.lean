import Mathlib

/-!
# Library: programs of fallible calls

A program makes a sequence of calls on a state and ends with a value or an error.
A call may be given a fault: the environment can then make it fail with that error
and without effect.  What the program did before a failure stays done, which is how
a handler behaves that has already committed a transaction.

`run` executes a program under one list of faults.
-/

namespace Workbench.Library

/-- A computation over a state `σ` that may fail with `ε`. -/
inductive Program (σ ε α : Type) : Type 1 where
  | done (result : Except ε α)
  | call {β : Type} (fault : Option ε) (op : σ → Except ε (β × σ))
      (next : Except ε β → Program σ ε α)

namespace Program

variable {σ ε α β : Type}

/-- Runs the rest from where the first program ended. -/
def andThen (prog : Program σ ε α) (rest : α → Program σ ε β) : Program σ ε β :=
  match prog with
  | done (.ok a) => rest a
  | done (.error e) => done (.error e)
  | call fault op next => call fault op fun result => andThen (next result) rest

instance : Monad (Program σ ε) where
  pure a := done (.ok a)
  bind := andThen

/-- Ends with an error. -/
def fail (e : ε) : Program σ ε α := done (.error e)

/-- Ends as a pure computation did. -/
def lift (result : Except ε α) : Program σ ε α := done result

/-- A call that only its own operation can make fail. -/
def access (op : σ → Except ε (α × σ)) : Program σ ε α := call none op done

/-- A call that the environment can make fail with `fault`. -/
def invoke (fault : ε) (op : σ → Except ε (α × σ)) : Program σ ε α := call (some fault) op done

/-- Reads the state. -/
def read (f : σ → α) : Program σ ε α := access fun s => .ok (f s, s)

/-- Changes the state. -/
def update (f : σ → σ) : Program σ ε Unit := access fun s => .ok ((), f s)

/-- Runs a program and ignores whether it failed. -/
def ignoringErrors : Program σ ε α → Program σ ε Unit
  | done _ => done (.ok ())
  | call fault op next => call fault op fun result => ignoringErrors (next result)

/-- Runs a program and, if it fails, another one from where it failed. -/
def catchError (handler : ε → Program σ ε α) : Program σ ε α → Program σ ε α
  | done (.ok a) => done (.ok a)
  | done (.error e) => handler e
  | call fault op next => call fault op fun result => catchError handler (next result)

/-- Runs one program per element, in order, up to the first failure. -/
def forEach (items : List α) (body : α → Program σ ε Unit) : Program σ ε Unit :=
  match items with
  | [] => done (.ok ())
  | item :: rest => andThen (body item) fun _ => forEach rest body

/-- Runs one program per element, in order, and gathers the results. -/
def collect (items : List α) (body : α → Program σ ε β) : Program σ ε (List β) :=
  match items with
  | [] => done (.ok [])
  | item :: rest =>
    andThen (body item) fun result =>
      andThen (collect rest body) fun results => done (.ok (result :: results))

/-! ## Execution -/

/-- The result of an operation that was not made to fail. -/
def perform (op : σ → Except ε (β × σ)) (s : σ) : Except ε β × σ :=
  match op s with
  | .ok (b, s') => (.ok b, s')
  | .error e => (.error e, s)

/-- One call, which the environment makes fail if it can and `fails` says so. -/
def makeCall (fault : Option ε) (op : σ → Except ε (β × σ)) (fails : Bool) (s : σ) :
    Except ε β × σ :=
  match fault, fails with
  | some e, true => (.error e, s)
  | _, _ => perform op s

/-- Runs the program; a call with a fault takes one entry of `faults`, and `true` fails it. -/
def run : Program σ ε α → List Bool → σ → Except ε α × σ
  | done result, _, s => (result, s)
  | call none op next, faults, s =>
    run (next (perform op s).1) faults (perform op s).2
  | call (some e) _ next, true :: faults, s => run (next (.error e)) faults s
  | call (some _) op next, faults, s =>
    run (next (perform op s).1) faults.tail (perform op s).2

/-- Some faults make the first call fail or not and leave the given ones to the rest. -/
theorem run_call (fault : Option ε) (op : σ → Except ε (β × σ))
    (next : Except ε β → Program σ ε α) (fails : Bool) (faults : List Bool) (s : σ) :
    ∃ faults', (call fault op next).run faults' s
      = (next (makeCall fault op fails s).1).run faults (makeCall fault op fails s).2 := by
  cases fault with
  | none => exact ⟨faults, rfl⟩
  | some e => exact ⟨fails :: faults, by cases fails <;> rfl⟩

/-! ## Runs without faults -/

@[simp] theorem run_pure (a : α) (faults : List Bool) (s : σ) :
    (pure a : Program σ ε α).run faults s = (.ok a, s) := by
  cases faults <;> rfl

@[simp] theorem run_lift (result : Except ε α) (faults : List Bool) (s : σ) :
    (lift result : Program σ ε α).run faults s = (result, s) := by
  cases faults <;> rfl

@[simp] theorem run_read (f : σ → α) (faults : List Bool) (s : σ) :
    (read f : Program σ ε α).run faults s = (.ok (f s), s) := by
  cases faults <;> rfl

@[simp] theorem run_update (f : σ → σ) (faults : List Bool) (s : σ) :
    (update f : Program σ ε Unit).run faults s = (.ok (), f s) := by
  cases faults <;> rfl

@[simp] theorem run_invoke_nil (fault : ε) (op : σ → Except ε (α × σ)) (s : σ) :
    (invoke fault op).run [] s = perform op s := rfl

/-- Without faults, the second program runs from where the first one ended. -/
theorem run_bind_nil (prog : Program σ ε α) (rest : α → Program σ ε β) (s : σ) :
    (prog >>= rest).run [] s
      = match prog.run [] s with
        | (.ok a, s') => (rest a).run [] s'
        | (.error e, s') => (.error e, s') := by
  show (andThen prog rest).run [] s = _
  induction prog generalizing s with
  | done result => cases result <;> rfl
  | call fault op next ih =>
    cases fault with
    | none => simp only [andThen, run, ih]
    | some e => simp only [andThen, run, ih, List.tail_nil]

theorem run_bind_ok {prog : Program σ ε α} {a : α} {s s' : σ} (h : prog.run [] s = (.ok a, s'))
    (rest : α → Program σ ε β) : (prog >>= rest).run [] s = (rest a).run [] s' := by
  rw [run_bind_nil, h]

/-- Mapping the result changes nothing else. -/
theorem run_bind_pure (prog : Program σ ε α) (f : α → β) (faults : List Bool) (s : σ) :
    (prog >>= fun a => pure (f a)).run faults s
      = ((prog.run faults s).1.map f, (prog.run faults s).2) := by
  show (andThen prog fun a => pure (f a)).run faults s = _
  induction prog generalizing faults s with
  | done result => cases result <;> cases faults <;> rfl
  | call fault op next ih =>
    match fault, faults with
    | none, _ | some _, true :: _ | some _, [] | some _, false :: _ => simp only [andThen, run, ih]

theorem run_bind_pure_snd (prog : Program σ ε α) (f : α → β) (faults : List Bool) (s : σ) :
    ((prog >>= fun a => pure (f a)).run faults s).2 = (prog.run faults s).2 := by
  rw [run_bind_pure]

/-! ## Programs on a part of a state -/

/-- A part of a state that can be read and replaced on its own. -/
structure Part (τ σ : Type) where
  get : τ → σ
  set : τ → σ → τ
  get_set : ∀ t s, get (set t s) = s
  set_get : ∀ t, set t (get t) = t
  set_set : ∀ t s s', set (set t s) s' = set t s'

/-- Runs a program on a part of the state. -/
def on {τ : Type} (part : Part τ σ) : Program σ ε α → Program τ ε α
  | done result => done result
  | call fault op next =>
    call fault
      (fun t =>
        match op (part.get t) with
        | .ok (b, s) => .ok (b, part.set t s)
        | .error e => .error e)
      fun result => on part (next result)

theorem run_on {τ : Type} (part : Part τ σ) (prog : Program σ ε α) (faults : List Bool) (t : τ) :
    (on part prog).run faults t
      = ((prog.run faults (part.get t)).1, part.set t (prog.run faults (part.get t)).2) := by
  induction prog generalizing faults t with
  | done result => cases faults <;> simp only [on, run, part.set_get]
  | call fault op next ih =>
    have hperform : Program.perform
        (fun t => match op (part.get t) with
          | .ok (b, s) => .ok (b, part.set t s)
          | .error e => .error e) t
        = ((Program.perform op (part.get t)).1,
            part.set t (Program.perform op (part.get t)).2) := by
      cases hop : op (part.get t) <;> simp only [Program.perform, hop, part.set_get]
    match fault, faults with
    | some _, true :: _ => simp only [on, run, ih]
    | none, _ | some _, [] | some _, false :: _ =>
      simp only [on, run, ih, hperform, part.get_set, part.set_set]

/-! ## Where a run ends -/

/-- What a run ends in. -/
def Ends (ok : α → σ → Prop) (err : ε → σ → Prop) : Except ε α × σ → Prop
  | (.ok a, s) => ok a s
  | (.error e, s) => err e s

variable {ok : α → σ → Prop} {err : ε → σ → Prop} {final : Except ε α × σ}

theorem Ends.of_ok {a : α} (h : Ends ok err final) (hresult : final.1 = .ok a) : ok a final.2 := by
  obtain ⟨result, s⟩ := final
  cases hresult
  exact h

theorem Ends.of_error {e : ε}
    (h : Ends ok err final) (hresult : final.1 = .error e) : err e final.2 := by
  obtain ⟨result, s⟩ := final
  cases hresult
  exact h

end Program

end Workbench.Library
