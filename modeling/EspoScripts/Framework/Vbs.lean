import EspoScripts.Framework.CmdText

/-!
# Runtime errors in VBScript

A script changes a state and may raise a runtime error, which ends the
procedure in the state reached (`Script`). Under `On Error Resume Next` an
error of a statement is kept in `Err` and the next statement runs
(`covered`); an error in the condition of an `If` runs the `Then` block
(`coveredIf`). `Err` stays until it is cleared.
-/

namespace Espo.Vbs

open Espo.Cmd

/-- A runtime error. -/
structure RuntimeError where
  number : Int
  description : Line
  number_ne : number ≠ 0
deriving DecidableEq

/-- Error 5, of `Left` with a negative length, `Asc` of an empty text and `Chr` beyond the
ANSI codes. -/
def invalidCall : RuntimeError := ⟨5, "Invalid procedure call or argument".toList, by decide⟩

/-- Statements over a state `S`: an error keeps the state it is raised in. -/
abbrev Script (S α : Type) := EStateM RuntimeError S α

/-- The state a script ends in. -/
def finalState {S α : Type} : EStateM.Result RuntimeError S α → S
  | .ok _ s => s
  | .error _ s => s

/-- The variables `V` of a script, its `Err` object (none for number 0), and what it
has done so far. -/
structure World (V E : Type) where
  vars : V
  err : Option RuntimeError
  events : List E

variable {V E : Type}

/-- A statement that does something. -/
def emit (e : E) : Script (World V E) Unit := modify fun w => { w with events := w.events ++ [e] }

/-- A call of something outside the script: it succeeds, or raises the error. -/
def attempt {S : Type} : Option RuntimeError → Script S Unit
  | none => pure ()
  | some e => throw e

/-- A statement under `On Error Resume Next`. -/
def covered (x : Script (World V E) Unit) : Script (World V E) Unit := fun w =>
  match x w with
  | .ok a w' => .ok a w'
  | .error e w' => .ok () { w' with err := some e }

/-- `If c Then t Else f` under `On Error Resume Next`. -/
def coveredIf (c : Script (World V E) Bool) (t f : Script (World V E) Unit) :
    Script (World V E) Unit := fun w =>
  match c w with
  | .ok true w' => t w'
  | .ok false w' => f w'
  | .error e w' => t { w' with err := some e }

/-- `If c Then t Else f`. -/
def ifThenElse {S α : Type} (c : Script S Bool) (t f : Script S α) : Script S α := do
  if ← c then t else f

/-- `For Each`. -/
def forEach {S α : Type} : List α → (α → Script S Unit) → Script S Unit
  | [], _ => pure ()
  | a :: as, body => do
    body a
    forEach as body

/-- `Err.Clear`. -/
def errClear : Script (World V E) Unit := modify fun w => { w with err := none }

/-- Executing `On Error Resume Next` clears `Err`. -/
def onErrorResumeNext : Script (World V E) Unit := errClear

/-- An object variable: never set, or set to an object. -/
inductive Ref (O : Type) where
  | empty
  | object (o : O)

/-- Error 424. -/
def objectRequired : RuntimeError := ⟨424, "Object required".toList, by decide⟩

/-- `x Is Nothing`, for a variable that is never set to Nothing. -/
def isNothing {S O : Type} : Ref O → Script S Bool
  | .empty => throw objectRequired
  | .object _ => pure false

/-! ## Running scripts -/

section

variable {S α β : Type} {s s' : S}

/-- What runs behind a statement that ends. -/
theorem bind_ok {x : Script S α} {f : α → Script S β} {a : α} (h : x s = .ok a s') : (x >>= f) s = f a s' := by
  simp only [bind, EStateM.bind, h]

/-- What runs behind one that raises an error. -/
theorem bind_error {x : Script S α} {f : α → Script S β} {e : RuntimeError} (h : x s = .error e s') :
    (x >>= f) s = .error e s' := by
  simp only [bind, EStateM.bind, h]

theorem ifThenElse_true {c : Script S Bool} (h : c s = .ok true s') (t f : Script S α) :
    ifThenElse c t f s = t s' := bind_ok h

theorem ifThenElse_false {c : Script S Bool} (h : c s = .ok false s') (t f : Script S α) :
    ifThenElse c t f s = f s' := bind_ok h

end

/-- The script ends without an error, with a value and variables that meet `Q`. -/
def Ends {α : Type} (x : Script (World V E) α) (w : World V E) (Q : α → V → Prop) : Prop :=
  ∃ a w', x w = .ok a w' ∧ Q a w'.vars

namespace Ends

variable {α β : Type} {w : World V E}

theorem ret {Q : α → V → Prop} {a : α} (h : Q a w.vars) : Ends (pure a) w Q := ⟨a, w, rfl, h⟩

theorem bind {x : Script (World V E) α} {f : α → Script (World V E) β} {P : α → V → Prop} {Q : β → V → Prop}
    (hx : Ends x w P) (hf : ∀ a w', P a w'.vars → Ends (f a) w' Q) : Ends (x >>= f) w Q := by
  obtain ⟨a, w', e, hp⟩ := hx
  obtain ⟨b, w'', e', hq⟩ := hf a w' hp
  exact ⟨b, w'', by rw [bind_ok e, e'], hq⟩

theorem mono {x : Script (World V E) α} {P Q : α → V → Prop} (hx : Ends x w P) (h : ∀ a d, P a d → Q a d) :
    Ends x w Q := by
  obtain ⟨a, w', e, hp⟩ := hx
  exact ⟨a, w', e, h a _ hp⟩

/-- A message does not touch the variables. -/
theorem emit (e : E) : Ends (Vbs.emit e) w fun _ d => d = w.vars := ⟨(), _, rfl, rfl⟩

theorem errClear : Ends Vbs.errClear w fun _ d => d = w.vars := ⟨(), _, rfl, rfl⟩

/-- What runs behind a statement that leaves the variables alone. -/
theorem after {x : Script (World V E) α} {f : α → Script (World V E) β} {Q : β → V → Prop}
    (hx : Ends x w fun _ d => d = w.vars) (hf : ∀ a w', w'.vars = w.vars → Ends (f a) w' Q) :
    Ends (x >>= f) w Q :=
  hx.bind hf

theorem then_iff {c : Script (World V E) Bool} {t f : Script (World V E) α} {Q : α → V → Prop}
    (h : c w = .ok true w) : Ends (ifThenElse c t f) w Q ↔ Ends t w Q := by
  rw [Ends, ifThenElse_true h]
  exact Iff.rfl

theorem else_iff {c : Script (World V E) Bool} {t f : Script (World V E) α} {Q : α → V → Prop}
    (h : c w = .ok false w) : Ends (ifThenElse c t f) w Q ↔ Ends f w Q := by
  rw [Ends, ifThenElse_false h]
  exact Iff.rfl

/-- A script that raises an error does not end. -/
theorem not_of_error {x : Script (World V E) α} {e : RuntimeError} {w' : World V E} (h : x w = .error e w')
    (Q : α → V → Prop) : ¬ Ends x w Q := by
  rintro ⟨a, w'', e', -⟩
  rw [h] at e'
  cases e'

/-- Nor does one that raises it behind a statement that ends, -/
theorem not_bind {x : Script (World V E) α} {f : α → Script (World V E) β} {P : α → V → Prop} {Q : β → V → Prop}
    (hx : Ends x w P) (hf : ∀ a w', P a w'.vars → ¬ Ends (f a) w' Q) : ¬ Ends (x >>= f) w Q := by
  obtain ⟨a, w', e, hp⟩ := hx
  rintro ⟨b, w'', e', hq⟩
  rw [bind_ok e] at e'
  exact hf a w' hp ⟨b, w'', e', hq⟩

/-- or in its first statement. -/
theorem not_bind_left {x : Script (World V E) α} {f : α → Script (World V E) β} {Q : β → V → Prop}
    (hx : ∀ P, ¬ Ends x w P) : ¬ Ends (x >>= f) w Q := by
  rintro ⟨b, w', e, -⟩
  cases h : x w with
  | ok a w'' => exact hx (fun _ _ => True) ⟨a, w'', h, trivial⟩
  | error err w'' =>
    rw [bind_error h] at e
    cases e

end Ends

/-- However a script ends, the variables have changed as `R` allows. -/
def Keeps {α : Type} (R : V → V → Prop) (x : Script (World V E) α) : Prop :=
  ∀ w, R w.vars (finalState (x w)).vars

namespace Keeps

variable {α β : Type} {R : V → V → Prop}

theorem bind (trans : ∀ u v w, R u v → R v w → R u w) {x : Script (World V E) α} {f : α → Script (World V E) β}
    (hx : Keeps R x) (hf : ∀ a, Keeps R (f a)) : Keeps R (x >>= f) := by
  intro w
  have h := hx w
  cases e : x w with
  | ok a w' =>
    rw [e] at h
    rw [bind_ok e]
    exact trans _ _ _ h (hf a w')
  | error err w' =>
    rw [e] at h
    rw [bind_error e]
    exact h

section

variable (refl : ∀ v, R v v)

include refl

theorem ret (a : α) : Keeps R (pure a : Script (World V E) α) := fun w => refl w.vars

theorem emit (e : E) : Keeps R (Vbs.emit e : Script (World V E) Unit) := fun w => refl w.vars

theorem errClear : Keeps R (Vbs.errClear : Script (World V E) Unit) := fun w => refl w.vars

theorem state : Keeps R (get : Script (World V E) (World V E)) := fun w => refl w.vars

theorem attempt : ∀ e, Keeps R (Vbs.attempt e : Script (World V E) Unit)
  | none => ret refl ()
  | some _ => fun w => refl w.vars

theorem forEach (trans : ∀ u v w, R u v → R v w → R u w) {body : α → Script (World V E) Unit}
    (h : ∀ a, Keeps R (body a)) : ∀ as : List α, Keeps R (Vbs.forEach as body)
  | [] => ret refl ()
  | a :: as => bind trans (h a) fun _ => forEach trans h as

end

theorem ifThenElse (trans : ∀ u v w, R u v → R v w → R u w) {c : Script (World V E) Bool}
    {t f : Script (World V E) α} (hc : Keeps R c) (ht : Keeps R t) (hf : Keeps R f) :
    Keeps R (Vbs.ifThenElse c t f) :=
  bind trans hc fun b => by
    cases b with
    | true => exact ht
    | false => exact hf

end Keeps

end Espo.Vbs
