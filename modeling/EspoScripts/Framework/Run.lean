/-!
# Runs of a step function

A component is a step function: from a state and an input it gives the next
state and an output. `after` is the state after a list of inputs, and
`after_inv` the invariant rule. `times` repeats a step without inputs, with
the same rule (`times_inv`).
-/

namespace Espo.Run

variable {S I O : Type} {step : S → I → S × O}

/-- The state after the inputs `is`. -/
def after (step : S → I → S × O) (s : S) (is : List I) : S := is.foldl (fun s i => (step s i).1) s

@[simp] theorem after_nil (s : S) : after step s [] = s := rfl

@[simp] theorem after_cons (s : S) (i : I) (is : List I) :
    after step s (i :: is) = after step (step s i).1 is := rfl

theorem after_append (s : S) (is js : List I) :
    after step s (is ++ js) = after step (after step s is) js := by
  simp only [after, List.foldl_append]

/-- The outputs of the inputs `is`. -/
def outputs (step : S → I → S × O) (s : S) : List I → List O
  | [] => []
  | i :: is => (step s i).2 :: outputs step (step s i).1 is

/-- What every step keeps, a run keeps. -/
theorem after_inv {P : S → Prop} (h : ∀ s i, P s → P (step s i).1) :
    ∀ (is : List I) {s : S}, P s → P (after step s is)
  | [], _, hs => hs
  | i :: is, s, hs => after_inv h is (h s i hs)

/-- A step run `n` times. -/
def times (f : S → S) : Nat → S → S
  | 0, s => s
  | n + 1, s => times f n (f s)

/-- What a step keeps, repeating it keeps. -/
theorem times_inv {f : S → S} {P : S → Prop} (h : ∀ s, P s → P (f s)) :
    ∀ (n : Nat) {s : S}, P s → P (times f n s)
  | 0, _, hs => hs
  | n + 1, s, hs => times_inv h n (h s hs)

/-- A step repeated where it no longer changes anything. -/
theorem times_of_fix {f : S → S} {s : S} (h : f s = s) : ∀ n, times f n s = s
  | 0 => rfl
  | n + 1 => by rw [times, h, times_of_fix h n]

/-- A step that changes nothing the second time. -/
theorem times_idem {f : S → S} {s : S} (h : f (f s) = f s) : ∀ n, times f n s = if n = 0 then s else f s
  | 0 => rfl
  | n + 1 => by rw [times, times_of_fix h n, if_neg (Nat.succ_ne_zero n)]

end Espo.Run
