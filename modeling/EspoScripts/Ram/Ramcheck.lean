import EspoScripts.Framework.Run
import EspoScripts.Framework.SetA

/-!
# ramcheck.bat and ramcheck - Greg.bat

Both scripts add up the sizes of the memory modules in MB. To fit 32 bits a
size in bytes is cut by its last digit and divided by 104857, a tenth of
a MB (`slotot`). Below 20 GB this is exact (`eval_slot`); from there on the
numeral is an error, and the size of the module before is counted once more
(`slotot_ok`).

`ramcheckGreg` runs in the variables of its session, `ramcheck` between
SETLOCAL and the end of the script. `total_iff` says when the totals they
print are right.
-/

namespace Espo.Ram

open Espo.Cmd Espo.Run

/-- The variables of the scripts that SET /A assigns. -/
inductive Var where
  | MBT | MBT1 | MEMPHYMB | MEMSLOMB | MEMTOTIN
deriving DecidableEq

/-- A memory module, of a whole number of MB. -/
structure Module where
  mb : Nat
  pos : 0 < mb

/-- Its capacity in bytes. -/
def Module.capacity (m : Module) : Nat := m.mb * 2 ^ 20

/-- What wmic reports: the memory available to the system, in bytes, and the modules. -/
structure Report where
  physical : Nat
  modules : List Module

/-- `SET /A MBT=1024*1024-1` and `SET /A MBT1=MBT/10`. -/
def setMbt (env : Env Var) : Env Var :=
  setA .MBT1 (.div (.var .MBT) (.num "10".toList))
    (setA .MBT (.sub (.mul (.num "1024".toList) (.num "1024".toList)) (.num "1".toList)) env)

/-- `%n:~0,-1%/MBT1`, for a variable that holds the numeral of `n`. -/
def tenthOver (n : Nat) : Expr Var := .div (.num (Nat.toDigits 10 n).dropLast) (.var .MBT1)

/-- `:phystot`. -/
def phystot (env : Env Var) (memphy : Nat) : Env Var := setA .MEMPHYMB (tenthOver memphy) env

/-- `:slotot`. -/
def slotot (env : Env Var) (m : Module) : Env Var :=
  setA .MEMTOTIN (.add (.var .MEMTOTIN) (.var .MEMSLOMB)) (setA .MEMSLOMB (tenthOver m.capacity) env)

/-- The part the two scripts share. -/
def addUp (env : Env Var) (r : Report) : Env Var := r.modules.foldl slotot (phystot (setMbt env) r.physical)

/-- The text of a variable: nothing, or the number. -/
def printed (env : Env Var) (v : Var) : Option Int := (env v).map BitVec.toInt

/-- ramcheck - Greg.bat: the session's variables after it, and the total it prints. -/
def ramcheckGreg (env : Env Var) (r : Report) : Env Var × Option Int :=
  (addUp env r, printed (addUp env r) .MEMTOTIN)

/-- ramcheck.bat: SETLOCAL, so the session's variables stay as they are. -/
def ramcheck (env : Env Var) (r : Report) : Env Var × Option Int :=
  (env, printed (addUp env r) .MEMTOTIN)

/-- The variables of a new session. -/
def session : Env Var := fun _ => none

/-- The installed memory in MB. -/
def Report.installed (r : Report) : Nat := (r.modules.map Module.mb).sum

/-! ## One module -/

/-- A module whose size fits once its last digit is cut: less than 20 GB. -/
def Module.fits (m : Module) : Bool := m.mb ≤ 20479

theorem setMbt_MBT1 (env : Env Var) : setMbt env .MBT1 = some (BitVec.ofNat 32 104857) := by
  apply setA_self
  have h : eval (setA .MBT (.sub (.mul (.num "1024".toList) (.num "1024".toList)) (.num "1".toList)) env)
      (.var .MBT) = some (BitVec.ofNat 32 1048575) := by
    rw [eval, setA_self (x := BitVec.ofNat 32 1048575) rfl]
    rfl
  rw [eval, h]
  rfl

/-- The size in MB of a module that fits is exact; of one that does not it is an error. -/
theorem eval_slot {env : Env Var} (h : env .MBT1 = some (BitVec.ofNat 32 104857)) (m : Module) :
    eval env (tenthOver m.capacity) = if m.fits then some (BitVec.ofNat 32 m.mb) else none := by
  have hp := m.pos
  have hc : m.capacity = m.mb * 1048576 := rfl
  simp only [tenthOver, eval, dropLast_toDigits (show 10 ≤ m.capacity by omega), numeral_toDigits, h,
    Option.getD_some]
  by_cases hf : m.mb ≤ 20479
  · rw [if_neg (by omega), Option.bind_some, Option.bind_some, if_neg (by decide),
      sdiv_ofNat (by omega) (by decide), Module.fits, if_pos (by simpa using hf)]
    -- 104857 goes into 104857.6 · mb just mb times, the remainder being 0.6 · mb
    rw [show m.capacity / 10 / 104857 = m.mb by omega]
  · rw [if_pos (by omega), Module.fits, if_neg (by simpa using hf)]
    rfl

/-- What a variable counts as. -/
def counts (env : Env Var) (v : Var) : Nat := ((env v).getD 0).toNat

/-- A module: its size, or else that of the one before, is added to the total. -/
theorem slotot_ok {env : Env Var} (h : env .MBT1 = some (BitVec.ofNat 32 104857)) (m : Module) :
    slotot env m .MBT1 = some (BitVec.ofNat 32 104857) ∧
    counts (slotot env m) .MEMSLOMB = (if m.fits then m.mb else counts env .MEMSLOMB) ∧
    ∃ t, slotot env m .MEMTOTIN = some t ∧
      t.toNat = (counts env .MEMTOTIN + if m.fits then m.mb else counts env .MEMSLOMB) % 2 ^ 32 := by
  have hs : counts (setA .MEMSLOMB (tenthOver m.capacity) env) .MEMSLOMB =
      if m.fits then m.mb else counts env .MEMSLOMB := by
    cases hf : m.fits with
    | false =>
      have he := eval_slot h m
      rw [hf] at he
      rw [setA_of_error he]
      rfl
    | true =>
      have he := eval_slot h m
      rw [hf, if_pos rfl] at he
      have hb : m.mb ≤ 20479 := by simpa [Module.fits] using hf
      rw [counts, setA_self he, Option.getD_some, BitVec.toNat_ofNat, if_pos rfl]
      omega
  refine ⟨?_, ?_, _, setA_self rfl, ?_⟩
  · rw [slotot, setA_of_ne (by decide), setA_of_ne (by decide), h]
  · rw [← hs, counts, slotot, setA_of_ne (by decide)]
    rfl
  · rw [← hs, BitVec.toNat_add, setA_of_ne (by decide)]
    rfl

/-! ## The total -/

/-- What is counted for the modules that do not fit: each time the size of the one
before, `s` for the first. -/
def standIns : Nat → List Module → Nat
  | _, [] => 0
  | s, m :: ms => if m.fits then standIns m.mb ms else s + standIns s ms

/-- The size of the modules that do not fit. -/
def tooBig : List Module → Nat
  | [] => 0
  | m :: ms => (if m.fits then 0 else m.mb) + tooBig ms

/-- The size of those that do. -/
def fitting : List Module → Nat
  | [] => 0
  | m :: ms => (if m.fits then m.mb else 0) + fitting ms

theorem sum_eq (ms : List Module) : (ms.map Module.mb).sum = fitting ms + tooBig ms := by
  induction ms with
  | nil => rfl
  | cons m ms ih =>
    rw [List.map_cons, List.sum_cons, ih, fitting, tooBig]
    split <;> omega

/-- The modules, by induction on them: the total is that before, the modules that fit,
and the stand-ins for the others. -/
theorem slots_ok : ∀ (ms : List Module) {env : Env Var}, env .MBT1 = some (BitVec.ofNat 32 104857) →
    counts (ms.foldl slotot env) .MEMTOTIN =
        (counts env .MEMTOTIN + fitting ms + standIns (counts env .MEMSLOMB) ms) % 2 ^ 32 ∧
      (ms.foldl slotot env .MEMTOTIN = none ↔ ms = [] ∧ env .MEMTOTIN = none)
  | [], env, _ => by
    have := ((env .MEMTOTIN).getD 0).isLt
    refine ⟨?_, by simp⟩
    rw [List.foldl_nil, fitting, standIns]
    exact (Nat.mod_eq_of_lt this).symm
  | m :: ms, env, h => by
    obtain ⟨h₁, hs, t, ht, htn⟩ := slotot_ok h m
    obtain ⟨ih, ihn⟩ := slots_ok ms h₁
    have hc : counts (slotot env m) .MEMTOTIN = t.toNat := by rw [counts, ht]; rfl
    rw [List.foldl_cons]
    refine ⟨?_, by rw [ihn, ht]; simp⟩
    rw [ih, hc, htn, hs, fitting, standIns]
    split <;> omega

theorem start_ok (env : Env Var) (p : Nat) :
    phystot (setMbt env) p .MBT1 = some (BitVec.ofNat 32 104857) ∧
    phystot (setMbt env) p .MEMTOTIN = env .MEMTOTIN ∧ phystot (setMbt env) p .MEMSLOMB = env .MEMSLOMB := by
  refine ⟨?_, ?_, ?_⟩
  · rw [phystot, setA_of_ne (by decide), setMbt_MBT1]
  all_goals rw [phystot, setA_of_ne (by decide), setMbt, setA_of_ne (by decide), setA_of_ne (by decide)]

/-- When the total is right after earlier runs in the same session: there has been a
module, the total fits 32 bits with a sign, and what the earlier runs left in
`MEMTOTIN` and what stands in for the modules that do not fit make up for these. -/
structure Carried (env : Env Var) (r : Report) : Prop where
  defined : r.modules ≠ [] ∨ env .MEMTOTIN ≠ none
  small : r.installed < 2 ^ 31
  made_up : (counts env .MEMTOTIN + standIns (counts env .MEMSLOMB) r.modules) % 2 ^ 32 =
    tooBig r.modules % 2 ^ 32

theorem printed_addUp (env : Env Var) (r : Report) :
    printed (addUp env r) .MEMTOTIN = some (r.installed : Int) ↔ Carried env r := by
  obtain ⟨h₁, ht, hs⟩ := start_ok env r.physical
  obtain ⟨hc, hn⟩ := slots_ok r.modules h₁
  have ht' : counts (phystot (setMbt env) r.physical) .MEMTOTIN = counts env .MEMTOTIN := by
    rw [counts, ht]; rfl
  have hs' : counts (phystot (setMbt env) r.physical) .MEMSLOMB = counts env .MEMSLOMB := by
    rw [counts, hs]; rfl
  rw [ht', hs'] at hc
  rw [ht] at hn
  have hi : r.installed = fitting r.modules + tooBig r.modules := sum_eq r.modules
  rw [printed, addUp]
  cases hv : r.modules.foldl slotot (phystot (setMbt env) r.physical) .MEMTOTIN with
  | none =>
    have := hn.mp hv
    exact iff_of_false (by simp) fun hcar => hcar.defined.elim (absurd this.1) (absurd this.2)
  | some x =>
    have hx : x.toNat = (counts env .MEMTOTIN + fitting r.modules +
        standIns (counts env .MEMSLOMB) r.modules) % 2 ^ 32 := by rw [← hc, counts, hv]; rfl
    have hd : r.modules ≠ [] ∨ env .MEMTOTIN ≠ none := by
      have h := mt hn.mpr (by rw [hv]; simp)
      exact Classical.not_and_iff_not_or_not.mp h
    rw [Option.map_some, Option.some.injEq, toInt_eq_iff, hx, hi]
    constructor
    · rintro ⟨hsm, he⟩
      exact ⟨hd, by rw [hi]; exact hsm, by omega⟩
    · rintro ⟨-, hsm, he⟩
      exact ⟨by rw [← hi]; exact hsm, by omega⟩

/-! ## Fresh variables -/

/-- A stand-in is smaller than the module it stands for. -/
theorem standIns_le : ∀ {s : Nat} (ms : List Module), s ≤ 20479 →
    standIns s ms ≤ tooBig ms ∧ (standIns s ms = tooBig ms → ∀ m ∈ ms, m.fits = true)
  | _, [], _ => ⟨Nat.le_refl _, by simp⟩
  | s, m :: ms, hs => by
    rw [standIns, tooBig]
    cases hf : m.fits with
    | true =>
      have hm : m.mb ≤ 20479 := by simpa [Module.fits] using hf
      obtain ⟨h₁, h₂⟩ := standIns_le ms hm
      simp only [if_true, Nat.zero_add]
      exact ⟨h₁, fun he => List.forall_mem_cons.mpr ⟨hf, h₂ he⟩⟩
    | false =>
      have hm : ¬ m.mb ≤ 20479 := by simpa [Module.fits] using hf
      obtain ⟨h₁, -⟩ := standIns_le ms hs
      simp only [Bool.false_eq_true, if_false]
      exact ⟨by omega, fun he => by omega⟩

theorem tooBig_of_fits : ∀ {ms : List Module}, (∀ m ∈ ms, m.fits = true) → ∀ s, standIns s ms = tooBig ms
  | [], _, _ => rfl
  | m :: ms, h, s => by
    rw [List.forall_mem_cons] at h
    rw [standIns, tooBig, if_pos h.1, if_pos h.1, tooBig_of_fits h.2, Nat.zero_add]

/-- In a new session the total is right just when there is a module, all are below
20 GB, and their sum fits 32 bits with a sign. -/
theorem carried_session (r : Report) : Carried session r ↔
    r.modules ≠ [] ∧ (∀ m ∈ r.modules, m.fits = true) ∧ r.installed < 2 ^ 31 := by
  have hc : ∀ v, counts session v = 0 := fun v => rfl
  obtain ⟨hle, hall⟩ := standIns_le (s := 0) r.modules (by decide)
  have hi : r.installed = fitting r.modules + tooBig r.modules := sum_eq r.modules
  constructor
  · rintro ⟨hd, hs, he⟩
    rw [hc, hc] at he
    exact ⟨hd.resolve_right (fun h => h rfl), hall (by omega), hs⟩
  · rintro ⟨hn, hf, hs⟩
    refine ⟨.inl hn, hs, ?_⟩
    rw [hc, hc, tooBig_of_fits hf, Nat.zero_add]

theorem after_ramcheck (hist : List Report) : after ramcheck session hist = session :=
  after_inv (P := fun env => env = session) (fun _ _ h => h) hist rfl

/-- After any earlier runs in the session, the total ramcheck - Greg.bat prints is the
installed memory just when what the earlier runs left is `Carried`, and the one
ramcheck.bat prints just when there is a module, all are below 20 GB, and their sum
fits 32 bits with a sign. -/
theorem total_iff (hist : List Report) (r : Report) :
    ((ramcheckGreg (after ramcheckGreg session hist) r).2 = some (r.installed : Int) ↔
        Carried (after ramcheckGreg session hist) r) ∧
      ((ramcheck (after ramcheck session hist) r).2 = some (r.installed : Int) ↔
        r.modules ≠ [] ∧ (∀ m ∈ r.modules, m.fits = true) ∧ r.installed < 2 ^ 31) := by
  rw [after_ramcheck, ← carried_session]
  exact ⟨printed_addUp _ r, printed_addUp _ r⟩

/-- One module of 4 GB. -/
def fourGB : Report := ⟨4294967296, [⟨4096, by decide⟩]⟩

/-- One module of 32 GB. -/
def thirtyTwoGB : Report := ⟨34359738368, [⟨32768, by decide⟩]⟩

/-- A second run prints twice the memory, and a module of 32 GB is not counted. -/
theorem total_wrong :
    (ramcheckGreg (after ramcheckGreg session [fourGB]) fourGB).2 = some 8192 ∧ fourGB.installed = 4096 ∧
      (ramcheck session thirtyTwoGB).2 = some 0 ∧ thirtyTwoGB.installed = 32768 := by decide

end Espo.Ram
