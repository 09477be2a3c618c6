import EspoScripts.Framework.CmdText

/-!
# Text and dates in VBScript

The functions on strings whose characters stand for their ANSI codes: `Chr`,
`Asc`, `Mid`, `Left`, `Right`, `InStr`, `Trim`, `Hex`. Positions count from 1,
and `InStr` is 0 where the text is not found (`instr_pos_iff`); up to a
character it finds, `Left` is all that stands before it (`left_instr`).

A day is a year with the number of the day in it (`Day`); `addDays` and `month`
are `DateAdd` and `Month`, and agree with counting the days one by one on the
calendar (`month_addDays`).
-/

namespace Espo.Vbs

open Espo.Cmd

/-! ## Strings -/

/-- `Chr(n)`: an error beyond the ANSI codes. -/
def chr (n : Nat) : Option Char := if n < 256 then some (Char.ofNat n) else none

/-- `Chr(b)`, of a byte. -/
def chrOf (b : UInt8) : Char := Char.ofNat b.toNat

/-- `Asc(s)`: the code of the first character, and an error if there is none. -/
def asc (s : Line) : Option Nat := s.head?.map Char.toNat

/-- `Mid(s, start, len)`. -/
def mid (s : Line) (start len : Nat) : Line := (s.drop (start - 1)).take len

/-- `Left(s, n)`. -/
def left (s : Line) (n : Nat) : Line := s.take n

/-- `Right(s, n)`. -/
def right (s : Line) (n : Nat) : Line := s.drop (s.length - n)

/-- The first place of a text, the first character standing at `n`. -/
def instrFrom (t : Line) : Nat → Line → Nat
  | _, [] => 0
  | n, c :: s => if t <+: c :: s then n else instrFrom t (n + 1) s

/-- `InStr(s, t)`. -/
def instr (s t : Line) : Nat := instrFrom t 1 s

/-- `Trim(s)`: without the spaces at both ends. -/
def trim (s : Line) : Line := ((s.dropWhile (· == ' ')).reverse.dropWhile (· == ' ')).reverse

/-- `Hex(n)`. -/
def hex (n : Nat) : Line := (Nat.toDigits 16 n).map Char.toUpper

/-- A number joined to a text. -/
def decimal (n : Nat) : Line := Nat.toDigits 10 n

theorem chrOf_toNat (b : UInt8) : (chrOf b).toNat = b.toNat := by
  have hv : b.toNat.isValidChar := .inl (by have := b.toNat_lt; omega)
  rw [chrOf, Char.ofNat, dif_pos hv]
  rfl

theorem chrOf_inj {a b : UInt8} (h : chrOf a = chrOf b) : a = b := by
  rw [← UInt8.toNat_inj, ← chrOf_toNat a, ← chrOf_toNat b, h]

theorem asc_chrOf (b : UInt8) (s : Line) : asc (chrOf b :: s) = some b.toNat := by
  rw [asc, List.head?_cons, Option.map_some, chrOf_toNat]

theorem mid_append (s t : Line) (n : Nat) : mid (s ++ t) (s.length + 1) n = t.take n := by
  rw [mid, Nat.add_sub_cancel, List.drop_left]

/-- What stands in front of the end does not depend on what is added there. -/
theorem mid_append_of_le {s : Line} {start n : Nat} (h : start - 1 + n ≤ s.length) (t : Line) :
    mid (s ++ t) start n = mid s start n := by
  unfold mid
  rw [List.drop_append_of_le_length (by omega), List.take_append_of_le_length (by rw [List.length_drop]; omega)]

theorem right_append {s t : Line} {n : Nat} (h : t.length = n) : right (s ++ t) n = t := by
  have hl : (s ++ t).length - n = s.length := by rw [List.length_append]; omega
  rw [right, hl, List.drop_left]

theorem instrFrom_pos_iff {t : Line} (ht : t ≠ []) : ∀ (s : Line) {n : Nat}, 0 < n →
    (0 < instrFrom t n s ↔ t <:+: s)
  | [], n, _ => by
    rw [instrFrom, List.infix_nil]
    exact ⟨fun h => absurd h (Nat.lt_irrefl 0), fun h => absurd h ht⟩
  | c :: s, n, hn => by
    rw [instrFrom, List.infix_cons_iff]
    by_cases hp : t <+: c :: s
    · rw [if_pos hp]
      exact ⟨fun _ => .inl hp, fun _ => hn⟩
    · rw [if_neg hp, instrFrom_pos_iff ht s (by omega)]
      exact ⟨.inr, fun h => h.resolve_left hp⟩

theorem instr_pos_iff {s t : Line} (ht : t ≠ []) : 0 < instr s t ↔ t <:+: s := instrFrom_pos_iff ht s (by decide)

theorem instrFrom_char {c : Char} : ∀ {s : Line} (n : Nat), c ∈ s →
    instrFrom [c] n s = n + (s.takeWhile (· != c)).length
  | [], _, h => absurd h List.not_mem_nil
  | d :: s, n, h => by
    rw [instrFrom]
    by_cases hd : d = c
    · have ht : (d :: s).takeWhile (· != c) = [] := List.takeWhile_cons_of_neg (by simp [hd])
      rw [if_pos (by simp [hd]), ht]
      rfl
    · have ht : (d :: s).takeWhile (· != c) = d :: s.takeWhile (· != c) :=
        List.takeWhile_cons_of_pos (by simp [hd])
      have hm : c ∈ s := (List.mem_cons.mp h).resolve_left fun e => hd e.symm
      rw [if_neg (by simp [Ne.symm hd]), instrFrom_char (n + 1) hm, ht, List.length_cons]
      omega

/-- `Left(s, InStr(s, c) - 1)`. -/
theorem left_instr {c : Char} {s : Line} (h : c ∈ s) : left s (instr s [c] - 1) = s.takeWhile (· != c) := by
  have hp : s.takeWhile (· != c) <+: s := List.takeWhile_prefix _
  rw [left, instr, instrFrom_char 1 h, Nat.add_sub_cancel_left]
  exact (List.prefix_iff_eq_take.mp hp).symm

theorem instr_char_pos_iff {c : Char} {s : Line} : 0 < instr s [c] ↔ c ∈ s := by
  rw [instr_pos_iff (List.cons_ne_nil c [])]
  refine ⟨fun h => h.subset List.mem_cons_self, fun h => ?_⟩
  obtain ⟨a, b, rfl⟩ := List.append_of_mem h
  exact ⟨a, b, by simp⟩

/-- A text that neither begins nor ends with a space. -/
theorem trim_eq {s : Line} (hh : s.head? ≠ some ' ') (hl : s.getLast? ≠ some ' ') : trim s = s := by
  have hd : ∀ {t : Line}, t.head? ≠ some ' ' → t.dropWhile (· == ' ') = t := by
    intro t ht
    cases t with
    | nil => rfl
    | cons c t => exact List.dropWhile_cons_of_neg (by simpa using ht)
  rw [trim, hd hh, hd (by rwa [List.head?_reverse]), List.reverse_reverse]

/-! ## Dates -/

/-- A day of a year, the first being 0. -/
structure Day where
  year : Nat
  day : Nat
deriving DecidableEq

def isLeap (year : Nat) : Bool := year % 4 == 0 && (year % 100 != 0 || year % 400 == 0)

def yearLength (leap : Bool) : Nat := if leap then 366 else 365

theorem yearLength_pos : ∀ leap, 0 < yearLength leap := by decide

def monthLengths (leap : Bool) : List Nat := [31, if leap then 29 else 28, 31, 30, 31, 30, 31, 31, 30, 31, 30, 31]

/-- `DateAdd`, of a number of days to the first day of a year. -/
def addDays (year days : Nat) : Day :=
  if days < yearLength (isLeap year) then ⟨year, days⟩ else addDays (year + 1) (days - yearLength (isLeap year))
termination_by days
decreasing_by
  have hp := yearLength_pos (isLeap year)
  omega

/-- The month that a day is in, behind months of these lengths. -/
def monthIn : List Nat → Nat → Nat
  | [], _ => 1
  | n :: ns, d => if d < n then 1 else monthIn ns (d - n) + 1

/-- `Month`. -/
def month (d : Day) : Nat := monthIn (monthLengths (isLeap d.year)) d.day

/-! ## Counting days on the calendar -/

/-- A date of the calendar; months and days count from 1. -/
structure Date where
  year : Nat
  month : Nat
  day : Nat
deriving DecidableEq

/-- The days of a month. -/
def daysIn (leap : Bool) (month : Nat) : Nat := (monthLengths leap).getD (month - 1) 31

/-- The days of the first `m` months. -/
def daysOf (leap : Bool) : Nat → Nat
  | 0 => 0
  | m + 1 => daysOf leap m + daysIn leap (m + 1)

namespace Date

/-- The next date. -/
def next (d : Date) : Date :=
  if d.day < daysIn (isLeap d.year) d.month then { d with day := d.day + 1 }
  else if d.month < 12 then ⟨d.year, d.month + 1, 1⟩
  else ⟨d.year + 1, 1, 1⟩

/-- The date `n` days later. -/
def after (d : Date) : Nat → Date
  | 0 => d
  | n + 1 => (d.after n).next

/-- A date that there is. -/
structure Valid (d : Date) : Prop where
  month_pos : 1 ≤ d.month
  month_le : d.month ≤ 12
  day_pos : 1 ≤ d.day
  day_le : d.day ≤ daysIn (isLeap d.year) d.month

/-- The number of a date in its year. -/
def dayOf (d : Date) : Day := ⟨d.year, daysOf (isLeap d.year) (d.month - 1) + (d.day - 1)⟩

end Date

/-- The next day. -/
def Day.next (d : Day) : Day := if d.day + 1 < yearLength (isLeap d.year) then ⟨d.year, d.day + 1⟩ else ⟨d.year + 1, 0⟩

theorem monthIn_dayOf : ∀ leap : Bool, ∀ m < 12, ∀ d < daysIn leap (m + 1),
    monthIn (monthLengths leap) (daysOf leap m + d) = m + 1 := by decide +kernel

theorem daysIn_pos : ∀ leap : Bool, ∀ m < 12, 1 ≤ daysIn leap (m + 1) := by decide

/-- The months make the year. -/
theorem daysOf_year : ∀ leap : Bool, daysOf leap 12 = yearLength leap := by decide

theorem daysOf_lt : ∀ leap : Bool, ∀ m < 12, daysOf leap m < yearLength leap := by decide

theorem Date.Valid.next {d : Date} (h : d.Valid) : d.next.Valid ∧ d.next.dayOf = d.dayOf.next := by
  obtain ⟨y, m, k⟩ := d
  obtain ⟨h₁, h₂, h₃, h₄⟩ := h
  simp only at h₁ h₂ h₃ h₄
  obtain ⟨m, rfl⟩ : ∃ n, m = n + 1 := ⟨m - 1, by omega⟩
  obtain ⟨k, rfl⟩ : ∃ n, k = n + 1 := ⟨k - 1, by omega⟩
  have hs : daysOf (isLeap y) (m + 1) = daysOf (isLeap y) m + daysIn (isLeap y) (m + 1) := rfl
  unfold Date.next Day.next Date.dayOf
  simp only [Nat.add_sub_cancel]
  have hd := daysIn_pos (isLeap y)
  by_cases hm : m + 1 < 12
  · have hn := daysOf_lt (isLeap y) (m + 1) hm
    have hy : daysOf (isLeap y) m + k + 1 < yearLength (isLeap y) := by omega
    rw [if_pos hm, if_pos hy]
    by_cases hk : k + 1 < daysIn (isLeap y) (m + 1)
    · rw [if_pos hk]
      exact ⟨⟨h₁, h₂, Nat.le_add_left 1 _, hk⟩, rfl⟩
    · rw [if_neg hk]
      refine ⟨⟨Nat.le_add_left 1 _, hm, Nat.le_refl 1, hd (m + 1) hm⟩, ?_⟩
      show Day.mk y (daysOf (isLeap y) (m + 1) + 0) = _
      rw [hs]
      congr 1
      omega
  · have hl : daysOf (isLeap y) (m + 1) = yearLength (isLeap y) := by
      rw [show m + 1 = 12 by omega]
      exact daysOf_year (isLeap y)
    rw [if_neg hm]
    by_cases hk : k + 1 < daysIn (isLeap y) (m + 1)
    · have hy : daysOf (isLeap y) m + k + 1 < yearLength (isLeap y) := by omega
      rw [if_pos hk, if_pos hy]
      exact ⟨⟨h₁, h₂, Nat.le_add_left 1 _, hk⟩, rfl⟩
    · have hy : ¬ daysOf (isLeap y) m + k + 1 < yearLength (isLeap y) := by omega
      rw [if_neg hk, if_neg hy]
      exact ⟨⟨Nat.le_refl 1, Nat.le_add_left 1 11, Nat.le_refl 1,
        daysIn_pos (isLeap (y + 1)) 0 (Nat.zero_lt_succ _)⟩, rfl⟩

theorem addDays_succ (year days : Nat) : addDays year (days + 1) = (addDays year days).next := by
  induction year, days using addDays.induct with
  | case1 year days h =>
    rw [addDays.eq_1 year days, if_pos h, addDays.eq_1 year (days + 1), Day.next]
    by_cases hd : days + 1 < yearLength (isLeap year)
    · rw [if_pos hd, if_pos hd]
    · have h0 : days + 1 - yearLength (isLeap year) = 0 := by omega
      rw [if_neg hd, if_neg hd, h0, addDays, if_pos (yearLength_pos _)]
  | case2 year days h ih =>
    have hs : days + 1 - yearLength (isLeap year) = days - yearLength (isLeap year) + 1 := by omega
    rw [addDays.eq_1 year days, if_neg h, addDays.eq_1 year (days + 1), if_neg (by omega), hs, ih]

/-- `DateAdd` counts on, day by day. -/
theorem dayOf_after (year : Nat) : ∀ days, ((Date.mk year 1 1).after days).Valid ∧
    ((Date.mk year 1 1).after days).dayOf = addDays year days
  | 0 => by
    refine ⟨⟨Nat.le_refl 1, Nat.le_add_left 1 11, Nat.le_refl 1, daysIn_pos (isLeap year) 0 (by decide)⟩, ?_⟩
    rw [addDays, if_pos (yearLength_pos _)]
    rfl
  | days + 1 => by
    obtain ⟨hv, hd⟩ := dayOf_after year days
    rw [addDays_succ, ← hd]
    exact hv.next

/-- `Month` of it is the month of the calendar. -/
theorem month_addDays (year days : Nat) : month (addDays year days) = ((Date.mk year 1 1).after days).month := by
  obtain ⟨hv, hd⟩ := dayOf_after year days
  obtain ⟨h₁, h₂, h₃, h₄⟩ := hv
  rw [← hd]
  generalize (Date.mk year 1 1).after days = d at h₁ h₂ h₃ h₄ ⊢
  have hm : d.month - 1 + 1 = d.month := Nat.sub_add_cancel h₁
  have hi := monthIn_dayOf (isLeap d.year) (d.month - 1) (by omega) (d.day - 1) (by rw [hm]; omega)
  exact hi.trans hm

end Espo.Vbs
