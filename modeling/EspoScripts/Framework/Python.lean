import EspoScripts.Framework.CmdText
import EspoScripts.Framework.Replace

/-!
# Python 2 scripts

A script sends out events and may end early, by `sys.exit` or an exception
(`Script`). Strings are lists of characters: `rstrip`, `lower`, `strip`,
`int(s, base)` (`int`), and `struct.pack('B', …)` on two digits at a time
(`packHex`).

A call may raise, depending on those that went through before it; then the
script ends there. `Sends` describes a script by the calls it tries: what goes
through is all of them up to the first that raises (`taken`), and the script
ends without an exception just when none does. `Sends.bind` and
`Sends.forEach` are the rules for statements and loops.

`packHex_of_hexBytes`: on text that is hex digits in pairs, `packHex` gives
the bytes they spell.
-/

namespace Espo.Py

open Espo.Cmd

/-- What ends a script: `sys.exit`, or an exception. -/
inductive Stop where
  | exit (code : Nat)
  | indexError
  | valueError
  | structError
  | ioError
  | socketError
deriving DecidableEq

/-- Statements of a script, on the events `E` so far. -/
abbrev Script (E α : Type) := EStateM Stop (List E) α

section

variable {E α : Type}

/-- A statement that does something. -/
def emit (e : E) : Script E Unit := modify (· ++ [e])

/-- A value that may be an exception. -/
def orRaise (s : Stop) : Option α → Script E α
  | some a => pure a
  | none => throw s

/-- `for a in as`. -/
def forEach : List α → (α → Script E Unit) → Script E Unit
  | [], _ => pure ()
  | a :: as, body => do
    body a
    forEach as body

/-- The events of a run. -/
def eventsOf : EStateM.Result Stop (List E) α → List E
  | .ok _ es => es
  | .error _ es => es

section

variable {β : Type} {x : Script E α} {f : α → Script E β} {es es' : List E}

/-- What runs behind a statement that ends. -/
theorem bind_ok {a : α} (h : x es = .ok a es') : (x >>= f) es = f a es' := by
  simp only [bind, EStateM.bind, h]

theorem emit_ok (e : E) (es : List E) : emit e es = .ok () (es ++ [e]) := rfl

/-- What runs behind one that does not. -/
theorem bind_error {s : Stop} (h : x es = .error s es') : (x >>= f) es = .error s es' := by
  simp only [bind, EStateM.bind, h]

end

/-- A loop over two lists. -/
theorem forEach_append (body : α → Script E Unit) : ∀ as bs : List α,
    forEach (as ++ bs) body = forEach as body >>= fun _ => forEach bs body
  | [], bs => rfl
  | a :: as, bs => by
    rw [List.cons_append, forEach, forEach_append body as bs, forEach, bind_assoc]

end

/-! ## Calls that may raise -/

section

variable {D : Type}

/-- Of calls tried one after the other, those that go through: all up to the first that
raises, behind those before. -/
def taken (raises : List D → D → Bool) : List D → List D → List D
  | _, [] => []
  | before, d :: ds => if raises before d then [] else d :: taken raises (before ++ [d]) ds

variable {raises : List D → D → Bool}

theorem taken_append_of_eq : ∀ {before ds : List D}, taken raises before ds = ds → ∀ es,
    taken raises before (ds ++ es) = ds ++ taken raises (before ++ ds) es
  | before, [], _, es => by rw [List.append_nil, List.nil_append, List.nil_append]
  | before, d :: ds, h, es => by
    rw [taken] at h
    rw [List.cons_append, taken]
    split at h
    · cases h
    · rename_i hr
      have e : before ++ [d] ++ ds = before ++ d :: ds := (List.append_cons _ _ _).symm
      rw [if_neg hr, taken_append_of_eq (List.cons.inj h).2, List.cons_append, e]

theorem taken_append_of_ne : ∀ {before ds : List D}, taken raises before ds ≠ ds → ∀ es,
    taken raises before (ds ++ es) = taken raises before ds
  | before, [], h, _ => absurd rfl h
  | before, d :: ds, h, es => by
    rw [List.cons_append, taken, taken]
    split
    · rfl
    · rename_i hr
      rw [taken, if_neg hr] at h
      rw [taken_append_of_ne fun e => h (congrArg (d :: ·) e)]

theorem prefix_taken : ∀ (before ds : List D), taken raises before ds <+: ds
  | _, [] => List.prefix_rfl
  | before, d :: ds => by
    rw [taken]
    split
    · exact List.nil_prefix
    · exact List.cons_prefix_cons.mpr ⟨rfl, prefix_taken _ ds⟩

/-- A call is among those that go through just when somewhere it is tried and it and all
before it go through. -/
theorem mem_taken_iff {d : D} {before ds : List D} : d ∈ taken raises before ds ↔
    ∃ as bs, ds = as ++ d :: bs ∧ taken raises before (as ++ [d]) = as ++ [d] := by
  constructor
  · intro h
    obtain ⟨as, cs, e⟩ := List.append_of_mem h
    obtain ⟨bs, hb⟩ : taken raises before ds <+: ds := prefix_taken before ds
    refine ⟨as, cs ++ bs, by rw [← hb, e, List.append_assoc, List.cons_append], ?_⟩
    have e' : ds = as ++ [d] ++ (cs ++ bs) := by rw [← hb, e]; simp
    refine Classical.byContradiction fun hc => ?_
    rw [e', taken_append_of_ne hc] at e
    have hp : taken raises before (as ++ [d]) <+: as ++ [d] := prefix_taken before (as ++ [d])
    refine hc (hp.eq_of_length_le ?_)
    rw [e]
    simp
  · rintro ⟨as, bs, rfl, h⟩
    have e : as ++ d :: bs = as ++ [d] ++ bs := by simp
    rw [e, taken_append_of_eq h]
    simp

variable (raises) (view : List E → List D)

/-- A script by the calls it tries, `view` giving those that went through: it ends if all
go through, and otherwise an exception ends it. -/
def Sends (x : Script E α) (ds : List D) : Prop := ∀ es,
  (taken raises (view es) ds = ds ∧ ∃ a es', x es = .ok a es' ∧ view es' = view es ++ ds) ∨
    (taken raises (view es) ds ≠ ds ∧ ∃ s es', x es = .error s es' ∧ view es' = view es ++ taken raises (view es) ds)

namespace Sends

variable {raises view} {β : Type} {x : Script E α} {f : α → Script E β} {ds ds' : List D}

/-- What went through, however the script ends. -/
theorem view_eventsOf (h : Sends raises view x ds) (es : List E) :
    view (eventsOf (x es)) = view es ++ taken raises (view es) ds := by
  rcases h es with ⟨ht, a, es', e, hv⟩ | ⟨-, s, es', e, hv⟩
  · rw [e, ht, ← hv]
    rfl
  · rw [e, ← hv]
    rfl

theorem ret (a : α) : Sends raises view (pure a) [] := fun es =>
  .inl ⟨rfl, a, es, rfl, (List.append_nil _).symm⟩

/-- What runs behind a value that is computed. -/
theorem after {a : α} (hx : ∀ es, x es = .ok a es) (hf : Sends raises view (f a) ds) :
    Sends raises view (x >>= f) ds := fun es => by
  rw [bind_ok (hx es)]
  exact hf es

theorem bind (hx : Sends raises view x ds) (hf : ∀ a, Sends raises view (f a) ds') :
    Sends raises view (x >>= f) (ds ++ ds') := by
  intro es
  rcases hx es with ⟨ht, a, es', e, hv⟩ | ⟨ht, s, es', e, hv⟩
  · rw [bind_ok e, taken_append_of_eq ht, ne_eq, List.append_right_inj, ← hv]
    rcases hf a es' with ⟨ht', b, es₂, e', hv'⟩ | ⟨ht', s, es₂, e', hv'⟩
    · exact .inl ⟨ht', b, es₂, e', by rw [hv', hv, List.append_assoc]⟩
    · exact .inr ⟨ht', s, es₂, e', by rw [hv', hv, List.append_assoc]⟩
  · have hne : taken raises (view es) ds ≠ ds ++ ds' := fun he => by
      have hp : taken raises (view es) ds <+: ds := prefix_taken (view es) ds
      have hl := hp.length_le
      rw [he, List.length_append] at hl
      have hd : ds' = [] := List.eq_nil_of_length_eq_zero (by omega)
      exact ht (by rw [he, hd, List.append_nil])
    rw [bind_error e, taken_append_of_ne ht]
    exact .inr ⟨hne, s, es', rfl, hv⟩

theorem forEach {body : α → Script E Unit} {out : α → List D} :
    ∀ {as : List α}, (∀ a ∈ as, Sends raises view (body a) (out a)) →
      Sends raises view (Py.forEach as body) (as.flatMap out)
  | [], _ => ret ()
  | a :: as, h => by
    rw [List.flatMap_cons]
    exact (h a List.mem_cons_self).bind fun _ => forEach fun b hb => h b (List.mem_cons_of_mem _ hb)

end Sends

end

/-! ## Strings -/

/-- `str.isspace` of a character. -/
def isSpace (c : Char) : Bool :=
  c == ' ' || c == '\t' || c == '\n' || c == '\r' || c == '\x0b' || c == '\x0c'

/-- `rstrip()`. -/
def rstrip (s : Line) : Line := (s.reverse.dropWhile isSpace).reverse

/-- `strip()`. -/
def strip (s : Line) : Line := rstrip (s.dropWhile isSpace)

/-- `lower()`. -/
def lower (s : Line) : Line := s.map Char.toLower

theorem rstrip_concat {c : Char} (h : isSpace c = true) (s : Line) : rstrip (s ++ [c]) = rstrip s := by
  simp only [rstrip, List.reverse_append, List.reverse_singleton, List.singleton_append, List.dropWhile_cons, h, if_true]

theorem rstrip_of_getLast {s : Line} (h : ∀ c, s.getLast? = some c → isSpace c = false) : rstrip s = s := by
  have : s.reverse.dropWhile isSpace = s.reverse := by
    cases hs : s.reverse with
    | nil => rfl
    | cons c t =>
      have hc : s.getLast? = some c := by rw [← List.head?_reverse, hs]; rfl
      rw [List.dropWhile_cons, h c hc]
      rfl
  rw [rstrip, this, List.reverse_reverse]

@[simp] theorem rstrip_rstrip (s : Line) : rstrip (rstrip s) = rstrip s := by
  apply rstrip_of_getLast
  intro c hc
  rw [rstrip, List.getLast?_reverse] at hc
  have hd := List.head?_dropWhile_not isSpace s.reverse
  rw [hc] at hd
  exact Bool.eq_false_iff.mpr (by simpa using hd)

theorem toLower_toLower (c : Char) : c.toLower.toLower = c.toLower := by
  have h : ∀ d : Char, ¬ (d.val ≥ 'A'.val ∧ d.val ≤ 'Z'.val) → d.toLower = d := fun d hd => dif_neg hd
  by_cases hc : c.val ≥ 'A'.val ∧ c.val ≤ 'Z'.val
  · apply h
    have e : c.toLower.val = c.val + ('a'.val - 'A'.val) := by
      unfold Char.toLower
      rw [dif_pos hc]
    intro hn
    have h₁ := UInt32.le_iff_toNat_le.mp hc.1
    have h₂ := UInt32.le_iff_toNat_le.mp hc.2
    have h₃ := UInt32.le_iff_toNat_le.mp hn.2
    have h65 : 'A'.val.toNat = 65 := rfl
    have h90 : 'Z'.val.toNat = 90 := rfl
    have h32 : ('a'.val - 'A'.val).toNat = 32 := rfl
    rw [e, UInt32.toNat_add, h32] at h₃
    omega
  · rw [h c hc, h c hc]

theorem mem_of_mem_rstrip {c : Char} {s : Line} (h : c ∈ rstrip s) : c ∈ s := by
  rw [rstrip, List.mem_reverse] at h
  exact List.mem_reverse.mp (List.dropWhile_subset _ h)

/-- A line read by `line.lower().rstrip()` is read as it is. -/
theorem rstrip_lower_idem (s : Line) : rstrip (lower (rstrip (lower s))) = rstrip (lower s) := by
  have h : lower (rstrip (lower s)) = rstrip (lower s) := by
    refine (List.map_congr_left fun c hc => ?_).trans (List.map_id _)
    obtain ⟨d, -, rfl⟩ := List.mem_map.mp (mem_of_mem_rstrip hc)
    exact toLower_toLower d
  rw [h, rstrip_rstrip]

/-! ## Numbers -/

/-- What a character counts as a digit, at least the base if it is none. -/
def value (base : Nat) (c : Char) : Nat :=
  if '0' ≤ c ∧ c ≤ '9' then c.toNat - 48
  else if 'a' ≤ c ∧ c ≤ 'z' then c.toNat - 87
  else if 'A' ≤ c ∧ c ≤ 'Z' then c.toNat - 55
  else base

/-- The value of a digit. -/
def digit (base : Nat) (c : Char) : Option Nat := if value base c < base then some (value base c) else none

theorem digit_lt {base x : Nat} {c : Char} (h : digit base c = some x) : x < base := by
  unfold digit at h
  split at h
  · rename_i hv
    rwa [← Option.some.inj h]
  · cases h

/-- The value of digits behind a number. -/
def digits (base : Nat) : Nat → Line → Option Nat
  | n, [] => some n
  | n, c :: cs => (digit base c).bind fun v => digits base (n * base + v) cs

/-- A number without its sign: at least one digit, and in base 16 perhaps `0x` before them. -/
def magnitude (base : Nat) (s : Line) : Option Nat :=
  match s with
  | [] => none
  | ['0', x] => digits base 0 ['0', x]
  | '0' :: x :: c :: s => if base = 16 ∧ (x = 'x' ∨ x = 'X') then digits base 0 (c :: s)
      else digits base 0 ('0' :: x :: c :: s)
  | c :: s => digits base 0 (c :: s)

/-- `int(s, base)`; the sign may be followed by blanks. -/
def int (base : Nat) (s : Line) : Option Int :=
  match strip s with
  | '+' :: t => (magnitude base (t.dropWhile isSpace)).map Int.ofNat
  | '-' :: t => (magnitude base (t.dropWhile isSpace)).map fun n => -Int.ofNat n
  | t => (magnitude base t).map Int.ofNat

/-- `struct.pack('B', n)`. -/
def packB (n : Int) : Except Stop UInt8 :=
  if 0 ≤ n ∧ n ≤ 255 then .ok (UInt8.ofNat n.toNat) else .error .structError

/-- `struct.pack('B', int(s, 16))`. -/
def packHexByte (s : Line) : Except Stop UInt8 :=
  match int 16 s with
  | some n => packB n
  | none => .error .valueError

/-- `data[i : i + 2]` for `i` in `range(0, len(data), 2)`. -/
def pairs : Line → List Line
  | [] => []
  | [a] => [[a]]
  | a :: b :: s => [a, b] :: pairs s

/-- The bytes of a text, two characters at a time. -/
def packHex (data : Line) : Except Stop (List UInt8) := (pairs data).mapM packHexByte

/-- The bytes that hex digits spell, two digits a byte. -/
def hexBytes : Line → Option (List UInt8)
  | [] => some []
  | [_] => none
  | a :: b :: s =>
    match digit 16 a, digit 16 b, hexBytes s with
    | some x, some y, some bs => some (UInt8.ofNat (16 * x + y) :: bs)
    | _, _, _ => none

/-- A character that stands in no number. -/
theorem int_of_mem {c : Char} (hd : digit 16 c = none) (hs : isSpace c = false) (hp : c ≠ '+') (hm : c ≠ '-')
    (hx : c ≠ 'x') (hX : c ≠ 'X') {s : Line} (h : c ∈ s) : int 16 s = none := by
  have hds : ∀ (t : Line) (n : Nat), c ∈ t → digits 16 n t = none := by
    intro t
    induction t with
    | nil => intro n hc; cases hc
    | cons a t ih =>
      intro n hc
      rw [digits]
      rcases List.mem_cons.mp hc with rfl | hc
      · rw [hd]; rfl
      · cases digit 16 a with
        | none => rfl
        | some v => exact ih _ hc
  have hmag : ∀ t : Line, c ∈ t → magnitude 16 t = none := by
    intro t hc
    have h0 : c ≠ '0' := fun e => by rw [e] at hd; exact absurd hd (by decide)
    unfold magnitude
    split
    · cases hc
    · exact hds _ _ hc
    · split
      · rename_i hx'
        refine hds _ _ ?_
        rcases List.mem_cons.mp hc with e | hc
        · exact absurd e h0
        rcases List.mem_cons.mp hc with e | hc
        · rcases hx'.2 with hx' | hx'
          · exact absurd (e.trans hx') hx
          · exact absurd (e.trans hx') hX
        · exact hc
      · exact hds _ _ hc
    · exact hds _ _ hc
  have hdw : ∀ t : Line, c ∈ t → c ∈ t.dropWhile isSpace := by
    intro t hc
    rw [← List.takeWhile_append_dropWhile (p := isSpace) (l := t)] at hc
    rcases List.mem_append.mp hc with ht | ht
    · have := List.all_eq_true.mp (List.all_takeWhile (p := isSpace) (l := t)) c ht
      rw [hs] at this
      cases this
    · exact ht
  have hst : c ∈ strip s := by
    rw [strip, rstrip, List.mem_reverse]
    exact hdw _ (List.mem_reverse.mpr (hdw s h))
  unfold int
  split
  · rename_i e
    rw [e] at hst
    rw [hmag _ (hdw _ ((List.mem_cons.mp hst).resolve_left hp))]
    rfl
  · rename_i e
    rw [e] at hst
    rw [hmag _ (hdw _ ((List.mem_cons.mp hst).resolve_left hm))]
    rfl
  · rw [hmag _ hst]
    rfl

theorem pairs_append : ∀ {s : Line} (t : Line), s.length % 2 = 0 → pairs (s ++ t) = pairs s ++ pairs t
  | [], _, _ => rfl
  | [a], _, h => absurd h (by simp)
  | a :: b :: s, t, h => by
    have hs : s.length % 2 = 0 := by
      simp only [List.length_cons] at h
      omega
    rw [List.cons_append, List.cons_append, pairs, pairs_append t hs, pairs, List.cons_append]

theorem length_pairs : ∀ {s : Line}, s.length % 2 = 0 → (pairs s).length = s.length / 2
  | [], _ => rfl
  | [a], h => absurd h (by simp)
  | a :: b :: s, h => by
    have hs : s.length % 2 = 0 := by
      simp only [List.length_cons] at h
      omega
    rw [pairs, List.length_cons, length_pairs hs, List.length_cons, List.length_cons]
    omega

/-- A hex digit is not a blank, a sign or the `x` of `0x`. -/
theorem of_digit {c : Char} {x : Nat} (h : digit 16 c = some x) :
    x < 16 ∧ isSpace c = false ∧ c ≠ '+' ∧ c ≠ '-' := by
  have hn : ∀ d : Char, digit 16 d = none → c ≠ d := fun d hd e => by rw [e, hd] at h; cases h
  have hs : isSpace c = false := by
    simp only [isSpace, Bool.or_eq_false_iff, beq_eq_false_iff_ne]
    exact ⟨⟨⟨⟨⟨hn _ (by decide), hn _ (by decide)⟩, hn _ (by decide)⟩, hn _ (by decide)⟩, hn _ (by decide)⟩,
      hn _ (by decide)⟩
  exact ⟨digit_lt h, hs, hn _ (by decide), hn _ (by decide)⟩

/-- Two hex digits packed. -/
theorem packHexByte_of_digits {a b : Char} {x y : Nat} (ha : digit 16 a = some x) (hb : digit 16 b = some y) :
    packHexByte [a, b] = .ok (UInt8.ofNat (16 * x + y)) := by
  obtain ⟨hx, hsa, hpa, hma⟩ := of_digit ha
  obtain ⟨hy, hsb, -, -⟩ := of_digit hb
  have hst : strip [a, b] = [a, b] := by
    simp [strip, rstrip, hsa, hsb]
  have hd : digits 16 0 [a, b] = some (16 * x + y) := by
    simp only [digits, ha, hb, Option.bind_some, Option.some.injEq]
    omega
  have hm : magnitude 16 [a, b] = some (16 * x + y) := by
    unfold magnitude
    split <;> simp_all
  have hi : int 16 [a, b] = some (16 * x + y : Nat) := by
    rw [int, hst]
    split
    · rename_i e; exact absurd (List.cons.inj e).1 hpa
    · rename_i e; exact absurd (List.cons.inj e).1 hma
    · rw [hm]; rfl
  rw [packHexByte, hi]
  show packB _ = _
  rw [packB, if_pos (by omega), Int.toNat_natCast]

/-- Text that spells bytes is packed to them. -/
theorem packHex_of_hexBytes : ∀ {s : Line} {bs : List UInt8}, hexBytes s = some bs → packHex s = .ok bs
  | [], bs, h => by
    obtain rfl : [] = bs := by simpa [hexBytes] using h
    rfl
  | [_], _, h => by simp [hexBytes] at h
  | a :: b :: s, bs, h => by
    rw [hexBytes] at h
    split at h
    · rename_i x y cs ha hb hs
      obtain rfl := Option.some.inj h
      have ih := packHex_of_hexBytes hs
      rw [packHex] at ih
      rw [packHex, pairs, List.mapM_cons, packHexByte_of_digits ha hb, ih]
      rfl
    · cases h

/-- Every pair of a text that is packed is packed. -/
theorem of_packHex_ok {s : Line} {bs : List UInt8} (h : packHex s = .ok bs) :
    ∀ p ∈ pairs s, ∃ b, packHexByte p = .ok b := by
  have go : ∀ (ps : List Line) (bs : List UInt8), ps.mapM packHexByte = .ok bs →
      ∀ p ∈ ps, ∃ b, packHexByte p = .ok b := by
    intro ps
    induction ps with
    | nil => intro bs _ p hp; cases hp
    | cons q ps ih =>
      intro bs h p hp
      rw [List.mapM_cons] at h
      cases hq : packHexByte q with
      | error e => rw [hq] at h; cases h
      | ok b =>
        cases hps : ps.mapM packHexByte with
        | error e => rw [hq, hps] at h; cases h
        | ok cs =>
          rcases List.mem_cons.mp hp with rfl | hp
          · exact ⟨b, hq⟩
          · exact ih cs hps p hp
  exact go _ _ h

theorem mem_pairs {c : Char} : ∀ {s : Line}, c ∈ s → ∃ p ∈ pairs s, c ∈ p
  | [_], h => ⟨_, List.mem_singleton.mpr rfl, h⟩
  | a :: b :: s, h => by
    by_cases hc : c ∈ [a, b]
    · exact ⟨[a, b], List.mem_cons_self, hc⟩
    · have hs : c ∈ s := by
        simp only [List.mem_cons, List.not_mem_nil, or_false] at hc h
        rcases h with h | h | h
        · exact absurd (.inl h) hc
        · exact absurd (.inr h) hc
        · exact h
      obtain ⟨p, hp, hcp⟩ := mem_pairs hs
      exact ⟨p, List.mem_cons_of_mem _ hp, hcp⟩

/-- A text with a character that stands in no number is not packed. -/
theorem packHex_of_colon {s : Line} (h : ':' ∈ s) (bs : List UInt8) : packHex s ≠ .ok bs := fun hp => by
  obtain ⟨p, hm, hc⟩ := mem_pairs h
  obtain ⟨b, hb⟩ := of_packHex_ok hp p hm
  rw [packHexByte, int_of_mem (by decide) (by decide) (by decide) (by decide) (by decide) (by decide) hc] at hb
  cases hb

theorem hexBytes_append : ∀ {s t : Line} {bs cs : List UInt8}, hexBytes s = some bs → hexBytes t = some cs →
    hexBytes (s ++ t) = some (bs ++ cs)
  | [], t, bs, cs, hs, ht => by
    obtain rfl : [] = bs := by simpa [hexBytes] using hs
    exact ht
  | [_], _, _, _, hs, _ => by simp [hexBytes] at hs
  | a :: b :: s, t, bs, cs, hs, ht => by
    rw [hexBytes] at hs
    split at hs
    · rename_i x y ds ha hb he
      obtain rfl := Option.some.inj hs
      rw [List.cons_append, List.cons_append, hexBytes, ha, hb, hexBytes_append he ht]
      rfl
    · cases hs

theorem length_of_hexBytes : ∀ {s : Line} {bs : List UInt8}, hexBytes s = some bs → s.length = 2 * bs.length
  | [], bs, h => by
    obtain rfl : [] = bs := by simpa [hexBytes] using h
    rfl
  | [_], _, h => by simp [hexBytes] at h
  | a :: b :: s, bs, h => by
    rw [hexBytes] at h
    split at h
    · rename_i x y cs ha hb hs
      obtain rfl := Option.some.inj h
      rw [List.length_cons, List.length_cons, length_of_hexBytes hs, List.length_cons]
      omega
    · cases h

/-- Every character of text that spells bytes is a hex digit. -/
theorem digit_of_hexBytes : ∀ {s : Line} {bs : List UInt8}, hexBytes s = some bs → ∀ c ∈ s, digit 16 c ≠ none
  | [], _, _, c, hc => by cases hc
  | [_], _, h, _, _ => by simp [hexBytes] at h
  | a :: b :: s, bs, h, c, hc => by
    rw [hexBytes] at h
    split at h
    · rename_i x y cs ha hb hs
      rcases List.mem_cons.mp hc with rfl | hc
      · rw [ha]; exact Option.some_ne_none x
      rcases List.mem_cons.mp hc with rfl | hc
      · rw [hb]; exact Option.some_ne_none y
      · exact digit_of_hexBytes hs c hc
    · cases h

/-- `hex(n)`. -/
def hex (n : Nat) : Line := '0' :: 'x' :: Nat.toDigits 16 n

/-- `zfill(w)`, of a text without a sign. -/
def zfill (w : Nat) (s : Line) : Line := List.replicate (w - s.length) '0' ++ s

/-- `hex(n).replace('0x', '').zfill(2)`. -/
def hex2 (n : Nat) : Line := zfill 2 (replaceAll "0x".toList [] (hex n))

/-- A byte's two digits. -/
theorem hexBytes_hex2 : ∀ n < 256, hexBytes (hex2 n) = some [UInt8.ofNat n] := by decide +kernel

end Espo.Py
