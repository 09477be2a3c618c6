/-!
# Replacing text

`replaceAny pats rep text` replaces every occurrence of any of the patterns
`pats`, all of one length, by `rep`: left to right, an occurrence that starts
inside a replaced one not counting. `replaceAll pat rep` is the case of one
pattern.

Patterns that all begin with a character found nowhere else in them
(`Marked`) cannot overlap. For these `replaceAny` acts on each occurrence on
its own (`replaceAny_occ`, `replaceAny_other`), and replacing by a further
pattern what the first replacement wrote is one replacement of them all
(`replaceAll_replaceAny`).
-/

namespace Espo

variable {α : Type} [DecidableEq α]

/-- Replaces the occurrences of the patterns, all of length `n`, behind the next
`skip` characters, which belong to an occurrence already replaced. -/
def replaceFrom (pats : List (List α)) (n : Nat) (rep : List α) : Nat → List α → List α
  | _, [] => []
  | skip + 1, _ :: cs => replaceFrom pats n rep skip cs
  | 0, c :: cs =>
    if ∃ p ∈ pats, p <+: c :: cs then rep ++ replaceFrom pats n rep (n - 1) cs
    else c :: replaceFrom pats n rep 0 cs

/-- Every occurrence of any of the patterns, all of length `n`, replaced. -/
def replaceAny (pats : List (List α)) (n : Nat) (rep text : List α) : List α :=
  replaceFrom pats n rep 0 text

/-- Every occurrence of a pattern replaced. -/
def replaceAll (pat rep text : List α) : List α := replaceAny [pat] pat.length rep text

section Any

variable {pats : List (List α)} {n : Nat} {rep : List α}

@[simp] theorem replaceAny_nil : replaceAny pats n rep [] = [] := rfl

theorem replaceFrom_append : ∀ (xs : List α) {ys : List α},
    replaceFrom pats n rep xs.length (xs ++ ys) = replaceAny pats n rep ys
  | [], _ => rfl
  | _ :: xs, _ => replaceFrom_append xs

/-- At an occurrence. -/
theorem replaceAny_append {p rest : List α} (hp : p ∈ pats) (hn : p.length = n) (h0 : 0 < n) :
    replaceAny pats n rep (p ++ rest) = rep ++ replaceAny pats n rep rest := by
  cases p with
  | nil => simp at hn; omega
  | cons c p =>
    have hl : n - 1 = p.length := by rw [← hn]; rfl
    rw [replaceAny, List.cons_append, replaceFrom, if_pos ⟨c :: p, hp, List.prefix_append (c :: p) rest⟩,
      hl, replaceFrom_append]

/-- Where no occurrence starts. -/
theorem replaceAny_cons {c : α} {cs : List α} (h : ∀ p ∈ pats, ¬ p <+: c :: cs) :
    replaceAny pats n rep (c :: cs) = c :: replaceAny pats n rep cs := by
  rw [replaceAny, replaceFrom, if_neg (by simpa using h)]
  rfl

end Any

/-- Without patterns. -/
theorem replaceAny_no_pats (n : Nat) (rep : List α) : ∀ text : List α, replaceAny [] n rep text = text
  | [] => rfl
  | c :: cs => by
    rw [replaceAny_cons (fun p hp => absurd hp List.not_mem_nil), replaceAny_no_pats]

/-- A pattern replaced by itself. -/
theorem replaceAll_self {p : List α} (h0 : p ≠ []) : ∀ text : List α, replaceAll p p text = text
  | [] => rfl
  | c :: cs => by
    have hl : 0 < p.length := List.length_pos_iff.mpr h0
    by_cases hs : p <+: c :: cs
    · obtain ⟨rest, e⟩ := hs
      have hlen := congrArg List.length e
      rw [List.length_append, List.length_cons] at hlen
      have hlt : rest.length ≤ cs.length := by omega
      rw [← e, replaceAll, replaceAny_append (List.mem_singleton_self _) rfl hl, ← replaceAll,
        replaceAll_self h0 rest]
    · rw [replaceAll, replaceAny_cons (List.forall_mem_singleton.mpr hs), ← replaceAll, replaceAll_self h0 cs]
termination_by text => text.length

/-- A pattern of length `n` that begins with `m`, which occurs nowhere else in it. -/
def Marked (m : α) (n : Nat) (p : List α) : Prop := ∃ t, p = m :: t ∧ m ∉ t ∧ p.length = n

section Marked

variable {m : α} {n : Nat} {pats : List (List α)} {rep text : List α}

omit [DecidableEq α] in
theorem Marked.pos {p : List α} (h : Marked m n p) : 0 < n := by
  obtain ⟨t, rfl, -, hn⟩ := h
  simp only [List.length_cons] at hn
  omega

/-- No pattern starts within text without the mark. -/
theorem replaceAny_of_not_mem (hp : ∀ p ∈ pats, Marked m n p) : ∀ {t rest : List α}, m ∉ t →
    replaceAny pats n rep (t ++ rest) = t ++ replaceAny pats n rep rest
  | [], _, _ => rfl
  | c :: t, rest, h => by
    rw [List.mem_cons, not_or] at h
    have hn : ∀ p ∈ pats, ¬ p <+: c :: (t ++ rest) := fun p hm ho => by
      obtain ⟨u, rfl, -, -⟩ := hp p hm
      exact h.1 (List.cons_prefix_cons.mp ho).1
    rw [List.cons_append, replaceAny_cons hn, replaceAny_of_not_mem hp h.2, List.cons_append]

/-- Text without the mark that starts the result started the text. -/
theorem starts_of_replaceAny (hp : ∀ p ∈ pats, Marked m n p) (hr : Marked m n rep) :
    ∀ {t text : List α}, m ∉ t → t <+: replaceAny pats n rep text → t <+: text
  | [], _, _, _ => List.nil_prefix
  | x :: t, [], _, ho => by simp at ho
  | x :: t, c :: cs, h, ho => by
    rw [List.mem_cons, not_or] at h
    by_cases hc : ∃ p ∈ pats, p <+: c :: cs
    · obtain ⟨p, hm, rest, e⟩ := hc
      obtain ⟨u, rfl, -, -⟩ := hr
      rw [← e, replaceAny_append hm (hp p hm).choose_spec.2.2 (hp p hm).pos, List.cons_append,
        List.cons_prefix_cons] at ho
      exact absurd ho.1.symm h.1
    · rw [replaceAny_cons (fun p hm ho => hc ⟨p, hm, ho⟩), List.cons_prefix_cons] at ho
      exact List.cons_prefix_cons.mpr ⟨ho.1, starts_of_replaceAny hp hr h.2 ho.2⟩

variable (rep) in
/-- What starts with a pattern is the pattern and a shorter rest. -/
theorem exists_rest {p : List α} {c : α} {cs : List α} (hm : p ∈ pats) (hp : ∀ p ∈ pats, Marked m n p)
    (h : p <+: c :: cs) : ∃ rest, c :: cs = p ++ rest ∧ rest.length ≤ cs.length ∧
      replaceAny pats n rep (c :: cs) = rep ++ replaceAny pats n rep rest := by
  obtain ⟨rest, e⟩ := h
  have hl := (hp p hm).choose_spec.2.2
  have h0 := (hp p hm).pos
  have hlen := congrArg List.length e
  rw [List.length_append, List.length_cons] at hlen
  refine ⟨rest, e.symm, by omega, ?_⟩
  rw [← e]
  exact replaceAny_append hm hl h0

/-- Replacing what a first replacement wrote. -/
theorem replaceAll_replaceAny {new : List α} (hp : ∀ p ∈ pats, Marked m n p) (hn : Marked m n new) :
    ∀ text : List α, replaceAll new rep (replaceAny pats n new text) = replaceAny (new :: pats) n rep text
  | [] => rfl
  | c :: cs => by
    have hl : new.length = n := hn.choose_spec.2.2
    have hp' : ∀ p ∈ new :: pats, Marked m n p := List.forall_mem_cons.mpr ⟨hn, hp⟩
    have hnew : ∀ rest, replaceAll new rep (new ++ rest) = rep ++ replaceAll new rep rest := fun rest =>
      replaceAny_append (List.mem_singleton_self _) rfl (hl ▸ hn.pos)
    by_cases hc : ∃ p ∈ pats, p <+: c :: cs
    · obtain ⟨p, hm, hs⟩ := hc
      obtain ⟨rest, e, hlt, hr⟩ := exists_rest new hm hp hs
      rw [hr, hnew, replaceAll_replaceAny hp hn rest, e,
        replaceAny_append (List.mem_cons_of_mem _ hm) (hp p hm).choose_spec.2.2 hn.pos]
    · have hc' : ∀ p ∈ pats, ¬ p <+: c :: cs := fun p hm hs => hc ⟨p, hm, hs⟩
      by_cases hs : new <+: c :: cs
      · obtain ⟨rest, e, hlt, hr⟩ := exists_rest rep List.mem_cons_self hp' hs
        have hw : replaceAny pats n new (c :: cs) = new ++ replaceAny pats n new rest := by
          obtain ⟨t, rfl, ht, -⟩ := hn
          rw [List.cons_append, List.cons.injEq] at e
          rw [replaceAny_cons hc', e.2, replaceAny_of_not_mem hp ht, e.1, List.cons_append]
        rw [hw, hnew, replaceAll_replaceAny hp hn rest, hr]
      · have hs' : ¬ new <+: c :: replaceAny pats n new cs := fun ho => by
          obtain ⟨t, rfl, ht, hlt⟩ := hn
          have := List.cons_prefix_cons.mp ho
          exact hs (List.cons_prefix_cons.mpr ⟨this.1, starts_of_replaceAny hp ⟨t, rfl, ht, hlt⟩ ht this.2⟩)
        have hall : replaceAll new rep (c :: replaceAny pats n new cs) =
            c :: replaceAll new rep (replaceAny pats n new cs) :=
          replaceAny_cons (List.forall_mem_singleton.mpr hs')
        rw [replaceAny_cons hc', hall, replaceAll_replaceAny hp hn cs,
          replaceAny_cons (List.forall_mem_cons.mpr ⟨hs, hc'⟩)]
termination_by text => text.length

omit [DecidableEq α] in
/-- A marked pattern does not start inside another one. -/
theorem not_prefix_drop {p q rest : List α} {i : Nat} (hp : Marked m n p) (hq : Marked m n q) (h0 : 0 < i)
    (hi : i < n) : ¬ p <+: (q ++ rest).drop i := fun h => by
  obtain ⟨t, rfl, -, -⟩ := hp
  obtain ⟨u, rfl, hu, hl⟩ := hq
  obtain ⟨j, rfl⟩ : ∃ j, i = j + 1 := ⟨i - 1, by omega⟩
  have hj : j < u.length := by simp only [List.length_cons] at hl; omega
  rw [List.cons_append, List.drop_succ_cons, List.drop_append_of_le_length (Nat.le_of_lt hj),
    List.drop_eq_getElem_cons hj, List.cons_append] at h
  exact hu ((List.cons_prefix_cons.mp h).1 ▸ List.getElem_mem hj)

theorem length_replaceAny (hp : ∀ p ∈ pats, Marked m n p) (hr : rep.length = n) :
    ∀ text : List α, (replaceAny pats n rep text).length = text.length
  | [] => rfl
  | c :: cs => by
    by_cases hc : ∃ p ∈ pats, p <+: c :: cs
    · obtain ⟨p, hm, hs⟩ := hc
      obtain ⟨rest, e, hlt, hr'⟩ := exists_rest rep hm hp hs
      rw [hr', List.length_append, length_replaceAny hp hr rest, e, List.length_append, hr,
        (hp p hm).choose_spec.2.2]
    · rw [replaceAny_cons fun p hm hs => hc ⟨p, hm, hs⟩, List.length_cons, List.length_cons,
        length_replaceAny hp hr cs]
termination_by text => text.length

/-- Wherever a pattern occurs, the replacement stands in the result. -/
theorem replaceAny_occ (hp : ∀ p ∈ pats, Marked m n p) (hr : rep.length = n) {p : List α} (hm : p ∈ pats) :
    ∀ (text : List α) {i : Nat}, p <+: text.drop i → rep <+: (replaceAny pats n rep text).drop i
  | [], i, h => by
    obtain ⟨t, rfl, -, -⟩ := hp p hm
    simp at h
  | c :: cs, i, h => by
    by_cases hc : ∃ q ∈ pats, q <+: c :: cs
    · obtain ⟨q, hq, hs⟩ := hc
      obtain ⟨rest, e, hlt, hr'⟩ := exists_rest rep hq hp hs
      have hql : q.length = n := (hp q hq).choose_spec.2.2
      rw [e] at h
      rw [hr']
      rcases Nat.eq_zero_or_pos i with rfl | h0
      · exact List.prefix_append rep _
      · rcases Nat.lt_or_ge i n with hi | hi
        · exact absurd h (not_prefix_drop (hp p hm) (hp q hq) h0 hi)
        · rw [List.drop_append, List.drop_eq_nil_of_le (by omega), List.nil_append, hql] at h
          rw [List.drop_append, List.drop_eq_nil_of_le (by omega), List.nil_append, hr]
          exact replaceAny_occ hp hr hm rest h
    · rw [replaceAny_cons fun p hm hs => hc ⟨p, hm, hs⟩]
      cases i with
      | zero => exact absurd ⟨p, hm, h⟩ hc
      | succ i => exact replaceAny_occ hp hr hm cs h
termination_by text => text.length

/-- Outside the occurrences the text stays as it is. -/
theorem replaceAny_other (hp : ∀ p ∈ pats, Marked m n p) (hr : rep.length = n) :
    ∀ (text : List α) {i : Nat}, (∀ p ∈ pats, ∀ j, p <+: text.drop j → ¬ (j ≤ i ∧ i < j + n)) →
      (replaceAny pats n rep text)[i]? = text[i]?
  | [], _, _ => rfl
  | c :: cs, i, h => by
    by_cases hc : ∃ q ∈ pats, q <+: c :: cs
    · obtain ⟨q, hq, hs⟩ := hc
      obtain ⟨rest, e, hlt, hr'⟩ := exists_rest rep hq hp hs
      have hql : q.length = n := (hp q hq).choose_spec.2.2
      have hi : n ≤ i := by have := h q hq 0 hs; omega
      have ih := replaceAny_other hp hr rest (i := i - n) fun p hm j ho => by
        have := h p hm (n + j) (by
          rw [e, List.drop_append, List.drop_eq_nil_of_le (by omega), List.nil_append, hql,
            Nat.add_sub_cancel_left]
          exact ho)
        omega
      rw [hr', e, List.getElem?_append_right (by omega), List.getElem?_append_right (by omega), hr, hql, ih]
    · rw [replaceAny_cons fun p hm hs => hc ⟨p, hm, hs⟩]
      cases i with
      | zero => rfl
      | succ i =>
        rw [List.getElem?_cons_succ, List.getElem?_cons_succ]
        exact replaceAny_other hp hr cs fun p hm j ho => by
          have := h p hm (j + 1) ho
          omega
termination_by text => text.length

/-- A marked pattern that occurs in the result is the replacement, or occurred in
the text and is not one of the patterns. -/
theorem occ_of_replaceAny (hp : ∀ p ∈ pats, Marked m n p) (hr : Marked m n rep) {p : List α}
    (hm : Marked m n p) : ∀ (text : List α) {i : Nat}, p <+: (replaceAny pats n rep text).drop i →
      p = rep ∨ (p <+: text.drop i ∧ p ∉ pats)
  | [], i, h => by
    obtain ⟨t, rfl, -, -⟩ := hm
    simp at h
  | c :: cs, i, h => by
    have hrl : rep.length = n := hr.choose_spec.2.2
    by_cases hc : ∃ q ∈ pats, q <+: c :: cs
    · obtain ⟨q, hq, hs⟩ := hc
      obtain ⟨rest, e, hlt, hr'⟩ := exists_rest rep hq hp hs
      have hql : q.length = n := (hp q hq).choose_spec.2.2
      rw [hr'] at h
      rcases Nat.eq_zero_or_pos i with rfl | h0
      · have hlen : p.length = rep.length := hm.choose_spec.2.2.trans hrl.symm
        have hpr : p <+: rep :=
          List.prefix_of_prefix_length_le h (List.prefix_append rep _) (Nat.le_of_eq hlen)
        exact .inl (hpr.eq_of_length hlen)
      · rcases Nat.lt_or_ge i n with hi | hi
        · exact absurd h (not_prefix_drop hm hr h0 hi)
        · rw [List.drop_append, List.drop_eq_nil_of_le (by omega), List.nil_append, hrl] at h
          rw [e, List.drop_append, List.drop_eq_nil_of_le (by omega), List.nil_append, hql]
          exact occ_of_replaceAny hp hr hm rest h
    · have hc' : ∀ q ∈ pats, ¬ q <+: c :: cs := fun q hq hs => hc ⟨q, hq, hs⟩
      rw [replaceAny_cons hc'] at h
      cases i with
      | zero =>
        have hs : p <+: c :: cs := by
          obtain ⟨t, rfl, ht, -⟩ := hm
          have := List.cons_prefix_cons.mp h
          exact List.cons_prefix_cons.mpr ⟨this.1, starts_of_replaceAny hp hr ht this.2⟩
        exact .inr ⟨hs, fun hq => hc' p hq hs⟩
      | succ i => exact occ_of_replaceAny hp hr hm cs h
termination_by text => text.length

/-- Patterns that do not occur make no difference. -/
theorem replaceAny_congr {pats' : List (List α)} : ∀ (text : List α) (skip : Nat),
    (∀ i, (∃ p ∈ pats, p <+: text.drop i) ↔ ∃ p ∈ pats', p <+: text.drop i) →
    replaceFrom pats n rep skip text = replaceFrom pats' n rep skip text
  | [], _, _ => rfl
  | c :: cs, skip, h => by
    have ht : ∀ i, (∃ p ∈ pats, p <+: cs.drop i) ↔ ∃ p ∈ pats', p <+: cs.drop i := fun i => h (i + 1)
    cases skip with
    | succ skip => exact replaceAny_congr cs skip ht
    | zero =>
      have h0 := h 0
      simp only [List.drop_zero] at h0
      rw [replaceFrom, replaceFrom, replaceAny_congr cs _ ht, replaceAny_congr cs _ ht]
      simp only [h0]

end Marked

end Espo
