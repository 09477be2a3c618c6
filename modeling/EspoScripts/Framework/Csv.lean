import EspoScripts.Framework.CmdText

/-!
# Comma-separated lines

`csvLine` is the line of a list of fields. The `for /F` tokenizer gives the
fields back one at a time as long as they are not empty (`token_append`,
`token_all`); an empty one it passes over (`token_sep`).

A `Cell` is a field with its quotes. `commas_rowLine` says when the line of a
row of cells has a run of commas: one stands in the text of a cell, or
that many separators follow each other, with nothing between them.
-/

namespace Espo.Cmd

/-- The line of a list of fields, with a comma between each two. -/
def csvLine : List Line → Line
  | [] => []
  | [f] => f
  | f :: g :: gs => f ++ ',' :: csvLine (g :: gs)

@[simp] theorem csvLine_singleton (f : Line) : csvLine [f] = f := rfl

theorem csvLine_cons (f : Line) {gs : List Line} (h : gs ≠ []) :
    csvLine (f :: gs) = f ++ ',' :: csvLine gs := by
  obtain ⟨g, gs, rfl⟩ := List.exists_cons_of_ne_nil h
  rfl

/-- The comma as a delimiter of `for /F`. -/
def isComma (c : Char) : Bool := c == ','

theorem isComma_of_not_mem {f : Line} (h : ',' ∉ f) {c : Char} (hc : c ∈ f) : isComma c = false := by
  simp only [isComma, beq_eq_false_iff_ne, ne_eq]
  rintro rfl
  exact h hc

/-- A delimiter before a token is skipped. -/
@[simp] theorem token_sep (l : Line) : token isComma (',' :: l) = token isComma l := rfl

@[simp] theorem token_nil (d : Char → Bool) : token d [] = ([], []) := rfl

/-- The next field, and what follows it. -/
theorem token_append {f : Line} (hn : f ≠ []) (h : ',' ∉ f) (l : Line) :
    token isComma (f ++ ',' :: l) = (f, ',' :: l) := by
  obtain ⟨c, f, rfl⟩ := List.exists_cons_of_ne_nil hn
  have hc : isComma c = false := isComma_of_not_mem h List.mem_cons_self
  have ht : ∀ x ∈ c :: f, (!isComma x) = true := fun x hx => by rw [isComma_of_not_mem h hx]; rfl
  have hs : (!isComma ',') = false := rfl
  simp only [token]
  rw [List.cons_append, List.dropWhile_cons_of_neg (by simp [hc]), ← List.cons_append,
    List.takeWhile_append_of_pos ht, List.dropWhile_append_of_pos ht, List.takeWhile_cons_of_neg (by simp [hs]),
    List.dropWhile_cons_of_neg (by simp [hs]), List.append_nil]

/-- The last field. -/
theorem token_all {f : Line} (h : ',' ∉ f) : token isComma f = (f, []) := by
  cases f with
  | nil => rfl
  | cons c f =>
    have hc : isComma c = false := isComma_of_not_mem h List.mem_cons_self
    have ht : ∀ x ∈ c :: f, (!isComma x) = true := fun x hx => by rw [isComma_of_not_mem h hx]; rfl
    have ht₁ := @List.takeWhile_append_of_pos _ _ _ [] ht
    have ht₂ := @List.dropWhile_append_of_pos _ _ _ [] ht
    rw [List.append_nil] at ht₁ ht₂
    simp only [token]
    rw [List.dropWhile_cons_of_neg (by simp [hc]), ht₁, ht₂]
    simp

/-! ## Runs of commas -/

/-- A run of commas. -/
def commas (n : Nat) : Line := List.replicate n ','

theorem commas_succ (n : Nat) : commas (n + 1) = ',' :: commas n := rfl

theorem mem_commas {n : Nat} {c : Char} (h : c ∈ commas n) : c = ',' := List.eq_of_mem_replicate h

theorem commas_not_prefix_of_head {n : Nat} {l : Line} (h : l.head? ≠ some ',') : ¬ commas (n + 1) <+: l := by
  rintro ⟨t, rfl⟩
  exact h rfl

/-- A run does not go on beyond a text that ends in something else. -/
theorem commas_append {n : Nat} {f : Line} (h : f.getLast? ≠ some ',') (l : Line) :
    commas n <:+: f ++ l ↔ commas n <:+: f ∨ commas n <:+: l := by
  rw [List.infix_append_iff_ne_nil]
  refine ⟨?_, fun hi => hi.imp_right .inl⟩
  rintro (hf | hl | ⟨l₁, l₂, h₁, -, e, ⟨t, rfl⟩, -⟩)
  · exact .inl hf
  · exact .inr hl
  · have hm : l₁.getLast h₁ ∈ commas n := e ▸ List.mem_append_left _ (List.getLast_mem h₁)
    refine absurd ?_ h
    rw [List.getLast?_append, List.getLast?_eq_some_getLast h₁, mem_commas hm, Option.some_or]

/-- A run does not end in another character. -/
theorem commas_concat {n : Nat} {c : Char} (h : c ≠ ',') {l : Line} :
    commas (n + 1) <:+: l ++ [c] ↔ commas (n + 1) <:+: l := by
  rw [List.infix_concat_iff]
  apply or_iff_right
  rintro ⟨t, e⟩
  have hl := congrArg List.getLast? e
  simp only [commas, List.replicate_succ', List.getLast?_append, List.getLast?_singleton, Option.some_or,
    Option.some.injEq] at hl
  exact h hl.symm

/-- What begins with a run of commas, of fields that do not: fields before the
last that are empty. -/
theorem commas_prefix_csvLine : ∀ (n : Nat) {fs : List Line}, (∀ f ∈ fs, f.head? ≠ some ',') →
    (commas n <+: csvLine fs ↔ List.replicate n [] <+: fs.dropLast)
  | 0, _, _ => by simp [commas]
  | n + 1, [], _ => by simp [commas, csvLine]
  | n + 1, [f], h => by
    simp only [csvLine, List.dropLast_singleton, List.replicate_succ, List.prefix_nil, reduceCtorEq, iff_false]
    exact commas_not_prefix_of_head (h f List.mem_cons_self)
  | n + 1, f :: g :: gs, h => by
    have ih : commas n <+: csvLine (g :: gs) ↔ List.replicate n [] <+: (g :: gs).dropLast :=
      commas_prefix_csvLine n fun x hx => h x (List.mem_cons_of_mem _ hx)
    rw [List.dropLast_cons_cons, List.replicate_succ, List.cons_prefix_cons, ← ih, csvLine]
    cases f with
    | nil => rw [List.nil_append, commas_succ, List.cons_prefix_cons]; simp
    | cons c f =>
      have hc : (c :: f).head? ≠ some ',' := h (c :: f) List.mem_cons_self
      simp only [reduceCtorEq, false_and, iff_false]
      exact commas_not_prefix_of_head hc

/-- A run of `n + 1` commas in a line whose fields neither begin nor end with one:
inside a field, or around `n` empty fields. -/
theorem commas_csvLine_cons {n : Nat} (hn : n ≠ 0) : ∀ {f : Line} {gs : List Line},
    (∀ x ∈ f :: gs, x.head? ≠ some ',' ∧ x.getLast? ≠ some ',') →
    (commas (n + 1) <:+: csvLine (f :: gs) ↔
      (∃ x ∈ f :: gs, commas (n + 1) <:+: x) ∨ List.replicate n [] <:+: gs.dropLast)
  | f, [], _ => by simp [hn]
  | f, g :: gs, h => by
    have hg : ∀ x ∈ g :: gs, x.head? ≠ some ',' ∧ x.getLast? ≠ some ',' := fun x hx =>
      h x (List.mem_cons_of_mem _ hx)
    have ih := commas_csvLine_cons hn hg
    have hp := commas_prefix_csvLine n fun x hx => (hg x hx).1
    have hd : List.replicate n [] <:+: (g :: gs).dropLast ↔
        List.replicate n [] <+: (g :: gs).dropLast ∨ List.replicate n [] <:+: gs.dropLast := by
      cases gs with
      | nil => simp [hn]
      | cons x xs => rw [List.dropLast_cons_cons, List.infix_cons_iff]
    rw [csvLine, commas_append (h f List.mem_cons_self).2, List.infix_cons_iff, commas_succ,
      List.cons_prefix_cons, hp, ← commas_succ, ih, hd]
    simp only [List.mem_cons, exists_eq_or_imp, true_and]
    constructor
    · rintro (h₁ | h₂ | h₃ | h₄)
      · exact .inl (.inl h₁)
      · exact .inr (.inl h₂)
      · exact .inl (.inr h₃)
      · exact .inr (.inr h₄)
    · rintro ((h₁ | h₃) | h₂ | h₄)
      · exact .inl h₁
      · exact .inr (.inr (.inl h₃))
      · exact .inr (.inl h₂)
      · exact .inr (.inr (.inr h₄))

/-! ## Cells -/

/-- A field of a csv file: a text with a comma or a quote is quoted. -/
structure Cell where
  text : Line
  quoted : Bool
  quotes : ',' ∈ text ∨ '"' ∈ text → quoted = true
  no_break : '\n' ∉ text

/-- A text with its quotes doubled. -/
def doubled (t : Line) : Line := t.flatMap fun c => if c = '"' then ['"', '"'] else [c]

namespace Cell

/-- A cell as it stands in the file. -/
def raw (c : Cell) : Line := if c.quoted then '"' :: doubled c.text ++ ['"'] else c.text

/-- A cell of which nothing stands in the file. -/
def bare (c : Cell) : Bool := c.text.isEmpty && !c.quoted

end Cell

@[simp] theorem doubled_nil : doubled [] = [] := rfl

theorem doubled_quote (t : Line) : doubled ('"' :: t) = '"' :: '"' :: doubled t := rfl

theorem doubled_cons {c : Char} (h : c ≠ '"') (t : Line) : doubled (c :: t) = c :: doubled t := by
  simp [doubled, h]

theorem commas_prefix_doubled : ∀ (n : Nat) {t : Line}, commas n <+: doubled t ↔ commas n <+: t
  | 0, _ => by simp [commas]
  | n + 1, [] => by simp
  | n + 1, c :: t => by
    by_cases h : c = '"'
    · subst h
      refine iff_of_false (commas_not_prefix_of_head ?_) (commas_not_prefix_of_head (by simp))
      simp [doubled_quote]
    · rw [doubled_cons h, commas_succ, List.cons_prefix_cons, List.cons_prefix_cons, commas_prefix_doubled n]

theorem commas_doubled {n : Nat} : ∀ {t : Line}, commas (n + 1) <:+: doubled t ↔ commas (n + 1) <:+: t
  | [] => by simp
  | c :: t => by
    have ih := commas_doubled (n := n) (t := t)
    by_cases h : c = '"'
    · subst h
      have hq : ∀ l : Line, ¬ commas (n + 1) <+: '"' :: l := fun l => commas_not_prefix_of_head (by simp)
      simp only [doubled_quote, List.infix_cons_iff, hq, ih, false_or]
    · have hp := commas_prefix_doubled (n + 1) (t := c :: t)
      rw [doubled_cons h] at hp ⊢
      rw [List.infix_cons_iff, List.infix_cons_iff, hp, ih]

namespace Cell

variable (c : Cell)

/-- The runs of commas in a cell are those in its text. -/
theorem commas_raw {n : Nat} : commas (n + 1) <:+: c.raw ↔ commas (n + 1) <:+: c.text := by
  rw [raw]
  split
  · rw [List.cons_append, List.infix_cons_iff, commas_concat (by decide), commas_doubled]
    exact or_iff_right (commas_not_prefix_of_head (by simp))
  · rfl

theorem comma_not_mem (h : c.quoted = false) : ',' ∉ c.text := fun hm => by
  rw [c.quotes (.inl hm)] at h
  exact absurd h (by decide)

/-- A cell neither begins nor ends with a comma. -/
theorem raw_ends : c.raw.head? ≠ some ',' ∧ c.raw.getLast? ≠ some ',' := by
  rw [raw]
  split
  · rw [List.getLast?_concat]
    exact ⟨by simp, by simp⟩
  · rename_i hq
    have hm := c.comma_not_mem (Bool.eq_false_iff.mpr hq)
    exact ⟨fun h => hm (List.mem_of_head? h), fun h => hm (List.mem_of_getLast? h)⟩

theorem raw_eq_nil : c.raw = [] ↔ c.bare = true := by
  rw [raw, bare]
  cases c.quoted <;> simp

end Cell

/-- The line of a row of cells. -/
def rowLine (cs : List Cell) : Line := csvLine (cs.map Cell.raw)

/-- A row with `n + 1` commas in a row: in the text of a cell, or around `n` cells,
neither the first nor the last, of which nothing stands in the file. -/
def CommaRun (n : Nat) (cs : List Cell) : Prop :=
  (∃ c ∈ cs, commas (n + 1) <:+: c.text) ∨ List.replicate n true <:+: cs.tail.dropLast.map Cell.bare

theorem commas_rowLine {n : Nat} (hn : n ≠ 0) {cs : List Cell} (hc : cs ≠ []) :
    commas (n + 1) <:+: rowLine cs ↔ CommaRun n cs := by
  obtain ⟨c, cs, rfl⟩ := List.exists_cons_of_ne_nil hc
  have he : ∀ x ∈ c.raw :: cs.map Cell.raw, x.head? ≠ some ',' ∧ x.getLast? ≠ some ',' := by
    intro x hx
    obtain ⟨d, -, rfl⟩ := List.mem_map.mp (List.map_cons ▸ hx)
    exact d.raw_ends
  have hr : List.replicate n [] <:+: (cs.map Cell.raw).dropLast ↔
      List.replicate n true <:+: cs.dropLast.map Cell.bare := by
    rw [List.map_dropLast.symm, List.infix_map_iff, List.infix_map_iff]
    simp only [eq_comm (a := List.replicate n _), List.eq_replicate_iff, List.length_map,
      List.forall_mem_map, Cell.raw_eq_nil]
  have ht : (∃ x ∈ c.raw :: cs.map Cell.raw, commas (n + 1) <:+: x) ↔
      ∃ d ∈ c :: cs, commas (n + 1) <:+: d.text := by
    rw [← List.map_cons]
    simp only [List.mem_map, ← Cell.commas_raw]
    exact ⟨fun ⟨_, ⟨d, hd, e⟩, h⟩ => ⟨d, hd, e ▸ h⟩, fun ⟨d, hd, h⟩ => ⟨_, ⟨d, hd, rfl⟩, h⟩⟩
  rw [rowLine, List.map_cons, commas_csvLine_cons hn he, hr, ht, CommaRun, List.tail_cons]

end Espo.Cmd
