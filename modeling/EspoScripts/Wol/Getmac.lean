import EspoScripts.Framework.Csv
import EspoScripts.Framework.Replace

/-!
# The columns getmac-20140415.bat takes

The script writes `, ,` for `,,` twice in each line of getmac's table, so
that empty columns hold a blank, and takes the first three tokens of what
this gives (`columns`).

On the fields of a line one pass fills every other empty column of a run
(`pad_csvLine`), and two passes fill all of them but the first and the last
(`padFields_padFields`). The first, if empty, is then skipped as a leading
delimiter, and the last, if empty, is no token. `columns_of_first` and
`columns_of_empty` say which tokens this leaves, and `columns_eq_shown_iff`
when they are the first three columns.
-/

namespace Espo.Wol

open Espo.Cmd

/-- `set line=!line:,,=, ,!`. -/
def pad (l : Line) : Line := replaceAll ",,".toList ", ,".toList l

/-- `%%i`, `%%j` and `%%k` for a line: `for /F "tokens=1,2,3* delims=,"` on the
padded line. -/
def columns (l : Line) : Option (Line × Line × Line) := forFTokens isComma (pad (pad l))

/-- `for /F "delims="`: the whole line, unless it is empty or begins with the
default `eol` character. -/
def wholeLine (l : Line) : Option Line :=
  if chomp l = [] ∨ (chomp l).head? = some ';' then none else some (chomp l)

/-- `set /p=""%%i,%%j,%%k","`: the text appended to `macs.txt`, without a line break. -/
def entry (v : Line × Line × Line) : Line := '"' :: v.1 ++ ',' :: v.2.1 ++ ',' :: v.2.2 ++ "\",".toList

/-- The text of `macs.txt` for the lines of `macs.csv`. -/
def getmac (csv : List Line) : Line := ((csv.filterMap wholeLine).filterMap columns).flatMap entry

/-! ## Padding -/

/-- What a pass does to the fields of a line: behind an empty field it fills, it goes
on at the field after the next comma. -/
def padFields : List Line → List Line
  | [] => []
  | [f] => [f]
  | [f, g] => [f, g]
  | f :: [] :: h :: hs => f :: [' '] :: padFields (h :: hs)
  | f :: (c :: g) :: h :: hs => f :: padFields ((c :: g) :: h :: hs)

/-- An empty field as the padding is to show it. -/
def shown (f : Line) : Line := if f = [] then [' '] else f

/-- Every field but the last shown. -/
def padInner : List Line → List Line
  | [] => []
  | [f] => [f]
  | f :: g :: gs => shown f :: padInner (g :: gs)

theorem padFields_cons (f : Line) (fs : List Line) :
    ∃ gs, padFields (f :: fs) = f :: gs ∧ (gs = [] ↔ fs = []) := by
  rcases fs with _ | ⟨_ | ⟨c, g⟩, _ | ⟨h, hs⟩⟩
  · exact ⟨[], rfl, by simp⟩
  · exact ⟨[[]], rfl, by simp⟩
  · exact ⟨[' '] :: padFields (h :: hs), rfl, by simp⟩
  · exact ⟨[c :: g], rfl, by simp⟩
  · refine ⟨padFields ((c :: g) :: h :: hs), rfl, ?_⟩
    obtain ⟨gs, e, -⟩ := padFields_cons (c :: g) (h :: hs)
    simp [e]
termination_by fs.length

/-- Text without a comma is left as it is. -/
theorem pad_append : ∀ {f : Line}, ',' ∉ f → ∀ l : Line, pad (f ++ l) = f ++ pad l
  | [], _, _ => rfl
  | c :: f, h, l => by
    rw [List.mem_cons, not_or] at h
    have hn : ∀ p ∈ [",,".toList], ¬ p <+: c :: (f ++ l) := List.forall_mem_singleton.mpr fun ho =>
      h.1 (List.cons_prefix_cons.mp ho).1
    have hc : pad (c :: (f ++ l)) = c :: pad (f ++ l) := replaceAny_cons hn
    rw [List.cons_append, hc, pad_append h.2, List.cons_append]

theorem pad_of_not_mem {f : Line} (h : ',' ∉ f) : pad f = f := by
  have e := pad_append h []
  rwa [List.append_nil, show pad [] = [] from rfl, List.append_nil] at e

/-- A comma before another one. -/
theorem pad_comma_comma (l : Line) : pad (',' :: ',' :: l) = ',' :: ' ' :: ',' :: pad l :=
  replaceAny_append (p := ",,".toList) (List.mem_singleton_self _) rfl (by decide)

/-- A comma on its own. -/
theorem pad_comma {l : Line} (h : l.head? ≠ some ',') : pad (',' :: l) = ',' :: pad l := by
  refine replaceAny_cons (List.forall_mem_singleton.mpr fun ho => h ?_)
  obtain ⟨t, rfl⟩ := (List.cons_prefix_cons.mp ho).2
  rfl

/-- A pass, on the fields of a line. -/
theorem pad_csvLine : ∀ {fs : List Line}, (∀ f ∈ fs, ',' ∉ f) → pad (csvLine fs) = csvLine (padFields fs)
  | [], _ => rfl
  | [f], h => pad_of_not_mem (h f List.mem_cons_self)
  | [f, g], h => by
    have hf := h f List.mem_cons_self
    have hg := h g (List.mem_cons_of_mem _ List.mem_cons_self)
    have hh : g.head? ≠ some ',' := fun e => hg (List.mem_of_head? e)
    simp only [csvLine, padFields]
    rw [pad_append hf, pad_comma hh, pad_of_not_mem hg]
  | f :: [] :: h :: hs, hc => by
    have hf := hc f List.mem_cons_self
    have ih : pad (csvLine (h :: hs)) = csvLine (padFields (h :: hs)) :=
      pad_csvLine fun x hx => hc x (List.mem_cons_of_mem _ (List.mem_cons_of_mem _ hx))
    obtain ⟨gs, e, -⟩ := padFields_cons h hs
    rw [csvLine, csvLine, pad_append hf, List.nil_append, pad_comma_comma, ih, padFields, e]
    rfl
  | f :: (c :: g) :: h :: hs, hc => by
    have hf := hc f List.mem_cons_self
    have hg := hc (c :: g) (List.mem_cons_of_mem _ List.mem_cons_self)
    have hne : c ≠ ',' := fun e => hg (e ▸ List.mem_cons_self)
    have ih : pad (csvLine ((c :: g) :: h :: hs)) = csvLine (padFields ((c :: g) :: h :: hs)) :=
      pad_csvLine fun x hx => hc x (List.mem_cons_of_mem _ hx)
    obtain ⟨gs, e, -⟩ := padFields_cons (c :: g) (h :: hs)
    rw [csvLine, pad_append hf, pad_comma (by simp [csvLine, hne]), ih, padFields, e]
    rfl

theorem shown_of_ne {f : Line} (h : f ≠ []) : shown f = f := if_neg h

theorem not_mem_shown {f : Line} (h : ',' ∉ f) : ',' ∉ shown f := by
  unfold shown
  split
  · decide
  · exact h

theorem shown_ne (f : Line) : shown f ≠ [] := by
  unfold shown
  split <;> simp_all

mutual

/-- Two passes fill every empty field but the first and the last. -/
theorem padFields_padFields (f : Line) (gs : List Line) :
    padFields (padFields (f :: gs)) = f :: padInner gs := by
  match gs with
  | [] => rfl
  | [g] => rfl
  | [] :: h :: hs =>
    obtain ⟨ys, e, -⟩ := padFields_cons h hs
    have ih := padFields_second [' '] (h :: hs)
    rw [e] at ih
    rw [padFields, e, padFields, ih]
    rfl
  | (c :: g) :: h :: hs => exact padFields_second f ((c :: g) :: h :: hs)
termination_by 2 * gs.length + 1

/-- A second pass that starts one field before the first one did. -/
theorem padFields_second (f : Line) (gs : List Line) : padFields (f :: padFields gs) = f :: padInner gs := by
  match gs with
  | [] => rfl
  | [g] => rfl
  | [[], h] => rfl
  | [] :: [] :: h :: hs =>
    have ih := padFields_second [' '] (h :: hs)
    rw [padFields, padFields, ih]
    rfl
  | [] :: (c :: g) :: h :: hs =>
    have ih := padFields_padFields (c :: g) (h :: hs)
    obtain ⟨ys, e, -⟩ := padFields_cons (c :: g) (h :: hs)
    rw [e] at ih
    rw [padFields, e, padFields, ih]
    rfl
  | (c :: g) :: h :: hs =>
    have ih := padFields_padFields (c :: g) (h :: hs)
    obtain ⟨ys, e, hn⟩ := padFields_cons (c :: g) (h :: hs)
    obtain ⟨y, ys, rfl⟩ := List.exists_cons_of_ne_nil (mt hn.mp (List.cons_ne_nil h hs))
    rw [e] at ih
    rw [e, padFields, ih]
    rfl
termination_by 2 * gs.length

end

/-- A pass puts in blanks only. -/
theorem mem_padFields {x : Line} : ∀ {fs : List Line}, x ∈ padFields fs → x ∈ fs ∨ x = [' ']
  | [], h => .inl h
  | [_], h => .inl h
  | [_, _], h => .inl h
  | f :: [] :: h :: hs, hx => by
    rw [padFields, List.mem_cons, List.mem_cons] at hx
    rcases hx with rfl | rfl | hx
    · exact .inl List.mem_cons_self
    · exact .inr rfl
    · exact (mem_padFields hx).imp_left fun hm => List.mem_cons_of_mem _ (List.mem_cons_of_mem _ hm)
  | f :: (c :: g) :: h :: hs, hx => by
    rw [padFields, List.mem_cons] at hx
    rcases hx with rfl | hx
    · exact .inl List.mem_cons_self
    · exact (mem_padFields hx).imp_left (List.mem_cons_of_mem _)

/-- The padded line. -/
theorem pad_pad {f : Line} {gs : List Line} (h : ∀ x ∈ f :: gs, ',' ∉ x) :
    pad (pad (csvLine (f :: gs))) = csvLine (f :: padInner gs) := by
  have h' : ∀ x ∈ padFields (f :: gs), ',' ∉ x := fun x hx => by
    rcases mem_padFields hx with hm | rfl
    · exact h x hm
    · decide
  rw [pad_csvLine h, pad_csvLine h', padFields_padFields]

/-! ## Tokens -/

/-- A field behind the first one as the padding leaves it: the last one as it is. -/
def shownBefore (f : Line) (gs : List Line) : Line := if gs = [] then f else shown f

theorem padInner_cons (f : Line) (gs : List Line) : padInner (f :: gs) = shownBefore f gs :: padInner gs := by
  cases gs <;> rfl

theorem padInner_eq_nil {gs : List Line} : padInner gs = [] ↔ gs = [] := by
  cases gs with
  | nil => simp [padInner]
  | cons g gs => simp [padInner_cons]

/-- The first token of a padded line's end. -/
theorem token_padInner {f : Line} (hf : ',' ∉ f) (gs : List Line) :
    (token isComma (csvLine (padInner (f :: gs)))).1 = shownBefore f gs := by
  rw [padInner_cons]
  by_cases hg : gs = []
  · subst hg
    rw [shownBefore, if_pos rfl]
    exact congrArg Prod.fst (token_all hf)
  · rw [csvLine_cons _ (mt padInner_eq_nil.mp hg), shownBefore, if_neg hg,
      token_append (shown_ne f) (not_mem_shown hf)]

/-- A field that delayed expansion and the csv format leave as it is. -/
structure Field where
  text : Line
  no_comma : ',' ∉ text
  no_bang : '!' ∉ text
  no_break : '\n' ∉ text

/-- A row of the table: three fields and perhaps more. -/
structure TableRow where
  first : Field
  second : Field
  third : Field
  rest : List Field

namespace TableRow

variable (r : TableRow)

/-- The row's line. -/
def line : Line := csvLine (r.first.text :: r.second.text :: r.third.text :: r.rest.map (·.text))

theorem padded : pad (pad r.line) =
    csvLine (r.first.text :: shown r.second.text :: padInner (r.third.text :: r.rest.map (·.text))) := by
  refine pad_pad fun x hx => ?_
  simp only [List.mem_cons, List.mem_map] at hx
  rcases hx with rfl | rfl | rfl | ⟨f, -, rfl⟩
  · exact r.first.no_comma
  · exact r.second.no_comma
  · exact r.third.no_comma
  · exact f.no_comma

/-- The first three tokens, if the first column is not empty. -/
theorem columns_of_first (h : r.first.text ≠ []) : columns r.line =
    if r.first.text.head? = some ';' then none
    else some (r.first.text, shown r.second.text, shownBefore r.third.text (r.rest.map (·.text))) := by
  rw [columns, r.padded, csvLine_cons _ (List.cons_ne_nil _ _),
    csvLine_cons _ (mt padInner_eq_nil.mp (List.cons_ne_nil _ _))]
  simp only [forFTokens, token_append h r.first.no_comma, token_sep,
    token_append (shown_ne _) (not_mem_shown r.second.no_comma), token_padInner r.third.no_comma, h, false_or]

/-- The first three tokens, if it is empty: the columns one further on. -/
theorem columns_of_empty (h : r.first.text = []) : columns r.line =
    if (shown r.second.text).head? = some ';' then none
    else some (shown r.second.text, shownBefore r.third.text (r.rest.map (·.text)),
      (token isComma (csvLine (padInner (r.rest.map (·.text))))).1) := by
  rw [columns, r.padded, h, csvLine_cons _ (List.cons_ne_nil _ _), List.nil_append,
    csvLine_cons _ (mt padInner_eq_nil.mp (List.cons_ne_nil _ _)), padInner_cons]
  have hs := token_append (shown_ne r.second.text) (not_mem_shown r.second.no_comma)
  by_cases hr : r.rest.map (·.text) = []
  · rw [hr, shownBefore, if_pos rfl]
    simp only [forFTokens, token_sep, hs, shown_ne, false_or, padInner, csvLine_singleton,
      token_all r.third.no_comma, token_nil]
    rfl
  · rw [csvLine_cons _ (mt padInner_eq_nil.mp hr), shownBefore, if_neg hr]
    simp only [forFTokens, token_sep, hs, shown_ne, false_or,
      token_append (shown_ne r.third.text) (not_mem_shown r.third.no_comma)]

/-- When no column is shifted: the first is not empty, does not begin with the
`eol` character, and the third, if empty, is not the last; or the first is empty
and the three behind it are blanks as well. -/
def Unshifted : Prop :=
  (r.first.text ≠ [] ∧ r.first.text.head? ≠ some ';' ∧ (r.third.text ≠ [] ∨ r.rest ≠ [])) ∨
    (r.first.text = [] ∧ shown r.second.text = [' '] ∧ shown r.third.text = [' '] ∧
      ∃ f gs, r.rest = f :: gs ∧ (f.text = [' '] ∨ f.text = [] ∧ gs ≠ []))

/-- The three columns as the padding is to show them. -/
def columnsShown : Line × Line × Line := (shown r.first.text, shown r.second.text, shown r.third.text)

theorem shownBefore_eq_shown (f : Line) (gs : List Line) :
    shownBefore f gs = shown f ↔ f ≠ [] ∨ gs ≠ [] := by
  by_cases hg : gs = [] <;> by_cases hf : f = [] <;> simp [shownBefore, shown, hg, hf]

theorem shownBefore_eq_blank (f : Line) (gs : List Line) :
    shownBefore f gs = [' '] ↔ f = [' '] ∨ f = [] ∧ gs ≠ [] := by
  by_cases hg : gs = [] <;> by_cases hf : f = [] <;> simp [shownBefore, shown, hg, hf]

/-- With a first column that is not empty. -/
theorem columns_first_iff (h : r.first.text ≠ []) : columns r.line = some r.columnsShown ↔
    r.first.text.head? ≠ some ';' ∧ (r.third.text ≠ [] ∨ r.rest ≠ []) := by
  have hs := shownBefore_eq_shown r.third.text (r.rest.map (·.text))
  rw [ne_eq (List.map _ _), List.map_eq_nil_iff] at hs
  rw [r.columns_of_first h, columnsShown, shown_of_ne h]
  split <;> simp_all

/-- With an empty one: the tokens are those of the next three, which have to be
blanks like it. -/
theorem columns_empty_iff (h : r.first.text = []) : columns r.line = some r.columnsShown ↔
    shown r.second.text = [' '] ∧ shown r.third.text = [' '] ∧
      ∃ f gs, r.rest = f :: gs ∧ (f.text = [' '] ∨ f.text = [] ∧ gs ≠ []) := by
  have hb : shown [] = [' '] := rfl
  rw [r.columns_of_empty h, columnsShown, h, hb]
  rcases hr : r.rest with _ | ⟨f, gs⟩
  · -- the third token is missing
    have hn := shown_ne r.third.text
    have ht : (token isComma (csvLine (padInner []))).1 = [] := rfl
    rw [List.map_nil, ht]
    split <;> simp [Ne.symm hn]
  · have hf := shownBefore_eq_blank f.text (gs.map (·.text))
    rw [ne_eq (List.map _ _), List.map_eq_nil_iff] at hf
    rw [List.map_cons, token_padInner f.no_comma, shownBefore, if_neg (List.cons_ne_nil _ _)]
    constructor
    · intro e
      split at e
      · simp at e
      · simp only [Option.some.injEq, Prod.mk.injEq] at e
        obtain ⟨h₂, h₃, h₄⟩ := e
        rw [h₂] at h₃
        exact ⟨h₂, h₃, f, gs, rfl, hf.mp (h₄.trans h₃)⟩
    · rintro ⟨h₂, h₃, _, _, he, h₄⟩
      obtain ⟨rfl, rfl⟩ := List.cons_eq_cons.mp he
      rw [h₂, h₃, hf.mpr h₄]
      rfl

theorem columns_of_unshifted (h : r.Unshifted) : columns r.line = some r.columnsShown := by
  rcases h with ⟨hf, h⟩ | ⟨he, h⟩
  · exact (r.columns_first_iff hf).mpr h
  · exact (r.columns_empty_iff he).mpr h

/-- A row's columns are its first three, empty ones as a blank, just when it is
`Unshifted`. -/
theorem columns_eq_shown_iff : columns r.line = some r.columnsShown ↔ r.Unshifted := by
  refine ⟨fun e => ?_, r.columns_of_unshifted⟩
  by_cases h : r.first.text = []
  · exact .inr ⟨h, (r.columns_empty_iff h).mp e⟩
  · exact .inl ⟨h, (r.columns_first_iff h).mp e⟩

/-- The outer loop passes it on. -/
theorem wholeLine_of_unshifted (h : r.Unshifted) (hc : chomp r.line = r.line) :
    wholeLine r.line = some r.line := by
  have hl : r.line =
      r.first.text ++ ',' :: csvLine (r.second.text :: r.third.text :: r.rest.map (·.text)) := rfl
  have hn : r.line ≠ [] := by simp [hl]
  have hh : r.line.head? ≠ some ';' := by
    rw [hl]
    rcases h with ⟨hf, hs, -⟩ | ⟨he, -⟩
    · obtain ⟨c, f, e⟩ := List.exists_cons_of_ne_nil hf
      rw [e] at hs ⊢
      exact hs
    · simp [he]
  rw [wholeLine, hc, if_neg (not_or.mpr ⟨hn, hh⟩)]

end TableRow

/-- A table none of whose columns is shifted gives an entry for every row, in order. -/
theorem getmac_eq : ∀ {rows : List TableRow}, (∀ r ∈ rows, r.Unshifted ∧ chomp r.line = r.line) →
    getmac (rows.map (·.line)) = rows.flatMap fun r => entry r.columnsShown
  | [], _ => rfl
  | r :: rows, h => by
    have hr := h r List.mem_cons_self
    have ih := getmac_eq fun r hm => h r (List.mem_cons_of_mem _ hm)
    have hw := r.wholeLine_of_unshifted hr.1 hr.2
    simp only [getmac] at ih
    rw [getmac, List.map_cons, List.filterMap_cons_some hw,
      List.filterMap_cons_some (r.columns_of_unshifted hr.1), List.flatMap_cons, ih, List.flatMap_cons]

/-- The line `,b,c`: the empty first column is lost. -/
theorem columns_leading : columns (csvLine [[], ['b'], ['c']]) = some (['b'], ['c'], []) ∧
    columns (csvLine [[], ['b'], ['c']]) ≠ some ([' '], ['b'], ['c']) := by decide

end Espo.Wol
