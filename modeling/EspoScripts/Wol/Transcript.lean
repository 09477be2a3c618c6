import EspoScripts.Wol.Imagecaster

/-!
# What a switch's log makes the scripts wake

A log (`Transcript`) is a banner, the heading of the MAC table, its rows,
and the prompt with the logout dialogue. `Row.scanLine_eq_iff` says which
rows hand over their own MAC: those behind a carriage return whose MAC holds
a decimal digit.

The blank line that ends the table hands over the status line of `echo`
(`scanLine_blank`), so the addresses handed over are the MACs of the table
only when the 27 skipped lines reach past that line (`scan_eq_macs_iff`). What
the logout line then hands over is said of its characters
(`scanLine_logout_none`, `scanLine_logout_mac`).
-/

namespace Espo.Wol

open Espo.Cmd Espo.Run

/-- The digits of the MACs in the table. -/
def isHex (c : Char) : Bool := c.isDigit || (decide ('a' ≤ c) && decide (c ≤ 'f'))

/-- A MAC as the table has it: six hex digits, a dash, six hex digits. -/
structure Mac where
  hi : Line
  lo : Line
  hi_length : hi.length = 6
  lo_length : lo.length = 6
  hi_hex : ∀ c ∈ hi, isHex c = true
  lo_hex : ∀ c ∈ lo, isHex c = true

/-- The text of a MAC. -/
def Mac.text (m : Mac) : Line := m.hi ++ '-' :: m.lo

/-- A row of the table: perhaps a carriage return, two blanks, the MAC, a
blank, the port number, and the blanks that fill the line. -/
structure Row where
  cr : Bool
  mac : Mac
  port : Line
  pad : Nat
  port_ne : port ≠ []
  port_digits : ∀ c ∈ port, c.isDigit = true

/-- A row from its MAC on. -/
def Row.body (r : Row) : Line := r.mac.text ++ ' ' :: r.port ++ List.replicate r.pad ' '

/-- The line of a row. -/
def Row.line (r : Row) : Line := (if r.cr then ['\r'] else []) ++ ' ' :: ' ' :: r.body

/-- The heading of the table. -/
def heading : List Line :=
  ["\r Status and Counters - Port Address Table".toList,
   "\r".toList,
   "\r  MAC Address   Located on Port".toList,
   "\r  ------------- ---------------".toList]

/-- A switch's log; `closing` is the prompt with the logout dialogue behind it, which
holds no `!`, as delayed expansion would take it. -/
structure Transcript where
  banner : List Line
  rows : List Row
  closing : Line
  closing_plain : '!' ∉ closing

namespace Transcript

variable (T : Transcript)

/-- The line of the prompt and the logout dialogue. -/
def logout : Line := '\r' :: T.closing

/-- The complete lines of the log. -/
def lines : List Line :=
  T.banner ++ heading ++ T.rows.map Row.line ++ ["\r ".toList, T.logout]

/-- The log: it ends in a carriage return that no line break follows. -/
def file : TextFile := ⟨T.lines, ['\r']⟩

/-- The MACs of the table. -/
def macs : List Line := T.rows.map (·.mac.text)

/-- Columns 4 to 16 of the logout line; carriage returns at its end are part of the line
break. -/
def prompt : Line := substr 3 13 (chomp T.logout)

/-- The logout line hands over nothing: it holds carriage returns only, or its columns 4
to 16 hold a text without a digit and without `A` to `F`, or one that begins with `;`. -/
def Silent : Prop :=
  (∀ c ∈ T.closing, c = '\r') ∨
    (∃ c ∈ T.prompt, isBlank c = false) ∧
      ((∀ c ∈ T.prompt, isUpperHex c = false) ∨ (T.prompt.dropWhile isBlank).head? = some ';')

end Transcript

/-! ## Rows -/

theorem isHex_not_blank {c : Char} (h : isHex c = true) : isBlank c = false := by
  simp only [isHex, Char.isDigit, Bool.or_eq_true, Bool.and_eq_true, decide_eq_true_eq, ge_iff_le] at h
  simp only [isBlank, Bool.or_eq_false_iff, beq_eq_false_iff_ne, ne_eq]
  constructor <;> rintro rfl <;> revert h <;> decide

theorem isHex_ne_semicolon {c : Char} (h : isHex c = true) : c ≠ ';' := by
  rintro rfl; revert h; decide

/-- Of the hex digits of a MAC, `[0-9A-F]` holds the decimal ones. -/
theorem isUpperHex_of_isHex {c : Char} (h : isHex c = true) : isUpperHex c = c.isDigit := by
  simp only [isUpperHex, Bool.or_eq_left_iff_imp, Bool.and_eq_true, decide_eq_true_eq]
  rintro ⟨-, hF⟩
  simp only [isHex, Bool.or_eq_true, Bool.and_eq_true, decide_eq_true_eq] at h
  rcases h with h | ⟨ha, -⟩
  · exact h
  · exact absurd (Char.le_trans ha hF) (by decide)

theorem exists_six : ∀ {l : Line}, l.length = 6 → ∃ a b c d e f, l = [a, b, c, d, e, f]
  | [a, b, c, d, e, f], _ => ⟨a, b, c, d, e, f, rfl⟩

theorem any_isUpperHex : ∀ {l : Line}, (∀ c ∈ l, isHex c = true) →
    l.any isUpperHex = l.any (·.isDigit)
  | [], _ => rfl
  | c :: l, h => by
    rw [List.any_cons, List.any_cons, isUpperHex_of_isHex (h c List.mem_cons_self),
      any_isUpperHex fun c hc => h c (List.mem_cons_of_mem _ hc)]

namespace Mac

variable (m : Mac)

theorem length_text : m.text.length = 13 := by
  simp only [text, List.length_append, List.length_cons, m.hi_length, m.lo_length]

theorem isUpperHex_text : m.text.any isUpperHex = m.text.any (·.isDigit) := by
  have hd : isUpperHex '-' = '-'.isDigit := by decide
  simp only [text, List.any_append, List.any_cons, any_isUpperHex m.hi_hex, any_isUpperHex m.lo_hex, hd]

/-- A MAC is its first digit and the rest. -/
theorem text_cons : ∃ c l, m.text = c :: l ∧ isHex c = true := by
  have hl := m.hi_length
  cases hm : m.hi with
  | nil => simp [hm] at hl
  | cons c l =>
    exact ⟨c, l ++ '-' :: m.lo, by simp [text, hm], m.hi_hex c (by simp [hm])⟩

theorem blank_not_mem_text : ' ' ∉ m.text := by
  have hx : ∀ l : Line, (∀ c ∈ l, isHex c = true) → ' ' ∉ l := fun l h hm => by
    have := h _ hm; revert this; decide
  simp only [text, List.mem_append, List.mem_cons, hx _ m.hi_hex, hx _ m.lo_hex, or_false, false_or]
  decide

theorem take_text (l : Line) : (m.text ++ l).take 13 = m.text := List.take_left' m.length_text

/-- A MAC behind which only blanks follow is handed over as it is, if it holds a
decimal digit. -/
theorem handOver_text : handOver (m.text ++ [' ']) =
    if m.text.any (·.isDigit) then some m.text else none := by
  obtain ⟨c, l, e, hc⟩ := m.text_cons
  have hf : forFLine (m.text ++ [' ']) = some (m.text ++ [' ']) := by
    rw [e, List.cons_append]
    exact forFLine_cons (isHex_not_blank hc) (isHex_ne_semicolon hc)
      (by rw [← List.cons_append, List.getLast?_concat]; decide)
  have ha : address (m.text ++ [' ']) = m.text := by
    rw [address, expandSubstr_setVar (by simp), substr, List.drop_zero, m.take_text]
  have hb : isUpperHex ' ' = false := by decide
  simp only [handOver, hf, Option.map_some, ha, List.any_append, m.isUpperHex_text, List.any_cons, hb,
    List.any_nil, Bool.or_false]

end Mac

namespace Row

variable (r : Row)

theorem cr_not_mem_body : '\r' ∉ r.body := by
  have hx : ∀ l : Line, (∀ c ∈ l, isHex c = true) → '\r' ∉ l := fun l h hm => by
    have := h _ hm; revert this; decide
  have hp : '\r' ∉ r.port := fun hm => by
    have := r.port_digits _ hm; revert this; decide
  simp only [body, Mac.text, List.mem_append, List.mem_cons, hx _ r.mac.hi_hex, hx _ r.mac.lo_hex, hp,
    List.mem_replicate, or_false, false_or, not_or, not_and]
  exact ⟨⟨by decide, by decide⟩, fun _ => by decide⟩

theorem getLast_line : r.line.getLast? ≠ some '\r' := by
  have hb : r.body.getLast? ≠ some '\r' := fun h => r.cr_not_mem_body (List.mem_of_getLast? h)
  have hn : r.body ≠ [] := by
    obtain ⟨c, l, e, -⟩ := r.mac.text_cons
    simp [body, e]
  obtain ⟨c, l, e⟩ := List.exists_cons_of_ne_nil hn
  rw [e] at hb
  cases hcr : r.cr <;> simpa [line, hcr, e] using hb

/-- Behind a carriage return the columns 4 to 16 of a row are its MAC, and it is
handed over if it holds a decimal digit. -/
theorem scanLine_cr (h : r.cr = true) :
    scanLine r.line = if r.mac.text.any (·.isDigit) then some r.mac.text else none := by
  have e : r.line = '\r' :: ' ' :: ' ' :: r.body := by simp [line, h]
  have hf : forFLine r.line = some r.line := by
    have hl := r.getLast_line
    rw [e] at hl ⊢
    exact forFLine_cons (by decide) (by decide) hl
  have hc : cut r.line = r.mac.text ++ [' '] := by
    obtain ⟨c, l, ht, hx⟩ := r.mac.text_cons
    have hs : substr 3 13 r.line = r.mac.text := by
      rw [e, substr, List.drop_succ_cons, List.drop_succ_cons, List.drop_succ_cons, List.drop_zero, body,
        List.append_assoc, r.mac.take_text]
    rw [cut, expandSubstr_setVar (by simp [e]), hs, echo, if_neg (by simp [ht, isHex_not_blank hx])]
  rw [scanLine, hf, Option.bind_some, hc, r.mac.handOver_text]

/-- Without one the blanks are skipped before the columns are cut, and the cut
starts three digits into the MAC. -/
theorem scanLine_bare (h : r.cr = false) : scanLine r.line ≠ some r.mac.text := by
  obtain ⟨a, b, c, d, e, f, hhi⟩ := exists_six r.mac.hi_length
  have hd : isHex d = true := r.mac.hi_hex d (by simp [hhi])
  have ha : isHex a = true := r.mac.hi_hex a (by simp [hhi])
  have hne : d ≠ '-' := by rintro rfl; revert hd; decide
  have ht : r.mac.text = a :: b :: c :: d :: e :: f :: '-' :: r.mac.lo := by simp [Mac.text, hhi]
  have hb : r.body =
      a :: b :: c :: d :: e :: f :: '-' :: (r.mac.lo ++ ' ' :: r.port ++ List.replicate r.pad ' ') := by
    simp [body, ht]
  have hf : forFLine r.line = some r.body := by
    have e : r.line = ' ' :: ' ' :: r.body := by simp [line, h]
    have hs : (r.line.dropWhile isBlank) = r.body := by
      rw [e, hb, List.dropWhile_cons_of_pos (by decide), List.dropWhile_cons_of_pos (by decide),
        List.dropWhile_cons_of_neg (by simp [isHex_not_blank ha])]
    rw [forFLine, chomp_of_getLast r.getLast_line, if_neg (by simp [e]), hs,
      if_neg (by simp [hb, isHex_ne_semicolon ha])]
  obtain ⟨l, hc⟩ : ∃ l, cut r.body = d :: e :: f :: '-' :: l ++ [' '] := by
    refine ⟨(r.mac.lo ++ ' ' :: r.port ++ List.replicate r.pad ' ').take 9, ?_⟩
    rw [cut, expandSubstr_setVar (by simp [hb]), echo, hb]
    simp [substr, isHex_not_blank hd]
  have hv : forFLine (cut r.body) = some (cut r.body) := by
    rw [hc, List.cons_append]
    exact forFLine_cons (isHex_not_blank hd) (isHex_ne_semicolon hd)
      (by rw [← List.cons_append, List.getLast?_concat]; decide)
  have hx : address (cut r.body) ≠ r.mac.text := by
    rw [address, expandSubstr_setVar (by simp [hc]), hc, ht]
    simp only [substr, List.drop_zero, List.cons_append, List.take_succ_cons, ne_eq, List.cons.injEq, not_and]
    exact fun _ _ _ he => absurd he.symm hne
  rw [scanLine, hf, Option.bind_some, handOver, hv]
  split
  · simpa using hx
  · simp

/-- The rows that hand over their MAC. -/
theorem scanLine_eq_iff : scanLine r.line = some r.mac.text ↔
    r.cr = true ∧ r.mac.text.any (·.isDigit) = true := by
  cases h : r.cr with
  | false => simp [r.scanLine_bare h]
  | true =>
    rw [r.scanLine_cr h]
    split <;> simp_all

end Row

/-! ## Logs -/

/-- The line that ends the table hands over the status line of `echo`. -/
theorem scanLine_blank : scanLine "\r ".toList = some echoStatus := by decide

/-- What a text handed to `echo` with a blank behind it makes the scripts hand over: the
status line if it is blank, nothing if it holds no `[0-9A-F]` or begins with `;`, and
else thirteen characters of it. -/
theorem handOver_echo (w : Line) : handOver (echo (w ++ [' '])) =
    if w.all isBlank then some echoStatus
    else if w.any isUpperHex = false ∨ (w.dropWhile isBlank).head? = some ';' then none
    else some ((w.dropWhile isBlank ++ [' ']).take 13) := by
  by_cases hb : w.all isBlank = true
  · have he : echo (w ++ [' ']) = echoStatus := if_pos (by rw [List.all_append, hb]; rfl)
    rw [if_pos hb, he]
    decide
  · obtain ⟨c, l, hd⟩ : ∃ c l, w.dropWhile isBlank = c :: l :=
      List.exists_cons_of_ne_nil fun he => hb (List.all_eq_true.mpr (List.dropWhile_eq_nil_iff.mp he))
    have he : echo (w ++ [' ']) = w ++ [' '] :=
      if_neg (by rw [List.all_append, Bool.and_eq_true]; exact fun h => hb h.1)
    have hk : chomp (w ++ [' ']) = w ++ [' '] := chomp_of_getLast (by rw [List.getLast?_concat]; decide)
    have hw : (w ++ [' ']).dropWhile isBlank = w.dropWhile isBlank ++ [' '] := by
      rw [List.dropWhile_append, hd]
      rfl
    have hx : (w ++ [' ']).any isUpperHex = w.any isUpperHex := by
      have h₀ : isUpperHex ' ' = false := by decide
      rw [List.any_append, List.any_cons, List.any_nil, h₀, Bool.or_false, Bool.or_false]
    have hf : forFLine (w ++ [' ']) =
        if (w.dropWhile isBlank).head? = some ';' then none else some (w.dropWhile isBlank ++ [' ']) := by
      rw [forFLine, hk, if_neg (by simp), hw, hd]
      rfl
    rw [if_neg hb, he, handOver, hx]
    by_cases hu : w.any isUpperHex = false
    · rw [if_neg (by simp [hu]), if_pos (.inl hu)]
    · rw [if_pos (by simpa using hu), hf]
      by_cases hs : (w.dropWhile isBlank).head? = some ';'
      · rw [if_pos hs, if_pos (.inr hs)]
        rfl
      · rw [if_neg hs, if_neg (by rw [not_or]; exact ⟨hu, hs⟩), Option.map_some, address,
          expandSubstr_setVar (by simp), substr, List.drop_zero]

theorem Mac.text_ne_echoStatus (m : Mac) : m.text ≠ echoStatus := fun h =>
  absurd (m.length_text.symm.trans (congrArg List.length h)) (by decide)

/-- `echo` prints a MAC. -/
theorem Mac.echo_text (m : Mac) : echo (m.text ++ [' ']) = m.text ++ [' '] := by
  obtain ⟨c, l, e, hc⟩ := m.text_cons
  rw [echo, if_neg (by simp [e, isHex_not_blank hc])]

/-- A text of thirteen characters at most that makes the scripts hand over a MAC is that
MAC: a shorter one would be handed over with the blank behind it. -/
theorem Mac.eq_of_handOver_echo (m : Mac) {w : Line} (hw : w.length ≤ 13)
    (e : handOver (echo (w ++ [' '])) = some m.text) : w = m.text := by
  rw [handOver_echo] at e
  split at e
  · exact absurd (Option.some.inj e).symm m.text_ne_echoStatus
  · split at e
    · exact absurd e (by simp)
    · have ht := Option.some.inj e
      have hs : w.dropWhile isBlank <:+ w := List.dropWhile_suffix _
      have hl := congrArg List.length ht
      rw [List.length_take, List.length_append, List.length_singleton, m.length_text] at hl
      have h₁ := hs.length_le
      by_cases hd : (w.dropWhile isBlank).length = 13
      · rw [List.take_left' hd] at ht
        rw [← ht]
        exact (hs.eq_of_length (by omega)).symm
      · -- the blank would be the last character of the MAC
        have h₂ : (w.dropWhile isBlank ++ [' ']).length = 13 := by
          rw [List.length_append, List.length_singleton]
          omega
        rw [List.take_of_length_le (by omega)] at ht
        exact absurd (ht ▸ List.mem_append_right _ (List.mem_singleton_self ' ')) m.blank_not_mem_text

namespace Transcript

variable (T : Transcript)

theorem logout_cut : cut (chomp T.logout) = echo (T.prompt ++ [' ']) ∨ chomp T.logout = [] := by
  by_cases h : chomp T.logout = []
  · exact .inr h
  · exact .inl (by rw [cut, expandSubstr_setVar h, prompt])

theorem length_prompt : T.prompt.length ≤ 13 := by
  rw [prompt, substr, List.length_take]
  omega

/-- The logout line, unless it holds carriage returns only. -/
theorem scanLine_logout (h : ¬ ∀ c ∈ T.closing, c = '\r') :
    scanLine T.logout = handOver (echo (T.prompt ++ [' '])) := by
  have hn : chomp T.logout ≠ [] := fun he =>
    h fun c hc => chomp_eq_nil_iff.mp he c (List.mem_cons_of_mem _ hc)
  obtain ⟨l, hl⟩ : ∃ l, chomp T.logout = '\r' :: l := by
    obtain ⟨t, ht⟩ := prefix_chomp T.logout
    cases hc : chomp T.logout with
    | nil => exact absurd hc hn
    | cons c l =>
      rw [hc, logout, List.cons_append, List.cons.injEq] at ht
      exact ⟨l, by rw [ht.1]⟩
  have hf : forFLine T.logout = some (chomp T.logout) := by
    rw [forFLine, if_neg hn, hl, List.dropWhile_cons_of_neg (by decide), List.head?_cons,
      if_neg (by simp)]
  rw [scanLine, hf, Option.bind_some, (T.logout_cut).resolve_right hn]

theorem scanLine_logout_of_cr (h : ∀ c ∈ T.closing, c = '\r') : scanLine T.logout = none := by
  have hc : chomp T.logout = [] := chomp_eq_nil_iff.mpr (List.forall_mem_cons.mpr ⟨rfl, h⟩)
  rw [scanLine, forFLine, if_pos hc, Option.bind_none]

/-- The logout line hands over nothing just when it is `Silent`. -/
theorem scanLine_logout_none : scanLine T.logout = none ↔ T.Silent := by
  by_cases h : ∀ c ∈ T.closing, c = '\r'
  · exact iff_of_true (T.scanLine_logout_of_cr h) (.inl h)
  · have hb : (∃ c ∈ T.prompt, isBlank c = false) ↔ ¬ T.prompt.all isBlank = true := by simp
    have hu : (∀ c ∈ T.prompt, isUpperHex c = false) ↔ T.prompt.any isUpperHex = false := by simp
    rw [T.scanLine_logout h, Silent, or_iff_right h, handOver_echo, hb, hu]
    split
    · exact iff_of_false (by simp) fun hi => hi.1 ‹_›
    · rw [and_iff_right ‹_›]
      split
      · exact iff_of_true rfl ‹_›
      · exact iff_of_false (by simp) ‹_›

/-- It hands over a MAC just when this is what it has in its columns 4 to 16, and the MAC
holds a decimal digit. -/
theorem scanLine_logout_mac (m : Mac) :
    scanLine T.logout = some m.text ↔ T.prompt = m.text ∧ m.text.any (·.isDigit) = true := by
  by_cases h : ∀ c ∈ T.closing, c = '\r'
  · have hp : T.prompt = [] := by
      have hc : chomp T.logout = [] := chomp_eq_nil_iff.mpr (List.forall_mem_cons.mpr ⟨rfl, h⟩)
      rw [prompt, hc]
      rfl
    rw [T.scanLine_logout_of_cr h, hp]
    refine iff_of_false (by simp) fun hi => ?_
    have hl := m.length_text
    rw [← hi.1] at hl
    exact absurd hl (by decide)
  · rw [T.scanLine_logout h]
    constructor
    · intro e
      have hp : T.prompt = m.text := m.eq_of_handOver_echo T.length_prompt e
      rw [hp, m.echo_text, m.handOver_text] at e
      refine ⟨hp, ?_⟩
      cases hd : m.text.any (·.isDigit) with
      | true => rfl
      | false => simp [hd] at e
    · rintro ⟨hp, hd⟩
      rw [hp, m.echo_text, m.handOver_text, if_pos hd]

/-- When the addresses handed over are the MACs of the table: the 27 skipped
lines hold the whole table and the line that ends it, and the logout line, if
it is not skipped as well, hands over what the table holds. -/
def Skipped : Prop :=
  (T.rows = [] ∧ (T.banner.length < 22 ∨ T.banner.length = 22 ∧ T.Silent)) ∨
    ∃ r, T.rows = [r] ∧ T.banner.length = 21 ∧ T.prompt = r.mac.text ∧ r.mac.text.any (·.isDigit) = true

/-- In terms of what the logout line hands over. -/
theorem skipped_iff : T.Skipped ↔
    (T.rows = [] ∧ (T.banner.length < 22 ∨ T.banner.length = 22 ∧ scanLine T.logout = none)) ∨
      ∃ r, T.rows = [r] ∧ T.banner.length = 21 ∧ scanLine T.logout = some r.mac.text := by
  simp only [Skipped, scanLine_logout_none, scanLine_logout_mac]

theorem drop_lines : T.file.lines.drop 27 =
    (T.banner ++ heading ++ T.rows.map Row.line).drop 27 ++
      ["\r ".toList, T.logout, ['\r']].drop (27 - (T.banner.length + 4 + T.rows.length)) := by
  have e : T.file.lines = (T.banner ++ heading ++ T.rows.map Row.line) ++ ["\r ".toList, T.logout, ['\r']] := by
    simp [file, TextFile.lines, lines]
  have hl : heading.length = 4 := rfl
  rw [e, List.drop_append]
  simp only [List.length_append, List.length_map, hl]

/-- The addresses a log hands over are the MACs of its table just when the log is
`Skipped`. -/
theorem scan_eq_macs_iff : scan (T.file.lines.drop 27) = T.macs ↔ T.Skipped := by
  have hcr : scanLine ['\r'] = none := by decide
  rw [T.drop_lines, scan_append, T.skipped_iff]
  by_cases hn : 27 ≤ T.banner.length + 4 + T.rows.length
  · -- the line that ends the table is read, and its status line is no MAC
    have hs : echoStatus ∉ T.macs := by
      simp only [macs, List.mem_map, not_exists, not_and]
      exact fun r _ => r.mac.text_ne_echoStatus
    have hm : echoStatus ∈ scan ["\r ".toList, T.logout, ['\r']] :=
      List.mem_filterMap.mpr ⟨_, List.mem_cons_self, scanLine_blank⟩
    refine iff_of_false (fun h => hs ?_) ?_
    · rw [← h, show 27 - (T.banner.length + 4 + T.rows.length) = 0 by omega, List.drop_zero]
      exact List.mem_append_right _ hm
    · rintro (⟨hr, hb⟩ | ⟨r, hr, hb, -⟩) <;>
        simp only [hr, List.length_nil, List.length_singleton] at hn <;> omega
  · have hd : (T.banner ++ heading ++ T.rows.map Row.line).drop 27 = [] := by
      have hl : heading.length = 4 := rfl
      apply List.drop_eq_nil_of_le
      simp only [List.length_append, List.length_map, hl]
      omega
    have hn0 : scan [] = [] := rfl
    rw [hd, hn0, List.nil_append]
    by_cases hk : T.banner.length + T.rows.length = 22
    · -- only the logout line is read
      rw [show 27 - (T.banner.length + 4 + T.rows.length) = 1 by omega, List.drop_succ_cons, List.drop_zero]
      rcases hr : T.rows with _ | ⟨r, _ | ⟨r', rs⟩⟩ <;>
        simp only [hr, List.length_nil, List.length_cons] at hk <;>
        cases hs : scanLine T.logout <;> simp [scan, macs, hr, hs, hcr] <;> omega
    · -- nothing is read
      obtain ⟨n, hn'⟩ : ∃ n, 27 - (T.banner.length + 4 + T.rows.length) = n + 2 :=
        ⟨25 - (T.banner.length + 4 + T.rows.length), by omega⟩
      have hl : scan (["\r ".toList, T.logout, ['\r']].drop (n + 2)) = [] := by
        rw [List.drop_succ_cons, List.drop_succ_cons]
        cases n <;> simp [scan, hcr]
      rw [hn', hl]
      rcases hr : T.rows with _ | ⟨r, _ | ⟨r', rs⟩⟩ <;>
        simp only [hr, List.length_nil, List.length_cons] at hk hn <;> simp [macs, hr] <;> omega

/-- What macextract.bat, and an iteration of imagecaster.bat after any earlier
ones, hand to `wol.exe` for a log are the MACs of its table just when the log
is `Skipped`. -/
theorem wakes_macs_iff (d : Dir) (logs : Nat → Option TextFile) (wol : Line → List Line)
    (hist : List Network) :
    ((macextract { d with test := some T.file, testmac3 := none }).2 = T.macs ↔ T.Skipped) ∧
    ((startMacro wol (after (startMacro wol) (start { d with testmac3 := none } logs) hist)
      fun _ => .connected T.file).2 = T.macs ↔ T.Skipped) := by
  have hm : (macextract { d with test := some T.file, testmac3 := none }).2 = scan (T.file.lines.drop 27) :=
    (addresses_extract (d := { d with test := some T.file, testmac3 := none }) rfl).trans (List.nil_append _)
  have hi : (startMacro wol (after (startMacro wol) (start { d with testmac3 := none } logs) hist)
      fun _ => .connected T.file).2 = scan (T.file.lines.drop 27) := by
    have h3 : (after (startMacro wol) (start { d with testmac3 := none } logs) hist).dir.testmac3 = none := by
      rcases testmac3_after wol { d with testmac3 := none } logs hist with h | h <;> exact h
    rw [calls_startMacro (running_after wol _ logs hist) _ (by rw [h3]; rfl), h3]
    rfl
  rw [hm, hi]
  exact ⟨T.scan_eq_macs_iff, T.scan_eq_macs_iff⟩

end Transcript

/-- A row as the switches send them: `000048-37c480` on port 19. -/
def row19 : Row where
  cr := true
  mac := ⟨"000048".toList, "37c480".toList, rfl, rfl, List.all_eq_true.mp rfl, List.all_eq_true.mp rfl⟩
  port := "19".toList
  pad := 13
  port_ne := by decide
  port_digits := List.all_eq_true.mp rfl

/-- A log with the banner of 23 lines the scripts are written for, and one row. -/
def log19 : Transcript where
  banner := List.replicate 23 "\r".toList
  rows := [row19]
  closing := "2510G-24-145#  logoutDo you want to log out [y/n]? y".toList
  closing_plain := by decide

/-- Besides the MAC, the status line of `echo` and a piece of the prompt are handed
over. -/
theorem wakes_log19 :
    (macextract ⟨some log19.file, none, none, none⟩).2 =
        ["000048-37c480".toList, "ECHO is off.".toList, "10G-24-145#  ".toList] ∧
      (macextract ⟨some log19.file, none, none, none⟩).2 ≠ log19.macs := by decide

end Espo.Wol
