import Mathlib.Data.Char
import Mathlib.Data.List.Lex
import Mathlib.Data.List.Sort
import Mathlib.Data.List.TakeWhile
import EspoScripts.Catalog.Clear

/-!
# Delete all files & subfolders in specified catalog.bat

The script lists what is below CAT in descending order, appends the list to
`files2del.txt` (`workList`), and gives each line of it, up to its first
semicolon, to `del` and `rd` (`texts`).

In descending order a directory comes after everything in it
(`text_lt`), so that every directory whose own path is read whole is
cleared when its turn comes (`cleared_listed`, `cleared_of_whole`). What is
left to the semicolons and to the lines found in `files2del.txt` is said by
`Clears`, and `emptied_iff` is that the script empties CAT, and nothing else,
just then.
-/

namespace Espo.Catalog

open Espo.Cmd Espo.Tree

/-- What the script finds: the disk, the folder CAT on it, the `files2del.txt` of an
earlier run, and what texts name, the path of an entry naming that entry. -/
structure Before where
  disk : Disk
  CAT : Path
  cat_in : CAT ∈ disk.dirs
  files2del : Option TextFile
  names : Names
  names_text : ∀ p ∈ disk.dirs ++ disk.files,
    names.dir p.text = some p ∧ ∀ f, names.file p.text f = true ↔ f = p

/-- `dir "%CAT%"/s/b/a`. -/
def dirSBA (d : Disk) (CAT : Path) : List Line := ((d.dirs ++ d.files).filter CAT.holds).map Path.text

/-- `sort /r`. -/
def sortR (ls : List Line) : List Line := ls.insertionSort (· ≥ ·)

/-- The text `for /F "delims=;"` binds on a line, if it runs its body: the text between
the leading semicolons and the next one. -/
def forFText (l : Line) : Option Line :=
  if (token (· == ';') (chomp l)).1 = [] then none else some (token (· == ';') (chomp l)).1

namespace Before

variable (b : Before)

/-- The list of the entries below CAT. -/
def listed : List Line := sortR (dirSBA b.disk b.CAT)

/-- `>> %TEMP%\files2del.txt`. -/
def workList : TextFile := b.listed.foldl .append (b.files2del.getD .empty)

/-- The texts `for` runs through. -/
def texts : List Line := b.workList.lines.filterMap forFText

end Before

/-- The script: the disk it leaves, and `files2del.txt`, which it deletes. -/
def deleteAll (b : Before) : Disk × Option TextFile := (run b.names b.disk b.texts, none)

/-! ## The work list -/

theorem mem_sortR {l : Line} {ls : List Line} : l ∈ sortR ls ↔ l ∈ ls := List.mem_insertionSort _

theorem pairwise_sortR (ls : List Line) : (sortR ls).Pairwise (· ≥ ·) := List.pairwise_insertionSort _ ls

/-- A directory comes before its entries in the order of lines. -/
theorem text_lt {p q : Path} (h : q.parent = some p) : p.text < q.text := by
  cases q with
  | root => cases h
  | sub d n =>
    obtain rfl : d = p := Option.some.inj h
    have := List.Lex.append_left (· < ·) (List.Lex.nil (a := '\\') (l := n.1)) d.text
    rwa [List.append_nil] at this

/-- A path without a semicolon is read whole. -/
theorem forFText_text {p : Path} (h : ';' ∉ p.text) : forFText p.text = some p.text := by
  have hd : p.text.dropWhile (· == ';') = p.text :=
    List.dropWhile_beq_eq_self_of_head?_ne fun e => h (List.mem_of_mem_head? e)
  have ht : p.text.takeWhile (fun c => !(c == ';')) = p.text := by
    refine List.takeWhile_eq_self_iff.mpr fun c hc => ?_
    rw [Bool.not_eq_true', beq_eq_false_iff_ne]
    rintro rfl
    exact h hc
  rw [forFText, chomp_of_getLast p.getLast?_text, token, hd, ht, if_neg p.text_ne_nil]

namespace Before

variable {b : Before}

theorem mem_listed {l : Line} :
    l ∈ b.listed ↔ ∃ p ∈ b.disk.dirs ++ b.disk.files, b.CAT.holds p ∧ p.text = l := by
  simp only [listed, mem_sortR, dirSBA, List.mem_map, List.mem_filter, and_assoc]

/-- The listed paths that are lines of the work list: all, or all but the first, which
continues the last line of a file that ends without a line break. -/
def own (b : Before) : List Line := if (b.files2del.getD .empty).rest = [] then b.listed else b.listed.tail

theorem lines_workList (b : Before) : ∃ found, b.workList.lines = found ++ b.own := by
  unfold workList own
  split
  · rename_i h
    rw [TextFile.foldl_append_of_rest_nil _ h]
    exact ⟨_, rfl⟩
  · cases b.listed with
    | nil => exact ⟨_, (List.append_nil _).symm⟩
    | cons l ls =>
      rw [List.foldl_cons, TextFile.foldl_append_of_rest_nil ls rfl]
      exact ⟨_, rfl⟩

theorem pairwise_own (b : Before) : b.own.Pairwise (· ≥ ·) := by
  unfold own
  split
  · exact pairwise_sortR _
  · exact (pairwise_sortR _).tail

/-! ## What the listed paths do -/

/-- No text of the work list is the path of the entry. -/
def Lost (b : Before) (p : Path) : Prop := ';' ∈ p.text ∨ p.text ∉ b.own

/-- A listed path names nothing but its entry, which is below CAT. -/
theorem harmless_listed {t : Line} (h : t ∈ b.listed) (done : List Line) :
    Harmless b.names b.disk b.CAT done t := by
  obtain ⟨p, hp, hb, rfl⟩ := mem_listed.mp h
  obtain ⟨hdir, hfile⟩ := b.names_text p hp
  constructor
  · intro f _ hf hn
    rw [(hfile f).mp hn] at hf
    exact hf hb
  · intro q _ _ hq e
    obtain rfl : p = q := Option.some.inj (hdir.symm.trans e)
    exact absurd hb hq
  · intro e
    obtain rfl : p = b.CAT := Option.some.inj (hdir.symm.trans e)
    exact absurd hb (Path.not_holds_self _)

/-- Neither the directory nor any directory below it is lost. -/
def Whole (b : Before) (p : Path) : Prop := ∀ q ∈ b.disk.dirs, q = p ∨ p.holds q → ¬ b.Lost q

theorem Whole.entry {p q : Path} (h : b.Whole p) (hq : q.parent = some p) : b.Whole q := by
  intro r hr hqr
  refine h r hr (.inr ?_)
  rcases hqr with rfl | hb
  · exact Path.holds_of_parent hq
  · exact Path.holds_trans (Path.holds_of_parent hq) hb

/-- The listed paths in descending order, by induction on them: where the whole directories
whose paths are not among them have been cleared, they clear the others. -/
theorem cleared_listed : ∀ {ls done : List Line}, ls.Pairwise (· ≥ ·) →
    (∀ p ∈ b.disk.dirs, b.CAT.holds p → b.Whole p → p.text ∉ ls → Cleared b.names b.disk done p) →
    ∀ p ∈ b.disk.dirs, b.CAT.holds p → b.Whole p →
      Cleared b.names b.disk ((ls.filterMap forFText).reverse ++ done) p
  | [], _, _, h => fun p hp hb hw => h p hp hb hw List.not_mem_nil
  | l :: ls, done, hls, h => by
    obtain ⟨hl, hls⟩ := List.pairwise_cons.mp hls
    have hcons : ((l :: ls).filterMap forFText).reverse ++ done =
        (ls.filterMap forFText).reverse ++ ((forFText l).toList ++ done) := by
      rw [List.filterMap_cons]
      cases forFText l <;> simp
    rw [hcons]
    refine cleared_listed hls fun p hp hb hw hn => ?_
    by_cases he : p.text = l
    · -- its directories are greater lines, so they are not to come any more
      have hdir := (b.names_text p (List.mem_append_left _ hp)).1
      have hsub : ∀ q ∈ b.disk.dirs, q.parent = some p → Cleared b.names b.disk done q := by
        intro q hq hpar
        have hlt := text_lt hpar
        refine h q hq ((Path.holds_iff hpar).mpr (.inr hb)) (hw.entry hpar) fun hm => ?_
        rcases List.mem_cons.mp hm with e | hm
        · exact absurd (he.trans e.symm) (ne_of_lt hlt)
        · exact absurd (hl _ hm) (not_le_of_gt (he ▸ hlt))
      have hs : ';' ∉ p.text := fun hs => hw p hp (.inl rfl) (.inl hs)
      rw [← he, forFText_text hs]
      exact .inr ⟨hdir, hsub⟩
    · have hm : p.text ∉ l :: ls := by
        rw [List.mem_cons]
        rintro (e | hm)
        · exact he e
        · exact hn hm
      exact (h p hp hb hw hm).append _

/-- A directory below CAT is cleared, if it and those below it are not lost. -/
theorem cleared_of_whole {p : Path} (hp : p ∈ b.disk.dirs) (hb : b.CAT.holds p) (hw : b.Whole p) :
    Cleared b.names b.disk b.texts.reverse p := by
  obtain ⟨found, hf⟩ := b.lines_workList
  rw [texts, hf, List.filterMap_append, List.reverse_append]
  refine cleared_listed b.pairwise_own (fun q hq _ hwq hn => ?_) p hp hb hw
  exact absurd (.inr hn) (hwq q hq (.inl rfl))

/-- An entry that is not lost is named by its own path. -/
theorem text_mem_texts {p : Path} (h : ¬ b.Lost p) : p.text ∈ b.texts := by
  obtain ⟨found, hf⟩ := b.lines_workList
  rw [Lost, not_or, not_not] at h
  rw [texts, hf, List.mem_filterMap]
  exact ⟨p.text, List.mem_append_right _ h.2, forFText_text h.1⟩

theorem named_of_not_lost {f : Path} (hf : f ∈ b.disk.files) (h : ¬ b.Lost f) :
    Named b.names b.texts.reverse f := by
  refine ⟨f.text, List.mem_reverse.mpr (text_mem_texts h), .inl ?_⟩
  exact ((b.names_text f (List.mem_append_right _ hf)).2 f).mpr rfl

/-! ## Emptied -/

/-- When the script empties CAT and nothing else: every text that is not the path of an
entry below CAT is harmless when its turn comes, every directory that is lost or has
a lost one below it is cleared all the same, and every lost file of CAT is named. -/
structure Clears (b : Before) : Prop where
  texts : ∀ pre t post, b.texts = pre ++ t :: post → t ∉ b.listed →
    Harmless b.names b.disk b.CAT pre.reverse t
  dirs : ∀ p ∈ b.disk.dirs, b.CAT.holds p → (∃ q ∈ b.disk.dirs, (q = p ∨ p.holds q) ∧ b.Lost q) →
    Cleared b.names b.disk b.texts.reverse p
  files : ∀ f ∈ b.disk.files, f.parent = some b.CAT → b.Lost f → Named b.names b.texts.reverse f

theorem safe_texts (h : ∀ pre t post, b.texts = pre ++ t :: post → t ∉ b.listed →
    Harmless b.names b.disk b.CAT pre.reverse t) : Safe b.names b.disk b.CAT [] b.texts := by
  refine safe_iff.mpr fun pre t post e => ?_
  rw [List.append_nil]
  by_cases ht : t ∈ b.listed
  · exact harmless_listed ht _
  · exact h pre t post e ht

theorem cleared_dirs (h : ∀ p ∈ b.disk.dirs, b.CAT.holds p →
    (∃ q ∈ b.disk.dirs, (q = p ∨ p.holds q) ∧ b.Lost q) → Cleared b.names b.disk b.texts.reverse p) :
    ∀ p ∈ b.disk.dirs, b.CAT.holds p → Cleared b.names b.disk b.texts.reverse p := by
  intro p hp hb
  by_cases hw : b.Whole p
  · exact cleared_of_whole hp hb hw
  · simp only [Whole, not_forall, not_not] at hw
    obtain ⟨q, hq, hqp, hl⟩ := hw
    exact h p hp hb ⟨q, hq, hqp, hl⟩

/-- For every disk, and whatever `files2del.txt` held: the script leaves CAT empty and
everything else as it was just when `Clears` holds. -/
theorem emptied_iff (b : Before) : Emptied b.disk b.CAT (deleteAll b).1 ↔ b.Clears := by
  rw [deleteAll, emptied_run_iff b.cat_in]
  constructor
  · rintro ⟨hs, hd, hf⟩
    refine ⟨fun pre t post e _ => ?_, fun p hp hb _ => hd p hp hb, fun f hf' hpar _ => hf f hf' hpar⟩
    have := safe_iff.mp hs pre t post e
    rwa [List.append_nil] at this
  · intro h
    refine ⟨safe_texts h.texts, cleared_dirs h.dirs, fun f hf hpar => ?_⟩
    by_cases hl : b.Lost f
    · exact h.files f hf hpar hl
    · exact named_of_not_lost hf hl

/-- An empty `files2del.txt`: the work list is the list of the entries. -/
theorem lines_workList_of_empty (hl : linesOf b.files2del = []) :
    b.workList.lines = b.listed ∧ b.own = b.listed := by
  rw [linesOf_eq] at hl
  have he := TextFile.lines_eq_nil hl
  rw [workList, own, he, TextFile.foldl_append_of_rest_nil _ (by rfl), if_pos (by rfl)]
  exact ⟨rfl, rfl⟩

/-- With an empty work list to begin with, and no semicolon in any path below CAT, it does. -/
theorem emptied_of_no_semicolon (hl : linesOf b.files2del = [])
    (hs : ∀ p ∈ b.disk.dirs ++ b.disk.files, b.CAT.holds p → ';' ∉ p.text) :
    Emptied b.disk b.CAT (deleteAll b).1 := by
  obtain ⟨hw, hown⟩ := lines_workList_of_empty hl
  have htexts : ∀ t ∈ b.texts, t ∈ b.listed := by
    intro t ht
    obtain ⟨l, hm, e⟩ := List.mem_filterMap.mp ht
    rw [hw] at hm
    obtain ⟨p, hp, hb, rfl⟩ := mem_listed.mp hm
    rw [forFText_text (hs p hp hb)] at e
    rwa [← Option.some.inj e]
  have hlost : ∀ p ∈ b.disk.dirs ++ b.disk.files, b.CAT.holds p → ¬ b.Lost p := by
    intro p hp hb hl
    rcases hl with h | h
    · exact hs p hp hb h
    · rw [hown] at h
      exact h (mem_listed.mpr ⟨p, hp, hb, rfl⟩)
  rw [deleteAll, emptied_run_iff b.cat_in]
  refine ⟨safe_texts fun pre t post e hn => ?_, fun p hp hb => cleared_of_whole hp hb ?_, ?_⟩
  · exact absurd (htexts t (by simp [e])) hn
  · intro q hq hqp
    apply hlost q (List.mem_append_left _ hq)
    rcases hqp with rfl | hpq
    · exact hb
    · exact Path.holds_trans hb hpq
  · intro f hf hpar
    exact named_of_not_lost hf (hlost f (List.mem_append_right _ hf) (Path.holds_of_parent hpar))

end Before

/-- Names where texts are taken as whole paths, a directory's with or without a backslash
at the end. -/
def wholePaths (ps : List Path) : Names where
  dir t := ps.find? fun p => t == p.text || t == p.text ++ ['\\']
  file t f := ps.any fun p => t == p.text && f == p

theorem wholePaths_text {ps : List Path} (h : ∀ p ∈ ps, (wholePaths ps).dir p.text = some p) :
    ∀ p ∈ ps, (wholePaths ps).dir p.text = some p ∧ ∀ f, (wholePaths ps).file p.text f = true ↔ f = p := by
  refine fun p hp => ⟨h p hp, fun f => ?_⟩
  simp only [wholePaths, List.any_eq_true, Bool.and_eq_true, beq_iff_eq]
  constructor
  · rintro ⟨q, hq, e, rfl⟩
    have hd := h p hp
    rw [e, h f hq] at hd
    exact Option.some.inj hd
  · rintro rfl
    exact ⟨f, hp, rfl, rfl⟩

/-- The folder of the script. -/
def temp : Path := .sub (.root 'd') ⟨"temp".toList, by decide⟩

def folderA : Path := temp.sub ⟨"a".toList, by decide⟩
def folderB : Path := folderA.sub ⟨"b c".toList, by decide⟩
def fileX : Path := folderA.sub ⟨"x".toList, by decide⟩

/-- A folder with a folder and a file in it. -/
def nested : Before where
  disk := ⟨[.root 'd', temp, folderA, folderB], [fileX], by decide, by decide, by decide⟩
  CAT := temp
  cat_in := by decide
  files2del := none
  names := wholePaths [.root 'd', temp, folderA, folderB, fileX]
  names_text := wholePaths_text (by decide)

example : (deleteAll nested).1.dirs = [.root 'd', temp] ∧ (deleteAll nested).1.files = [] := by decide

/-- One file in it, whose name begins with a semicolon. -/
def semicolon : Before where
  disk := ⟨[.root 'd', temp], [temp.sub ⟨";x".toList, by decide⟩], by decide, by decide, by decide⟩
  CAT := temp
  cat_in := by decide
  files2del := none
  names := wholePaths [.root 'd', temp, temp.sub ⟨";x".toList, by decide⟩]
  names_text := wholePaths_text (by decide)

/-- `d:\temp\` is what is left of the file's path, and CAT is deleted. -/
theorem emptied_semicolon : temp ∉ (deleteAll semicolon).1.dirs ∧
    ¬ Emptied semicolon.disk semicolon.CAT (deleteAll semicolon).1 := by
  have h : temp ∉ (deleteAll semicolon).1.dirs := by decide
  exact ⟨h, fun he => h (he.dirs temp (by decide) (by decide))⟩

end Espo.Catalog
