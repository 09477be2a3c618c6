import EspoScripts.Framework.Csv
import EspoScripts.Framework.Folder

/-!
# 1-XSLM-merge-with-header.bat

The script joins the converted sheets `*.csv.0`, each behind a line with its
file name, into `Main-temp.csv`, and takes out the blank rows with findstr:
the lines with eight, then those with seven commas in a row
(`mergeWithHeader`).

`linesOf_main`: `Main.csv` is the joined lines without those that have seven
commas in a row. `main_eq_iff`: these are the file names, the headers and the
rows that are not blank just when a run of commas means a blank row
(`Clean`). Rows where only the first or the last columns are filled have
one too, and so has a cell with seven commas in its text.
-/

namespace Espo.Inventory

open Espo.Cmd

/-- A converted sheet: a header and rows of as many cells. -/
structure Sheet where
  width : Nat
  header : List Cell
  rows : List (List Cell)
  width_ok : width = 8 ∨ width = 9
  header_width : header.length = width
  rows_width : ∀ r ∈ rows, r.length = width

/-- The file ssconvert writes for a sheet. -/
def Sheet.file (s : Sheet) : TextFile := .ofLines ((s.header :: s.rows).map rowLine)

/-- The files the script writes: `%%f.csv` for each sheet, and those of the parent
folder. -/
structure Files where
  titled : Folder Line TextFile
  mainTemp : Option TextFile
  mainTemp2 : Option TextFile
  main : Option TextFile

/-- The name `%%f.csv`. -/
def titledName (f : Line) : Line := f ++ ".csv".toList

/-- What `echo %%f ` writes. -/
def titleLine (f : Line) : Line := f ++ "  ".toList

/-- `echo %%f > "%%f.csv"`. -/
def echoName (d : Files) (f : Line × Sheet) : Files :=
  { d with titled := d.titled.put (titledName f.1) (.ofLines [titleLine f.1]) }

/-- `more "%%f" >> "%%f.csv"`. -/
def moreSheet (d : Files) (f : Line × Sheet) : Files :=
  let t := ((d.titled.get? (titledName f.1)).getD .empty).appendFile f.2.file
  { d with titled := d.titled.put (titledName f.1) t }

/-- `type "%%f.csv" >> "..\Main-temp.csv"`. -/
def typeTitled (d : Files) (f : Line × Sheet) : Files :=
  let t := (d.titled.get? (titledName f.1)).getD .empty
  { d with mainTemp := some ((d.mainTemp.getD .empty).appendFile t) }

/-- `findstr /v "pat"`. -/
def findstrV (pat : Line) (f : Option TextFile) : TextFile :=
  .ofLines ((linesOf f).filter fun l => !hasText pat l)

/-- 1-XSLM-merge-with-header.bat, once the sheets are converted. -/
def mergeWithHeader (sheets : Folder Line Sheet) (d : Files) : Files :=
  let d := sheets.files.foldl echoName d
  let d := sheets.files.foldl (fun d f => typeTitled (moreSheet d f) f) d
  let d := { d with mainTemp2 := some (findstrV ",,,,,,,,".toList d.mainTemp) }
  let d := { d with main := some (findstrV ",,,,,,,".toList d.mainTemp2) }
  { d with mainTemp := none, mainTemp2 := none }

/-! ## The joined lines -/

/-- The lines a sheet adds. -/
def sheetLines (f : Line × Sheet) : List Line := titleLine f.1 :: (f.2.header :: f.2.rows).map rowLine

theorem titledName_inj {f g : Line} (h : titledName f = titledName g) : f = g :=
  List.append_cancel_right h

theorem titled_echoName {n : Line} : ∀ (fs : List (Line × Sheet)) {d : Files},
    (fs.foldl echoName d).titled.get? (titledName n) =
      if n ∈ fs.map Prod.fst then some (.ofLines [titleLine n]) else d.titled.get? (titledName n)
  | [], _ => by simp
  | f :: fs, d => by
    rw [List.foldl_cons, titled_echoName fs, echoName, Folder.get?_put, List.map_cons]
    by_cases h : f.1 = n
    · simp [h]
    · have hn : titledName f.1 ≠ titledName n := mt titledName_inj h
      simp only [if_neg hn, List.mem_cons, Ne.symm h, false_or]

theorem mainTemp_echoName (fs : List (Line × Sheet)) {d : Files} :
    (fs.foldl echoName d).mainTemp = d.mainTemp := by
  induction fs generalizing d with
  | nil => rfl
  | cons f fs ih => exact ih

/-- A sheet behind its name, appended to the complete lines before it. -/
theorem typeTitled_moreSheet {d : Files} {f : Line × Sheet} {ls : List Line}
    (ht : d.titled.get? (titledName f.1) = some (.ofLines [titleLine f.1]))
    (hm : d.mainTemp.getD .empty = .ofLines ls) :
    (typeTitled (moreSheet d f) f).mainTemp.getD .empty = .ofLines (ls ++ sheetLines f) := by
  simp only [typeTitled, moreSheet, Folder.get?_put_self, ht, Option.getD_some, hm, Sheet.file,
    TextFile.appendFile_ofLines]
  rfl

/-- The second loop: the sheets one after another, by induction on them; the file of
each still holds its name only. -/
theorem mainTemp_loop : ∀ {fs : List (Line × Sheet)} {d : Files} {ls : List Line}, (fs.map Prod.fst).Nodup →
    (∀ f ∈ fs, d.titled.get? (titledName f.1) = some (.ofLines [titleLine f.1])) →
    d.mainTemp.getD .empty = .ofLines ls →
    (fs.foldl (fun d f => typeTitled (moreSheet d f) f) d).mainTemp.getD .empty =
      .ofLines (ls ++ fs.flatMap sheetLines)
  | [], _, ls, _, _, hm => by simpa using hm
  | f :: fs, d, ls, hn, ht, hm => by
    rw [List.map_cons, List.nodup_cons] at hn
    have hs := typeTitled_moreSheet (ht f List.mem_cons_self) hm
    have ht' : ∀ g ∈ fs, (typeTitled (moreSheet d f) f).titled.get? (titledName g.1) =
        some (.ofLines [titleLine g.1]) := fun g hg => by
      have hne : titledName f.1 ≠ titledName g.1 := fun e =>
        hn.1 (titledName_inj e ▸ List.mem_map.mpr ⟨g, hg, rfl⟩)
      exact (Folder.get?_put_of_ne _ hne _).trans (ht g (List.mem_cons_of_mem _ hg))
    rw [List.foldl_cons, mainTemp_loop hn.2 ht' hs, List.append_assoc, List.flatMap_cons]

/-- A line with eight commas in a row has seven. -/
theorem commas_seven_of_eight {l : Line} (h : hasText (commas 8) l = true) : hasText (commas 7) l = true :=
  hasText_iff.mpr ((show commas 7 <:+: commas 8 from ⟨[], [','], rfl⟩).trans (hasText_iff.mp h))

/-- `Main.csv`: the joined lines but those with seven commas in a row. -/
theorem linesOf_main (sheets : Folder Line Sheet) (d : Files) :
    linesOf (mergeWithHeader sheets { d with mainTemp := none }).main =
      (sheets.files.flatMap sheetLines).filter fun l => !hasText (commas 7) l := by
  have ht : ∀ f ∈ sheets.files, (sheets.files.foldl echoName { d with mainTemp := none }).titled.get?
      (titledName f.1) = some (.ofLines [titleLine f.1]) := fun f hf => by
    rw [titled_echoName, if_pos (List.mem_map.mpr ⟨f, hf, rfl⟩)]
  have hm : (sheets.files.foldl echoName { d with mainTemp := none }).mainTemp.getD .empty = .ofLines [] := by
    rw [mainTemp_echoName]; rfl
  have h := mainTemp_loop sheets.nodup ht hm
  have h8 : ∀ l : Line, (!hasText (commas 8) l && !hasText (commas 7) l) = !hasText (commas 7) l := fun l => by
    cases h : hasText (commas 7) l
    · rw [Bool.eq_false_iff.mpr (mt commas_seven_of_eight (Bool.eq_false_iff.mp h))]; rfl
    · simp
  have hl := congrArg TextFile.lines h
  rw [← linesOf_eq, TextFile.lines_ofLines, List.nil_append] at hl
  have e : linesOf (mergeWithHeader sheets { d with mainTemp := none }).main =
      ((sheets.files.flatMap sheetLines).filter fun l => !hasText (commas 8) l).filter
        fun l => !hasText (commas 7) l := by
    rw [← hl]; rfl
  rw [e, List.filter_filter]
  exact List.filter_congr fun l _ => (Bool.and_comm _ _).trans (h8 l)

/-! ## What is kept -/

/-- A row all of whose fields are empty. -/
def blank (r : List Cell) : Bool := r.all (·.text.isEmpty)

/-- What `Main.csv` is to hold for a sheet: its name, its header, and the rows with
a field that is not empty. -/
def kept (f : Line × Sheet) : List Line :=
  titleLine f.1 :: rowLine f.2.header :: (f.2.rows.filter fun r => !blank r).map rowLine

/-- The sheets in which seven commas in a row mean a blank row, and nothing else. -/
def Clean (f : Line × Sheet) : Prop :=
  ¬ commas 7 <:+: f.1 ∧ ¬ CommaRun 6 f.2.header ∧ ∀ r ∈ f.2.rows, CommaRun 6 r ↔ blank r = true

/-- Filtering the images by `p` is filtering by `q` only if the two agree: what `q`
keeps is kept, so if `p` kept more, the result would be longer. -/
theorem filter_map_eq_iff {α β : Type} {f : α → β} {p : β → Bool} {q : α → Bool} {xs : List α} :
    (xs.map f).filter p = (xs.filter q).map f ↔ ∀ x ∈ xs, p (f x) = q x := by
  constructor
  · intro h
    have hqp : ∀ x ∈ xs, q x = true → p (f x) = true := fun x hx hq => by
      have hm : f x ∈ (xs.map f).filter p := h ▸ List.mem_map.mpr ⟨x, List.mem_filter.mpr ⟨hx, hq⟩, rfl⟩
      exact (List.mem_filter.mp hm).2
    have hl := congrArg List.length h
    rw [List.filter_map, List.length_map, List.length_map] at hl
    have hs : (xs.filter q).Sublist (xs.filter (p ∘ f)) := by
      have e : xs.filter q = (xs.filter (p ∘ f)).filter q := by
        rw [List.filter_filter]
        refine List.filter_congr fun x hx => ?_
        cases hq : q x
        · rfl
        · simp [hqp x hx hq]
      rw [e]
      exact List.filter_sublist
    have he := hs.eq_of_length hl.symm
    intro x hx
    have hm : x ∈ xs.filter q ↔ x ∈ xs.filter (p ∘ f) := he ▸ Iff.rfl
    simp only [List.mem_filter, hx, true_and, Function.comp_apply] at hm
    exact Bool.eq_iff_iff.mpr hm.symm
  · intro h
    rw [List.filter_map]
    exact congrArg (List.map f) (List.filter_congr h)

/-- The lines a sheet adds, each with whether it is to stay. -/
def entries (f : Line × Sheet) : List (Line × Bool) :=
  (titleLine f.1, true) :: (rowLine f.2.header, true) :: f.2.rows.map fun r => (rowLine r, !blank r)

theorem map_entries (f : Line × Sheet) : (entries f).map Prod.fst = sheetLines f := by
  simp only [entries, sheetLines, List.map_cons, List.map_map]
  rfl

theorem filter_entries (f : Line × Sheet) : ((entries f).filter Prod.snd).map Prod.fst = kept f := by
  simp only [entries, kept, List.filter_cons, if_true, List.map_cons, List.filter_map, List.map_map]
  rfl

theorem Sheet.header_ne (s : Sheet) : s.header ≠ [] := fun h => by
  have := s.header_width
  rcases s.width_ok with e | e <;> simp [h, e] at this

theorem Sheet.row_ne (s : Sheet) {r : List Cell} (hr : r ∈ s.rows) : r ≠ [] := fun h => by
  have := s.rows_width r hr
  rcases s.width_ok with e | e <;> simp [h, e] at this

theorem commas_titleLine {n : Nat} {f : Line} : commas (n + 1) <:+: titleLine f ↔ commas (n + 1) <:+: f := by
  have e : titleLine f = (f ++ [' ']) ++ [' '] := (List.append_assoc f [' '] [' ']).symm
  rw [e, commas_concat (by decide), commas_concat (by decide)]

theorem clean_iff (f : Line × Sheet) :
    (∀ x ∈ entries f, (!hasText (commas 7) x.1) = x.2) ↔ Clean f := by
  have hh : ∀ {l : Line}, hasText (commas 7) l = false ↔ ¬ commas 7 <:+: l := fun {l} => by
    rw [← hasText_iff, Bool.not_eq_true]
  have hr : ∀ r ∈ f.2.rows,
      ((!hasText (commas 7) (rowLine r)) = !blank r ↔ (CommaRun 6 r ↔ blank r = true)) := by
    intro r hr
    rw [Bool.not_inj_iff, ← commas_rowLine (by decide) (f.2.row_ne hr), ← hasText_iff, Bool.eq_iff_iff]
  simp only [entries, List.forall_mem_cons, Bool.not_eq_true', List.forall_mem_map]
  rw [Clean, hh, hh, commas_titleLine, commas_rowLine (by decide) f.2.header_ne]
  exact and_congr Iff.rfl (and_congr Iff.rfl (forall_congr' fun r => forall_congr' (hr r)))

/-- `Main.csv` is, sheet by sheet, the file name, the header and the rows that are not
blank just when all the sheets are `Clean`. -/
theorem main_eq_iff (sheets : Folder Line Sheet) (d : Files) :
    linesOf (mergeWithHeader sheets { d with mainTemp := none }).main = sheets.files.flatMap kept ↔
      ∀ f ∈ sheets.files, Clean f := by
  have hs : sheets.files.flatMap sheetLines = (sheets.files.flatMap entries).map Prod.fst := by
    rw [List.map_flatMap]
    exact congrArg (sheets.files.flatMap ·) (funext fun f => (map_entries f).symm)
  have hk : sheets.files.flatMap kept = ((sheets.files.flatMap entries).filter Prod.snd).map Prod.fst := by
    rw [List.filter_flatMap, List.map_flatMap]
    exact congrArg (sheets.files.flatMap ·) (funext fun f => (filter_entries f).symm)
  rw [linesOf_main, hs, hk, filter_map_eq_iff, List.forall_mem_flatMap]
  exact forall_congr' fun f => forall_congr' fun _ => clean_iff f

/-- A cell of plain text. -/
def plain (t : Line) (h : ',' ∉ t ∧ '"' ∉ t ∧ '\n' ∉ t) : Cell :=
  ⟨t, false, fun hm => hm.elim (absurd · h.1) (absurd · h.2.1), h.2.2⟩

/-- A sheet of eight columns with a row in which only the serial number is filled. -/
def sparse : Sheet where
  width := 8
  header := List.replicate 8 (plain "Model".toList (by decide))
  rows := [plain "CNB1213681".toList (by decide) :: List.replicate 7 (plain [] (by decide))]
  width_ok := by decide
  header_width := by decide
  rows_width := by decide

/-- The row is lost. -/
theorem main_sparse :
    linesOf (mergeWithHeader ⟨[("a.csv.0".toList, sparse)], by decide⟩ ⟨.empty, none, none, none⟩).main =
        ["a.csv.0  ".toList, "Model,Model,Model,Model,Model,Model,Model,Model".toList] ∧
      linesOf (mergeWithHeader ⟨[("a.csv.0".toList, sparse)], by decide⟩ ⟨.empty, none, none, none⟩).main ≠
        [("a.csv.0".toList, sparse)].flatMap kept := by decide

end Espo.Inventory
