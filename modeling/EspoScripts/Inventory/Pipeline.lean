import Mathlib.Data.List.Induction
import EspoScripts.Inventory.Import
import EspoScripts.Inventory.Merge

/-!
# From the converted workbooks to `Main.csv`

The steps before the import: 1-ConvertCSV writes a csv file for each workbook
in Converted, 2-RemoveEnd copies each without its blank rows to Prepped,
3-ArchiveFiles moves the workbooks away and the csv files to `2-CSV`, which
0-DeleteOld empties. A `Round` runs them and the import steps, each as often as
the operator does.

Nothing but step 3 takes a file out of Converted, so a round converts and
prepares the workbooks of the rounds before it again, with its own range, back
to the last one that was archived (`csv_round`). `main_round` says what
`Main.csv` then holds, and `main_once_iff` when that is each row of the round
once. `held_iff` says which version of a csv file is still there.
-/

namespace Espo.Inventory

open Espo.Cmd Espo.Run

/-- The sites with a 1-ConvertCSV and a 2-RemoveEnd. -/
inductive Site where
  | aacps | aacpsRemoval | aacpsYearEnd | bcps | smcps
deriving DecidableEq

namespace Site

/-- The columns of the range ConvertXLS is given (`/N"1^…"`). -/
def columns : Site → Nat
  | aacps => 24 -- B2:Y1000
  | aacpsRemoval => 25 -- A6:Y1000
  | aacpsYearEnd => 24 -- A2:X13000
  | bcps => 25 -- A2:Y1000
  | smcps => 25 -- A2:Y1000

/-- The text of `find /v`. -/
def blankRow : Site → Line
  | aacps => ",,,,,,,,,,,,,,,,,,,,,,,".toList
  | aacpsRemoval => ",,,,,,,,,,,,,,,,,,,,,,,,".toList
  | aacpsYearEnd => ",,,,,,,,,,,,,,,,,,,,,,,".toList
  | bcps => ",,,,,,,,,,,,,,,,,,,,,,,,".toList
  | smcps => ",,,,,,,,,,,,,,,,,,,,,,,,".toList

end Site

/-- A converted workbook: rows of the columns of its site. -/
structure Table where
  site : Site
  rows : List (List Cell)
  rows_width : ∀ r ∈ rows, r.length = site.columns

/-- The csv file ConvertXLS writes. -/
def Table.file (t : Table) : TextFile := .ofLines (t.rows.map rowLine)

/-- A workbook: the table in the range of each site. -/
structure Workbook where
  table : Site → Table
  site_table : ∀ s, (table s).site = s

/-- The csv file a site's 1-ConvertCSV makes of a workbook. -/
def Workbook.file (s : Site) (b : Workbook) : TextFile := (b.table s).file

/-- The workbooks and csv files in Converted, by the names of the csv files, those in its
`2-CSV`, and the Prepped folder. -/
structure Converted where
  books : Folder Line Workbook
  csv : Folder Line TextFile
  archive : Folder Line TextFile
  prepped : State

/-- 0-DeleteOld.bat: `DEL 2-CSV\*.*`. -/
def deleteOld (c : Converted) : Converted := { c with archive := .empty }

/-- 1-ConvertCSV.bat: every workbook in Converted. -/
def convertCSV (s : Site) (c : Converted) : Converted :=
  { c with csv := Folder.copy (c.books.map (Workbook.file s)) c.csv }

/-- `find /v "pat" < file`. -/
def findV (pat : Line) (f : TextFile) : TextFile := .ofLines (f.lines.filter fun l => !hasText pat l)

/-- 2-RemoveEnd.bat: `find /v "…" < %1 > Prepped/%1-prepped.csv` for each csv file. No name
holds a `%` or `^`, which `call` would read once more. -/
def removeEnd (s : Site) (c : Converted) : Converted :=
  { c with prepped := { c.prepped with
      csv := c.csv.files.foldl (fun d f => d.put (preppedName f.1) (findV s.blankRow f.2)) c.prepped.csv } }

/-- 3-ArchiveFiles.bat: `move *.xlsx 1-XLSX`, `move *.CSV 2-CSV`, `move *.xls 1-XLSX`. -/
def archiveFiles (c : Converted) : Converted :=
  { c with books := .empty, csv := .empty, archive := Folder.copy c.csv c.archive }

/-- A round: its workbooks, by the names of their csv files, the sites whose 1-ConvertCSV
and 2-RemoveEnd are run, and how often each step is. -/
structure Round where
  books : Folder Line Workbook
  converter : Site
  site : Site
  deletes : Nat
  converts : Nat
  removes : Nat
  archives : Nat
  merges : Nat
  preps : Nat
  finishes : Nat
  cleans : Nat
  ran : 0 < converts ∧ 0 < removes ∧ 0 < merges ∧ 0 < preps ∧ 0 < finishes ∧ 0 < cleans

/-- The tables of its workbooks. -/
def Round.tables (r : Round) : Folder Line Table := r.books.map fun b => b.table r.converter

/-- A round: its workbooks come into Converted, and go through the steps 0 to 7; and the
`Main.csv` it is imported from. -/
def runRound (c : Converted) (r : Round) : Converted × Option TextFile :=
  let c := { c with books := Folder.copy r.books c.books }
  let c := times deleteOld r.deletes c
  let c := times (convertCSV r.converter) r.converts c
  let c := times (removeEnd r.site) r.removes c
  let c := times archiveFiles r.archives c
  let p := times prepMain r.preps (times mergeCSV r.merges c.prepped)
  ({ c with prepped := times cleanOut r.cleans (times finishedImports r.finishes p) }, p.csv.get? mainCsv)

/-- The state of the first round. -/
def unused (archive imported : Folder Line TextFile) (filesImported : List Line) : Converted :=
  ⟨.empty, .empty, archive, start imported filesImported⟩

/-! ## What the end remover keeps -/

instance (n : Nat) (cs : List Cell) : Decidable (CommaRun n cs) := inferInstanceAs (Decidable (_ ∨ _))

/-- The lines of a table that the remover of `s` keeps: the rows without as many
commas in a row as a blank row of `s` has. -/
def Table.kept (t : Table) (s : Site) : List Line :=
  (t.rows.filter fun r => !decide (CommaRun (s.columns - 2) r)).map rowLine

theorem Site.blankRow_eq (s : Site) : s.blankRow = commas (s.columns - 2 + 1) := by
  cases s <;> decide

theorem Table.row_ne (t : Table) {r : List Cell} (hr : r ∈ t.rows) : r ≠ [] := fun h => by
  have hw := t.rows_width r hr
  rw [h] at hw
  cases hs : t.site <;> simp [hs, Site.columns] at hw

theorem findV_file (t : Table) (s : Site) : findV s.blankRow t.file = .ofLines (t.kept s) := by
  have hs : s.columns - 2 ≠ 0 := by cases s <;> decide
  have hp : ∀ r ∈ t.rows, (!hasText s.blankRow (rowLine r)) = !decide (CommaRun (s.columns - 2) r) := by
    intro r hr
    rw [Bool.not_inj_iff, Bool.eq_iff_iff, hasText_iff, decide_eq_true_iff, s.blankRow_eq,
      commas_rowLine hs (t.row_ne hr)]
  rw [findV, Table.file, TextFile.lines_ofLines, Table.kept, List.filter_map]
  exact congrArg (fun rs => TextFile.ofLines (rs.map rowLine)) (List.filter_congr hp)

/-- A row of the width of the site is removed just when a text has the run of commas,
or nothing stands in the file of any cell but the first and the last. -/
theorem commaRun_own {s : Site} {r : List Cell} (hr : r.length = s.columns) :
    CommaRun (s.columns - 2) r ↔
      (∃ c ∈ r, commas (s.columns - 1) <:+: c.text) ∨ ∀ c ∈ r.tail.dropLast, c.bare = true := by
  have hs : s.columns - 2 + 1 = s.columns - 1 := by cases s <;> decide
  have hl : (r.tail.dropLast.map Cell.bare).length = s.columns - 2 := by
    rw [List.length_map, List.length_dropLast, List.length_tail]
    omega
  have hi : List.replicate (s.columns - 2) true <:+: r.tail.dropLast.map Cell.bare ↔
      ∀ c ∈ r.tail.dropLast, c.bare = true := by
    constructor
    · intro h
      have e := h.eq_of_length (by rw [List.length_replicate, hl])
      exact fun c hc => List.eq_of_mem_replicate (e ▸ List.mem_map.mpr ⟨c, hc, rfl⟩)
    · intro h
      have e : r.tail.dropLast.map Cell.bare = List.replicate (s.columns - 2) true :=
        List.eq_replicate_iff.mpr ⟨hl, List.forall_mem_map.mpr h⟩
      exact ⟨[], [], by rw [e]; simp⟩
  rw [CommaRun, hs, hi]

/-! ## One round -/

/-- The workbooks in Converted in a round. -/
def Round.present (r : Round) (c : Converted) : Folder Line Workbook := Folder.copy r.books c.books

/-- The csv files step 2 finds. -/
def Round.csv (r : Round) (c : Converted) : Folder Line TextFile :=
  Folder.copy ((r.present c).map (Workbook.file r.converter)) c.csv

/-- The batch steps 4 to 7 take a round for. -/
def Round.batch (r : Round) (c : Converted) : Batch where
  prepped := (r.csv c).map (findV r.site.blankRow)
  merges := r.merges
  preps := r.preps
  finishes := r.finishes
  cleans := r.cleans
  ran := r.ran.2.2

theorem removeEnd_removeEnd (s : Site) (c : Converted) : removeEnd s (removeEnd s c) = removeEnd s c := by
  have hn : ((c.csv.files.map fun f => (preppedName f.1, findV s.blankRow f.2)).map Prod.fst).Nodup := by
    have e : (c.csv.files.map fun f => (preppedName f.1, findV s.blankRow f.2)).map Prod.fst =
        (c.csv.files.map Prod.fst).map preppedName := by
      simp only [List.map_map]; rfl
    rw [e]
    exact List.Pairwise.map _ (fun _ _ hab he => hab (List.append_cancel_right he)) c.csv.nodup
  have h := Folder.foldl_put_twice hn c.prepped.csv
  rw [List.foldl_map, List.foldl_map] at h
  simp only [removeEnd]
  rw [h]

theorem archiveFiles_archiveFiles (c : Converted) : archiveFiles (archiveFiles c) = archiveFiles c := rfl

/-- Step 2 places the files of the batch. -/
theorem removeEnd_eq (r : Round) (c : Converted) (a : Folder Line TextFile) :
    removeEnd r.site ⟨r.present c, r.csv c, a, c.prepped⟩ = ⟨r.present c, r.csv c, a, place (r.batch c) c.prepped⟩ := by
  simp only [removeEnd, place, Round.batch, Folder.map, List.foldl_map]

/-- What a round does: the import steps of its batch, and files that stay in Converted
unless they are archived. -/
theorem runRound_eq (c : Converted) (r : Round) : runRound c r =
    ({ books := if r.archives = 0 then r.present c else .empty
       csv := if r.archives = 0 then r.csv c else .empty
       archive :=
        let a := if r.deletes = 0 then c.archive else .empty
        if r.archives = 0 then a else Folder.copy (r.csv c) a
       prepped := (runBatch c.prepped (r.batch c)).1 }, (runBatch c.prepped (r.batch c)).2) := by
  have h₀ : times deleteOld r.deletes ⟨r.present c, c.csv, c.archive, c.prepped⟩ =
      ⟨r.present c, c.csv, if r.deletes = 0 then c.archive else .empty, c.prepped⟩ := by
    rw [times_idem rfl]
    split <;> rfl
  have h₁ : ∀ a, times (convertCSV r.converter) r.converts ⟨r.present c, c.csv, a, c.prepped⟩ =
      ⟨r.present c, r.csv c, a, c.prepped⟩ := fun a => by
    rw [times_idem (by simp only [convertCSV, Folder.copy_copy]), if_neg (by have := r.ran.1; omega)]
    rfl
  have h₂ : ∀ a, times (removeEnd r.site) r.removes ⟨r.present c, r.csv c, a, c.prepped⟩ =
      ⟨r.present c, r.csv c, a, place (r.batch c) c.prepped⟩ := fun a => by
    rw [times_idem (removeEnd_removeEnd _ _), if_neg (by have := r.ran.2.1; omega), removeEnd_eq]
  have h₃ : ∀ a p, times archiveFiles r.archives ⟨r.present c, r.csv c, a, p⟩ =
      ⟨if r.archives = 0 then r.present c else .empty, if r.archives = 0 then r.csv c else .empty,
        if r.archives = 0 then a else Folder.copy (r.csv c) a, p⟩ := fun a p => by
    rw [times_idem (archiveFiles_archiveFiles _)]
    split <;> rfl
  have h : (⟨Folder.copy r.books c.books, c.csv, c.archive, c.prepped⟩ : Converted) =
    ⟨r.present c, c.csv, c.archive, c.prepped⟩ := rfl
  simp only [runRound, h, h₀, h₁, h₂, h₃]
  rfl

/-- `Main.csv` in a round, where Prepped is as the rounds leave it. -/
theorem main_runRound {c : Converted} (h : Ready c.prepped) (r : Round) : linesOf (runRound c r).2 =
    (TextFile.join (List.replicate r.merges (.join (r.batch c).texts))).lines := by
  rw [runRound_eq]
  exact (prepare_ok h (r.batch c)).1

/-! ## Rounds -/

/-- The workbooks that are still in Converted after the rounds. -/
def pending (rs : List Round) : Folder Line Workbook :=
  rs.foldl (fun d r => if r.archives = 0 then Folder.copy r.books d else .empty) .empty

theorem pending_concat (rs : List Round) (r : Round) : pending (rs ++ [r]) =
    if r.archives = 0 then Folder.copy r.books (pending rs) else .empty := by
  rw [pending, List.foldl_append]
  rfl

/-- What the rounds keep: no csv file in Converted but those of the workbooks there. -/
structure Synced (d : Folder Line Workbook) (c : Converted) : Prop where
  books : c.books = d
  csv : ∃ s, c.csv = d.map (Workbook.file s)
  ready : Ready c.prepped

/-- Every workbook is converted with the range of the round. -/
theorem Synced.csv_round {d : Folder Line Workbook} {c : Converted} (h : Synced d c) (r : Round) :
    r.csv c = (Folder.copy r.books d).map (Workbook.file r.converter) := by
  obtain ⟨hb, ⟨s, hc⟩, -⟩ := h
  rw [Round.csv, Round.present, hb, hc, Folder.copy_map_over]

theorem Synced.runRound {d : Folder Line Workbook} {c : Converted} (h : Synced d c) (r : Round) :
    Synced (if r.archives = 0 then Folder.copy r.books d else .empty) (runRound c r).1 := by
  rw [runRound_eq]
  refine ⟨?_, ?_, ready_runBatch h.ready _⟩
  · show (if r.archives = 0 then Folder.copy r.books c.books else .empty) = _
    rw [h.books]
  · refine ⟨r.converter, ?_⟩
    show (if r.archives = 0 then r.csv c else .empty) = _
    rw [h.csv_round r]
    split <;> rfl

section Runs

variable (archive imported : Folder Line TextFile) (listed : List Line)

/-- The workbooks in Converted after a run: those since the last round that was archived. -/
theorem synced_rounds (rs : List Round) :
    Synced (pending rs) (after runRound (unused archive imported listed) rs) := by
  induction rs using List.reverseRecOn with
  | nil => exact ⟨rfl, ⟨.bcps, rfl⟩, rfl, rfl⟩
  | append_singleton rs r ih =>
    rw [after_append, after_cons, after_nil, pending_concat]
    exact ih.runRound r

/-- The lines of `Main.csv` in a round: what the remover keeps of the round's workbooks
and of those still in Converted, as often as step 4 is run. -/
theorem main_round (rs : List Round) (r : Round) :
    linesOf (runRound (after runRound (unused archive imported listed) rs) r).2 =
      (List.replicate r.merges
        ((Folder.copy r.books (pending rs)).files.flatMap fun f => (f.2.table r.converter).kept r.site)).flatten := by
  have hs := synced_rounds archive imported listed rs
  have ht : (r.batch (after runRound (unused archive imported listed) rs)).texts =
      ((Folder.copy r.books (pending rs)).files.map fun f => (f.2.table r.converter).kept r.site).map
        TextFile.ofLines := by
    rw [Batch.texts, Round.batch, hs.csv_round r]
    simp only [Folder.map, List.map_map]
    exact List.map_congr_left fun f _ => findV_file (f.2.table r.converter) r.site
  have hj := TextFile.join_ofLines (List.replicate r.merges
    ((Folder.copy r.books (pending rs)).files.flatMap fun f => (f.2.table r.converter).kept r.site))
  rw [main_runRound hs.ready, ht, TextFile.join_ofLines, ← List.flatMap_def, ← List.map_replicate, hj,
    TextFile.lines_ofLines]

/-- The lines a round is to import. -/
def Round.lines (r : Round) : List Line := r.tables.files.flatMap fun f => f.2.kept r.site

theorem Round.lines_eq (r : Round) :
    r.lines = r.books.files.flatMap fun f => (f.2.table r.converter).kept r.site := by
  rw [Round.lines, Round.tables, Folder.map, List.flatMap_map]

/-- After a round that is archived, or at first, the rounds leave no workbook. -/
theorem pending_eq_empty {rs : List Round} (h : ∀ q ∈ rs.getLast?, q.archives ≠ 0) : pending rs = .empty := by
  rcases List.eq_nil_or_concat rs with rfl | ⟨qs, q, rfl⟩
  · rfl
  · rw [List.concat_eq_append] at h ⊢
    rw [pending_concat, if_neg (h q (by simp))]

/-- What `Main.csv` is to hold of a table: the rows with a field that is not empty. -/
def Table.filled (t : Table) : List Line := (t.rows.filter fun r => !blank r).map rowLine

/-- With the csv files before it archived, step 4 run once and workbooks of its site, a
round's `Main.csv` is the rows that are not blank, in order, just when in each row a
text with the run of commas, or bare cells between the first and the last, mean
that it is blank. -/
theorem main_filled_iff (rs : List Round) (r : Round) (ha : ∀ q ∈ rs.getLast?, q.archives ≠ 0)
    (hm : r.merges = 1) (hs : ∀ f ∈ r.tables.files, f.2.site = r.site) :
    linesOf (runRound (after runRound (unused archive imported listed) rs) r).2 =
        r.tables.files.flatMap (fun f => f.2.filled) ↔
      ∀ f ∈ r.tables.files, ∀ row ∈ f.2.rows,
        (((∃ c ∈ row, commas (r.site.columns - 1) <:+: c.text) ∨ ∀ c ∈ row.tail.dropLast, c.bare = true) ↔
          blank row = true) := by
  have ht := r.lines_eq
  have hk : r.lines =
      ((r.tables.files.flatMap fun f => f.2.rows).map rowLine).filter fun l => !hasText r.site.blankRow l := by
    rw [Round.lines, List.map_flatMap, List.filter_flatMap]
    refine congrArg (r.tables.files.flatMap ·) (funext fun f => ?_)
    have h := congrArg TextFile.lines (findV_file f.2 r.site)
    rw [findV, Table.file, TextFile.lines_ofLines, TextFile.lines_ofLines, TextFile.lines_ofLines] at h
    exact h.symm
  have hf : (r.tables.files.flatMap fun f => f.2.filled) =
      ((r.tables.files.flatMap fun f => f.2.rows).filter fun row => !blank row).map rowLine := by
    rw [List.filter_flatMap, List.map_flatMap]
    rfl
  rw [main_round, hm, pending_eq_empty ha, Folder.copy_empty, List.replicate_one, List.flatten_singleton, ← ht, hk,
    hf, filter_map_eq_iff, List.forall_mem_flatMap]
  apply forall_congr'
  intro f
  apply forall_congr'
  intro hmem
  apply forall_congr'
  intro row
  apply forall_congr'
  intro hrow
  have hw : row.length = r.site.columns := by rw [f.2.rows_width row hrow, hs f hmem]
  have hi : r.site.columns - 2 ≠ 0 := by cases r.site <;> decide
  rw [← commaRun_own hw, ← commas_rowLine hi (f.2.row_ne hrow), ← Site.blankRow_eq, ← hasText_iff, Bool.not_inj_iff,
    Bool.eq_iff_iff]

end Runs

theorem nothing_ok : ',' ∉ ([] : Line) ∧ '"' ∉ ([] : Line) ∧ '\n' ∉ ([] : Line) := by decide

/-- A workbook with a row filled in its second column, and a blank row. -/
def school (s : Site) : Table where
  site := s
  rows := [plain [] nothing_ok :: plain "SO0194770".toList (by decide) ::
      List.replicate (s.columns - 2) (plain [] nothing_ok),
    List.replicate s.columns (plain [] nothing_ok)]
  rows_width := by cases s <;> decide

theorem school_rows : ∀ row ∈ (school .bcps).rows,
    (((∃ c ∈ row, commas (Site.bcps.columns - 1) <:+: c.text) ∨ ∀ c ∈ row.tail.dropLast, c.bare = true) ↔
      blank row = true) := by
  have hl : ∀ row ∈ (school .bcps).rows, ∀ c ∈ row, c.text.length < 24 := by decide
  have hb : ∀ row ∈ (school .bcps).rows, (∀ c ∈ row.tail.dropLast, c.bare = true) ↔ blank row = true := by decide
  intro row hrow
  rw [or_iff_right]
  · exact hb row hrow
  · intro ⟨c, hc, h⟩
    have hc' := hl row hrow c hc
    have hn := h.length_le
    have h24 : (commas (Site.bcps.columns - 1)).length = 24 := rfl
    omega

/-- A first round with this workbook. -/
def firstRound : Round where
  books := ⟨[("ASSET_SO0194770.CSV".toList, ⟨school, fun _ => rfl⟩)], by decide⟩
  converter := .bcps
  site := .bcps
  deletes := 0
  converts := 1
  removes := 1
  archives := 1
  merges := 1
  preps := 1
  finishes := 1
  cleans := 1
  ran := by decide

/-- Its `Main.csv` is the row that is not blank. -/
theorem main_filled_first :
    linesOf (runRound (after runRound (unused .empty .empty []) []) firstRound).2 =
      [",SO0194770,,,,,,,,,,,,,,,,,,,,,,,".toList] :=
  ((main_filled_iff .empty .empty [] [] firstRound (by simp) rfl (by decide)).mpr
    fun f hf => by obtain rfl := List.mem_singleton.mp hf; exact school_rows).trans (by decide)

end Espo.Inventory
