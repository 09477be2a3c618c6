import EspoScripts.Framework.Folder
import EspoScripts.Framework.Join
import EspoScripts.Framework.Run

/-!
# The import steps 4 to 7

A batch of prepped csv files goes through 4-MergeCSV (their text is appended
to `Main.txt`), 5-PrepMain (`Main.txt` is renamed to `Main.csv`),
6-FinishedImports (the csv files move to `Imported`) and 7-CleanOut
(`Imported` is emptied). `runBatch` runs each step as often as the operator
does, and hands out the `Main.csv` step 6 first finds.

After a batch Prepped is as before it (`ready_runBatch`), so the `Main.csv` of
a batch depends on that batch only (`main_runBatch`). It holds the batch's
lines once and in order just when step 4 ran once and no file continues the
last line of another (`main_lines_iff`).
-/

namespace Espo.Inventory

open Espo.Cmd Espo.Run

/-- The csv files of the Prepped folder, its `Main.txt` and `FilesImported.txt`, and
the folder `Imported`. -/
structure State where
  csv : Folder Line TextFile
  mainTxt : Option TextFile
  imported : Folder Line TextFile
  filesImported : List Line

/-- The name of the merged file. -/
def mainCsv : Line := "Main.csv".toList

/-- 4-MergeCSV.bat: `type %1 >> Main.txt` for each csv file. No name holds a `%` or `^`, which
`call` would read once more. -/
def mergeCSV (s : State) : State :=
  { s with mainTxt := s.csv.files.foldl (fun m f => some ((m.getD .empty).appendFile f.2)) s.mainTxt }

/-- 5-PrepMain.bat: `ren Main.txt Main.csv`, which fails if there is a `Main.csv`. -/
def prepMain (s : State) : State :=
  match s.mainTxt, s.csv.get? mainCsv with
  | some f, none => { s with csv := s.csv.put mainCsv f, mainTxt := none }
  | _, _ => s

/-- 6-FinishedImports.bat: `move *.CSV Imported`, `del Imported\Main.csv`, and the list
of what is left. -/
def finishedImports (s : State) : State :=
  let imported := (Folder.copy s.csv s.imported).keep fun n => n != mainCsv
  { s with csv := .empty, imported := imported, filesImported := imported.files.map Prod.fst }

/-- 7-CleanOut.bat: `DEL Imported\*.*`. -/
def cleanOut (s : State) : State := { s with imported := .empty }

/-- The name the end remover gives a prepped file: `%1-prepped.csv`. -/
def preppedName (n : Line) : Line := n ++ "-prepped.csv".toList

/-- A batch: the prepped files, by the names they are made from, and how often each
step is run. -/
structure Batch where
  prepped : Folder Line TextFile
  merges : Nat
  preps : Nat
  finishes : Nat
  cleans : Nat
  ran : 0 < merges ∧ 0 < preps ∧ 0 < finishes ∧ 0 < cleans

/-- The batch's files are placed in the Prepped folder. -/
def place (b : Batch) (s : State) : State :=
  { s with csv := b.prepped.files.foldl (fun d f => d.put (preppedName f.1) f.2) s.csv }

/-- Steps 4 and 5. -/
def prepare (b : Batch) (s : State) : State :=
  times prepMain b.preps (times mergeCSV b.merges (place b s))

/-- A batch through the four steps, and the `Main.csv` it is imported from. -/
def runBatch (s : State) (b : Batch) : State × Option TextFile :=
  (times cleanOut b.cleans (times finishedImports b.finishes (prepare b s)), (prepare b s).csv.get? mainCsv)

/-- The state of the first batch. -/
def start (imported : Folder Line TextFile) (filesImported : List Line) : State :=
  ⟨.empty, none, imported, filesImported⟩

/-! ## The steps -/

/-- Prepped as a batch finds it: no csv files, and no `Main.txt`. -/
def Ready (s : State) : Prop := s.csv = .empty ∧ s.mainTxt = none

theorem preppedName_ne (n : Line) : preppedName n ≠ mainCsv := fun h => by
  have hl := congrArg List.length h
  have hp : "-prepped.csv".toList.length = 12 := rfl
  have hm : mainCsv.length = 8 := rfl
  rw [preppedName, List.length_append, hp, hm] at hl
  omega

/-- The texts of a batch's files. -/
def Batch.texts (b : Batch) : List TextFile := b.prepped.files.map Prod.snd

theorem files_place {s : State} (h : s.csv = .empty) (b : Batch) :
    (place b s).csv.files = b.prepped.files.map fun f => (preppedName f.1, f.2) := by
  have hn : ((b.prepped.files.map fun f => (preppedName f.1, f.2)).map Prod.fst).Nodup := by
    have e : (b.prepped.files.map fun f => (preppedName f.1, f.2)).map Prod.fst =
        (b.prepped.files.map Prod.fst).map preppedName := by
      simp only [List.map_map]; rfl
    rw [e]
    exact List.Pairwise.map _ (fun _ _ hab he => hab (List.append_cancel_right he)) b.prepped.nodup
  have hf := @Folder.files_foldl_put _ _ _ (b.prepped.files.map fun f => (preppedName f.1, f.2)) .empty hn
  rw [List.foldl_map, Folder.files_empty, List.nil_append] at hf
  rw [place, h]
  exact hf

/-- The csv files step 4 merges are the batch's own. -/
theorem texts_place {s : State} (h : s.csv = .empty) (b : Batch) :
    (place b s).csv.files.map Prod.snd = b.texts := by
  rw [files_place h, List.map_map]
  rfl

theorem get?_place {s : State} (h : s.csv = .empty) (b : Batch) : (place b s).csv.get? mainCsv = none := by
  rw [Option.eq_none_iff_forall_ne_some]
  intro f hf
  rw [Folder.get?_eq_some_iff, files_place h] at hf
  obtain ⟨g, -, e⟩ := List.mem_map.mp hf
  exact preppedName_ne g.1 (congrArg Prod.fst e)

@[simp] theorem mergeCSV_csv (s : State) : (mergeCSV s).csv = s.csv := rfl

theorem getD_foldl : ∀ (fs : List (Line × TextFile)) (m : Option TextFile),
    (fs.foldl (fun m f => some ((m.getD .empty).appendFile f.2)) m).getD .empty =
      (m.getD .empty).appendFile (.join (fs.map Prod.snd))
  | [], m => (TextFile.appendFile_empty _).symm
  | f :: fs, m => by
    rw [List.foldl_cons, getD_foldl fs, Option.getD_some, TextFile.appendFile_assoc]
    rfl

theorem csv_merges (n : Nat) (s : State) : (times mergeCSV n s).csv = s.csv :=
  times_inv (f := mergeCSV) (P := fun t => t.csv = s.csv) (fun _ h => h) n rfl

/-- `Main.txt` after step 4: a copy of the batch's text for each time it was run. -/
theorem mainTxt_merges : ∀ (n : Nat) (s : State), (times mergeCSV n s).mainTxt.getD .empty =
    (s.mainTxt.getD .empty).appendFile (.join (List.replicate n (.join (s.csv.files.map Prod.snd))))
  | 0, s => (TextFile.appendFile_empty _).symm
  | n + 1, s => by
    rw [times, mainTxt_merges n, mergeCSV_csv, mergeCSV, getD_foldl, TextFile.appendFile_assoc]
    rfl

/-- Step 5, where there is no `Main.csv`: it takes what `Main.txt` held. -/
theorem preps {s : State} (h : s.csv.get? mainCsv = none) {n : Nat} (hn : 0 < n) :
    (times prepMain n s).csv.get? mainCsv = s.mainTxt ∧ (times prepMain n s).mainTxt = none := by
  have hfix : ∀ {t : State}, t.mainTxt = none → prepMain t = t := fun {t} ht => by
    simp only [prepMain, ht]
  obtain ⟨n, rfl⟩ : ∃ m, n = m + 1 := ⟨n - 1, by omega⟩
  cases hm : s.mainTxt with
  | none => rw [times_of_fix (hfix hm)]; exact ⟨h, hm⟩
  | some f =>
    have hp : prepMain s = { s with csv := s.csv.put mainCsv f, mainTxt := none } := by
      simp only [prepMain, hm, h]
    rw [times, hp, times_of_fix (hfix rfl)]
    exact ⟨Folder.get?_put_self _ _ _, rfl⟩

/-- What steps 4 and 5 make of a batch: `Main.csv` is what `Main.txt` was, which is gone. -/
theorem prepare_ok {s : State} (h : Ready s) (b : Batch) :
    linesOf ((prepare b s).csv.get? mainCsv) = (TextFile.join (List.replicate b.merges (.join b.texts))).lines ∧
      (prepare b s).mainTxt = none := by
  have hc : (times mergeCSV b.merges (place b s)).csv.get? mainCsv = none := by
    rw [csv_merges, get?_place h.1]
  have hp := preps hc b.ran.2.1
  have hm : (place b s).mainTxt = none := h.2
  refine ⟨?_, hp.2⟩
  rw [prepare, hp.1, linesOf_eq, mainTxt_merges, hm, texts_place h.1, Option.getD_none,
    TextFile.empty_appendFile]

/-- A batch leaves Prepped as it found it. -/
theorem ready_runBatch {s : State} (h : Ready s) (b : Batch) : Ready (runBatch s b).1 := by
  have hf : ∀ t : State, t.mainTxt = none → Ready (finishedImports t) := fun t ht => ⟨rfl, ht⟩
  obtain ⟨n, hn⟩ : ∃ m, b.finishes = m + 1 := ⟨b.finishes - 1, by have := b.ran.2.2.1; omega⟩
  have h₆ : Ready (times finishedImports b.finishes (prepare b s)) := by
    rw [hn, times]
    exact times_inv (P := Ready) (fun t ht => hf t ht.2) n (hf _ (prepare_ok h b).2)
  exact times_inv (f := cleanOut) (P := Ready) (fun _ ht => ht) b.cleans h₆

theorem ready_after (imported : Folder Line TextFile) (listed : List Line) (bs : List Batch) :
    Ready (after runBatch (start imported listed) bs) :=
  after_inv (P := Ready) (fun _ b h => ready_runBatch h b) bs ⟨rfl, rfl⟩

/-- The lines `Main.csv` holds for a batch, whatever the batches before it. -/
theorem main_runBatch (imported : Folder Line TextFile) (listed : List Line) (bs : List Batch) (b : Batch) :
    linesOf (runBatch (after runBatch (start imported listed) bs) b).2 =
      (TextFile.join (List.replicate b.merges (.join b.texts))).lines :=
  (prepare_ok (ready_after imported listed bs) b).1

/-! ## Once -/

/-- The lines of a batch's files, in order. -/
def Batch.lines (b : Batch) : List Line := b.texts.flatMap TextFile.lines

/-- When `Main.csv` holds a batch once: it has no text at all, or step 4 ran once and
every file with text behind it ends with a line break. -/
def Batch.Once (b : Batch) : Prop :=
  (∀ f ∈ b.texts, f = .empty) ∨ (b.merges = 1 ∧ TextFile.Joined b.texts)

/-- In any run, the `Main.csv` of a batch holds its lines, once and in order, just when
the batch is merged `Once`. -/
theorem main_lines_iff (imported : Folder Line TextFile) (listed : List Line) (bs : List Batch) (b : Batch) :
    linesOf (runBatch (after runBatch (start imported listed) bs) b).2 = b.lines ↔ b.Once := by
  rw [main_runBatch, Batch.lines, Batch.Once, ← TextFile.join_eq_empty]
  rcases (by have := b.ran.1; omega : b.merges = 1 ∨ 2 ≤ b.merges) with h | h
  · have he : TextFile.join (List.replicate 1 (.join b.texts)) = .join b.texts := TextFile.appendFile_empty _
    rw [h, he, TextFile.lines_join_iff, and_iff_right rfl]
    refine ⟨.inr, fun hi => hi.elim (fun he => ?_) id⟩
    have hall : b.texts.Pairwise fun _ _ => True := List.pairwise_of_forall fun _ _ => trivial
    exact hall.imp_of_mem fun _ hg _ => .inr (TextFile.join_eq_empty.mp he _ hg)
  · rw [TextFile.lines_copies_iff h]
    refine (or_iff_left fun hi => ?_).symm
    have := hi.1
    omega

/-- A batch of one file, with step 4 run twice. -/
def twice : Batch where
  prepped := ⟨[("ASSET_SO0194473.CSV".toList, .ofLines ["Serial,Model".toList])], by decide⟩
  merges := 2
  preps := 1
  finishes := 1
  cleans := 1
  ran := by decide

/-- Every row is imported twice. -/
theorem main_twice :
    linesOf (runBatch (start .empty []) twice).2 = ["Serial,Model".toList, "Serial,Model".toList] ∧
      linesOf (runBatch (start .empty []) twice).2 ≠ twice.lines := by decide

end Espo.Inventory
