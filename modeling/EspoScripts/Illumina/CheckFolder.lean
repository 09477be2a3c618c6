import EspoScripts.Framework.Fso

/-!
# CheckFolder of IlluminaFavoriteFormat.vbs

For a PC, `CheckFolder` makes the folders `FavoriteFormats` of BeadStudio and
GenomeStudio and fills them: from the server (`Copyfile`, `Copyfile3`) or
from BeadStudio to GenomeStudio (`Copyfile2`). There is no `On Error Resume
Next`, so an error ends the run for all PCs.

Each of the three copies one folder into another (`copyfile_ok`,
`copyfile2_ok`, `copyfile3_ok`). `upToDate_iff`: the PC is up to date
afterwards just when it had BeadStudio or GenomeStudio; without either the
script copies from the BeadStudio folder that is not there.
-/

namespace Espo.Illumina

open Espo.Cmd Espo.Vbs Espo.Fso

variable {γ : Type}

/-! ## Paths -/

/-- `\\server\…\IlluminaFileFormats\`. -/
def copyFilePath : Line := "\\\\win2k\\CIDRFiles\\CIDRData\\Informatics\\IlluminaFileFormats\\".toList

/-- The Illumina data folder of a computer. -/
def target (strComputer : Line) : Line :=
  "\\\\".toList ++ strComputer ++ "\\C$\\Documents and Settings\\All Users\\Application Data\\Illumina\\".toList

/-- `objBead`. -/
def objBead (strComputer : Line) : Line := target strComputer ++ "BeadStudio\\".toList

/-- `objBeadFav`, which is also `BeadPath`. -/
def objBeadFav (strComputer : Line) : Line := target strComputer ++ "BeadStudio\\FavoriteFormats\\".toList

/-- `ObjGenome`. -/
def objGenome (strComputer : Line) : Line := target strComputer ++ "GenomeStudio\\".toList

/-- `ObjGenomeFav`. -/
def objGenomeFav (strComputer : Line) : Line := target strComputer ++ "GenomeStudio\\FavoriteFormats\\".toList

/-! ## The script -/

/-- A line echoed, or written to the log. -/
inductive Event where
  | echo (t : Line)
  | writeLine (t : Line)

/-- The disk, `Err`, and what is echoed and logged. -/
abbrev State (γ : Type) := World (Disk γ) Event

/-- `If Err = 0 Then …`: a message echoed and logged. -/
def logTask (done failed : Line) : Script (State γ) Unit := do
  match (← get).err with
  | none =>
    emit (.echo done)
    emit (.writeLine done)
  | some e =>
    let t := failed ++ (toString e.number).toList ++ " -- ".toList ++ e.description
    emit (.echo t)
    emit (.writeLine t)

/-- The copy of a file from the server, and its messages. -/
def copyFromServer (objFile dst : Line) : Script (State γ) Unit := do
  copyFile objFile dst
  emit (.writeLine ("Copying ".toList ++ objFile ++ " file".toList))
  emit (.echo ("Copying ".toList ++ objFile ++ " file to remote Computer ".toList))
  logTask "Copying task was successful".toList "Copying task was not successful, Err.#=  ".toList

/-- The end of a pass of a loop. -/
def endPass : Script (State γ) Unit := do
  errClear
  emit (.echo " ".toList)

/-- `Copyfile`: from the server to BeadStudio. -/
def Copyfile (strComputer beadFav : Line) : Script (State γ) Unit := do
  let colFiles ← getFolder copyFilePath
  forEach colFiles.files fun f => do
    let objFile := copyFilePath ++ f.1.1
    ifThenElse (fileExists (beadFav ++ objFile))
      (do
        emit (.echo ("Files Exist ".toList ++ objFile))
        emit (.writeLine ("Files Exist ".toList ++ objFile))
        deleteFile objFile)
      (copyFromServer objFile (objBeadFav strComputer))
    endPass

/-- `Copyfile3`: from the server to GenomeStudio. -/
def Copyfile3 (genomeFav : Line) : Script (State γ) Unit := do
  let colFiles ← getFolder copyFilePath
  forEach colFiles.files fun f => do
    let objFile := copyFilePath ++ f.1.1
    ifThenElse (fileExists (genomeFav ++ objFile))
      (pure ())
      (copyFromServer objFile genomeFav)
    endPass

/-- `Copyfile2`: from BeadStudio to GenomeStudio. -/
def Copyfile2 (beadFav genomeFav : Line) : Script (State γ) Unit := do
  let colFiles ← getFolder beadFav
  forEach colFiles.files fun f => do
    let objFile := beadFav ++ f.1.1
    ifThenElse (fileExists (genomeFav ++ objFile))
      (do
        emit (.echo " File was there.".toList)
        ifThenElse (fileExists (beadFav ++ objFile))
          (pure ())
          (do
            Copyfile3 genomeFav
            emit (.echo []))
        logTask "Delete task was successful".toList "Delete task was not successful, Err.#=  ".toList
        errClear)
      (do
        copyFile objFile genomeFav
        emit (.writeLine ("Copying ".toList ++ objFile ++ " file".toList))
        emit (.echo ("Copying ".toList ++ objFile ++ " file to ".toList ++ genomeFav))
        if (← get).err = none then
          emit (.echo "Copy from Beadstudio to Genomestudio folder was successful".toList)
          emit (.writeLine "Copy from Beadstudio to Genomestudio folder was successful".toList))
    endPass

/-- A message logged and echoed. -/
def announce (t : Line) : Script (State γ) Unit := do
  emit (.writeLine t)
  emit (.echo t)

/-- The files for a GenomeStudio folder that is there: from BeadStudio, or else from
the server. -/
def fillGenome (beadFav genomeFav : Line) : Script (State γ) Unit :=
  ifThenElse (folderExists beadFav)
    (do
      announce "Copyfile2".toList
      Copyfile2 beadFav genomeFav
      emit (.echo []))
    (do
      announce "Copyfile3".toList
      Copyfile3 genomeFav
      emit (.echo []))

/-- The first half of `CheckFolder`, and the value of `ObjS` after it. -/
def checkBead (strComputer beadFav : Line) : Script (State γ) Line :=
  ifThenElse (folderExists beadFav)
    (do
      emit (.writeLine " Beadstudio folder exists ".toList)
      Copyfile strComputer beadFav
      emit (.echo [])
      return beadFav ++ " Beadstudio folder exists ".toList)
    (do
      let objS ← ifThenElse (folderExists (objBead strComputer))
        (do
          createFolder beadFav
          emit (.writeLine " Beadstudio folder created ".toList)
          Copyfile strComputer beadFav
          emit (.echo [])
          return beadFav ++ " Beadstudio folder created ".toList)
        (return [])
      emit (.echo [])
      return objS)

/-- The second half. -/
def checkGenome (beadFav genomeFav genome objS : Line) : Script (State γ) Line :=
  ifThenElse (folderExists genomeFav)
    (do
      announce " Genome favorits folder exists ".toList
      fillGenome beadFav genomeFav
      return genomeFav ++ " Genome favorits folder exists ".toList)
    (ifThenElse (folderExists genome)
      (do
        ifThenElse (folderExists genomeFav)
          (announce "Genome favorits folder exists ".toList)
          (do
            createFolder genomeFav
            announce " Genome favorits folder created ".toList
            fillGenome beadFav genomeFav)
        return objS)
      (do
        createFolder genome
        createFolder genomeFav
        emit (.writeLine " Genome favorits folder created ".toList)
        Copyfile2 beadFav genomeFav
        emit (.echo [])
        return genomeFav ++ " Genome favorits folder created ".toList))

/-- `CheckFolder`. -/
def CheckFolder (strComputer beadFav genomeFav genome : Line) : Script (State γ) Line := do
  let objS ← checkBead strComputer beadFav
  checkGenome beadFav genomeFav genome objS

/-! ## The copies -/

theorem logTask_ok (done failed : Line) (w : State γ) : Ends (logTask done failed) w fun _ d => d = w.vars := by
  obtain ⟨vars, err, events⟩ := w
  cases err <;> exact ⟨(), _, rfl, rfl⟩

theorem endPass_ok (w : State γ) : Ends endPass w fun _ d => d = w.vars := ⟨(), _, rfl, rfl⟩

theorem announce_ok (t : Line) (w : State γ) : Ends (announce t) w fun _ d => d = w.vars := ⟨(), _, rfl, rfl⟩

section

variable {w : State γ} {d d₀ : Disk γ} {src dst : Line} {s g : Folder Name γ}

theorem copyFromServer_ok {objFile : Line} (h : Ends (copyFile objFile dst) w fun _ d' => d' = d) :
    Ends (copyFromServer objFile dst) w fun _ d' => d' = d := by
  refine h.bind fun _ w₁ h₁ => ?_
  refine (Ends.emit _).after fun _ w₂ h₂ => (Ends.emit _).after fun _ w₃ h₃ => ?_
  refine (logTask_ok _ _ w₃).mono fun _ d' hd => ?_
  rw [hd, h₃, h₂, h₁]

/-- A pass that ends after a statement. -/
theorem then_endPass {x : Script (State γ) Unit} (h : Ends x w fun _ d' => d' = d) :
    Ends (do x; endPass) w fun _ d' => d' = d :=
  h.bind fun _ w₁ h₁ => (endPass_ok w₁).mono fun _ _ hd => hd.trans h₁

theorem copyFilePath_ends : copyFilePath.getLast? = some '\\' := by decide

/-- A loop that copies each of the server's files into a folder, whatever it does with a
file whose path it finds behind the folder's. -/
theorem copyServer_ok (found : Line → Script (State γ) Unit) (hs : w.vars copyFilePath = some s)
    (hg : w.vars dst = some g) (hne : copyFilePath ≠ dst) (hf : NoBelow w.vars dst) :
    Ends (do
      let colFiles ← getFolder copyFilePath
      forEach colFiles.files fun f => do
        ifThenElse (fileExists (dst ++ (copyFilePath ++ f.1.1)))
          (found (copyFilePath ++ f.1.1))
          (copyFromServer (copyFilePath ++ f.1.1) dst)
        endPass) w fun _ d => d = w.vars.set dst (Folder.copy s g) := by
  refine (getFolder_ok hs).bind fun _ w₁ h₁ => ?_
  obtain ⟨rfl, h₁⟩ := h₁
  rw [← h₁] at hs hg hf ⊢
  refine forEach_copy (fun f hm w₂ g hq hg => then_endPass ?_) (fun _ _ => rfl) hg
  exact (Ends.else_iff (fileExists_below copyFilePath_ends hf hq f.1)).mpr
    (copyFromServer_ok (copyFile_from copyFilePath_ends hs hne hq hg hm))

/-- `Copyfile` writes the server's files into BeadStudio's folder. -/
theorem copyfile_ok (strComputer : Line) {b : Folder Name γ} (hs : w.vars copyFilePath = some s)
    (hb : w.vars (objBeadFav strComputer) = some b) (hne : copyFilePath ≠ objBeadFav strComputer)
    (hf : NoBelow w.vars (objBeadFav strComputer)) :
    Ends (Copyfile strComputer (objBeadFav strComputer)) w fun _ d =>
      d = w.vars.set (objBeadFav strComputer) (Folder.copy s b) :=
  copyServer_ok (fun objFile => do
    emit (.echo ("Files Exist ".toList ++ objFile))
    emit (.writeLine ("Files Exist ".toList ++ objFile))
    deleteFile objFile) hs hb hne hf

/-- `Copyfile3` writes them into GenomeStudio's. -/
theorem copyfile3_ok {genomeFav : Line} (hs : w.vars copyFilePath = some s) (hg : w.vars genomeFav = some g)
    (hne : copyFilePath ≠ genomeFav) (hf : NoBelow w.vars genomeFav) :
    Ends (Copyfile3 genomeFav) w fun _ d => d = w.vars.set genomeFav (Folder.copy s g) :=
  copyServer_ok (fun _ => pure ()) hs hg hne hf

/-- `Copyfile2` writes BeadStudio's files into GenomeStudio's folder. -/
theorem copyfile2_ok {beadFav genomeFav : Line} {b : Folder Name γ} (hl : beadFav.getLast? = some '\\')
    (hb : w.vars beadFav = some b) (hg : w.vars genomeFav = some g) (hne : beadFav ≠ genomeFav)
    (hf : NoBelow w.vars genomeFav) :
    Ends (Copyfile2 beadFav genomeFav) w fun _ d => d = w.vars.set genomeFav (Folder.copy b g) := by
  refine (getFolder_ok hb).bind fun _ w₁ h₁ => ?_
  obtain ⟨rfl, h₁⟩ := h₁
  rw [← h₁] at hb hg hf ⊢
  refine forEach_copy (fun f hm w₂ g hq hg => then_endPass ?_) (fun _ _ => rfl) hg
  apply (Ends.else_iff (fileExists_below hl hf hq f.1)).mpr
  refine (copyFile_from hl hb hne hq hg hm).bind fun _ w₃ h₃ => ?_
  refine (Ends.emit _).after fun _ w₄ h₄ => (Ends.emit _).after fun _ w₅ h₅ => ?_
  rw [← h₃, ← h₄, ← h₅]
  obtain ⟨vars, err, events⟩ := w₅
  cases err <;> exact ⟨(), _, rfl, rfl⟩

end

/-! ## Paths of a computer -/

section

variable (c : Line)

theorem ends_append (p : Line) {q : Line} (h : q.getLast? = some '\\') : (p ++ q).getLast? = some '\\' := by
  rw [List.getLast?_append, h]
  rfl

theorem parentOf_objBeadFav : parentOf (objBeadFav c) = objBead c := by
  have e : objBeadFav c = objBead c ++ "FavoriteFormats".toList ++ ['\\'] := by
    rw [objBead, List.append_assoc, List.append_assoc]; rfl
  rw [e]
  exact parentOf_append (ends_append _ (by decide)) ⟨"FavoriteFormats".toList, by decide⟩

theorem parentOf_objGenomeFav : parentOf (objGenomeFav c) = objGenome c := by
  have e : objGenomeFav c = objGenome c ++ "FavoriteFormats".toList ++ ['\\'] := by
    rw [objGenome, List.append_assoc, List.append_assoc]; rfl
  rw [e]
  exact parentOf_append (ends_append _ (by decide)) ⟨"FavoriteFormats".toList, by decide⟩

theorem parentOf_objGenome : parentOf (objGenome c) = target c := by
  have e : objGenome c = target c ++ "GenomeStudio".toList ++ ['\\'] := by
    rw [objGenome, List.append_assoc]; rfl
  rw [e]
  exact parentOf_append (ends_append _ (by decide)) ⟨"GenomeStudio".toList, by decide⟩

/-- The last ten characters of a path. -/
def tail10 (p : Line) : Line := (p.reverse.take 10).reverse

theorem tail10_append (p : Line) {q : Line} (h : 10 ≤ q.length) : tail10 (p ++ q) = tail10 q := by
  rw [tail10, List.reverse_append, List.take_append_of_le_length (by simpa using h), tail10]

theorem copyFilePath_ne_append {p : Line} (hl : 10 ≤ p.length) (h : tail10 copyFilePath ≠ tail10 p) :
    copyFilePath ≠ target c ++ p := fun e => h ((congrArg tail10 e).trans (tail10_append _ hl))

/-- The server's folder is none of the computer's. -/
theorem copyFilePath_ne :
    copyFilePath ≠ objBeadFav c ∧ copyFilePath ≠ objGenome c ∧ copyFilePath ≠ objGenomeFav c :=
  ⟨copyFilePath_ne_append c (by decide) (by decide), copyFilePath_ne_append c (by decide) (by decide),
    copyFilePath_ne_append c (by decide) (by decide)⟩

/-- Two paths below the computer's folder differ where the rest of them does. -/
theorem target_append_ne {p q : Line} (h : p ≠ q) : target c ++ p ≠ target c ++ q := fun e =>
  h (List.append_cancel_left e)

theorem objBeadFav_ne : objBeadFav c ≠ objGenome c ∧ objBeadFav c ≠ objGenomeFav c :=
  ⟨target_append_ne c (by decide), target_append_ne c (by decide)⟩

theorem objGenome_ne : objGenome c ≠ objGenomeFav c := target_append_ne c (by decide)

/-- Nothing below GenomeStudio's folder is one of the folders that are written. -/
theorem objGenomeFav_append_ne {q : Line} (hq : q ≠ []) :
    objGenomeFav c ++ q ≠ objBeadFav c ∧ objGenomeFav c ++ q ≠ objGenome c ∧
      objGenomeFav c ++ q ≠ objGenomeFav c := by
  refine ⟨?_, ?_, fun h => hq (List.append_right_eq_self.mp h)⟩ <;>
    rw [objGenomeFav, List.append_assoc] <;>
    refine target_append_ne c fun h => ?_
  · have := congrArg List.head? h
    exact absurd this (by simp)
  · have := congrArg List.length h
    simp at this

end

/-! ## CheckFolder -/

/-- A PC whose Illumina data folder exists, with the server's files: BeadStudio,
GenomeStudio and their favorites may exist, the latter without folders in them. -/
structure Pc (γ : Type) where
  strComputer : Line
  disk : Disk γ
  server : Folder Name γ
  server_eq : disk copyFilePath = some server
  target_ne : disk (target strComputer) ≠ none
  bead_of_fav : disk (objBeadFav strComputer) ≠ none → disk (objBead strComputer) ≠ none
  genome_of_fav : disk (objGenomeFav strComputer) ≠ none → disk (objGenome strComputer) ≠ none
  bead_flat : NoBelow disk (objBeadFav strComputer)
  genome_flat : NoBelow disk (objGenomeFav strComputer)

section

variable {c : Line} {w : State γ} {s g : Folder Name γ}

/-- GenomeStudio's folder is filled from BeadStudio's, or from the server if there is none. -/
theorem fillGenome_ok (hs : w.vars copyFilePath = some s) (hg : w.vars (objGenomeFav c) = some g)
    (hf : NoBelow w.vars (objGenomeFav c)) :
    Ends (fillGenome (objBeadFav c) (objGenomeFav c)) w fun _ d =>
      d = w.vars.set (objGenomeFav c) (Folder.copy ((w.vars (objBeadFav c)).getD s) g) := by
  cases hb : w.vars (objBeadFav c) with
  | some b =>
    apply (Ends.then_iff (folderExists_of_some (by rw [hb]; simp))).mpr
    refine (announce_ok _ w).after fun _ w₁ h₁ => ?_
    rw [← h₁] at hb hg hf ⊢
    refine (copyfile2_ok (ends_append _ (by decide)) hb hg (objBeadFav_ne c).2 hf).bind fun _ w₂ h₂ => ?_
    exact (Ends.emit _).mono fun _ _ hd => hd.trans h₂
  | none =>
    apply (Ends.else_iff (folderExists_of_none hb)).mpr
    refine (announce_ok _ w).after fun _ w₁ h₁ => ?_
    rw [← h₁] at hs hg hf ⊢
    refine (copyfile3_ok hs hg (copyFilePath_ne c).2.2 hf).bind fun _ w₂ h₂ => ?_
    exact (Ends.emit _).mono fun _ _ hd => hd.trans h₂

/-- The second half of `CheckFolder`, where there is a folder to fill GenomeStudio's from
in the branch it takes. -/
theorem checkGenome_ok (objS : Line) (hs : w.vars copyFilePath = some s) (hf : NoBelow w.vars (objGenomeFav c))
    (ht : w.vars (target c) ≠ none) (hb : w.vars (objBeadFav c) ≠ none ∨ w.vars (objGenome c) ≠ none) :
    Ends (checkGenome (objBeadFav c) (objGenomeFav c) (objGenome c) objS) w fun _ d =>
      d (objGenomeFav c) = some (Folder.copy ((w.vars (objBeadFav c)).getD s)
        ((w.vars (objGenomeFav c)).getD .empty)) ∧
      ∀ p, p ≠ objGenomeFav c → p ≠ objGenome c → d p = w.vars p := by
  cases hg : w.vars (objGenomeFav c) with
  | some g =>
    apply (Ends.then_iff (folderExists_of_some (by rw [hg]; simp))).mpr
    refine (announce_ok _ w).after fun _ w₁ h₁ => ?_
    rw [← h₁] at hs hg hf ⊢
    refine (fillGenome_ok hs hg hf).bind fun _ w₂ h₂ => .ret ?_
    rw [h₂]
    exact ⟨Disk.set_self _ _ _, fun p hne _ => Disk.set_of_ne _ hne _⟩
  | none =>
    apply (Ends.else_iff (folderExists_of_none hg)).mpr
    by_cases hG : w.vars (objGenome c) = none
    · -- GenomeStudio and its folder are created, and filled from BeadStudio's
      have hB := hb.resolve_right (absurd hG)
      obtain ⟨b, hB⟩ := Option.ne_none_iff_exists'.mp hB
      apply (Ends.else_iff (folderExists_of_none hG)).mpr
      refine (createFolder_ok hG (by rw [parentOf_objGenome]; exact ht)).bind fun _ w₁ h₁ => ?_
      have hg₁ : w₁.vars (objGenomeFav c) = none := by
        rw [h₁, Disk.set_of_ne _ (objGenome_ne c).symm, hg]
      have hG₁ : w₁.vars (objGenome c) ≠ none := by rw [h₁, Disk.set_self]; simp
      refine (createFolder_ok hg₁ (by rw [parentOf_objGenomeFav]; exact hG₁)).bind fun _ w₂ h₂ => ?_
      refine (Ends.emit _).after fun _ w₃ h₃ => ?_
      rw [← h₃] at h₂
      have hb₃ : w₃.vars (objBeadFav c) = some b := by
        rw [h₂, Disk.set_of_ne _ (objBeadFav_ne c).2, h₁, Disk.set_of_ne _ (objBeadFav_ne c).1, hB]
      have hf₃ : NoBelow w₃.vars (objGenomeFav c) := by
        rw [h₂, h₁]
        exact (hf.set (fun q hq => (objGenomeFav_append_ne c hq).2.1) _).set
          (fun q hq => (objGenomeFav_append_ne c hq).2.2) _
      refine (copyfile2_ok (ends_append _ (by decide)) hb₃ (by rw [h₂, Disk.set_self]) (objBeadFav_ne c).2
        hf₃).bind fun _ w₄ h₄ => ?_
      refine (Ends.emit _).after fun _ w₅ h₅ => .ret ?_
      rw [h₅, h₄, hB]
      refine ⟨Disk.set_self _ _ _, fun p hn hn' => ?_⟩
      rw [Disk.set_of_ne _ hn, h₂, Disk.set_of_ne _ hn, h₁, Disk.set_of_ne _ hn']
    · apply (Ends.then_iff (folderExists_of_some hG)).mpr
      refine Ends.bind (P := fun _ d => d = w.vars.set (objGenomeFav c)
        (Folder.copy ((w.vars (objBeadFav c)).getD s) .empty)) ?_ fun _ w₁ h₁ => .ret ?_
      · apply (Ends.else_iff (folderExists_of_none hg)).mpr
        refine (createFolder_ok hg (by rw [parentOf_objGenomeFav]; exact hG)).bind fun _ w₁ h₁ => ?_
        refine (announce_ok _ w₁).after fun _ w₂ h₂ => ?_
        rw [← h₂] at h₁
        have hs₂ : w₂.vars copyFilePath = some s := by rw [h₁, Disk.set_of_ne _ (copyFilePath_ne c).2.2, hs]
        have hb₂ : w₂.vars (objBeadFav c) = w.vars (objBeadFav c) := by
          rw [h₁, Disk.set_of_ne _ (objBeadFav_ne c).2]
        have hf₂ : NoBelow w₂.vars (objGenomeFav c) := by
          rw [h₁]
          exact hf.set (fun q hq => (objGenomeFav_append_ne c hq).2.2) _
        refine (fillGenome_ok hs₂ (by rw [h₁, Disk.set_self]) hf₂).mono fun _ d hd => ?_
        rw [hd, hb₂, h₁, Disk.set_set]
      · rw [h₁]
        exact ⟨Disk.set_self _ _ _, fun p hne _ => Disk.set_of_ne _ hne _⟩

/-- Without BeadStudio's favorites and GenomeStudio it raises an error. -/
theorem checkGenome_error (objS : Line) (hb : w.vars (objBeadFav c) = none) (hG : w.vars (objGenome c) = none)
    (hg : w.vars (objGenomeFav c) = none) (ht : w.vars (target c) ≠ none) (Q : Line → Disk γ → Prop) :
    ¬ Ends (checkGenome (objBeadFav c) (objGenomeFav c) (objGenome c) objS) w Q := by
  rw [checkGenome, Ends.else_iff (folderExists_of_none hg), Ends.else_iff (folderExists_of_none hG)]
  refine (createFolder_ok hG (by rw [parentOf_objGenome]; exact ht)).not_bind fun _ w₁ h₁ => ?_
  have hg₁ : w₁.vars (objGenomeFav c) = none := by
    rw [h₁, Disk.set_of_ne _ (objGenome_ne c).symm, hg]
  have hG₁ : w₁.vars (objGenome c) ≠ none := by rw [h₁, Disk.set_self]; simp
  refine (createFolder_ok hg₁ (by rw [parentOf_objGenomeFav]; exact hG₁)).not_bind fun _ w₂ h₂ => ?_
  refine (Ends.emit _).not_bind fun _ w₃ h₃ => Ends.not_bind_left fun P => Ends.not_bind_left fun P' => ?_
  have hb₃ : w₃.vars (objBeadFav c) = none := by
    rw [h₃, h₂, Disk.set_of_ne _ (objBeadFav_ne c).2, h₁, Disk.set_of_ne _ (objBeadFav_ne c).1, hb]
  exact Ends.not_of_error (by rw [getFolder, hb₃]) P'

/-- The first half of `CheckFolder`, with BeadStudio: its folder is made if need be and
filled from the server. -/
theorem checkBead_ok (hs : w.vars copyFilePath = some s) (hf : NoBelow w.vars (objBeadFav c))
    (hb : w.vars (objBead c) ≠ none) :
    Ends (checkBead c (objBeadFav c)) w fun _ d =>
      d = w.vars.set (objBeadFav c) (Folder.copy s ((w.vars (objBeadFav c)).getD .empty)) := by
  cases hB : w.vars (objBeadFav c) with
  | some b =>
    apply (Ends.then_iff (folderExists_of_some (by rw [hB]; simp))).mpr
    refine (Ends.emit _).after fun _ w₁ h₁ => ?_
    rw [← h₁] at hs hB hf ⊢
    refine (copyfile_ok c hs hB (copyFilePath_ne c).1 hf).bind fun _ w₂ h₂ => ?_
    exact (Ends.emit _).after fun _ w₃ h₃ => .ret (h₃.trans h₂)
  | none =>
    apply (Ends.else_iff (folderExists_of_none hB)).mpr
    refine Ends.bind (P := fun _ d => d = w.vars.set (objBeadFav c) (Folder.copy s .empty)) ?_ fun _ w₁ h₁ =>
      (Ends.emit _).after fun _ w₂ h₂ => .ret (h₂.trans h₁)
    apply (Ends.then_iff (folderExists_of_some hb)).mpr
    refine (createFolder_ok hB (by rw [parentOf_objBeadFav]; exact hb)).bind fun _ w₁ h₁ => ?_
    refine (Ends.emit _).after fun _ w₂ h₂ => ?_
    rw [← h₂] at h₁
    have hs₂ : w₂.vars copyFilePath = some s := by rw [h₁, Disk.set_of_ne _ (copyFilePath_ne c).1, hs]
    have hf₂ : NoBelow w₂.vars (objBeadFav c) := by
      rw [h₁]
      exact hf.set (fun q hq h => hq (List.append_right_eq_self.mp h)) _
    refine (copyfile_ok c hs₂ (by rw [h₁, Disk.set_self]) (copyFilePath_ne c).1 hf₂).bind fun _ w₃ h₃ => ?_
    refine (Ends.emit _).after fun _ w₄ h₄ => .ret ?_
    rw [h₄, h₃, h₁, Disk.set_set]

/-- Without BeadStudio it does nothing. -/
theorem checkBead_none (hB : w.vars (objBeadFav c) = none) (hb : w.vars (objBead c) = none) :
    Ends (checkBead c (objBeadFav c)) w fun _ d => d = w.vars := by
  apply (Ends.else_iff (folderExists_of_none hB)).mpr
  refine Ends.bind (P := fun _ d => d = w.vars) ?_ fun _ w₁ h₁ =>
    (Ends.emit _).after fun _ w₂ h₂ => .ret (h₂.trans h₁)
  exact (Ends.else_iff (folderExists_of_none hb)).mpr (.ret rfl)

end

/-! ## Up to date -/

/-- A folder that holds all the files of another. -/
def HoldsAll (s g : Folder Name γ) : Prop := ∀ n x, s.get? n = some x → g.get? n = some x

theorem holdsAll_copy (s g : Folder Name γ) : HoldsAll s (Folder.copy s g) := fun n x h => by
  rw [Folder.get?_copy, h]
  rfl

theorem HoldsAll.copy {s b : Folder Name γ} (h : HoldsAll s b) (g : Folder Name γ) :
    HoldsAll s (Folder.copy b g) := fun n x hx => by
  rw [Folder.get?_copy, h n x hx]
  rfl

namespace Pc

variable (pc : Pc γ)

/-- The state of the PC, with nothing echoed or logged yet. -/
def world : State γ := ⟨pc.disk, none, []⟩

/-- The call of `CheckFolder` for the PC. -/
def checkFolder : Script (State γ) Line :=
  CheckFolder pc.strComputer (objBeadFav pc.strComputer) (objGenomeFav pc.strComputer) (objGenome pc.strComputer)

/-- `CheckFolder` runs to its end and leaves the PC up to date: GenomeStudio's favorites
hold the server's files, so do BeadStudio's if it exists, and the server's folder is
as it was. -/
def UpToDate : Prop :=
  Ends pc.checkFolder pc.world fun _ d =>
    (∃ g, d (objGenomeFav pc.strComputer) = some g ∧ HoldsAll pc.server g) ∧
    (pc.disk (objBead pc.strComputer) ≠ none →
      ∃ b, d (objBeadFav pc.strComputer) = some b ∧ HoldsAll pc.server b) ∧
    d copyFilePath = some pc.server

theorem upToDate_of_bead (hb : pc.disk (objBead pc.strComputer) ≠ none) : pc.UpToDate := by
  have hx : Ends (checkBead pc.strComputer (objBeadFav pc.strComputer)) pc.world fun _ d =>
      d = pc.disk.set (objBeadFav pc.strComputer)
        (Folder.copy pc.server ((pc.disk (objBeadFav pc.strComputer)).getD .empty)) :=
    checkBead_ok pc.server_eq pc.bead_flat hb
  refine hx.bind fun objS w₁ h₁ => ?_
  have hne := copyFilePath_ne pc.strComputer
  have hs : w₁.vars copyFilePath = some pc.server := by rw [h₁, Disk.set_of_ne _ hne.1, pc.server_eq]
  have hB : w₁.vars (objBeadFav pc.strComputer) =
      some (Folder.copy pc.server ((pc.disk (objBeadFav pc.strComputer)).getD .empty)) := by
    rw [h₁, Disk.set_self]
  have hf : NoBelow w₁.vars (objGenomeFav pc.strComputer) := by
    rw [h₁]
    exact pc.genome_flat.set (fun q hq => (objGenomeFav_append_ne _ hq).1) _
  have ht : w₁.vars (target pc.strComputer) ≠ none := by
    have h : target pc.strComputer ≠ objBeadFav pc.strComputer := fun e =>
      absurd (List.append_right_eq_self.mp e.symm) (by decide)
    rw [h₁, Disk.set_of_ne _ h]
    exact pc.target_ne
  refine (checkGenome_ok objS hs hf ht (.inl (by rw [hB]; simp))).mono fun _ d ⟨hg, hd⟩ => ?_
  rw [hB] at hg
  have hb' := (hd _ (objBeadFav_ne _).2 (objBeadFav_ne _).1).trans hB
  refine ⟨⟨_, hg, (holdsAll_copy _ _).copy _⟩, fun _ => ⟨_, hb', holdsAll_copy _ _⟩, ?_⟩
  rw [hd _ hne.2.2 hne.2.1, hs]

theorem upToDate_of_genome (hb : pc.disk (objBead pc.strComputer) = none)
    (hG : pc.disk (objGenome pc.strComputer) ≠ none) : pc.UpToDate := by
  have hB : pc.disk (objBeadFav pc.strComputer) = none := by
    cases h : pc.disk (objBeadFav pc.strComputer) with
    | none => rfl
    | some b => exact absurd hb (pc.bead_of_fav (by rw [h]; simp))
  have hx : Ends (checkBead pc.strComputer (objBeadFav pc.strComputer)) pc.world fun _ d => d = pc.disk :=
    checkBead_none hB hb
  refine hx.bind fun objS w₁ h₁ => ?_
  have hne := copyFilePath_ne pc.strComputer
  have hs : w₁.vars copyFilePath = some pc.server := by rw [h₁, pc.server_eq]
  refine (checkGenome_ok objS hs (by rw [h₁]; exact pc.genome_flat) (by rw [h₁]; exact pc.target_ne)
    (.inr (by rw [h₁]; exact hG))).mono fun _ d ⟨hg, hd⟩ => ?_
  rw [h₁, hB] at hg
  refine ⟨⟨_, hg, holdsAll_copy _ _⟩, fun h => absurd hb h, ?_⟩
  rw [hd _ hne.2.2 hne.2.1, hs]

theorem not_upToDate (hb : pc.disk (objBead pc.strComputer) = none)
    (hG : pc.disk (objGenome pc.strComputer) = none) : ¬ pc.UpToDate := by
  have none_of : ∀ {p q : Line}, (pc.disk p ≠ none → pc.disk q ≠ none) → pc.disk q = none →
      pc.disk p = none := by
    intro p q h hq
    cases hp : pc.disk p with
    | none => rfl
    | some b => exact absurd hq (h (by rw [hp]; simp))
  have hB := none_of pc.bead_of_fav hb
  have hg := none_of pc.genome_of_fav hG
  have hx : Ends (checkBead pc.strComputer (objBeadFav pc.strComputer)) pc.world fun _ d => d = pc.disk :=
    checkBead_none hB hb
  refine hx.not_bind fun objS w₁ h₁ => ?_
  rw [← h₁] at hB hG hg
  exact checkGenome_error objS hB hG hg (by rw [h₁]; exact pc.target_ne) _

/-- A PC is brought up to date just when BeadStudio or GenomeStudio exists on it. -/
theorem upToDate_iff :
    pc.UpToDate ↔ pc.disk (objBead pc.strComputer) ≠ none ∨ pc.disk (objGenome pc.strComputer) ≠ none := by
  by_cases hb : pc.disk (objBead pc.strComputer) = none
  · by_cases hG : pc.disk (objGenome pc.strComputer) = none
    · exact iff_of_false (pc.not_upToDate hb hG) (by simp [hb, hG])
    · exact iff_of_true (pc.upToDate_of_genome hb hG) (.inr hG)
  · exact iff_of_true (pc.upToDate_of_bead hb) (.inl hb)

end Pc

/-- A disk with the server's folder and an empty Illumina folder on the computer `A`. -/
def bareDisk : Disk Line := fun p =>
  if p = copyFilePath then some ⟨[(⟨"formats.xml".toList, by decide⟩, "v2".toList)], by decide⟩
  else if p = target "A".toList then some .empty
  else none

theorem bareDisk_below {p : Line} (h2 : p[2]? = some 'A') (hl : (target "A".toList).length < p.length)
    (q : Line) : bareDisk (p ++ q) = none := by
  have h₁ : p ++ q ≠ copyFilePath := fun e => by
    have := congrArg (·[2]?) e
    rw [List.getElem?_append_left (by have := List.getElem?_eq_some_iff.mp h2; exact this.1), h2] at this
    exact absurd this (by decide)
  have h₂ : p ++ q ≠ target "A".toList := fun e => by
    have := congrArg List.length e
    rw [List.length_append] at this
    omega
  rw [bareDisk, if_neg h₁, if_neg h₂]

/-- A PC with neither BeadStudio nor GenomeStudio. -/
def bare : Pc Line where
  strComputer := "A".toList
  disk := bareDisk
  server := ⟨[(⟨"formats.xml".toList, by decide⟩, "v2".toList)], by decide⟩
  server_eq := rfl
  target_ne := by decide
  bead_of_fav := by decide
  genome_of_fav := by decide
  bead_flat := fun q _ => bareDisk_below (by decide) (by decide) q
  genome_flat := fun q _ => bareDisk_below (by decide) (by decide) q

/-- The run ends with error 76 in `Copyfile2`. -/
theorem checkFolder_bare : (∃ w, bare.checkFolder bare.world = .error pathNotFound w) ∧ ¬ bare.UpToDate := by
  have h : ∃ w, bare.checkFolder bare.world = .error pathNotFound w := ⟨_, rfl⟩
  obtain ⟨w, hw⟩ := h
  exact ⟨⟨w, hw⟩, Ends.not_of_error hw _⟩

end Espo.Illumina
