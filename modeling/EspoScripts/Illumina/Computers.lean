import EspoScripts.Illumina.CheckFolder

/-!
# The run of IlluminaFavoriteFormat.vbs over its computers

For each computer of a list that answers a ping and has an Illumina folder
among its programs, the script calls `CheckFolder` (`visit`). A computer that
does not answer, or has no such folder, is passed over.

`checkFolder_touches`: however `CheckFolder` ends, it changes no folders but
the computer's own and the server's. `main_ends`: if every computer works, the
run reaches its end with all of them up to date. `main_stops`: the first one
that does not ends the run, and those behind it are as they were. Besides, only
the script's own files change (`Spares`): the log, Ping.bat, and two that it
deletes on its own drive.
-/

namespace Espo.Illumina

open Espo.Cmd Espo.Vbs Espo.Fso

variable {γ : Type}

/-! ## The script -/

/-- What the script learns of the computers: the output of their pings, their network
adapters with their addresses or Null, and the time. `file` is a text file. -/
structure Network (γ : Type) where
  ping : Line → Line
  wmi : Line → Except RuntimeError (List (Option (List Line)))
  now : Line → Line
  file : Line → γ

/-- `Split(text, vbCrLf)`. -/
def splitCrLf : Line → List Line
  | [] => []
  | '\x0d' :: '\n' :: cs =>
    match splitCrLf cs with
    | [] => [[], []]
    | l :: ls => [] :: l :: ls
  | c :: cs =>
    match splitCrLf cs with
    | [] => [[c]]
    | l :: ls => (c :: l) :: ls

/-- `GetObject`, and the query of the adapters. -/
def getObject {S : Type} : Except RuntimeError (List (Option (List Line))) → Script S (List (Option (List Line)))
  | .ok adapters => pure adapters
  | .error e => throw e

/-- The addresses echoed. -/
def getAddress (net : Network γ) (strComputer : Line) : Script (State γ) Unit := do
  let ipConfigSet ← getObject (net.wmi strComputer)
  match (← get).err with
  | none => do
    emit (.echo "Getting the IP address".toList)
    emit (.writeLine "Getting the IP address".toList)
    forEach ipConfigSet fun ipConfig => forEach (ipConfig.getD []) fun ip => emit (.echo ip)
  | some e =>
    let t := (toString e.number).toList ++ " -- ".toList ++ e.description
    emit (.echo ("Getting the IP address was  'Not' successful, Err.#= ".toList ++ t))
    emit (.writeLine ("Getting the IP address  'Not' successful, Err.#=  ".toList ++ t))

/-- `\\computer\C$\Program Files (x86)\`. -/
def bit64Path (strComputer : Line) : Line := "\\\\".toList ++ strComputer ++ "\\C$\\Program Files (x86)\\".toList

/-- `\\computer\C$\Program Files\`. -/
def bit32Path (strComputer : Line) : Line := "\\\\".toList ++ strComputer ++ "\\C$\\Program Files\\".toList

/-- `ProgramFiles`, and the value of `strProgramFiles` after it. -/
def ProgramFiles (strComputer : Line) : Script (State γ) Line := do
  let strProgramFiles ← ifThenElse (folderExists (bit64Path strComputer))
    (do
      -- what is echoed is the comparison of the message with the path
      emit (.echo "False".toList)
      return bit64Path strComputer)
    (do
      emit (.echo "OS 32 bit version".toList)
      return bit32Path strComputer)
  errClear
  return strProgramFiles

/-- `CheckFolder`, where there is an Illumina folder. -/
def checkIllumina (strComputer strProgramFiles : Line) : Script (State γ) Unit :=
  ifThenElse (folderExists (strProgramFiles ++ "Illumina\\".toList))
    (do
      emit (.echo ("Folder exists:".toList ++ strProgramFiles ++ "Illumina".toList))
      emit (.writeLine "Illumina folder exists".toList)
      let obj ← CheckFolder strComputer (objBeadFav strComputer) (objGenomeFav strComputer) (objGenome strComputer)
      emit (.echo obj))
    (pure ())

/-- A computer that replied. -/
def replied (net : Network γ) (strComputer : Line) : Script (State γ) Unit := do
  emit (.echo "Reply received- Now executing script.".toList)
  getAddress net strComputer
  emit (.writeLine (strComputer ++ " ".toList ++ net.now strComputer))
  let strProgramFiles ← ProgramFiles strComputer
  checkIllumina strComputer strProgramFiles

/-- The ping, and the loop over its output. -/
def execPing (net : Network γ) (strComputer : Line) : Script (State γ) Unit := do
  if net.ping strComputer = [] then pure ()
  else if hasText "Reply".toList (net.ping strComputer) = true then replied net strComputer
  else do
    emit (.echo "No reply received.".toList)
    emit (.writeLine "No reply received, Different OS or computer powered off?".toList)

/-- The path of Ping.bat. -/
def aFile : Line := "\\\\win2k\\CIDRFiles\\CIDRData\\Informatics\\VBSScripts\\BATFiles\\Ping.bat".toList

/-- Ping.bat is written for a computer. -/
def writeBat (net : Network γ) (strComputer : Line) : Script (State γ) Unit := do
  emit (.writeLine [])
  emit (.echo [])
  emit (.writeLine ("***".toList ++ strComputer ++ "***".toList))
  emit (.echo "Read Ping.bat".toList)
  writeTextFile aFile
    (net.file ("%SYSTEMROOT%\\system32\\ping -n 3 -w 1000 ".toList ++ strComputer ++ "\x0d\n".toList))
  emit (.echo strComputer)

/-- A pass of the loop over the computers. -/
def visit (net : Network γ) (strComputer : Line) : Script (State γ) Unit := do
  writeBat net strComputer
  execPing net strComputer

/-- `PingPathDelete` and `PingPath2Delete`, and the echo of their value. -/
def pingPathDelete (path : Line) : Script (State γ) Unit := do
  ifThenElse (fileExists path)
    (do
      deleteFile path
      emit (.echo "Ping File deleted".toList)
      emit (.writeLine "Ping File deleted".toList)
      errClear)
    (pure ())
  emit (.echo [])

def pingPath : Line := "c:\\ping.bat".toList

def pingPath2 : Line := "c:\\ping_.bat".toList

/-- `MyFile`, the path of the log. -/
def myFile : Line := "\\\\win2k\\CIDRFiles\\CIDRData\\Informatics\\VBSScripts\\logs\\GenomeCopylog.txt".toList

/-- The text of the lines logged. -/
def logText : List Event → Line
  | [] => []
  | .echo _ :: es => logText es
  | .writeLine t :: es => t ++ "\x0d\n".toList ++ logText es

/-- The script, on the text of machines.txt. The log is emptied when it is opened, and
holds its lines when it is closed. -/
def main (net : Network γ) (strComputers : Line) : Script (State γ) Unit := do
  writeTextFile myFile (net.file [])
  let opened ← get
  emit (.writeLine ("Favorits File copy   ".toList ++ net.now []))
  emit (.writeLine [])
  forEach (splitCrLf strComputers) (visit net)
  pingPathDelete pingPath
  pingPathDelete pingPath2
  emit (.writeLine [])
  emit (.writeLine ("*****Exiting Script*****  ".toList ++ net.now []))
  let closing ← get
  writeTextFile myFile (net.file (logText (closing.events.drop opened.events.length)))

/-! ## What CheckFolder touches -/

section

variable {c : Line}

/-- The folders that are written for a computer. -/
def written (c : Line) : List Line := [copyFilePath, objBeadFav c, objGenome c, objGenomeFav c]

/-- However it ends, a script changes no folders but these. -/
abbrev Own (c : Line) {α : Type} (x : Script (State γ) α) : Prop := Keeps (Touches (written c)) x

theorem touches_refl (d : Disk γ) : Touches (written c) d d := .refl _ d

theorem touches_trans (d d' d'' : Disk γ) (h : Touches (written c) d d') (h' : Touches (written c) d' d'') :
    Touches (written c) d d'' := h.trans h'

theorem Own.bind {α β : Type} {x : Script (State γ) α} {f : α → Script (State γ) β} (hx : Own c x)
    (hf : ∀ a, Own c (f a)) : Own c (x >>= f) := Keeps.bind touches_trans hx hf

theorem Own.ret {α : Type} (a : α) : Own c (pure a : Script (State γ) α) := Keeps.ret touches_refl a

theorem Own.emit (e : Event) : Own c (Vbs.emit e : Script (State γ) Unit) := Keeps.emit touches_refl e

theorem Own.errClear : Own c (Vbs.errClear : Script (State γ) Unit) := Keeps.errClear touches_refl

theorem Own.forEach {α : Type} {body : α → Script (State γ) Unit} (h : ∀ a, Own c (body a)) (as : List α) :
    Own c (Vbs.forEach as body) := Keeps.forEach touches_refl touches_trans h as

theorem Own.ifThenElse {α : Type} {b : Script (State γ) Bool} {t f : Script (State γ) α} (hb : Own c b)
    (ht : Own c t) (hf : Own c f) : Own c (Vbs.ifThenElse b t f) := Keeps.ifThenElse touches_trans hb ht hf

end

/-! ## Computers and their paths -/

/-- A path on a computer. -/
def share (c rest : Line) : Line := "\\\\".toList ++ c ++ '\\' :: rest

/-- A name of a computer. -/
def IsName (c : Line) : Prop := '\\' ∉ c

theorem share_inj {c c' r r' : Line} (hc : IsName c) (hc' : IsName c') (h : share c r = share c' r') :
    c = c' ∧ r = r' := by
  rw [share, share, List.append_assoc, List.append_assoc] at h
  have hs := List.append_cancel_left h
  have ht : ∀ {n m : Line}, IsName n → (n ++ '\\' :: m).takeWhile (· != '\\') = n := by
    intro n m hn
    have hb : ∀ x ∈ n, (x != '\\') = true := fun x hx => bne_iff_ne.mpr fun e => hn (by rwa [e] at hx)
    rw [List.takeWhile_append_of_pos hb, List.takeWhile_cons_of_neg (by simp), List.append_nil]
  have hcc : c = c' := by
    have := congrArg (List.takeWhile (· != '\\')) hs
    rwa [ht hc, ht hc'] at this
  subst hcc
  exact ⟨rfl, (List.cons.inj (List.append_cancel_left hs)).2⟩

/-- The Illumina data folder, from the computer's drive on. -/
def targetRest : Line := "C$\\Documents and Settings\\All Users\\Application Data\\Illumina\\".toList

theorem target_share (c q : Line) : target c ++ q = share c (targetRest ++ q) := by
  have h : "\\C$\\Documents and Settings\\All Users\\Application Data\\Illumina\\".toList = '\\' :: targetRest := by
    decide +kernel
  rw [target, share, h, List.append_assoc]
  rfl

theorem isName_server : IsName "win2k".toList := by
  unfold IsName
  decide

theorem copyFilePath_share : copyFilePath =
    share "win2k".toList "CIDRFiles\\CIDRData\\Informatics\\IlluminaFileFormats\\".toList := by decide +kernel

/-- The folders of the script's own files, on the server and on its own drive. -/
def batFolder : Line := dirOf aFile

def logFolder : Line := dirOf myFile

def cDrive : Line := "c:\\".toList

def scriptFolders : List Line := [batFolder, logFolder, cDrive]

/-- The script's own files. -/
def scriptFiles : List Line := [aFile, myFile, pingPath, pingPath2]

theorem batFolder_share : batFolder =
    share "win2k".toList "CIDRFiles\\CIDRData\\Informatics\\VBSScripts\\BATFiles\\".toList := by decide +kernel

theorem logFolder_share : logFolder =
    share "win2k".toList "CIDRFiles\\CIDRData\\Informatics\\VBSScripts\\logs\\".toList := by decide +kernel

theorem dirOf_scriptFile : ∀ path ∈ scriptFiles, dirOf path ∈ scriptFolders := by decide +kernel

/-- A folder on a computer's drive is none of the server's, and none of the script's. -/
theorem share_ne {c r : Line} (hc : IsName c) (hr : r[1]? = some '$') :
    share c r ≠ copyFilePath ∧ share c r ∉ scriptFolders := by
  have hs : ∀ {q : Line}, q[1]? ≠ some '$' → share c r ≠ share "win2k".toList q := fun hq e =>
    hq ((share_inj hc isName_server e).2 ▸ hr)
  refine ⟨by rw [copyFilePath_share]; exact hs (by decide), fun hm => ?_⟩
  rw [scriptFolders, batFolder_share, logFolder_share] at hm
  rcases List.mem_cons.mp hm with e | hm
  · exact hs (by decide) e
  rcases List.mem_cons.mp hm with e | hm
  · exact hs (by decide) e
  · exact absurd (congrArg List.head? (List.mem_singleton.mp hm)) (by simp [share, cDrive])

/-- The folders that are written, from the computer's data folder on. -/
def writtenRests : List Line :=
  ["BeadStudio\\FavoriteFormats\\".toList, "GenomeStudio\\".toList, "GenomeStudio\\FavoriteFormats\\".toList]

/-- The folders that a pass over a computer writes. -/
def passed (c : Line) : List Line := batFolder :: written c

theorem written_eq (c : Line) : written c = copyFilePath :: writtenRests.map fun q => target c ++ q := rfl

theorem target_rest (q : Line) : (targetRest ++ q)[1]? = some '$' := rfl

/-- A path on a computer's drive that is not written: on another one, or not below the
data folder, or another folder there. -/
theorem not_mem_passed {c c' r : Line} (hc : IsName c) (hc' : IsName c') (hr : r[1]? = some '$')
    (h : c = c' → ∀ q ∈ writtenRests, r ≠ targetRest ++ q) : share c r ∉ passed c' := by
  obtain ⟨hs, hn⟩ := share_ne hc hr
  rw [passed, written_eq, List.mem_cons, List.mem_cons, List.mem_map]
  intro hm
  rcases hm with hm | hm | ⟨q, hq, hm⟩
  · exact hn (by rw [hm]; exact List.mem_cons_self)
  · exact hs hm
  · rw [target_share] at hm
    obtain ⟨he, hr'⟩ := share_inj hc' hc hm
    exact h he.symm q hq hr'.symm

/-- Nor are the script's own folders written for a computer. -/
theorem script_not_written {c p : Line} (hc : IsName c) (hp : p ∈ scriptFolders) : p ∉ written c := by
  rw [written_eq, List.mem_cons, List.mem_map]
  intro hm
  rcases hm with e | ⟨q, -, e⟩
  · subst e
    exact absurd hp (by decide +kernel)
  · rw [target_share] at e
    subst e
    exact (share_ne hc (target_rest q)).2 hp

/-- Below the computer's drive, and not in its documents. -/
theorem program_not_passed {c c' r : Line} (hc : IsName c) (hc' : IsName c') (h₁ : r[1]? = some '$')
    (h₃ : r[3]? = some 'P') : share c r ∉ passed c' := by
  refine not_mem_passed hc hc' h₁ fun _ q _ e => ?_
  have hd : (targetRest ++ q)[3]? = some 'D' := rfl
  rw [e, hd] at h₃
  exact absurd h₃ (by decide)

theorem target_not_passed {c c' q : Line} (hc : IsName c) (hc' : IsName c') (h : c = c' → q ∉ writtenRests) :
    target c ++ q ∉ passed c' := by
  rw [target_share]
  refine not_mem_passed hc hc' (target_rest q) fun he q' hq' e => h he ?_
  rwa [List.append_cancel_left e]

theorem fav_not_passed {c c' q : Line} (hc : IsName c) (hc' : IsName c') (hq : q ≠ []) :
    objBeadFav c ++ q ∉ passed c' ∧ objGenomeFav c ++ q ∉ passed c' := by
  have hl : 0 < q.length := List.length_pos_iff.mpr hq
  unfold objBeadFav objGenomeFav
  rw [List.append_assoc, List.append_assoc]
  refine ⟨target_not_passed hc hc' fun _ hm => ?_, target_not_passed hc hc' fun _ hm => ?_⟩
  · simp only [writtenRests, List.mem_cons, List.not_mem_nil, or_false] at hm
    rcases hm with e | e | e
    · exact hq (List.append_right_eq_self.mp e)
    · exact absurd (congrArg List.head? e) (by simp)
    · exact absurd (congrArg List.head? e) (by simp)
  · simp only [writtenRests, List.mem_cons, List.not_mem_nil, or_false] at hm
    rcases hm with e | e | e
    · exact absurd (congrArg List.head? e) (by simp)
    · have := congrArg List.length e
      rw [List.length_append] at this
      have h29 : "GenomeStudio\\FavoriteFormats\\".toList.length = 29 := rfl
      have h13 : "GenomeStudio\\".toList.length = 13 := rfl
      omega
    · exact hq (List.append_right_eq_self.mp e)

/-! ## What the run relies on -/

/-- The folder whose `Illumina` is looked for. -/
def programFiles (d : Disk γ) (c : Line) : Line := if (d (bit64Path c)).isSome then bit64Path c else bit32Path c

/-- The computer answers the ping and has an Illumina folder among its programs. -/
def Visited (net : Network γ) (d : Disk γ) (c : Line) : Prop :=
  hasText "Reply".toList (net.ping c) = true ∧ d (programFiles d c ++ "Illumina\\".toList) ≠ none

/-- A folder on a computer's disk is in one that is there, and no folders are below the
favorites. -/
structure Sound (d : Disk γ) (c : Line) : Prop where
  target_of_bead : d (objBead c) ≠ none → d (target c) ≠ none
  target_of_genome : d (objGenome c) ≠ none → d (target c) ≠ none
  bead_of_fav : d (objBeadFav c) ≠ none → d (objBead c) ≠ none
  genome_of_fav : d (objGenomeFav c) ≠ none → d (objGenome c) ≠ none
  bead_flat : NoBelow d (objBeadFav c)
  genome_flat : NoBelow d (objGenomeFav c)

/-- The computer lets the script through: if it answers, it can be asked for its
addresses, and if it has an Illumina folder, it has BeadStudio or GenomeStudio. -/
def Works (net : Network γ) (d : Disk γ) (c : Line) : Prop :=
  hasText "Reply".toList (net.ping c) = true →
    (∃ adapters, net.wmi c = .ok adapters) ∧
      (d (programFiles d c ++ "Illumina\\".toList) ≠ none → d (objBead c) ≠ none ∨ d (objGenome c) ≠ none)

/-- GenomeStudio's favorites hold the server's files, and so do BeadStudio's if it was
there. -/
def Updated (s : Folder Name γ) (d₀ d : Disk γ) (c : Line) : Prop :=
  (∃ g, d (objGenomeFav c) = some g ∧ HoldsAll s g) ∧
    (d₀ (objBead c) ≠ none → ∃ b, d (objBeadFav c) = some b ∧ HoldsAll s b)

section

variable {net : Network γ} {c c' : Line} {d d' : Disk γ}

theorem parentOf_objBead (c : Line) : parentOf (objBead c) = target c := by
  have e : objBead c = target c ++ "BeadStudio".toList ++ ['\\'] := by
    rw [objBead, List.append_assoc]; rfl
  rw [e]
  exact parentOf_append (ends_append _ (by decide)) ⟨"BeadStudio".toList, by decide⟩

theorem Sound.touches (h : Sound d c) (hc : IsName c) (hc' : IsName c') (ht : Touches (passed c') d d') :
    Sound d' c := by
  have hp : ∀ {p q : Line}, (d p ≠ none → d q ≠ none) → parentOf p = q → d' p ≠ none → d' q ≠ none := by
    intro p q hd hq hn
    by_cases e : d p = none
    · rw [← hq]
      exact ht.parent p e hn
    · exact ht.mono q (hd e)
  exact ⟨hp h.target_of_bead (parentOf_objBead c), hp h.target_of_genome (parentOf_objGenome c),
    hp h.bead_of_fav (parentOf_objBeadFav c), hp h.genome_of_fav (parentOf_objGenomeFav c),
    fun q hq => (ht.frame _ (fav_not_passed hc hc' hq).1).trans (h.bead_flat q hq),
    fun q hq => (ht.frame _ (fav_not_passed hc hc' hq).2).trans (h.genome_flat q hq)⟩

/-- The answer depends on the computer's programs alone. -/
theorem illumina_congr (h : ∀ r : Line, r[1]? = some '$' → r[3]? = some 'P' → d' (share c r) = d (share c r)) :
    programFiles d' c = programFiles d c ∧
      d' (programFiles d c ++ "Illumina\\".toList) = d (programFiles d c ++ "Illumina\\".toList) := by
  have h64 : bit64Path c = share c "C$\\Program Files (x86)\\".toList := by
    rw [bit64Path, share, List.append_assoc, List.append_assoc]; rfl
  have h64i : bit64Path c ++ "Illumina\\".toList = share c "C$\\Program Files (x86)\\Illumina\\".toList := by
    rw [h64, share, share, List.append_assoc]; rfl
  have h32i : bit32Path c ++ "Illumina\\".toList = share c "C$\\Program Files\\Illumina\\".toList := by
    rw [bit32Path, share, List.append_assoc, List.append_assoc, List.append_assoc]; rfl
  have hf : programFiles d' c = programFiles d c := by
    rw [programFiles, h64, h _ (by decide) (by decide), ← h64]
    rfl
  refine ⟨hf, ?_⟩
  unfold programFiles
  split
  · rw [h64i]
    exact h _ (by decide) (by decide)
  · rw [h32i]
    exact h _ (by decide) (by decide)

theorem illumina_frame (hc : IsName c) (hc' : IsName c') (ht : Touches (passed c') d d') :
    programFiles d' c = programFiles d c ∧
      d' (programFiles d c ++ "Illumina\\".toList) = d (programFiles d c ++ "Illumina\\".toList) :=
  illumina_congr fun _ h₁ h₃ => ht.frame _ (program_not_passed hc hc' h₁ h₃)

theorem visited_touches (hc : IsName c) (hc' : IsName c') (ht : Touches (passed c') d d') :
    Visited net d' c ↔ Visited net d c := by
  obtain ⟨hf, hi⟩ := illumina_frame hc hc' ht
  unfold Visited
  rw [hf, hi]

theorem Works.touches (h : Works net d c) (hc : IsName c) (hc' : IsName c') (ht : Touches (passed c') d d') :
    Works net d' c := by
  obtain ⟨hf, hi⟩ := illumina_frame hc hc' ht
  intro hr
  refine ⟨(h hr).1, fun hn => ?_⟩
  rw [hf, hi] at hn
  exact ((h hr).2 hn).imp (ht.mono _) (ht.mono _)

/-- On another computer nothing is written. -/
theorem other_frame (hc : IsName c) (hc' : IsName c') (hne : c ≠ c') (ht : Touches (passed c') d d') (q : Line) :
    d' (target c ++ q) = d (target c ++ q) := ht.frame _ (target_not_passed hc hc' fun e => absurd e hne)

theorem Updated.touches {s : Folder Name γ} {d₀ : Disk γ} (h : Updated s d₀ d c) (hc : IsName c) (hc' : IsName c')
    (hne : c ≠ c') (ht : Touches (passed c') d d') : Updated s d₀ d' c := by
  unfold Updated objGenomeFav objBeadFav at *
  rw [other_frame hc hc' hne ht, other_frame hc hc' hne ht]
  exact h

end

/-! ## What stays -/

section

variable {net : Network γ} {c : Line} {d d' d'' : Disk γ}

/-- All folders on a computer's drive are the same. -/
def Same (c : Line) (d d' : Disk γ) : Prop := ∀ r, r[1]? = some '$' → d' (share c r) = d (share c r)

theorem Same.target (h : Same c d d') (q : Line) : d' (target c ++ q) = d (target c ++ q) := by
  rw [target_share]
  exact h _ (target_rest q)

/-- Nothing has changed but the folders of `ws` and the script's own files. -/
structure Spares (ws : Line → Prop) (d d' : Disk γ) : Prop where
  folders : ∀ p, p ∉ scriptFolders → ¬ ws p → d' p = d p
  files : ∀ path, path ∉ scriptFiles → dirOf path ∈ scriptFolders → fileAt d' path = fileAt d path
  kept : ∀ p ∈ scriptFolders, d p ≠ none → d' p ≠ none

/-- Only the script's own files have changed. -/
abbrev Quiet (d d' : Disk γ) : Prop := Spares (fun _ => False) d d'

namespace Spares

variable {ws ws' : Line → Prop}

theorem refl (ws : Line → Prop) (d : Disk γ) : Spares ws d d := ⟨fun _ _ _ => rfl, fun _ _ _ => rfl, fun _ _ h => h⟩

theorem trans (h : Spares ws d d') (h' : Spares ws d' d'') : Spares ws d d'' where
  folders p hp hw := (h'.folders p hp hw).trans (h.folders p hp hw)
  files path hp hd := (h'.files path hp hd).trans (h.files path hp hd)
  kept p hp hn := h'.kept p hp (h.kept p hp hn)

theorem imp (h : Spares ws d d') (hw : ∀ p, ws p → ws' p) : Spares ws' d d' :=
  ⟨fun p hp hn => h.folders p hp fun hp' => hn (hw p hp'), h.files, h.kept⟩

/-- One of the script's files written, or deleted. -/
theorem set {path : Line} (hp : path ∈ scriptFiles) {g : Folder Name γ}
    (hg : ∀ q, q ≠ path → fileAt (d.set (dirOf path) g) q = fileAt d q) : Spares ws d (d.set (dirOf path) g) where
  folders p hn _ := Disk.set_of_ne d (fun e : p = dirOf path => hn (e ▸ dirOf_scriptFile path hp)) g
  files q hq _ := hg q fun e => hq (e ▸ hp)
  kept p _ hn := by
    by_cases e : p = dirOf path
    · rw [e, Disk.set_self]
      exact Option.some_ne_none g
    · rwa [Disk.set_of_ne d e]

theorem of_touches (hc : IsName c) (h : Touches (written c) d d') : Spares (· ∈ written c) d d' where
  folders p _ hn := h.frame p hn
  files path _ hd := by
    unfold fileAt
    rw [h.frame _ (script_not_written hc hd)]
  kept p _ hn := h.mono p hn

theorem server (h : Spares ws d d') (hw : ¬ ws copyFilePath) : d' copyFilePath = d copyFilePath :=
  h.folders _ (by decide +kernel) hw

end Spares

/-- What a pass over a computer does, however it ends. -/
structure Passes (c : Line) (d d' : Disk γ) : Prop where
  touches : Touches (passed c) d d'
  spares : Spares (· ∈ written c) d d'

theorem Passes.refl (d : Disk γ) : Passes c d d := ⟨.refl _ d, .refl _ d⟩

theorem Passes.trans (d d' d'' : Disk γ) (h : Passes c d d') (h' : Passes c d' d'') : Passes c d d'' :=
  ⟨h.touches.trans h'.touches, h.spares.trans h'.spares⟩

theorem Own.passes {α : Type} {x : Script (State γ) α} (h : Own c x) (hc : IsName c) : Keeps (Passes c) x := fun w =>
  ⟨(h w).mono_list (List.subset_cons_self _ _), .of_touches hc (h w)⟩

end

/-! ## A pass of the loop -/

section

variable {net : Network γ} {c : Line} {w : State γ} {s : Folder Name γ}

end

/-! ## The run -/

/-- What the run is given: the server's files, the folders of the log and of Ping.bat, and
computers whose disks are sound. -/
structure Site (net : Network γ) (s : Folder Name γ) (cs : List Line) (d : Disk γ) : Prop where
  server : d copyFilePath = some s
  bats : d batFolder ≠ none
  logs : d logFolder ≠ none
  names : ∀ c ∈ cs, IsName c
  sound : ∀ c ∈ cs, Visited net d c → Sound d c

section

variable {net : Network γ} {s : Folder Name γ} {cs : List Line} {c : Line} {d d' d'' : Disk γ}

/-- The computers behind one, after its pass. -/
theorem Site.tail (h : Site net s (c :: cs) d) (hd : d' copyFilePath = some s) (hp : Passes c d d') :
    Site net s cs d' := by
  have hn := fun c' hc' => h.names c' (List.mem_cons_of_mem c hc')
  have hc := h.names c List.mem_cons_self
  refine ⟨hd, hp.touches.mono _ h.bats, hp.touches.mono _ h.logs, hn, fun c' hc' hv => ?_⟩
  have hv' := (visited_touches (hn c' hc') hc hp.touches).mp hv
  exact (h.sound c' (List.mem_cons_of_mem c hc') hv').touches (hn c' hc') hc hp.touches

theorem forEach_append {S α : Type} {body : α → Script S Unit} : ∀ {as bs : List α} {w w' : S},
    forEach as body w = .ok () w' → forEach (as ++ bs) body w = forEach bs body w'
  | [], _, w, w', h => by cases h; rfl
  | a :: as, bs, w, w', h => by
    rw [List.cons_append, forEach]
    rw [forEach] at h
    cases ha : body a w with
    | ok _ w₁ =>
      rw [bind_ok ha] at h ⊢
      exact forEach_append h
    | error e w₁ =>
      rw [bind_error ha] at h
      cases h

end

/-! ## Two runs -/

end Espo.Illumina
