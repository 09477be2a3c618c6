import EspoScripts.Framework.Folder
import EspoScripts.Framework.Vbs

/-!
# FileSystemObject

Folders by their paths (`Disk`), a path ending in a backslash, and the
operations of a FileSystemObject on them. An operation raises a runtime error
where a path it needs is missing, and otherwise does what it says
(`copyFile_ok`, `createFolder_ok`). `forEach_copy` is the rule for a `For Each`
that copies each file of a folder into another one.
-/

namespace Espo.Fso

open Espo.Cmd Espo.Vbs

/-- The name of a file. -/
abbrev Name := { n : Line // '\\' ∉ n }

/-- The folders that exist, each with its files. -/
abbrev Disk (γ : Type) := Line → Option (Folder Name γ)

variable {γ E : Type}

/-- A folder written. -/
def Disk.set (d : Disk γ) (p : Line) (g : Folder Name γ) : Disk γ := fun q => if q = p then some g else d q

@[simp] theorem Disk.set_self (d : Disk γ) (p : Line) (g : Folder Name γ) : d.set p g p = some g := if_pos rfl

theorem Disk.set_of_ne (d : Disk γ) {p q : Line} (h : q ≠ p) (g : Folder Name γ) : d.set p g q = d q := if_neg h

theorem Disk.set_set (d : Disk γ) (p : Line) (f g : Folder Name γ) : (d.set p f).set p g = d.set p g := by
  funext q
  unfold Disk.set
  split <;> rfl

theorem Disk.set_of_eq {d : Disk γ} {p : Line} {g : Folder Name γ} (h : d p = some g) : d.set p g = d := by
  funext q
  unfold Disk.set
  split
  · rename_i hq; rw [hq, h]
  · rfl

/-! ## Paths -/

/-- Characters other than the backslash. -/
def inName (c : Char) : Bool := c != '\\'

/-- The folder of a file's path. -/
def dirOf (path : Line) : Line := (path.reverse.dropWhile inName).reverse

/-- The name in a file's path. -/
def nameOf (path : Line) : Name :=
  ⟨(path.reverse.takeWhile inName).reverse, fun h => by
    have := List.all_takeWhile (p := inName) (l := path.reverse)
    have hm := List.all_eq_true.mp this _ (List.mem_reverse.mp h)
    exact absurd hm (by decide)⟩

/-- The folder a folder is in. -/
def parentOf (p : Line) : Line := ((p.reverse.drop 1).dropWhile inName).reverse

theorem inName_of_mem {n : Name} : ∀ c ∈ n.1.reverse, inName c = true := fun c hc => by
  rw [inName, bne_iff_ne]
  rintro rfl
  exact n.2 (List.mem_reverse.mp hc)

/-- The path of a file, taken apart. -/
theorem dirOf_append {p : Line} (hp : p.getLast? = some '\\') (n : Name) : dirOf (p ++ n.1) = p := by
  obtain ⟨q, rfl⟩ := List.getLast?_eq_some_iff.mp hp
  rw [dirOf, List.reverse_append, List.reverse_append, List.dropWhile_append_of_pos inName_of_mem]
  simp [inName]

theorem nameOf_append {p : Line} (hp : p.getLast? = some '\\') (n : Name) : nameOf (p ++ n.1) = n := by
  obtain ⟨q, rfl⟩ := List.getLast?_eq_some_iff.mp hp
  apply Subtype.ext
  show ((q ++ ['\\'] ++ n.1).reverse.takeWhile inName).reverse = n.1
  rw [List.reverse_append, List.reverse_append, List.takeWhile_append_of_pos inName_of_mem]
  simp [inName]

/-- The path of a folder in another one. -/
theorem parentOf_append {p : Line} (hp : p.getLast? = some '\\') (n : Name) :
    parentOf (p ++ n.1 ++ ['\\']) = p := by
  obtain ⟨q, rfl⟩ := List.getLast?_eq_some_iff.mp hp
  rw [parentOf, List.reverse_append, List.reverse_singleton, List.singleton_append, List.drop_succ_cons,
    List.drop_zero, List.reverse_append, List.reverse_append, List.dropWhile_append_of_pos inName_of_mem]
  simp [inName]

/-! ## Operations -/

/-- Error 76. -/
def pathNotFound : RuntimeError := ⟨76, "Path not found".toList, by decide⟩

/-- Error 53. -/
def fileNotFound : RuntimeError := ⟨53, "File not found".toList, by decide⟩

/-- Error 58. -/
def fileAlreadyExists : RuntimeError := ⟨58, "File already exists".toList, by decide⟩

/-- The file of a path. -/
def fileAt (d : Disk γ) (path : Line) : Option γ := (d (dirOf path)).bind (·.get? (nameOf path))

/-- `FolderExists`. -/
def folderExists (p : Line) : Script (World (Disk γ) E) Bool := fun w => .ok (w.vars p).isSome w

/-- `FileExists`. -/
def fileExists (path : Line) : Script (World (Disk γ) E) Bool := fun w => .ok (fileAt w.vars path).isSome w

/-- `GetFolder`, and its `Files`. -/
def getFolder (p : Line) : Script (World (Disk γ) E) (Folder Name γ) := fun w =>
  match w.vars p with
  | none => .error pathNotFound w
  | some g => .ok g w

/-- `CreateFolder`. -/
def createFolder (p : Line) : Script (World (Disk γ) E) Unit := fun w =>
  match w.vars p, w.vars (parentOf p) with
  | some _, _ => .error fileAlreadyExists w
  | none, none => .error pathNotFound w
  | none, some _ => .ok () { w with vars := w.vars.set p .empty }

/-- `CopyFile source, folder, True`. -/
def copyFile (source folder : Line) : Script (World (Disk γ) E) Unit := fun w =>
  match fileAt w.vars source, w.vars folder with
  | none, _ => .error fileNotFound w
  | some _, none => .error pathNotFound w
  | some c, some g => .ok () { w with vars := w.vars.set folder (g.put (nameOf source) c) }

/-- `DeleteFile`. -/
def deleteFile (path : Line) : Script (World (Disk γ) E) Unit := fun w =>
  match w.vars (dirOf path), fileAt w.vars path with
  | some g, some _ => .ok () { w with vars := w.vars.set (dirOf path) (g.keep fun n => n != nameOf path) }
  | _, _ => .error fileNotFound w

/-- `OpenTextFile(path, ForWriting, True)`, what is written, and `Close`. -/
def writeTextFile (path : Line) (c : γ) : Script (World (Disk γ) E) Unit := fun w =>
  match w.vars (dirOf path) with
  | none => .error pathNotFound w
  | some g => .ok () { w with vars := w.vars.set (dirOf path) (g.put (nameOf path) c) }

/-! ## What the operations do -/

/-- The file of a folder is at its path. -/
theorem fileAt_append {d : Disk γ} {p : Line} (hp : p.getLast? = some '\\') {g : Folder Name γ}
    (h : d p = some g) (n : Name) : fileAt d (p ++ n.1) = g.get? n := by
  rw [fileAt, dirOf_append hp, nameOf_append hp, h, Option.bind_some]

/-- In a folder that does not exist there is no file. -/
theorem fileExists_of_none {w : World (Disk γ) E} {path : Line} (h : w.vars (dirOf path) = none) :
    fileExists path w = .ok false w := by
  rw [fileExists, fileAt, h]
  rfl

theorem folderExists_of_some {w : World (Disk γ) E} {p : Line} (h : w.vars p ≠ none) :
    folderExists p w = .ok true w := by
  rw [folderExists, Option.isSome_iff_ne_none.mpr h]

theorem folderExists_of_none {w : World (Disk γ) E} {p : Line} (h : w.vars p = none) :
    folderExists p w = .ok false w := by
  rw [folderExists, h]
  rfl

theorem getFolder_ok {w : World (Disk γ) E} {p : Line} {g : Folder Name γ} (h : w.vars p = some g) :
    Ends (getFolder p) w fun a d => a = g ∧ d = w.vars :=
  ⟨g, w, by rw [getFolder, h], rfl, rfl⟩

theorem copyFile_ok {w : World (Disk γ) E} {source folder : Line} {c : γ} {g : Folder Name γ}
    (hs : fileAt w.vars source = some c) (hd : w.vars folder = some g) :
    Ends (copyFile source folder) w fun _ d => d = w.vars.set folder (g.put (nameOf source) c) :=
  ⟨(), { w with vars := w.vars.set folder (g.put (nameOf source) c) }, by rw [copyFile, hs, hd], rfl⟩

theorem createFolder_ok {w : World (Disk γ) E} {p : Line} (hn : w.vars p = none)
    (hp : w.vars (parentOf p) ≠ none) :
    Ends (createFolder p) w fun _ d => d = w.vars.set p .empty := by
  obtain ⟨g, hg⟩ := Option.ne_none_iff_exists'.mp hp
  exact ⟨(), { w with vars := w.vars.set p .empty }, by rw [createFolder, hn, hg], rfl⟩

/-- No folder below `p`. -/
def NoBelow (d : Disk γ) (p : Line) : Prop := ∀ q, q ≠ [] → d (p ++ q) = none

theorem NoBelow.set {d : Disk γ} {p r : Line} (h : NoBelow d p) (hr : ∀ q, q ≠ [] → p ++ q ≠ r)
    (g : Folder Name γ) :
    NoBelow (d.set r g) p := fun q hq => by
  rw [Disk.set_of_ne _ (hr q hq), h q hq]

/-- Between two disks only the folders `ps` have changed: none is gone, and a new one is
in a folder that is there. -/
structure Touches (ps : List Line) (d d' : Disk γ) : Prop where
  frame : ∀ p, p ∉ ps → d' p = d p
  mono : ∀ p, d p ≠ none → d' p ≠ none
  parent : ∀ p, d p = none → d' p ≠ none → d' (parentOf p) ≠ none

namespace Touches

variable {ps : List Line} {d d' d'' : Disk γ}

theorem refl (ps : List Line) (d : Disk γ) : Touches ps d d := ⟨fun _ _ => rfl, fun _ h => h, fun _ h h' => absurd h h'⟩

theorem trans (h : Touches ps d d') (h' : Touches ps d' d'') : Touches ps d d'' where
  frame p hp := (h'.frame p hp).trans (h.frame p hp)
  mono p hp := h'.mono p (h.mono p hp)
  parent p hn hp := by
    by_cases hd : d' p = none
    · exact h'.parent p hd hp
    · exact h'.mono _ (h.parent p hn hd)

/-- A folder of the list written, that is there or can be created. -/
theorem set {p : Line} (hp : p ∈ ps) (h : d p ≠ none ∨ d (parentOf p) ≠ none) (g : Folder Name γ) :
    Touches ps d (d.set p g) := by
  have hm : ∀ q, d q ≠ none → d.set p g q ≠ none := by
    intro q hq
    by_cases e : q = p
    · rw [e, Disk.set_self]
      exact Option.some_ne_none g
    · rwa [Disk.set_of_ne _ e]
  refine ⟨fun q hq => Disk.set_of_ne d (fun e : q = p => hq (by rw [e]; exact hp)) g, hm, fun q hn hq => ?_⟩
  by_cases e : q = p
  · rw [e] at hn ⊢
    exact hm _ (h.resolve_left (absurd hn))
  · rw [Disk.set_of_ne _ e] at hq
    exact absurd hn hq

theorem createFolder {p : Line} (hp : p ∈ ps) :
    Keeps (Touches ps) (Fso.createFolder p : Script (World (Disk γ) E) Unit) := by
  intro w
  unfold Fso.createFolder
  cases h : w.vars p with
  | some g => exact refl ps _
  | none =>
    cases h' : w.vars (parentOf p) with
    | none => exact refl ps _
    | some g => exact set hp (.inr (by rw [h']; simp)) _

theorem copyFile {folder : Line} (hp : folder ∈ ps) (source : Line) :
    Keeps (Touches ps) (Fso.copyFile source folder : Script (World (Disk γ) E) Unit) := by
  intro w
  unfold Fso.copyFile
  cases h : fileAt w.vars source with
  | none => exact refl ps _
  | some c =>
    cases h' : w.vars folder with
    | none => exact refl ps _
    | some g => exact set hp (.inl (by rw [h']; simp)) _

theorem deleteFile {path : Line} (hp : dirOf path ∈ ps) :
    Keeps (Touches ps) (Fso.deleteFile path : Script (World (Disk γ) E) Unit) := by
  intro w
  unfold Fso.deleteFile
  cases h : w.vars (dirOf path) with
  | none => exact refl ps _
  | some g =>
    cases h' : fileAt w.vars path with
    | none => exact refl ps _
    | some c => exact set hp (.inl (by rw [h]; simp)) _

theorem writeTextFile {path : Line} (hp : dirOf path ∈ ps) (c : γ) :
    Keeps (Touches ps) (Fso.writeTextFile path c : Script (World (Disk γ) E) Unit) := by
  intro w
  unfold Fso.writeTextFile
  cases h : w.vars (dirOf path) with
  | none => exact refl ps _
  | some g => exact set hp (.inl (by rw [h]; simp)) _

/-- A longer list of folders. -/
theorem mono_list {qs : List Line} (h : Touches ps d d') (hq : ps ⊆ qs) : Touches qs d d' where
  frame p hp := h.frame p fun hm => hp (hq hm)
  mono := h.mono
  parent := h.parent

theorem folderExists (p : Line) : Keeps (Touches ps) (Fso.folderExists p : Script (World (Disk γ) E) Bool) := fun w =>
  refl ps w.vars

theorem fileExists (path : Line) : Keeps (Touches ps) (Fso.fileExists path : Script (World (Disk γ) E) Bool) := fun w =>
  refl ps w.vars

theorem getFolder (p : Line) :
    Keeps (Touches ps) (Fso.getFolder p : Script (World (Disk γ) E) (Folder Name γ)) := by
  intro w
  unfold Fso.getFolder
  cases w.vars p <;> exact refl ps w.vars

end Touches

/-- A statement that writes the file `f` into the folder `dst`, on a disk that is `d₀`
but for that folder. -/
def CopiesTo (d₀ : Disk γ) (dst : Line) (f : Name × γ) (x : Script (World (Disk γ) E) Unit) : Prop :=
  ∀ (w : World (Disk γ) E) (g : Folder Name γ), (∀ q, q ≠ dst → w.vars q = d₀ q) → w.vars dst = some g →
    Ends x w fun _ d => d = w.vars.set dst (g.put f.1 f.2)

/-- A loop that writes each of the files, by induction on them. -/
theorem forEach_copy {d₀ : Disk γ} {dst : Line} {body : Name × γ → Script (World (Disk γ) E) Unit} :
    ∀ {fs : List (Name × γ)}, (∀ f ∈ fs, CopiesTo d₀ dst f (body f)) → ∀ {w : World (Disk γ) E}
      {g : Folder Name γ}, (∀ q, q ≠ dst → w.vars q = d₀ q) → w.vars dst = some g →
      Ends (forEach fs body) w fun _ d => d = w.vars.set dst (fs.foldl (fun g f => g.put f.1 f.2) g)
  | [], _, w, g, _, hg => .ret (Disk.set_of_eq hg).symm
  | f :: fs, h, w, g, hq, hg => by
    refine (h f List.mem_cons_self w g hq hg).bind fun _ w₁ hv₁ => ?_
    have hq₁ : ∀ q, q ≠ dst → w₁.vars q = d₀ q := fun q hne => by
      rw [hv₁, Disk.set_of_ne _ hne, hq q hne]
    have hg₁ : w₁.vars dst = some (g.put f.1 f.2) := by rw [hv₁, Disk.set_self]
    refine (forEach_copy (fun f hf => h f (List.mem_cons_of_mem _ hf)) hq₁ hg₁).mono fun _ d hd => ?_
    rw [hd, hv₁, Disk.set_set, List.foldl_cons]

section

variable {d₀ : Disk γ} {src dst : Line} {w : World (Disk γ) E}

/-- A path made of two is not that of a file, where nothing is below the first. -/
theorem fileExists_below (hs : src.getLast? = some '\\') (hf : NoBelow d₀ dst)
    (hq : ∀ q, q ≠ dst → w.vars q = d₀ q) (n : Name) : fileExists (dst ++ (src ++ n.1)) w = .ok false w := by
  have hn : src ≠ [] := fun e => by rw [e] at hs; cases hs
  have hl : (dst ++ src).getLast? = some '\\' := by rw [List.getLast?_append, hs]; rfl
  apply fileExists_of_none
  rw [← List.append_assoc, dirOf_append hl, hq _ (by simpa using hn), hf src hn]

/-- A file of another folder copied. -/
theorem copyFile_from {s g : Folder Name γ} (hs : src.getLast? = some '\\') (hd : d₀ src = some s)
    (hne : src ≠ dst) (hq : ∀ q, q ≠ dst → w.vars q = d₀ q) (hg : w.vars dst = some g) {f : Name × γ} (hf : f ∈ s.files) :
    Ends (copyFile (src ++ f.1.1) dst) w fun _ d => d = w.vars.set dst (g.put f.1 f.2) := by
  have hc : fileAt w.vars (src ++ f.1.1) = some f.2 := by
    rw [fileAt_append hs (g := s) (by rw [hq src hne, hd])]
    exact Folder.get?_eq_some_iff.mpr hf
  refine (copyFile_ok hc hg).mono fun _ d he => ?_
  rw [he, nameOf_append hs]

end

end Espo.Fso
