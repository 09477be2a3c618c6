import EspoScripts.Framework.CmdText

/-!
# Directory trees

The directories and files of a disk by their paths (`Disk`), every entry in a
directory that is there, and what `del /q` and `rd` do to them. Which
directory a text is a path of, and which files it names (relative paths,
wildcards, another case), is left to `Names`.

A `del` and an `rd` of one text, one after the other, are described by what is
left (`mem_dirs_delRd`, `mem_files_delRd`), and only ever remove entries
(`dirs_run_subset`, `files_run_subset`).
-/

namespace Espo.Tree

open Espo.Cmd

/-- A character of a file or directory name. -/
def validChar (c : Char) : Bool :=
  31 < c.toNat && !(['\\', '/', ':', '*', '?', '\x22', '<', '>', '|'].contains c)

/-- A file or directory name. -/
abbrev Name := { n : Line // n ≠ [] ∧ n.all validChar = true }

/-- The full path of a directory or file. -/
inductive Path
  | root (drive : Char)
  | sub (dir : Path) (name : Name)
deriving DecidableEq

namespace Path

/-- A path as text. -/
def text : Path → Line
  | root c => [c, ':']
  | sub p n => text p ++ '\\' :: n.1

/-- The directory an entry is in. -/
def parent : Path → Option Path
  | root _ => none
  | sub p _ => some p

/-- `q` is below `p`, at any depth. -/
def holds (p : Path) : Path → Bool
  | root _ => false
  | sub d _ => d == p || holds p d

theorem holds_iff {c p q : Path} (h : q.parent = some p) : c.holds q = true ↔ p = c ∨ c.holds p = true := by
  cases q with
  | root => cases h
  | sub d n =>
    obtain rfl : d = p := Option.some.inj h
    rw [holds, Bool.or_eq_true, beq_iff_eq]

theorem holds_of_parent {p q : Path} (h : q.parent = some p) : p.holds q = true := (holds_iff h).mpr (.inl rfl)

theorem holds_trans {p q : Path} (h : p.holds q = true) : ∀ {r : Path}, q.holds r = true → p.holds r = true
  | root _, hr => by cases hr
  | sub d n, hr => by
    refine (holds_iff rfl).mpr (.inr ?_)
    rcases (holds_iff rfl).mp hr with e | hb
    · rwa [e]
    · exact holds_trans h hb

/-- How deep a path is. -/
def depth : Path → Nat
  | root _ => 0
  | sub p _ => depth p + 1

theorem depth_lt {p : Path} : ∀ {q : Path}, p.holds q = true → p.depth < q.depth
  | root _, h => by cases h
  | sub d n, h => by
    rcases (holds_iff rfl).mp h with e | hb
    · rw [e]; exact Nat.lt_succ_self _
    · exact Nat.lt_succ_of_lt (depth_lt hb)

theorem not_holds_self (p : Path) : p.holds p ≠ true := fun h => Nat.lt_irrefl _ (depth_lt h)

/-- What is below a path has a parent. -/
theorem parent_of_holds {p : Path} : ∀ {q : Path}, p.holds q = true → ∃ d, q.parent = some d
  | root _, h => by cases h
  | sub d _, _ => ⟨d, rfl⟩

/-- A path does not end in a carriage return. -/
theorem getLast?_text : ∀ p : Path, p.text.getLast? ≠ some '\r'
  | root c => by simp [text]
  | sub p n => fun h => by
    rw [text, List.getLast?_append, List.getLast?_cons_of_ne_nil n.2.1,
      List.getLast?_eq_some_getLast n.2.1] at h
    have hm : '\r' ∈ n.1 := Option.some.inj h ▸ List.getLast_mem n.2.1
    exact absurd (List.all_eq_true.mp n.2.2 _ hm) (by decide)

theorem text_ne_nil : ∀ p : Path, p.text ≠ []
  | root _ => by simp [text]
  | sub _ _ => by simp [text]

end Path

/-- The directories and files of a disk. Every entry is in a directory, but for the
roots of the drives. -/
structure Disk where
  dirs : List Path
  files : List Path
  nodup : (dirs ++ files).Nodup
  dirs_in : ∀ p ∈ dirs, ∀ q ∈ p.parent, q ∈ dirs
  files_in : ∀ f ∈ files, ∃ q ∈ dirs, f.parent = some q

/-- What the texts given to `del` and `rd` name: the directory a text is a path of,
and the files it names itself. -/
structure Names where
  dir : Line → Option Path
  file : Line → Path → Bool

variable {N : Names} {t : Line}

/-- `del /q`: the files a text names, and those directly in the directory it names. -/
def Disk.del (N : Names) (d : Disk) (t : Line) : Disk where
  dirs := d.dirs
  files := d.files.filter fun f => !(N.file t f || N.dir t == f.parent)
  nodup := d.nodup.sublist (List.Sublist.append_left List.filter_sublist _)
  dirs_in := d.dirs_in
  files_in f hf := d.files_in f ((List.mem_filter.mp hf).1)

/-- `rd`: the directory a text names, if it is empty and not a root. -/
def Disk.rd (N : Names) (d : Disk) (t : Line) : Disk :=
  match N.dir t with
  | none => d
  | some p =>
    if h : p.parent ≠ none ∧ ∀ q ∈ d.dirs ++ d.files, q.parent ≠ some p then
      { dirs := d.dirs.filter fun q => q != p
        files := d.files
        nodup := d.nodup.sublist (List.Sublist.append_right List.filter_sublist _)
        dirs_in := fun q hq r hr => by
          have hq' := (List.mem_filter.mp hq).1
          refine List.mem_filter.mpr ⟨d.dirs_in q hq' r hr, bne_iff_ne.mpr ?_⟩
          rintro rfl
          exact h.2 q (List.mem_append_left _ hq') hr
        files_in := fun f hf => by
          obtain ⟨q, hq, e⟩ := d.files_in f hf
          refine ⟨q, List.mem_filter.mpr ⟨hq, bne_iff_ne.mpr ?_⟩, e⟩
          rintro rfl
          exact h.2 f (List.mem_append_right _ hf) e }
    else d

/-- `del /q "t" & rd "t"`. -/
def delRd (N : Names) (d : Disk) (t : Line) : Disk := (d.del N t).rd N t

/-- The texts one after the other. -/
def run (N : Names) (d : Disk) (ts : List Line) : Disk := ts.foldl (delRd N) d

namespace Disk

variable {d : Disk}

theorem files_rd : (d.rd N t).files = d.files := by
  unfold rd
  split
  · rfl
  · split <;> rfl

theorem mem_dirs_rd {p : Path} : p ∈ (d.rd N t).dirs ↔ p ∈ d.dirs ∧
    ¬ (N.dir t = some p ∧ p.parent ≠ none ∧ ∀ q ∈ d.dirs ++ d.files, q.parent ≠ some p) := by
  unfold rd
  split
  · rename_i h
    rw [h]
    exact ⟨fun hp => ⟨hp, fun hn => nomatch hn.1⟩, And.left⟩
  · rename_i r h
    rw [h]
    split
    · rename_i he
      rw [List.mem_filter, bne_iff_ne]
      refine and_congr_right fun _ => not_congr ⟨?_, fun hn => (Option.some.inj hn.1).symm⟩
      rintro rfl
      exact ⟨rfl, he⟩
    · rename_i he
      refine ⟨fun hp => ⟨hp, fun hn => he ?_⟩, And.left⟩
      rw [Option.some.inj hn.1]
      exact hn.2

theorem mem_files_del {f : Path} :
    f ∈ (d.del N t).files ↔ f ∈ d.files ∧ N.file t f = false ∧ N.dir t ≠ f.parent := by
  simp only [del, List.mem_filter, Bool.not_eq_true', Bool.or_eq_false_iff, beq_eq_false_iff_ne]

end Disk

variable {d : Disk}

/-- The directories left: all but the one the text names, if it has no directories. -/
theorem mem_dirs_delRd {p : Path} : p ∈ (delRd N d t).dirs ↔ p ∈ d.dirs ∧
    ¬ (N.dir t = some p ∧ p.parent ≠ none ∧ ∀ q ∈ d.dirs, q.parent ≠ some p) := by
  rw [delRd, Disk.mem_dirs_rd]
  refine and_congr_right fun _ => not_congr (and_congr_right fun hp => and_congr_right fun _ => ?_)
  refine ⟨fun h q hq => h q (List.mem_append_left _ hq), fun h q hq => ?_⟩
  rcases List.mem_append.mp hq with hq | hq
  · exact h q hq
  · rw [← hp]
    exact (Disk.mem_files_del.mp hq).2.2.symm

/-- The files left. -/
theorem mem_files_delRd {f : Path} :
    f ∈ (delRd N d t).files ↔ f ∈ d.files ∧ N.file t f = false ∧ N.dir t ≠ f.parent := by
  rw [delRd, Disk.files_rd, Disk.mem_files_del]

theorem dirs_run_subset (ts : List Line) {d : Disk} : (run N d ts).dirs ⊆ d.dirs := by
  induction ts generalizing d with
  | nil => exact fun _ h => h
  | cons t ts ih => exact fun _ h => (mem_dirs_delRd.mp (ih h)).1

theorem files_run_subset (ts : List Line) {d : Disk} : (run N d ts).files ⊆ d.files := by
  induction ts generalizing d with
  | nil => exact fun _ h => h
  | cons t ts ih => exact fun _ h => (mem_files_delRd.mp (ih h)).1

end Espo.Tree
