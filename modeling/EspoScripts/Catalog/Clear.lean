import Mathlib.Tactic.ByContra
import EspoScripts.Framework.Tree

/-!
# Clearing a directory

What a list of texts given to `del` and `rd` in turn leaves of the directory
`c` and of the disk around it, read off the texts: which directories they
remove (`Cleared`), which files of `c` they delete (`Named`), and what makes a
text harmless to `c` and to everything outside it where its turn comes
(`Harmless`).

A harmless text keeps `Inv` (`inv_delRd`), any other removes something for
good (`harmless_of_kept`); so a run leaves `c` empty and the rest as it was
just when all of its texts are harmless and between them they name everything
(`emptied_run_iff`).
-/

namespace Espo.Tree

open Espo.Cmd

variable (N : Names) (D : Disk) (c : Path)

/-- The texts `done`, the last one first, have removed the directory `p`: one that
names it came when its directories were gone. -/
def Cleared : List Line → Path → Prop
  | [], _ => False
  | t :: done, p => Cleared done p ∨ N.dir t = some p ∧ ∀ q ∈ D.dirs, q.parent = some p → Cleared done q

/-- A text names the file, or the directory it is in. -/
def Named (ts : List Line) (f : Path) : Prop := ∃ t ∈ ts, N.file t f = true ∨ N.dir t = f.parent

/-- After the texts `done`, the text `t` removes nothing but what is below `c`: it names
no file outside; a directory outside that it names has no files, and is a root or
has directories; and if it names `c`, then `c` is a root or still has a directory. -/
structure Harmless (done : List Line) (t : Line) : Prop where
  file : ∀ f ∈ D.files, ¬ c.holds f → ¬ N.file t f
  dir : ∀ p ∈ D.dirs, p ≠ c → ¬ c.holds p → N.dir t = some p →
    (∀ f ∈ D.files, f.parent ≠ some p) ∧ (p.parent = none ∨ ∃ q ∈ D.dirs, q.parent = some p)
  cat : N.dir t = some c → c.parent = none ∨ ∃ q ∈ D.dirs, q.parent = some c ∧ ¬ Cleared N D done q

/-- Each of the texts is harmless when it comes. -/
def Safe : List Line → List Line → Prop
  | _, [] => True
  | done, t :: ts => Harmless N D c done t ∧ Safe (t :: done) ts

/-- The directory `c` and everything outside it is still there. -/
structure Kept (d : Disk) : Prop where
  dirs : ∀ p ∈ D.dirs, ¬ c.holds p → p ∈ d.dirs
  files : ∀ f ∈ D.files, ¬ c.holds f → f ∈ d.files

/-- `Kept`, and nothing is left below `c`. -/
structure Emptied (d : Disk) : Prop extends Kept D c d where
  empty : ∀ p ∈ d.dirs ++ d.files, ¬ c.holds p

/-- The disk after the texts `done`, if they were harmless. -/
structure Inv (done : List Line) (d : Disk) : Prop where
  dirs : ∀ p, p ∈ d.dirs ↔ p ∈ D.dirs ∧ ¬ (c.holds p ∧ Cleared N D done p)
  files_sub : d.files ⊆ D.files
  files : ∀ f ∈ D.files, ¬ c.holds f → f ∈ d.files
  own : ∀ f ∈ D.files, f.parent = some c → (f ∈ d.files ↔ ¬ Named N done f)

variable {N D c} {done : List Line} {t : Line} {d : Disk}

/-- Safe: harmless each after the texts before it. -/
theorem safe_iff : ∀ {ts done : List Line}, Safe N D c done ts ↔
    ∀ pre t post, ts = pre ++ t :: post → Harmless N D c (pre.reverse ++ done) t
  | [], done => iff_of_true trivial fun pre t post e => by simp at e
  | s :: ts, done => by
    rw [Safe, safe_iff]
    constructor
    · rintro ⟨hs, hts⟩ pre t post e
      cases pre with
      | nil =>
        obtain ⟨rfl, rfl⟩ := List.cons.inj e
        exact hs
      | cons u pre =>
        obtain ⟨rfl, rfl⟩ := List.cons.inj e
        rw [List.reverse_cons, List.append_assoc]
        exact hts pre t post rfl
    · refine fun h => ⟨h [] s ts rfl, fun pre t post e => ?_⟩
      have := h (s :: pre) t post (by rw [e, List.cons_append])
      rwa [List.reverse_cons, List.append_assoc] at this

theorem Cleared.append {p : Path} (h : Cleared N D done p) (ts : List Line) : Cleared N D (ts ++ done) p := by
  induction ts with
  | nil => exact h
  | cons t ts ih => exact .inl ih

theorem inv_nil : Inv N D c [] D where
  dirs p := ⟨fun h => ⟨h, fun hc => hc.2⟩, And.left⟩
  files_sub _ h := h
  files _ h _ := h
  own f h _ := by
    refine ⟨fun _ hn => ?_, fun _ => h⟩
    obtain ⟨t, ht, -⟩ := hn
    cases ht

/-- An entry of a directory outside is outside. -/
theorem not_holds_of_parent {p q : Path} (hp : p ≠ c) (hb : ¬ c.holds p) (h : q.parent = some p) :
    ¬ c.holds q := fun hq => ((Path.holds_iff h).mp hq).elim hp hb

theorem Inv.kept (h : Inv N D c done d) : Kept D c d where
  dirs p hp hb := (h.dirs p).mpr ⟨hp, fun hc => hb hc.1⟩
  files := h.files

/-- A directory below `c` is removed by the text that names it just when the texts before
have cleared its directories. -/
theorem Inv.no_dirs (h : Inv N D c done d) {p : Path} (hb : c.holds p = true ∨ p = c) :
    (∀ q ∈ d.dirs, q.parent ≠ some p) ↔ ∀ q ∈ D.dirs, q.parent = some p → Cleared N D done q := by
  constructor
  · intro hn q hq e
    by_contra hc
    exact hn q ((h.dirs q).mpr ⟨hq, fun hh => hc hh.2⟩) e
  · intro hc q hq e
    obtain ⟨hD, hn⟩ := (h.dirs q).mp hq
    exact hn ⟨(Path.holds_iff e).mpr hb.symm, hc q hD e⟩

theorem named_cons {f : Path} :
    Named N (t :: done) f ↔ (N.file t f = true ∨ N.dir t = f.parent) ∨ Named N done f := by
  simp only [Named, List.mem_cons, exists_eq_or_imp]

/-- A harmless text keeps the invariant. -/
theorem inv_delRd (h : Inv N D c done d) (ht : Harmless N D c done t) :
    Inv N D c (t :: done) (delRd N d t) where
  dirs p := by
    rw [mem_dirs_delRd, h.dirs p, and_assoc]
    refine and_congr_right fun hp => ?_
    by_cases hb : c.holds p = true
    · obtain ⟨q, hq⟩ := Path.parent_of_holds hb
      have hr : p.parent ≠ none := by rw [hq]; exact Option.some_ne_none q
      rw [h.no_dirs (.inl hb), Cleared, ← not_or]
      simp only [hb, true_and, ne_eq, hr, not_false_eq_true]
    · have hn : ¬ (N.dir t = some p ∧ p.parent ≠ none ∧ ∀ q ∈ d.dirs, q.parent ≠ some p) := by
        rintro ⟨e, hr, hq⟩
        by_cases hc : p = c
        · subst hc
          obtain ⟨q, hqD, he, hnc⟩ := (ht.cat e).resolve_left hr
          exact hnc ((h.no_dirs (.inr rfl)).mp hq q hqD he)
        · obtain ⟨q, hqD, he⟩ := (ht.dir p hp hc hb e).2.resolve_left hr
          exact hq q (h.kept.dirs q hqD (not_holds_of_parent hc hb he)) he
      simp only [hb, false_and, not_false_eq_true, true_and, hn, Bool.false_eq_true]
  files_sub f hf := h.files_sub (mem_files_delRd.mp hf).1
  files f hf hb := by
    refine mem_files_delRd.mpr ⟨h.files f hf hb, Bool.eq_false_iff.mpr (ht.file f hf hb), fun e => ?_⟩
    obtain ⟨p, hp, hpar⟩ := D.files_in f hf
    have hc : p ≠ c := fun hc => hb ((Path.holds_iff hpar).mpr (.inl hc))
    have hpb : ¬ c.holds p := fun hpb => hb ((Path.holds_iff hpar).mpr (.inr hpb))
    exact (ht.dir p hp hc hpb (e.trans hpar)).1 f hf hpar
  own f hf hpar := by
    rw [mem_files_delRd, h.own f hf hpar, named_cons, not_or, not_or, Bool.not_eq_true, and_comm]

theorem kept_of_subset {d' : Disk} (hd : d'.dirs ⊆ d.dirs) (hf : d'.files ⊆ d.files) (h : Kept D c d') :
    Kept D c d where
  dirs p hp hb := hd (h.dirs p hp hb)
  files f hf' hb := hf (h.files f hf' hb)

/-- A text after which everything outside is there was harmless. -/
theorem harmless_of_kept (hc : c ∈ D.dirs) (h : Inv N D c done d)
    (hk : Kept D c (delRd N d t)) : Harmless N D c done t where
  file f hf hb hn := by
    have := (mem_files_delRd.mp (hk.files f hf hb)).2.1
    rw [hn] at this
    cases this
  dir p hp hne hb e := by
    constructor
    · intro f hf hpar
      have := (mem_files_delRd.mp (hk.files f hf (not_holds_of_parent hne hb hpar))).2.2
      exact this (e.trans hpar.symm)
    · by_contra hn
      rw [not_or] at hn
      refine (mem_dirs_delRd.mp (hk.dirs p hp hb)).2 ⟨e, hn.1, fun q hq hpar => hn.2 ?_⟩
      exact ⟨q, ((h.dirs q).mp hq).1, hpar⟩
  cat e := by
    by_contra hn
    rw [not_or] at hn
    refine (mem_dirs_delRd.mp (hk.dirs c hc (Path.not_holds_self c))).2 ⟨e, hn.1, (h.no_dirs (.inr rfl)).mpr ?_⟩
    intro q hq hpar
    by_contra hcl
    exact hn.2 ⟨q, hq, hpar, hcl⟩

/-- A run keeps what is outside just when its texts are harmless, and then ends in the
invariant: by induction on the texts. -/
theorem kept_run_iff (hc : c ∈ D.dirs) : ∀ (ts : List Line) {done : List Line}
    {d : Disk}, Inv N D c done d → (Kept D c (run N d ts) ↔ Safe N D c done ts) ∧
      (Safe N D c done ts → Inv N D c (ts.reverse ++ done) (run N d ts))
  | [], _, _, h => ⟨iff_of_true h.kept trivial, fun _ => h⟩
  | t :: ts, done, d, h => by
    have hstep : run N d (t :: ts) = run N (delRd N d t) ts := rfl
    rw [hstep, List.reverse_cons, List.append_assoc, List.singleton_append, Safe]
    refine ⟨⟨fun hk => ?_, fun hs => ?_⟩, fun hs => (kept_run_iff hc ts (inv_delRd h hs.1)).2 hs.2⟩
    · have ht := harmless_of_kept hc h (kept_of_subset (dirs_run_subset ts) (files_run_subset ts) hk)
      exact ⟨ht, (kept_run_iff hc ts (inv_delRd h ht)).1.mp hk⟩
    · exact (kept_run_iff hc ts (inv_delRd h hs.1)).1.mpr hs.2

/-- Below `c` nothing is left when its directories are cleared and its own files are named:
a file deeper down would be in a directory that is left. -/
theorem Inv.empty_iff (h : Inv N D c done d) : (∀ p ∈ d.dirs ++ d.files, ¬ c.holds p) ↔
    (∀ p ∈ D.dirs, c.holds p → Cleared N D done p) ∧ ∀ f ∈ D.files, f.parent = some c → Named N done f := by
  constructor
  · refine fun he => ⟨fun p hp hb => ?_, fun f hf hpar => ?_⟩
    · by_contra hn
      exact he p (List.mem_append_left _ ((h.dirs p).mpr ⟨hp, fun hc => hn hc.2⟩)) hb
    · by_contra hn
      exact he f (List.mem_append_right _ ((h.own f hf hpar).mpr hn)) (Path.holds_of_parent hpar)
  · rintro ⟨hd, hf⟩
    have hdir : ∀ p ∈ d.dirs, ¬ c.holds p := fun p hp hb => by
      obtain ⟨hD, hn⟩ := (h.dirs p).mp hp
      exact hn ⟨hb, hd p hD hb⟩
    intro p hp hb
    rcases List.mem_append.mp hp with hp | hp
    · exact hdir p hp hb
    · obtain ⟨q, hq, hpar⟩ := d.files_in p hp
      rcases (Path.holds_iff hpar).mp hb with rfl | hqb
      · have hpD := h.files_sub hp
        exact (h.own p hpD hpar).mp hp (hf p hpD hpar)
      · exact hdir q hq hqb

theorem emptied_run_iff (hc : c ∈ D.dirs) (ts : List Line) : Emptied D c (run N D ts) ↔
    Safe N D c [] ts ∧ (∀ p ∈ D.dirs, c.holds p → Cleared N D ts.reverse p) ∧
      ∀ f ∈ D.files, f.parent = some c → Named N ts.reverse f := by
  obtain ⟨hk, hi⟩ := kept_run_iff hc ts (inv_nil (N := N))
  rw [List.append_nil] at hi
  constructor
  · intro he
    have hs := hk.mp he.toKept
    exact ⟨hs, (hi hs).empty_iff.mp he.empty⟩
  · rintro ⟨hs, hrest⟩
    exact ⟨hk.mpr hs, (hi hs).empty_iff.mpr hrest⟩

end Espo.Tree
