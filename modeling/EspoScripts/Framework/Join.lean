import Mathlib.Algebra.Ring.Nat
import EspoScripts.Framework.CmdText

/-!
# Joining text files

`type` appends the text of one file to another (`TextFile.appendFile`); `join`
is the text of several files in a row. The lines of the joined text are
those of the files just when every file that has text behind it ends with a
line break (`lines_join_iff`), and those of several copies of the text only
if there is no text (`lines_copies_iff`).
-/

namespace Espo.Cmd.TextFile

@[simp] theorem appendFile_empty (f : TextFile) : f.appendFile empty = f := by
  cases f; simp [appendFile, empty]

@[simp] theorem empty_appendFile : ∀ f : TextFile, empty.appendFile f = f
  | ⟨[], _⟩ => rfl
  | ⟨_ :: _, _⟩ => rfl

theorem appendFile_assoc : ∀ f g h : TextFile, (f.appendFile g).appendFile h = f.appendFile (g.appendFile h)
  | f, ⟨[], r⟩, ⟨[], r'⟩ => by simp [appendFile]
  | f, ⟨[], r⟩, ⟨l :: ls, r'⟩ => by simp [appendFile]
  | f, ⟨k :: ks, r⟩, ⟨[], r'⟩ => by simp [appendFile]
  | f, ⟨k :: ks, r⟩, ⟨l :: ls, r'⟩ => by simp [appendFile]

/-- The text of several files in a row. -/
def join : List TextFile → TextFile
  | [] => empty
  | f :: fs => f.appendFile (join fs)

/-- Files of complete lines joined. -/
theorem join_ofLines : ∀ lss : List (List Line), join (lss.map ofLines) = ofLines lss.flatten
  | [] => rfl
  | ls :: lss => by rw [List.map_cons, join, join_ofLines lss, appendFile_ofLines, List.flatten_cons]

/-! ## Lines -/

theorem lines_mk (full : List Line) (r : Line) : lines ⟨full, r⟩ = full ++ if r = [] then [] else [r] := by
  unfold lines
  split <;> simp

/-- After a line break, or before nothing, a text adds its own lines. -/
theorem lines_appendFile : ∀ {f g : TextFile}, f.rest = [] ∨ g = empty →
    (f.appendFile g).lines = f.lines ++ g.lines
  | f, g, .inr h => by subst h; simp
  | ⟨full, _⟩, ⟨[], r⟩, .inl h => by
    subst h
    simp only [appendFile, List.nil_append, lines_mk, if_true, List.append_nil]
  | ⟨full, _⟩, ⟨l :: ls, r⟩, .inl h => by
    subst h
    simp only [appendFile, List.nil_append, lines_mk, if_true, List.append_nil, List.append_assoc,
      List.cons_append]

/-- Otherwise two lines become one. -/
theorem length_lines_appendFile : ∀ {f g : TextFile}, ¬ (f.rest = [] ∨ g = empty) →
    (f.appendFile g).lines.length + 1 = f.lines.length + g.lines.length
  | ⟨full, r⟩, ⟨[], r'⟩, h => by
    have hr : r ≠ [] := fun e => h (.inl e)
    have hr' : r' ≠ [] := fun e => h (.inr (by subst e; rfl))
    simp [appendFile, lines_mk, hr, hr']
  | ⟨full, r⟩, ⟨l :: ls, r'⟩, h => by
    have hr : r ≠ [] := fun e => h (.inl e)
    simp only [appendFile, lines_mk, if_neg hr, List.length_append, List.length_cons, List.length_nil]
    omega

theorem appendFile_eq_empty : ∀ {f g : TextFile}, f.appendFile g = empty ↔ f = empty ∧ g = empty
  | ⟨full, r⟩, ⟨[], r'⟩ => by simp [appendFile, empty, and_assoc]
  | ⟨full, r⟩, ⟨l :: ls, r'⟩ => by simp [appendFile, empty]

theorem join_eq_empty : ∀ {fs : List TextFile}, join fs = empty ↔ ∀ f ∈ fs, f = empty
  | [] => by simp [join]
  | f :: fs => by rw [join, appendFile_eq_empty, join_eq_empty, List.forall_mem_cons]

/-- Every file that has text behind it ends with a line break. -/
def Joined (fs : List TextFile) : Prop := fs.Pairwise fun f g => f.rest = [] ∨ g = empty

theorem joined_cons {f : TextFile} {fs : List TextFile} :
    Joined (f :: fs) ↔ (f.rest = [] ∨ join fs = empty) ∧ Joined fs := by
  rw [Joined, List.pairwise_cons, join_eq_empty]
  refine and_congr ⟨fun h => ?_, fun h g hg => h.imp_right fun hi => hi g hg⟩ Iff.rfl
  by_cases hf : f.rest = []
  · exact .inl hf
  · exact .inr fun g hg => (h g hg).resolve_left hf

theorem length_lines_join_le : ∀ fs : List TextFile, (join fs).lines.length ≤ (fs.flatMap lines).length
  | [] => Nat.le_refl _
  | f :: fs => by
    have ih := length_lines_join_le fs
    rw [List.flatMap_cons, List.length_append, join]
    by_cases h : f.rest = [] ∨ join fs = empty
    · rw [lines_appendFile h, List.length_append]
      omega
    · have := length_lines_appendFile h
      omega

/-- The lines of the joined text are those of the files just when no line is continued. -/
theorem lines_join_iff : ∀ {fs : List TextFile}, (join fs).lines = fs.flatMap lines ↔ Joined fs
  | [] => iff_of_true rfl .nil
  | f :: fs => by
    have ih : (join fs).lines = fs.flatMap lines ↔ Joined fs := lines_join_iff
    rw [joined_cons, ← ih, List.flatMap_cons, join]
    by_cases h : f.rest = [] ∨ join fs = empty
    · rw [lines_appendFile h, List.append_cancel_left_eq]
      exact (and_iff_right h).symm
    · refine iff_of_false (fun e => ?_) (fun hi => h hi.1)
      have hl := length_lines_appendFile h
      have hs := length_lines_join_le fs
      rw [e, List.length_append] at hl
      omega

/-! ## Copies -/

/-- The characters of a file besides its line breaks. -/
def chars (f : TextFile) : Nat := (f.full.map List.length).sum + f.rest.length

theorem chars_appendFile : ∀ f g : TextFile, (f.appendFile g).chars = f.chars + g.chars
  | ⟨full, r⟩, ⟨[], r'⟩ => by
    simp only [appendFile, chars, List.length_append, List.map_nil, List.sum_nil]
    omega
  | ⟨full, r⟩, ⟨l :: ls, r'⟩ => by
    simp only [appendFile, chars, List.map_append, List.map_cons, List.sum_append, List.sum_cons,
      List.length_append]
    omega

theorem length_full_appendFile : ∀ f g : TextFile, (f.appendFile g).full.length = f.full.length + g.full.length
  | _, ⟨[], _⟩ => rfl
  | _, ⟨_ :: _, _⟩ => by simp [appendFile]

theorem chars_lines : ∀ f : TextFile, (f.lines.map List.length).sum = f.chars
  | ⟨full, r⟩ => by
    rw [lines_mk, List.map_append, List.sum_append, chars]
    split <;> simp_all

theorem chars_flatMap_lines : ∀ fs : List TextFile, ((fs.flatMap lines).map List.length).sum = (join fs).chars
  | [] => rfl
  | f :: fs => by
    rw [List.flatMap_cons, List.map_append, List.sum_append, chars_lines, chars_flatMap_lines fs, join,
      chars_appendFile]

/-- Without characters a file is line breaks only. -/
theorem lines_of_chars_zero {f : TextFile} (h : f.chars = 0) : f.lines.length = f.full.length := by
  have hr : f.rest = [] := List.eq_nil_of_length_eq_zero (by rw [chars] at h; omega)
  rw [lines_of_rest_nil hr]

theorem length_flatMap_of_chars_zero : ∀ {fs : List TextFile}, (join fs).chars = 0 →
    (fs.flatMap lines).length = (join fs).full.length
  | [], _ => rfl
  | f :: fs, h => by
    rw [join, chars_appendFile] at h
    rw [List.flatMap_cons, List.length_append, lines_of_chars_zero (by omega),
      length_flatMap_of_chars_zero (by omega), join, length_full_appendFile]

theorem eq_empty {f : TextFile} (hc : f.chars = 0) (hl : f.full.length = 0) : f = empty := by
  obtain ⟨full, r⟩ := f
  obtain rfl : r = [] := List.eq_nil_of_length_eq_zero (by simp only [chars] at hc; omega)
  obtain rfl : full = [] := List.eq_nil_of_length_eq_zero hl
  rfl

theorem chars_copies (t : TextFile) : ∀ k, (join (List.replicate k t)).chars = k * t.chars ∧
    (join (List.replicate k t)).full.length = k * t.full.length
  | 0 => by simp [join, empty, chars]
  | k + 1 => by
    obtain ⟨hc, hl⟩ := chars_copies t k
    rw [List.replicate_succ, join, chars_appendFile, length_full_appendFile, hc, hl, Nat.succ_mul, Nat.succ_mul]
    omega

/-- Several copies of the text have the lines of the files only if there is no text. -/
theorem lines_copies_iff {k : Nat} (hk : 2 ≤ k) {fs : List TextFile} :
    (join (List.replicate k (join fs))).lines = fs.flatMap lines ↔ join fs = empty := by
  obtain ⟨hc, hl⟩ := chars_copies (join fs) k
  constructor
  · intro e
    have e₁ : k * (join fs).chars = (join fs).chars := by
      rw [← hc, ← chars_lines, e, chars_flatMap_lines]
    have h₁ : (join fs).chars = 0 := by
      rcases Nat.eq_zero_or_pos (join fs).chars with h | h
      · exact h
      · have := Nat.mul_le_mul_right (join fs).chars hk
        omega
    have e₂ : k * (join fs).full.length = (join fs).full.length := by
      rw [← hl, ← lines_of_chars_zero (by rw [hc, h₁, Nat.mul_zero]), e, length_flatMap_of_chars_zero h₁]
    have h₂ : (join fs).full.length = 0 := by
      rcases Nat.eq_zero_or_pos (join fs).full.length with h | h
      · exact h
      · have := Nat.mul_le_mul_right (join fs).full.length hk
        omega
    exact eq_empty h₁ h₂
  · intro e
    have he : join (List.replicate k empty) = empty := join_eq_empty.mpr fun f hf => List.eq_of_mem_replicate hf
    have hf : fs.flatMap lines = [] := List.flatMap_eq_nil_iff.mpr fun f hf => by
      rw [join_eq_empty.mp e f hf, lines_empty]
    rw [e, he, hf, lines_empty]

end Espo.Cmd.TextFile
