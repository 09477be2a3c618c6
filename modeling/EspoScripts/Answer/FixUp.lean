import EspoScripts.Framework.Folder
import EspoScripts.Framework.Replace

/-!
# Answer-file-fix.bat

The script makes ten folders of answer files from one set of templates:
folder `k` is to name `ImageServer<k>` where a template names `ImageServer01`.
It rewrites the templates in place from one server to the next with fart.exe
and copies them into the next folder after each pass (`script`).

`chain_eq`: the passes up to server `k` are one replacement of all the servers'
names before it, by induction on the passes (`replaceAll_replaceAny`). So
folder `k` holds the templates retargeted to server `k` (`sub_run`), and what
that is character by character is `retargeted`.
-/

namespace Espo.Answer

abbrev Name := List Char
abbrev Text := List Char

/-- A number of two digits. -/
def digits2 (k : Nat) : Text := [Nat.digitChar (k / 10), Nat.digitChar (k % 10)]

/-- The name of server `k`. -/
def imageServer (k : Nat) : Text := "ImageServer".toList ++ digits2 k

/-- The commands of the script. -/
inductive Command where
  /-- `DEL /F /Q /S folder\*.*` -/
  | del (folder : Name)
  /-- `copy *.xml folder` -/
  | copy (folder : Name)
  /-- `fart.exe --c-style *.xml find replace` -/
  | fart (find replace : Text)
  /-- `del *.xml` -/
  | delXml

/-- The working directory: the templates, and the folders by name. -/
structure State where
  xml : Folder Name Text
  sub : Name → Folder Name Text

/-- A command. -/
def exec (s : State) : Command → State
  | .del folder => { s with sub := fun n => if n = folder then .empty else s.sub n }
  | .copy folder => { s with sub := fun n => if n = folder then .copy s.xml (s.sub n) else s.sub n }
  | .fart find replace => { s with xml := s.xml.mapFiles (replaceAll find replace) }
  | .delXml => { s with xml := .empty }

/-- Answer-file-fix.bat. -/
def script : List Command :=
  [.del "01".toList, .del "02".toList, .del "03".toList, .del "04".toList, .del "05".toList,
   .del "06".toList, .del "07".toList, .del "08".toList, .del "09".toList, .del "10".toList,
   .copy "01".toList,
   .fart "ImageServer01".toList "ImageServer02".toList, .copy "02".toList,
   .fart "ImageServer02".toList "ImageServer03".toList, .copy "03".toList,
   .fart "ImageServer03".toList "ImageServer04".toList, .copy "04".toList,
   .fart "ImageServer04".toList "ImageServer05".toList, .copy "05".toList,
   .fart "ImageServer05".toList "ImageServer06".toList, .copy "06".toList,
   .fart "ImageServer06".toList "ImageServer07".toList, .copy "07".toList,
   .fart "ImageServer07".toList "ImageServer08".toList, .copy "08".toList,
   .fart "ImageServer08".toList "ImageServer09".toList, .copy "09".toList,
   .fart "ImageServer09".toList "ImageServer10".toList, .copy "10".toList,
   .delXml]

/-- The working directory after the script. -/
def run (s : State) : State := script.foldl exec s

/-! ## Retargeting -/

/-- The names of the servers up to `k`. -/
def namesUpTo : Nat → List Text
  | 0 => []
  | k + 1 => imageServer (k + 1) :: namesUpTo k

/-- A text with every name of a server up to `k` replaced by that of server `k`. -/
def retarget (k : Nat) (t : Text) : Text := replaceAny (namesUpTo k) 13 (imageServer k) t

/-- A template after the passes up to server `k + 1`. -/
def chain : Nat → Text → Text
  | 0, t => t
  | k + 1, t => replaceAll (imageServer (k + 1)) (imageServer (k + 2)) (chain k t)

theorem mem_namesUpTo {p : Text} : ∀ {k : Nat}, p ∈ namesUpTo k ↔ ∃ j, 1 ≤ j ∧ j ≤ k ∧ p = imageServer j
  | 0 => by simp only [namesUpTo, List.not_mem_nil, false_iff]; rintro ⟨j, h₁, h₂, -⟩; omega
  | k + 1 => by
    simp only [namesUpTo, List.mem_cons, mem_namesUpTo (k := k)]
    constructor
    · rintro (rfl | ⟨j, h₁, h₂, rfl⟩)
      · exact ⟨k + 1, by omega, by omega, rfl⟩
      · exact ⟨j, h₁, by omega, rfl⟩
    · rintro ⟨j, h₁, h₂, rfl⟩
      rcases Nat.lt_or_ge j (k + 1) with h | h
      · exact .inr ⟨j, h₁, by omega, rfl⟩
      · exact .inl (by rw [show j = k + 1 by omega])

theorem digitChar_ne : ∀ n < 10, Nat.digitChar n ≠ 'I' := by decide

/-- A server's name begins with the only `I` it has. -/
theorem marked_imageServer {k : Nat} (hk : k < 100) : Marked 'I' 13 (imageServer k) := by
  refine ⟨"mageServer".toList ++ digits2 k, rfl, fun h => ?_, rfl⟩
  simp only [digits2, List.mem_append, List.mem_cons, List.not_mem_nil, or_false] at h
  rcases h with h | h | h
  · revert h; decide
  · exact digitChar_ne _ (by omega) h.symm
  · exact digitChar_ne _ (by omega) h.symm

theorem marked_namesUpTo {k : Nat} (hk : k < 100) : ∀ p ∈ namesUpTo k, Marked 'I' 13 p := fun p hp => by
  obtain ⟨j, -, hj, rfl⟩ := mem_namesUpTo.mp hp
  exact marked_imageServer (by omega)

/-- The passes up to server `k + 1` replace the names of the servers before it. -/
theorem chain_eq : ∀ {k : Nat}, k < 99 → ∀ t : Text,
    chain k t = replaceAny (namesUpTo k) 13 (imageServer (k + 1)) t
  | 0, _, t => (replaceAny_no_pats _ _ t).symm
  | k + 1, hk, t => by
    rw [chain, chain_eq (by omega), namesUpTo]
    exact replaceAll_replaceAny (marked_namesUpTo (by omega)) (marked_imageServer (by omega)) t

/-- The passes up to server `k` retarget a template to it. -/
theorem chain_eq_retarget {k : Nat} (hk : k < 99) (t : Text) : chain k t = retarget (k + 1) t := by
  have hr : replaceAll (imageServer (k + 1)) (imageServer (k + 1))
      (replaceAny (namesUpTo k) 13 (imageServer (k + 1)) t) = retarget (k + 1) t :=
    replaceAll_replaceAny (marked_namesUpTo (by omega)) (marked_imageServer (by omega)) t
  rw [chain_eq hk, ← hr]
  exact (replaceAll_self (List.cons_ne_nil _ _) _).symm

/-! ## The script -/

/-- A pass to the next server, and the copy behind it. -/
def pass (k : Nat) : List Command := [.fart (imageServer k) (imageServer (k + 1)), .copy (digits2 (k + 1))]

/-- The passes up to server `k + 1`, from the first copy on. -/
def passes : Nat → List Command
  | 0 => [.copy (digits2 1)]
  | k + 1 => passes k ++ pass (k + 1)

theorem script_eq : script = (List.range' 1 10).map (fun k => .del (digits2 k)) ++ passes 9 ++ [.delXml] := rfl

theorem digitChar_inj : ∀ i < 10, ∀ j < 10, Nat.digitChar i = Nat.digitChar j → i = j := by decide

theorem digits2_inj {i j : Nat} (hi : i < 100) (hj : j < 100) (h : digits2 i = digits2 j) : i = j := by
  simp only [digits2, List.cons.injEq, and_true] at h
  have h₁ := digitChar_inj _ (by omega) _ (by omega) h.1
  have h₂ := digitChar_inj _ (by omega) _ (by omega) h.2
  omega

theorem xml_del (l : List Nat) (s : State) :
    ((l.map fun k => Command.del (digits2 k)).foldl exec s).xml = s.xml := by
  induction l generalizing s with
  | nil => rfl
  | cons k l ih => exact ih _

/-- The ten folders are emptied first. -/
theorem sub_del (s : State) : ∀ j, 1 ≤ j → j ≤ 10 →
    (((List.range' 1 10).map fun k => Command.del (digits2 k)).foldl exec s).sub (digits2 j) = .empty := by
  intro j h₁ h₁₀
  rcases (by omega : j = 1 ∨ j = 2 ∨ j = 3 ∨ j = 4 ∨ j = 5 ∨ j = 6 ∨ j = 7 ∨ j = 8 ∨ j = 9 ∨ j = 10) with
    rfl | rfl | rfl | rfl | rfl | rfl | rfl | rfl | rfl | rfl <;> rfl

/-- After the passes up to server `k + 1`: the templates are `chain k`, each folder
up to it holds its own, and the later ones are still empty. -/
theorem passes_ok {s : State} (hs : ∀ j, 1 ≤ j → j ≤ 10 → s.sub (digits2 j) = .empty) : ∀ {k : Nat}, k ≤ 9 →
    ((passes k).foldl exec s).xml = s.xml.mapFiles (chain k) ∧
    (∀ j ≤ k, ((passes k).foldl exec s).sub (digits2 (j + 1)) = s.xml.mapFiles (chain j)) ∧
    ∀ j, k + 1 < j → j ≤ 10 → ((passes k).foldl exec s).sub (digits2 j) = .empty
  | 0, _ => by
    have hx : s.xml.mapFiles (chain 0) = s.xml := s.xml.mapFiles_id
    refine ⟨hx.symm, fun j hj => ?_, fun j hj h₁₀ => ?_⟩
    · obtain rfl : j = 0 := by omega
      simp only [passes, List.foldl_cons, List.foldl_nil, exec, if_true]
      rw [hs 1 (by omega) (by omega), Folder.copy_empty, hx]
    · have hne : digits2 j ≠ digits2 1 := fun h => by have := digits2_inj (by omega) (by omega) h; omega
      simp only [passes, List.foldl_cons, List.foldl_nil, exec, if_neg hne]
      exact hs j (by omega) h₁₀
  | k + 1, hk => by
    obtain ⟨hx, hd, he⟩ := passes_ok hs (k := k) (by omega)
    have hx' : ((passes k).foldl exec s).xml.mapFiles
        (replaceAll (imageServer (k + 1)) (imageServer (k + 2))) = s.xml.mapFiles (chain (k + 1)) := by
      rw [hx, Folder.mapFiles_mapFiles]; rfl
    simp only [passes, pass, List.foldl_append, List.foldl_cons, List.foldl_nil, exec]
    refine ⟨hx', fun j hj => ?_, fun j hj h₁₀ => ?_⟩
    · by_cases hjk : j = k + 1
      · subst hjk
        rw [if_pos rfl, hx', he (k + 1 + 1) (by omega) (by omega), Folder.copy_empty]
      · have hne : digits2 (j + 1) ≠ digits2 (k + 1 + 1) := fun h => by
          have := digits2_inj (by omega) (by omega) h; omega
        rw [if_neg hne, hd j (by omega)]
    · have hne : digits2 j ≠ digits2 (k + 1 + 1) := fun h => by
        have := digits2_inj (by omega) (by omega) h; omega
      rw [if_neg hne, he j (by omega) h₁₀]

/-- Folder `k` holds the templates, each retargeted to server `k`, and nothing else. -/
theorem sub_run (s : State) {k : Nat} (h₁ : 1 ≤ k) (h₁₀ : k ≤ 10) :
    (run s).sub (digits2 k) = s.xml.mapFiles (retarget k) := by
  obtain ⟨j, rfl⟩ : ∃ j, k = j + 1 := ⟨k - 1, by omega⟩
  have hp := (passes_ok (sub_del s) (k := 9) (by omega)).2.1 j (by omega)
  rw [xml_del] at hp
  rw [run, script_eq, List.foldl_append, List.foldl_append]
  apply hp.trans
  rw [show chain j = retarget (j + 1) from funext fun t => chain_eq_retarget (by omega) t]

/-- `u` is `t` with every name of a server up to `k` replaced by that of server `k`
and every other character as it was. -/
structure Retargeted (k : Nat) (t u : Text) : Prop where
  length : u.length = t.length
  names : ∀ i j, 1 ≤ j → j ≤ k → imageServer j <+: t.drop i → imageServer k <+: u.drop i
  others : ∀ i, (∀ j, 1 ≤ j → j ≤ k → ∀ n, imageServer j <+: t.drop n → ¬ (n ≤ i ∧ i < n + 13)) → u[i]? = t[i]?

theorem retargeted {k : Nat} (hk : k < 100) (t : Text) : Retargeted k t (retarget k t) where
  length := length_replaceAny (marked_namesUpTo hk) rfl t
  names i j h₁ hj h := replaceAny_occ (marked_namesUpTo hk) rfl (mem_namesUpTo.mpr ⟨j, h₁, hj, rfl⟩) t h
  others i h := replaceAny_other (marked_namesUpTo hk) rfl t fun p hp n ho => by
    obtain ⟨j, h₁, hj, rfl⟩ := mem_namesUpTo.mp hp
    exact h j h₁ hj n ho

theorem imageServer_inj {i j : Nat} (hi : i < 100) (hj : j < 100) (h : imageServer i = imageServer j) : i = j :=
  digits2_inj hi hj (List.append_cancel_left h)

/-- A retargeted text names no server before `k`. -/
theorem retarget_names {k j : Nat} (hk : k < 100) (h₁ : 1 ≤ j) (hj : j < k) (t : Text) :
    ¬ imageServer j <:+: retarget k t := by
  rintro ⟨a, b, h⟩
  have ho : imageServer j <+: (retarget k t).drop a.length := by
    rw [← h, List.append_assoc, List.drop_left]
    exact List.prefix_append _ b
  have hm : Marked 'I' 13 (imageServer j) := marked_imageServer (by omega)
  rcases occ_of_replaceAny (marked_namesUpTo hk) (marked_imageServer hk) hm t ho with he | ⟨-, hn⟩
  · have := imageServer_inj (by omega) hk he
    omega
  · exact hn (mem_namesUpTo.mpr ⟨j, h₁, by omega, rfl⟩)

/-- A template that names no server from 2 to `k` has the name of server 1 replaced. -/
theorem retarget_of_one {k : Nat} (h₁ : 1 ≤ k) {t : Text}
    (ht : ∀ j, 2 ≤ j → j ≤ k → ¬ imageServer j <:+: t) :
    retarget k t = replaceAll (imageServer 1) (imageServer k) t := by
  refine replaceAny_congr t 0 fun i => ⟨?_, ?_⟩
  · rintro ⟨p, hp, ho⟩
    obtain ⟨j, hj₁, hj, rfl⟩ := mem_namesUpTo.mp hp
    by_cases h2 : 2 ≤ j
    · exact absurd (ho.isInfix.trans (List.drop_suffix i t).isInfix) (ht j h2 hj)
    · obtain rfl : j = 1 := by omega
      exact ⟨_, List.mem_singleton_self _, ho⟩
  · rintro ⟨p, hp, ho⟩
    rw [List.mem_singleton.mp hp] at ho
    exact ⟨_, mem_namesUpTo.mpr ⟨1, Nat.le_refl 1, h₁, rfl⟩, ho⟩

/-- After the script folder `k` holds, under the same names, the templates with every
name of a server up to `k` replaced by that of server `k` and nothing else changed,
and no other file: a name and a text are a file of it just when a template of that
name has that text retargeted. It names no server before `k`, and a template that
names only server 1 has just that name replaced. -/
theorem folders_retargeted (s : State) {k : Nat} (h₁ : 1 ≤ k) (h₁₀ : k ≤ 10) :
    (run s).sub (digits2 k) = s.xml.mapFiles (retarget k) ∧
      (∀ n u, (n, u) ∈ ((run s).sub (digits2 k)).files ↔ ∃ t, (n, t) ∈ s.xml.files ∧ u = retarget k t) ∧
      ∀ t, Retargeted k t (retarget k t) ∧
        (∀ j, 1 ≤ j → j < k → ¬ imageServer j <:+: retarget k t) ∧
        ((∀ j, 2 ≤ j → j ≤ k → ¬ imageServer j <:+: t) →
          retarget k t = replaceAll (imageServer 1) (imageServer k) t) :=
  ⟨sub_run s h₁ h₁₀, fun n u => by rw [sub_run s h₁ h₁₀]; exact Folder.mem_mapFiles, fun t => ⟨retargeted (by omega) t,
    fun _ hj hjk => retarget_names (by omega) hj hjk t, retarget_of_one h₁⟩⟩

/-- The templates of one file that names server 1. -/
def oneTemplate : State :=
  ⟨⟨[("a.xml".toList, "<Domain>ImageServer01</Domain>".toList)], by decide⟩, fun _ => .empty⟩

theorem folders_retargeted_ten : (run oneTemplate).sub "10".toList = oneTemplate.xml.mapFiles (retarget 10) ∧
    ∀ n u, (n, u) ∈ ((run oneTemplate).sub "10".toList).files ↔
      n = "a.xml".toList ∧ u = "<Domain>ImageServer10</Domain>".toList := by
  have h := folders_retargeted oneTemplate (k := 10) (by decide) (by decide)
  have hr : retarget 10 "<Domain>ImageServer01</Domain>".toList = "<Domain>ImageServer10</Domain>".toList := by
    decide
  refine ⟨h.1, fun n u => (h.2.1 n u).trans ?_⟩
  constructor
  · rintro ⟨t, ht, rfl⟩
    obtain ⟨rfl, rfl⟩ := Prod.mk.inj (List.mem_singleton.mp ht)
    exact ⟨rfl, hr⟩
  · rintro ⟨rfl, rfl⟩
    exact ⟨_, List.mem_singleton_self _, hr.symm⟩

example : ((run oneTemplate).sub "10".toList).files =
    [("a.xml".toList, "<Domain>ImageServer10</Domain>".toList)] := by decide

end Espo.Answer
