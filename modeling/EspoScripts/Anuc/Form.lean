import EspoScripts.Framework.CmdText
import EspoScripts.Framework.Run

/-!
# The form of ANUC.ps1

The boxes of the form that creates Active Directory users, and its handlers:
another domain selected fills the list of paths and the generated names again,
another first or last name the generated names; selecting a row of the csv list
fills the boxes from it (`selectedIndexChanged`). The lists are editable: a text
typed into one selects no item and runs no handler (`typeText`).

`change_box` says what a box holds after a change, and `listed_change` that a
domain selected is shown, with its paths offered. `box_selected` then says what
the boxes hold after a row is selected.
-/

namespace Espo.Anuc

open Espo.Cmd

/-- The columns of the csv list besides `ID`, and the boxes of the form. -/
inductive Header where
  | domain | path | firstName | lastName | office | title | description | department | company | phone
  | streetAddress | city | state | postalCode | password | sAMAccountName | userPrincipalName | displayName
deriving DecidableEq

/-- `$Headers`, without `ID`. -/
def headers : List Header :=
  [.domain, .path, .firstName, .lastName, .office, .title, .description, .department, .company, .phone,
    .streetAddress, .city, .state, .postalCode, .password, .sAMAccountName, .userPrincipalName, .displayName]

/-! ## Options -/

/-- `-eq` on texts. -/
def textEq (s t : Line) : Bool := s.map Char.toLower == t.map Char.toLower

/-- An element with `Generate`, and the `Format` of the style that is enabled. -/
structure Setting where
  generate : Line
  format : Line

/-- `$Setting.Generate -eq $True`. -/
def Setting.isTrue (s : Setting) : Bool := textEq s.generate "True".toList

/-- `$Setting.Generate` as a condition: any text but the empty one. -/
def Setting.isSet (s : Setting) : Bool := !s.generate.isEmpty

/-- ANUC.Options.xml. -/
structure Options where
  sAMAccountName : Setting
  upn : Setting
  displayName : Setting
  accountEnabled : Line
  changeAtLogon : Line
  default : Header → Line
  domains : List (Line × List Line)
  descriptions : List Line
  departments : List Line

variable (x : Options)

/-- A pattern at the beginning of a text: `.` is any character. -/
def matchHere : Line → Line → Bool
  | [], _ => true
  | _ :: _, [] => false
  | p :: ps, c :: cs => (p == '.' || p.toLower == c.toLower) && matchHere ps cs

/-- `$text -match $pat`, for a pattern of letters, digits, `-` and `.`. -/
def isMatch (text pat : Line) : Bool :=
  match text with
  | [] => matchHere pat []
  | c :: cs => matchHere pat (c :: cs) || isMatch cs pat

/-- The names of the domains. -/
def Options.domainNames : List Line := x.domains.map Prod.fst

/-- The paths of the domains that match a name. -/
def Options.paths (name : Line) : List Line := (x.domains.filter fun d => isMatch d.1 name).flatMap Prod.snd

/-- Set-sAMAccountName. -/
def setSAMAccountName (givenName surname : Line) : Line :=
  if textEq x.sAMAccountName.format "FirstInitialLastName".toList then givenName.take 1 ++ surname
  else if textEq x.sAMAccountName.format "LastNameFirstInitial".toList then surname ++ givenName.take 1
  else givenName ++ '.' :: surname

/-- Set-UPN. -/
def setUPN (givenName surname domain : Line) : Line :=
  if textEq x.upn.format "FirstInitialLastName".toList then givenName.take 1 ++ surname ++ '@' :: domain
  else if textEq x.upn.format "LastNameFirstInitial".toList then surname ++ givenName.take 1 ++ '@' :: domain
  else givenName ++ '.' :: surname ++ '@' :: domain

/-- Set-DisplayName. -/
def setDisplayName (givenName surname : Line) : Line :=
  if textEq x.displayName.format "LastName, FirstName".toList then surname ++ ", ".toList ++ givenName
  else givenName ++ ' ' :: surname

/-! ## The form -/

/-- The texts of the boxes, the number of the item selected in `$cboDomain`, and the items
of `$cboPath`. -/
structure Form where
  box : Header → Line
  domainIndex : Option Nat
  pathItems : List Line

/-- A box with another text. -/
def Form.set (f : Form) (h : Header) (t : Line) : Form := { f with box := fun k => if k = h then t else f.box k }

@[simp] theorem Form.set_box (f : Form) (h k : Header) (t : Line) :
    (f.set h t).box k = if k = h then t else f.box k := rfl

@[simp] theorem Form.set_domainIndex (f : Form) (h : Header) (t : Line) : (f.set h t).domainIndex = f.domainIndex := rfl

@[simp] theorem Form.set_pathItems (f : Form) (h : Header) (t : Line) : (f.set h t).pathItems = f.pathItems := rfl

/-- The names generated from the boxes, where the settings say so. -/
def createFields (p : Setting → Bool) (f : Form) : Form :=
  let f := if p x.displayName then f.set .displayName (setDisplayName x (f.box .firstName) (f.box .lastName))
    else f
  let f := if p x.sAMAccountName then
    f.set .sAMAccountName (setSAMAccountName x (f.box .firstName) (f.box .lastName)) else f
  if p x.upn then f.set .userPrincipalName (setUPN x (f.box .firstName) (f.box .lastName) (f.box .domain)) else f

/-- `$cboDomain_SelectedIndexChanged`. -/
def domainChanged (f : Form) : Form := createFields x Setting.isSet { f with pathItems := x.paths (f.box .domain) }

/-- `$txtName_TextChanged`. -/
def nameChanged (f : Form) : Form := createFields x Setting.isTrue f

/-- `$cboDomain.SelectedIndex = k`, or the operator chooses that item; the one selected
already is no change. -/
def selectDomain (f : Form) (k : Nat) : Form :=
  if f.domainIndex = some k then f
  else
    match x.domainNames[k]? with
    | some t => domainChanged x ⟨(f.set .domain t).box, some k, f.pathItems⟩
    | none => f

/-- `$box.Text = t`, or `$cbo.SelectedItem = t`, which does nothing where `t` is not an
item; a text that stays the same is no change. -/
def change (f : Form) (h : Header) (t : Line) : Form :=
  match h with
  | .domain => if t ∈ x.domainNames then selectDomain x f (x.domainNames.idxOf t) else f
  | .path => if t ∈ f.pathItems then f.set .path t else f
  | .description => if t ∈ x.descriptions then f.set .description t else f
  | .department => if t ∈ x.departments then f.set .department t else f
  | .firstName => if t ≠ f.box .firstName then nameChanged x (f.set .firstName t) else f
  | .lastName => if t ≠ f.box .lastName then nameChanged x (f.set .lastName t) else f
  | h => f.set h t

/-- The operator types a text into a box; of the lists, none has its item selected then. -/
def typeText (f : Form) (h : Header) (t : Line) : Form :=
  match h with
  | .domain => if t ≠ f.box .domain then ⟨(f.set .domain t).box, none, f.pathItems⟩ else f
  | .firstName => if t ≠ f.box .firstName then nameChanged x (f.set .firstName t) else f
  | .lastName => if t ≠ f.box .lastName then nameChanged x (f.set .lastName t) else f
  | h => f.set h t

/-- The operator chooses an item of a list. -/
def choose (f : Form) (h : Header) (k : Nat) : Form :=
  match h with
  | .domain => selectDomain x f k
  | .path => (f.pathItems[k]?.map (f.set .path)).getD f
  | .description => (x.descriptions[k]?.map (f.set .description)).getD f
  | .department => (x.departments[k]?.map (f.set .department)).getD f
  | _ => f

/-- A row of the csv list: the texts of its `SubItems`, the first of which is the ID. -/
structure Row where
  subItems : List Line
  length_ok : subItems.length = 19

/-- `.SubItems[k].Text`. -/
def Row.text (r : Row) (k : Nat) : Line := r.subItems.getD k []

/-- The boxes `$lvCSV_SelectedIndexChanged` fills, with the numbers of the SubItems. -/
def columns : List (Header × Nat) :=
  [(.domain, 1), (.path, 2), (.firstName, 3), (.lastName, 4), (.office, 5), (.title, 6), (.description, 7),
    (.department, 8), (.company, 9), (.phone, 10), (.streetAddress, 11), (.city, 12), (.state, 13),
    (.postalCode, 14), (.password, 15), (.sAMAccountName, 16), (.userPrincipalName, 17), (.displayName, 18)]

/-- `$lvCSV_SelectedIndexChanged`, where a row is selected. -/
def selectedIndexChanged (f : Form) (r : Row) : Form :=
  columns.foldl (fun f c => change x f c.1 (r.text c.2)) f

/-- `$formMain_Load`, on boxes without text. -/
def formMainLoad : Form :=
  [.domain, .path, .firstName, .lastName, .office, .title, .description, .department, .company, .phone,
    .streetAddress, .city, .state, .postalCode, .password].foldl (fun f h => change x f h (x.default h))
    ⟨fun _ => [], none, x.paths []⟩

/-! ## What a change does -/

/-- The items a box offers, if it is a list. -/
def Form.items (f : Form) : Header → Option (List Line)
  | .domain => some x.domainNames
  | .path => some f.pathItems
  | .description => some x.descriptions
  | .department => some x.departments
  | _ => none

/-- The text of a box that is to show `t`: of a list only an item is shown. -/
def pick (items : Option (List Line)) (t old : Line) : Line :=
  match items with
  | none => t
  | some ts => if t ∈ ts then t else old

/-- The boxes a change of `h` can touch: a name or the domain fills the generated
names again. -/
def touched (h k : Header) : Bool :=
  decide (k = h ∨ k ∈ [Header.displayName, .sAMAccountName, .userPrincipalName] ∧
    h ∈ [Header.domain, .firstName, .lastName])

theorem createFields_box {p : Setting → Bool} {f : Form} {k : Header}
    (hk : k ∉ [Header.displayName, .sAMAccountName, .userPrincipalName]) :
    (createFields x p f).box k = f.box k := by
  simp only [List.mem_cons, List.not_mem_nil, or_false, not_or] at hk
  simp only [createFields]
  split <;> split <;> split <;> simp [hk.1, hk.2.1, hk.2.2]

theorem createFields_pathItems (p : Setting → Bool) (f : Form) : (createFields x p f).pathItems = f.pathItems := by
  simp only [createFields]
  split <;> split <;> split <;> rfl

theorem createFields_domainIndex (p : Setting → Bool) (f : Form) :
    (createFields x p f).domainIndex = f.domainIndex := by
  simp only [createFields]
  split <;> split <;> split <;> rfl

/-- A domain selected is the one shown, and its paths are offered. -/
def Listed (f : Form) : Prop := ∀ k, f.domainIndex = some k →
  x.domainNames[k]? = some (f.box .domain) ∧ f.pathItems = x.paths (f.box .domain)

/-- What selecting a domain does: it is shown, and nothing else changes but the generated
names. -/
theorem selectDomain_of {f : Form} (hf : Listed x f) {k : Nat} {t : Line} (ht : x.domainNames[k]? = some t) :
    (selectDomain x f k).domainIndex = some k ∧ (selectDomain x f k).box .domain = t ∧
      (selectDomain x f k).pathItems = x.paths t ∧
      ∀ h, touched .domain h = false → (selectDomain x f k).box h = f.box h := by
  unfold selectDomain
  by_cases hk : f.domainIndex = some k
  · obtain ⟨hd, hp⟩ := hf k hk
    obtain rfl := Option.some.inj (ht.symm.trans hd)
    rw [if_pos hk]
    exact ⟨hk, rfl, hp, fun _ _ => rfl⟩
  · rw [if_neg hk, ht]
    have hd : Header.domain ∉ [Header.displayName, .sAMAccountName, .userPrincipalName] := by decide
    have hb : (f.set .domain t).box .domain = t := by rw [Form.set_box, if_pos rfl]
    refine ⟨?_, ?_, ?_, fun h hh => ?_⟩
    · exact createFields_domainIndex x _ _
    · exact (createFields_box x hd).trans hb
    · exact (createFields_pathItems x _ _).trans (congrArg x.paths hb)
    · obtain ⟨hn, hg⟩ := not_or.mp (of_decide_eq_false hh)
      exact (createFields_box x fun hm => hg ⟨hm, List.mem_cons_self⟩).trans (if_neg hn)

theorem getElem?_idxOf {ts : List Line} {t : Line} (h : t ∈ ts) : ts[ts.idxOf t]? = some t := by
  have hl := List.idxOf_lt_length_of_mem h
  rw [List.getElem?_eq_getElem hl, List.getElem_idxOf hl]

/-- The other boxes stay as they are. -/
theorem change_box_of {f : Form} (hf : Listed x f) {h k : Header} (hk : touched h k = false) (t : Line) :
    (change x f h t).box k = f.box k := by
  have hs : ∀ g : Form, k ≠ h → (g.set h t).box k = g.box k := fun g hn => if_neg hn
  obtain ⟨hn, hg⟩ := not_or.mp (of_decide_eq_false hk)
  replace hg : h ∈ [Header.domain, .firstName, .lastName] →
      k ∉ [Header.displayName, .sAMAccountName, .userPrincipalName] := fun hh hm => hg ⟨hm, hh⟩
  cases h with
  | domain =>
    simp only [change]
    split
    · rename_i ht
      exact (selectDomain_of x hf (getElem?_idxOf ht)).2.2.2 k hk
    · rfl
  | firstName | lastName =>
    simp only [change]
    split
    · exact (createFields_box x (hg (by decide))).trans (hs f hn)
    · rfl
  | path | description | department =>
    simp only [change]
    split
    · exact hs f hn
    · rfl
  | _ => exact hs f hn

/-- The box itself shows the text, if it offers it. -/
theorem change_box {f : Form} (hf : Listed x f) (h : Header) (t : Line) :
    (change x f h t).box h = pick (f.items x h) t (f.box h) := by
  have hs : ∀ h : Header, (f.set h t).box h = t := fun h => if_pos rfl
  cases h with
  | domain =>
    simp only [change, pick, Form.items]
    by_cases ht : t ∈ x.domainNames
    · rw [if_pos ht, if_pos ht]
      exact (selectDomain_of x hf (getElem?_idxOf ht)).2.1
    · rw [if_neg ht, if_neg ht]
  | firstName | lastName =>
    simp only [change, pick, Form.items]
    split
    · exact (createFields_box x (by decide)).trans (hs _)
    · rename_i hne
      exact (Decidable.not_not.mp hne).symm
  | path | description | department =>
    simp only [change, pick, Form.items]
    split
    · exact hs _
    · rfl
  | _ => exact hs _

/-- The paths offered once the domain `t` is to be shown. -/
def offered (t : Line) (paths : List Line) : List Line := if t ∈ x.domainNames then x.paths t else paths

theorem change_domain_pathItems {f : Form} (hf : Listed x f) (t : Line) :
    (change x f .domain t).pathItems = offered x t f.pathItems := by
  simp only [change, offered]
  split
  · rename_i ht
    exact (selectDomain_of x hf (getElem?_idxOf ht)).2.2.1
  · rfl

/-- Other boxes do not touch the list of paths. -/
theorem change_pathItems {f : Form} {h : Header} (hh : h ≠ .domain) (t : Line) :
    (change x f h t).pathItems = f.pathItems := by
  cases h with
  | domain => exact absurd rfl hh
  | firstName | lastName =>
    simp only [change]
    split
    · exact createFields_pathItems x _ _
    · rfl
  | path | description | department =>
    simp only [change]
    split <;> rfl
  | _ => rfl

/-- Writing another box keeps what is selected. -/
theorem listed_set {f : Form} (hf : Listed x f) {h : Header} (hh : h ≠ .domain) (t : Line) : Listed x (f.set h t) := by
  intro k hk
  rw [Form.set_box, if_neg (Ne.symm hh)]
  exact hf k hk

theorem listed_nameChanged {f : Form} (hf : Listed x f) : Listed x (nameChanged x f) := by
  intro k hk
  rw [nameChanged, createFields_domainIndex] at hk
  rw [nameChanged, createFields_pathItems, createFields_box x (by decide)]
  exact hf k hk

theorem listed_selectDomain {f : Form} (hf : Listed x f) (k : Nat) : Listed x (selectDomain x f k) := by
  cases ht : x.domainNames[k]? with
  | none =>
    unfold selectDomain
    rw [ht]
    split <;> exact hf
  | some t =>
    obtain ⟨hk, hd, hp, -⟩ := selectDomain_of x hf ht
    intro j hj
    obtain rfl := Option.some.inj (hk.symm.trans hj)
    rw [hd]
    exact ⟨ht, hp⟩

theorem listed_change {f : Form} (hf : Listed x f) (h : Header) (t : Line) : Listed x (change x f h t) := by
  cases h with
  | domain =>
    simp only [change]
    split
    · exact listed_selectDomain x hf _
    · exact hf
  | firstName | lastName =>
    simp only [change]
    split
    · exact listed_nameChanged x (listed_set x hf (by decide) t)
    · exact hf
  | path | description | department =>
    simp only [change]
    split
    · exact listed_set x hf (by decide) t
    · exact hf
  | _ => exact listed_set x hf (by decide) t

theorem listed_typeText {f : Form} (hf : Listed x f) (h : Header) (t : Line) : Listed x (typeText x f h t) := by
  cases h with
  | domain =>
    simp only [typeText]
    split
    · -- nothing is selected now
      exact fun k hk => nomatch hk
    · exact hf
  | firstName | lastName =>
    simp only [typeText]
    split
    · exact listed_nameChanged x (listed_set x hf (by decide) t)
    · exact hf
  | _ => exact listed_set x hf (by decide) t

theorem listed_choose {f : Form} (hf : Listed x f) (h : Header) (k : Nat) : Listed x (choose x f h k) := by
  have hs : ∀ {h : Header} (items : List Line), h ≠ .domain → Listed x ((items[k]?.map (f.set h)).getD f) := by
    intro h items hh
    cases items[k]? with
    | none => exact hf
    | some t => exact listed_set x hf hh t
  cases h with
  | domain => exact listed_selectDomain x hf k
  | path => exact hs f.pathItems (by decide)
  | description => exact hs x.descriptions (by decide)
  | department => exact hs x.departments (by decide)
  | _ => exact hf

/-! ## Selecting a row -/

/-- The column of a box. -/
def column (h : Header) : Nat := headers.idxOf h + 1

/-- What the boxes show after a row is selected: its texts, those of the lists only if
they are items. -/
def shown (f : Form) (r : Row) : Header → Line
  | .domain => pick (some x.domainNames) (r.text 1) (f.box .domain)
  | .path => pick (some (offered x (r.text 1) f.pathItems)) (r.text 2) (f.box .path)
  | .description => pick (some x.descriptions) (r.text 7) (f.box .description)
  | .department => pick (some x.departments) (r.text 8) (f.box .department)
  | h => r.text (column h)

theorem listed_foldl {α : Type} {h : α → Header} {t : α → Line} : ∀ {cs : List α} {f : Form}, Listed x f →
    Listed x (cs.foldl (fun f c => change x f (h c) (t c)) f)
  | [], _, hf => hf
  | c :: cs, f, hf => by
    rw [List.foldl_cons]
    exact listed_foldl (listed_change x hf (h c) (t c))

theorem foldl_change_box {r : Row} {k : Header} : ∀ {cs : List (Header × Nat)} {f : Form}, Listed x f →
    (∀ c ∈ cs, touched c.1 k = false) → (cs.foldl (fun f c => change x f c.1 (r.text c.2)) f).box k = f.box k
  | [], _, _, _ => rfl
  | c :: cs, f, hf, h => by
    rw [List.foldl_cons, foldl_change_box (listed_change x hf c.1 _) fun d hd => h d (List.mem_cons_of_mem _ hd),
      change_box_of x hf (h c List.mem_cons_self)]

theorem foldl_change_pathItems {r : Row} : ∀ {cs : List (Header × Nat)} {f : Form}, (∀ c ∈ cs, c.1 ≠ .domain) →
    (cs.foldl (fun f c => change x f c.1 (r.text c.2)) f).pathItems = f.pathItems
  | [], _, _ => rfl
  | c :: cs, f, h => by
    rw [List.foldl_cons, foldl_change_pathItems fun d hd => h d (List.mem_cons_of_mem _ hd),
      change_pathItems x (h c List.mem_cons_self)]

theorem listed_selected {f : Form} (h : Listed x f) (r : Row) : Listed x (selectedIndexChanged x f r) :=
  listed_foldl x h

theorem listed_load : Listed x (formMainLoad x) := listed_foldl x fun _ hk => nomatch hk

/-- The paths offered after a row is selected. -/
theorem pathItems_selected {f : Form} (hf : Listed x f) (r : Row) :
    (selectedIndexChanged x f r).pathItems = offered x (r.text 1) f.pathItems := by
  rw [selectedIndexChanged, columns, List.foldl_cons, foldl_change_pathItems x (by decide),
    change_domain_pathItems x hf]

/-- A box that no later column touches shows the text of its own. -/
theorem selected_of_split {f : Form} (hf : Listed x f) {r : Row} {k : Header} {n : Nat} {as bs : List (Header × Nat)}
    (hc : columns = as ++ (k, n) :: bs) (hb : ∀ c ∈ bs, touched c.1 k = false) :
    (selectedIndexChanged x f r).box k =
      pick ((as.foldl (fun f c => change x f c.1 (r.text c.2)) f).items x k) (r.text n)
        ((as.foldl (fun f c => change x f c.1 (r.text c.2)) f).box k) := by
  have ha : Listed x (as.foldl (fun f c => change x f c.1 (r.text c.2)) f) := listed_foldl x hf
  rw [selectedIndexChanged, hc, List.foldl_append, List.foldl_cons, foldl_change_box x (listed_change x ha k _) hb,
    change_box x ha]

theorem box_selected {f : Form} (hf : Listed x f) (r : Row) (k : Header) :
    (selectedIndexChanged x f r).box k = shown x f r k := by
  have hs := @selected_of_split x f hf r k (column k) (columns.take (column k - 1)) (columns.drop (column k))
    (by cases k <;> decide) (by cases k <;> decide)
  -- the columns before that of a list do not touch it
  have ha : (∀ c ∈ columns.take (column k - 1), touched c.1 k = false) →
      ((columns.take (column k - 1)).foldl (fun f c => change x f c.1 (r.text c.2)) f).box k = f.box k :=
    foldl_change_box x hf
  cases k with
  | domain | description | department =>
    rw [hs, ha (by decide)]
    rfl
  | path =>
    rw [hs, ha (by decide)]
    show pick (some (change x f .domain (r.text 1)).pathItems) _ _ = _
    rw [change_domain_pathItems x hf]
    rfl
  | _ => rw [hs]; rfl

end Espo.Anuc
