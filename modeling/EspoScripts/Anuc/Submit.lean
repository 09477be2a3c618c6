import EspoScripts.Anuc.Form

/-!
# Creating users with ANUC.ps1

The handlers of the buttons: Import CSV appends a row for each entry of a csv
file, with generated names where it has none (`importEntry`); First, Last,
Next and Prev select a row; Submit creates a user from the boxes, and Submit
All one from each row (`press`).

`rows_importCSV`: a row is made from its own entry only, though the names and
the domain are kept in variables from one entry to the next. `walk_eq_iff`:
submitting the rows one by one with Next creates the users that Submit All
creates just when the rows agree (`Agrees`): Submit All has the office and
the phone the wrong way round, Submit generates the names again, and of a
list only an item is shown.
-/

namespace Espo.Anuc

open Espo.Cmd Espo.Run

/-- The parameters of New-ADUser. -/
structure User where
  name : Line
  givenName : Line
  surname : Line
  path : Line
  samAccountName : Line
  userPrincipalName : Line
  displayName : Line
  accountPassword : Line
  changePasswordAtLogon : Bool
  enabled : Bool
  officePhone : Line
  description : Line
  title : Line
  department : Line
  company : Line
  office : Line
  streetAddress : Line
  city : Line
  state : Line
  postalCode : Line
deriving DecidableEq

/-- An entry of a csv file; a column that is missing reads as empty. -/
abbrev Entry := Header → Line

/-- The form with the csv list, the row selected, and `$Script:GivenName` and
`$Script:Surname`. -/
structure App where
  form : Form
  rows : List Row
  selected : Option Nat
  givenName : Line
  surname : Line

/-- What the operator does: a box typed in or chosen from, a row clicked on, a button. -/
inductive Event where
  | typeText (h : Header) (t : Line)
  | choose (h : Header) (k : Nat)
  | click (k : Nat)
  | first | last | next | prev
  | importCSV (es : List Entry)
  | submit | submitAll

variable (x : Options)

/-- `$btnSubmit_Click`. -/
def btnSubmit (f : Form) : User where
  name := f.box .firstName ++ ' ' :: f.box .lastName
  givenName := f.box .firstName
  surname := f.box .lastName
  path := f.box .path
  samAccountName := if x.sAMAccountName.isTrue then setSAMAccountName x (f.box .firstName) (f.box .lastName)
    else f.box .sAMAccountName
  userPrincipalName := if x.upn.isTrue then setUPN x (f.box .firstName) (f.box .lastName) (f.box .domain)
    else f.box .userPrincipalName
  displayName := if x.displayName.isTrue then setDisplayName x (f.box .firstName) (f.box .lastName)
    else f.box .displayName
  accountPassword := f.box .password
  changePasswordAtLogon := textEq x.changeAtLogon "True".toList
  enabled := textEq x.accountEnabled "True".toList
  officePhone := f.box .phone
  description := f.box .description
  title := f.box .title
  department := f.box .department
  company := f.box .company
  office := f.box .office
  streetAddress := f.box .streetAddress
  city := f.box .city
  state := f.box .state
  postalCode := f.box .postalCode

/-- The body of `$btnSubmitAll_Click`; the text of a SubItem is never `$null`. -/
def submitRow (r : Row) : User where
  name := r.text 3 ++ ' ' :: r.text 4
  givenName := r.text 3
  surname := r.text 4
  path := r.text 2
  samAccountName := r.text 16
  userPrincipalName := r.text 17
  displayName := r.text 18
  accountPassword := r.text 15
  changePasswordAtLogon := textEq x.changeAtLogon "True".toList
  enabled := textEq x.accountEnabled "True".toList
  officePhone := r.text 5
  description := r.text 7
  title := r.text 6
  department := r.text 8
  company := r.text 9
  office := r.text 10
  streetAddress := r.text 11
  city := r.text 12
  state := r.text 13
  postalCode := r.text 14

/-! ## Import -/

/-- The variables of `$btnImportCSV_Click`. -/
structure Vars where
  givenName : Line
  surname : Line
  domain : Line

/-- The variable a column sets. -/
def Vars.set (v : Vars) (t : Line) : Header → Vars
  | .firstName => { v with givenName := t }
  | .lastName => { v with surname := t }
  | .domain => { v with domain := t }
  | _ => v

/-- The name generated for a column that is empty. -/
def generated (v : Vars) : Header → Line
  | .sAMAccountName => setSAMAccountName x v.givenName v.surname
  | .userPrincipalName => setUPN x v.givenName v.surname v.domain
  | .displayName => setDisplayName x v.givenName v.surname
  | _ => []

/-- A column of an entry: the variables, and the SubItem added. -/
def importColumn (e : Entry) (s : Vars × List Line) (h : Header) : Vars × List Line :=
  let v := s.1.set (e h) h
  (v, s.2 ++ [if e h = [] then generated x v h else e h])

/-- The columns of an entry behind its ID. -/
def importColumns (v : Vars) (i : Nat) (e : Entry) : Vars × List Line :=
  headers.foldl (importColumn x e) (v, [Nat.toDigits 10 i])

theorem length_importColumns (v : Vars) (i : Nat) (e : Entry) : (importColumns x v i e).2.length = 19 := by
  have go : ∀ (hs : List Header) (s : Vars × List Line),
      (hs.foldl (importColumn x e) s).2.length = s.2.length + hs.length := by
    intro hs
    induction hs with
    | nil => exact fun s => rfl
    | cons h hs ih =>
      intro s
      rw [List.foldl_cons, ih, List.length_cons, importColumn, List.length_append, List.length_singleton]
      omega
  exact go headers _

/-- An entry, with the variables the entries before it leave. -/
def importEntry (v : Vars) (i : Nat) (e : Entry) : Row := ⟨(importColumns x v i e).2, length_importColumns x v i e⟩

/-- The rows of a csv file. -/
def importCSV (v : Vars) (i : Nat) : List Entry → Vars × List Row
  | [] => (v, [])
  | e :: es =>
    let rest := importCSV (importColumns x v i e).1 (i + 1) es
    (rest.1, importEntry x v i e :: rest.2)

/-! ## The buttons -/

/-- `$lvCSV.Items[k].Selected = $True`, with no other row selected. -/
def select (s : App) (k : Nat) : App :=
  match s.rows[k]? with
  | some r => { s with form := selectedIndexChanged x s.form r, selected := some k }
  | none => s

/-- An event, and the users it creates. -/
def press (s : App) : Event → App × List User
  | .typeText h t => ({ s with form := typeText x s.form h t }, [])
  | .choose h k => ({ s with form := choose x s.form h k }, [])
  | .click k => (if s.selected = some k then s else select x s k, [])
  | .first => (select x s 0, [])
  | .last => (select x s (s.rows.length - 1), [])
  | .next =>
    let index := s.selected.getD 0
    (if index < s.rows.length - 1 then select x s (index + 1) else s, [])
  | .prev =>
    let index := s.selected.getD 0
    (if 0 < index then select x s (index - 1) else s, [])
  | .importCSV es =>
    let i := importCSV x ⟨s.givenName, s.surname, []⟩ 0 es
    ({ s with rows := s.rows ++ i.2, givenName := i.1.givenName, surname := i.1.surname }, [])
  | .submit => (s, [btnSubmit x s.form])
  | .submitAll => (s, s.rows.map (submitRow x))

/-- The form as it is first shown. -/
def load : App := ⟨formMainLoad x, [], none, [], []⟩

/-- The rows submitted one by one. -/
def walk : Nat → List Event
  | 0 => []
  | n + 1 => .first :: .submit :: (List.replicate n [Event.next, .submit]).flatten

/-! ## What an import makes of an entry -/

/-- A column of an entry, or where it is empty the name generated from the entry. -/
def own (e : Entry) (h : Header) : Line :=
  if e h = [] then generated x ⟨e .firstName, e .lastName, e .domain⟩ h else e h

/-- The row of an entry, from that entry alone. -/
def entryRow (i : Nat) (e : Entry) : Row :=
  ⟨Nat.toDigits 10 i :: headers.map (own x e), by rw [List.length_cons, List.length_map]; rfl⟩

theorem row_ext {r r' : Row} (h : r.subItems = r'.subItems) : r = r' := by
  cases r; cases r'; cases h; rfl

/-- The variables are set before they are used, so the entries before make no difference. -/
theorem importEntry_eq (v : Vars) (i : Nat) (e : Entry) : importEntry x v i e = entryRow x i e := by
  apply row_ext
  simp only [importEntry, entryRow, importColumns, headers, List.foldl_cons, List.foldl_nil, importColumn, Vars.set, own,
    generated, List.map_cons, List.map_nil, List.cons_append, List.nil_append]

theorem rows_importCSV : ∀ (es : List Entry) (v : Vars) (i : Nat),
    (importCSV x v i es).2 = (es.zipIdx i).map fun p => entryRow x p.2 p.1
  | [], _, _ => rfl
  | e :: es, v, i => by
    rw [importCSV, List.zipIdx_cons, List.map_cons, rows_importCSV es, importEntry_eq]

/-- The user Submit All creates for an entry. -/
def entryUser (e : Entry) : User where
  name := e .firstName ++ ' ' :: e .lastName
  givenName := e .firstName
  surname := e .lastName
  path := e .path
  samAccountName := own x e .sAMAccountName
  userPrincipalName := own x e .userPrincipalName
  displayName := own x e .displayName
  accountPassword := e .password
  changePasswordAtLogon := textEq x.changeAtLogon "True".toList
  enabled := textEq x.accountEnabled "True".toList
  officePhone := e .office
  description := e .description
  title := e .title
  department := e .department
  company := e .company
  office := e .phone
  streetAddress := e .streetAddress
  city := e .city
  state := e .state
  postalCode := e .postalCode

theorem own_of (e : Entry) {h : Header} (hh : h ∉ [Header.sAMAccountName, .userPrincipalName, .displayName]) :
    own x e h = e h := by
  have hg : ∀ v, generated x v h = [] := fun v => by
    cases h <;> first | rfl | exact absurd (by decide) hh
  rw [own, hg]
  split
  · rename_i he
    exact he.symm
  · rfl

theorem text_entryRow (i : Nat) (e : Entry) (h : Header) : (entryRow x i e).text (column h) = own x e h := by
  cases h <;> rfl

theorem submitRow_entryRow (i : Nat) (e : Entry) : submitRow x (entryRow x i e) = entryUser x e := by
  have ht := text_entryRow x i e
  have ho : ∀ h ∈ headers.take 15, (entryRow x i e).text (column h) = e h := fun h hh => by
    rw [ht, own_of]
    revert h
    decide
  simp only [submitRow, entryUser, User.mk.injEq]
  have h₃ := ho .firstName (by decide)
  have h₄ := ho .lastName (by decide)
  have e₃ : (entryRow x i e).text 3 = e .firstName := h₃
  have e₄ : (entryRow x i e).text 4 = e .lastName := h₄
  rw [e₃, e₄]
  exact ⟨rfl, rfl, rfl, ho .path (by decide), ht .sAMAccountName, ht .userPrincipalName, ht .displayName,
    ho .password (by decide), trivial, trivial, ho .office (by decide), ho .description (by decide),
    ho .title (by decide), ho .department (by decide), ho .company (by decide), ho .phone (by decide),
    ho .streetAddress (by decide), ho .city (by decide), ho .state (by decide), ho .postalCode (by decide)⟩

/-- Submit All after an import creates a user for each entry, from that entry alone,
with its office as the phone and its phone as the office. -/
theorem submitAll_import (s : App) (es : List Entry) :
    (outputs (press x) s [.importCSV es, .submitAll]).flatten =
      s.rows.map (submitRow x) ++ es.map (entryUser x) := by
  have hu : ∀ (v : Vars) (i : Nat), (importCSV x v i es).2.map (submitRow x) = es.map (entryUser x) := by
    intro v i
    have he : submitRow x ∘ (fun p : Entry × Nat => entryRow x p.2 p.1) = entryUser x ∘ Prod.fst :=
      funext fun p => submitRow_entryRow x p.2 p.1
    rw [rows_importCSV, List.map_map, he, ← List.map_map, List.zipIdx_map_fst]
  simp only [outputs, press, List.flatten_cons, List.flatten_nil, List.append_nil, List.nil_append, List.map_append, hu]

/-! ## One by one -/

/-- The users of Submit on the rows as they are selected one after another. -/
def browse (f : Form) : List Row → List User
  | [] => []
  | r :: rs => btnSubmit x (selectedIndexChanged x f r) :: browse (selectedIndexChanged x f r) rs

theorem select_of {s : App} {k : Nat} {r : Row} (h : s.rows[k]? = some r) :
    select x s k = { s with form := selectedIndexChanged x s.form r, selected := some k } := by
  rw [select, h]

/-- Next and Submit on the rows behind the one selected. -/
theorem outputs_next : ∀ (rs : List Row) (s : App) (k : Nat), s.selected = some k → s.rows.drop (k + 1) = rs →
    (outputs (press x) s (List.replicate rs.length [Event.next, .submit]).flatten).flatten = browse x s.form rs
  | [], _, _, _, _ => rfl
  | r :: rs, s, k, hk, hr => by
    have hl := congrArg List.length hr
    rw [List.length_drop, List.length_cons] at hl
    have hs : s.rows[k + 1]? = some r := by
      rw [← List.head?_drop, hr]
      rfl
    have hp : (press x s .next).1 =
        { s with form := selectedIndexChanged x s.form r, selected := some (k + 1) } := by
      simp only [press, hk, Option.getD_some]
      rw [if_pos (by omega), select_of x hs]
    have hn : s.rows.drop (k + 2) = rs := by
      rw [show k + 2 = k + 1 + 1 from rfl, ← List.drop_drop, hr]
      rfl
    have ih := outputs_next rs (press x s .next).1 (k + 1) (by rw [hp]) (by rw [hp]; exact hn)
    rw [hp] at ih
    rw [List.length_cons, List.replicate_succ, List.flatten_cons, List.cons_append, List.cons_append, outputs,
      outputs, hp, browse]
    exact congrArg (_ :: ·) ih

theorem outputs_walk (s : App) :
    (outputs (press x) s (walk s.rows.length)).flatten = browse x s.form s.rows := by
  cases hr : s.rows with
  | nil => rfl
  | cons r rs =>
    have hp : (press x s .first).1 = { s with form := selectedIndexChanged x s.form r, selected := some 0 } := by
      rw [press, select_of x (by rw [hr]; rfl)]
    have ih := outputs_next x rs (press x s .first).1 0 (by rw [hp]) (by rw [hp, hr]; rfl)
    rw [hp] at ih
    rw [List.length_cons, walk, outputs, outputs, hp, browse]
    exact congrArg (_ :: ·) ih

/-- The domain shown after a row is selected. -/
def domainAfter (r : Row) (domain : Line) : Line := pick (some x.domainNames) (r.text 1) domain

/-- The rows for which Submit and Submit All agree, from the paths offered and the domain,
path, description and department shown on: the office is the phone, the path is one of
those offered once the domain is selected, description and department are items (or shown
already), and the names are the generated ones where they are generated. -/
def Agrees (paths : List Line) (domain path description department : Line) : List Row → Prop
  | [] => True
  | r :: rs =>
    (r.text 2 ∈ offered x (r.text 1) paths ∨ path = r.text 2) ∧
    (x.sAMAccountName.isTrue = true → setSAMAccountName x (r.text 3) (r.text 4) = r.text 16) ∧
    (x.upn.isTrue = true → setUPN x (r.text 3) (r.text 4) (domainAfter x r domain) = r.text 17) ∧
    (x.displayName.isTrue = true → setDisplayName x (r.text 3) (r.text 4) = r.text 18) ∧
    r.text 10 = r.text 5 ∧
    (r.text 7 ∈ x.descriptions ∨ description = r.text 7) ∧
    (r.text 8 ∈ x.departments ∨ department = r.text 8) ∧
    Agrees (offered x (r.text 1) paths) (domainAfter x r domain) (r.text 2) (r.text 7) (r.text 8) rs

theorem pick_eq_iff {ts : List Line} {t old : Line} : pick (some ts) t old = t ↔ t ∈ ts ∨ old = t := by
  simp only [pick]
  split <;> simp [*]

theorem ite_eq_right_iff_imp {b : Bool} {s t : Line} : (if b = true then s else t) = t ↔ (b = true → s = t) := by
  split <;> simp [*]

/-- The user of Submit, once a row is selected. -/
theorem btnSubmit_selected {f : Form} (hf : Listed x f) (r : Row) : btnSubmit x (selectedIndexChanged x f r) =
    { submitRow x r with
      path := pick (some (offered x (r.text 1) f.pathItems)) (r.text 2) (f.box .path)
      samAccountName := if x.sAMAccountName.isTrue then setSAMAccountName x (r.text 3) (r.text 4) else r.text 16
      userPrincipalName :=
        if x.upn.isTrue then setUPN x (r.text 3) (r.text 4) (domainAfter x r (f.box .domain)) else r.text 17
      displayName := if x.displayName.isTrue then setDisplayName x (r.text 3) (r.text 4) else r.text 18
      officePhone := r.text 10
      office := r.text 5
      description := pick (some x.descriptions) (r.text 7) (f.box .description)
      department := pick (some x.departments) (r.text 8) (f.box .department) } := by
  simp only [btnSubmit, box_selected x hf]
  rfl

theorem browse_eq_iff : ∀ (rs : List Row) {f : Form}, Listed x f → (browse x f rs = rs.map (submitRow x) ↔
    Agrees x f.pathItems (f.box .domain) (f.box .path) (f.box .description) (f.box .department) rs)
  | [], _, _ => iff_of_true rfl trivial
  | r :: rs, f, hf => by
    have ih := browse_eq_iff rs (listed_selected x hf r)
    simp only [box_selected x hf, pathItems_selected x hf] at ih
    rw [browse, List.map_cons, List.cons.injEq, btnSubmit_selected x hf, ih, Agrees]
    simp only [submitRow, User.mk.injEq, true_and, and_true, ite_eq_right_iff_imp, pick_eq_iff, shown]
    constructor
    · rintro ⟨⟨hp, hs, hu, hd, ho, hi, he, -⟩, ha⟩
      rw [pick_eq_iff.mpr hi, pick_eq_iff.mpr he] at ha
      exact ⟨hp, hs, hu, hd, ho, hi, he, pick_eq_iff.mpr hp ▸ ha⟩
    · rintro ⟨hp, hs, hu, hd, ho, hi, he, ha⟩
      refine ⟨⟨hp, hs, hu, hd, ho, hi, he, ho.symm⟩, ?_⟩
      rw [pick_eq_iff.mpr hi, pick_eq_iff.mpr he]
      exact (pick_eq_iff.mpr hp).symm ▸ ha

theorem listed_press {s : App} (h : Listed x s.form) (e : Event) : Listed x (press x s e).1.form := by
  have hs : ∀ k, Listed x (select x s k).form := fun k => by
    rw [select]
    split
    · exact listed_selected x h _
    · exact h
  cases e with
  | typeText k t => exact listed_typeText x h k t
  | choose k i => exact listed_choose x h k i
  | first | last => exact hs _
  | click | next | prev =>
    simp only [press]
    split
    · first | exact h | exact hs _
    · first | exact h | exact hs _
  | importCSV | submit | submitAll => exact h

theorem listed_after (es : List Event) : Listed x (after (press x) (load x) es).form :=
  after_inv (P := fun s : App => Listed x s.form) (fun _ e h => listed_press x h e) es (listed_load x)

/-- Whatever was done before, submitting the rows one by one creates the users Submit
All creates just when the rows agree. -/
theorem walk_eq_iff (es : List Event) :
    let s := after (press x) (load x) es
    (outputs (press x) s (walk s.rows.length)).flatten = (press x s .submitAll).2 ↔
      Agrees x s.form.pathItems (s.form.box .domain) (s.form.box .path) (s.form.box .description)
        (s.form.box .department) s.rows := by
  intro s
  rw [outputs_walk]
  exact browse_eq_iff x s.rows (listed_after x es)

end Espo.Anuc
