import EspoScripts.Anuc.Submit

/-!
# The csv columns of ANCU.PS1

ANCU.PS1, the next version of the script, has two more columns in the csv
list, `Fax` and `Mobile`, in front of `StreetAddress`. Submit All still reads
the columns behind them by their old numbers, and these two by numbers behind
the last one.

`submitAll13_import` says what the users of a csv file then are: the street
address is the fax number, the logon name the postal code, the user principal
name the password, and the password the state.
-/

namespace Espo.Anuc

open Espo.Cmd

/-- The columns of the csv list besides `ID`. -/
inductive Column where
  | known (h : Header)
  | fax | mobile
deriving DecidableEq

/-- `$Headers`, without `ID`. -/
def headers13 : List Column :=
  [.known .domain, .known .path, .known .firstName, .known .lastName, .known .office, .known .title,
    .known .description, .known .department, .known .company, .known .phone, .fax, .mobile,
    .known .streetAddress, .known .city, .known .state, .known .postalCode, .known .password,
    .known .sAMAccountName, .known .userPrincipalName, .known .displayName]

/-- The options of the new version, and `ToLower()` of the culture it runs in. -/
structure Options13 extends Options where
  toLower : Line → Line
  lowerCaseUserNames : Line
  scriptPath : Line
  userDirectory : Line
  homeDrive : Line
  homePage : Line
  country : Line

/-- The parameters of New-ADUser in the new version; `$Fax` may be `$null`. -/
structure User13 extends User where
  fax : Option Line
  mobile : Line
  country : Line
  homePage : Line
  scriptPath : Line
  homeDirectory : Line
  homeDrive : Line
deriving DecidableEq

/-- An entry of a csv file. -/
abbrev Entry13 := Column → Line

variable (x : Options13)

/-- `ToLower()` where the user names are to be lower case. -/
def lowerName (t : Line) : Line := if textEq x.lowerCaseUserNames "True".toList then x.toLower t else t

/-- The name generated for a column that is empty. -/
def generated13 (v : Vars) : Header → Line
  | .sAMAccountName => setSAMAccountName x.toOptions (lowerName x v.givenName) (lowerName x v.surname)
  | .userPrincipalName => setUPN x.toOptions (lowerName x v.givenName) (lowerName x v.surname) v.domain
  | .displayName => setDisplayName x.toOptions v.givenName v.surname
  | _ => []

/-- A column of an entry: the variables, and the SubItem added. -/
def importColumn13 (e : Entry13) (s : Vars × List Line) : Column → Vars × List Line
  | .known h =>
    let v := s.1.set (e (.known h)) h
    (v, s.2 ++ [if e (.known h) = [] then generated13 x v h else e (.known h)])
  | c => (s.1, s.2 ++ [e c])

/-- The columns of an entry behind its ID. -/
def importColumns13 (v : Vars) (i : Nat) (e : Entry13) : Vars × List Line :=
  headers13.foldl (importColumn13 x e) (v, [Nat.toDigits 10 i])

/-- The SubItems of the rows of a csv file. -/
def importCSV13 (v : Vars) (i : Nat) : List Entry13 → List (List Line)
  | [] => []
  | e :: es => (importColumns13 x v i e).2 :: importCSV13 (importColumns13 x v i e).1 (i + 1) es

/-- The body of `$btnSubmitAll_Click`; a SubItem that does not exist leaves `$null`. -/
def submitRow13 (r : List Line) : User13 where
  name := r.getD 3 [] ++ ' ' :: r.getD 4 []
  givenName := r.getD 3 []
  surname := r.getD 4 []
  path := r.getD 2 []
  samAccountName := r.getD 16 []
  userPrincipalName := r.getD 17 []
  displayName := r.getD 18 []
  accountPassword := r.getD 15 []
  changePasswordAtLogon := textEq x.changeAtLogon "True".toList
  enabled := textEq x.accountEnabled "True".toList
  officePhone := r.getD 10 []
  description := r.getD 7 []
  title := r.getD 6 []
  department := r.getD 8 []
  company := r.getD 9 []
  office := r.getD 5 []
  streetAddress := r.getD 11 []
  city := r.getD 12 []
  state := r.getD 13 []
  postalCode := r.getD 14 []
  fax := r[21]?
  mobile := r.getD 20 []
  country := x.country
  homePage := x.homePage
  scriptPath := x.scriptPath
  homeDirectory := x.userDirectory ++ r.getD 16 []
  homeDrive := x.homeDrive

/-- A column of an entry, or where it is empty the name generated from the entry. -/
def own13 (e : Entry13) (h : Header) : Line :=
  if e (.known h) = [] then
    generated13 x ⟨e (.known .firstName), e (.known .lastName), e (.known .domain)⟩ h
  else e (.known h)

/-- The user Submit All creates for an entry. -/
def entryUser13 (e : Entry13) : User13 where
  name := e (.known .firstName) ++ ' ' :: e (.known .lastName)
  givenName := e (.known .firstName)
  surname := e (.known .lastName)
  path := e (.known .path)
  samAccountName := e (.known .postalCode)
  userPrincipalName := e (.known .password)
  displayName := own13 x e .sAMAccountName
  accountPassword := e (.known .state)
  changePasswordAtLogon := textEq x.changeAtLogon "True".toList
  enabled := textEq x.accountEnabled "True".toList
  officePhone := e (.known .phone)
  description := e (.known .description)
  title := e (.known .title)
  department := e (.known .department)
  company := e (.known .company)
  office := e (.known .office)
  streetAddress := e .fax
  city := e .mobile
  state := e (.known .streetAddress)
  postalCode := e (.known .city)
  fax := none
  mobile := own13 x e .displayName
  country := x.country
  homePage := x.homePage
  scriptPath := x.scriptPath
  homeDirectory := x.userDirectory ++ e (.known .postalCode)
  homeDrive := x.homeDrive

theorem own13_of (e : Entry13) {h : Header}
    (hh : h ∉ [Header.sAMAccountName, .userPrincipalName, .displayName]) : own13 x e h = e (.known h) := by
  have hg : ∀ v, generated13 x v h = [] := fun v => by
    cases h <;> first | rfl | exact absurd (by decide) hh
  rw [own13, hg]
  split
  · rename_i he
    exact he.symm
  · rfl

/-- A row of an entry: the columns in order, the variables set before they are used. -/
theorem importColumns13_eq (v : Vars) (i : Nat) (e : Entry13) : (importColumns13 x v i e).2 =
    Nat.toDigits 10 i :: headers13.map fun c => match c with
      | .known h => own13 x e h
      | c => e c := by
  simp only [importColumns13, headers13, List.foldl_cons, List.foldl_nil, importColumn13, Vars.set, own13,
    generated13, List.map_cons, List.map_nil, List.cons_append, List.nil_append]

theorem submitRow13_import (v : Vars) (i : Nat) (e : Entry13) :
    submitRow13 x (importColumns13 x v i e).2 = entryUser13 x e := by
  have ho : ∀ h ∈ headers.take 15, own13 x e h = e (.known h) := fun h hh => by
    apply own13_of
    revert h
    decide
  rw [importColumns13_eq]
  simp only [headers13, List.map_cons, List.map_nil, ho .domain (by decide), ho .path (by decide),
    ho .firstName (by decide), ho .lastName (by decide), ho .office (by decide), ho .title (by decide),
    ho .description (by decide), ho .department (by decide), ho .company (by decide), ho .phone (by decide),
    ho .streetAddress (by decide), ho .city (by decide), ho .state (by decide), ho .postalCode (by decide),
    ho .password (by decide)]
  rfl

/-- The users Submit All creates for a csv file. -/
theorem submitAll13_import : ∀ (es : List Entry13) (v : Vars) (i : Nat),
    (importCSV13 x v i es).map (submitRow13 x) = es.map (entryUser13 x)
  | [], _, _ => rfl
  | e :: es, v, i => by
    rw [importCSV13, List.map_cons, submitRow13_import, submitAll13_import es, List.map_cons]

end Espo.Anuc
