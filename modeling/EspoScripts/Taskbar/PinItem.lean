import Mathlib.Data.List.Chain
import EspoScripts.Framework.Replace
import EspoScripts.Framework.VbsText
import EspoScripts.Framework.Vbs

/-!
# PinItem.vbs

The script pins an item to the start menu or the taskbar. Its command line is
read under `On Error Resume Next`: an argument without a colon is known by the
error that `Left` raises, and `/q` raises another one, which is still there
when the next argument is looked at.

`parse_iff` says which command lines are accepted (`Accepted`), among them
none with an item directly behind `/q`; `invoked_iff` and `exit_iff` say for
any command line which verbs of the item are run, and when the exit code is 1.
-/

namespace Espo.Taskbar

open Espo.Cmd Espo.Vbs

/-- A verb of an item, and how it ends. -/
structure Verb where
  name : Line
  doIt : Option RuntimeError
deriving DecidableEq

/-- The program that runs the script, the script's name, and the files and items;
an item that the shell does not find has no verbs. -/
structure Host where
  fullName : Line
  scriptName : Line
  fileExists : Line → Bool
  getParentFolderName : Line → Line
  getFileName : Line → Line
  verbs : Line → Line → Option (List Verb)

/-- The variables of `intParseCmdLine`, `Err`, and the lines written so far. -/
structure State where
  strPath : Line
  blnTaskbar : Bool
  strOptionsMessage : Line
  strFlag : Line
  err : Option RuntimeError
  echoed : List Line

inductive OpMode where
  | error | showUsage | proceed
deriving DecidableEq

inductive Program where
  | error | wscript | cscript
deriving DecidableEq

/-- Error 500, under `Option Explicit`. -/
def variableUndefined : RuntimeError := ⟨500, "Variable is undefined".toList, by decide⟩

/-- `LCase`. -/
def lcase (t : Line) : Line := t.map Char.toLower

def crlf : Line := ['\r', '\n']

/-- The words that ask for help. -/
def help : List Line :=
  ["".toList, "help".toList, "/h".toList, "\\h".toList, "-h".toList, "\\?".toList, "/?".toList, "?".toList,
    "h".toList]

/-! ## The host -/

/-- `InStrRev(s, c, i)`, where `i` is a place in `s`. -/
def instrRev (s : Line) (c : Char) (i : Nat) : Nat :=
  if c ∈ s.take i then i - ((s.take i).reverse.takeWhile (· != c)).length else 0

/-- `intChkProgram`, and the lines it writes. -/
def intChkProgram (strFullName : Line) : Program × List Line :=
  let i := instr (lcase strFullName) ".exe".toList
  if i = 0 then (.error, [])
  else
    let j := instrRev strFullName '\\' i
    if j = 0 then (.error, [])
    else
      let strCommand := mid strFullName (j + 1) (i - j - 1)
      if lcase strCommand = "cscript".toList then (.cscript, [])
      else if lcase strCommand = "wscript".toList then (.wscript, [])
      else (.error, ["An unexpected program is used to run this script.".toList,
        "Only CScript.Exe or WScript.Exe can be used to run this script.".toList])

/-! ## The command line -/

/-- `strFlag = Left(a, InStr(1, a, ":") - 1)`. -/
def readFlag (s : State) (a : Line) : State :=
  if instr a [':'] = 0 then { s with err := some invalidCall }
  else { s with strFlag := left a (instr a [':'] - 1) }

/-- An argument; one that is not known ends the procedure. The assignment to `blnQuiet`,
which is not declared, and the line that reads it are skipped. -/
def argument (s : State) (a : Line) : Except State State :=
  let s := readFlag s a
  if s.err.isSome then
    let s := { s with err := none }
    if lcase a = "/q".toList then .ok { s with err := some variableUndefined }
    else if lcase a = "/taskbar".toList then
      .ok { s with
        blnTaskbar := true
        strOptionsMessage :=
          s.strOptionsMessage ++ "Pin to Taskbar instead of Start Menu: True".toList ++ crlf }
    else .error { s with echoed := s.echoed ++ [a ++ " is not recognized as a valid input.".toList] }
  else
    let strSwitchValue := right a (a.length - (s.strFlag.length + 1))
    if lcase s.strFlag = "/item".toList then
      .ok { s with
        strPath := strSwitchValue
        strOptionsMessage :=
          s.strOptionsMessage ++ "Item to pin to Start Menu or Taskbar: ".toList ++ strSwitchValue ++ crlf }
    else
      .error { s with
        echoed := s.echoed ++ ["Invalid flag ".toList ++ s.strFlag ++ ".".toList,
          "Please check the input and try again.".toList] }

/-- `strOptionsMessage` in front of the arguments. -/
def heading (scriptName : Line) : Line :=
  crlf ++ scriptName ++ crlf ++ crlf ++ "Command Line Options:".toList ++ crlf ++
    "=======================================".toList ++ crlf

/-- What follows the arguments; `Exit Function` clears `Err`. -/
def finish : Except State State → OpMode × State
  | .error s => (.error, { s with err := none })
  | .ok s =>
    if s.strPath = [] then
      (.error, { s with
        err := none
        echoed := s.echoed ++ ["The /item switch is required".toList,
          "Please check the input and try again.".toList] })
    else (.proceed, s)

/-- `intParseCmdLine`; without arguments the flag stays empty. -/
def intParseCmdLine (scriptName : Line) (arrArguments : List Line) : OpMode × State :=
  let strFlag := arrArguments.headD []
  if help.contains strFlag then (.showUsage, ⟨[], false, [], strFlag, none, []⟩)
  else finish (arrArguments.foldlM argument ⟨[], false, heading scriptName, strFlag, none, []⟩)

/-! ## The item -/

/-- The verb that is looked for. -/
def wanted (blnTaskbar : Bool) : Line :=
  if blnTaskbar then "Pin to Taskbar".toList else "Pin to Start Menu".toList

/-- `Replace(itemverb.name, "&", "") = …`. -/
def Verb.isWanted (blnTaskbar : Bool) (v : Verb) : Bool := replaceAll ['&'] [] v.name == wanted blnTaskbar

/-- The verbs run so far, and `Err`. -/
def runVerb (blnTaskbar : Bool) (s : List Verb × Option RuntimeError) (v : Verb) :
    List Verb × Option RuntimeError :=
  if v.isWanted blnTaskbar then (s.1 ++ [v], v.doIt.or s.2) else s

/-- What a run writes, the verbs it runs, and its exit code. -/
structure Outcome where
  echoed : List Line
  invoked : List Verb
  exitCode : Nat

/-- `CStr` of a Boolean. -/
def cstr (b : Bool) : Line := if b then "True".toList else "False".toList

/-- `PinItem`: its value, the lines written and the verbs run. For an item that is not
found the loop runs once, on no verb. -/
def pinItem (h : Host) (strlPath : Line) (blnTaskbar : Bool) : Bool × List Line × List Verb :=
  if h.fileExists strlPath then
    let strFolder := h.getParentFolderName strlPath
    let strFile := h.getFileName strlPath
    let r := match h.verbs strFolder strFile with
      | none => ([], some objectRequired)
      | some vs => vs.foldl (runVerb blnTaskbar) ([], none)
    (r.2.isNone, ["Folder: ".toList ++ strFolder, "File: ".toList ++ strFile], r.1)
  else (false, ["File to pin does not exist.".toList, "Please check the input and try again.".toList], [])

/-- `ShowUsage`. -/
def showUsage (scriptName : Line) : List Line :=
  ["This script is used to Pin items to the Start Menu or Taskbar.".toList, [],
    "Usage: cscript ".toList ++ scriptName ++ " [options]".toList, [], "Options:".toList, [],
    " /item:<PathName>       Path of item to pin.".toList, [],
    " /taskbar               (Optional) Pin to Taskbar instead of Start Menu.".toList, [],
    " /?                     (Optional) Displays this help text.".toList, [], [], []]

/-- The report of an error that is left by `intParseCmdLine`. -/
def parseError : Option RuntimeError → List Line
  | none => []
  | some e =>
    ("Error 0X".toList ++ hex e.number.toNat ++ " occurred in parsing the command line.".toList) ::
      if e.description = [] then [] else ["Error description: ".toList ++ e.description ++ ".".toList]

/-- What is written when the script is not run by CScript. -/
def useCScript : Line :=
  "Please run this script using CScript.".toList ++ crlf ++ "This can be achieved by".toList ++ crlf ++
    "1. Using \"CScript MODIFYUSERS.vbs arguments\" for Windows 95/98 or".toList ++ crlf ++
    "2. Changing the default Windows Scripting Host setting to CScript".toList ++ crlf ++
    "    using \"CScript //H:CScript //S\" and running the script using".toList ++ crlf ++
    "    \"MODIFYUSERS.vbs arguments\" for Windows NT.".toList

/-- The script from the command line on. -/
def run (h : Host) (arrArguments : List Line) : Outcome :=
  let r := intParseCmdLine h.scriptName arrArguments
  let echoed := r.2.echoed ++ parseError r.2.err
  match r.1 with
  | .showUsage => ⟨echoed ++ showUsage h.scriptName, [], 0⟩
  | .error => ⟨echoed, [], 0⟩
  | .proceed =>
    let p := pinItem h r.2.strPath r.2.blnTaskbar
    ⟨echoed ++ r.2.strOptionsMessage :: p.2.1 ++ ["Item pinned: ".toList ++ cstr p.1], p.2.2, if p.1 then 0 else 1⟩

/-- The script. -/
def main (h : Host) (arrArguments : List Line) : Outcome :=
  match intChkProgram h.fullName with
  | (.cscript, _) => run h arrArguments
  | (.wscript, ls) => ⟨ls ++ [useCScript], [], 0⟩
  | (.error, ls) => ⟨ls, [], 0⟩

/-! ## Accepted command lines -/

/-- The argument `/item:v`. -/
def IsItem (a v : Line) : Prop := ∃ f : Line, lcase f = "/item".toList ∧ a = f ++ ':' :: v

/-- A switch without a value. -/
def IsSwitch (t : String) (a : Line) : Prop := lcase a = t.toList

instance (t : String) (a : Line) : Decidable (IsSwitch t a) := inferInstanceAs (Decidable (lcase a = t.toList))

/-- A command line that is accepted, with the path and the place it asks for. -/
structure Accepted (args : List Line) (strPath : Line) (blnTaskbar : Bool) : Prop where
  no_help : ∀ a ∈ args.head?, a ∉ help
  known : ∀ a ∈ args, (∃ v, IsItem a v) ∨ IsSwitch "/taskbar" a ∨ IsSwitch "/q" a
  order : args.IsChain fun a b => IsSwitch "/q" a → ∀ v, ¬ IsItem b v
  path : ∃ as a bs, args = as ++ a :: bs ∧ IsItem a strPath ∧ ∀ b ∈ bs, ∀ v, ¬ IsItem b v
  path_ne : strPath ≠ []
  taskbar : blnTaskbar = true ↔ ∃ a ∈ args, IsSwitch "/taskbar" a

/-- The value of `/item`, if an argument is that. -/
def value (a : Line) : Option Line :=
  if ':' ∈ a ∧ lcase (a.takeWhile (· != ':')) = "/item".toList then
    some (a.drop ((a.takeWhile (· != ':')).length + 1))
  else none

section

variable {a f v : Line}

theorem takeWhile_colon (hf : ':' ∉ f) : (f ++ ':' :: v).takeWhile (· != ':') = f := by
  have hp : ∀ c ∈ f, (c != ':') = true := fun c hc => bne_iff_ne.mpr fun e => hf (e ▸ hc)
  rw [List.takeWhile_append_of_pos hp, List.takeWhile_cons_of_neg (by simp), List.append_nil]

theorem value_append (hf : ':' ∉ f) : value (f ++ ':' :: v) = if lcase f = "/item".toList then some v else none := by
  have hd : (f ++ ':' :: v).drop (f.length + 1) = v := by
    rw [show f ++ ':' :: v = (f ++ [':']) ++ v by simp, List.drop_left' (by simp)]
  have hm : ':' ∈ f ++ ':' :: v := List.mem_append_right f List.mem_cons_self
  rw [value, takeWhile_colon hf, hd]
  simp only [hm, true_and]

theorem value_none (h : ':' ∉ a) : value a = none := if_neg fun hv => h hv.1

theorem colon_notMem {t : String} (h : lcase a = t.toList) (ht : ':' ∉ t.toList) : ':' ∉ a := fun hm =>
  ht (h ▸ List.mem_map_of_mem (f := Char.toLower) hm)

theorem value_eq_some_iff : value a = some v ↔ IsItem a v := by
  constructor
  · intro h
    by_cases hc : ':' ∈ a
    · obtain ⟨f, w, rfl, hf⟩ := List.eq_append_cons_of_mem hc
      rw [value_append hf] at h
      split at h
      · exact ⟨f, ‹_›, by rw [Option.some.inj h]⟩
      · cases h
    · rw [value_none hc] at h
      cases h
  · rintro ⟨f, hf, rfl⟩
    rw [value_append (colon_notMem hf (by decide)), if_pos hf]

theorem value_eq_none_iff : value a = none ↔ ∀ v, ¬ IsItem a v := by
  rw [Option.eq_none_iff_forall_ne_some]
  exact forall_congr' fun v => not_congr value_eq_some_iff

end

/-! ## One argument -/

/-- What a state says to the arguments behind it. -/
def State.view (s : State) : Line × Bool × Option RuntimeError := (s.strPath, s.blnTaskbar, s.err)

/-- The error an argument leaves. -/
def errOf (a : Line) : Option RuntimeError := if IsSwitch "/q" a then some variableUndefined else none

/-- What an argument makes of it. -/
def next (u : Line × Bool × Option RuntimeError) (a : Line) : Line × Bool × Option RuntimeError :=
  ((value a).getD u.1, u.2.1 || decide (IsSwitch "/taskbar" a), errOf a)

def Known (a : Line) : Prop := (value a).isSome ∨ IsSwitch "/taskbar" a ∨ IsSwitch "/q" a

section

variable {s : State} {a : Line}

theorem readFlag_none (h : ':' ∉ a) : readFlag s a = { s with err := some invalidCall } := by
  have hi : instr a [':'] = 0 := Nat.eq_zero_of_not_pos fun hp => h (instr_char_pos_iff.mp hp)
  rw [readFlag, if_pos hi]

theorem readFlag_append {f v : Line} (hf : ':' ∉ f) : readFlag s (f ++ ':' :: v) = { s with strFlag := f } := by
  have hm : ':' ∈ f ++ ':' :: v := by simp
  have hi : instr (f ++ ':' :: v) [':'] ≠ 0 := Nat.ne_of_gt (instr_char_pos_iff.mpr hm)
  rw [readFlag, if_neg hi, left_instr hm, takeWhile_colon hf]

theorem not_isSwitch {t : String} (ht : ':' ∉ t.toList) (h : ':' ∈ a) : ¬ IsSwitch t a :=
  fun hs => colon_notMem hs ht h

/-- An argument without a colon, which meets the error of `Left` whatever was there. -/
theorem argument_none (h : ':' ∉ a) (u : Line × Bool × Option RuntimeError) :
    (∃ s', argument s a = .ok s' ∧ s'.view = u) ↔
      (IsSwitch "/taskbar" a ∨ IsSwitch "/q" a) ∧ u = next s.view a := by
  simp only [argument, readFlag_none h, Option.isSome_some, if_true]
  by_cases hq : lcase a = "/q".toList
  · have hs : IsSwitch "/q" a := hq
    have ht : ¬ IsSwitch "/taskbar" a := fun ht => absurd (hq.symm.trans ht) (by decide)
    have hn : next s.view a = (s.strPath, s.blnTaskbar, some variableUndefined) := by
      simp [next, value_none h, errOf, hs, ht, State.view]
    rw [if_pos hq, hn]
    simp [hs, State.view, eq_comm]
  · have hs : ¬ IsSwitch "/q" a := hq
    rw [if_neg hq]
    by_cases ht : lcase a = "/taskbar".toList
    · have ht' : IsSwitch "/taskbar" a := ht
      have hn : next s.view a = (s.strPath, true, none) := by
        simp [next, value_none h, errOf, hs, ht', State.view]
      rw [if_pos ht, hn]
      simp [ht', State.view, eq_comm]
    · have ht' : ¬ IsSwitch "/taskbar" a := ht
      rw [if_neg ht]
      simp [hs, ht']

/-- One with a colon, which is taken for one without if an error is left. -/
theorem argument_colon {f v : Line} (hf : ':' ∉ f) (u : Line × Bool × Option RuntimeError) :
    (∃ s', argument s (f ++ ':' :: v) = .ok s' ∧ s'.view = u) ↔
      lcase f = "/item".toList ∧ s.err = none ∧ u = next s.view (f ++ ':' :: v) := by
  have hm : ':' ∈ f ++ ':' :: v := by simp
  have hq : ¬ IsSwitch "/q" (f ++ ':' :: v) := not_isSwitch (by decide) hm
  have ht : ¬ IsSwitch "/taskbar" (f ++ ':' :: v) := not_isSwitch (by decide) hm
  have hr : right (f ++ ':' :: v) ((f ++ ':' :: v).length - (f.length + 1)) = v := by
    have hl : (f ++ ':' :: v).length - (f.length + 1) = v.length := by
      rw [List.length_append, List.length_cons]
      omega
    rw [hl, show f ++ ':' :: v = (f ++ [':']) ++ v by simp]
    exact right_append rfl
  simp only [argument, readFlag_append hf, hr]
  cases he : s.err with
  | some e =>
    have hq' : ¬ lcase (f ++ ':' :: v) = "/q".toList := hq
    have ht' : ¬ lcase (f ++ ':' :: v) = "/taskbar".toList := ht
    rw [Option.isSome_some, if_pos rfl, if_neg hq', if_neg ht']
    refine iff_of_false ?_ fun h => absurd h.2.1 (Option.some_ne_none e)
    rintro ⟨_, h, _⟩
    cases h
  | none =>
    rw [Option.isSome_none, if_neg (by decide)]
    by_cases hi : lcase f = "/item".toList
    · have hn : next s.view (f ++ ':' :: v) = (v, s.blnTaskbar, none) := by
        rw [next, value_append hf, if_pos hi, errOf, if_neg hq, decide_eq_false ht, Bool.or_false]
        rfl
      rw [if_pos hi, hn]
      constructor
      · rintro ⟨_, h, hu⟩
        cases h
        exact ⟨hi, rfl, hu.symm⟩
      · rintro ⟨-, -, rfl⟩
        exact ⟨_, rfl, rfl⟩
    · rw [if_neg hi]
      refine iff_of_false ?_ fun h => hi h.1
      rintro ⟨_, h, _⟩
      cases h

/-- An argument is taken if it is known, and no item where an error is left. -/
theorem argument_iff (u : Line × Bool × Option RuntimeError) :
    (∃ s', argument s a = .ok s' ∧ s'.view = u) ↔
      Known a ∧ (s.err ≠ none → value a = none) ∧ u = next s.view a := by
  by_cases hc : ':' ∈ a
  · obtain ⟨f, v, rfl, hf⟩ := List.eq_append_cons_of_mem hc
    have hq : ¬ IsSwitch "/q" (f ++ ':' :: v) := not_isSwitch (by decide) hc
    have ht : ¬ IsSwitch "/taskbar" (f ++ ':' :: v) := not_isSwitch (by decide) hc
    rw [argument_colon hf, Known, value_append hf]
    by_cases hi : lcase f = "/item".toList
    · rw [if_pos hi]
      simp [hi]
    · rw [if_neg hi]
      exact iff_of_false (fun h => hi h.1) fun h => by simp [hq, ht] at h
  · rw [argument_none hc, Known, value_none hc]
    simp

theorem argument_exists {P : Line × Bool × Option RuntimeError → Prop} :
    (∃ s', argument s a = .ok s' ∧ P s'.view) ↔ Known a ∧ (s.err ≠ none → value a = none) ∧ P (next s.view a) := by
  constructor
  · rintro ⟨s', h, hp⟩
    obtain ⟨hk, hv, hn⟩ := (argument_iff s'.view).mp ⟨s', h, rfl⟩
    exact ⟨hk, hv, hn ▸ hp⟩
  · rintro ⟨hk, hv, hp⟩
    obtain ⟨s', h, hn⟩ := (argument_iff (next s.view a)).mpr ⟨hk, hv, rfl⟩
    exact ⟨s', h, hn ▸ hp⟩

end

/-! ## All arguments -/

/-- An item does not stand directly behind `/q`. -/
def Follows (a b : Line) : Prop := IsSwitch "/q" a → value b = none

theorem errOf_ne_none {a : Line} : errOf a ≠ none ↔ IsSwitch "/q" a := by
  rw [errOf]
  split <;> simp [*]

/-- The arguments are taken one by one as long as they are known and no item meets an
error; the last item gives the path. -/
theorem foldlM_argument_iff (u : Line × Bool × Option RuntimeError) : ∀ (args : List Line) {s : State},
    (∃ s', args.foldlM argument s = .ok s' ∧ s'.view = u) ↔
      (∀ a ∈ args, Known a) ∧ (s.err ≠ none → ∀ b ∈ args.head?, value b = none) ∧ args.IsChain Follows ∧
        u = ((args.filterMap value).getLast?.getD s.strPath,
          s.blnTaskbar || args.any (fun a => decide (IsSwitch "/taskbar" a)),
          (args.getLast?.map errOf).getD s.err)
  | [], s => by simp [State.view, pure, Except.pure, eq_comm]
  | a :: args, s => by
    have hstep : (∃ s', (a :: args).foldlM argument s = .ok s' ∧ s'.view = u) ↔
        ∃ s₁, argument s a = .ok s₁ ∧ ∃ s', args.foldlM argument s₁ = .ok s' ∧ s'.view = u := by
      rw [List.foldlM_cons]
      cases argument s a with
      | error e => simp [bind, Except.bind]
      | ok s₁ => simp [bind, Except.bind]
    have hp : ((a :: args).filterMap value).getLast?.getD s.strPath =
        (args.filterMap value).getLast?.getD ((value a).getD s.strPath) := by
      rw [List.filterMap_cons]
      cases value a with
      | none => rfl
      | some v => rw [List.getLast?_cons, Option.getD_some, Option.getD_some]
    have he : (((a :: args).getLast?).map errOf).getD s.err = (args.getLast?.map errOf).getD (errOf a) := by
      rw [List.getLast?_cons, Option.map_some, Option.getD_some]
      cases args.getLast? with
      | none => rfl
      | some b => rfl
    have ih := fun s₁ : State => foldlM_argument_iff u args (s := s₁)
    rw [hstep, exists_congr fun s₁ => and_congr_right fun _ => ih s₁]
    refine (argument_exists (P := fun w => (∀ a ∈ args, Known a) ∧
      (w.2.2 ≠ none → ∀ b ∈ args.head?, value b = none) ∧ args.IsChain Follows ∧
        u = ((args.filterMap value).getLast?.getD w.1,
          w.2.1 || args.any (fun a => decide (IsSwitch "/taskbar" a)),
          (args.getLast?.map errOf).getD w.2.2))).trans ?_
    rw [hp, he, List.forall_mem_cons, List.isChain_cons, List.any_cons, ← Bool.or_assoc]
    simp only [next, State.view, errOf_ne_none, List.head?_cons, Option.mem_def, Option.some.injEq, forall_eq',
      Follows]
    constructor
    · rintro ⟨hk, hv, hks, hvs, hc, hu⟩
      exact ⟨⟨hk, hks⟩, hv, ⟨fun b hb hq => hvs hq b hb, hc⟩, hu⟩
    · rintro ⟨⟨hk, hks⟩, hv, ⟨hvs, hc⟩, hu⟩
      exact ⟨hk, hv, hks, fun hq b hb => hvs b hb hq, hc, hu⟩

theorem known_iff {a : Line} : Known a ↔ (∃ v, IsItem a v) ∨ IsSwitch "/taskbar" a ∨ IsSwitch "/q" a := by
  rw [Known, Option.isSome_iff_exists]
  exact or_congr_left (exists_congr fun v => value_eq_some_iff)

theorem getLast?_value_iff {args : List Line} {p : Line} : (args.filterMap value).getLast? = some p ↔
    ∃ as a bs, args = as ++ a :: bs ∧ IsItem a p ∧ ∀ b ∈ bs, ∀ v, ¬ IsItem b v := by
  rw [List.getLast?_filterMap, List.findSome?_eq_some_iff]
  constructor
  · rintro ⟨bs, a, as, he, ha, hb⟩
    refine ⟨as.reverse, a, bs.reverse, ?_, value_eq_some_iff.mp ha, fun b hm => ?_⟩
    · rw [← args.reverse_reverse, he]
      simp
    · exact value_eq_none_iff.mp (hb b (List.mem_reverse.mp hm))
  · rintro ⟨as, a, bs, rfl, ha, hb⟩
    refine ⟨bs.reverse, a, as.reverse, by simp, value_eq_some_iff.mpr ha, fun b hm => ?_⟩
    exact value_eq_none_iff.mpr (hb b (List.mem_reverse.mp hm))

theorem accepted_iff {args : List Line} {p : Line} {t : Bool} : Accepted args p t ↔
    (args.headD [] ∉ help ∧ ∀ a ∈ args, Known a) ∧ args.IsChain Follows ∧
      ((args.filterMap value).getLast? = some p ∧ p ≠ []) ∧
        t = args.any fun a => decide (IsSwitch "/taskbar" a) := by
  have hc : args.IsChain Follows ↔ args.IsChain fun a b => IsSwitch "/q" a → ∀ v, ¬ IsItem b v :=
    List.IsChain.iff fun a b => imp_congr_right fun _ => value_eq_none_iff
  have ht : (t = args.any fun a => decide (IsSwitch "/taskbar" a)) ↔
      (t = true ↔ ∃ a ∈ args, IsSwitch "/taskbar" a) := by
    rw [Bool.eq_iff_iff, List.any_eq_true]
    simp only [decide_eq_true_eq]
  rw [hc, ht, getLast?_value_iff]
  constructor
  · intro h
    refine ⟨⟨?_, fun a ha => known_iff.mpr (h.known a ha)⟩, h.order, ⟨h.path, h.path_ne⟩, h.taskbar⟩
    obtain ⟨as, a, bs, rfl, -⟩ := h.path
    cases as with
    | nil => exact h.no_help a rfl
    | cons b as => exact h.no_help b rfl
  · rintro ⟨⟨hh, hk⟩, ho, ⟨hp, hn⟩, ht⟩
    refine ⟨?_, fun a ha => known_iff.mp (hk a ha), ho, hp, hn, ht⟩
    intro a ha
    cases args with
    | nil => cases ha
    | cons b as => exact Option.some.inj ha ▸ hh

theorem finish_iff {r : Except State State} {p : Line} {t : Bool} {e : Option RuntimeError} :
    ((finish r).1 = .proceed ∧ (finish r).2.view = (p, t, e)) ↔ p ≠ [] ∧ ∃ s', r = .ok s' ∧ s'.view = (p, t, e) := by
  cases r with
  | error s => simp [finish]
  | ok s =>
    rw [finish]
    by_cases hs : s.strPath = []
    · rw [if_pos hs]
      refine iff_of_false (fun h => by cases h.1) ?_
      rintro ⟨hp, s', h, hv⟩
      cases h
      exact hp ((congrArg Prod.fst hv).symm.trans hs)
    · rw [if_neg hs]
      constructor
      · intro h
        exact ⟨fun hp => hs ((congrArg Prod.fst h.2).trans hp), s, rfl, h.2⟩
      · rintro ⟨-, s', h, hv⟩
        cases h
        exact ⟨rfl, hv⟩

/-- The procedure goes on, with a path, a place and an error left, just for the command
lines that are accepted; the error is that of `/q` at the end. -/
theorem proceeds_iff (scriptName : Line) {args : List Line} {p : Line} {t : Bool} {e : Option RuntimeError} :
    ((intParseCmdLine scriptName args).1 = .proceed ∧ (intParseCmdLine scriptName args).2.view = (p, t, e)) ↔
      Accepted args p t ∧ e = args.getLast?.bind errOf := by
  have he : (args.getLast?.map errOf).getD none = args.getLast?.bind errOf := by
    cases args.getLast? <;> rfl
  have hg : ∀ o : Option Line, p ≠ [] → (p = o.getD [] ↔ o = some p) := by
    intro o hp
    cases o with
    | none => exact iff_of_false hp (by simp)
    | some q => simp [eq_comm]
  rw [accepted_iff, intParseCmdLine]
  simp only [List.contains_iff_mem]
  by_cases hh : args.headD [] ∈ help
  · rw [if_pos hh]
    exact iff_of_false (fun h => by cases h.1) fun h => h.1.1.1 hh
  · rw [if_neg hh, finish_iff, foldlM_argument_iff (p, t, e) args, he]
    simp only [Bool.false_or, Prod.mk.injEq]
    constructor
    · rintro ⟨hp, hk, -, hc, hv, ht, hx⟩
      exact ⟨⟨⟨hh, hk⟩, hc, ⟨(hg _ hp).mp hv, hp⟩, ht⟩, hx⟩
    · rintro ⟨⟨⟨-, hk⟩, hc, ⟨hv, hp⟩, ht⟩, hx⟩
      exact ⟨hp, hk, fun h => absurd rfl h, hc, (hg _ hp).mpr hv, ht, hx⟩

theorem showUsage_iff (scriptName : Line) (args : List Line) :
    (intParseCmdLine scriptName args).1 = .showUsage ↔ args.headD [] ∈ help := by
  have hf : ∀ r : Except State State, (finish r).1 ≠ .showUsage := by
    intro r
    cases r with
    | error s => exact fun h => by cases h
    | ok s =>
      rw [finish]
      split <;> exact fun h => by cases h
  rw [intParseCmdLine]
  simp only [List.contains_iff_mem]
  split
  · exact iff_of_true rfl ‹_›
  · exact iff_of_false (hf _) ‹_›

/-- Without an argument, or if the first one asks for it, there is help. Otherwise the
script goes on just with the command lines that are accepted, with the path and the
place they ask for; an error is left to report if `/q` comes last. -/
theorem parse_iff (scriptName : Line) (args : List Line) :
    ((intParseCmdLine scriptName args).1 = .showUsage ↔ ∀ a ∈ args.head?, a ∈ help) ∧
      ∀ p t e, (intParseCmdLine scriptName args).1 = .proceed ∧
        (intParseCmdLine scriptName args).2.strPath = p ∧ (intParseCmdLine scriptName args).2.blnTaskbar = t ∧
          (intParseCmdLine scriptName args).2.err = e ↔
        Accepted args p t ∧ e = if ∃ a ∈ args.getLast?, IsSwitch "/q" a then some variableUndefined else none := by
  constructor
  · rw [showUsage_iff]
    cases args with
    | nil => exact iff_of_true (by decide) fun a ha => by cases ha
    | cons a args => exact ⟨fun h b hb => Option.some.inj hb ▸ h, fun h => h a rfl⟩
  · intro p t e
    have he : (if ∃ a ∈ args.getLast?, IsSwitch "/q" a then some variableUndefined else none) =
        args.getLast?.bind errOf := by
      cases args.getLast? with
      | none => simp
      | some a => simp [errOf]
    rw [he, ← proceeds_iff scriptName]
    simp [State.view]

/-! ## The script -/

/-- The command line is accepted, by CScript. -/
def Runs (h : Host) (args : List Line) (p : Line) (t : Bool) : Prop :=
  (intChkProgram h.fullName).1 = .cscript ∧ Accepted args p t

section

variable {h : Host} {args : List Line} {p : Line} {t : Bool}

theorem Accepted.unique {p' : Line} {t' : Bool} (ha : Accepted args p t) (hb : Accepted args p' t') :
    p = p' ∧ t = t' := by
  have h₁ := ((proceeds_iff [] (e := args.getLast?.bind errOf)).mpr ⟨ha, rfl⟩).2
  have h₂ := ((proceeds_iff [] (e := args.getLast?.bind errOf)).mpr ⟨hb, rfl⟩).2
  have he := h₁.symm.trans h₂
  exact ⟨congrArg Prod.fst he, congrArg (fun u => u.2.1) he⟩

/-- A run goes on to `PinItem`, or it ends with the code 0 and has done nothing. -/
theorem main_cases (h : Host) (args : List Line) :
    (∃ p t, Runs h args p t ∧ (main h args).invoked = (pinItem h p t).2.2 ∧
      (main h args).exitCode = if (pinItem h p t).1 then 0 else 1) ∨
    ((∀ p t, ¬ Runs h args p t) ∧ (main h args).invoked = [] ∧ (main h args).exitCode = 0) := by
  unfold main Runs
  rcases intChkProgram h.fullName with ⟨c, ls⟩
  cases c with
  | error => exact .inr ⟨fun p t hr => (by cases hr.1), rfl, rfl⟩
  | wscript => exact .inr ⟨fun p t hr => (by cases hr.1), rfl, rfl⟩
  | cscript =>
    have hp : ∀ {p t}, Accepted args p t → (intParseCmdLine h.scriptName args).1 = .proceed := fun ha =>
      ((proceeds_iff h.scriptName (e := args.getLast?.bind errOf)).mpr ⟨ha, rfl⟩).1
    dsimp only
    rw [run]
    cases hm : (intParseCmdLine h.scriptName args).1 with
    | error => exact .inr ⟨fun p t hr => absurd (hm.symm.trans (hp hr.2)) (by decide), rfl, rfl⟩
    | showUsage => exact .inr ⟨fun p t hr => absurd (hm.symm.trans (hp hr.2)) (by decide), rfl, rfl⟩
    | proceed => exact .inl ⟨_, _, ⟨rfl, ((proceeds_iff h.scriptName).mp ⟨hm, rfl⟩).1⟩, rfl, rfl⟩

/-- The verbs run are those looked for, and an error of any of them stays. -/
theorem foldl_runVerb : ∀ (vs is : List Verb) (e : Option RuntimeError),
    (vs.foldl (runVerb t) (is, e)).1 = is ++ vs.filter (·.isWanted t) ∧
      ((vs.foldl (runVerb t) (is, e)).2 = none ↔ e = none ∧ ∀ v ∈ vs, v.isWanted t → v.doIt = none)
  | [], is, e => by simp
  | v :: vs, is, e => by
    rw [List.foldl_cons, runVerb]
    by_cases hw : v.isWanted t = true
    · obtain ⟨h₁, h₂⟩ := foldl_runVerb vs (is ++ [v]) (v.doIt.or e)
      rw [if_pos hw]
      refine ⟨by rw [h₁, List.filter_cons_of_pos hw, List.append_assoc, List.singleton_append], ?_⟩
      rw [h₂, List.forall_mem_cons, Option.or_eq_none_iff]
      constructor
      · rintro ⟨⟨hv, he⟩, hs⟩
        exact ⟨he, fun _ => hv, hs⟩
      · rintro ⟨he, hv, hs⟩
        exact ⟨⟨hv hw, he⟩, hs⟩
    · obtain ⟨h₁, h₂⟩ := foldl_runVerb vs is e
      rw [if_neg hw]
      refine ⟨by rw [h₁, List.filter_cons_of_neg hw], ?_⟩
      rw [h₂, List.forall_mem_cons]
      exact and_congr_right fun _ => ⟨fun hs => ⟨fun hv => absurd hv hw, hs⟩, fun hs => hs.2⟩

end

/-- The verbs of the item a command line names. -/
def itemVerbs (h : Host) (p : Line) : Option (List Verb) :=
  if h.fileExists p then h.verbs (h.getParentFolderName p) (h.getFileName p) else none

theorem pinItem_invoked (h : Host) (p : Line) (t : Bool) :
    (pinItem h p t).2.2 = ((itemVerbs h p).getD []).filter (·.isWanted t) := by
  rw [pinItem, itemVerbs]
  split
  · dsimp only
    cases h.verbs (h.getParentFolderName p) (h.getFileName p) with
    | none => rfl
    | some vs => exact (foldl_runVerb vs [] none).1.trans (List.nil_append _)
  · rfl

theorem pinItem_pinned (h : Host) (p : Line) (t : Bool) :
    (pinItem h p t).1 = true ↔ ∃ vs, itemVerbs h p = some vs ∧ ∀ v ∈ vs, v.isWanted t → v.doIt = none := by
  rw [pinItem, itemVerbs]
  split
  · dsimp only
    cases h.verbs (h.getParentFolderName p) (h.getFileName p) with
    | none => simp
    | some vs =>
      have hf := (foldl_runVerb (t := t) vs [] none).2
      simp only [Option.isNone_iff_eq_none, hf, Option.some.injEq, exists_eq_left', true_and]
  · simp

/-- The verbs run are all those of the item that have the name looked for, in order, and
none unless the command line is accepted. -/
theorem invoked_iff (h : Host) (args : List Line) (vs : List Verb) : (main h args).invoked = vs ↔
    (∃ p t, Runs h args p t ∧ vs = ((itemVerbs h p).getD []).filter (·.isWanted t)) ∨
      ((∀ p t, ¬ Runs h args p t) ∧ vs = []) := by
  rcases main_cases h args with ⟨p, t, hr, hi, -⟩ | ⟨hn, hi, -⟩
  · rw [hi, pinItem_invoked]
    constructor
    · exact fun hv => .inl ⟨p, t, hr, hv.symm⟩
    · rintro (⟨p', t', hr', hv⟩ | hv)
      · obtain ⟨rfl, rfl⟩ := hr.2.unique hr'.2
        exact hv.symm
      · exact absurd hr (hv.1 p t)
  · rw [hi]
    constructor
    · exact fun hv => .inr ⟨hn, hv.symm⟩
    · rintro (⟨p, t, hr, -⟩ | hv)
      · exact absurd hr (hn p t)
      · exact hv.2.symm

/-- The exit code is 1 just when the command line is accepted and the item is not found
or one of the verbs run fails: a command line that is rejected ends with 0, and so does
a run that finds no verb of that name. -/
theorem exit_iff (h : Host) (args : List Line) : (main h args).exitCode = 1 ↔
    ∃ p t, Runs h args p t ∧ ∀ vs, itemVerbs h p = some vs → ∃ v ∈ vs, v.isWanted t ∧ v.doIt ≠ none := by
  have hp : ∀ p t, (if (pinItem h p t).1 then 0 else 1) = 1 ↔
      ∀ vs, itemVerbs h p = some vs → ∃ v ∈ vs, v.isWanted t ∧ v.doIt ≠ none := by
    intro p t
    have hb : (if (pinItem h p t).1 then 0 else 1) = 1 ↔ ¬ (pinItem h p t).1 = true := by
      cases (pinItem h p t).1 <;> decide
    rw [hb, pinItem_pinned]
    simp only [not_exists, not_and, Classical.not_forall, exists_prop, ne_eq]
  rcases main_cases h args with ⟨p, t, hr, -, hx⟩ | ⟨hn, -, hx⟩
  · rw [hx, hp]
    constructor
    · exact fun hv => ⟨p, t, hr, hv⟩
    · rintro ⟨p', t', hr', hv⟩
      obtain ⟨rfl, rfl⟩ := hr.2.unique hr'.2
      exact hv
  · rw [hx]
    refine iff_of_false (by decide) ?_
    rintro ⟨p, t, hr, -⟩
    exact hn p t hr

end Espo.Taskbar
