import EspoScripts.Framework.Vbs

/-!
# ConfigMe.vbs

The script configures a machine at the end of Sysprep: it looks the serial
number up in a database, renames the machine, sets its IP configuration and
joins it to a domain. Each method it calls gives an error code, and what
happened is kept in two flags and a log. Under `On Error Resume Next` a call
that raises an error is passed over, and `intError` stays what it was.

`calls_eq` says which methods are called: nothing without a serial number and
one record, nothing behind a rename that answers a code above 1, but the
domain is joined whatever became of the IP configuration. By `Counted`, the
flags are an account of the calls made, in which one that raises an error is
no failure; so a fatal error is logged just when there is no record or one of
them failed, and the reboot just when none did and one of them needs it
(`log_iff`).
-/

namespace Espo.Sysprep

open Espo.Cmd Espo.Vbs

/-- A record of the database; a field may be Null. -/
structure Record where
  computerName : Option Line
  domain : Option Line
  ou : Option Line
  useDHCP : Bool
  ipAddress : Option Line
  subnet : Option Line
  gateway : Option Line
  dns : Option Line
  wins1 : Option Line
  wins2 : Option Line

/-- The methods called that change the system, with what they are given. -/
inductive Call where
  | rename (name : Option Line)
  | enableStatic (adapter : Nat) (ip mask : List (Option Line))
  | setGateways (adapter : Nat) (gateways : List (Option Line))
  | setDNSServerSearchOrder (adapter : Nat) (servers : List (Option Line))
  | setWINSServer (adapter : Nat) (primary secondary : Option Line)
  | regWrite (name : Option Line)
  | joinDomainOrWorkGroup (domain ou : Option Line)
deriving DecidableEq

/-- What the script finds: the serial numbers of the enclosures, what the database
answers (if it can be opened), the name and domain of the system, its adapters
with IP, how letters are raised, and how the methods end: a call gives a code, or
raises an error. -/
structure Machine where
  serialNumbers : List (Option Line)
  query : Line → Option (List Record)
  name : Line
  domain : Line
  adapters : List Nat
  uCase : Line → Line
  wmi : Call → Option Int
  regWrite : Option Line → Option RuntimeError

/-- The log, the methods called, the flags, and `intError` of the procedure that runs,
which is Empty before its first assignment. -/
structure State where
  log : List Line
  calls : List Call
  blnRebootRequired : Bool
  blnFatalError : Bool
  intError : Option Int

/-- `objLogFile.WriteLine`. -/
def State.writeLine (s : State) (l : Line) : State := { s with log := s.log ++ [l] }

/-- `vbTab & t`. -/
def vbTab (t : String) : Line := '\t' :: t.toList

/-- The first line of a procedure. -/
def procedureLine (name : String) : Line := "-->Executing the ".toList ++ name.toList ++ " procedure".toList

/-- The entry of a procedure that declares `intError`. -/
def State.enter (s : State) (name : String) : State :=
  { s.writeLine (procedureLine name) with intError := none }

/-- A code as a number, which for Empty is 0. -/
def code (intError : Option Int) : Int := intError.getD 0

/-- The messages of `GetWMIError`. -/
def wmiErrors : List (Int × String) :=
  [(0, "Successful completion, no reboot required."),
    (1, "Successful completion, reboot required."),
    (64, "Method not supported when the NIC is in DHCP mode."),
    (65, "Unknown failure."),
    (66, "Invalid subnet mask."),
    (67, "An error occurred while processing an instance that was returned."),
    (68, "Invalid input parameter."),
    (69, "More than five gateways specified."),
    (70, "Invalid IP address."),
    (71, "Invalid gateway IP address."),
    (72, "An error occurred while accessing the registry for the requested information."),
    (73, "Invalid domain name."),
    (74, "Invalid host name."),
    (75, "No primary or secondary WINS server defined."),
    (76, "Invalid file."),
    (77, "Invalid system path."),
    (78, "File copy failed."),
    (79, "Invalid security parameter."),
    (80, "Unable to configure TCP/IP service."),
    (81, "Unable to configure DHCP service."),
    (82, "Unable to renew DHCP lease."),
    (83, "Unable to release DHCP lease."),
    (84, "IP not enabled on adapter."),
    (85, "IPX not enabled on adapter."),
    (86, "Frame or network number bounds error."),
    (87, "Invalid frame type."),
    (88, "Invalid network number."),
    (89, "Duplicate network number."),
    (90, "Parameter out of bounds."),
    (91, "Access denied."),
    (92, "Out of memory."),
    (93, "Already exists."),
    (94, "Path, file, or object not found."),
    (95, "Unable to notify service."),
    (96, "Unable to notify DNS service."),
    (97, "Interface not configurable."),
    (98, "Not all DHCP leases can be released or renewed."),
    (100, "DHCP not enabled on adapter.")]

/-- `GetWMIError`. -/
def getWMIError (intError : Option Int) : Line :=
  match wmiErrors.lookup (code intError) with
  | some t => t.toList
  | none => "Unknown error: ".toList ++ (toString (code intError)).toList

variable (m : Machine)

/-- A method that is called, and the line its code is logged in; `GetWMIError` takes
note of a reboot that is required. A call that raises an error assigns nothing. -/
def callMethod (s : State) (label : Line) (c : Call) : State :=
  let intError := (m.wmi c).or s.intError
  { s with
    calls := s.calls ++ [c]
    log := s.log ++ [label ++ getWMIError intError]
    blnRebootRequired := s.blnRebootRequired || code intError == 1
    intError := intError }

/-- `If intError > 1 Then blnFatalError = True`. -/
def ifFatal (s : State) : State := if 1 < code s.intError then { s with blnFatalError := true } else s

/-- `If intError <= 1 Then blnRebootRequired = True Else blnFatalError = True`. -/
def ifReboot (s : State) : State :=
  if code s.intError ≤ 1 then { s with blnRebootRequired := true } else { s with blnFatalError := true }

/-- `UCase(t) = UCase(v)`, where `v` may be Null. -/
def sameName (t : Line) (v : Option Line) : Bool :=
  match v with
  | none => false
  | some v => m.uCase t == m.uCase v

/-- `Split(t, ",")`. -/
def split : Line → List Line
  | [] => [[]]
  | c :: t =>
    if c = ',' then [] :: split t
    else match split t with
      | [] => [[c]]
      | u :: us => (c :: u) :: us

/-- A field as an array. -/
def fieldArray : Option Line → List (Option Line)
  | none => [none]
  | some t => if ',' ∈ t then (split t).map some else [some t]

/-- `arr(0) <> ""`, which is not so for Null. -/
def filled (a : List (Option Line)) : Bool :=
  match a with
  | some (_ :: _) :: _ => true
  | _ => false

/-! ## The procedures -/

/-- `GetSerialNumber`: the last one; Null is passed on as no text. -/
def getSerialNumber (s : State) : State × Line :=
  let s := s.writeLine (procedureLine "GetSerialNumber")
  match m.serialNumbers.getLast? with
  | none | some (some []) =>
    ({ s.writeLine (vbTab "Could not retrieve serial number") with blnFatalError := true }, [])
  | some n => (s.writeLine (vbTab "Found serial number: " ++ n.getD []), n.getD [])

/-- `GetSystemData`: if the database cannot be opened, the conditions fail, and the
branch for too many records runs. -/
def getSystemData (s : State) (serial : Line) : State × Option Record :=
  let s := s.writeLine (procedureLine "GetSystemData")
  let s := s.writeLine (vbTab "Opening U:\\SysInfo.mdb")
  let s := s.writeLine (vbTab "Querying the database")
  let r : State × Option Record :=
    match m.query serial with
    | some [r] =>
      (s.writeLine (vbTab "Successfully queried database...collecting system configuration data"), some r)
    | some [] => ({ s.writeLine (vbTab "No matching record found.") with blnFatalError := true }, none)
    | _ => ({ s.writeLine (vbTab "Too many records found.") with blnFatalError := true }, none)
  (r.1.writeLine (vbTab "Closing U:\\SysInfo.mdb"), r.2)

/-- `ChangeName`. -/
def changeName (s : State) (strComputerName : Option Line) : State :=
  let s := s.enter "ChangeName"
  if sameName m m.name strComputerName then s.writeLine (vbTab "No need to change computer name")
  else
    let s := s.writeLine (vbTab "Attempting to rename system")
    ifReboot (callMethod m s (vbTab "") (.rename strComputerName))

/-- A method of an adapter, called if `c`. -/
def adapterMethod (c : Bool) (label : String) (s : State) (k : Call) : State :=
  if c then ifFatal (callMethod m s (vbTab label) k) else s

/-- The methods of an adapter. -/
def configAdapter (r : Record) (s : State) (adapter : Nat) : State :=
  let s := s.writeLine (vbTab "Configuring TCP/IP settings")
  let s := adapterMethod m (filled (fieldArray r.ipAddress) && filled (fieldArray r.subnet)) "IP Address(s): " s
    (.enableStatic adapter (fieldArray r.ipAddress) (fieldArray r.subnet))
  let s := adapterMethod m (filled (fieldArray r.gateway)) "Gateway(s): " s
    (.setGateways adapter (fieldArray r.gateway))
  let s := adapterMethod m (filled (fieldArray r.dns)) "DNS server search list: " s
    (.setDNSServerSearchOrder adapter (fieldArray r.dns))
  adapterMethod m r.wins1.isSome "WINS Primary & Secondary: " s
    (.setWINSServer adapter r.wins1 (some (r.wins2.getD [])))

/-- `ConfigStaticIP`. -/
def configStaticIP (s : State) (r : Record) : State :=
  m.adapters.foldl (configAdapter m r) (s.enter "ConfigStaticIP")

/-- The registry entry for the active name. -/
def writeActiveName (s : State) (strComputer : Option Line) : State :=
  let s := { s with calls := s.calls ++ [Call.regWrite strComputer] }
  match m.regWrite strComputer with
  | none => s.writeLine (vbTab "Successfully updated the ActiveComputerName")
  | some e =>
    let s := s.writeLine (vbTab "Error updating the ActiveComputerName")
    { s.writeLine (vbTab "" ++ (toString e.number).toList ++ ' ' :: e.description) with blnFatalError := true }

/-- `JoinDomain`; no OU is passed on as Null. -/
def joinDomain (s : State) (r : Record) : State :=
  let s := s.enter "JoinDomain"
  if sameName m m.domain r.domain then s.writeLine (vbTab "No need to change domain membership")
  else
    let s := s.writeLine (vbTab "Attempting to update the ActiveComputerName")
    let s := writeActiveName m s r.computerName
    let ou := if r.ou = some [] then none else r.ou
    let s := s.writeLine (vbTab "Joining system to the " ++ r.domain.getD [] ++ " domain".toList)
    ifReboot (callMethod m s (vbTab "") (.joinDomainOrWorkGroup r.domain ou))

/-- `Reboot`, in which the call of Win32ShutDown is commented out: `intError` stays Empty. -/
def reboot (s : State) : State :=
  let s := s.enter "Reboot"
  let s := s.writeLine (vbTab "Initiating system reboot")
  s.writeLine (vbTab "Successfully initiated reboot")

/-- The line of a fatal error. -/
def fatalLine : Line := "\r\nA fatal error occurred!".toList

/-- `Cleanup`, which ends the script. -/
def cleanup (s : State) : State := if s.blnFatalError then s.writeLine fatalLine else s

/-- `If blnFatalError Then Call Cleanup`, and what follows. -/
def unlessFatal (s : State) (k : State → State) : State := if s.blnFatalError then cleanup s else k s

/-- The main script from `ChangeName` on. -/
def configure (r : Record) (s : State) : State :=
  unlessFatal (changeName m s r.computerName) fun s =>
    let s := if r.useDHCP then
        s.writeLine "This system is specified to use DHCP. No need to change IP configuration.".toList
      else configStaticIP m s r
    unlessFatal (joinDomain m s r) fun s => cleanup (if s.blnRebootRequired then reboot s else s)

/-- The main script from `GetSystemData` on. -/
def lookUp (serial : Line) (s : State) : State :=
  let d := getSystemData m s serial
  let s := (d.1.writeLine "UnMapping drive letter U:".toList).writeLine []
  unlessFatal s fun s =>
    match d.2 with
    | none => cleanup s
    | some r => configure m r s

/-- The main script up to `GetSerialNumber`. -/
def mapDrive : State := ⟨["Mapping drive letter U: to \\\\Server\\data".toList, []], [], false, false, none⟩

/-- The main script. -/
def configMe : State :=
  let n := getSerialNumber m mapDrive
  unlessFatal n.1 (lookUp m n.2)

/-! ## An account of the calls -/

/-- A call that fails: it answers a code above 1, or the registry is not written. Any
other call that raises an error is not noticed. -/
def failed : Call → Bool
  | .regWrite n => (m.regWrite n).isSome
  | c => (m.wmi c).any fun e => decide (1 < e)

/-- A call that needs a reboot; a rename or a join needs one if it answers a code up to 1
or raises an error. -/
def needsReboot : Call → Bool
  | .rename n => (m.wmi (.rename n)).all fun e => decide (e ≤ 1)
  | .joinDomainOrWorkGroup d o => (m.wmi (.joinDomainOrWorkGroup d o)).all fun e => decide (e ≤ 1)
  | .regWrite _ => false
  | c => m.wmi c == some 1

/-- The first line of `Reboot`. -/
def rebootLine : Line := procedureLine "Reboot"

/-- Neither a fatal error nor the reboot is in a log. -/
def Clean (ls : List Line) : Prop := ∀ l ∈ ls, l ≠ fatalLine ∧ l ≠ rebootLine

/-- The flags have taken note of the code in `intError`. -/
def Noted (intError : Option Int) (blnFatalError blnRebootRequired : Bool) : Prop :=
  (1 < code intError → blnFatalError = true) ∧ (code intError = 1 → blnRebootRequired = true)

/-- The flags are those of the calls made and have taken note of `intError`, and neither a
fatal error nor the reboot is logged yet. -/
structure Counted (s : State) : Prop where
  fatal_eq : s.blnFatalError = s.calls.any (failed m)
  reboot_eq : s.blnRebootRequired = s.calls.any (needsReboot m)
  log : Clean s.log
  noted : Noted s.intError s.blnFatalError s.blnRebootRequired

section

variable {m : Machine} {s : State}

theorem Clean.concat {ls : List Line} (h : Clean ls) {l : Line} (hl : l ≠ fatalLine ∧ l ≠ rebootLine) :
    Clean (ls ++ [l]) :=
  fun k hk => (List.mem_append.mp hk).elim (h k) fun he => List.mem_singleton.mp he ▸ hl

theorem Counted.writeLine (h : Counted m s) {l : Line} (hl : l ≠ fatalLine ∧ l ≠ rebootLine) :
    Counted m (s.writeLine l) :=
  ⟨h.fatal_eq, h.reboot_eq, h.log.concat hl, h.noted⟩

theorem head_fatalLine : fatalLine.head? = some '\r' := by decide

theorem head_append {k l : Line} {c : Char} (h : k.head? = some c) (n : Line) : (k ++ n ++ l).head? = some c := by
  rw [List.append_assoc, List.head?_append, h, Option.some_or]

theorem head_procedureLine (n : String) : (procedureLine n).head? = some '-' := head_append (by decide) _

/-- A line that begins with another character is neither. -/
theorem ne_of_head {l : Line} {c : Char} (h : l.head? = some c) (hr : c ≠ '\r') (hd : c ≠ '-') :
    l ≠ fatalLine ∧ l ≠ rebootLine := by
  refine ⟨fun e => ?_, fun e => ?_⟩
  · rw [e, head_fatalLine] at h
    exact hr (Option.some.inj h).symm
  · rw [e, rebootLine, head_procedureLine] at h
    exact hd (Option.some.inj h).symm

theorem tab_ne (l : Line) : '\t' :: l ≠ fatalLine ∧ '\t' :: l ≠ rebootLine :=
  ne_of_head rfl (by decide) (by decide)

theorem rebootLine_ne : rebootLine ≠ fatalLine := fun e => by
  have h := (congrArg List.head? e).symm.trans (head_procedureLine "Reboot")
  rw [head_fatalLine] at h
  exact absurd h (by decide)

theorem blank_ne : ([] : Line) ≠ fatalLine ∧ ([] : Line) ≠ rebootLine := by
  refine ⟨fun e => ?_, fun e => ?_⟩
  · exact absurd (e ▸ head_fatalLine) (by decide)
  · exact absurd ((congrArg List.head? e).trans (head_procedureLine "Reboot")) (by decide)

theorem procedureLine_ne {n : String} (h : n.toList ≠ "Reboot".toList) :
    procedureLine n ≠ fatalLine ∧ procedureLine n ≠ rebootLine := by
  refine ⟨fun e => ?_, fun e => h (List.append_cancel_left (List.append_cancel_right e))⟩
  have hh := head_procedureLine n
  rw [e, head_fatalLine] at hh
  exact absurd hh (by decide)

theorem Counted.tab (h : Counted m s) (l : Line) : Counted m (s.writeLine ('\t' :: l)) := h.writeLine (tab_ne l)

/-- Empty has nothing to take note of. -/
theorem noted_none (f r : Bool) : Noted none f r :=
  ⟨fun h => absurd h (by decide), fun h => absurd h (by decide)⟩

theorem noted_some {e : Int} {f r : Bool} : Noted (some e) f r ↔ (1 < e → f = true) ∧ (e = 1 → r = true) := Iff.rfl

theorem Counted.enter (h : Counted m s) {n : String} (hn : n.toList ≠ "Reboot".toList) : Counted m (s.enter n) :=
  ⟨h.fatal_eq, h.reboot_eq, h.log.concat (procedureLine_ne hn), noted_none _ _⟩

/-- A call of Rename or JoinDomainOrWorkGroup, the first one of its procedure. -/
theorem Counted.ifReboot (h : Counted m s) (l : Line) (hs : s.intError = none) {c : Call}
    (hf : failed m c = (m.wmi c).any fun e => decide (1 < e))
    (hr : needsReboot m c = (m.wmi c).all fun e => decide (e ≤ 1)) :
    Counted m (ifReboot (callMethod m s ('\t' :: l) c)) := by
  have hl : Clean (callMethod m s ('\t' :: l) c).log := h.log.concat (tab_ne _)
  have hi : (callMethod m s ('\t' :: l) c).intError = m.wmi c := by simp [callMethod, hs]
  rw [Sysprep.ifReboot, hi]
  cases hw : m.wmi c with
  | none =>
    -- Empty is not above 1
    rw [if_pos (show code none ≤ 1 by decide)]
    refine ⟨?_, ?_, hl, noted_none _ _⟩
    · simp [callMethod, hf, hw, h.fatal_eq]
    · simp [callMethod, hr, hw]
  | some e =>
    by_cases he : e ≤ 1
    · have hn : ¬ 1 < e := by omega
      rw [if_pos (show code (some e) ≤ 1 from he)]
      refine ⟨?_, ?_, hl, noted_some.mpr ⟨fun h₁ => absurd h₁ hn, fun _ => rfl⟩⟩
      · simp [callMethod, hf, hw, hn, h.fatal_eq]
      · simp [callMethod, hr, hw, he]
    · have h₁ : 1 < e := by omega
      have hq : ¬ e = 1 := by omega
      rw [if_neg (show ¬ code (some e) ≤ 1 from he)]
      refine ⟨?_, ?_, hl, noted_some.mpr ⟨fun _ => rfl, fun h₂ => absurd h₂ hq⟩⟩
      · simp [callMethod, hf, hw, h₁]
      · simp [callMethod, hr, hw, code, hq, he, h.reboot_eq]

/-- A method of an adapter that raises an error: the code left by an earlier one changes
no flag again. -/
theorem Counted.adapterMethod_none (h : Counted m s) (t : String) {c : Call} (hw : m.wmi c = none)
    (hf : failed m c = false) (hr : needsReboot m c = false) : Counted m (adapterMethod m true t s c) := by
  have hl : Clean (callMethod m s (vbTab t) c).log := h.log.concat (tab_ne _)
  have hi : (callMethod m s (vbTab t) c).intError = s.intError := by simp [callMethod, hw]
  have hb : (callMethod m s (vbTab t) c).blnRebootRequired = s.blnRebootRequired := by
    by_cases he : code s.intError = 1
    · simp [callMethod, hw, h.noted.2 he]
    · simp [callMethod, hw, he]
  have hc : ifFatal (callMethod m s (vbTab t) c) = callMethod m s (vbTab t) c := by
    rw [ifFatal, hi]
    by_cases he : 1 < code s.intError
    · have hk : (callMethod m s (vbTab t) c).blnFatalError = true := h.noted.1 he
      rw [if_pos he, ← hk, ← hi]
    · rw [if_neg he]
  have hn : Noted (callMethod m s (vbTab t) c).intError (callMethod m s (vbTab t) c).blnFatalError
      (callMethod m s (vbTab t) c).blnRebootRequired := by
    rw [hi, hb]
    exact h.noted
  rw [Sysprep.adapterMethod, if_pos rfl, hc]
  refine ⟨?_, hb.trans ?_, hl, hn⟩
  · simp [callMethod, hf, h.fatal_eq]
  · simp [callMethod, hr, h.reboot_eq]

/-- One that answers a code. -/
theorem Counted.adapterMethod_some (h : Counted m s) (t : String) {c : Call} {e : Int} (hw : m.wmi c = some e)
    (hf : failed m c = decide (1 < e)) (hr : needsReboot m c = (e == 1)) :
    Counted m (adapterMethod m true t s c) := by
  have hl : Clean (callMethod m s (vbTab t) c).log := h.log.concat (tab_ne _)
  have hi : (callMethod m s (vbTab t) c).intError = some e := by simp [callMethod, hw]
  have hk : (callMethod m s (vbTab t) c).blnRebootRequired =
      (callMethod m s (vbTab t) c).calls.any (needsReboot m) := by
    simp [callMethod, hr, hw, code, h.reboot_eq]
  have h₁ : e = 1 → (callMethod m s (vbTab t) c).blnRebootRequired = true := fun he => by
    simp [callMethod, hw, code, he]
  rw [Sysprep.adapterMethod, if_pos rfl, ifFatal, hi]
  by_cases he : 1 < e
  · rw [if_pos (show 1 < code (some e) from he)]
    refine ⟨?_, hk, hl, noted_some.mpr ⟨fun _ => rfl, h₁⟩⟩
    simp [callMethod, hf, he]
  · rw [if_neg (show ¬ 1 < code (some e) from he)]
    refine ⟨?_, hk, hl, ?_⟩
    · simp [callMethod, hf, he, h.fatal_eq]
    · rw [hi]
      exact noted_some.mpr ⟨fun h₂ => absurd h₂ he, h₁⟩

/-- A method of an adapter. -/
theorem Counted.adapterMethod (h : Counted m s) (b : Bool) (t : String) {c : Call}
    (hf : failed m c = (m.wmi c).any fun e => decide (1 < e)) (hr : needsReboot m c = (m.wmi c == some 1)) :
    Counted m (adapterMethod m b t s c) := by
  cases b with
  | false => exact h
  | true =>
    cases hw : m.wmi c with
    | none => exact h.adapterMethod_none t hw (by rw [hf, hw]; rfl) (by rw [hr, hw]; rfl)
    | some e => exact h.adapterMethod_some t hw (by rw [hf, hw]; rfl) (by rw [hr, hw]; rfl)

theorem Counted.changeName (h : Counted m s) (n : Option Line) : Counted m (changeName m s n) := by
  have h₀ := h.enter (n := "ChangeName") (by decide)
  simp only [Sysprep.changeName]
  split
  · exact h₀.tab _
  · exact (h₀.tab _).ifReboot _ rfl rfl rfl

theorem Counted.configAdapter (h : Counted m s) (r : Record) (a : Nat) : Counted m (configAdapter m r s a) :=
  ((((h.tab _).adapterMethod _ _ rfl rfl).adapterMethod _ _ rfl rfl).adapterMethod _ _ rfl rfl).adapterMethod _ _
    rfl rfl

theorem Counted.configStaticIP (h : Counted m s) (r : Record) : Counted m (configStaticIP m s r) := by
  have h₀ := h.enter (n := "ConfigStaticIP") (by decide)
  have go : ∀ (as : List Nat) {s : State}, Counted m s → Counted m (as.foldl (Sysprep.configAdapter m r) s) := by
    intro as
    induction as with
    | nil => exact fun h => h
    | cons a as ih => exact fun h => ih (h.configAdapter r a)
  exact go m.adapters h₀

theorem Counted.writeActiveName (h : Counted m s) (n : Option Line) : Counted m (writeActiveName m s n) := by
  have hl : ∀ l : Line, Clean (s.log ++ ['\t' :: l]) := fun l => h.log.concat (tab_ne l)
  simp only [Sysprep.writeActiveName]
  cases hw : m.regWrite n with
  | none =>
    refine ⟨?_, ?_, hl _, h.noted⟩
    · simp [State.writeLine, failed, hw, h.fatal_eq]
    · simp [State.writeLine, needsReboot, h.reboot_eq]
  | some e =>
    refine ⟨?_, ?_, (hl _).concat (tab_ne _), ⟨fun _ => rfl, h.noted.2⟩⟩
    · simp [State.writeLine, failed, hw]
    · simp [State.writeLine, needsReboot, h.reboot_eq]

theorem intError_writeActiveName (n : Option Line) : (writeActiveName m s n).intError = s.intError := by
  rw [writeActiveName]
  split <;> rfl

theorem Counted.joinDomain (h : Counted m s) (r : Record) : Counted m (joinDomain m s r) := by
  have h₀ := h.enter (n := "JoinDomain") (by decide)
  simp only [Sysprep.joinDomain]
  split
  · exact h₀.tab _
  · exact (((h₀.tab _).writeActiveName _).tab _).ifReboot _ (intError_writeActiveName _) rfl rfl

end

/-! ## The calls -/

/-- The serial number, if there is one; Null is no text. -/
def serialNumber : Option Line :=
  match m.serialNumbers.getLast? with
  | none | some (some []) => none
  | some n => some (n.getD [])

/-- The record the machine is configured from. -/
def found : Option Record :=
  match serialNumber m with
  | none => none
  | some n =>
    match m.query n with
    | some [r] => some r
    | _ => none

/-- The methods for the name. -/
def renameCalls (r : Record) : List Call :=
  if sameName m m.name r.computerName then [] else [.rename r.computerName]

/-- The methods of an adapter. -/
def adapterCalls (r : Record) (a : Nat) : List Call :=
  (if filled (fieldArray r.ipAddress) && filled (fieldArray r.subnet) then
    [.enableStatic a (fieldArray r.ipAddress) (fieldArray r.subnet)] else []) ++
  (if filled (fieldArray r.gateway) then [.setGateways a (fieldArray r.gateway)] else []) ++
  (if filled (fieldArray r.dns) then [.setDNSServerSearchOrder a (fieldArray r.dns)] else []) ++
  (if r.wins1.isSome then [.setWINSServer a r.wins1 (some (r.wins2.getD []))] else [])

/-- The methods for the IP configuration. -/
def ipCalls (r : Record) : List Call := if r.useDHCP then [] else m.adapters.flatMap (adapterCalls r)

/-- The methods for the domain. -/
def joinCalls (r : Record) : List Call :=
  if sameName m m.domain r.domain then []
  else [.regWrite r.computerName, .joinDomainOrWorkGroup r.domain (if r.ou = some [] then none else r.ou)]

section

variable {m : Machine} {s : State}

theorem calls_ifReboot : (ifReboot s).calls = s.calls := by
  rw [ifReboot]
  split <;> rfl

theorem calls_adapterMethod (b : Bool) (t : String) (c : Call) :
    (adapterMethod m b t s c).calls = s.calls ++ if b then [c] else [] := by
  rw [adapterMethod, ifFatal]
  cases b with
  | false => simp
  | true =>
    rw [if_pos rfl, if_pos rfl]
    split <;> rfl

theorem calls_changeName (r : Record) : (changeName m s r.computerName).calls = s.calls ++ renameCalls m r := by
  rw [changeName, renameCalls]
  split
  · rw [List.append_nil]
    rfl
  · rw [calls_ifReboot]
    rfl

theorem calls_configAdapter (r : Record) (a : Nat) :
    (configAdapter m r s a).calls = s.calls ++ adapterCalls r a := by
  rw [configAdapter]
  simp only [calls_adapterMethod, adapterCalls, List.append_assoc]
  rfl

theorem calls_configStaticIP (r : Record) :
    (configStaticIP m s r).calls = s.calls ++ m.adapters.flatMap (adapterCalls r) := by
  have go : ∀ (as : List Nat) (s : State),
      (as.foldl (configAdapter m r) s).calls = s.calls ++ as.flatMap (adapterCalls r) := by
    intro as
    induction as with
    | nil => exact fun s => (List.append_nil _).symm
    | cons a as ih =>
      intro s
      rw [List.foldl_cons, ih, calls_configAdapter, List.flatMap_cons, List.append_assoc]
  exact go _ _

theorem calls_joinDomain (r : Record) : (joinDomain m s r).calls = s.calls ++ joinCalls m r := by
  have hw : ∀ s : State, (writeActiveName m s r.computerName).calls = s.calls ++ [.regWrite r.computerName] :=
    fun s => by
      rw [writeActiveName]
      split <;> rfl
  rw [joinDomain, joinCalls]
  split
  · rw [List.append_nil]
    rfl
  · rw [calls_ifReboot]
    simp only [callMethod, State.writeLine, State.enter, hw, List.append_assoc]
    rfl

theorem calls_cleanup : (cleanup s).calls = s.calls := by
  rw [cleanup]
  split <;> rfl

theorem calls_reboot : (if s.blnRebootRequired then reboot s else s).calls = s.calls := by
  split <;> rfl

end

/-! ## The run -/

/-- `GetSystemData` with the drive unmapped behind it: a record, or a fatal error. -/
theorem lookUp_eq (serial : Line) {ls : List Line} (hl : Clean ls) : ∃ ls' : List Line, Clean ls' ∧
    lookUp m serial ⟨ls, [], false, false, none⟩ =
      match m.query serial with
      | some [r] => configure m r ⟨ls', [], false, false, none⟩
      | _ => cleanup ⟨ls', [], false, true, none⟩ := by
  have h₀ := ((hl.concat (@procedureLine_ne "GetSystemData" (by decide))).concat
    (tab_ne "Opening U:\\SysInfo.mdb".toList)).concat (tab_ne "Querying the database".toList)
  have h₁ := fun l => (((h₀.concat (tab_ne l)).concat (tab_ne "Closing U:\\SysInfo.mdb".toList)).concat
    (l := "UnMapping drive letter U:".toList) (ne_of_head rfl (by decide) (by decide))).concat blank_ne
  rcases hq : m.query serial with _ | _ | ⟨r, _ | _⟩
  · exact ⟨_, h₁ _, by simp only [lookUp, getSystemData, hq, unlessFatal]; rfl⟩
  · exact ⟨_, h₁ _, by simp only [lookUp, getSystemData, hq, unlessFatal]; rfl⟩
  · exact ⟨_, h₁ _, by simp only [lookUp, getSystemData, hq, unlessFatal]; rfl⟩
  · exact ⟨_, h₁ _, by simp only [lookUp, getSystemData, hq, unlessFatal]; rfl⟩

/-- `GetSerialNumber`: a serial number, or a fatal error. -/
theorem getSerialNumber_eq : ∃ ls : List Line, Clean ls ∧
    getSerialNumber m mapDrive =
      match serialNumber m with
      | none => (⟨ls, [], false, true, none⟩, [])
      | some n => (⟨ls, [], false, false, none⟩, n) := by
  have h₀ : Clean (mapDrive.writeLine (procedureLine "GetSerialNumber")).log := by
    have h₁ : Clean [] := fun l hl => absurd hl List.not_mem_nil
    have h₂ := h₁.concat (l := "Mapping drive letter U: to \\\\Server\\data".toList)
      (ne_of_head rfl (by decide) (by decide))
    exact (h₂.concat blank_ne).concat (@procedureLine_ne "GetSerialNumber" (by decide))
  have hf := fun n => h₀.concat (tab_ne ("Found serial number: ".toList ++ n))
  rcases hg : m.serialNumbers.getLast? with _ | _ | _ | ⟨c, n⟩
  · exact ⟨_, h₀.concat (tab_ne "Could not retrieve serial number".toList), by
      simp only [getSerialNumber, serialNumber, hg]; rfl⟩
  · exact ⟨_, hf [], by simp only [getSerialNumber, serialNumber, hg]; rfl⟩
  · exact ⟨_, h₀.concat (tab_ne "Could not retrieve serial number".toList), by
      simp only [getSerialNumber, serialNumber, hg]; rfl⟩
  · exact ⟨_, hf (c :: n), by simp only [getSerialNumber, serialNumber, hg]; rfl⟩

/-- Without a record the script ends in `Cleanup`; with one it configures the machine. -/
theorem configMe_eq : ∃ ls : List Line, Clean ls ∧
    configMe m =
      match found m with
      | none => cleanup ⟨ls, [], false, true, none⟩
      | some r => configure m r ⟨ls, [], false, false, none⟩ := by
  obtain ⟨ls, hl, e⟩ := getSerialNumber_eq m
  rw [configMe, e, found]
  cases serialNumber m with
  | none => exact ⟨ls, hl, rfl⟩
  | some n =>
    obtain ⟨ls', hl', e'⟩ := lookUp_eq m n hl
    refine ⟨ls', hl', e'.trans ?_⟩
    dsimp only
    rcases m.query n with _ | _ | ⟨r, _ | _⟩ <;> rfl

/-- What the log of a run reports: a fatal error if a call failed, and the reboot if none
did and one of them needs it. -/
def Reported (s : State) : Prop :=
  (fatalLine ∈ s.log ↔ s.calls.any (failed m) = true) ∧
    (rebootLine ∈ s.log ↔ s.calls.any (failed m) = false ∧ s.calls.any (needsReboot m) = true)

section

variable {m : Machine} {s : State}

/-- `Cleanup` behind a fatal error. -/
theorem Counted.reported (h : Counted m s) (hf : s.blnFatalError = true) : Reported m (cleanup s) := by
  have hc := h.fatal_eq.symm.trans hf
  rw [cleanup, if_pos hf]
  constructor
  · exact iff_of_true (List.mem_append_right _ List.mem_cons_self) hc
  · refine iff_of_false (fun hm => ?_) (fun hi => ?_)
    · rcases List.mem_append.mp hm with hm | hm
      · exact (h.log _ hm).2 rfl
      · exact rebootLine_ne (List.mem_singleton.mp hm)
    · exact absurd (hc.symm.trans hi.1) (by decide)

/-- The end of a run without one. -/
theorem Counted.reported_end (h : Counted m s) (hf : s.blnFatalError = false) :
    Reported m (cleanup (if s.blnRebootRequired then reboot s else s)) := by
  have hc := h.fatal_eq.symm.trans hf
  have hn : fatalLine ∉ s.log := fun hm => (h.log _ hm).1 rfl
  have hr : rebootLine ∉ s.log := fun hm => (h.log _ hm).2 rfl
  cases hb : s.blnRebootRequired with
  | false =>
    have hk := h.reboot_eq.symm.trans hb
    have he : cleanup (if false = true then reboot s else s) = s := by simp [cleanup, hf]
    rw [he]
    exact ⟨iff_of_false hn (by simp [hc]), iff_of_false hr (by simp [hk])⟩
  | true =>
    have hk := h.reboot_eq.symm.trans hb
    have he : cleanup (if true = true then reboot s else s) = reboot s := by
      simp [cleanup, reboot, State.enter, State.writeLine, hf]
    have hl : (reboot s).log = s.log ++ [rebootLine, vbTab "Initiating system reboot",
        vbTab "Successfully initiated reboot"] := by
      simp only [reboot, State.enter, State.writeLine, List.append_assoc]
      rfl
    have hx : fatalLine ∉ [rebootLine, vbTab "Initiating system reboot",
        vbTab "Successfully initiated reboot"] := by
      simp only [List.mem_cons, List.not_mem_nil, or_false, not_or]
      exact ⟨rebootLine_ne.symm, (tab_ne _).1.symm, (tab_ne _).1.symm⟩
    rw [he]
    refine ⟨?_, ?_⟩
    · rw [hl, List.mem_append]
      exact iff_of_false (fun hm => hm.elim hn hx) (by simp [reboot, State.enter, State.writeLine, hc])
    · rw [hl, List.mem_append]
      exact iff_of_true (.inr List.mem_cons_self) ⟨hc, hk⟩

theorem configure_ok (h : Counted m s) (r : Record) : Reported m (configure m r s) ∧
    (configure m r s).calls = s.calls ++ renameCalls m r ++
      if (s.calls ++ renameCalls m r).any (failed m) then [] else ipCalls m r ++ joinCalls m r := by
  have h₁ := h.changeName r.computerName
  have e₁ : (changeName m s r.computerName).calls = s.calls ++ renameCalls m r := calls_changeName r
  have hf₁ := h₁.fatal_eq
  rw [e₁] at hf₁
  simp only [configure, unlessFatal]
  rw [← hf₁]
  split
  · exact ⟨h₁.reported ‹_›, by rw [calls_cleanup, e₁, List.append_nil]⟩
  · -- the IP configuration, after which the flag is not looked at
    generalize changeName m s r.computerName = s₁ at h₁ e₁
    have h₂ : Counted m (if r.useDHCP then s₁.writeLine
        "This system is specified to use DHCP. No need to change IP configuration.".toList
        else configStaticIP m s₁ r) := by
      split
      · exact h₁.writeLine (ne_of_head rfl (by decide) (by decide))
      · exact h₁.configStaticIP r
    have e₂ : (if r.useDHCP then s₁.writeLine
        "This system is specified to use DHCP. No need to change IP configuration.".toList
        else configStaticIP m s₁ r).calls = s₁.calls ++ ipCalls m r := by
      rw [ipCalls]
      split
      · exact (List.append_nil _).symm
      · exact calls_configStaticIP r
    generalize (if r.useDHCP then s₁.writeLine
        "This system is specified to use DHCP. No need to change IP configuration.".toList
        else configStaticIP m s₁ r) = s₂ at h₂ e₂
    have h₃ := h₂.joinDomain r
    have e₃ : (joinDomain m s₂ r).calls = s₂.calls ++ joinCalls m r := calls_joinDomain r
    generalize joinDomain m s₂ r = s₃ at h₃ e₃
    cases hb : s₃.blnFatalError with
    | true => exact ⟨h₃.reported hb, by simp [calls_cleanup, e₃, e₂, e₁]⟩
    | false => exact ⟨h₃.reported_end hb, by simp [calls_cleanup, calls_reboot, e₃, e₂, e₁]⟩

end

/-- The methods called: none without a record, none but the renaming if that answers a
code above 1, and those for the domain however those for the IP configuration end. -/
theorem calls_eq : (configMe m).calls =
    match found m with
    | none => []
    | some r => renameCalls m r ++ if (renameCalls m r).any (failed m) then [] else ipCalls m r ++ joinCalls m r := by
  obtain ⟨ls, hl, e⟩ := configMe_eq m
  rw [e]
  cases found m with
  | none => exact calls_cleanup
  | some r =>
    have h₀ : Counted m ⟨ls, [], false, false, none⟩ := ⟨rfl, rfl, hl, noted_none _ _⟩
    exact (configure_ok h₀ r).2

/-- A fatal error is logged just when there is no record or one of the calls made failed,
and the reboot just when there is one, none failed and one of them needs it. -/
theorem log_iff :
    (fatalLine ∈ (configMe m).log ↔ found m = none ∨ (configMe m).calls.any (failed m) = true) ∧
      (rebootLine ∈ (configMe m).log ↔
        (configMe m).calls.any (failed m) = false ∧ (configMe m).calls.any (needsReboot m) = true) := by
  obtain ⟨ls, hl, e⟩ := configMe_eq m
  rw [e]
  cases found m with
  | none =>
    have hc : cleanup ⟨ls, [], false, true, none⟩ = ⟨ls ++ [fatalLine], [], false, true, none⟩ := rfl
    have hn : rebootLine ∉ ls ++ [fatalLine] := fun hm => (List.mem_append.mp hm).elim
      (fun hm => (hl _ hm).2 rfl) fun hm => rebootLine_ne (List.mem_singleton.mp hm)
    dsimp only
    rw [hc]
    exact ⟨iff_of_true (List.mem_append_right _ List.mem_cons_self) (.inl rfl), iff_of_false hn (by simp)⟩
  | some r =>
    have h₀ : Counted m ⟨ls, [], false, false, none⟩ := ⟨rfl, rfl, hl, noted_none _ _⟩
    have h := (configure_ok h₀ r).1
    exact ⟨h.1.trans (by simp), h.2⟩

end Espo.Sysprep
