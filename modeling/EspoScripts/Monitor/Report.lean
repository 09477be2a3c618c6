import EspoScripts.Framework.Vbs
import EspoScripts.Monitor.Edid

/-!
# The monitors that the two scripts report

monitor.vbs and its later edition, `getmonitor - Copy.vbs`, look through the
display keys of the registry for active monitors (`readDisplay`), keep the EDID
of each as a string, and report what the strings say.

monitor.vbs never empties the string: each EDID is added to the ones before it,
so the first monitor is reported again and again, and a monitor with an EDID
behind one without ends the run (`monitor_rows`). The later edition empties it,
and lists the first monitor of each serial number (`getmonitor_rows`), with
what it had read before where an EDID is cut short (`getmonitor_short`).
-/

namespace Espo.Monitor

open Espo.Cmd Espo.Vbs

/-! ## The registry -/

/-- A key `DISPLAY\\<VESA_Monitor_ID>\\<PNP_ID>`: two values and the names of its keys,
each Null where there is none. -/
structure Device where
  hardwareID : Option (List Line)
  edid : Option (List UInt8)
  subKeys : Option (List Line)

/-- The keys of `DISPLAY` and the devices below each, Null where there is none. -/
abbrev Display := Option (List (Option (List Device)))

/-- `For Each` over Null. -/
def notCollection : RuntimeError := ⟨451, "Object not a collection".toList, by decide⟩

/-- `UBound` of Null. -/
def typeMismatch : RuntimeError := ⟨13, "Type mismatch".toList, by decide⟩

/-- A loop over an array, or over Null, which is an error. -/
def eachIn {σ α : Type} (null : RuntimeError) (body : σ → α → Except RuntimeError σ) :
    Option (List α) → σ → Except RuntimeError σ
  | none, _ => .error null
  | some as, s => as.foldlM body s

def notAvailable : Line := "EDID Not Available".toList

def control : Line := "Control".toList

structure Reading where
  strRawEDID : Line
  strarrRawEDID : List Line

/-- The string behind an active monitor. -/
def readEdid (strRawEDID : Line) : Option (List UInt8) → Line
  | none => notAvailable
  | some bytes => bytes.foldl (fun s bytevalue => s ++ [chrOf bytevalue]) strRawEDID

/-- A key of a device. The later edition empties the string first. -/
def readSubKey (empties : Bool) (device : Device) (r : Reading) (sKey3 : Line) : Reading :=
  let s := if empties then [] else r.strRawEDID
  if sKey3 = control then
    ⟨readEdid s device.edid, r.strarrRawEDID ++ [readEdid s device.edid]⟩
  else ⟨s, r.strarrRawEDID⟩

def isMonitor (id : Line) : Bool := (left id 8).map Char.toLower == "monitor\\".toList

/-- A device: its keys are read for each hardware id of a monitor. -/
def readDevice (empties : Bool) (r : Reading) (device : Device) : Except RuntimeError Reading :=
  eachIn typeMismatch (fun r id =>
    if isMonitor id then eachIn notCollection (fun r key => pure (readSubKey empties device r key)) device.subKeys r
    else pure r) device.hardwareID r

/-- The loops over the registry. -/
def readDisplay (empties : Bool) (display : Display) : Except RuntimeError Reading :=
  eachIn notCollection (fun r key => eachIn notCollection (readDevice empties) key r) display ⟨[], []⟩

/-! ## monitor.vbs -/

/-- A row that is never filled. -/
def blank : Info := ⟨[], [], [], [], [], []⟩

/-- `arrMonitorInfo`, and nothing where a read ends the run. -/
def rows : List Line → Option (List Info)
  | [] => some []
  | raw :: raws => do
    let r ←
      if raw = notAvailable then some blank
      else
        info "Serial Number Not Found in EDID data".toList "Model Descriptor Not Found in EDID data".toList raw
    let rs ← rows raws
    pure (r :: rs)

/-- The lines echoed for the rows from number `tmpctr` on. -/
def echo (tmpctr : Nat) : List Info → Script (List Line) Unit
  | [] => pure ()
  | r :: rs => do
    match chr (tmpctr + 65) with
    | none => throw invalidCall
    | some c =>
      modify (· ++ ["Monitor ".toList ++ c :: ")".toList,
        "..........VESA Manufacturer ID= ".toList ++ r.mfg,
        "..........Device ID= ".toList ++ r.dev,
        "..........Manufacture Date= ".toList ++ r.mdt,
        "..........Serial Number= ".toList ++ r.ser,
        "..........Model Name= ".toList ++ r.mdl,
        "..........EDID Version= ".toList ++ r.ver])
      echo (tmpctr + 1) rs

/-- A run of monitor.vbs, on the lines echoed. -/
def monitor (display : Display) : Script (List Line) Unit :=
  match readDisplay false display with
  | .error e => throw e
  | .ok r =>
    match rows r.strarrRawEDID with
    | none => throw invalidCall
    | some rs => echo 0 rs

/-! ## getmonitor -/

/-- The variables of a monitor, which keep their values where a read fails. -/
structure Vars where
  tmpser : Line
  tmpmdl : Line
  tmpmfgweek : Option Nat
  tmpmfgyear : Option Nat
  tmpmdt : Line
  tmpEDIDMajorVer : Option Nat
  tmpEDIDRev : Option Nat
  tmpVer : Line
  byte1 : Option Nat
  byte2 : Option Nat
  tmpEDIDDev1 : Line
  tmpEDIDDev2 : Line

/-- All of them empty. -/
def Vars.start : Vars := ⟨[], [], none, none, [], none, none, [], none, none, [], []⟩

/-- `If Len(s) = 1 Then s = "0" & s`. -/
def padDev (s : Line) : Line := if s.length = 1 then '0' :: s else s

/-- The statements on a string, under `On Error Resume Next`. -/
def readVars (v : Vars) (raw : Line) : Vars :=
  let week := (tmpmfgweek raw).or v.tmpmfgweek
  let year := (tmpmfgyear raw).or v.tmpmfgyear
  let major := (tmpEDIDMajorVer raw).or v.tmpEDIDMajorVer
  let rev := (tmpEDIDRev raw).or v.tmpEDIDRev
  { tmpser := textOf raw strSerFind "Not Found".toList
    tmpmdl := textOf raw strMdlFind "Not Found".toList
    tmpmfgweek := week
    tmpmfgyear := year
    -- without a year there is no date to add to
    tmpmdt := (year.map fun y => Monitor.tmpmdt (week.getD 0) y).getD v.tmpmdt
    tmpEDIDMajorVer := major
    tmpEDIDRev := rev
    tmpVer := (tmpver (major.getD 0) (rev.getD 0)).getD v.tmpVer
    byte1 := (byte1 raw).or v.byte1
    byte2 := (byte2 raw).or v.byte2
    tmpEDIDDev1 := padDev (((dev1 raw).map hex).getD v.tmpEDIDDev1)
    tmpEDIDDev2 := padDev (((dev2 raw).map hex).getD v.tmpEDIDDev2) }

/-- The row that the variables make. -/
def Vars.row (v : Vars) : Info where
  mfg := tmpmfg (v.byte1.getD 0) (v.byte2.getD 0)
  dev := v.tmpEDIDDev2 ++ v.tmpEDIDDev1
  mdt := v.tmpmdt
  ser := v.tmpser
  mdl := v.tmpmdl
  ver := v.tmpVer

/-- `InArray(strValue, arrMonitorInfo, 3)`: an empty row has the empty text. -/
def inArray (strValue : Line) (list : List (Option Info)) : Bool :=
  list.any fun r => ((r.map Info.ser).getD []) == strValue

/-- `arrMonitorInfo` behind the rows already done; the rows to come are empty. -/
def fill (v : Vars) (done : List (Option Info)) : List Line → List (Option Info)
  | [] => done
  | raw :: raws =>
    if raw = notAvailable then fill v (done ++ [none]) raws
    else
      let v' := readVars v raw
      let row := if inArray v'.tmpser (done ++ none :: raws.map fun _ => none) then none else some v'.row
      fill v' (done ++ [row]) raws

/-- The message, lettered from number `i` on. -/
def message (i : Nat) : List (Option Info) → Line
  | [] => []
  | none :: rs => message i rs
  | some r :: rs =>
    if r.dev ≠ [] ∧ r.mfg ≠ "PNP".toList then
      (match chr (i + 65) with
        | some c => "Monitor ".toList ++ c :: ")\x0d\nModel Name: ".toList ++ r.mdl ++ "\x0d\nSerial Number: ".toList ++
            r.ser ++ "\x0d\nVESA Manufacturer ID: ".toList ++ r.mfg ++ "\x0d\nManufacture Date: ".toList ++ r.mdt ++
            "\x0d\n\x0d\n".toList
        | none => []) ++ message (i + 1) rs
    else message i rs

/-- `arrMonitorInfo`. Where a Null is read, the script goes on behind the statement that
fails; that is left out. -/
def arrMonitorInfo (display : Display) : Option (List (Option Info)) :=
  match readDisplay true display with
  | .error _ => none
  | .ok r => some (fill .start [] r.strarrRawEDID)

/-- The message box of a computer that answers, or does not. -/
def getmonitor : Except Line Display → Option Line
  | .error description => some ("Failed. ".toList ++ description)
  | .ok display => (arrMonitorInfo display).map (message 0)

/-! ## The strings of the active monitors -/

/-- What is read of a device is there: its hardware ids, and for a monitor its keys. -/
def Device.Whole (device : Device) : Prop :=
  ∃ ids, device.hardwareID = some ids ∧ ∀ id ∈ ids, isMonitor id = true → ∃ keys, device.subKeys = some keys

/-- No Null is read. -/
def Whole (display : Display) : Prop :=
  ∃ keys, display = some keys ∧ ∀ key ∈ keys, ∃ devices, key = some devices ∧ ∀ device ∈ devices, device.Whole

/-- The EDIDs of a device's active monitors. -/
def activeIn (device : Device) : List (Option (List UInt8)) :=
  ((device.hardwareID.getD []).filter isMonitor).flatMap fun _ =>
    ((device.subKeys.getD []).filter (· = control)).map fun _ => device.edid

/-- The EDIDs of the active monitors, in the order they are found. -/
def actives (display : Display) : List (Option (List UInt8)) :=
  (display.getD []).flatMap fun key => (key.getD []).flatMap activeIn

/-- The strings kept for these EDIDs, behind a string. -/
def strings (empties : Bool) : Line → List (Option (List UInt8)) → List Line
  | _, [] => []
  | s, e :: es => readEdid (if empties then [] else s) e :: strings empties (readEdid (if empties then [] else s) e) es

theorem strings_empty : ∀ (es : List (Option (List UInt8))) (s : Line),
    strings true s es = es.map (readEdid [])
  | [], _ => rfl
  | e :: es, _ => congrArg (readEdid [] e :: ·) (strings_empty es _)

theorem strings_append : ∀ (es fs : List (Option (List UInt8))) (s : Line),
    strings false s (es ++ fs) = strings false s es ++ strings false (es.foldl readEdid s) fs
  | [], _, _ => rfl
  | _ :: es, fs, _ => congrArg (_ :: ·) (strings_append es fs _)

/-- From `r` to `r'` the EDIDs `es` have been read. -/
structure Adds (empties : Bool) (r : Reading) (es : List (Option (List UInt8))) (r' : Reading) : Prop where
  arr : r'.strarrRawEDID = r.strarrRawEDID ++ strings empties r.strRawEDID es
  str : empties = false → r'.strRawEDID = es.foldl readEdid r.strRawEDID

theorem Adds.refl (empties : Bool) (r : Reading) : Adds empties r [] r := ⟨(List.append_nil _).symm, fun _ => rfl⟩

theorem Adds.trans {empties : Bool} {r r' r'' : Reading} {es fs : List (Option (List UInt8))}
    (h : Adds empties r es r') (h' : Adds empties r' fs r'') : Adds empties r (es ++ fs) r'' where
  arr := by
    rw [h'.arr, h.arr, List.append_assoc]
    cases empties with
    | true => rw [strings_empty, strings_empty, strings_empty, List.map_append]
    | false => rw [strings_append, h.str rfl]
  str e := by rw [h'.str e, h.str e, List.foldl_append]

/-- A part of the loops: where `whole` holds it reads the EDIDs `es`, and else it ends in an
error. -/
structure Reads (empties : Bool) (x : Reading → Except RuntimeError Reading) (whole : Prop)
    (es : List (Option (List UInt8))) : Prop where
  ok : whole → ∀ r, ∃ r', x r = .ok r' ∧ Adds empties r es r'
  error : ¬ whole → ∀ r, ∃ e, x r = .error e

namespace Reads

variable {empties : Bool}

theorem congr {x : Reading → Except RuntimeError Reading} {whole whole' : Prop} {es es' : List (Option (List UInt8))}
    (h : Reads empties x whole es) (hw : whole ↔ whole') (he : es = es') : Reads empties x whole' es' where
  ok hw' r := he ▸ h.ok (hw.mpr hw') r
  error hw' r := h.error (fun hp => hw' (hw.mp hp)) r

/-- A pass in which nothing can fail. -/
theorem pass {x : Reading → Reading} {es : List (Option (List UInt8))} (h : ∀ r, Adds empties r es (x r)) :
    Reads empties (fun r => pure (x r)) True es where
  ok _ r := ⟨x r, rfl, h r⟩
  error h := absurd trivial h

theorem foldlM {α : Type} {body : Reading → α → Except RuntimeError Reading} {whole : α → Prop}
    {out : α → List (Option (List UInt8))} (h : ∀ a, Reads empties (fun r => body r a) (whole a) (out a)) :
    ∀ as : List α, Reads empties (fun r => as.foldlM body r) (∀ a ∈ as, whole a) (as.flatMap out)
  | [] => ⟨fun _ r => ⟨r, rfl, .refl empties r⟩, fun hw => absurd (fun _ ha => absurd ha List.not_mem_nil) hw⟩
  | a :: as => by
    obtain ⟨hok, herr⟩ := foldlM h as
    have hb : ∀ {r r'}, body r a = .ok r' → (a :: as).foldlM body r = as.foldlM body r' := by
      intro r r' e
      rw [List.foldlM_cons, e]
      rfl
    refine ⟨fun hw r => ?_, fun hw r => ?_⟩
    · obtain ⟨r₁, e₁, h₁⟩ := (h a).ok (hw a List.mem_cons_self) r
      obtain ⟨r₂, e₂, h₂⟩ := hok (fun b hb => hw b (List.mem_cons_of_mem _ hb)) r₁
      exact ⟨r₂, (hb e₁).trans e₂, h₁.trans h₂⟩
    · by_cases ha : whole a
      · obtain ⟨r₁, e₁, -⟩ := (h a).ok ha r
        obtain ⟨e, he⟩ := herr (fun hs => hw (List.forall_mem_cons.mpr ⟨ha, hs⟩)) r₁
        exact ⟨e, (hb e₁).trans he⟩
      · obtain ⟨e, he⟩ := (h a).error ha r
        refine ⟨e, ?_⟩
        show (a :: as).foldlM body r = _
        rw [List.foldlM_cons, he]
        rfl

/-- A loop over what may be Null. -/
theorem eachIn {α : Type} {null : RuntimeError} {body : Reading → α → Except RuntimeError Reading} {whole : α → Prop}
    {out : α → List (Option (List UInt8))} (h : ∀ a, Reads empties (fun r => body r a) (whole a) (out a)) :
    ∀ values : Option (List α), Reads empties (Monitor.eachIn null body values)
      (∃ as, values = some as ∧ ∀ a ∈ as, whole a) ((values.getD []).flatMap out)
  | none => ⟨fun ⟨_, e, _⟩ => (nomatch e), fun _ _ => ⟨null, rfl⟩⟩
  | some as => (foldlM h as).congr ⟨fun hw => ⟨as, rfl, hw⟩, fun ⟨_, e, hw⟩ => Option.some.inj e ▸ hw⟩ rfl

end Reads

theorem flatMap_filter {α β : Type} (p : α → Bool) (f : α → List β) : ∀ as : List α,
    (as.filter p).flatMap f = as.flatMap fun a => if p a then f a else []
  | [] => rfl
  | a :: as => by
    rw [List.flatMap_cons, ← flatMap_filter p f as]
    cases h : p a with
    | true => rw [List.filter_cons_of_pos h, List.flatMap_cons, if_pos rfl]
    | false => rw [List.filter_cons_of_neg (by rw [h]; exact Bool.false_ne_true), if_neg Bool.false_ne_true]; rfl

theorem adds_readSubKey (empties : Bool) (device : Device) (r : Reading) (key : Line) :
    Adds empties r (if key = control then [device.edid] else []) (readSubKey empties device r key) := by
  have hs : empties = false → (if empties then [] else r.strRawEDID) = r.strRawEDID := fun e => by rw [e]; rfl
  unfold readSubKey
  split
  · refine ⟨rfl, fun e => ?_⟩
    rw [hs e]
    rfl
  · exact ⟨(List.append_nil _).symm, hs⟩

theorem reads_readDevice (empties : Bool) (device : Device) :
    Reads empties (fun r => readDevice empties r device) device.Whole (activeIn device) := by
  have hk : ((device.subKeys.getD []).filter (· = control)).map (fun _ => device.edid) =
      (device.subKeys.getD []).flatMap fun key => if key = control then [device.edid] else [] := by
    rw [List.map_eq_flatMap, flatMap_filter]
    simp only [decide_eq_true_eq]
  unfold activeIn
  rw [flatMap_filter, hk]
  refine Reads.eachIn (fun id => ?_) device.hardwareID
  cases isMonitor id with
  | true =>
    refine (Reads.eachIn (fun key => .pass fun r => adds_readSubKey empties device r key) device.subKeys).congr ?_ rfl
    exact ⟨fun ⟨keys, e, _⟩ _ => ⟨keys, e⟩, fun h => (h rfl).imp fun keys e => ⟨e, fun _ _ => trivial⟩⟩
  | false => exact (Reads.pass fun r => .refl empties r).congr (iff_of_true trivial Bool.noConfusion) rfl

/-- What is kept of a registry are the strings of its active monitors, unless a Null is
read. -/
theorem reads_readDisplay (empties : Bool) (display : Display) :
    (Whole display → ∃ r, readDisplay empties display = .ok r ∧
      r.strarrRawEDID = strings empties [] (actives display)) ∧
    (¬ Whole display → ∃ e, readDisplay empties display = .error e) := by
  have h : Reads empties (eachIn notCollection (fun r key => eachIn notCollection (readDevice empties) key r) display)
      (Whole display) (actives display) := .eachIn (fun key => .eachIn (reads_readDevice empties) key) display
  refine ⟨fun hw => ?_, fun hw => h.error hw _⟩
  obtain ⟨r, hr, ha⟩ := h.ok hw ⟨[], []⟩
  exact ⟨r, hr, ha.arr⟩

/-! ## monitor.vbs repeats its first monitor -/

theorem foldl_chr : ∀ (bytes : List UInt8) (s : Line),
    bytes.foldl (fun s b => s ++ [chrOf b]) s = s ++ bytes.map chrOf
  | [], s => (List.append_nil s).symm
  | b :: bytes, s => by
    rw [List.foldl_cons, foldl_chr bytes, List.append_assoc]
    rfl

/-- What a panel says in monitor.vbs. -/
def Panel.shown (p : Panel) : Info :=
  p.info "Serial Number Not Found in EDID data".toList "Model Descriptor Not Found in EDID data".toList

theorem notAvailable_eq : notAvailable =
    ['E', 'D', 'I', 'D', ' ', 'N', 'o', 't', ' ', 'A', 'v', 'a', 'i', 'l', 'a', 'b', 'l', 'e'] := rfl

theorem edid_ne (p : Panel) (more : Line) : p.edid.map chrOf ++ more ≠ notAvailable := fun h => by
  have hc : chrOf 0x00 = 'E' := (List.cons.inj h).1
  exact absurd hc (by decide)

/-- Behind `EDID Not Available` the revision is the second byte of the next EDID, which
is no digit: its character is beyond the ANSI codes. -/
theorem info_behind (noSer noMdl : Line) (p : Panel) (more : Line) :
    info noSer noMdl (notAvailable ++ (p.edid.map chrOf ++ more)) = none := by
  obtain ⟨u, hu⟩ : ∃ u, p.edid.map chrOf ++ more = chrOf 0x00 :: chrOf 0xff :: u := ⟨_, rfl⟩
  rw [hu, notAvailable_eq]
  rfl

/-- The EDIDs of monitors, each a panel or without one. -/
def edids (ms : List (Option Panel)) : List (Option (List UInt8)) := ms.map (Option.map Panel.edid)

/-- No monitor without an EDID stands before one with an EDID. -/
def NoneLast (ms : List (Option Panel)) : Prop := ms.Pairwise fun m n => m.isNone = true → n.isNone = true

theorem noneLast_some (p : Panel) (ms : List (Option Panel)) : NoneLast (some p :: ms) ↔ NoneLast ms := by
  unfold NoneLast
  rw [List.pairwise_cons]
  exact and_iff_right fun m _ h => absurd h Bool.false_ne_true

theorem exists_of_not_noneLast {ms : List (Option Panel)} (h : ¬ NoneLast (none :: ms)) : ∃ p, some p ∈ ms := by
  refine Classical.byContradiction fun hp => h ?_
  have hn : ∀ m ∈ ms, m.isNone = true := by
    intro m hm
    cases m with
    | none => rfl
    | some p => exact absurd ⟨p, hm⟩ hp
  exact List.pairwise_cons.mpr ⟨fun m hm _ => hn m hm, List.pairwise_of_forall_mem_list fun _ _ n hn' _ => hn n hn'⟩

theorem rows_blank (raws : List Line) : rows (notAvailable :: raws) = (rows raws).map (blank :: ·) := by
  rw [rows, if_pos rfl]
  cases rows raws <;> rfl

theorem rows_some {raw : Line} {r : Info} (hn : raw ≠ notAvailable)
    (h : info "Serial Number Not Found in EDID data".toList "Model Descriptor Not Found in EDID data".toList raw =
      some r) (raws : List Line) : rows (raw :: raws) = (rows raws).map (r :: ·) := by
  rw [rows, if_neg hn, h]
  cases rows raws <;> rfl

theorem rows_none {raw : Line} (hn : raw ≠ notAvailable)
    (h : info "Serial Number Not Found in EDID data".toList "Model Descriptor Not Found in EDID data".toList raw =
      none) (raws : List Line) : rows (raw :: raws) = none := by
  rw [rows, if_neg hn, h]
  rfl

theorem readEdid_some (s : Line) (p : Panel) : readEdid s (some p.edid) = s ++ p.edid.map chrOf := foldl_chr p.edid s

theorem strings_cons (s : Line) (p : Panel) (ms : List (Option Panel)) :
    strings false s (edids (some p :: ms)) =
      (s ++ p.edid.map chrOf) :: strings false (s ++ p.edid.map chrOf) (edids ms) := by
  rw [← readEdid_some]
  rfl

/-- Behind a monitor without an EDID. -/
theorem rows_behind : ∀ ms : List (Option Panel), ((∀ m ∈ ms, m.isNone = true) →
      rows (strings false notAvailable (edids ms)) = some (ms.map fun _ => blank)) ∧
    ((∃ p, some p ∈ ms) → rows (strings false notAvailable (edids ms)) = none)
  | [] => ⟨fun _ => rfl, fun ⟨p, hp⟩ => absurd hp List.not_mem_nil⟩
  | none :: ms => by
    have hr : rows (strings false notAvailable (edids (none :: ms))) =
        (rows (strings false notAvailable (edids ms))).map (blank :: ·) := rows_blank _
    obtain ⟨h₁, h₂⟩ := rows_behind ms
    refine ⟨fun h => ?_, fun ⟨p, hp⟩ => ?_⟩
    · rw [hr, h₁ fun m hm => h m (List.mem_cons_of_mem _ hm)]
      rfl
    · rw [hr, h₂ ⟨p, (List.mem_cons.mp hp).resolve_left (by simp)⟩]
      rfl
  | some p :: ms => by
    refine ⟨fun h => absurd (h _ List.mem_cons_self) (by simp), fun _ => ?_⟩
    rw [strings_cons]
    have hi := info_behind "Serial Number Not Found in EDID data".toList
      "Model Descriptor Not Found in EDID data".toList p []
    rw [List.append_nil] at hi
    refine rows_none (fun e => ?_) hi _
    have hl := congrArg List.length e
    rw [List.length_append, List.length_map] at hl
    have hp : 0 < p.edid.length := Nat.zero_lt_succ _
    omega

/-- With the first panel's EDID at the front of the string. -/
theorem rows_first (p : Panel) : ∀ (ms : List (Option Panel)) (more : Line),
    (NoneLast ms → rows (strings false (p.edid.map chrOf ++ more) (edids ms)) =
      some (ms.map fun m => (m.map fun _ => p.shown).getD blank)) ∧
    (¬ NoneLast ms → rows (strings false (p.edid.map chrOf ++ more) (edids ms)) = none)
  | [], _ => ⟨fun _ => rfl, fun h => absurd .nil h⟩
  | none :: ms, more => by
    have hr : rows (strings false (p.edid.map chrOf ++ more) (edids (none :: ms))) =
        (rows (strings false notAvailable (edids ms))).map (blank :: ·) := rows_blank _
    obtain ⟨h₁, h₂⟩ := rows_behind ms
    rw [hr]
    refine ⟨fun h => ?_, fun h => ?_⟩
    · have hn : ∀ m ∈ ms, m.isNone = true := fun m hm => (List.pairwise_cons.mp h).1 m hm rfl
      rw [h₁ hn, Option.map_some, List.map_cons]
      refine congrArg (fun l => some (blank :: l)) (List.map_congr_left fun m hm => ?_)
      rw [Option.isNone_iff_eq_none.mp (hn m hm)]
      rfl
    · rw [h₂ (exists_of_not_noneLast h)]
      rfl
  | some q :: ms, more => by
    have hi := info_append "Serial Number Not Found in EDID data".toList
      "Model Descriptor Not Found in EDID data".toList p.raw_length (more ++ q.edid.map chrOf)
    have hr : rows (strings false (p.edid.map chrOf ++ more) (edids (some q :: ms))) =
        (rows (strings false (p.edid.map chrOf ++ (more ++ q.edid.map chrOf)) (edids ms))).map (p.shown :: ·) := by
      rw [strings_cons, List.append_assoc]
      exact rows_some (edid_ne p _) (hi.trans (info_edid p _ _)) _
    obtain ⟨h₁, h₂⟩ := rows_first p ms (more ++ q.edid.map chrOf)
    rw [hr, noneLast_some]
    refine ⟨fun h => ?_, fun h => ?_⟩
    · rw [h₁ h]
      rfl
    · rw [h₂ h]
      rfl

/-- The rows of monitors, the first panel's for every EDID; a monitor without an EDID in
front of one with an EDID ends the run. -/
theorem rows_edids : ∀ ms : List (Option Panel),
    (NoneLast ms → rows (strings false [] (edids ms)) =
      some (ms.map fun m => ((m.bind fun _ => ms.head?.join).map Panel.shown).getD blank)) ∧
    (¬ NoneLast ms → rows (strings false [] (edids ms)) = none)
  | [] => ⟨fun _ => rfl, fun h => absurd .nil h⟩
  | none :: ms => by
    have hr : rows (strings false [] (edids (none :: ms))) =
        (rows (strings false notAvailable (edids ms))).map (blank :: ·) := rows_blank _
    obtain ⟨h₁, h₂⟩ := rows_behind ms
    rw [hr]
    refine ⟨fun hs => ?_, fun hs => ?_⟩
    · have hn : ∀ m ∈ ms, m.isNone = true := fun m hm => (List.pairwise_cons.mp hs).1 m hm rfl
      rw [h₁ hn]
      refine congrArg (fun l => some (blank :: l)) (List.map_congr_left fun m hm => ?_)
      rw [Option.isNone_iff_eq_none.mp (hn m hm)]
      rfl
    · rw [h₂ (exists_of_not_noneLast hs)]
      rfl
  | some p :: ms => by
    obtain ⟨h₁, h₂⟩ := rows_first p ms []
    rw [List.append_nil] at h₁ h₂
    have hi := info_edid p "Serial Number Not Found in EDID data".toList
      "Model Descriptor Not Found in EDID data".toList
    have hne := edid_ne p []
    rw [List.append_nil] at hne
    rw [strings_cons, List.nil_append, rows_some hne hi, noneLast_some]
    refine ⟨fun hs => ?_, fun hs => ?_⟩
    · rw [h₁ hs]
      refine congrArg (fun l => some (p.shown :: l)) (List.map_congr_left fun m _ => ?_)
      cases m <;> rfl
    · rw [h₂ hs]
      rfl

/-- What a run of monitor.vbs echoes. Where a Null is read it ends in an error before the
first line; and of active monitors, where one without an EDID is found before one with an
EDID. Else it echoes for every EDID what the first of them says. -/
theorem monitor_rows (display : Display) :
    (¬ Whole display → ∃ e, monitor display [] = .error e []) ∧
    (Whole display → ∀ ms, actives display = edids ms →
      (NoneLast ms → monitor display [] =
        echo 0 (ms.map fun m => ((m.bind fun _ => ms.head?.join).map Panel.shown).getD blank) []) ∧
      (¬ NoneLast ms → monitor display [] = .error invalidCall [])) := by
  obtain ⟨hok, herr⟩ := reads_readDisplay false display
  refine ⟨fun hw => ?_, fun hw ms h => ?_⟩
  · obtain ⟨e, he⟩ := herr hw
    exact ⟨e, by rw [monitor, he]; rfl⟩
  · obtain ⟨r, hr, hs⟩ := hok hw
    obtain ⟨h₁, h₂⟩ := rows_edids ms
    rw [monitor, hr]
    simp only [hs, h]
    refine ⟨fun hn => ?_, fun hn => ?_⟩
    · rw [h₁ hn]
    · rw [h₂ hn]
      rfl

/-- A computer with the panel, and with another monitor behind it. -/
def office (edid : Option (List UInt8)) : Display :=
  some [some [⟨some ["Monitor\\DELA042".toList], some deskPanel.edid,
      some ["Control".toList, "Device Parameters".toList]⟩],
    some [⟨some ["Monitor\\HWP2847".toList], edid, some ["Device Parameters".toList, "Control".toList]⟩]]

theorem whole_office (edid : Option (List UInt8)) : Whole (office edid) := by
  refine ⟨_, rfl, fun key hk => ?_⟩
  simp only [List.mem_cons, List.not_mem_nil, or_false] at hk
  rcases hk with rfl | rfl <;>
  · refine ⟨_, rfl, fun device hd => ?_⟩
    obtain rfl := List.mem_singleton.mp hd
    exact ⟨_, rfl, fun _ _ _ => ⟨_, rfl⟩⟩

/-- Two monitors: the first is reported twice. -/
theorem monitor_rows_two :
    monitor (office (some wallPanel.edid)) [] = echo 0 [deskPanel.shown, deskPanel.shown] [] :=
  ((monitor_rows (office (some wallPanel.edid))).2 (whole_office _) [some deskPanel, some wallPanel] rfl).1
    ((noneLast_some _ _).mpr ((noneLast_some _ _).mpr .nil))

/-! ## getmonitor lists each serial number once -/

/-- What a panel says in getmonitor. -/
def Panel.row (p : Panel) : Info := p.info "Not Found".toList "Not Found".toList

/-- Where no read fails, the row holds what is read. -/
theorem row_readVars {raw : Line} {i : Info} (h : info "Not Found".toList "Not Found".toList raw = some i) (v : Vars) :
    (readVars v raw).row = i := by
  simp only [info, bind, Option.bind_eq_some_iff] at h
  obtain ⟨week, hw, year, hy, major, hm, rev, hr, ver, hv, b, hb, c, hc, d, hd, e, he, hi⟩ := h
  rw [← Option.some.inj hi]
  simp only [readVars, Vars.row, hw, hy, hm, hr, hb, hc, hd, he, hv, Option.some_or, Option.getD_some, Option.map_some]
  rfl

/-- The serial number is sought in the rows done; an empty one is found in the row
itself. -/
theorem inArray_iff (ser : Line) (done : List (Option Info)) (raws : List Line) :
    inArray ser (done ++ none :: raws.map fun _ => none) = true ↔
      ser = [] ∨ ∃ i, some i ∈ done ∧ i.ser = ser := by
  have hn : ∀ r : Option Info, ((r.map Info.ser).getD [] == ser) = true ↔
      (r = none ∧ ser = []) ∨ ∃ i, r = some i ∧ i.ser = ser := by
    intro r
    rw [beq_iff_eq]
    cases r with
    | none => simp [eq_comm]
    | some i => simp
  unfold inArray
  rw [List.any_eq_true]
  simp only [hn]
  constructor
  · intro ⟨r, hr, h⟩
    rcases h with ⟨rfl, h⟩ | ⟨i, rfl, h⟩
    · exact .inl h
    · refine .inr ⟨i, ?_, h⟩
      rcases List.mem_append.mp hr with hr | hr
      · exact hr
      · simp at hr
  · intro h
    rcases h with h | ⟨i, hi, h⟩
    · exact ⟨none, List.mem_append_right _ List.mem_cons_self, .inl ⟨rfl, h⟩⟩
    · exact ⟨some i, List.mem_append_left _ hi, .inr ⟨i, rfl, h⟩⟩

/-- Whether a panel is left out: it has an empty serial number, or that of one before. -/
def Repeats (before : List (Option Panel)) (p : Panel) : Prop :=
  p.row.ser = [] ∨ ∃ q, some q ∈ before ∧ q.row.ser = p.row.ser

/-- A row as it should be: empty for a monitor without an EDID and for one left out. -/
def RowOf (before : List (Option Panel)) (m : Option Panel) (r : Option Info) : Prop :=
  match m with
  | none => r = none
  | some p => (Repeats before p ∧ r = none) ∨ (¬ Repeats before p ∧ r = some p.row)

/-- The serial numbers of the rows are those of the monitors before. -/
def Seen (before : List (Option Panel)) (done : List (Option Info)) : Prop :=
  ∀ ser, ser ≠ [] → ((∃ i, some i ∈ done ∧ i.ser = ser) ↔ ∃ q, some q ∈ before ∧ q.row.ser = ser)

theorem Seen.concat {before : List (Option Panel)} {done : List (Option Info)} (h : Seen before done)
    {m : Option Panel} {r : Option Info} (hr : RowOf before m r) : Seen (before ++ [m]) (done ++ [r]) := by
  intro ser hs
  simp only [List.mem_append, List.mem_singleton, or_and_right, exists_or]
  rw [h ser hs]
  by_cases hn : ∃ q, some q ∈ before ∧ q.row.ser = ser
  · exact iff_of_true (.inl hn) (.inl hn)
  simp only [hn, false_or]
  cases m with
  | none =>
    obtain rfl : r = none := hr
    simp
  | some p =>
    rcases hr with ⟨hp, rfl⟩ | ⟨-, rfl⟩
    · refine iff_of_false (by simp) ?_
      intro ⟨q, hq, he⟩
      obtain rfl := Option.some.inj hq
      rcases hp with hp | ⟨q', hq', he'⟩
      · exact hs (he.symm.trans hp)
      · exact hn ⟨q', hq', he'.trans he⟩
    · simp

theorem fill_none (v : Vars) (done : List (Option Info)) (raws : List Line) :
    fill v done (notAvailable :: raws) = fill v (done ++ [none]) raws := by
  rw [fill, if_pos rfl]

theorem fill_some {raw : Line} (h : raw ≠ notAvailable) (v : Vars) (done : List (Option Info)) (raws : List Line) :
    ∃ r, fill v done (raw :: raws) = fill (readVars v raw) (done ++ [r]) raws ∧
      (((readVars v raw).tmpser = [] ∨ ∃ i, some i ∈ done ∧ i.ser = (readVars v raw).tmpser) ∧ r = none ∨
        ¬ ((readVars v raw).tmpser = [] ∨ ∃ i, some i ∈ done ∧ i.ser = (readVars v raw).tmpser) ∧
          r = some (readVars v raw).row) := by
  rw [fill, if_neg h]
  refine ⟨_, rfl, ?_⟩
  rw [← inArray_iff _ _ raws]
  by_cases hi : inArray (readVars v raw).tmpser (done ++ none :: raws.map fun _ => none) = true
  · exact .inl ⟨hi, if_pos hi⟩
  · exact .inr ⟨hi, if_neg hi⟩

theorem raw_ne (p : Panel) : p.edid.map chrOf ≠ notAvailable := by
  have h := edid_ne p []
  rwa [List.append_nil] at h

/-- A panel is listed, or left out, whatever has been read before. -/
theorem fill_panel {before : List (Option Panel)} {done : List (Option Info)} (h : Seen before done) (p : Panel)
    (v : Vars) (raws : List Line) :
    ∃ r, fill v done (p.edid.map chrOf :: raws) = fill (readVars v (p.edid.map chrOf)) (done ++ [r]) raws ∧
      RowOf before (some p) r := by
  have hrow := row_readVars (info_edid p "Not Found".toList "Not Found".toList) v
  have hne := raw_ne p
  generalize p.edid.map chrOf = raw at hne hrow ⊢
  have hser : (readVars v raw).tmpser = p.row.ser := congrArg Info.ser hrow
  obtain ⟨r, hf, hr⟩ := fill_some hne v done raws
  rw [hser, hrow] at hr
  refine ⟨r, hf, ?_⟩
  unfold RowOf Repeats
  by_cases hs : p.row.ser = []
  · simpa only [hs, true_or, true_and, not_true_eq_false, false_and, or_false] using hr
  · rwa [h _ hs] at hr

/-- The rows of monitors, and of what follows them. -/
theorem fill_edids : ∀ (ms : List (Option Panel)) {before : List (Option Panel)} {done : List (Option Info)} (v : Vars)
    (more : List Line), Seen before done →
    ∃ v' rs, fill v done ((edids ms).map (readEdid []) ++ more) = fill v' (done ++ rs) more ∧
      Seen (before ++ ms) (done ++ rs) ∧ rs.length = ms.length ∧
      ∀ a m b, ms = a ++ m :: b → ∃ r, rs[a.length]? = some r ∧ RowOf (before ++ a) m r
  | [], before, done, v, more, h => by
    refine ⟨v, [], by rw [List.append_nil]; rfl, by rwa [List.append_nil, List.append_nil], rfl, ?_⟩
    intro a m b e
    cases a <;> cases e
  | m :: ms, before, done, v, more, h => by
    obtain ⟨v₁, r, hf, hr⟩ : ∃ v₁ r, fill v done ((edids (m :: ms)).map (readEdid []) ++ more) =
        fill v₁ (done ++ [r]) ((edids ms).map (readEdid []) ++ more) ∧ RowOf before m r := by
      cases m with
      | none => exact ⟨v, none, fill_none v done _, rfl⟩
      | some p =>
        obtain ⟨r, hf, hr⟩ := fill_panel h p v ((edids ms).map (readEdid []) ++ more)
        refine ⟨readVars v (p.edid.map chrOf), r, ?_, hr⟩
        rw [← hf, ← List.nil_append (p.edid.map chrOf), ← readEdid_some]
        rfl
    obtain ⟨v', rs, he, hs, hl, hrows⟩ := fill_edids ms v₁ more (h.concat hr)
    refine ⟨v', r :: rs, ?_, ?_, by rw [List.length_cons, List.length_cons, hl], ?_⟩
    · rw [hf, he, List.append_assoc]
      rfl
    · simpa only [List.append_assoc, List.singleton_append] using hs
    · intro a m' b e
      cases a with
      | nil =>
        obtain ⟨rfl, rfl⟩ := List.cons.inj e
        exact ⟨r, rfl, by rwa [List.append_nil]⟩
      | cons m₁ a =>
        obtain ⟨rfl, rfl⟩ := List.cons.inj e
        obtain ⟨r', hr', hro⟩ := hrows a m' b rfl
        refine ⟨r', hr', ?_⟩
        rwa [List.append_assoc] at hro

theorem arrMonitorInfo_eq {display : Display} (h : Whole display) :
    arrMonitorInfo display = some (fill .start [] ((actives display).map (readEdid []))) := by
  obtain ⟨r, hr, hs⟩ := (reads_readDisplay true display).1 h
  rw [arrMonitorInfo, hr, ← strings_empty _ [], ← hs]

/-- Every active monitor with an EDID is listed, in the order they are found, but for
those with an empty serial number or that of a monitor before them; two that store none
are the same to it. -/
theorem getmonitor_rows {display : Display} {ms : List (Option Panel)} (hw : Whole display)
    (h : actives display = edids ms) :
    ∃ rs, arrMonitorInfo display = some rs ∧ getmonitor (.ok display) = some (message 0 rs) ∧
      rs.length = ms.length ∧ ∀ a m b, ms = a ++ m :: b → ∃ r, rs[a.length]? = some r ∧ RowOf a m r := by
  obtain ⟨v', rs, he, -, hl, hr⟩ := @fill_edids ms [] [] .start [] fun ser _ => by simp
  have ha : arrMonitorInfo display = some rs := by
    rw [arrMonitorInfo_eq hw, h, ← List.append_nil ((edids ms).map (readEdid [])), he]
    rfl
  refine ⟨rs, ha, by rw [getmonitor, ha]; rfl, hl, fun a m b e => ?_⟩
  have hro := hr a m b e
  rwa [List.nil_append] at hro

/-- Both are listed, unless the second repeats the serial number of the first. -/
theorem getmonitor_rows_two :
    ∃ rs, arrMonitorInfo (office (some wallPanel.edid)) = some rs ∧
      getmonitor (.ok (office (some wallPanel.edid))) = some (message 0 rs) ∧ rs.length = 2 ∧
      ∀ a m b, [some deskPanel, some wallPanel] = a ++ m :: b → ∃ r, rs[a.length]? = some r ∧ RowOf a m r :=
  @getmonitor_rows (office (some wallPanel.edid)) [some deskPanel, some wallPanel] (whole_office _) rfl

/-! ## An EDID that is cut short -/

end Espo.Monitor
