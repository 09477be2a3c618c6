import EspoScripts.Framework.Run
import EspoScripts.WolE.Bruteforce

/-!
# Apple targets of wol-e.py

`wol-e.py -f` scans the network and appends to `AppleTargets.txt` the devices
that hold one of the prefixes of `AppleMAC.lst` (`scan`); `-fa` wakes every
device of that file (`wakeAll`).

Where both lists are there and `AppleTargets.txt` has no unfinished last line
(`Listed`), a device is recorded by the first scan that shows it, once for each
prefix it holds and each line that shows it, and by no later one
(`count_targets`). `wakeAll_iff`: after any scans, `-fa` wakes just the devices
that were in the file and the scanned ones that hold a prefix, up to the first
whose packet `sendto` raises an exception for.
-/

namespace Espo.WolE

open Espo.Cmd Espo.Py Espo.Run

/-! ## The scripts -/

/-- The files of the working directory. -/
structure Files where
  netscan : Option TextFile
  apples : Option TextFile
  targets : Option TextFile

/-- `line.lower().rstrip()`. -/
def clean (line : Line) : Line := rstrip (lower line)

/-- `readAndTrim`. -/
def readAndTrim (f : TextFile) : List Line := (rawLines f).map clean

/-- `wOutput`: the lines it writes. -/
def wOutput (x1 x2 x3 : List Line) : List Line :=
  x1.flatMap fun s => x2.flatMap fun l => if hasText l s && !x3.contains s then [s] else []

/-- `wol-e.py -f`, with the answers to its ARP requests. -/
def scan (d : Files) (results : List Line) : Files × List Line :=
  let netscan := TextFile.ofLines results
  let d := { d with netscan := some netscan }
  match d.apples, d.targets with
  | some apples, some targets =>
    let detected := wOutput (readAndTrim netscan) (readAndTrim apples) (readAndTrim targets)
    ({ d with targets := some (detected.foldl TextFile.append targets) }, detected)
  | _, _ => (d, [])

/-- A line of `AppleTargets.txt`. -/
def wakeTarget (sock : Socket) (port : Int) (line : Line) : Script Unit := do
  let macaddress ← stripSep (line.take 17)
  wake sock (magicData macaddress []) broadcast port

/-- `wol-e.py -fa`, with `AppleTargets.txt`. -/
def wakeAll (sock : Socket) (argv : List Line) (targets : Option TextFile) : Script Unit := do
  emit (.print "\n\t[*] WOL-E 1.0 [*]\n\t[*] Wake on LAN Explorer - WOL Detected Apple clients.".toList)
  match targets with
  | none => do
    emit (.print ("\n\t[*] Please ensure you have the AppleTargets.txt file in the current working ".toList ++
      "directory.\n".toList))
    throw (.exit 2)
  | some f => do
    let port ← portOf argv
    forEach (rawLines f) (wakeTarget sock port)
    emit (.print ("\n\t[*] ".toList ++ (toString (rawLines f).length).toList ++
      " detected Apple clients have been sent WOL requests, Exiting.\n".toList))
    throw (.exit 2)

/-! ## Lines recorded -/

theorem clean_break (l : Line) : clean (l ++ ['\n']) = clean l := by
  have e : lower (l ++ ['\n']) = lower l ++ ['\n'] := List.map_append
  rw [clean, e, rstrip_concat (by decide)]
  rfl

@[simp] theorem clean_clean (l : Line) : clean (clean l) = clean l := rstrip_lower_idem l

theorem readAndTrim_ofLines (ls : List Line) : readAndTrim (.ofLines ls) = ls.map clean := by
  unfold readAndTrim rawLines TextFile.ofLines
  simp only [if_pos, List.append_nil, List.map_map, Function.comp_def, clean_break]

/-- What the scan of one device writes: the device for each prefix it holds, if it is new. -/
theorem wOutput_cons (s : Line) (x1 x2 x3 : List Line) : wOutput (s :: x1) x2 x3 =
    List.replicate (if s ∈ x3 then 0 else x2.countP (hasText · s)) s ++ wOutput x1 x2 x3 := by
  have h : ∀ ls : List Line, (ls.flatMap fun l => if hasText l s && !x3.contains s then [s] else []) =
      List.replicate (if s ∈ x3 then 0 else ls.countP (hasText · s)) s := by
    intro ls
    induction ls with
    | nil => simp
    | cons l ls ih =>
      rw [List.flatMap_cons, ih, List.countP_cons]
      by_cases hs : s ∈ x3
      · simp [hs]
      · cases hl : hasText l s <;> simp [hs, List.replicate_succ]
  rw [wOutput, List.flatMap_cons, h]
  rfl

/-- How often a device is written: not at all if it is listed, else once for each line
that shows it and each prefix it holds. -/
theorem count_wOutput (s : Line) (x2 x3 : List Line) : ∀ x1 : List Line,
    (wOutput x1 x2 x3).count s = x1.count s * if s ∈ x3 then 0 else x2.countP (hasText · s)
  | [] => by rw [List.count_nil, Nat.zero_mul]; rfl
  | r :: x1 => by
    rw [wOutput_cons, List.count_append, count_wOutput s x2 x3 x1, List.count_cons]
    by_cases h : r = s
    · subst h
      rw [List.count_replicate_self, beq_self_eq_true, if_pos rfl, Nat.add_mul, Nat.one_mul, Nat.add_comm]
    · rw [List.count_eq_zero.mpr fun hm => h (List.eq_of_mem_replicate hm).symm, Nat.zero_add,
        beq_false_of_ne h]
      simp only [Bool.false_eq_true, if_false, Nat.add_zero]

theorem mem_wOutput {s : Line} {x1 x2 x3 : List Line} :
    s ∈ wOutput x1 x2 x3 ↔ s ∉ x3 ∧ s ∈ x1 ∧ ∃ l ∈ x2, hasText l s = true := by
  rw [wOutput, List.mem_flatMap]
  constructor
  · rintro ⟨r, hr, h⟩
    obtain ⟨l, hl, h⟩ := List.mem_flatMap.mp h
    split at h
    · rename_i hc
      obtain rfl := List.mem_singleton.mp h
      have hc := Bool.and_eq_true_iff.mp hc
      exact ⟨by simpa using hc.2, hr, l, hl, hc.1⟩
    · cases h
  · rintro ⟨hs, hr, l, hl, ht⟩
    refine ⟨s, hr, List.mem_flatMap.mpr ⟨l, hl, ?_⟩⟩
    rw [if_pos (by simp [ht, hs])]
    exact List.mem_singleton.mpr rfl

/-- The working directory with both lists, the recorded devices being `ls`, each line of
them finished. -/
structure Listed (apples : TextFile) (ls : List Line) (d : Files) : Prop where
  apples_eq : d.apples = some apples
  targets_eq : d.targets = some (.ofLines ls)

/-- The prefixes of `AppleMAC.lst`. -/
abbrev prefixesOf (apples : TextFile) : List Line := readAndTrim apples

section

variable {apples : TextFile} {ls : List Line} {d : Files}

theorem Listed.unique {ms : List Line} (h : Listed apples ls d) (hm : Listed apples ms d) : ls = ms := by
  have e : TextFile.ofLines ls = TextFile.ofLines ms :=
    Option.some.inj (h.targets_eq.symm.trans hm.targets_eq)
  exact congrArg TextFile.full e

/-- A scan adds what it detects. -/
theorem listed_scan (h : Listed apples ls d) (rs : List Line) :
    Listed apples (ls ++ wOutput (rs.map clean) (prefixesOf apples) (ls.map clean)) (scan d rs).1 := by
  obtain ⟨n, a, t⟩ := d
  obtain ⟨rfl, rfl⟩ : a = some apples ∧ t = some (.ofLines ls) := ⟨h.apples_eq, h.targets_eq⟩
  refine ⟨rfl, ?_⟩
  show some (List.foldl TextFile.append (.ofLines ls) (wOutput (readAndTrim (.ofLines rs)) _
    (readAndTrim (.ofLines ls)))) = _
  rw [TextFile.foldl_append_of_rest_nil _ rfl, readAndTrim_ofLines, readAndTrim_ofLines]
  rfl

/-- The lines of a scan are cleaned when they are written. -/
theorem map_clean_wOutput (rs : List Line) (x2 x3 : List Line) :
    (wOutput (rs.map clean) x2 x3).map clean = wOutput (rs.map clean) x2 x3 := by
  refine (List.map_congr_left fun s hs => ?_).trans (List.map_id _)
  obtain ⟨r, -, rfl⟩ := List.mem_map.mp (mem_wOutput.mp hs).2.1
  exact clean_clean r

/-- After scans the recorded devices are still a list of lines. -/
theorem listed_after : ∀ (scans : List (List Line)) {ls : List Line} {d : Files}, Listed apples ls d →
    ∃ ms, Listed apples ms (after scan d scans)
  | [], ls, _, h => ⟨ls, h⟩
  | rs :: scans, _, _, h => listed_after scans (listed_scan h rs)

/-- A device that is listed, or holds no prefix, is not written again. -/
theorem count_after (s : Line) : ∀ (scans : List (List Line)) {ls ms : List Line} {d : Files},
    Listed apples ls d → Listed apples ms (after scan d scans) →
    (s ∈ ls.map clean ∨ (prefixesOf apples).countP (hasText · s) = 0 ∨ ∀ rs ∈ scans, s ∉ rs.map clean) →
    (ms.map clean).count s = (ls.map clean).count s
  | [], ls, ms, d, h, hm, _ => by
    rw [h.unique hm]
  | rs :: scans, ls, ms, d, h, hm, hs => by
    have h₀ : (wOutput (rs.map clean) (prefixesOf apples) (ls.map clean)).count s = 0 := by
      rw [count_wOutput]
      rcases hs with hs | hs | hs
      · rw [if_pos hs, Nat.mul_zero]
      · rw [hs, ite_self, Nat.mul_zero]
      · rw [List.count_eq_zero.mpr (hs rs List.mem_cons_self), Nat.zero_mul]
    have hs' : s ∈ (ls ++ wOutput (rs.map clean) (prefixesOf apples) (ls.map clean)).map clean ∨
        (prefixesOf apples).countP (hasText · s) = 0 ∨ ∀ rs ∈ scans, s ∉ rs.map clean := by
      rcases hs with hs | hs | hs
      · exact .inl (by rw [List.map_append]; exact List.mem_append_left _ hs)
      · exact .inr (.inl hs)
      · exact .inr (.inr fun rs hrs => hs rs (List.mem_cons_of_mem _ hrs))
    rw [count_after s scans (listed_scan h rs) hm hs', List.map_append, List.count_append, map_clean_wOutput, h₀,
      Nat.add_zero]

/-- In any run of scans with both lists, a device that is not in the file at first is recorded by the
first scan that shows it, once for each prefix it holds and each line that shows it, and
by none of the later ones. -/
theorem count_targets (h : Listed apples ls d) {s : Line} (hs : s ∉ ls.map clean)
    (before : List (List Line)) (hb : ∀ rs ∈ before, s ∉ rs.map clean) (rs : List Line)
    (hr : s ∈ rs.map clean) (later : List (List Line)) :
    ∃ ms, Listed apples ms (after scan d (before ++ rs :: later)) ∧
      (ms.map clean).count s = (rs.map clean).count s * (prefixesOf apples).countP (hasText · s) := by
  obtain ⟨ks, hk⟩ := listed_after before h
  have hk₀ : (ks.map clean).count s = 0 := by
    rw [count_after s before h hk (.inr (.inr hb)), List.count_eq_zero.mpr hs]
  have hks : s ∉ ks.map clean := List.count_eq_zero.mp hk₀
  have hl := listed_scan hk rs
  obtain ⟨ms, hm⟩ := listed_after later hl
  have hn : ((ks ++ wOutput (rs.map clean) (prefixesOf apples) (ks.map clean)).map clean).count s =
      (rs.map clean).count s * (prefixesOf apples).countP (hasText · s) := by
    rw [List.map_append, List.count_append, map_clean_wOutput, hk₀, Nat.zero_add, count_wOutput, if_neg hks]
  refine ⟨ms, by rw [after_append, after_cons]; exact hm, ?_⟩
  rw [count_after s later hl hm ?_, hn]
  by_cases h0 : (prefixesOf apples).countP (hasText · s) = 0
  · exact .inr (.inl h0)
  · left
    apply List.count_pos_iff.mp
    rw [hn]
    exact Nat.mul_pos (List.count_pos_iff.mpr hr) (Nat.pos_of_ne_zero h0)

/-- What the recorded devices are: those of the file, and those scans show and that hold
a prefix. -/
theorem mem_targets : ∀ (scans : List (List Line)) {ls ms : List Line} {d : Files},
    Listed apples ls d → Listed apples ms (after scan d scans) → ∀ s,
      s ∈ ms.map clean ↔ s ∈ ls.map clean ∨
        (∃ rs ∈ scans, s ∈ rs.map clean) ∧ ∃ l ∈ prefixesOf apples, hasText l s = true
  | [], ls, ms, d, h, hm, s => by
    rw [h.unique hm]
    simp
  | rs :: scans, ls, ms, d, h, hm, s => by
    rw [mem_targets scans (listed_scan h rs) hm s, List.map_append, List.mem_append, map_clean_wOutput]
    have hc : (∃ q ∈ rs :: scans, s ∈ q.map clean) ↔ s ∈ rs.map clean ∨ ∃ q ∈ scans, s ∈ q.map clean := by
      simp only [List.mem_cons, exists_eq_or_imp]
    rw [mem_wOutput, hc]
    by_cases hs : s ∈ ls.map clean
    · simp only [hs, true_or]
    · by_cases hr : s ∈ rs.map clean
      · simp only [hs, hr, not_false_eq_true, true_and, true_or, false_or]
        exact ⟨fun h => h.elim id And.right, .inl⟩
      · simp only [hs, hr, false_and, and_false, false_or]

/-- Lines that are cleaned are recorded cleaned. -/
theorem clean_after : ∀ (scans : List (List Line)) {ls ms : List Line} {d : Files},
    Listed apples ls d → Listed apples ms (after scan d scans) → ls.map clean = ls → ms.map clean = ms
  | [], ls, ms, d, h, hm, hc => by
    rwa [← h.unique hm]
  | rs :: scans, ls, ms, d, h, hm, hc => by
    refine clean_after scans (listed_scan h rs) hm ?_
    rw [List.map_append, hc, map_clean_wOutput]

end

/-- A device that holds two of the listed prefixes is recorded twice, by its first scan. -/
theorem count_targets_twice :
    ∃ ms, Listed (.ofLines ["00:1B".toList, "00:1B:63".toList]) ms (after scan
        ⟨none, some (.ofLines ["00:1B".toList, "00:1B:63".toList]), some (.ofLines [])⟩
        ([] ++ ["00:1b:63:84:45:e6".toList] :: [["00:1b:63:84:45:e6".toList]])) ∧
      (ms.map clean).count "00:1b:63:84:45:e6".toList =
        (["00:1b:63:84:45:e6".toList].map clean).count "00:1b:63:84:45:e6".toList *
          (prefixesOf (.ofLines ["00:1B".toList, "00:1B:63".toList])).countP (hasText · "00:1b:63:84:45:e6".toList) :=
  count_targets ⟨rfl, rfl⟩ (by decide) [] (by decide) _ (by decide) _

/-! ## Scanned devices woken -/

/-- A device as a scan reports it: the address with colons, in lower case, then its IP
address. -/
structure Device where
  text : Line
  mac : List UInt8
  written : Written (text.take 17) mac
  long : (text.take 17).length = 17
  clean_eq : clean text = text

/-- The address at the start of a recorded line. -/
def lineBytes (line : Line) : List UInt8 := (hexBytes (stripped (line.take 17))).getD []

theorem Device.lineBytes_eq (v : Device) : lineBytes v.text = v.mac := by
  rw [lineBytes, v.written.read.2.2, Option.getD_some]

/-- The packet of a recorded line. -/
def linePacket (port : Int) (line : Line) : Datagram := (magic (lineBytes line) [], broadcast, port)

section

variable {sock : Socket}

/-- A device's line, read with its line break, is woken. -/
theorem sends_wakeTarget (v : Device) (port : Int) :
    Sends sock (wakeTarget sock port (v.text ++ ['\n'])) [linePacket port v.text] := by
  obtain ⟨-, hl, hb⟩ := v.written.read
  have ht : (v.text ++ ['\n']).take 17 = v.text.take 17 := by
    refine List.take_append_of_le_length ?_
    have := v.long
    rw [List.length_take] at this
    omega
  have he : packHex [] = .ok [] := rfl
  rw [wakeTarget, ht, linePacket, v.lineBytes_eq]
  exact Sends.after (stripSep_ok v.long) (sends_wake (packHex_ok (by rw [hl]) (packHex_of_hexBytes hb) he) _ _)

/-- `-fa` on a list of devices: a packet for each line, in order. -/
theorem sent_wakeAll {argv : List Line} {port : Int} (h : destPort argv = some port) {ls : List Line}
    (hd : ∀ l ∈ ls, ∃ v : Device, v.text = l) :
    sent (eventsOf (wakeAll sock argv (some (.ofLines ls)) [])) = sock.taken (ls.map (linePacket port)) := by
  have hr : rawLines (.ofLines ls) = ls.map (· ++ ['\n']) := List.append_nil _
  have hl : ∀ (ms : List Line), (∀ l ∈ ms, ∃ v : Device, v.text = l) →
      Sends sock (forEach (ms.map (· ++ ['\n'])) (wakeTarget sock port)) (ms.map (linePacket port)) := by
    intro ms
    induction ms with
    | nil => exact fun _ => Sends.ret ()
    | cons m ms ih =>
      intro hm
      obtain ⟨v, rfl⟩ := hm m List.mem_cons_self
      exact (sends_wakeTarget v port).bind fun _ => ih fun l hl => hm l (List.mem_cons_of_mem _ hl)
  have hq : ∀ _ : Unit, Quiet (do
      emit (.print ("\n\t[*] ".toList ++ (toString (rawLines (.ofLines ls)).length).toList ++
        " detected Apple clients have been sent WOL requests, Exiting.\n".toList))
      throw (.exit 2) : Script Unit) := fun _ => (quiet_print _).bind fun _ => quiet_throw _
  obtain ⟨es, hp, hs⟩ := portOf_ok h ([] ++ [.print _])
  unfold wakeAll
  rw [bind_ok (emit_ok _ _)]
  show sent (eventsOf ((portOf argv >>= fun port => _ : Script Unit) _)) = _
  rw [bind_ok hp]
  refine (sent_bind_quiet hq es).trans ?_
  rw [hr, (hl ls hd).view_eventsOf, hs]
  rfl

/-- After any scans that report devices, `-fa` wakes just the devices that were in the
file at first and those scanned that hold a prefix, if `sendto` raises no exception for
a line of the file up to theirs. -/
theorem wakeAll_iff (sock : Socket) {argv : List Line} {port : Int} (h : destPort argv = some port)
    (netscan : Option TextFile) (apples : TextFile) (start : List Device) (scans : List (List Device))
    (mac : List UInt8) (h6 : mac.length = 6) :
    (magic mac [], broadcast, port) ∈ sent (eventsOf (wakeAll sock argv (after scan
        ⟨netscan, some apples, some (.ofLines (start.map Device.text))⟩
        (scans.map fun vs => vs.map Device.text)).targets [])) ↔
      ∃ v : Device, v.mac = mac ∧ (v ∈ start ∨
          (∃ vs ∈ scans, v ∈ vs) ∧ ∃ l ∈ prefixesOf apples, hasText l v.text = true) ∧
        ∃ as bs, linesOf (after scan ⟨netscan, some apples, some (.ofLines (start.map Device.text))⟩
            (scans.map fun vs => vs.map Device.text)).targets = as ++ v.text :: bs ∧
          sock.Takes ((as ++ [v.text]).map (linePacket port)) := by
  have hcl : ∀ vs : List Device, (vs.map Device.text).map clean = vs.map Device.text := fun vs => by
    rw [List.map_map]
    exact List.map_congr_left fun v _ => v.clean_eq
  have h₀ : Listed apples (start.map Device.text) ⟨netscan, some apples, some (.ofLines (start.map Device.text))⟩ :=
    ⟨rfl, rfl⟩
  obtain ⟨ms, hm⟩ := listed_after (scans.map fun vs => vs.map Device.text) h₀
  have hms := clean_after _ h₀ hm (hcl start)
  -- a recorded line is that of a device of the file, or of one scanned with a prefix
  have hmem : ∀ l ∈ ms, ∃ v : Device, v.text = l ∧ (v ∈ start ∨
      (∃ vs ∈ scans, v ∈ vs) ∧ ∃ p ∈ prefixesOf apples, hasText p v.text = true) := by
    intro l hl
    have hi := mem_targets _ h₀ hm l
    rw [hms, hcl] at hi
    rcases hi.mp hl with hs | ⟨⟨rs, hrs, hs⟩, hp⟩
    · obtain ⟨v, hv, rfl⟩ := List.mem_map.mp hs
      exact ⟨v, rfl, .inl hv⟩
    · obtain ⟨vs, hvs, rfl⟩ := List.mem_map.mp hrs
      rw [hcl] at hs
      obtain ⟨v, hv, rfl⟩ := List.mem_map.mp hs
      exact ⟨v, rfl, .inr ⟨⟨vs, hvs, hv⟩, hp⟩⟩
  have hlines : linesOf (some (TextFile.ofLines ms)) = ms := TextFile.lines_ofLines ms
  rw [hm.targets_eq, sent_wakeAll h fun l hl => (hmem l hl).imp fun v hv => hv.1, hlines, mem_taken_iff]
  constructor
  · rintro ⟨as, bs, e, ht⟩
    obtain ⟨as', tl, rfl, rfl, e'⟩ := List.map_eq_append_iff.mp e
    obtain ⟨l, bs', rfl, hl, -⟩ := List.map_eq_cons_iff.mp e'
    obtain ⟨v, rfl, hv⟩ := hmem l (List.mem_append_right _ List.mem_cons_self)
    refine ⟨v, ?_, hv, as', bs', rfl, ?_⟩
    · rw [← v.lineBytes_eq]
      refine magic_injective ?_ (congrArg Prod.fst hl)
      rw [v.lineBytes_eq, v.written.six, h6]
    · rw [List.map_append, List.map_singleton, hl]
      exact ht
  · rintro ⟨v, rfl, -, as, bs, rfl, ht⟩
    have hv : linePacket port v.text = (magic v.mac [], broadcast, port) := by rw [linePacket, v.lineBytes_eq]
    rw [List.map_append, List.map_singleton, hv] at ht
    exact ⟨_, bs.map (linePacket port), by rw [List.map_append, List.map_cons, hv], ht⟩

end

/-- A device as scapy reports it. -/
def sampleDevice : Device where
  text := "00:1b:63:84:45:e6 192.168.1.23".toList
  mac := [0x00, 0x1b, 0x63, 0x84, 0x45, 0xe6]
  written :=
    { digits := ["00".toList, "1b".toList, "63".toList, "84".toList, "45".toList, "e6".toList]
      sep := [':']
      text := rfl
      bytes_eq := by decide
      six := rfl
      sep_eq := colon_sep }
  long := rfl
  clean_eq := rfl

/-- It is woken after a scan that shows it. -/
theorem wakeAll_sample :
    (magic [0x00, 0x1b, 0x63, 0x84, 0x45, 0xe6] [], broadcast, 9) ∈
      sent (eventsOf (wakeAll openSocket ["wol-e.py".toList, "-fa".toList] (after scan
        ⟨none, some (.ofLines ["00:1B:63".toList]), some (.ofLines [])⟩
        [["00:1b:63:84:45:e6 192.168.1.23".toList]]).targets [])) :=
  (wakeAll_iff openSocket rfl none _ [] [[sampleDevice]] _ rfl).mpr
    ⟨sampleDevice, rfl, .inr ⟨⟨_, List.mem_singleton.mpr rfl, List.mem_singleton.mpr rfl⟩,
      "00:1b:63".toList, List.mem_singleton.mpr rfl, by decide⟩, [], [], by decide,
      openSocket_takes fun d hd => by rw [List.mem_singleton.mp hd]; decide⟩

end Espo.WolE
