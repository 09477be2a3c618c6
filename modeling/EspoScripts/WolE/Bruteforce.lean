import EspoScripts.WolE.Magic

/-!
# Brute force over ranges of addresses

`wol-e.py -a` reads ranges from `bfmac.lst`, four bytes of an address a line, and
wakes the addresses of each range (`bruteforce`). The loops over the last two
bytes are `range(0, 255)`, so they end at FE, while the message says `FF:FF`.

`bruteforce_sends`: a list of well formed ranges gets the packets of each
range in order, one for each address whose last two bytes are below FF, up to
the first that `sendto` raises an exception for. `bruteforce_wakes_iff` says so
of one address: none that ends in a byte FF, or has one before the last, is
woken. `bruteforce_stops`: a malformed line ends the whole run.
-/

namespace Espo.WolE

open Espo.Cmd Espo.Py

/-! ## The script -/

/-- The lines a file is read by, with their line breaks. -/
def rawLines (f : TextFile) : List Line := f.full.map (· ++ ['\n']) ++ if f.rest = [] then [] else [f.rest]

/-- The destination port of `-a`. -/
def portOf (argv : List Line) : Script Int :=
  if argv.length < 3 then do
    emit (.print "\n\t[*] No destination port detected, using 9 as the default".toList)
    pure 9
  else do
    let arg ← orRaise .indexError argv[3]?
    emit (.print ("\t[*] Custom port detected: ".toList ++ arg))
    orRaise .valueError (int 10 arg)

/-- The body of the inner loop. -/
def bruteAddress (sock : Socket) (line : Line) (port : Int) (y z : Nat) : Script Unit := do
  let line := rstrip line
  if line.length < 11 ∨ 11 < line.length then
    emit (.print ("\n\t[*] MAC address format incorrect, please fix the contents of bfmac.lst".toList ++
      "\n\t[*] Eg: 00:12:34:46\n".toList))
    throw (.exit 2)
  else do
    let macaddress ← stripSep (line ++ ':' :: hex2 y ++ ':' :: hex2 z)
    wake sock (magicData macaddress []) broadcast port

/-- A line of `bfmac.lst`. -/
def bruteLine (sock : Socket) (port : Int) (line : Line) : Script Unit := do
  emit (.print ("\t[*] Now bruteforcing ".toList ++ rstrip line ++ ":00:00 -> ".toList ++ rstrip line ++
    ":FF:FF".toList))
  forEach (List.range 255) fun y => forEach (List.range 255) fun z => bruteAddress sock line port y z

/-- `wol-e.py -a`, with `bfmac.lst`. -/
def bruteforce (sock : Socket) (argv : List Line) (macs : Option TextFile) : Script Unit := do
  emit (.print "\n\t[*] WOL-E 1.0 [*]\n\t[*] Wake on LAN Explorer - WOL Bruteforce MAC ranges.".toList)
  let port ← portOf argv
  match macs with
  | none => do
    emit (.print "\n\t[*] Please ensure you have the bfmac.lst file in the current working directory.\n".toList)
    throw (.exit 2)
  | some f => do
    emit (.print "\t[*] WOL Bruteforcing has started.".toList)
    forEach (rawLines f) (bruteLine sock port)
    emit (.print "\n\t[*] Bruteforce of MAC ranges completed. Exiting [*]\n".toList)
    throw (.exit 2)

/-! ## Ranges -/

/-- A line that is a range of addresses: four pairs of hex digits between colons, with
blanks behind them. -/
structure Range where
  line : Line
  digits : List Line
  bytes : List UInt8
  text : rstrip line = List.intercalate [':'] digits
  bytes_eq : digits.map hexBytes = bytes.map fun b => some [b]
  four : bytes.length = 4

/-- The packet of an address of a range. -/
def packetOf (port : Int) (bytes : List UInt8) (y z : Nat) : Datagram :=
  (magic (bytes ++ [UInt8.ofNat y, UInt8.ofNat z]) [], broadcast, port)

/-- The packets of a range, in order. -/
def Range.packets (port : Int) (r : Range) : List Datagram :=
  (List.range 255).flatMap fun y => (List.range 255).map fun z => packetOf port r.bytes y z

/-- The line of a range has a separator behind its first pair of digits. -/
theorem Range.shape (r : Range) : (rstrip r.line).length = 11 ∧ (rstrip r.line)[2]? = some ':' ∧
    ∃ s, hexBytes s = some r.bytes ∧ (rstrip r.line).filter (· != ':') = s := by
  obtain ⟨line, ds, bytes, ht, hb, h4⟩ := r
  show (rstrip line).length = 11 ∧ (rstrip line)[2]? = some ':' ∧
    ∃ s, hexBytes s = some bytes ∧ (rstrip line).filter (· != ':') = s
  have hh := hexBytes_flatten hb
  have hl : ds.flatten.length = 8 := by rw [length_of_hexBytes hh, h4]
  have hd : ∀ d ∈ ds, ':' ∉ d := fun d hm hc =>
    digit_of_hexBytes hh ':' (List.mem_flatten.mpr ⟨d, hm, hc⟩) (by decide)
  have hlen : ds.length = 4 := by
    have := congrArg List.length hb
    rw [List.length_map, List.length_map] at this
    omega
  obtain ⟨d₀, d₁, d₂, d₃, rfl⟩ : ∃ d₀ d₁ d₂ d₃, ds = [d₀, d₁, d₂, d₃] := by
    match ds, hlen with
    | [d₀, d₁, d₂, d₃], _ => exact ⟨d₀, d₁, d₂, d₃, rfl⟩
  have h2 : d₀.length = 2 := by
    match bytes, h4 with
    | x :: _, _ => exact length_of_hexBytes (List.cons.inj hb).1
  have hi : List.intercalate [':'] [d₀, d₁, d₂, d₃] = d₀ ++ ':' :: (d₁ ++ ':' :: (d₂ ++ ':' :: d₃)) := by
    simp [List.intercalate, List.intersperse]
  rw [ht]
  refine ⟨?_, ?_, [d₀, d₁, d₂, d₃].flatten, hh, filter_intercalate hd⟩
  · rw [hi]
    simp only [List.flatten_cons, List.flatten_nil, List.length_append, List.length_nil] at hl
    simp only [List.length_append, List.length_cons]
    omega
  · rw [hi, List.getElem?_append_right (by omega), h2]
    rfl

variable {sock : Socket}

/-- The address a pass of the inner loop wakes. -/
theorem sends_bruteAddress {line s : Line} {bytes : List UInt8} (hl : (rstrip line).length = 11)
    (hc : (rstrip line)[2]? = some ':') (hs : (rstrip line).filter (· != ':') = s)
    (hb : hexBytes s = some bytes) (port : Int) {y z : Nat} (hy : y < 256) (hz : z < 256) :
    Sends sock (bruteAddress sock line port y z) [packetOf port bytes y z] := by
  have hf : ∀ n < 256, (hex2 n).filter (· != ':') = hex2 n := fun n hn =>
    List.filter_eq_self.mpr fun c hm => bne_iff_ne.mpr fun e =>
      digit_of_hexBytes (hexBytes_hex2 n hn) c hm (by rw [e]; decide)
  have hg : (rstrip line ++ ':' :: hex2 y ++ ':' :: hex2 z)[2]? = some ':' := by
    rw [List.append_assoc, List.getElem?_append_left (by omega), hc]
  have hm : (rstrip line ++ ':' :: hex2 y ++ ':' :: hex2 z).filter (· != ':') = s ++ (hex2 y ++ hex2 z) := by
    rw [List.filter_append, List.filter_append, hs, List.filter_cons_of_neg (by decide),
      List.filter_cons_of_neg (by decide), hf y hy, hf z hz, List.append_assoc]
  have hh := hexBytes_append hb (hexBytes_append (hexBytes_hex2 y hy) (hexBytes_hex2 z hz))
  have he : (s ++ (hex2 y ++ hex2 z)).length % 2 = 0 := by
    have h₁ := length_of_hexBytes hh
    omega
  have hs' : ∀ es, stripSep (rstrip line ++ ':' :: hex2 y ++ ':' :: hex2 z) es =
      .ok (s ++ (hex2 y ++ hex2 z)) es := fun es => by
    rw [stripSep_eq hg, hm]
  have hn : ¬ ((rstrip line).length < 11 ∨ 11 < (rstrip line).length) := by omega
  unfold bruteAddress
  show Sends sock (if _ then _ else _) _
  rw [if_neg hn]
  exact Sends.after hs' (sends_wake (packHex_ok he (packHex_of_hexBytes hh) rfl) broadcast port)

/-- A range's line, read with its line break or without. -/
theorem sends_bruteLine (r : Range) {line : Line} (h : rstrip line = rstrip r.line) (port : Int) :
    Sends sock (bruteLine sock port line) (r.packets port) := by
  obtain ⟨hl, hc, s, hb, hs⟩ := r.shape
  rw [← h] at hl hc hs
  have hy : ∀ y ∈ List.range 255, Sends sock (forEach (List.range 255) fun z => bruteAddress sock line port y z)
      ((List.range 255).map fun z => packetOf port r.bytes y z) := by
    intro y hy
    rw [List.map_eq_flatMap]
    exact Sends.forEach fun z hz => sends_bruteAddress hl hc hs hb port
      (Nat.lt_of_lt_of_le (List.mem_range.mp hy) (by decide)) (Nat.lt_of_lt_of_le (List.mem_range.mp hz) (by decide))
  exact (sends_print _).bind fun _ => Sends.forEach hy

/-- The lines as they are read, without blanks behind them. -/
theorem map_rstrip_rawLines (f : TextFile) : (rawLines f).map rstrip = f.lines.map rstrip := by
  have hn : ∀ l : Line, rstrip (l ++ ['\n']) = rstrip l := fun l => rstrip_concat (by decide) l
  unfold rawLines TextFile.lines
  split <;> simp only [List.map_append, List.map_map, Function.comp_def, hn, List.append_nil]

/-- The loop over lines that are ranges. -/
theorem sends_ranges (port : Int) : ∀ (rs : List Range) (ls : List Line),
    ls.map rstrip = rs.map (fun r => rstrip r.line) →
      Sends sock (forEach ls (bruteLine sock port)) (rs.flatMap (Range.packets port))
  | [], [], _ => Sends.ret ()
  | [], _ :: _, h => by simp at h
  | _ :: _, [], h => by simp at h
  | r :: rs, l :: ls, h => by
    rw [List.map_cons, List.map_cons, List.cons.injEq] at h
    rw [List.flatMap_cons]
    exact (sends_bruteLine r h.1 port).bind fun _ => sends_ranges port rs ls h.2

/-! ## The run -/

/-- The port the arguments give. -/
def destPort (argv : List Line) : Option Int := if argv.length < 3 then some 9 else argv[3]?.bind (int 10)

theorem portOf_ok {argv : List Line} {port : Int} (h : destPort argv = some port) (es : List Event) :
    ∃ es', portOf argv es = .ok port es' ∧ sent es' = sent es := by
  have hq : ∀ t : Line, sent (es ++ [.print t]) = sent es := fun t => quiet_print t es
  unfold destPort at h
  unfold portOf
  split at h
  · rename_i h3
    rw [if_pos h3]
    cases h
    exact ⟨_, rfl, hq _⟩
  · rename_i h3
    obtain ⟨arg, ha, hi⟩ := Option.bind_eq_some_iff.mp h
    rw [if_neg h3, ha]
    show ∃ es', (emit _ >>= fun _ => orRaise .valueError (int 10 arg) : Script Int) es = .ok port es' ∧ _
    rw [hi]
    exact ⟨_, rfl, hq _⟩

/-- What a run sends is what its loop over the lines sends. -/
theorem sent_bruteforce {argv : List Line} {port : Int} (h : destPort argv = some port) (f : TextFile) :
    ∃ es, sent es = [] ∧ sent (eventsOf (bruteforce sock argv (some f) [])) =
      sent (eventsOf (forEach (rawLines f) (bruteLine sock port) es)) := by
  have hq : ∀ _ : Unit, Quiet (do
      emit (.print "\n\t[*] Bruteforce of MAC ranges completed. Exiting [*]\n".toList)
      throw (.exit 2) : Script Unit) := fun _ => (quiet_print _).bind fun _ => quiet_throw _
  obtain ⟨es, hp, hs⟩ := portOf_ok h ([] ++ [.print _])
  unfold bruteforce
  rw [bind_ok (emit_ok _ _), bind_ok hp]
  refine ⟨_, ?_, sent_bind_quiet hq _⟩
  show sent (es ++ [.print _]) = []
  rw [sent_append, hs]
  rfl

/-- A list of ranges gets the packets of each, in order. -/
theorem bruteforce_sends {argv : List Line} {port : Int} (h : destPort argv = some port) {f : TextFile}
    {rs : List Range} (hf : f.lines = rs.map Range.line) :
    sent (eventsOf (bruteforce sock argv (some f) [])) = sock.taken (rs.flatMap (Range.packets port)) := by
  obtain ⟨es, hs, he⟩ := @sent_bruteforce sock argv port h f
  have hm : (rawLines f).map rstrip = rs.map fun r => rstrip r.line := by
    rw [map_rstrip_rawLines, hf, List.map_map]
    rfl
  rw [he, (sends_ranges port rs _ hm).view_eventsOf, hs]
  rfl

theorem magic_injective {m n : List UInt8} (hl : m.length = n.length) (h : magic m [] = magic n []) : m = n := by
  unfold magic at h
  rw [List.append_nil, List.append_nil] at h
  have hc := List.append_cancel_left h
  rw [List.replicate_succ, List.replicate_succ, List.flatten_cons, List.flatten_cons] at hc
  exact (List.append_inj hc hl).1

/-- What stands in front of an element of a list of lists. -/
theorem exists_split_flatMap {α β : Type} {f : α → List β} {d : β} : ∀ {l : List α} {as bs : List β},
    l.flatMap f = as ++ d :: bs →
      ∃ l₁ a l₂, l = l₁ ++ a :: l₂ ∧ ∃ s t, f a = s ++ d :: t ∧ as = l₁.flatMap f ++ s
  | [], as, bs, h => by simp at h
  | a :: l, as, bs, h => by
    rw [List.flatMap_cons] at h
    rcases List.append_eq_append_iff.mp h with ⟨cs, rfl, h'⟩ | ⟨cs, h', h''⟩
    · obtain ⟨l₁, b, l₂, rfl, s, t, hb, rfl⟩ := exists_split_flatMap h'
      exact ⟨a :: l₁, b, l₂, rfl, s, t, hb, by rw [List.flatMap_cons, List.append_assoc]⟩
    · cases cs with
      | nil =>
        rw [List.append_nil] at h'
        obtain ⟨l₁, b, l₂, rfl, s, t, hb, e⟩ := @exists_split_flatMap _ _ f d l [] bs h''.symm
        exact ⟨a :: l₁, b, l₂, rfl, s, t, hb, by rw [List.flatMap_cons, List.append_assoc, ← e, List.append_nil, h']⟩
      | cons c cs =>
        obtain ⟨rfl, -⟩ := List.cons.inj h''
        exact ⟨[], a, l, rfl, as, cs, h', rfl⟩

theorem length_nested {α : Type} (m n : Nat) (f : Nat → Nat → α) :
    ((List.range m).flatMap fun y => (List.range n).map (f y)).length = m * n := by
  simp [List.length_flatMap, List.map_const']

theorem getElem?_nested {α : Type} (n : Nat) (f : Nat → Nat → α) : ∀ {m i : Nat}, i < m * n →
    ((List.range m).flatMap fun y => (List.range n).map (f y))[i]? = some (f (i / n) (i % n))
  | 0, i, h => by omega
  | m + 1, i, h => by
    have hl := length_nested m n f
    have hn : 0 < n := Nat.pos_of_ne_zero fun e => by simp [e] at h
    rw [List.range_succ, List.flatMap_append]
    by_cases hi : i < m * n
    · rw [List.getElem?_append_left (by omega), getElem?_nested n f hi]
    · -- the row with the number `m`
      have hd : i / n = m := by
        rw [Nat.div_eq_iff hn]
        rw [Nat.succ_mul] at h
        omega
      have hm : i - m * n = i % n := by
        have := Nat.div_add_mod i n
        rw [hd, Nat.mul_comm] at this
        omega
      rw [List.getElem?_append_right (by omega), hl, hm, hd]
      simp [List.getElem?_range (Nat.mod_lt i hn)]

theorem Range.length_packets (port : Int) (r : Range) : (r.packets port).length = 255 * 255 :=
  length_nested 255 255 (packetOf port r.bytes)

/-- The packet with the number `255 * y + z` is that of the address with these bytes. -/
theorem Range.getElem?_packets (port : Int) (r : Range) {y z : Nat} (hy : y < 255) (hz : z < 255) :
    (r.packets port)[255 * y + z]? = some (packetOf port r.bytes y z) := by
  have h := getElem?_nested 255 (packetOf port r.bytes) (m := 255) (i := 255 * y + z) (by omega)
  rwa [show (255 * y + z) / 255 = y by omega, show (255 * y + z) % 255 = z by omega] at h

/-- An address is woken just when its first four bytes are a range of the list, neither
of its last two is FF, and `sendto` raises no exception for its packet nor any before it. -/
theorem bruteforce_wakes_iff (sock : Socket) {argv : List Line} {port : Int} (h : destPort argv = some port)
    {f : TextFile} {rs : List Range} (hf : f.lines = rs.map Range.line) (mac : List UInt8) (h6 : mac.length = 6) :
    (magic mac [], broadcast, port) ∈ sent (eventsOf (bruteforce sock argv (some f) [])) ↔
      ∃ rs₁ r rs₂, rs = rs₁ ++ r :: rs₂ ∧ ∃ y z : UInt8, mac = r.bytes ++ [y, z] ∧ y ≠ 255 ∧ z ≠ 255 ∧
        sock.Takes (rs₁.flatMap (Range.packets port) ++
          (r.packets port).take (255 * y.toNat + z.toNat + 1)) := by
  have hu : ∀ y : UInt8, y ≠ 255 ↔ y.toNat < 255 := fun y => by
    have hl := y.toNat_lt
    have he : y = 255 ↔ y.toNat = 255 := UInt8.toNat_inj.symm
    rw [ne_eq, he]
    omega
  have hn : ∀ n < 255, (UInt8.ofNat n).toNat = n := fun n hn => by
    rw [UInt8.toNat_ofNat']
    omega
  rw [bruteforce_sends h hf, mem_taken_iff]
  constructor
  · rintro ⟨as, bs, e, ht⟩
    obtain ⟨rs₁, r, rs₂, rfl, s, t, hr, rfl⟩ := exists_split_flatMap e
    have hl : s.length < 255 * 255 := by
      have hl := congrArg List.length hr
      rw [r.length_packets, List.length_append, List.length_cons] at hl
      omega
    have hy : s.length / 255 < 255 := by omega
    have hz : s.length % 255 < 255 := by omega
    have hi : 255 * (s.length / 255) + s.length % 255 = s.length := Nat.div_add_mod _ _
    have hp := r.getElem?_packets port hy hz
    rw [hi, hr, List.getElem?_append_right (Nat.le_refl _), Nat.sub_self] at hp
    have hm : mac = r.bytes ++ [UInt8.ofNat (s.length / 255), UInt8.ofNat (s.length % 255)] := by
      refine magic_injective ?_ (congrArg Prod.fst (Option.some.inj hp))
      rw [List.length_append, r.four, h6]
      rfl
    have hk : (s ++ (magic mac [], broadcast, port) :: t).take (s.length + 1) = s ++ [(magic mac [], broadcast, port)] := by
      rw [List.append_cons, List.take_left' (by simp)]
    refine ⟨rs₁, r, rs₂, rfl, _, _, hm, (hu _).mpr ?_, (hu _).mpr ?_, ?_⟩
    · rw [hn _ hy]
      exact hy
    · rw [hn _ hz]
      exact hz
    · rw [hn _ hy, hn _ hz, hi, hr, hk, ← List.append_assoc]
      exact ht
  · rintro ⟨rs₁, r, rs₂, rfl, y, z, rfl, hy, hz, ht⟩
    have hp := r.getElem?_packets port ((hu y).mp hy) ((hu z).mp hz)
    rw [packetOf, UInt8.ofNat_toNat, UInt8.ofNat_toNat] at hp
    have hk := List.take_add_one (l := r.packets port) (i := 255 * y.toNat + z.toNat)
    rw [hp, Option.toList_some] at hk
    have hr := List.take_append_drop (255 * y.toNat + z.toNat + 1) (r.packets port)
    rw [hk, List.append_assoc, List.singleton_append] at hr
    rw [hk, ← List.append_assoc] at ht
    refine ⟨_, (r.packets port).drop (255 * y.toNat + z.toNat + 1) ++ rs₂.flatMap (Range.packets port), ?_, ht⟩
    have hc : (rs₁ ++ r :: rs₂).flatMap (Range.packets port) = rs₁.flatMap (Range.packets port) ++
        (r.packets port ++ rs₂.flatMap (Range.packets port)) := by
      rw [List.flatMap_append, List.flatMap_cons]
    refine hc.trans ?_
    rw [List.append_assoc, ← List.cons_append, ← List.append_assoc (List.take _ _), hr]

/-- The range of the usage text. -/
def usageRange : Range where
  line := "00:12:34:56".toList
  digits := ["00".toList, "12".toList, "34".toList, "56".toList]
  bytes := [0x00, 0x12, 0x34, 0x56]
  text := rfl
  bytes_eq := by decide
  four := rfl

/-- The first address of the range is woken, and the last is not. -/
theorem bruteforce_usage :
    (magic [0x00, 0x12, 0x34, 0x56, 0x00, 0x00] [], broadcast, 9) ∈ sent (eventsOf (bruteforce openSocket
        ["wol-e.py".toList, "-a".toList] (some (.ofLines ["00:12:34:56".toList])) [])) ∧
      (magic [0x00, 0x12, 0x34, 0x56, 0xff, 0xff] [], broadcast, 9) ∉ sent (eventsOf (bruteforce openSocket
        ["wol-e.py".toList, "-a".toList] (some (.ofLines ["00:12:34:56".toList])) [])) := by
  have hf : (TextFile.ofLines ["00:12:34:56".toList]).lines = [usageRange].map Range.line := rfl
  have hp : ∀ d ∈ usageRange.packets 9, d.2.2 = 9 := by
    intro d hd
    obtain ⟨y, -, hd⟩ := List.mem_flatMap.mp hd
    obtain ⟨z, -, rfl⟩ := List.mem_map.mp hd
    rfl
  have ht : openSocket.Takes ([].flatMap (Range.packets 9) ++
      (usageRange.packets 9).take (255 * (0 : UInt8).toNat + (0 : UInt8).toNat + 1)) :=
    openSocket_takes fun d hd => by
      rw [hp d (List.mem_of_mem_take hd)]
      decide
  constructor
  · exact (bruteforce_wakes_iff openSocket rfl hf _ rfl).mpr
      ⟨[], usageRange, [], rfl, 0, 0, rfl, by decide, by decide, ht⟩
  · intro h
    obtain ⟨rs₁, r, rs₂, hr, y, z, e, hy, -⟩ := (bruteforce_wakes_iff openSocket rfl hf _ rfl).mp h
    obtain rfl : r = usageRange := List.mem_singleton.mp (hr ▸ List.mem_append_right _ List.mem_cons_self)
    have he : usageRange.bytes ++ [0xff, 0xff] = usageRange.bytes ++ [y, z] := e
    exact hy (List.cons.inj (List.append_cancel_left he)).1.symm

/-- A line that is no range: it does not have eleven characters, or no colon behind the
first two. -/
def Malformed (line : Line) : Prop := (rstrip line).length ≠ 11 ∨ (rstrip line)[2]? ≠ some ':'

/-- The first address of such a line ends the run. -/
theorem bruteAddress_error {line : Line} (h : Malformed line) (port : Int) (es : List Event) :
    ∃ stop es', bruteAddress sock line port 0 0 es = .error stop es' ∧ sent es' = sent es := by
  unfold bruteAddress
  by_cases hl : (rstrip line).length < 11 ∨ 11 < (rstrip line).length
  · rw [if_pos hl]
    exact ⟨.exit 2, _, rfl, quiet_print _ es⟩
  · have h11 : (rstrip line).length = 11 := by omega
    have hc := h.resolve_left (not_not_intro h11)
    obtain ⟨c, hg⟩ : ∃ c, (rstrip line)[2]? = some c :=
      Option.isSome_iff_exists.mp (by simp; omega)
    have hne : ':' ≠ c := fun e => hc (by rw [hg, e])
    have ht : (rstrip line ++ ':' :: hex2 0 ++ ':' :: hex2 0)[2]? = some c := by
      rw [List.append_assoc, List.getElem?_append_left (by omega), hg]
    have hm : ':' ∈ (rstrip line ++ ':' :: hex2 0 ++ ':' :: hex2 0).filter (· != c) :=
      List.mem_filter.mpr ⟨List.mem_append_right _ List.mem_cons_self, bne_iff_ne.mpr hne⟩
    have hd : ∀ t : Line, ':' ∈ t → ':' ∈ magicData t [] := fun t ht =>
      List.mem_append_left _ (List.mem_append_right _
        (List.mem_flatten.mpr ⟨t, List.mem_replicate.mpr ⟨by decide, rfl⟩, ht⟩))
    rw [if_neg hl, bind_ok (stripSep_eq ht es)]
    cases hp : packHex (magicData ((rstrip line ++ ':' :: hex2 0 ++ ':' :: hex2 0).filter (· != c)) []) with
    | ok bs => exact absurd hp (packHex_of_colon (hd _ hm) bs)
    | error s => exact ⟨s, es, wake_error hp _ _ _, rfl⟩

/-- Nothing is sent from such a line on. -/
theorem quiet_malformed {line : Line} (h : Malformed line) (port : Int) (more : List Line) :
    Quiet (forEach (line :: more) (bruteLine sock port)) := by
  intro es
  obtain ⟨stop, es', he, hs⟩ := @bruteAddress_error sock line h port (es ++ [.print ("\t[*] Now bruteforcing ".toList ++
    rstrip line ++ ":00:00 -> ".toList ++ rstrip line ++ ":FF:FF".toList)])
  have hr : List.range 255 = 0 :: (List.range 254).map Nat.succ := List.range_succ_eq_map
  have hl : bruteLine sock port line es = .error stop es' := by
    unfold bruteLine
    rw [bind_ok (emit_ok _ es), hr, forEach]
    refine bind_error ?_
    rw [forEach]
    exact bind_error he
  rw [forEach, bind_error hl]
  exact hs.trans (quiet_print _ es)

/-- A malformed line ends the run: the ranges before it get their packets, up to the
first that `sendto` raises an exception for, and nothing behind it gets one. -/
theorem bruteforce_stops (sock : Socket) {argv : List Line} {port : Int} (h : destPort argv = some port)
    {f : TextFile} {rs : List Range} {line : Line} {more : List Line}
    (hf : f.lines = rs.map Range.line ++ line :: more) (hb : Malformed line) :
    sent (eventsOf (bruteforce sock argv (some f) [])) = sock.taken (rs.flatMap (Range.packets port)) := by
  obtain ⟨es, hs, he⟩ := @sent_bruteforce sock argv port h f
  have hm : (rawLines f).map rstrip =
      rs.map (fun r => rstrip r.line) ++ rstrip line :: more.map rstrip := by
    rw [map_rstrip_rawLines, hf, List.map_append, List.map_cons, List.map_map]
    rfl
  obtain ⟨ls, l, ms, e, hls, hl⟩ : ∃ ls l ms, rawLines f = ls ++ l :: ms ∧
      ls.map rstrip = rs.map (fun r => rstrip r.line) ∧ rstrip l = rstrip line := by
    obtain ⟨ls, tl, e, h₁, h₂⟩ := List.map_eq_append_iff.mp hm
    obtain ⟨l, ms, rfl, h₃, -⟩ := List.map_eq_cons_iff.mp h₂
    exact ⟨ls, l, ms, e, h₁, h₃⟩
  have hb' : Malformed l := by
    unfold Malformed
    rw [hl]
    exact hb
  rw [he, e, forEach_append, sent_bind_quiet fun _ => quiet_malformed hb' port ms,
    (sends_ranges port rs ls hls).view_eventsOf, hs]
  rfl

/-- A range with dashes is the end of the run. -/
theorem bruteforce_dashes :
    sent (eventsOf (bruteforce openSocket ["wol-e.py".toList, "-a".toList]
      (some (.ofLines ["00:12:34:56".toList, "00-12-34-57".toList, "00:12:34:58".toList])) [])) =
      openSocket.taken ([usageRange].flatMap (Range.packets 9)) := by
  have hf : (TextFile.ofLines ["00:12:34:56".toList, "00-12-34-57".toList, "00:12:34:58".toList]).lines =
      [usageRange].map Range.line ++ "00-12-34-57".toList :: ["00:12:34:58".toList] := rfl
  exact bruteforce_stops openSocket rfl hf (.inr (by decide))

end Espo.WolE
