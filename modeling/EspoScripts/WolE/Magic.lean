import EspoScripts.Framework.Python

/-!
# Waking a computer with wol-e.py

`wol-e.py -m` sends the magic packet of an address: six bytes FF, the address
sixteen times, and perhaps a password (`magic`). The script builds the packet
as hex text (`magicData`) and packs it two characters at a time.

Whether `sendto` raises an exception is up to the socket (`Socket`): it does so
for a port that is none, and may do so for any packet.

`wakeSingle_sends`: an address that is written in full, with any separator or
none, gets its packet. `wakeSingle_magic`: whatever the arguments are, an
address that is twelve characters without its separators gets the magic packet
they ask for (`Asked`), or none if they ask for none.
-/

namespace Espo.WolE

open Espo.Cmd Espo.Py

/-! ## Magic packets -/

/-- The magic packet of an address, with a password or none. -/
def magic (mac pass : List UInt8) : List UInt8 :=
  List.replicate 6 255 ++ (List.replicate 16 mac).flatten ++ pass

/-- Six bytes as they are written: hex digits in pairs, with a separator between the
pairs or none. -/
structure Written (t : Line) (bytes : List UInt8) where
  digits : List Line
  sep : List Char
  text : t = List.intercalate sep digits
  bytes_eq : digits.map hexBytes = bytes.map fun b => some [b]
  six : bytes.length = 6
  sep_eq : sep = [] ∨ ∃ c, sep = [c] ∧ digit 16 c = none

/-! ## The script -/

/-- What the script prints and sends. -/
inductive Event where
  | print (t : Line)
  | sendto (bytes : List UInt8) (host : Line) (port : Int)

abbrev Script (α : Type) := Py.Script Event α

/-- A packet, and where it is sent to. -/
abbrev Datagram := List UInt8 × Line × Int

/-- The socket: which packets an exception is raised for, behind those that were sent. -/
structure Socket where
  raises : List Datagram → Datagram → Bool
  port : ∀ ds d, ¬ (0 ≤ d.2.2 ∧ d.2.2 ≤ 65535) → raises ds d = true

/-- The packets among the events. -/
def sent (es : List Event) : List Datagram := es.filterMap fun e =>
  match e with
  | .print _ => none
  | .sendto bytes host port => some (bytes, host, port)

/-- `sock.sendto`. -/
def Socket.sendto (sock : Socket) (bytes : List UInt8) (host : Line) (port : Int) : Script Unit := do
  let es ← get
  if sock.raises (sent es) (bytes, host, port) then throw .socketError
  else emit (.sendto bytes host port)

/-- `''.join(['FFFFFFFFFFFF', macaddress * 16, wolpass])`. -/
def magicData (macaddress wolpass : Line) : Line :=
  "FFFFFFFFFFFF".toList ++ (List.replicate 16 macaddress).flatten ++ wolpass

/-- `sep = s[2]` and `s.replace(sep, '')`. -/
def stripSep (s : Line) : Script Line := do
  let sep ← orRaise .indexError s[2]?
  pure (s.filter (· != sep))

/-- The packet packed, and sent. -/
def wake (sock : Socket) (data host : Line) (port : Int) : Script Unit :=
  match packHex data with
  | .ok bytes => sock.sendto bytes host port
  | .error e => throw e

/-- `255.255.255.255`. -/
def broadcast : Line := "255.255.255.255".toList

/-- The address of `-m`. -/
def addressOf (argv : List Line) : Script Line := do
  if argv.length < 3 then
    emit (.print "\n\t[-] Please specify a MAC address\n".toList)
    throw (.exit 2)
  let macaddress ← orRaise .indexError argv[2]?
  if macaddress.length = 12 then pure macaddress
  else if macaddress.length = 12 + 5 then stripSep macaddress
  else do
    emit (.print "\n\t[*] Please check the MAC address format. Example: 00:1A:2B:3C:4D:5E\n".toList)
    throw (.exit 2)

/-- Where `-m` sends to. -/
def destinationOf (argv : List Line) : Script (Line × Int) :=
  if argv.length < 4 then do
    emit (.print ("\n\t[*] No broadcast address or destination port detected, ".toList ++
      "using the default of 255.255.255.255 and 9 respectively\n".toList))
    pure (broadcast, 9)
  else do
    let bcast ← orRaise .indexError argv[4]?
    let port ← orRaise .indexError argv[6]?
    let destport ← orRaise .valueError (int 10 port)
    pure (bcast, destport)

/-- The password of `-m`. -/
def passwordOf (argv : List Line) : Script Line := do
  let wolpass ← if argv.length > 7 then orRaise .indexError argv[8]? else pure "0".toList
  if wolpass.length = 12 then pure wolpass
  else if wolpass.length = 12 + 5 then stripSep wolpass
  else pure "empty".toList

/-- The messages before the packet. -/
def report (version macaddress bcast : Line) (destport : Int) (wolpass : Line) : Script Unit := do
  emit (.print ("\n\t[*] WOL-E ".toList ++ version ++
    " [*]\n\t[*] Wake on LAN Explorer - Powers on computers in the network with WOL enabled.\n".toList))
  emit (.print ("\t\tMac is: ".toList ++ macaddress))
  emit (.print ("\t\tBroadcast is: ".toList ++ bcast))
  emit (.print ("\t\tDest Port is: ".toList ++ (toString destport).toList))
  emit (.print ("\t\tPassword is: ".toList ++ wolpass))
  emit (.print "\n\n".toList)

/-- `-m`, behind its arguments: the messages and the packet. -/
def attemptWake (sock : Socket) (version : Line) (argv : List Line) (macaddress bcast : Line) (destport : Int)
    (wolpass : Line) : Script Unit := do
  report version macaddress bcast destport wolpass
  let data := if wolpass ≠ "empty".toList then magicData macaddress wolpass else magicData macaddress []
  wake sock data bcast destport
  let arg ← orRaise .indexError argv[2]?
  emit (.print ("\t[*] Attempt to power on ".toList ++ arg ++ " completed\n".toList))
  throw (.exit 2)

/-- `wol-e.py -m`. -/
def wakeSingle (sock : Socket) (version : Line) (argv : List Line) : Script Unit := do
  let macaddress ← addressOf argv
  let (bcast, destport) ← destinationOf argv
  let wolpass ← passwordOf argv
  attemptWake sock version argv macaddress bcast destport wolpass

/-- A text of seventeen characters without its separators. -/
def stripped (s : Line) : Line := if s.length = 12 then s else s.filter fun c => some c != s[2]?

/-- Those of packets that are sent: all up to the first that raises an exception. -/
abbrev Socket.taken (sock : Socket) (ds : List Datagram) : List Datagram := Py.taken sock.raises [] ds

/-- No exception is raised for any of the packets. -/
def Socket.Takes (sock : Socket) (ds : List Datagram) : Prop := sock.taken ds = ds

/-! ## Packing -/

/-- Packing, of text whose first part has an even length. -/
theorem packHex_append {s t : Line} (h : s.length % 2 = 0) :
    packHex (s ++ t) = (packHex s).bind fun a => (packHex t).map (a ++ ·) := by
  simp only [packHex, pairs_append t h, List.mapM_append]
  rfl

theorem length_of_packHex {s : Line} {bs : List UInt8} (hs : s.length % 2 = 0) (h : packHex s = .ok bs) :
    bs.length = s.length / 2 := by
  have go : ∀ (ps : List Line) (bs : List UInt8), ps.mapM packHexByte = .ok bs → bs.length = ps.length := by
    intro ps
    induction ps with
    | nil =>
      intro bs h
      cases h
      rfl
    | cons p ps ih =>
      intro bs h
      rw [List.mapM_cons] at h
      cases hp : packHexByte p with
      | error e => rw [hp] at h; cases h
      | ok b =>
        cases hps : ps.mapM packHexByte with
        | error e => rw [hp, hps] at h; cases h
        | ok cs =>
          rw [hp, hps] at h
          cases h
          rw [List.length_cons, List.length_cons, ih cs hps]
  rw [go _ _ h, length_pairs hs]

theorem even_append {s t : Line} (hs : s.length % 2 = 0) (ht : t.length % 2 = 0) :
    (s ++ t).length % 2 = 0 := by
  rw [List.length_append]
  omega

theorem even_copies {s : Line} (hs : s.length % 2 = 0) : ∀ n, (List.replicate n s).flatten.length % 2 = 0
  | 0 => rfl
  | n + 1 => even_append hs (even_copies hs n)

/-- An address packed several times. -/
theorem packHex_copies {s : Line} {mac : List UInt8} (hs : s.length % 2 = 0) (h : packHex s = .ok mac) :
    ∀ n, packHex (List.replicate n s).flatten = .ok (List.replicate n mac).flatten
  | 0 => rfl
  | n + 1 => by
    rw [List.replicate_succ, List.flatten_cons, packHex_append hs, h, packHex_copies hs h n,
      List.replicate_succ, List.flatten_cons]
    rfl

theorem packHex_ones : packHex "FFFFFFFFFFFF".toList = .ok (List.replicate 6 255) :=
  packHex_of_hexBytes (by decide)

theorem packHex_magicData (s k : Line) (hs : s.length % 2 = 0) :
    packHex (magicData s k) = (packHex (List.replicate 16 s).flatten).bind fun b =>
      (packHex k).map fun c => List.replicate 6 255 ++ b ++ c := by
  have h12 : "FFFFFFFFFFFF".toList.length % 2 = 0 := rfl
  unfold magicData
  rw [packHex_append (even_append h12 (even_copies hs 16)), packHex_append h12, packHex_ones]
  generalize packHex (List.replicate 16 s).flatten = r
  cases r with
  | error e => rfl
  | ok b => rfl

/-- The packet of a text address and password. -/
theorem packHex_ok {s k : Line} {mac pass : List UInt8} (hs : s.length % 2 = 0)
    (hm : packHex s = .ok mac) (hk : packHex k = .ok pass) :
    packHex (magicData s k) = .ok (magic mac pass) := by
  rw [packHex_magicData s k hs, packHex_copies hs hm, hk]
  rfl

/-- When the text can be packed, so can its parts. -/
theorem of_packHex {s k : Line} {bytes : List UInt8} (hs : s.length % 2 = 0)
    (h : packHex (magicData s k) = .ok bytes) :
    ∃ mac pass, packHex s = .ok mac ∧ packHex k = .ok pass ∧ bytes = magic mac pass := by
  cases hm : packHex s with
  | error e =>
    rw [packHex_magicData s k hs, List.replicate_succ, List.flatten_cons, packHex_append hs, hm] at h
    cases h
  | ok mac =>
    cases hk : packHex k with
    | error e =>
      rw [packHex_magicData s k hs, packHex_copies hs hm, hk] at h
      cases h
    | ok pass =>
      rw [packHex_ok hs hm hk] at h
      exact ⟨mac, pass, rfl, rfl, (Except.ok.inj h).symm⟩

/-! ## Written addresses -/

section

variable {t : Line} {bytes : List UInt8}

theorem hexBytes_flatten : ∀ {ds : List Line} {bs : List UInt8}, (ds.map hexBytes = bs.map fun b => some [b]) →
    hexBytes ds.flatten = some bs
  | [], [], _ => rfl
  | [], _ :: _, h => by simp at h
  | _ :: _, [], h => by simp at h
  | d :: ds, b :: bs, h => by
    rw [List.map_cons, List.map_cons, List.cons.injEq] at h
    exact hexBytes_append h.1 (hexBytes_flatten h.2)

theorem filter_intercalate {c : Char} : ∀ {ds : List Line}, (∀ d ∈ ds, c ∉ d) →
    (List.intercalate [c] ds).filter (· != c) = ds.flatten
  | [], _ => rfl
  | [d], h => by
    have hd : ∀ x ∈ d, (x != c) = true := fun x hx => bne_iff_ne.mpr fun e => h d List.mem_cons_self (e ▸ hx)
    simpa [List.intercalate] using hd
  | d :: e :: ds, h => by
    have ih := @filter_intercalate c (e :: ds) fun x hx => h x (List.mem_cons_of_mem _ hx)
    have hd : d.filter (· != c) = d := List.filter_eq_self.mpr fun x hx =>
      bne_iff_ne.mpr fun e => h d List.mem_cons_self (e ▸ hx)
    have hi : List.intercalate [c] (d :: e :: ds) = d ++ c :: List.intercalate [c] (e :: ds) := rfl
    rw [hi, List.filter_append, hd, List.filter_cons_of_neg (by simp), ih]
    rfl

theorem intercalate_nil : ∀ ds : List Line, List.intercalate [] ds = ds.flatten
  | [] => rfl
  | [_] => rfl
  | d :: e :: ds => congrArg (d ++ ·) (intercalate_nil (e :: ds))

/-- A written address is read back, whichever way it is written. -/
theorem Written.read (w : Written t bytes) :
    (t.length = 12 ∨ t.length = 12 + 5) ∧ (stripped t).length = 12 ∧ hexBytes (stripped t) = some bytes := by
  obtain ⟨ds, sep, rfl, hb, hsix, hsep⟩ := w
  have hh := hexBytes_flatten hb
  have hl : ds.flatten.length = 12 := by rw [length_of_hexBytes hh, hsix]
  rcases hsep with rfl | ⟨c, rfl, hc⟩
  · rw [intercalate_nil, stripped, if_pos hl]
    exact ⟨.inl hl, hl, hh⟩
  · have hd : ∀ d ∈ ds, c ∉ d := fun d hm hcd =>
      digit_of_hexBytes hh c (List.mem_flatten.mpr ⟨d, hm, hcd⟩) hc
    have hlen : ds.length = 6 := by
      have := congrArg List.length hb
      rw [List.length_map, List.length_map] at this
      omega
    obtain ⟨d₀, d₁, d₂, d₃, d₄, d₅, rfl⟩ : ∃ d₀ d₁ d₂ d₃ d₄ d₅, ds = [d₀, d₁, d₂, d₃, d₄, d₅] := by
      match ds, hlen with
      | [d₀, d₁, d₂, d₃, d₄, d₅], _ => exact ⟨d₀, d₁, d₂, d₃, d₄, d₅, rfl⟩
    have h2 : d₀.length = 2 := by
      match bytes, hsix with
      | x :: _, _ => exact length_of_hexBytes (List.cons.inj hb).1
    have hi : List.intercalate [c] [d₀, d₁, d₂, d₃, d₄, d₅] =
        d₀ ++ c :: (d₁ ++ c :: (d₂ ++ c :: (d₃ ++ c :: (d₄ ++ c :: d₅)))) := by
      simp [List.intercalate, List.intersperse]
    have h17 : (List.intercalate [c] [d₀, d₁, d₂, d₃, d₄, d₅]).length = 17 := by
      rw [hi]
      simp only [List.flatten_cons, List.flatten_nil, List.length_append, List.length_nil] at hl
      simp only [List.length_append, List.length_cons]
      omega
    have hg : (List.intercalate [c] [d₀, d₁, d₂, d₃, d₄, d₅])[2]? = some c := by
      rw [hi, List.getElem?_append_right (by omega), h2]
      rfl
    have hs : stripped (List.intercalate [c] [d₀, d₁, d₂, d₃, d₄, d₅]) = [d₀, d₁, d₂, d₃, d₄, d₅].flatten := by
      rw [stripped, if_neg (by omega), hg, ← filter_intercalate hd]
      rfl
    rw [hs]
    exact ⟨.inr h17, hl, hh⟩

end

/-! ## What `-m` sends -/

section

variable {α β : Type}

/-- A statement that sends nothing. -/
def Quiet (x : Script α) : Prop := ∀ es, sent (eventsOf (x es)) = sent es

theorem sent_append (es fs : List Event) : sent (es ++ fs) = sent es ++ sent fs := List.filterMap_append

theorem quiet_ret (a : α) : Quiet (pure a) := fun _ => rfl

theorem quiet_throw (s : Stop) : Quiet (throw s : Script α) := fun _ => rfl

theorem quiet_print (t : Line) : Quiet (emit (.print t)) := fun es => by
  show sent (es ++ [.print t]) = sent es
  rw [sent_append]
  exact List.append_nil _

theorem quiet_orRaise (s : Stop) : ∀ a : Option α, Quiet (orRaise s a)
  | some a => quiet_ret a
  | none => quiet_throw s

theorem Quiet.bind {x : Script α} {f : α → Script β} (hx : Quiet x) (hf : ∀ a, Quiet (f a)) : Quiet (x >>= f) := by
  intro es
  cases h : x es with
  | ok a es' => rw [bind_ok h, hf a, ← hx es, h]; rfl
  | error s es' => rw [bind_error h, ← hx es, h]; rfl

/-- What is sent behind a statement that sends nothing. -/
theorem sent_bind {x : Script α} {f : α → Script β} (hx : Quiet x) {P : List (List UInt8 × Line × Int) → Prop}
    {es : List Event} (h0 : P (sent es))
    (hf : ∀ a es', x es = .ok a es' → sent es' = sent es → P (sent (eventsOf (f a es')))) :
    P (sent (eventsOf ((x >>= f) es))) := by
  have hs := hx es
  cases h : x es with
  | ok a es' => rw [bind_ok h]; rw [h] at hs; exact hf a es' h hs
  | error s es' => rw [bind_error h]; rw [h] at hs; exact hs ▸ h0

theorem quiet_stripSep (s : Line) : Quiet (stripSep s) := (quiet_orRaise _ _).bind fun _ => quiet_ret _

theorem quiet_addressOf (argv : List Line) : Quiet (addressOf argv) := by
  unfold addressOf
  have ht : ∀ t : Line, Quiet (do emit (.print t); throw (.exit 2) : Script Line) := fun t =>
    (quiet_print t).bind fun _ => quiet_throw _
  have hr : Quiet (do
      let macaddress ← orRaise .indexError argv[2]?
      if macaddress.length = 12 then pure macaddress
      else if macaddress.length = 12 + 5 then stripSep macaddress
      else do
        emit (.print "\n\t[*] Please check the MAC address format. Example: 00:1A:2B:3C:4D:5E\n".toList)
        throw (.exit 2)) := by
    refine (quiet_orRaise _ _).bind fun a => ?_
    split
    · exact quiet_ret a
    · split
      · exact quiet_stripSep a
      · exact ht _
  split
  · exact (quiet_print _).bind fun _ => (quiet_throw _).bind fun _ => hr
  · exact hr

theorem quiet_destinationOf (argv : List Line) : Quiet (destinationOf argv) := by
  unfold destinationOf
  split
  · exact (quiet_print _).bind fun _ => quiet_ret _
  · exact (quiet_orRaise _ _).bind fun _ => (quiet_orRaise _ _).bind fun _ =>
      (quiet_orRaise _ _).bind fun _ => quiet_ret _

theorem quiet_passwordOf (argv : List Line) : Quiet (passwordOf argv) := by
  unfold passwordOf
  have hr : ∀ k : Line, Quiet (if k.length = 12 then pure k else if k.length = 12 + 5 then stripSep k
      else pure "empty".toList) := by
    intro k
    split
    · exact quiet_ret k
    · split
      · exact quiet_stripSep k
      · exact quiet_ret _
  split
  · exact (quiet_orRaise _ _).bind hr
  · exact (quiet_ret _).bind hr

theorem quiet_report (version macaddress bcast : Line) (destport : Int) (wolpass : Line) :
    Quiet (report version macaddress bcast destport wolpass) :=
  (quiet_print _).bind fun _ => (quiet_print _).bind fun _ => (quiet_print _).bind fun _ =>
    (quiet_print _).bind fun _ => (quiet_print _).bind fun _ => quiet_print _

/-- What is sent in front of statements that send nothing. -/
theorem sent_bind_quiet {x : Script α} {f : α → Script β} (hf : ∀ a, Quiet (f a)) (es : List Event) :
    sent (eventsOf ((x >>= f) es)) = sent (eventsOf (x es)) := by
  cases h : x es with
  | ok a es' => rw [bind_ok h, hf a]; rfl
  | error s es' => rw [bind_error h]; rfl

variable {sock : Socket}

/-- A statement that tries to send these packets. -/
abbrev Sends (sock : Socket) (x : Script α) (ds : List Datagram) : Prop := Py.Sends sock.raises sent x ds

theorem sends_print (t : Line) : Sends sock (emit (.print t)) [] := fun es =>
  .inl ⟨rfl, (), _, rfl, (quiet_print t es).trans (List.append_nil _).symm⟩

theorem sends_sendto (bytes : List UInt8) (host : Line) (port : Int) :
    Sends sock (sock.sendto bytes host port) [(bytes, host, port)] := by
  intro es
  have hs : sock.sendto bytes host port es =
      (if sock.raises (sent es) (bytes, host, port) then throw .socketError
        else emit (.sendto bytes host port) : Script Unit) es := rfl
  rw [hs, taken, taken]
  by_cases h : sock.raises (sent es) (bytes, host, port) = true
  · rw [if_pos h, if_pos h]
    exact .inr ⟨(List.cons_ne_nil _ _).symm, .socketError, es, rfl, (List.append_nil _).symm⟩
  · rw [if_neg h, if_neg h]
    exact .inl ⟨rfl, (), _, rfl, sent_append es [.sendto bytes host port]⟩

theorem sends_wake {data : Line} {bytes : List UInt8} (h : packHex data = .ok bytes) (host : Line) (port : Int) :
    Sends sock (wake sock data host port) [(bytes, host, port)] := by
  rw [wake, h]
  exact sends_sendto bytes host port

theorem wake_error {data : Line} {s : Stop} (h : packHex data = .error s) (host : Line) (port : Int)
    (es : List Event) : wake sock data host port es = .error s es := by
  rw [wake, h]
  rfl

theorem report_ok (version macaddress bcast : Line) (destport : Int) (wolpass : Line) (es : List Event) :
    ∃ es', report version macaddress bcast destport wolpass es = .ok () es' ∧ sent es' = sent es := by
  have h := quiet_report version macaddress bcast destport wolpass es
  exact ⟨_, rfl, h⟩

/-- The packet of a run, if it is packed. -/
theorem sent_attemptWake (version : Line) (argv : List Line) (macaddress bcast : Line) (destport : Int)
    (wolpass : Line) {es : List Event} (h₀ : sent es = []) :
    sent (eventsOf (attemptWake sock version argv macaddress bcast destport wolpass es)) =
      match packHex (magicData macaddress (if wolpass ≠ "empty".toList then wolpass else [])) with
      | .ok bytes => sock.taken [(bytes, bcast, destport)]
      | .error _ => [] := by
  have he : (if wolpass ≠ "empty".toList then magicData macaddress wolpass else magicData macaddress []) =
      magicData macaddress (if wolpass ≠ "empty".toList then wolpass else []) := by split <;> rfl
  have hq : ∀ _ : Unit, Quiet (do
      let arg ← orRaise .indexError argv[2]?
      emit (.print ("\t[*] Attempt to power on ".toList ++ arg ++ " completed\n".toList))
      throw (.exit 2) : Script Unit) := fun _ =>
    (quiet_orRaise _ _).bind fun _ => (quiet_print _).bind fun _ => quiet_throw _
  obtain ⟨es', hr, hs⟩ := report_ok version macaddress bcast destport wolpass es
  rw [attemptWake, bind_ok hr, he]
  refine (sent_bind_quiet hq es').trans ?_
  cases hp : packHex (magicData macaddress (if wolpass ≠ "empty".toList then wolpass else [])) with
  | error s =>
    rw [wake_error hp]
    exact hs.trans h₀
  | ok bytes =>
    rw [(sends_wake hp bcast destport).view_eventsOf, hs, h₀]
    rfl

theorem stripSep_eq {a : Line} {c : Char} (h : a[2]? = some c) (es : List Event) :
    stripSep a es = .ok (a.filter (· != c)) es := by
  rw [stripSep, h]
  rfl

theorem stripSep_ok {a : Line} (h : a.length = 12 + 5) (es : List Event) :
    stripSep a es = .ok (stripped a) es := by
  obtain ⟨c, hc⟩ : ∃ c, a[2]? = some c := Option.isSome_iff_exists.mp (by simp; omega)
  have hs : stripped a = a.filter (· != c) := by
    rw [stripped, if_neg (by omega), hc]
    rfl
  rw [stripSep_eq hc, hs]

theorem addressOf_ok {argv : List Line} {a : Line} (h : argv[2]? = some a) (ha : a.length = 12 ∨ a.length = 12 + 5)
    (es : List Event) : addressOf argv es = .ok (stripped a) es := by
  have h3 : ¬ argv.length < 3 := fun hl => by
    rw [List.getElem?_eq_none (by omega)] at h
    cases h
  unfold addressOf
  rw [if_neg h3, h]
  show (if a.length = 12 then pure a else if a.length = 12 + 5 then stripSep a else _ : Script Line) es = _
  rcases ha with ha | ha
  · rw [if_pos ha, stripped, if_pos ha]
    rfl
  · rw [if_neg (by omega), if_pos ha, stripSep_ok ha]

/-- The address a run goes on with. -/
theorem of_addressOf {argv : List Line} {s : Line} {es es' : List Event} (h : addressOf argv es = .ok s es') :
    ∃ a, argv[2]? = some a ∧ s = stripped a := by
  unfold addressOf at h
  split at h
  · cases h
  cases h2 : argv[2]? with
  | none => rw [h2] at h; cases h
  | some a =>
    rw [h2] at h
    refine ⟨a, rfl, ?_⟩
    change (if a.length = 12 then pure a else if a.length = 12 + 5 then stripSep a else _ : Script Line) es = _ at h
    split at h
    · rename_i ha
      cases h
      rw [stripped, if_pos ha]
    · split at h
      · rename_i ha
        rw [stripSep_ok ha] at h
        cases h
        rfl
      · cases h

theorem passwordOf_none {argv : List Line} (h : ¬ argv.length > 7) (es : List Event) :
    passwordOf argv es = .ok "empty".toList es := by
  unfold passwordOf
  rw [if_neg h]
  rfl

theorem passwordOf_ok {argv : List Line} {k : Line} (h : argv[8]? = some k)
    (hk : k.length = 12 ∨ k.length = 12 + 5) (es : List Event) : passwordOf argv es = .ok (stripped k) es := by
  have h7 : argv.length > 7 := by
    rcases Nat.lt_or_ge 7 argv.length with hl | hl
    · exact hl
    · rw [List.getElem?_eq_none (by omega)] at h
      cases h
  unfold passwordOf
  rw [if_pos h7, h]
  show (if k.length = 12 then pure k else if k.length = 12 + 5 then stripSep k else _ : Script Line) es = _
  rcases hk with hk | hk
  · rw [if_pos hk, stripped, if_pos hk]
    rfl
  · rw [if_neg (by omega), if_pos hk, stripSep_ok hk]

/-- A run whose arguments are read, and whose packet is packed. -/
theorem sent_wakeSingle {version : Line} {argv : List Line} {a bcast wolpass : Line} {destport : Int}
    {es : List Event} {mac pass : List UInt8} (h2 : argv[2]? = some a) (ha : a.length = 12 ∨ a.length = 12 + 5)
    (hl : (stripped a).length = 12) (hm : hexBytes (stripped a) = some mac)
    (hd : destinationOf argv [] = .ok (bcast, destport) es)
    (hp : ∀ es, passwordOf argv es = .ok wolpass es)
    (hk : hexBytes (if wolpass ≠ "empty".toList then wolpass else []) = some pass) :
    sent (eventsOf (wakeSingle sock version argv [])) = sock.taken [(magic mac pass, bcast, destport)] := by
  have hs : sent es = [] := by
    have := quiet_destinationOf argv []
    rwa [hd] at this
  rw [wakeSingle, bind_ok (addressOf_ok h2 ha []), bind_ok hd]
  show sent (eventsOf ((passwordOf argv >>= fun wolpass =>
    attemptWake sock version argv (stripped a) bcast destport wolpass) es)) = _
  rw [bind_ok (hp es), sent_attemptWake _ _ _ _ _ _ hs,
    packHex_ok (by rw [hl]) (packHex_of_hexBytes hm) (packHex_of_hexBytes hk)]

/-- A written address gets its magic packet, unless `sendto` raises an exception: by
broadcast on port 9, or where the arguments send it, with the password they give. -/
theorem wakeSingle_sends (sock : Socket) (version prog : Line) {t : Line} {mac : List UInt8} (w : Written t mac) :
    sent (eventsOf (wakeSingle sock version [prog, "-m".toList, t] [])) =
        sock.taken [(magic mac [], broadcast, 9)] ∧
      ∀ (b host p port : Line) (n : Int), int 10 port = some n →
        sent (eventsOf (wakeSingle sock version [prog, "-m".toList, t, b, host, p, port] [])) =
            sock.taken [(magic mac [], host, n)] ∧
        ∀ (k password : Line) (pass : List UInt8), Written password pass →
          sent (eventsOf (wakeSingle sock version [prog, "-m".toList, t, b, host, p, port, k, password] [])) =
            sock.taken [(magic mac pass, host, n)] := by
  obtain ⟨ha, hl, hm⟩ := w.read
  refine ⟨sent_wakeSingle rfl ha hl hm rfl (passwordOf_none (by simp)) rfl, ?_⟩
  intro b host p port n hn
  have hd : ∀ argv : List Line, 4 ≤ argv.length → argv[4]? = some host → argv[6]? = some port →
      destinationOf argv [] = .ok (host, n) [] := by
    intro argv h4 hh hp
    unfold destinationOf
    rw [if_neg (by omega), hh, hp]
    show (orRaise .valueError (int 10 port) >>= fun destport => pure (host, destport) : Script _) [] = _
    rw [hn]
    rfl
  refine ⟨sent_wakeSingle rfl ha hl hm (hd _ (by simp) rfl rfl) (passwordOf_none (by simp)) rfl, ?_⟩
  intro k password pass wk
  obtain ⟨hk, hkl, hkm⟩ := wk.read
  have hne : stripped password ≠ "empty".toList := fun e => by
    rw [e] at hkl
    cases hkl
  exact sent_wakeSingle rfl ha hl hm (hd _ (by simp) rfl rfl) (passwordOf_ok rfl hk) (by rw [if_pos hne, hkm])

theorem colon_sep : [':'] = [] ∨ ∃ c, [':'] = [c] ∧ digit 16 c = none := .inr ⟨':', rfl, by decide⟩

/-- The address of the usage text. -/
def usageAddress : Written "00:12:34:56:78:90".toList [0x00, 0x12, 0x34, 0x56, 0x78, 0x90] where
  digits := ["00".toList, "12".toList, "34".toList, "56".toList, "78".toList, "90".toList]
  sep := [':']
  text := rfl
  bytes_eq := by decide
  six := rfl
  sep_eq := colon_sep

/-- A socket that raises an exception for a port that is none, and for no other. -/
def openSocket : Socket where
  raises _ d := decide (¬ (0 ≤ d.2.2 ∧ d.2.2 ≤ 65535))
  port _ _ h := decide_eq_true h

theorem openSocket_takes {ds : List Datagram} (h : ∀ d ∈ ds, 0 ≤ d.2.2 ∧ d.2.2 ≤ 65535) : openSocket.Takes ds := by
  have go : ∀ (ds before : List Datagram), (∀ d ∈ ds, 0 ≤ d.2.2 ∧ d.2.2 ≤ 65535) →
      taken openSocket.raises before ds = ds := by
    intro ds
    induction ds with
    | nil => exact fun _ _ => rfl
    | cons d ds ih =>
      intro before h
      have hr : ¬ openSocket.raises before d = true := fun e => of_decide_eq_true e (h d List.mem_cons_self)
      rw [taken, if_neg hr, ih _ fun e he => h e (List.mem_cons_of_mem _ he)]
  exact go ds [] h

/-- The command of the usage text, on port 7, and on one that is none. -/
theorem wakeSingle_usage :
    sent (eventsOf (wakeSingle openSocket "1.0".toList ["wol-e.py".toList, "-m".toList, "00:12:34:56:78:90".toList,
      "-b".toList, "192.168.1.255".toList, "-p".toList, "7".toList] [])) =
      [(magic [0x00, 0x12, 0x34, 0x56, 0x78, 0x90] [], "192.168.1.255".toList, 7)] ∧
    sent (eventsOf (wakeSingle openSocket "1.0".toList ["wol-e.py".toList, "-m".toList, "00:12:34:56:78:90".toList,
      "-b".toList, "192.168.1.255".toList, "-p".toList, "70000".toList] [])) = [] :=
  ⟨((wakeSingle_sends openSocket _ _ usageAddress).2 _ _ _ _ 7 (by decide)).1,
    ((wakeSingle_sends openSocket _ _ usageAddress).2 _ _ _ _ 70000 (by decide)).1⟩

/-! ## Any arguments -/

/-- Where the arguments send the packet to. -/
def Destination (argv : List Line) (host : Line) (port : Int) : Prop :=
  if argv.length < 4 then host = broadcast ∧ port = 9
  else argv[4]? = some host ∧ ∃ p, argv[6]? = some p ∧ int 10 p = some port

/-- The password they give; a text of another length is none, and neither is one that
reads `empty` without its separators. -/
def Password (argv : List Line) (pass : List UInt8) : Prop :=
  ∃ k, (if argv.length > 7 then argv[8]? = some k else k = "0".toList) ∧
    if (k.length = 12 ∨ k.length = 12 + 5) ∧ stripped k ≠ "empty".toList then packHex (stripped k) = .ok pass
    else pass = []

/-- The arguments ask for the packet of an address. -/
structure Asked (argv : List Line) (mac pass : List UInt8) (host : Line) (port : Int) : Prop where
  address : ∃ a, argv[2]? = some a ∧ (a.length = 12 ∨ a.length = 12 + 5) ∧ packHex (stripped a) = .ok mac
  destination : Destination argv host port
  password : Password argv pass

theorem addressOf_cases (argv : List Line) (es : List Event) :
    (∃ a, argv[2]? = some a ∧ (a.length = 12 ∨ a.length = 12 + 5) ∧ addressOf argv es = .ok (stripped a) es) ∨
      (∀ a, argv[2]? = some a → ¬ (a.length = 12 ∨ a.length = 12 + 5)) ∧
        ∃ s es', addressOf argv es = .error s es' := by
  by_cases h3 : argv.length < 3
  · refine .inr ⟨fun a ha => ?_, ?_⟩
    · rw [List.getElem?_eq_none (by omega)] at ha
      cases ha
    · unfold addressOf
      rw [if_pos h3]
      exact ⟨_, _, rfl⟩
  · cases h2 : argv[2]? with
    | none =>
      have := List.getElem?_eq_none_iff.mp h2
      omega
    | some a =>
      by_cases ha : a.length = 12 ∨ a.length = 12 + 5
      · exact .inl ⟨a, rfl, ha, addressOf_ok h2 ha es⟩
      · refine .inr ⟨fun b hb => Option.some.inj hb ▸ ha, ?_⟩
        unfold addressOf
        rw [if_neg h3, h2]
        show ∃ s es', (if a.length = 12 then pure a else if a.length = 12 + 5 then stripSep a else _ : Script Line) es =
          .error s es'
        rw [if_neg fun h => ha (.inl h), if_neg fun h => ha (.inr h)]
        exact ⟨_, _, rfl⟩

theorem destinationOf_cases (argv : List Line) (es : List Event) :
    (∃ host port es', Destination argv host port ∧ destinationOf argv es = .ok (host, port) es') ∨
      (∀ host port, ¬ Destination argv host port) ∧ ∃ s es', destinationOf argv es = .error s es' := by
  unfold Destination destinationOf
  by_cases h4 : argv.length < 4
  · rw [if_pos h4]
    exact .inl ⟨broadcast, 9, _, by rw [if_pos h4]; exact ⟨rfl, rfl⟩, rfl⟩
  · rw [if_neg h4]
    simp only [if_neg h4]
    cases hh : argv[4]? with
    | none => exact .inr ⟨fun _ _ h => (by cases h.1), _, _, rfl⟩
    | some host =>
      cases hp : argv[6]? with
      | none =>
        refine .inr ⟨fun _ _ h => ?_, _, _, rfl⟩
        obtain ⟨-, p, hp', -⟩ := h
        cases hp'
      | some p =>
        have he : (do
            let bcast ← orRaise .indexError (some host)
            let port ← orRaise .indexError (some p)
            let destport ← orRaise .valueError (int 10 port)
            pure (bcast, destport) : Script (Line × Int)) es =
            (orRaise .valueError (int 10 p) >>= fun destport => pure (host, destport) : Script (Line × Int)) es := rfl
        rw [he]
        cases hn : int 10 p with
        | none =>
          refine .inr ⟨fun _ _ h => ?_, _, _, rfl⟩
          obtain ⟨-, p', hp', hn'⟩ := h
          cases hp'
          rw [hn] at hn'
          cases hn'
        | some n => exact .inl ⟨host, n, es, ⟨rfl, p, rfl, hn⟩, rfl⟩

/-- The text of a password. -/
def passwordText (k : Line) : Line := if k.length = 12 ∨ k.length = 12 + 5 then stripped k else "empty".toList

theorem passwordOf_cases (argv : List Line) (es : List Event) :
    (∃ k, (if argv.length > 7 then argv[8]? = some k else k = "0".toList) ∧
        passwordOf argv es = .ok (passwordText k) es) ∨
      (∀ k, ¬ if argv.length > 7 then argv[8]? = some k else k = "0".toList) ∧
        ∃ s es', passwordOf argv es = .error s es' := by
  by_cases h7 : argv.length > 7
  · simp only [if_pos h7]
    cases h8 : argv[8]? with
    | none =>
      refine .inr ⟨fun k hk => (by cases hk), ?_⟩
      unfold passwordOf
      rw [if_pos h7, h8]
      exact ⟨_, _, rfl⟩
    | some k =>
      refine .inl ⟨k, rfl, ?_⟩
      by_cases hk : k.length = 12 ∨ k.length = 12 + 5
      · rw [passwordOf_ok h8 hk, passwordText, if_pos hk]
      · unfold passwordOf
        rw [if_pos h7, h8, passwordText, if_neg hk]
        show (if k.length = 12 then pure k else if k.length = 12 + 5 then stripSep k else _ : Script Line) es = _
        rw [if_neg fun h => hk (.inl h), if_neg fun h => hk (.inr h)]
        rfl
  · simp only [if_neg h7]
    exact .inl ⟨"0".toList, rfl, passwordOf_none h7 es⟩

/-- The password that a text stands for. -/
theorem password_iff {argv : List Line} {k : Line} (hk : if argv.length > 7 then argv[8]? = some k else k = "0".toList)
    (pass : List UInt8) : Password argv pass ↔
      packHex (if passwordText k ≠ "empty".toList then passwordText k else []) = .ok pass := by
  have hu : ∀ k', (if argv.length > 7 then argv[8]? = some k' else k' = "0".toList) ↔ k' = k := by
    intro k'
    split at hk
    · rename_i h7
      rw [if_pos h7, hk, Option.some.injEq, eq_comm]
    · rename_i h7
      rw [if_neg h7, hk]
  have hnil : packHex [] = .ok pass ↔ pass = [] := by
    have he : packHex [] = .ok [] := rfl
    rw [he, Except.ok.injEq, eq_comm]
  simp only [Password, hu, exists_eq_left]
  by_cases hl : k.length = 12 ∨ k.length = 12 + 5
  · have ht : passwordText k = stripped k := if_pos hl
    rw [ht]
    by_cases hne : stripped k ≠ "empty".toList
    · rw [if_pos ⟨hl, hne⟩, if_pos hne]
    · rw [if_neg fun h => hne h.2, if_neg hne, hnil]
  · have ht : passwordText k = "empty".toList := if_neg hl
    rw [if_neg fun h => hl h.1, ht, if_neg fun h => h rfl, hnil]

/-- Whatever the arguments are: if they ask for the packet of an address that is twelve
characters without its separators, a magic packet of six bytes is what `sendto` is given,
and nothing is sent if they ask for none. -/
theorem wakeSingle_magic (sock : Socket) (version : Line) (argv : List Line)
    (hs : ∀ a, argv[2]? = some a → (stripped a).length = 12) :
    (∃ mac pass host port, Asked argv mac pass host port ∧ mac.length = 6 ∧
        sent (eventsOf (wakeSingle sock version argv [])) = sock.taken [(magic mac pass, host, port)]) ∨
      (∀ mac pass host port, ¬ Asked argv mac pass host port) ∧
        sent (eventsOf (wakeSingle sock version argv [])) = [] := by
  have hstop : ∀ {α : Type} {x : Script α} {f : α → Script Unit} {es : List Event}, Quiet x → sent es = [] →
      (∃ s es', x es = .error s es') → sent (eventsOf ((x >>= f) es)) = [] := by
    rintro α x f es hq h0 ⟨s, es', e⟩
    have := hq es
    rw [e] at this
    rw [bind_error e]
    exact this.trans h0
  rcases (addressOf_cases argv []).symm with ⟨hn, he⟩ | ⟨a, h2, ha, e₁⟩
  · refine .inr ⟨fun mac pass host port hk => ?_, hstop (quiet_addressOf argv) rfl he⟩
    obtain ⟨a, h2, ha, -⟩ := hk.address
    exact hn a h2 ha
  have hl := hs a h2
  rw [wakeSingle, bind_ok e₁]
  rcases (destinationOf_cases argv []).symm with ⟨hn, he⟩ | ⟨bcast, destport, es₂, hd, e₂⟩
  · exact .inr ⟨fun mac pass host port hk => hn host port hk.destination, hstop (quiet_destinationOf argv) rfl he⟩
  have h₂ : sent es₂ = [] := by
    have := quiet_destinationOf argv []
    rwa [e₂] at this
  rw [bind_ok e₂]
  rcases (passwordOf_cases argv es₂).symm with ⟨hn, he⟩ | ⟨k, hk, e₃⟩
  · refine .inr ⟨fun mac pass host port hp => ?_, hstop (quiet_passwordOf argv) h₂ he⟩
    obtain ⟨k, hk, -⟩ := hp.password
    exact hn k hk
  have hrun : sent (eventsOf ((passwordOf argv >>= fun wolpass =>
      attemptWake sock version argv (stripped a) bcast destport wolpass) es₂)) =
      sent (eventsOf (attemptWake sock version argv (stripped a) bcast destport (passwordText k) es₂)) := by
    rw [bind_ok e₃]
  dsimp only
  rw [hrun, sent_attemptWake _ _ _ _ _ _ h₂]
  cases hp : packHex (magicData (stripped a) (if passwordText k ≠ "empty".toList then passwordText k else [])) with
  | ok bytes =>
    obtain ⟨mac, pass, hm, hpass, rfl⟩ := of_packHex (by rw [hl]) hp
    refine .inl ⟨mac, pass, bcast, destport, ⟨⟨a, h2, ha, hm⟩, hd, (password_iff hk pass).mpr hpass⟩, ?_, rfl⟩
    rw [length_of_packHex (by rw [hl]) hm, hl]
  | error s =>
    refine .inr ⟨fun mac pass host port hA => ?_, rfl⟩
    obtain ⟨b, hb, -, hm⟩ := hA.address
    obtain rfl := Option.some.inj (h2.symm.trans hb)
    rw [packHex_ok (by rw [hl]) hm ((password_iff hk pass).mp hA.password)] at hp
    cases hp

/-- The command of the usage text with a password. -/
theorem wakeSingle_password :
    ∃ mac pass host port, Asked ["wol-e.py".toList, "-m".toList, "00:12:34:56:78:90".toList, "-b".toList,
        "192.168.1.255".toList, "-p".toList, "7".toList, "-k".toList, "00:11:22:33:44:55".toList] mac pass host port ∧
      mac.length = 6 ∧
      sent (eventsOf (wakeSingle openSocket "1.0".toList ["wol-e.py".toList, "-m".toList, "00:12:34:56:78:90".toList,
        "-b".toList, "192.168.1.255".toList, "-p".toList, "7".toList, "-k".toList, "00:11:22:33:44:55".toList] [])) =
        openSocket.taken [(magic mac pass, host, port)] := by
  have hA : Asked ["wol-e.py".toList, "-m".toList, "00:12:34:56:78:90".toList, "-b".toList,
      "192.168.1.255".toList, "-p".toList, "7".toList, "-k".toList, "00:11:22:33:44:55".toList]
      [0x00, 0x12, 0x34, 0x56, 0x78, 0x90] [0x00, 0x11, 0x22, 0x33, 0x44, 0x55] "192.168.1.255".toList 7 :=
    ⟨⟨_, rfl, .inr rfl, packHex_of_hexBytes (by decide)⟩, ⟨rfl, _, rfl, by decide⟩,
      ⟨_, rfl, packHex_of_hexBytes (by decide)⟩⟩
  refine (wakeSingle_magic openSocket _ _ fun a h => ?_).resolve_right fun h => h.1 _ _ _ _ hA
  obtain rfl := Option.some.inj h
  rfl

end

end Espo.WolE
