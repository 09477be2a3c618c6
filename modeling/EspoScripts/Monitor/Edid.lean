import EspoScripts.Framework.VbsText

/-!
# What the monitor scripts read from an EDID

A monitor stores 128 bytes about itself (`Panel.edid`): the letters of its
maker in five bits each, a device id, the week and the year it was made, and
four descriptors of eighteen bytes, which may hold its serial number and its
name. The scripts take the bytes as one string and read them back (`info`).

`info_edid`: they read what the monitor stores, whatever else its EDID holds; for
the date they show the month so many weeks behind the first of January.
`month_right_iff`: the month is wrong just for a week that ends with its month,
and for a week 53.
-/

namespace Espo.Monitor

open Espo.Cmd Espo.Vbs

/-! ## The scripts -/

/-- A row of `arrMonitorInfo`. -/
structure Info where
  mfg : Line
  dev : Line
  mdt : Line
  ser : Line
  mdl : Line
  ver : Line
deriving DecidableEq

/-- The four descriptor blocks. -/
def location (raw : Line) : List Line :=
  [mid raw (0x36 + 1) 18, mid raw (0x48 + 1) 18, mid raw (0x5a + 1) 18, mid raw (0x6c + 1) 18]

def strSerFind : Line := [chrOf 0x00, chrOf 0x00, chrOf 0x00, chrOf 0xff]

def strMdlFind : Line := [chrOf 0x00, chrOf 0x00, chrOf 0x00, chrOf 0xfc]

/-- The last block that holds the mark. -/
def foundAt (location : List Line) (find : Line) : Option Line :=
  location.foldl (fun found block => if instr block find > 0 then some block else found) none

/-- What stands before a line feed, trimmed. -/
def lineText (tmp : Line) : Line :=
  if instr tmp [chrOf 0x0a] > 0 then trim (left tmp (instr tmp [chrOf 0x0a] - 1)) else trim tmp

/-- A text without a NUL in front. -/
def dropNul (tmp : Line) : Line := if left tmp 1 = [chrOf 0] then right tmp (tmp.length - 1) else tmp

/-- The text of a block. -/
def blockText (block : Line) : Line := dropNul (lineText (right block 14))

def textOf (raw find notFound : Line) : Line :=
  match foundAt (location raw) find with
  | some block => blockText block
  | none => notFound

def tmpmfgweek (raw : Line) : Option Nat := asc (mid raw (0x10 + 1) 1)

def tmpmfgyear (raw : Line) : Option Nat := (asc (mid raw (0x11 + 1) 1)).map (· + 1990)

/-- Month and year, `week` weeks after the first of January. -/
def tmpmdt (week year : Nat) : Line := decimal (month (addDays year (7 * week))) ++ '/' :: decimal year

def tmpEDIDMajorVer (raw : Line) : Option Nat := asc (mid raw (0x12 + 1) 1)

def tmpEDIDRev (raw : Line) : Option Nat := asc (mid raw (0x13 + 1) 1)

def tmpver (major rev : Nat) : Option Line := do
  let a ← chr (48 + major)
  let b ← chr (48 + rev)
  pure [a, '.', b]

def byte1 (raw : Line) : Option Nat := asc (left (mid raw (0x08 + 1) 2) 1)

def byte2 (raw : Line) : Option Nat := asc (right (mid raw (0x08 + 1) 2) 1)

/-- `If (byte And mask) > 0 Then char = char + weight`. -/
def bit (byte mask weight : Nat) : Nat := if byte &&& mask > 0 then weight else 0

def char1 (b : Nat) : Nat := bit b 64 16 + bit b 32 8 + bit b 16 4 + bit b 8 2 + bit b 4 1

def char2 (b c : Nat) : Nat := bit b 2 16 + bit b 1 8 + bit c 128 4 + bit c 64 2 + bit c 32 1

def char3 (c : Nat) : Nat := (c &&& 16) + (c &&& 8) + (c &&& 4) + (c &&& 2) + (c &&& 1)

/-- Three letters from the fifteen bits of two bytes. -/
def tmpmfg (b c : Nat) : Line := [char1 b, char2 b c, char3 c].map fun n => Char.ofNat (n + 64)

/-- A byte in hex, with a leading zero. -/
def tmpEDIDDev (n : Nat) : Line := if (hex n).length = 1 then '0' :: hex n else hex n

def dev1 (raw : Line) : Option Nat := asc (mid raw (0x0a + 1) 1)

def dev2 (raw : Line) : Option Nat := asc (mid raw (0x0b + 1) 1)

/-- The row of a monitor, where no read fails. -/
def info (noSer noMdl raw : Line) : Option Info := do
  let week ← tmpmfgweek raw
  let year ← tmpmfgyear raw
  let major ← tmpEDIDMajorVer raw
  let rev ← tmpEDIDRev raw
  let ver ← tmpver major rev
  let b ← byte1 raw
  let c ← byte2 raw
  let d ← dev1 raw
  let e ← dev2 raw
  pure
    { mfg := tmpmfg b c
      dev := tmpEDIDDev e ++ tmpEDIDDev d
      mdt := tmpmdt week year
      ser := textOf raw strSerFind noSer
      mdl := textOf raw strMdlFind noMdl
      ver := ver }

/-! ## What a monitor stores -/

/-- The text of a descriptor. -/
structure Text where
  codes : List UInt8
  short : codes.length ≤ 13
  ascii : ∀ b ∈ codes, 0x20 ≤ b ∧ b ≤ 0x7e
  trimmed : codes.getLast? ≠ some 0x20

/-- Thirteen bytes: the text, and if it is shorter a line feed and spaces. -/
def Text.field (t : Text) : List UInt8 :=
  t.codes ++ if t.codes.length < 13 then 0x0a :: List.replicate (12 - t.codes.length) 0x20 else []

def serMark : List UInt8 := [0x00, 0x00, 0x00, 0xff]

def mdlMark : List UInt8 := [0x00, 0x00, 0x00, 0xfc]

/-- Eighteen bytes of another kind: a timing, limits, or more text. -/
structure Other where
  bytes : List UInt8
  length_eq : bytes.length = 18
  not_ser : ¬ serMark <:+: bytes
  not_mdl : ¬ mdlMark <:+: bytes

inductive Descriptor where
  | serial (t : Text)
  | name (t : Text)
  | other (o : Other)

def Descriptor.bytes : Descriptor → List UInt8
  | .serial t => serMark ++ 0x00 :: t.field
  | .name t => mdlMark ++ 0x00 :: t.field
  | .other o => o.bytes

def Descriptor.serial? : Descriptor → Option Text
  | .serial t => some t
  | _ => none

def Descriptor.name? : Descriptor → Option Text
  | .name t => some t
  | _ => none

/-- The first eight bytes. -/
def start : List UInt8 := [0x00, 0xff, 0xff, 0xff, 0xff, 0xff, 0xff, 0x00]

/-- What a monitor stores about itself. `Chr(48 + n)` is defined for its version and its
revision, which are 1.0 to 1.4. -/
structure Panel where
  maker : Fin 32 × Fin 32 × Fin 32
  product : UInt8 × UInt8
  number : List UInt8
  number_length : number.length = 4
  week : UInt8
  year : UInt8
  version : UInt8
  version_lt : 48 + version.toNat < 256
  revision : UInt8
  revision_lt : 48 + revision.toNat < 256
  display : List UInt8
  display_length : display.length = 34
  first : Descriptor
  second : Descriptor
  third : Descriptor
  fourth : Descriptor
  more : List UInt8

namespace Panel

def descriptors (p : Panel) : List Descriptor := [p.first, p.second, p.third, p.fourth]

/-- The two bytes of the maker, five bits a letter. -/
def makerBytes (p : Panel) : List UInt8 :=
  [.ofNat (p.maker.1.val * 4 + p.maker.2.1.val / 8), .ofNat (p.maker.2.1.val % 8 * 32 + p.maker.2.2.val)]

/-- What stands before the descriptors. -/
def head (p : Panel) : List UInt8 :=
  start ++ p.makerBytes ++ [p.product.1, p.product.2] ++ p.number ++ [p.week, p.year, p.version, p.revision] ++
    p.display

/-- The bytes of a panel. -/
def edid (p : Panel) : List UInt8 := p.head ++ p.descriptors.flatMap Descriptor.bytes ++ p.more

end Panel

/-- A byte in two hex digits. -/
def hexByte (b : UInt8) : Line :=
  [b.toNat / 16, b.toNat % 16].map fun d => if d < 10 then Char.ofNat (48 + d) else Char.ofNat (55 + d)

/-- The date as many weeks behind the first of January as the week stored says. -/
def Panel.date (p : Panel) : Date := (Date.mk (p.year.toNat + 1990) 1 1).after (7 * p.week.toNat)

/-- What the scripts should show of a panel. -/
def Panel.info (noSer noMdl : Line) (p : Panel) : Info where
  mfg := [p.maker.1, p.maker.2.1, p.maker.2.2].map fun n => Char.ofNat (n.val + 64)
  dev := hexByte p.product.2 ++ hexByte p.product.1
  mdt := decimal p.date.month ++ '/' :: decimal (p.year.toNat + 1990)
  ser := ((p.descriptors.filterMap Descriptor.serial?).getLast?.map fun t => t.codes.map chrOf).getD noSer
  mdl := ((p.descriptors.filterMap Descriptor.name?).getLast?.map fun t => t.codes.map chrOf).getD noMdl
  ver := [chrOf (48 + p.version), '.', chrOf (48 + p.revision)]

/-! ## Reading the bytes -/

theorem char1_eq : ∀ b < 256, char1 b = b / 4 % 32 := by decide +kernel

theorem char2_left : ∀ b < 256, bit b 2 16 + bit b 1 8 = b % 4 * 8 := by decide +kernel

theorem char2_right : ∀ c < 256, bit c 128 4 + bit c 64 2 + bit c 32 1 = c / 32 := by decide +kernel

theorem char3_eq : ∀ c < 256, char3 c = c % 32 := by decide +kernel

/-- Bits apart and together again. -/
theorem tmpmfg_eq (x y z : Fin 32) : tmpmfg (x.val * 4 + y.val / 8) (y.val % 8 * 32 + z.val) =
    [x, y, z].map fun n => Char.ofNat (n.val + 64) := by
  have hx := x.isLt; have hy := y.isLt; have hz := z.isLt
  have hb : x.val * 4 + y.val / 8 < 256 := by omega
  have hc : y.val % 8 * 32 + z.val < 256 := by omega
  have h₁ : char1 (x.val * 4 + y.val / 8) = x.val := by rw [char1_eq _ hb]; omega
  have h₂ : char2 (x.val * 4 + y.val / 8) (y.val % 8 * 32 + z.val) = y.val := by
    have hl := char2_left _ hb
    have hr := char2_right _ hc
    unfold char2
    omega
  have h₃ : char3 (y.val % 8 * 32 + z.val) = z.val := by rw [char3_eq _ hc]; omega
  rw [tmpmfg, h₁, h₂, h₃]
  rfl

theorem tmpEDIDDev_eq (b : UInt8) : tmpEDIDDev b.toNat = hexByte b := by
  have h : ∀ n < 256, tmpEDIDDev n =
      [n / 16, n % 16].map fun d => if d < 10 then Char.ofNat (48 + d) else Char.ofNat (55 + d) := by decide +kernel
  exact h _ b.toNat_lt

theorem tmpver_eq {a b : UInt8} (ha : 48 + a.toNat < 256) (hb : 48 + b.toNat < 256) :
    tmpver a.toNat b.toNat = some [chrOf (48 + a), '.', chrOf (48 + b)] := by
  have hc : ∀ {n : UInt8}, 48 + n.toNat < 256 → chr (48 + n.toNat) = some (chrOf (48 + n)) := by
    intro n hn
    have h48 : (48 + n).toNat = 48 + n.toNat := by
      rw [UInt8.toNat_add]
      show (48 + n.toNat) % 256 = _
      omega
    rw [chr, if_pos hn, chrOf, h48]
  unfold tmpver
  rw [hc ha, hc hb]
  rfl

/-- The bytes behind others. -/
theorem mid_bytes {s t u : List UInt8} {n k : Nat} (hs : s.length = n) (ht : t.length = k) :
    mid ((s ++ (t ++ u)).map chrOf) (n + 1) k = t.map chrOf := by
  subst hs ht
  have hl : s.length = (s.map chrOf).length := (List.length_map chrOf).symm
  rw [List.map_append, hl, mid_append, List.map_append, List.take_left' (List.length_map chrOf)]

theorem asc_bytes {s : List UInt8} {b : UInt8} {u : List UInt8} {n : Nat} (hs : s.length = n) :
    asc (mid ((s ++ b :: u).map chrOf) (n + 1) 1) = some b.toNat := by
  have hm := mid_bytes (t := [b]) (u := u) hs rfl
  rw [List.singleton_append, List.length_singleton] at hm
  rw [hm]
  exact asc_chrOf b []

/-- Whether a mark stands in a block. -/
theorem instr_bytes {s t : List UInt8} (ht : t ≠ []) : instr (s.map chrOf) (t.map chrOf) > 0 ↔ t <:+: s := by
  have hne : t.map chrOf ≠ [] := by simpa using ht
  refine (instr_pos_iff hne).trans ⟨fun h => ?_, fun h => h.map chrOf⟩
  obtain ⟨a, b, hab⟩ := h
  obtain ⟨x, y, rfl, hx, rfl⟩ := List.map_eq_append_iff.mp hab.symm
  obtain ⟨u, v, rfl, rfl, hv⟩ := List.map_eq_append_iff.mp hx
  have he : v = t := (List.map_inj_right fun _ _ => chrOf_inj).mp hv
  exact ⟨u, y, by rw [he]⟩

/-! ## Descriptors -/

theorem Text.field_length (t : Text) : t.field.length = 13 := by
  have := t.short
  unfold Text.field
  split
  · rw [List.length_append, List.length_cons, List.length_replicate]
    omega
  · rw [List.append_nil]
    omega

theorem Descriptor.bytes_length : ∀ d : Descriptor, d.bytes.length = 18
  | .serial t => by
    rw [Descriptor.bytes, List.length_append, List.length_cons, t.field_length]
    rfl
  | .name t => by
    rw [Descriptor.bytes, List.length_append, List.length_cons, t.field_length]
    rfl
  | .other o => o.length_eq

theorem Text.not_mem_field (t : Text) {b : UInt8} (h : 0x7e < b) : b ∉ t.field := by
  have hc : b ∉ t.codes := fun hm => absurd (t.ascii b hm).2 (by simpa using h)
  intro hm
  rcases List.mem_append.mp hm with hm | hm
  · exact hc hm
  split at hm
  · rcases List.mem_cons.mp hm with rfl | hm
    · exact absurd h (by decide)
    · rw [(List.mem_replicate.mp hm).2] at h
      exact absurd h (by decide)
  · cases hm

theorem Descriptor.serMark_iff : ∀ d : Descriptor, serMark <:+: d.bytes ↔ d.serial?.isSome
  | .serial t => ⟨fun _ => rfl, fun _ => (List.prefix_append _ _).isInfix⟩
  | .name t => by
    refine ⟨fun h => ?_, fun h => absurd h Bool.false_ne_true⟩
    have hm : 0xff ∈ mdlMark ++ 0x00 :: t.field := h.subset (by decide)
    rcases List.mem_append.mp hm with hm | hm
    · exact absurd hm (by decide)
    · exact absurd ((List.mem_cons.mp hm).resolve_left (by decide)) (t.not_mem_field (by decide))
  | .other o => ⟨fun h => absurd h o.not_ser, fun h => absurd h Bool.false_ne_true⟩

theorem Descriptor.mdlMark_iff : ∀ d : Descriptor, mdlMark <:+: d.bytes ↔ d.name?.isSome
  | .name t => ⟨fun _ => rfl, fun _ => (List.prefix_append _ _).isInfix⟩
  | .serial t => by
    refine ⟨fun h => ?_, fun h => absurd h Bool.false_ne_true⟩
    have hm : 0xfc ∈ serMark ++ 0x00 :: t.field := h.subset (by decide)
    rcases List.mem_append.mp hm with hm | hm
    · exact absurd hm (by decide)
    · exact absurd ((List.mem_cons.mp hm).resolve_left (by decide)) (t.not_mem_field (by decide))
  | .other o => ⟨fun h => absurd h o.not_mdl, fun h => absurd h Bool.false_ne_true⟩

/-- In front of the text stands a NUL, which keeps its leading spaces from `Trim`. -/
theorem trim_codes (t : Text) : trim (chrOf 0 :: t.codes.map chrOf) = chrOf 0 :: t.codes.map chrOf := by
  have h0 : chrOf 0 ≠ ' ' := by decide
  refine trim_eq (fun e => h0 (Option.some.inj e)) ?_
  rw [List.getLast?_cons, List.getLast?_map]
  cases hl : t.codes.getLast? with
  | none => exact fun e => h0 (Option.some.inj e)
  | some b =>
    have hb : b ≠ 0x20 := fun e => t.trimmed (by rw [hl, e])
    exact fun e => hb (chrOf_inj (Option.some.inj e))

theorem lineText_field (t : Text) : lineText (chrOf 0 :: t.field.map chrOf) = chrOf 0 :: t.codes.map chrOf := by
  have hlf : ∀ c ∈ chrOf 0 :: t.codes.map chrOf, (c != chrOf 0x0a) = true := by
    intro c hc
    apply bne_iff_ne.mpr
    rcases List.mem_cons.mp hc with rfl | hc
    · decide
    obtain ⟨b, hb, rfl⟩ := List.mem_map.mp hc
    intro e
    exact absurd (t.ascii b hb).1 (by rw [chrOf_inj e]; decide)
  unfold lineText
  by_cases hs : t.codes.length < 13
  · have hf : chrOf 0 :: t.field.map chrOf = (chrOf 0 :: t.codes.map chrOf) ++
        chrOf 0x0a :: (List.replicate (12 - t.codes.length) 0x20).map chrOf := by
      rw [Text.field, if_pos hs, List.map_append]
      rfl
    have hm : chrOf 0x0a ∈ chrOf 0 :: t.field.map chrOf := by
      rw [hf]
      exact List.mem_append_right _ List.mem_cons_self
    rw [if_pos (instr_char_pos_iff.mpr hm), left_instr hm, hf, List.takeWhile_append_of_pos hlf,
      List.takeWhile_cons_of_neg (by simp), List.append_nil, trim_codes]
  · have hf : t.field = t.codes := by rw [Text.field, if_neg hs, List.append_nil]
    have hm : ¬ instr (chrOf 0 :: t.codes.map chrOf) [chrOf 0x0a] > 0 := fun h =>
      absurd (hlf _ (instr_char_pos_iff.mp h)) (by simp)
    rw [hf, if_neg hm, trim_codes]

/-- The text of a block is the descriptor's text. -/
theorem blockText_field (mark : List UInt8) (t : Text) :
    blockText ((mark ++ 0x00 :: t.field).map chrOf) = t.codes.map chrOf := by
  have hr : right ((mark ++ 0x00 :: t.field).map chrOf) 14 = chrOf 0 :: t.field.map chrOf := by
    rw [List.map_append]
    exact right_append (by rw [List.length_map, List.length_cons, t.field_length])
  have hl : left (chrOf 0 :: t.codes.map chrOf) 1 = [chrOf 0] := List.take_succ_cons
  rw [blockText, hr, lineText_field, dropNul, if_pos hl, ← List.singleton_append]
  exact right_append (by rw [List.length_append, List.length_singleton]; omega)

/-- The last descriptor of a kind is the block that is found. -/
theorem foldl_descriptors {mark : List UInt8} {f : Descriptor → Option Text} (hm : mark ≠ [])
    (hf : ∀ d, mark <:+: d.bytes ↔ (f d).isSome) (hb : ∀ d t, f d = some t → d.bytes = mark ++ 0x00 :: t.field) :
    ∀ (ds : List Descriptor) (found : Option Line),
      (ds.map fun d => d.bytes.map chrOf).foldl
          (fun found block => if instr block (mark.map chrOf) > 0 then some block else found) found =
        (((ds.filterMap f).getLast?).map fun t => (mark ++ 0x00 :: t.field).map chrOf).or found
  | [], found => rfl
  | d :: ds, found => by
    rw [List.map_cons, List.foldl_cons, foldl_descriptors hm hf hb ds]
    cases hd : f d with
    | none =>
      have hn : ¬ instr (d.bytes.map chrOf) (mark.map chrOf) > 0 := by
        rw [instr_bytes hm, hf, hd]
        exact Bool.false_ne_true
      rw [if_neg hn, List.filterMap_cons_none hd]
    | some t =>
      have hp : instr (d.bytes.map chrOf) (mark.map chrOf) > 0 := by
        rw [instr_bytes hm, hf, hd]
        rfl
      rw [if_pos hp, List.filterMap_cons_some hd, List.getLast?_cons, hb d t hd]
      cases (ds.filterMap f).getLast? <;> rfl

namespace Panel

theorem start_length : start.length = 8 := rfl

theorem makerBytes_length (p : Panel) : p.makerBytes.length = 2 := rfl

theorem head_length (p : Panel) : p.head.length = 0x36 := by
  simp only [head, List.length_append, start_length, p.makerBytes_length, p.number_length, p.display_length,
    List.length_cons, List.length_nil]

theorem edid_eq (p : Panel) : p.edid =
    p.head ++ (p.first.bytes ++ (p.second.bytes ++ (p.third.bytes ++ (p.fourth.bytes ++ p.more)))) := by
  simp only [edid, descriptors, List.flatMap_cons, List.flatMap_nil, List.append_assoc, List.append_nil]

theorem raw_length (p : Panel) : 0x7e ≤ (p.edid.map chrOf).length := by
  rw [List.length_map, p.edid_eq, List.length_append, List.length_append, List.length_append, List.length_append,
    List.length_append, p.head_length, p.first.bytes_length, p.second.bytes_length, p.third.bytes_length,
    p.fourth.bytes_length]
  omega

theorem location_eq (p : Panel) : location (p.edid.map chrOf) = p.descriptors.map fun d => d.bytes.map chrOf := by
  have h₁ := p.head_length
  have h₂ : (p.head ++ p.first.bytes).length = 0x48 := by
    rw [List.length_append, h₁, p.first.bytes_length]
  have h₃ : (p.head ++ p.first.bytes ++ p.second.bytes).length = 0x5a := by
    rw [List.length_append, h₂, p.second.bytes_length]
  have h₄ : (p.head ++ p.first.bytes ++ p.second.bytes ++ p.third.bytes).length = 0x6c := by
    rw [List.length_append, h₃, p.third.bytes_length]
  have e₁ := mid_bytes (u := p.second.bytes ++ (p.third.bytes ++ (p.fourth.bytes ++ p.more))) h₁ p.first.bytes_length
  have e₂ := mid_bytes (u := p.third.bytes ++ (p.fourth.bytes ++ p.more)) h₂ p.second.bytes_length
  have e₃ := mid_bytes (u := p.fourth.bytes ++ p.more) h₃ p.third.bytes_length
  have e₄ := mid_bytes (u := p.more) h₄ p.fourth.bytes_length
  simp only [List.append_assoc] at e₁ e₂ e₃ e₄
  rw [location, p.edid_eq, e₁, e₂, e₃, e₄]
  rfl

theorem textOf_eq (p : Panel) {mark : List UInt8} {f : Descriptor → Option Text} (hm : mark ≠ [])
    (hf : ∀ d, mark <:+: d.bytes ↔ (f d).isSome) (hb : ∀ d t, f d = some t → d.bytes = mark ++ 0x00 :: t.field)
    (notFound : Line) : textOf (p.edid.map chrOf) (mark.map chrOf) notFound =
      ((p.descriptors.filterMap f).getLast?.map fun t => t.codes.map chrOf).getD notFound := by
  unfold textOf foundAt
  rw [p.location_eq, foldl_descriptors hm hf hb, Option.or_none]
  cases (p.descriptors.filterMap f).getLast? with
  | none => rfl
  | some t => exact blockText_field mark t

/-- The bytes in front, with a list behind. -/
theorem edid_front (p : Panel) : ∃ u, p.edid = start ++ (p.makerBytes ++ (p.product.1 :: p.product.2 :: (p.number ++
    (p.week :: p.year :: p.version :: p.revision :: u)))) :=
  ⟨p.display ++ (p.descriptors.flatMap Descriptor.bytes ++ p.more), by
    simp only [edid, head, List.append_assoc, List.cons_append, List.nil_append]⟩

theorem mid_maker (p : Panel) : mid (p.edid.map chrOf) (0x08 + 1) 2 = p.makerBytes.map chrOf := by
  obtain ⟨u, hu⟩ := p.edid_front
  rw [hu]
  exact mid_bytes start_length p.makerBytes_length

/-- The single bytes: the device id, the date and the version. -/
theorem asc_bytes (p : Panel) :
    asc (mid (p.edid.map chrOf) (0x0a + 1) 1) = some p.product.1.toNat ∧
      asc (mid (p.edid.map chrOf) (0x0b + 1) 1) = some p.product.2.toNat ∧
      asc (mid (p.edid.map chrOf) (0x10 + 1) 1) = some p.week.toNat ∧
      asc (mid (p.edid.map chrOf) (0x11 + 1) 1) = some p.year.toNat ∧
      asc (mid (p.edid.map chrOf) (0x12 + 1) 1) = some p.version.toNat ∧
      asc (mid (p.edid.map chrOf) (0x13 + 1) 1) = some p.revision.toNat := by
  obtain ⟨u, hu⟩ := p.edid_front
  have ha : ∀ {s : List UInt8} {b : UInt8} {v : List UInt8} {n : Nat}, p.edid = s ++ b :: v → s.length = n →
      asc (mid (p.edid.map chrOf) (n + 1) 1) = some b.toNat := by
    intro s b v n he hl
    rw [he]
    exact Monitor.asc_bytes hl
  have hc : ∀ {s : List UInt8} {n : Nat} (b : UInt8), s.length = n → (s ++ [b]).length = n + 1 := by
    intro s n b hl
    rw [List.length_append, hl]
    rfl
  have l₁ : (start ++ p.makerBytes).length = 0x0a := by
    rw [List.length_append, start_length, p.makerBytes_length]
  have e₁ := hu.trans (List.append_assoc _ _ _).symm
  have e₂ := e₁.trans (List.append_cons _ _ _)
  have l₂ := hc p.product.1 l₁
  have e₃ := (e₂.trans (List.append_cons _ _ _)).trans (List.append_assoc _ _ _).symm
  have l₃ : (start ++ p.makerBytes ++ [p.product.1] ++ [p.product.2] ++ p.number).length = 0x10 := by
    rw [List.length_append, hc p.product.2 l₂, p.number_length]
  have e₄ := e₃.trans (List.append_cons _ _ _)
  have l₄ := hc p.week l₃
  have e₅ := e₄.trans (List.append_cons _ _ _)
  have l₅ := hc p.year l₄
  have e₆ := e₅.trans (List.append_cons _ _ _)
  exact ⟨ha e₁ l₁, ha e₂ l₂, ha e₃ l₃, ha e₄ l₄, ha e₅ l₅, ha e₆ (hc p.version l₅)⟩

theorem tmpmdt_eq (p : Panel) : tmpmdt p.week.toNat (p.year.toNat + 1990) =
    decimal p.date.month ++ '/' :: decimal (p.year.toNat + 1990) := by
  rw [tmpmdt, month_addDays]
  rfl

end Panel

/-- The scripts read what a panel stores: the last serial number, the last name, and
the rest of it. -/
theorem info_edid (p : Panel) (noSer noMdl : Line) :
    info noSer noMdl (p.edid.map chrOf) = some (p.info noSer noMdl) := by
  have hser : textOf (p.edid.map chrOf) strSerFind noSer = _ := p.textOf_eq (by decide) Descriptor.serMark_iff (by
    intro d t h
    cases d with
    | serial s => rw [← Option.some.inj h]; rfl
    | _ => cases h) noSer
  have hmdl : textOf (p.edid.map chrOf) strMdlFind noMdl = _ := p.textOf_eq (by decide) Descriptor.mdlMark_iff (by
    intro d t h
    cases d with
    | name s => rw [← Option.some.inj h]; rfl
    | _ => cases h) noMdl
  have hmfg := p.mid_maker
  have hb : byte1 (p.edid.map chrOf) = some (p.maker.1.val * 4 + p.maker.2.1.val / 8) := by
    rw [byte1, hmfg]
    refine (asc_chrOf _ _).trans (congrArg some ?_)
    rw [UInt8.toNat_ofNat']
    omega
  have hc : byte2 (p.edid.map chrOf) = some (p.maker.2.1.val % 8 * 32 + p.maker.2.2.val) := by
    rw [byte2, hmfg]
    refine (asc_chrOf _ []).trans (congrArg some ?_)
    rw [UInt8.toNat_ofNat']
    omega
  obtain ⟨hd, he, hw, hy, hv, hr⟩ := p.asc_bytes
  unfold info tmpmfgweek tmpmfgyear tmpEDIDMajorVer tmpEDIDRev dev1 dev2
  rw [hb, hc, hd, he, hw, hy, hv, hr]
  show (tmpver p.version.toNat p.revision.toNat >>= fun ver => _ : Option Info) = _
  rw [tmpver_eq p.version_lt p.revision_lt]
  show some _ = _
  rw [tmpmfg_eq, tmpEDIDDev_eq, tmpEDIDDev_eq, hser, hmdl, p.tmpmdt_eq]
  rfl

/-! ## Behind the first block -/

/-- The scripts read nothing behind the descriptors. -/
theorem info_append (noSer noMdl : Line) {raw : Line} (h : 0x7e ≤ raw.length) (more : Line) :
    info noSer noMdl (raw ++ more) = info noSer noMdl raw := by
  have hm : ∀ {start n : Nat}, start - 1 + n ≤ 0x7e → mid (raw ++ more) start n = mid raw start n := fun hs =>
    mid_append_of_le (by omega) more
  have hl : location (raw ++ more) = location raw := by
    unfold location
    rw [hm (by decide), hm (by decide), hm (by decide), hm (by decide)]
  unfold info tmpmfgweek tmpmfgyear tmpEDIDMajorVer tmpEDIDRev byte1 byte2 dev1 dev2 textOf
  rw [hl, hm (by decide), hm (by decide), hm (by decide), hm (by decide), hm (by decide), hm (by decide),
    hm (by decide)]

/-! ## The month -/

theorem decimal_inj {m n : Nat} (h : decimal m = decimal n) : m = n := by
  rw [← Nat.ofDigitChars_ten_toDigits (n := m), ← Nat.ofDigitChars_ten_toDigits (n := n)]
  exact congrArg (Nat.ofDigitChars 10 · 0) h

/-- The first fifty-two weeks: which of them show the month of one of their days. -/
theorem month_iff : ∀ leap : Bool, ∀ week < 53, 1 ≤ week →
    ((∃ d < 7, monthIn (monthLengths leap) (7 * week) = monthIn (monthLengths leap) (7 * (week - 1) + d)) ↔
      if leap then week ≠ 13 ∧ week ≠ 26 else week ≠ 39) := by decide +kernel

/-- Week 53 ends the year, and shows its first month. -/
theorem month_last : ∀ leap next : Bool, monthIn (monthLengths next) (7 * 53 - yearLength leap) = 1 ∧
    ∀ d < 7, 7 * (53 - 1) + d < yearLength leap → monthIn (monthLengths leap) (7 * (53 - 1) + d) ≠ 1 := by
  decide +kernel

theorem addDays_of_lt {year days : Nat} (h : days < yearLength (isLeap year)) : addDays year days = ⟨year, days⟩ := by
  rw [addDays, if_pos h]

/-- The month shown is that of a day of the week the panel was made in, except for a
week 53, and for one whose last day is the last of its month: week 39, and in leap years
weeks 13 and 26. -/
theorem month_right_iff (p : Panel) (noSer noMdl : Line) {week year : Nat} (hw : p.week.toNat = week)
    (hy : p.year.toNat + 1990 = year) (h₁ : 1 ≤ week) (h₂ : week ≤ 53) :
    ∃ i, info noSer noMdl (p.edid.map chrOf) = some i ∧
      ((∃ d < 7, 7 * (week - 1) + d < yearLength (isLeap year) ∧
          i.mdt = decimal (month ⟨year, 7 * (week - 1) + d⟩) ++ '/' :: decimal year) ↔
        week ≠ 53 ∧ if isLeap year then week ≠ 13 ∧ week ≠ 26 else week ≠ 39) := by
  refine ⟨_, info_edid p noSer noMdl, ?_⟩
  have hm : ∀ m, tmpmdt week year = decimal m ++ '/' :: decimal year ↔ month (addDays year (7 * week)) = m := by
    intro m
    rw [tmpmdt, List.append_left_inj]
    exact ⟨decimal_inj, fun e => by rw [e]⟩
  have hi : (p.info noSer noMdl).mdt = tmpmdt week year := by rw [← hw, ← hy, p.tmpmdt_eq]; rfl
  simp only [hi, hm]
  by_cases h : week = 53
  · subst h
    obtain ⟨h1, hn⟩ := month_last (isLeap year) (isLeap (year + 1))
    have hl : ∀ leap, 365 ≤ yearLength leap ∧ yearLength leap ≤ 366 := by decide
    have hg := hl (isLeap year)
    have hg' := hl (isLeap (year + 1))
    have ha : month (addDays year (7 * 53)) = 1 := by
      rw [addDays, if_neg (by omega), addDays_of_lt (by omega)]
      exact h1
    refine iff_of_false (fun hx => ?_) fun h => h.1 rfl
    obtain ⟨d, hd, hlt, e⟩ := hx
    exact hn d hd hlt (e.symm.trans ha)
  · have hd : ∀ d < 7, 7 * (week - 1) + d < yearLength (isLeap year) := by
      intro d hd
      unfold yearLength
      split <;> omega
    have hl : 7 * week < yearLength (isLeap year) := by
      unfold yearLength
      split <;> omega
    rw [addDays_of_lt hl, and_iff_right h, ← month_iff (isLeap year) week (by omega) h₁]
    refine exists_congr fun d => and_congr_right fun hlt => ?_
    rw [and_iff_right (hd d hlt)]
    rfl

/-- A panel with a name and a serial number, made in week 39 of 2010. -/
def samplePanel (maker : Fin 32 × Fin 32 × Fin 32) (product : UInt8 × UInt8) : Panel where
  maker := maker
  product := product
  number := [0x53, 0x33, 0x30, 0x30]
  number_length := rfl
  week := 39
  year := 20
  version := 1
  version_lt := by decide
  revision := 3
  revision_lt := by decide
  display := List.replicate 34 0x01
  display_length := rfl
  first := .other ⟨List.replicate 18 0x01, rfl, by decide, by decide⟩
  second := .serial ⟨[0x54, 0x33, 0x58, 0x37, 0x4b], by decide, by decide +kernel, by decide⟩
  third := .name ⟨[0x44, 0x45, 0x4c, 0x4c, 0x20, 0x32, 0x32, 0x30, 0x39], by decide, by decide +kernel, by decide⟩
  fourth := .other ⟨List.replicate 18 0x01, rfl, by decide, by decide⟩
  more := [0x00, 0x5a]

def deskPanel : Panel := samplePanel (4, 5, 12) (0x42, 0xa0)

/-- The same of another maker. -/
def wallPanel : Panel := samplePanel (8, 23, 16) (0x47, 0x28)

/-- It shows October, and no day of its week is in October. -/
theorem month_right_desk : ∃ i, info [] [] (deskPanel.edid.map chrOf) = some i ∧
    ((∃ d < 7, 7 * (39 - 1) + d < yearLength (isLeap 2010) ∧
        i.mdt = decimal (month ⟨2010, 7 * (39 - 1) + d⟩) ++ '/' :: decimal 2010) ↔
      39 ≠ 53 ∧ if isLeap 2010 then 39 ≠ 13 ∧ 39 ≠ 26 else 39 ≠ 39) :=
  month_right_iff deskPanel [] [] rfl rfl (by decide) (by decide)

end Espo.Monitor
