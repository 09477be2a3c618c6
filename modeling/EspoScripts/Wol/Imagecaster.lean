import EspoScripts.Framework.Run
import EspoScripts.Wol.Scan

/-!
# The loop of imagecaster.bat

An iteration of `:startmacro` (`startMacro`) selects the switch of the
counter, logs in to it with kitty.exe, extracts the MACs and hands each to
`wol.exe`, whose output goes to `WOLlog<counter>.txt`. What the network
answers (`Network`) is the input of an iteration, the arguments of `wol.exe`
its output. The counter is set before the loop and stays as it is, since the
line that would increment it is commented out: every iteration is for the
same switch (`running_after`).
-/

namespace Espo.Wol

open Espo.Cmd Espo.Run

/-- What a telnet session ends in: a new log, or no connection. -/
inductive Session where
  | connected (log : TextFile)
  | failed
deriving DecidableEq

/-- What each host answers. -/
abbrev Network := Line → Session

/-- The state of the loop: the variables, the scratch files and the logs of
`wol.exe` (`WOLlog<n>.txt`). `ended` is set by `GOTO :endmacro`. -/
structure State where
  counter : Nat
  icsw : Option Line
  dir : Dir
  wolLog : Nat → Option TextFile
  ended : Bool

/-- The switches the `IF "%counter%"==…` blocks select. -/
def switches : List (Nat × Line) :=
  [(1, "192.168.0.10".toList), (2, "192.168.0.11".toList), (3, "192.168.0.12".toList),
   (4, "192.168.0.13".toList), (5, "192.168.0.14".toList), (6, "192.168.0.15".toList),
   (7, "192.168.0.16".toList), (8, "192.168.0.17".toList), (9, "192.168.0.18".toList),
   (10, "192.168.0.19".toList), (11, "192.168.0.20".toList), (12, "192.168.0.21".toList),
   (13, "192.168.0.22".toList), (14, "192.168.0.23".toList), (15, "192.168.0.24".toList),
   (16, "192.168.0.25".toList), (17, "10.1.1.145".toList), (18, "192.168.0.26".toList),
   (19, "192.168.0.27".toList), (20, "192.168.0.28".toList), (21, "192.168.0.29".toList),
   (22, "10.1.1.145".toList), (23, "10.1.1.145".toList), (24, "10.1.1.145".toList),
   (25, "10.1.1.145".toList), (26, "192.168.0.25".toList)]

/-- The `IF` blocks: `set icsw=…` and `del WOLlog%counter%.txt`. -/
def selectSwitch (s : State) : State :=
  match switches.lookup s.counter with
  | none => s
  | some sw =>
    { s with icsw := some sw, wolLog := fun n => if n = s.counter then none else s.wolLog n }

/-- What the session of an iteration ends in: `kitty.exe -telnet %icsw%`. -/
def session (s : State) (net : Network) : Session := net ((selectSwitch s).icsw.getD [])

/-- `kitty.exe … -log test.txt`: a session that connects replaces `test.txt`,
one that fails leaves it. -/
def kitty (o : Session) (d : Dir) : Dir :=
  match o with
  | .connected log => { d with test := some log }
  | .failed => d

/-- The output of the calls of `wol.exe`, appended to `WOLlog%counter%.txt`. -/
def logCalls (wol : Line → List Line) (f : Option TextFile) (calls : List Line) : Option TextFile :=
  calls.foldl (fun f a => (wol a).foldl appendTo (some (f.getD .empty))) f

/-- An iteration of `:startmacro`, and the arguments it hands to `wol.exe`. -/
def startMacro (wol : Line → List Line) (s : State) (net : Network) : State × List Line :=
  if s.ended then (s, [])
  else if s.counter = 27 then ({ s with ended := true }, [])
  else
    let s₁ := selectSwitch s
    let d := extract (kitty (session s net) s₁.dir)
    let calls := addresses d
    ({ s₁ with
        dir := delScratch d
        wolLog := fun n => if n = s₁.counter then logCalls wol (s₁.wolLog n) calls else s₁.wolLog n },
      calls)

/-- The state the loop starts in, in any working directory. -/
def start (d : Dir) (wolLog : Nat → Option TextFile) : State :=
  { counter := 26, icsw := none, dir := d, wolLog := wolLog, ended := false }

/-! ## What an iteration does -/

@[simp] theorem selectSwitch_counter (s : State) : (selectSwitch s).counter = s.counter := by
  simp only [selectSwitch]; split <;> rfl

@[simp] theorem selectSwitch_dir (s : State) : (selectSwitch s).dir = s.dir := by
  simp only [selectSwitch]; split <;> rfl

@[simp] theorem selectSwitch_ended (s : State) : (selectSwitch s).ended = s.ended := by
  simp only [selectSwitch]; split <;> rfl

@[simp] theorem kitty_testmac3 (o : Session) (d : Dir) : (kitty o d).testmac3 = d.testmac3 := by
  cases o <;> rfl

/-- The loop is running for the switch the script starts with. -/
def Running (s : State) : Prop := s.counter = 26 ∧ s.ended = false

theorem running_start (d : Dir) (logs : Nat → Option TextFile) : Running (start d logs) := ⟨rfl, rfl⟩

theorem startMacro_of_running {wol : Line → List Line} {s : State} (h : Running s) (net : Network) :
    startMacro wol s net =
      ({ selectSwitch s with
          dir := delScratch (extract (kitty (session s net) s.dir))
          wolLog := fun n => if n = 26
            then logCalls wol ((selectSwitch s).wolLog n) (addresses (extract (kitty (session s net) s.dir)))
            else (selectSwitch s).wolLog n },
        addresses (extract (kitty (session s net) s.dir))) := by
  obtain ⟨hc, he⟩ := h
  simp [startMacro, hc, he]

theorem running_step {wol : Line → List Line} {s : State} (net : Network) (h : Running s) :
    Running (startMacro wol s net).1 := by
  rw [startMacro_of_running h]
  exact ⟨(selectSwitch_counter s).trans h.1, (selectSwitch_ended s).trans h.2⟩

/-- Every state of a run is that of the loop running for the same switch. -/
theorem running_after (wol : Line → List Line) (d : Dir) (logs : Nat → Option TextFile)
    (hist : List Network) : Running (after (startMacro wol) (start d logs) hist) :=
  after_inv (fun _ net h => running_step net h) hist (running_start d logs)

/-- The arguments an iteration hands over: those of a left-over
`testmac3.txt`, then those of `test.txt` after the session. -/
theorem calls_startMacro {wol : Line → List Line} {s : State} (h : Running s) (net : Network)
    (hr : (s.dir.testmac3.getD .empty).rest = []) :
    (startMacro wol s net).2 = (linesOf s.dir.testmac3).filterMap handOver ++
      scan ((linesOf (kitty (session s net) s.dir).test).drop 27) := by
  have hk : ((kitty (session s net) s.dir).testmac3.getD .empty).rest = [] := by
    rw [kitty_testmac3]; exact hr
  rw [startMacro_of_running h, addresses_extract hk, kitty_testmac3]

/-- An iteration leaves no `testmac3.txt` behind. -/
theorem testmac3_step {wol : Line → List Line} {s : State} (net : Network) (h : Running s) :
    (startMacro wol s net).1.dir.testmac3 = none := by
  rw [startMacro_of_running h]; rfl

/-- So only a run without earlier iterations finds the one it started with. -/
theorem testmac3_after (wol : Line → List Line) (d : Dir) (logs : Nat → Option TextFile) :
    ∀ hist : List Network, (after (startMacro wol) (start d logs) hist).dir.testmac3 = d.testmac3 ∨
      (after (startMacro wol) (start d logs) hist).dir.testmac3 = none := by
  intro hist
  rcases List.eq_nil_or_concat hist with rfl | ⟨hist, net, rfl⟩
  · exact .inl rfl
  · rw [List.concat_eq_append, after_append]
    exact .inr (testmac3_step net (running_after wol d logs hist))

end Espo.Wol
