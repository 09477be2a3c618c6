import EspoScripts.Wol.Imagecaster

/-!
# Isolation of the iterations of imagecaster.bat

What an iteration should hand to `wol.exe` is a function of what its session
ends in (`Session.calls`): the MACs of the new log, and nothing if there is
none. It does (`calls_of_fresh`) when it starts `Fresh`: a left-over
`testmac3.txt` contributes nothing, and if the session fails, neither does
the `test.txt` of an earlier one. Two iterations that start fresh are then
told apart by their sessions only (`wakes_isolated`). An iteration removes
`testmac3.txt`, so the first half of the condition can only fail in the
first one (`testmac3_after`).
-/

namespace Espo.Wol

open Espo.Cmd Espo.Run

/-- What a session alone makes the scripts hand over. -/
def Session.calls : Session → List Line
  | .connected log => scan (log.lines.drop 27)
  | .failed => []

/-- Nothing an earlier iteration or run left contributes to the calls: neither
`testmac3.txt` nor, if the session fails, `test.txt`. -/
structure Fresh (s : State) (net : Network) : Prop where
  ends : (s.dir.testmac3.getD .empty).rest = []
  silent : ∀ l ∈ linesOf s.dir.testmac3, handOver l = none
  log : session s net = .failed → ∀ l ∈ (linesOf s.dir.test).drop 27, scanLine l = none

/-- What an iteration hands over, where `testmac3.txt` ends with a line break:
that of its session just when it starts fresh. -/
theorem calls_eq_iff {wol : Line → List Line} {s : State} (h : Running s) (net : Network)
    (hr : (s.dir.testmac3.getD .empty).rest = []) :
    (startMacro wol s net).2 = (session s net).calls ↔ Fresh s net := by
  rw [calls_startMacro h net hr]
  constructor
  · intro e
    cases hs : session s net with
    | connected log =>
      simp only [hs, kitty, Session.calls, linesOf_some, List.append_left_eq_self] at e
      exact ⟨hr, List.filterMap_eq_nil_iff.mp e, fun hf => by simp [hs] at hf⟩
    | failed =>
      simp only [hs, kitty, Session.calls, List.append_eq_nil_iff] at e
      exact ⟨hr, List.filterMap_eq_nil_iff.mp e.1, fun _ => List.filterMap_eq_nil_iff.mp e.2⟩
  · rintro ⟨-, hl, ht⟩
    rw [List.filterMap_eq_nil_iff.mpr hl, List.nil_append]
    cases hs : session s net with
    | connected log => rfl
    | failed => exact List.filterMap_eq_nil_iff.mpr (ht hs)

theorem calls_of_fresh (wol : Line → List Line) {s : State} (h : Running s) {net : Network}
    (hf : Fresh s net) : (startMacro wol s net).2 = (session s net).calls :=
  (calls_eq_iff h net hf.ends).mpr hf

/-- The log of `wol.exe` holds the output of the iteration's own calls. -/
theorem wolLog_startMacro {wol : Line → List Line} {s : State} (h : Running s) (net : Network) :
    (startMacro wol s net).1.wolLog 26 = logCalls wol none (startMacro wol s net).2 := by
  have hl : (selectSwitch s).wolLog 26 = none := by
    rw [selectSwitch, h.1]
    rfl
  rw [startMacro_of_running h]
  simp only [if_true, hl]

/-- Iterations that start fresh, whatever the directories and the histories before
them, hand the same addresses to `wol.exe` and log the same output if their
sessions end in the same, and hand over none if the session fails. -/
theorem wakes_isolated (wol : Line → List Line) (d₁ d₂ : Dir) (logs₁ logs₂ : Nat → Option TextFile)
    (hist₁ hist₂ : List Network) (net₁ net₂ : Network)
    (hf₁ : Fresh (after (startMacro wol) (start d₁ logs₁) hist₁) net₁)
    (hf₂ : Fresh (after (startMacro wol) (start d₂ logs₂) hist₂) net₂)
    (hs : session (after (startMacro wol) (start d₁ logs₁) hist₁) net₁ =
      session (after (startMacro wol) (start d₂ logs₂) hist₂) net₂) :
    (startMacro wol (after (startMacro wol) (start d₁ logs₁) hist₁) net₁).2 =
        (startMacro wol (after (startMacro wol) (start d₂ logs₂) hist₂) net₂).2 ∧
      (startMacro wol (after (startMacro wol) (start d₁ logs₁) hist₁) net₁).1.wolLog 26 =
        (startMacro wol (after (startMacro wol) (start d₂ logs₂) hist₂) net₂).1.wolLog 26 ∧
      (session (after (startMacro wol) (start d₁ logs₁) hist₁) net₁ = .failed →
        (startMacro wol (after (startMacro wol) (start d₁ logs₁) hist₁) net₁).2 = []) := by
  have r₁ := running_after wol d₁ logs₁ hist₁
  have r₂ := running_after wol d₂ logs₂ hist₂
  have e₁ := calls_of_fresh wol r₁ hf₁
  have e₂ := calls_of_fresh wol r₂ hf₂
  refine ⟨by rw [e₁, e₂, hs], ?_, fun hfail => by rw [e₁, hfail]; rfl⟩
  rw [wolLog_startMacro r₁, wolLog_startMacro r₂, e₁, e₂, hs]

/-- A directory without any of the files. -/
def noFiles : Dir := ⟨none, none, none, none⟩

/-- The log of a session, with one MAC behind the lines that are skipped. -/
def oneMacLog : TextFile := .ofLines (List.replicate 27 [] ++ ["\r  0001e6-a5b228 19".toList])

/-- A first run in an empty directory, and an iteration after one whose session
failed. -/
theorem wakes_isolated_oneMac :
    (startMacro (fun _ => []) (start noFiles fun _ => none) fun _ => .connected oneMacLog).2 =
        (startMacro (fun _ => []) (after (startMacro fun _ => [])
          (start { noFiles with testmac4 := some oneMacLog } fun _ => none) [fun _ => .failed])
          fun _ => .connected oneMacLog).2 :=
  (wakes_isolated (fun _ => []) noFiles { noFiles with testmac4 := some oneMacLog } (fun _ => none)
    (fun _ => none) [] [fun _ => .failed] (fun _ => .connected oneMacLog) (fun _ => .connected oneMacLog)
    ⟨by decide, by decide, by decide⟩ ⟨by decide, by decide, by decide⟩ (by decide)).1

/-- A `testmac3.txt` left by an interrupted run is woken again behind the next
log's addresses; a session that fails wakes the MACs of the one before. -/
theorem wakes_leftovers :
    (startMacro (fun _ => []) (start { noFiles with testmac3 := some (.ofLines ["000048-37c480 ".toList]) }
        fun _ => none) fun _ => .connected oneMacLog).2 =
      ["000048-37c480".toList, "0001e6-a5b228".toList] ∧
    (startMacro (fun _ => []) (start noFiles fun _ => none) fun _ => .connected oneMacLog).2 =
      ["0001e6-a5b228".toList] ∧
    (startMacro (fun _ => []) (after (startMacro fun _ => []) (start noFiles fun _ => none)
        [fun _ => .connected oneMacLog]) fun _ => .failed).2 =
      ["0001e6-a5b228".toList] := by decide

end Espo.Wol
