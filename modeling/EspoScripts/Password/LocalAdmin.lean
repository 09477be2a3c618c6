import EspoScripts.Framework.Run
import EspoScripts.Framework.Vbs

/-!
# LocalAdminPWD_FromFile.vbs

The main loop pings each computer and, if it replies, binds to its winmgmts
service and calls `PWDChangeAdmin`, which sets the password and writes an
outcome to the log. The loop is under `On Error Resume Next` from its first
reply on, `PWDChangeAdmin` is not, so an error in it ends it without an
outcome; and a failed bind leaves the variable bound to an earlier computer.

`visit` is the loop's body, with what it does as its output.
`log_truthful_iff` says when each computer that replies gets one outcome, and
the right one.
-/

namespace Espo.Password

open Espo.Cmd Espo.Vbs Espo.Run

/-- A computer of the list: what ping.bat prints, and the error each call on it
raises, if it does. -/
structure Computer where
  name : Line
  ping : Line
  winmgmts : Option RuntimeError
  winNT : Option RuntimeError
  setPassword : Option RuntimeError
  setInfo : Option RuntimeError

/-- What the script writes to the log. -/
inductive Entry where
  | replyReceived (name : Line)
  | noReply (name blank : Line)
  | unableToBind (name : Line)
  | passwordChanged (name : Line)
  | error (name : Line) (e : RuntimeError)
  | rule
deriving DecidableEq

/-- The text of an entry, at the time `now`. -/
def Entry.text (now : Line) : Entry → Line
  | .replyReceived name => "\r\n----------\r\n".toList ++ name ++ " --Reply recieved".toList
  | .noReply name blank => "\r\n----------\r\n".toList ++ name ++ " -No reply received.".toList ++ blank
  | .unableToBind name => "Unable to bind to WMI on ".toList ++ name
  | .passwordChanged name => name ++ " --Password changed".toList
  | .error name e =>
    name ++ "\r\n".toList ++ now ++ "\r\n".toList ++ (toString e.number).toList ++ ':' :: e.description
  | .rule => "----------".toList

/-- What the script does: it echoes an entry or the value of a function without one,
writes an entry to the log, or sets a password. -/
inductive Event where
  | echo (e : Entry)
  | echoEmpty
  | writeLine (e : Entry)
  | setPassword (name password : Line)
  | setInfo (name : Line)
deriving DecidableEq

/-- `objWMIService`, bound to a computer. -/
abbrev State := World (Ref Line) Event

/-- A call on an object, and what it does if it succeeds. -/
def call (outcome : Option RuntimeError) (e : Event) : Script State Unit := do
  attempt outcome
  emit e

/-- `If Err = 0 Then …`, `Err.Clear`. -/
def logOutcome (c : Computer) : Script State Unit := do
  match (← get).err with
  | none =>
    emit (.echo (.passwordChanged c.name))
    emit (.echo .rule)
    emit (.writeLine (.passwordChanged c.name))
    emit (.writeLine .rule)
  | some e => emit (.writeLine (.error c.name e))
  errClear

/-- `PWDChangeAdmin`. -/
def PWDChangeAdmin (strPassword : Line) (c : Computer) : Script State Unit := do
  attempt c.winNT
  call c.setPassword (.setPassword c.name strPassword)
  call c.setInfo (.setInfo c.name)
  logOutcome c

/-- `Set objWMIService = GetObject("winmgmts:…")`. -/
def bindWmi (c : Computer) : Script State Unit := do
  attempt c.winmgmts
  modify fun w => { w with vars := .object c.name }

/-- The branch for a computer that replies. -/
def onReply (strPassword : Line) (c : Computer) : Script State Unit := do
  emit (.echo (.replyReceived c.name))
  emit (.writeLine (.replyReceived c.name))
  onErrorResumeNext
  covered (bindWmi c)
  coveredIf (do isNothing (← get).vars)
    (do
      emit (.echo (.unableToBind c.name))
      emit (.echo .rule)
      emit (.writeLine (.unableToBind c.name))
      emit (.writeLine .rule))
    (covered do
      PWDChangeAdmin strPassword c
      emit .echoEmpty)

/-- The branch for one that does not. -/
def onNoReply (c : Computer) : Script State Unit := do
  emit (.echo (.noReply c.name [' ']))
  emit (.echo .rule)
  emit (.writeLine (.noReply c.name []))
  emit (.writeLine .rule)

/-- `Instr(strText, "Reply") > 0`. -/
def Computer.replied (c : Computer) : Bool := hasText "Reply".toList c.ping

/-- The body of the main loop. The text of a ping is read at once, so the inner loop
runs once, or not at all if there is none. -/
def loopBody (strPassword : Line) (c : Computer) : Script State Unit :=
  if c.ping = [] then pure ()
  else if c.replied then onReply strPassword c
  else onNoReply c

/-- A computer of the list, and what the script does for it. -/
def visit (strPassword : Line) (w : State) (c : Computer) : State × List Event :=
  let w' := finalState ((loopBody strPassword c).run { w with events := [] })
  (w', w'.events)

/-- Before the loop. -/
def start : State := ⟨.empty, none, []⟩

/-! ## Outcomes -/

/-- The entries that are the outcome for a computer. -/
def Entry.isOutcome : Entry → Bool
  | .unableToBind _ => true
  | .passwordChanged _ => true
  | .error _ _ => true
  | _ => false

/-- The outcomes written to the log. -/
def outcomes (es : List Event) : List Entry := es.filterMap fun
  | .writeLine e => if e.isOutcome then some e else none
  | _ => none

/-- What the log is to hold for a computer: one outcome, which says that its password
is changed just when it was set and stored. -/
def Truthful (strPassword : Line) (c : Computer) (es : List Event) : Prop :=
  ∃ o, outcomes es = [o] ∧
    (o = .passwordChanged c.name ↔ .setPassword c.name strPassword ∈ es ∧ .setInfo c.name ∈ es)

/-- The calls of `PWDChangeAdmin` succeed. -/
def Computer.Sets (c : Computer) : Prop := c.winNT = none ∧ c.setPassword = none ∧ c.setInfo = none

variable (strPassword : Line)

theorem visit_noReply {c : Computer} (h : c.replied = false) (w : State) :
    (visit strPassword w c).1.vars = w.vars ∧ outcomes (visit strPassword w c).2 = [] := by
  simp only [visit, loopBody, h]
  split <;> exact ⟨rfl, rfl⟩

/-- The events of a reply. -/
def replyEvents (c : Computer) : List Event :=
  [.echo (.replyReceived c.name), .writeLine (.replyReceived c.name)]

/-- What `PWDChangeAdmin` does up to its first error, and the outcome it writes if it
has none, for the value of `Err` it is called with. -/
def adminEvents (c : Computer) (err : Option RuntimeError) : List Event :=
  match c.winNT, c.setPassword, c.setInfo with
  | some _, _, _ => []
  | none, some _, _ => []
  | none, none, some _ => [.setPassword c.name strPassword]
  | none, none, none =>
    [.setPassword c.name strPassword, .setInfo c.name] ++
      (match err with
      | none =>
        [.echo (.passwordChanged c.name), .echo .rule, .writeLine (.passwordChanged c.name), .writeLine .rule]
      | some e => [.writeLine (.error c.name e)]) ++
      [.echoEmpty]

section

variable {c : Computer} (h : c.replied = true)

include h

theorem loopBody_replied : loopBody strPassword c = onReply strPassword c := by
  have hp : c.ping ≠ [] := fun e => by simp [Computer.replied, e, hasText] at h
  rw [loopBody, if_neg hp, if_pos h]

/-- A computer that is bound to: `Err` is clear when its password is set. -/
theorem visit_bound (hw : c.winmgmts = none) (w : State) :
    (visit strPassword w c).1.vars = .object c.name ∧
      (visit strPassword w c).2 = replyEvents c ++ adminEvents strPassword c none := by
  rw [visit, loopBody_replied strPassword h]
  obtain ⟨name, ping, winmgmts, winNT, setPassword, setInfo⟩ := c
  subst hw
  cases winNT <;> cases setPassword <;> cases setInfo <;> exact ⟨rfl, rfl⟩

/-- One that is not, while the variable is bound to an earlier computer: `Err` holds the
error of the bind. -/
theorem visit_stale {e : RuntimeError} (hw : c.winmgmts = some e) {w : State} {host : Line}
    (hv : w.vars = .object host) :
    (visit strPassword w c).1.vars = .object host ∧
      (visit strPassword w c).2 = replyEvents c ++ adminEvents strPassword c (some e) := by
  rw [visit, loopBody_replied strPassword h]
  obtain ⟨name, ping, winmgmts, winNT, setPassword, setInfo⟩ := c
  obtain ⟨vars, err, events⟩ := w
  subst hw hv
  cases winNT <;> cases setPassword <;> cases setInfo <;> exact ⟨rfl, rfl⟩

/-- One that is not, while the variable was never set. -/
theorem visit_unbound {e : RuntimeError} (hw : c.winmgmts = some e) {w : State} (hv : w.vars = .empty) :
    (visit strPassword w c).1.vars = .empty ∧
      (visit strPassword w c).2 = replyEvents c ++ [.echo (.unableToBind c.name), .echo .rule,
        .writeLine (.unableToBind c.name), .writeLine .rule] := by
  rw [visit, loopBody_replied strPassword h]
  obtain ⟨name, ping, winmgmts, winNT, setPassword, setInfo⟩ := c
  obtain ⟨vars, err, events⟩ := w
  subst hw hv
  exact ⟨rfl, rfl⟩

end

/-! ## Truthful outcomes -/

/-- `PWDChangeAdmin` writes a truthful outcome just when its calls succeed and `Err`
was clear. -/
theorem truthful_admin (c : Computer) (err : Option RuntimeError) :
    Truthful strPassword c (replyEvents c ++ adminEvents strPassword c err) ↔ c.Sets ∧ err = none := by
  obtain ⟨name, ping, winmgmts, winNT, setPassword, setInfo⟩ := c
  cases winNT <;> cases setPassword <;> cases setInfo <;> cases err <;>
    simp [Truthful, replyEvents, adminEvents, outcomes, Entry.isOutcome, Computer.Sets]

theorem truthful_unbound (c : Computer) :
    Truthful strPassword c (replyEvents c ++ [.echo (.unableToBind c.name), .echo .rule,
      .writeLine (.unableToBind c.name), .writeLine .rule]) := by
  refine ⟨.unableToBind c.name, rfl, ?_⟩
  simp [replyEvents]

/-- A visit leaves the variable unset just when it was and the computer is not bound to. -/
theorem vars_visit (w : State) (c : Computer) : (visit strPassword w c).1.vars = .empty ↔
    w.vars = .empty ∧ (c.replied = true → c.winmgmts ≠ none) := by
  cases hr : c.replied with
  | false => simp [(visit_noReply strPassword hr w).1]
  | true =>
    cases hw : c.winmgmts with
    | none => simp [(visit_bound strPassword hr hw w).1]
    | some e =>
      cases hv : w.vars with
      | empty => simp [(visit_unbound strPassword hr hw hv).1]
      | object host => simp [(visit_stale strPassword hr hw hv).1]

theorem vars_after (cs : List Computer) (w : State) : (after (visit strPassword) w cs).vars = .empty ↔
    w.vars = .empty ∧ ∀ c ∈ cs, c.replied = true → c.winmgmts ≠ none := by
  induction cs generalizing w with
  | nil => simp
  | cons c cs ih => rw [after_cons, ih, vars_visit, List.forall_mem_cons, and_assoc]

/-- When a visit's outcome is truthful. -/
theorem truthful_visit {c : Computer} (h : c.replied = true) (w : State) :
    Truthful strPassword c (visit strPassword w c).2 ↔
      (c.winmgmts = none ∧ c.Sets) ∨ (c.winmgmts ≠ none ∧ w.vars = .empty) := by
  cases hw : c.winmgmts with
  | none =>
    rw [(visit_bound strPassword h hw w).2, truthful_admin]
    simp
  | some e =>
    cases hv : w.vars with
    | empty =>
      rw [(visit_unbound strPassword h hw hv).2]
      exact iff_of_true (truthful_unbound strPassword c) (.inr ⟨by simp, rfl⟩)
    | object host =>
      rw [(visit_stale strPassword h hw hv).2, truthful_admin]
      simp

/-- The log of a run holds a truthful outcome for each computer that replies, and none
for the others. -/
def LogTruthful (cs : List Computer) : Prop :=
  ∀ pre c post, cs = pre ++ c :: post →
    if c.replied then Truthful strPassword c (visit strPassword (after (visit strPassword) start pre) c).2
    else outcomes (visit strPassword (after (visit strPassword) start pre) c).2 = []

/-- The log is truthful just when every computer that replies either is bound to and has
its password set and stored, or is not bound to, and no computer before it was. -/
theorem log_truthful_iff (cs : List Computer) : LogTruthful strPassword cs ↔
    ∀ pre c post, cs = pre ++ c :: post → c.replied = true →
      (c.winmgmts = none ∧ c.Sets) ∨
        (c.winmgmts ≠ none ∧ ∀ d ∈ pre, d.replied = true → d.winmgmts ≠ none) := by
  have hs : start.vars = .empty := rfl
  refine forall_congr' fun pre => forall_congr' fun c => forall_congr' fun post => imp_congr_right fun _ => ?_
  cases hr : c.replied with
  | false => simp [(visit_noReply strPassword hr _).2]
  | true =>
    have hv := vars_after strPassword pre start
    rw [and_iff_right hs] at hv
    rw [if_pos rfl, truthful_visit strPassword hr, hv]
    exact ⟨fun h _ => h, fun h => h rfl⟩

/-- A computer whose calls all succeed. -/
def answers (name : Line) : Computer := ⟨name, "Reply from 10.0.0.1".toList, none, none, none, none⟩

/-- An error of a call. -/
def denied : RuntimeError := ⟨-2147024891, "Access is denied.".toList, by decide⟩

/-- A second computer whose winmgmts service fails: its password is set and stored, and
the log has an error. One whose SetInfo fails has no outcome at all. -/
theorem log_second :
    (¬ LogTruthful "pw".toList [answers "A".toList, { answers "B".toList with winmgmts := some denied }]) ∧
      outcomes (visit "pw".toList (visit "pw".toList start (answers "A".toList)).1
        { answers "B".toList with winmgmts := some denied }).2 = [.error "B".toList denied] ∧
      outcomes (visit "pw".toList start { answers "A".toList with setInfo := some denied }).2 = [] := by
  refine ⟨fun h => ?_, by decide, by decide⟩
  have hb := h [answers "A".toList] { answers "B".toList with winmgmts := some denied } [] rfl
  have hr : ({ answers "B".toList with winmgmts := some denied } : Computer).replied = true := by decide
  rw [if_pos hr, truthful_visit _ hr] at hb
  rcases hb with ⟨hw, -⟩ | ⟨-, hv⟩
  · cases hw
  · cases hv

end Espo.Password
