import Mathlib.Data.List.TakeWhile

/-!
# Text in cmd.exe

Lines of characters, and what the command processor does with them: text
files with `>` and `>>` (`TextFile`), `for /F "tokens=*"` (`forFAll`),
`for /F "tokens=1,2,3* delims=…"` (`forFTokens`), substring expansion
(`expandSubstr`), `set` and `echo`.

A text file is its complete lines and what follows the last line break, so
that a line appended to a file that ends in the middle of a line continues
that line, as `>>` does.
-/

namespace Espo.Cmd

abbrev Line := List Char

/-- A line that holds a text. -/
def hasText (pat : Line) : Line → Bool
  | [] => pat.isEmpty
  | c :: l => pat.isPrefixOf (c :: l) || hasText pat l

theorem hasText_iff {pat : Line} : ∀ {l : Line}, hasText pat l = true ↔ pat <:+: l
  | [] => by simp [hasText]
  | c :: l => by
    rw [hasText, Bool.or_eq_true, List.isPrefixOf_iff_prefix, hasText_iff, List.infix_cons_iff]

/-! ## Text files -/

/-- A text file: the complete lines, and the text after the last line break. -/
structure TextFile where
  full : List Line
  rest : Line
deriving DecidableEq

namespace TextFile

/-- The empty file. -/
def empty : TextFile := ⟨[], []⟩

/-- A file of complete lines. -/
def ofLines (ls : List Line) : TextFile := ⟨ls, []⟩

/-- The lines of a file; the last one may lack its line break. -/
def lines (f : TextFile) : List Line := if f.rest = [] then f.full else f.full ++ [f.rest]

/-- A line appended (`echo line >> file`). -/
def append (f : TextFile) (l : Line) : TextFile := ⟨f.full ++ [f.rest ++ l], []⟩

/-- The text of a file appended (`type g >> file`). -/
def appendFile (f g : TextFile) : TextFile :=
  match g.full with
  | [] => ⟨f.full, f.rest ++ g.rest⟩
  | l :: ls => ⟨f.full ++ (f.rest ++ l) :: ls, g.rest⟩

@[simp] theorem lines_empty : empty.lines = [] := rfl

@[simp] theorem lines_ofLines (ls : List Line) : (ofLines ls).lines = ls := rfl

theorem lines_of_rest_nil {f : TextFile} (h : f.rest = []) : f.lines = f.full := by
  rw [lines, if_pos h]

/-- A file without lines is empty. -/
theorem lines_eq_nil : ∀ {f : TextFile}, f.lines = [] → f = empty
  | ⟨full, r⟩, h => by
    rw [lines] at h
    split at h
    · rename_i hr
      obtain rfl : r = [] := hr
      obtain rfl : full = [] := h
      rfl
    · simp at h

/-- Lines appended to a file that ends with a line break. -/
theorem foldl_append_of_rest_nil : ∀ (ls : List Line) {f : TextFile}, f.rest = [] →
    ls.foldl append f = ofLines (f.full ++ ls)
  | [], ⟨full, _⟩, h => by subst h; simp [ofLines]
  | l :: ls, ⟨full, _⟩, h => by
    subst h
    rw [List.foldl_cons, foldl_append_of_rest_nil ls rfl]
    simp [append]

/-- Complete lines appended to complete lines. -/
theorem appendFile_ofLines : ∀ ls ms : List Line, (ofLines ls).appendFile (ofLines ms) = ofLines (ls ++ ms)
  | ls, [] => by simp [appendFile, ofLines]
  | _, _ :: _ => rfl

end TextFile

/-- The lines of a file that may be missing. -/
def linesOf : Option TextFile → List Line
  | none => []
  | some f => f.lines

@[simp] theorem linesOf_none : linesOf none = [] := rfl
@[simp] theorem linesOf_some (f : TextFile) : linesOf (some f) = f.lines := rfl

theorem linesOf_eq (f : Option TextFile) : linesOf f = (f.getD .empty).lines := by
  cases f <;> rfl

/-- `>>`: the file is created if it is missing. -/
def appendTo (f : Option TextFile) (l : Line) : Option TextFile := some ((f.getD .empty).append l)

/-- Lines appended to a file that is missing or ends with a line break. -/
theorem linesOf_foldl_appendTo (ls : List Line) {f : Option TextFile} (h : (f.getD .empty).rest = []) :
    linesOf (ls.foldl appendTo f) = linesOf f ++ ls := by
  have go : ∀ (ls : List Line) (f : TextFile), ls.foldl appendTo (some f) = some (ls.foldl .append f) := by
    intro ls
    induction ls with
    | nil => intro f; rfl
    | cons l ls ih => intro f; exact ih _
  cases ls with
  | nil => simp
  | cons l ls =>
    have h' : ((f.getD .empty).append l).rest = [] := rfl
    rw [List.foldl_cons, appendTo, go, TextFile.foldl_append_of_rest_nil ls h']
    cases f with
    | none => simp [TextFile.append, TextFile.empty]
    | some f =>
      have hr : f.rest = [] := h
      simp [TextFile.append, TextFile.lines_of_rest_nil hr, hr]

/-! ## Variables -/

/-- The substring `~n,m`: `m` characters from the `n`-th on. -/
def substr (n m : Nat) (v : Line) : Line := (v.drop n).take m

/-- `set var=v`: an empty value leaves the variable undefined. -/
def setVar (v : Line) : Option Line := if v = [] then none else some v

/-- `!var:~n,m!`; of an undefined variable the modifier is left as text. -/
def expandSubstr (n m : Nat) : Option Line → Line
  | none => '~' :: Nat.toDigits 10 n ++ ',' :: Nat.toDigits 10 m
  | some v => substr n m v

theorem expandSubstr_setVar {v : Line} (h : v ≠ []) (n m : Nat) :
    expandSubstr n m (setVar v) = substr n m v := by
  simp only [setVar, if_neg h, expandSubstr]

/-! ## `for /F` -/

/-- The default delimiters. -/
def isBlank (c : Char) : Bool := c == ' ' || c == '\t'

/-- A line as `for /F` reads it: carriage returns before the line break are
part of the line break. -/
def chomp (l : Line) : Line := (l.reverse.dropWhile (· == '\r')).reverse

theorem prefix_chomp (l : Line) : chomp l <+: l := by
  have h := List.reverse_prefix.mpr (List.dropWhile_suffix (l := l.reverse) (· == '\r'))
  rwa [List.reverse_reverse] at h

theorem chomp_eq_nil_iff {l : Line} : chomp l = [] ↔ ∀ c ∈ l, c = '\r' := by
  rw [chomp, List.reverse_eq_nil_iff, List.dropWhile_eq_nil_iff]
  simp

/-- The value `for /F "tokens=*"` binds on a line, if it runs its body:
leading blanks are dropped, empty lines and lines that then begin with the
default `eol` character `;` are skipped. -/
def forFLine (l : Line) : Option Line :=
  if chomp l = [] then none
  else if ((chomp l).dropWhile isBlank).head? = some ';' then none
  else some ((chomp l).dropWhile isBlank)

/-- The values `for /F "tokens=*"` binds on the lines of a file. -/
def forFAll (ls : List Line) : List Line := ls.filterMap forFLine

theorem chomp_of_getLast {l : Line} (h : l.getLast? ≠ some '\r') : chomp l = l := by
  have : l.reverse.dropWhile (· == '\r') = l.reverse :=
    List.dropWhile_beq_eq_self_of_head?_ne (by rwa [List.head?_reverse])
  rw [chomp, this, List.reverse_reverse]

/-- A line that begins with a character that is neither a blank nor `;`, and
does not end in a carriage return, is bound whole. -/
theorem forFLine_cons {c : Char} {l : Line} (hb : isBlank c = false) (hs : c ≠ ';')
    (hl : (c :: l).getLast? ≠ some '\r') : forFLine (c :: l) = some (c :: l) := by
  simp only [forFLine, chomp_of_getLast hl, reduceCtorEq, if_false, List.dropWhile_cons, hb,
    Bool.false_eq_true, List.head?_cons, Option.some.injEq, hs]

/-- The next token of a line, and what follows it. -/
def token (d : Char → Bool) (l : Line) : Line × Line :=
  ((l.dropWhile d).takeWhile (fun c => !d c), (l.dropWhile d).dropWhile (fun c => !d c))

/-- The loop variables of `for /F "tokens=1,2,3* delims=…"` on a line: runs
of delimiters count as one, leading ones are skipped, and the body does not
run on a line without a token or whose first token begins with the default
`eol` character. -/
def forFTokens (d : Char → Bool) (l : Line) : Option (Line × Line × Line) :=
  let t₁ := token d l
  let t₂ := token d t₁.2
  let t₃ := token d t₂.2
  if t₁.1 = [] ∨ t₁.1.head? = some ';' then none else some (t₁.1, t₂.1, t₃.1)

/-! ## `echo` -/

/-- What `echo` prints for no text. -/
def echoStatus : Line := "ECHO is off.".toList

/-- The line `echo` prints for a text; for blanks only, its status. -/
def echo (t : Line) : Line := if t.all isBlank then echoStatus else t

end Espo.Cmd
