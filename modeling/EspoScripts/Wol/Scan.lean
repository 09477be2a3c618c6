import EspoScripts.Framework.CmdText

/-!
# The MAC extraction of imagecaster.bat and macextract.bat

Both scripts cut the MACs out of a switch's log `test.txt` in the same six
stages, through the scratch files `testmac.txt`, `testmac3.txt` and
`testmac4.txt` (`Dir`), and hand each to `wol.exe`. `extract` is these
stages in order; `macextract` is macextract.bat.

Every stage works line by line, so what a line of the log makes the scripts
hand over is a function of that line (`scanLine`), and the addresses handed
over are those of the lines after the 27th, behind whatever a left-over
`testmac3.txt` contributes (`addresses_extract`).

A line is taken to hold no `!`, which delayed expansion would expand as well
when `set` reads the line.
-/

namespace Espo.Wol

open Espo.Cmd

/-- The files of the working directory the extraction uses. -/
structure Dir where
  test : Option TextFile
  testmac : Option TextFile
  testmac3 : Option TextFile
  testmac4 : Option TextFile

/-- `more +27 test.txt >testmac.txt`. -/
def moreTest (d : Dir) : Dir := { d with testmac := some (.ofLines ((linesOf d.test).drop 27)) }

/-- The first loop's body: `set mactester=%%A` and what
`echo !mactester:~3,13! >>testmac3.txt` appends. -/
def cut (v : Line) : Line := echo (expandSubstr 3 13 (setVar v) ++ [' '])

/-- The first loop, over `testmac.txt`. -/
def cutLines (d : Dir) : Dir :=
  { d with testmac3 := (forFAll (linesOf d.testmac)).foldl (fun f v => appendTo f (cut v)) d.testmac3 }

/-- The characters of `[0-9A-F]`. -/
def isUpperHex (c : Char) : Bool := c.isDigit || (decide ('A' ≤ c) && decide (c ≤ 'F'))

/-- `findstr /R /C:"[0-9A-F]" testmac3.txt > testmac4.txt`. -/
def findMacs (d : Dir) : Dir :=
  { d with testmac4 := some (.ofLines ((linesOf d.testmac3).filter (·.any isUpperHex))) }

/-- The second loop's body: `set mactester=%%A` and the argument of
`wol.exe !mactester:~0,13!`. -/
def address (v : Line) : Line := expandSubstr 0 13 (setVar v)

/-- The arguments the second loop, over `testmac4.txt`, hands to `wol.exe`. -/
def addresses (d : Dir) : List Line := (forFAll (linesOf d.testmac4)).map address

/-- From `del testmac4.txt` to the `findstr`. -/
def extract (d : Dir) : Dir := findMacs (cutLines (moreTest { d with testmac4 := none }))

/-- `del testmac.txt`, `del testmac3.txt`. -/
def delScratch (d : Dir) : Dir := { d with testmac := none, testmac3 := none }

/-- macextract.bat: the directory it leaves and the arguments it hands to
`wol.exe`. -/
def macextract (d : Dir) : Dir × List Line := (delScratch (extract d), addresses (extract d))

/-! ## Line by line -/

/-- What a line of `testmac3.txt` makes the scripts hand over. -/
def handOver (c : Line) : Option Line :=
  if c.any isUpperHex then (forFLine c).map address else none

/-- What a line of the log makes the scripts hand over. -/
def scanLine (l : Line) : Option Line := (forFLine l).bind fun v => handOver (cut v)

/-- What the lines of the log make the scripts hand over. -/
def scan (ls : List Line) : List Line := ls.filterMap scanLine

theorem scan_append (ls ms : List Line) : scan (ls ++ ms) = scan ls ++ scan ms :=
  List.filterMap_append

theorem addresses_findMacs (d : Dir) : addresses (findMacs d) = (linesOf d.testmac3).filterMap handOver := by
  simp only [addresses, findMacs, linesOf_some, TextFile.lines_ofLines, forFAll]
  rw [List.filterMap_filter, List.map_filterMap]
  refine congrArg (fun f => List.filterMap f _) (funext fun c => ?_)
  unfold handOver
  split <;> rfl

/-- The lines of `testmac3.txt` after the first loop. -/
theorem testmac3_extract {d : Dir} (h : (d.testmac3.getD .empty).rest = []) :
    linesOf (extract d).testmac3 =
      linesOf d.testmac3 ++ (forFAll ((linesOf d.test).drop 27)).map cut := by
  rw [← linesOf_foldl_appendTo _ h, List.foldl_map]
  rfl

/-- The addresses handed over: those a left-over `testmac3.txt` contributes,
then those of the lines of the log after the 27th. -/
theorem addresses_extract {d : Dir} (h : (d.testmac3.getD .empty).rest = []) :
    addresses (extract d) =
      (linesOf d.testmac3).filterMap handOver ++ scan ((linesOf d.test).drop 27) := by
  have e : addresses (extract d) = (linesOf (extract d).testmac3).filterMap handOver :=
    addresses_findMacs _
  rw [e, testmac3_extract h, List.filterMap_append, List.filterMap_map, forFAll, List.filterMap_filterMap]
  rfl

end Espo.Wol
