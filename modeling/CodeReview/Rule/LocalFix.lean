import CodeReview.Rule.Default

/-!
# Fixes that need no service

Some findings can be repaired line by line: a line with debugging output is dropped, and the first
whole word `var` of a declaration becomes `const`.  The findings are taken from the last line of
the text to the first, so that a dropped line moves no line that is still to be repaired; findings
of one line keep their order, and a line is dropped once.
-/

set_option autoImplicit false

namespace CodeReview.Rule

open CodeReview.Text Pattern

/-- A text under repair: its lines as they are now, the positions (from zero) of lines that were
dropped, and the number of repairs. -/
structure Repair where
  lines : List (List Char)
  dropped : List Nat
  applied : Nat
  deriving Repr, DecidableEq

/-- The line holds debugging output or a breakpoint. -/
def isDebugging (line : List Char) : Bool :=
  inLine consoleLog line || inLine debuggerWord line

/-- The line declares with `var`. -/
def isVarDeclaration (line : List Char) : Bool := inLine varDeclaration line

/-- The line with its first whole word `var` turned into `const`. -/
def varToConst (line : List Char) : List Char := replaceFirst varWord 3 "const".toList none line

/-- One finding repaired, if it has a line, and the line still stands and still shows the defect. -/
def Repair.step (r : Repair) (f : Finding) : Repair :=
  let i := f.line - 1
  if f.line = 0 ∨ r.dropped.contains i then r
  else match r.lines[i]? with
    | none => r
    | some line =>
      if f.category = "Code Quality" ∧ isDebugging line = true then
        { lines := r.lines.eraseIdx i, dropped := i :: r.dropped, applied := r.applied + 1 }
      else if f.category = "Best Practices" ∧ isVarDeclaration line = true then
        { r with lines := r.lines.set i (varToConst line), applied := r.applied + 1 }
      else r

/-- The findings that can be repaired, from the last line to the first. -/
def fixable (fs : List Finding) : List Finding :=
  (fs.filter (·.autoFixable)).mergeSort fun f g => g.line ≤ f.line

/-- The text with its findings repaired, and the number of repairs. -/
def applyFixes (text : String) (fs : List Finding) : String × Nat :=
  let r := (fixable fs).foldl Repair.step ⟨lines text.toList, [], 0⟩
  (String.ofList (unlines r.lines), r.applied)

end CodeReview.Rule
