import CodeReview.Rule.Basic

/-!
# The rules

The eight rules a review applies, in their order.  Seven look at each line for itself; all but two
of those leave lines alone that hold only a line comment.  The rule about empty catch blocks looks
at the line that follows as well.
-/

set_option autoImplicit false

namespace CodeReview.Rule

open CodeReview.Text Pattern

/-- A rule that flags the lines in which a pattern occurs. -/
def flagsPattern (pattern : Place) : String → List Char → List (List Char) → Bool :=
  fun _ line _ => inLine pattern line

/-- The same, line comments left alone. -/
def flagsCode (pattern : Place) : String → List Char → List (List Char) → Bool :=
  fun _ line _ => !isLineComment line && inLine pattern line

/-- The same, in files with one of some endings. -/
def flagsCodeIn (endings : List String) (pattern : Place) :
    String → List Char → List (List Char) → Bool :=
  fun path line following =>
    endings.any (fun e => endsWith e.toList path.toList)
      && flagsCode pattern path line following

/-- The first line that is not blank holds a closing brace and nothing else. -/
def closesNext (following : List (List Char)) : Bool :=
  match following.dropWhile isAllBlank with
  | [] => false
  | line :: _ => trim line == ['\x7d']

/-- A catch block is opened in this line, and the next line that is not blank only closes it. -/
def flagsEmptyCatch : String → List Char → List (List Char) → Bool :=
  fun _ line following => inLine catchOpening line && closesNext following

/-- Calls of `eval`. -/
def noEval : Rule where
  id := "no-eval"
  name := "Avoid eval() usage"
  category := "Security"
  severity := .critical
  kind := .error
  message := "Usage of eval() is dangerous and should be avoided"
  suggestedFix := "Consider using safer alternatives like JSON.parse() or Function constructor"
  autoFixable := false
  flags := flagsPattern evalCall

/-- Calls of `console.log`. -/
def noConsoleLog : Rule where
  id := "no-console-log"
  name := "Remove console.log statements"
  category := "Code Quality"
  severity := .low
  kind := .warning
  message := "console.log should be removed in production code"
  suggestedFix := "Remove or replace with proper logging framework"
  autoFixable := true
  flags := flagsCode consoleLogCall

/-- Declarations with `var`. -/
def noVar : Rule where
  id := "no-var"
  name := "Use let/const instead of var"
  category := "Best Practices"
  severity := .medium
  kind := .warning
  message := "Use let or const instead of var"
  suggestedFix := "Replace var with const (or let if reassigned)"
  autoFixable := true
  flags := flagsCode varDeclaration

/-- The type `any`, in TypeScript files. -/
def noAnyType : Rule where
  id := "no-any-type"
  name := "Avoid using any type in TypeScript"
  category := "Type Safety"
  severity := .medium
  kind := .warning
  message := "Avoid using \"any\" type - use specific types instead"
  suggestedFix := "Define a proper interface or use unknown with type guards"
  autoFixable := false
  flags := flagsCodeIn [".ts", ".tsx"] anyType

/-- Catch blocks with nothing in them. -/
def noEmptyCatch : Rule where
  id := "no-empty-catch"
  name := "Empty catch blocks"
  category := "Error Handling"
  severity := .high
  kind := .error
  message := "Empty catch block - errors are silently ignored"
  suggestedFix := "Add error logging or proper error handling"
  autoFixable := false
  flags := flagsEmptyCatch

/-- Credentials written into the code. -/
def noHardcodedCredentials : Rule where
  id := "no-hardcoded-credentials"
  name := "Detect hardcoded credentials"
  category := "Security"
  severity := .critical
  kind := .error
  message := "Possible hardcoded credential detected"
  suggestedFix := "Use environment variables or secure secret management"
  autoFixable := false
  flags := flagsCode credential

/-- Comments that announce work. -/
def noTodoComments : Rule where
  id := "no-todo-comments"
  name := "Unresolved TODO comments"
  category := "Code Quality"
  severity := .low
  kind := .info
  message := "Unresolved TODO comment found"
  suggestedFix := "Address the TODO or create a tracking issue"
  autoFixable := false
  flags := flagsPattern todoComment

/-- The statement `debugger`. -/
def noDebugger : Rule where
  id := "no-debugger"
  name := "Remove debugger statements"
  category := "Code Quality"
  severity := .high
  kind := .error
  message := "debugger statement should be removed"
  suggestedFix := "Remove the debugger statement"
  autoFixable := true
  flags := flagsCode debuggerWord

/-- The rules of a review, in order. -/
def defaults : List Rule :=
  [noEval, noConsoleLog, noVar, noAnyType, noEmptyCatch, noHardcodedCredentials, noTodoComments,
    noDebugger]

/-- The rule with this id. -/
def ofId? (id : String) : Option Rule := defaults.find? (·.id == id)

/-- What the rules of a review say of a text. -/
def scanText (text path : String) : List Finding := scan defaults text path

end CodeReview.Rule
