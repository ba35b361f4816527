import ClientGen.Client.DryRun
import ClientGen.Proofs.Code.Clauses

/-
  The code of dry runs as it is carried out, clause by
  clause.

  Main declarations include:
    * `condition?`
    * `Head.ofTokens`
    * `Head.entry`
    * `Surroundings`
    * `statement?`
    * `execute`
    * `methodOutcome`

  This reads as much of the language as dry runs are written
  in: declarations, calls of the handler, errors that are
  thrown, results, tests one on failure of the other, and
  blocks that catch the service's error.  Whatever else is
  written has no meaning here.
-/

namespace ClientGen.Client.DryRun

open ClientGen.Java ClientGen.Model

------------------------------------------------------------
-- Conditions
------------------------------------------------------------

/- The errors that have been caught, by variable. -/
abbrev Errors :=
  List (String × ServiceError)

/- What is written between logical ands. -/
def conjuncts : List Token → List (List Token)
  | [] => [[]]
  | .symbol '&' :: .symbol '&' :: rest => [] :: conjuncts rest
  | t :: rest =>
      match conjuncts rest with
      | first :: others => (t :: first) :: others
      | [] => [[t]]

/- Whether an error has the code, or the status. -/
def compared?
    (errors : Errors) :
    List Token → Option Bool
  | [.word v, .symbol '.', .word "getErrorCode", .symbol '(',
      .symbol ')', .symbol '.', .word "equals", .symbol '(',
      .literal code, .symbol ')'] => do
      let e ← errors.lookup v
      some (e.errorCode == code)
  | [.word v, .symbol '.', .word "getStatusCode", .symbol '(',
      .symbol ')', .symbol '=', .symbol '=', .word digits] => do
      let e ← errors.lookup v
      let n ← numeral? digits
      some (e.statusCode == n)
  | _ => none

/- Whether all comparisons hold. -/
def condition?
    (errors : Errors)
    (ts : List Token) :
    Option Bool := do
  let results ← (conjuncts ts).mapM (compared? errors)
  some (results.all id)

------------------------------------------------------------
-- Blocks
------------------------------------------------------------

/-
  The head of a block: one that is tried, one that handles
  an error of the service, a test, and a test to be made
  where those before it have failed.
-/
inductive Head where
  | attempt
  | handle (v : String)
  | test (condition : List Token)
  | otherwise (condition : List Token)
  deriving DecidableEq, Repr

/- The tokens in front of a bracket that closes. -/
def beforeBracket?
    (ts : List Token) :
    Option (List Token) :=
  if ts.getLast? = some (.symbol ')') then some ts.dropLast
  else none

/- The head that is written. -/
def Head.ofTokens : List Token → Option Head
  | [.word "try"] => some .attempt
  | [.word "catch", .symbol '(', .type t, .word v,
      .symbol ')'] =>
      if t = .class Sdk.amazonServiceException then
        some (.handle v)
      else none
  | .word "if" :: .symbol '(' :: rest =>
      (beforeBracket? rest).map .test
  | .word "else" :: .word "if" :: .symbol '(' :: rest =>
      (beforeBracket? rest).map .otherwise
  | _ => none

/-
  What stands before a clause: a test, and whether it or one
  before it has held; a block that was tried, and the error
  it has thrown, if any; or nothing that matters.
-/
inductive Before where
  | other
  | tested (taken : Bool)
  | attempted (thrown : Option ServiceError)
  deriving DecidableEq, Repr

/- The error that no one has handled so far. -/
def Before.thrown? : Before → Option ServiceError
  | .attempted thrown => thrown
  | _ => none

/-
  What happens at a block: it is entered with the errors, or
  passed by, or left behind by an error.  The first two go
  on to what follows the block.
-/
inductive Entry where
  | enter (errors : Errors) (after : Before)
  | skip (after : Before)
  | leave (e : ServiceError)
  deriving DecidableEq, Repr

/- A block behind a test is entered if the test holds. -/
def entryOfTest
    (errors : Errors)
    (ts : List Token) :
    Option Entry := do
  let holds ← condition? errors ts
  some (if holds then .enter errors (.tested true)
    else .skip (.tested false))

/- What happens at the block with that head. -/
def Head.entry
    (errors : Errors) :
    Head → Before → Option Entry
  | .handle v, .attempted (some e) =>
      some (.enter ((v, e) :: errors) .other)
  | .handle _, .attempted none => some (.skip .other)
  | .handle _, _ => none
  | _, .attempted (some e) => some (.leave e)
  | .attempt, _ => some (.enter errors (.attempted none))
  | .test ts, _ => entryOfTest errors ts
  | .otherwise ts, .tested false => entryOfTest errors ts
  | .otherwise _, .tested true => some (.skip (.tested true))
  | .otherwise _, _ => none

------------------------------------------------------------
-- Statements
------------------------------------------------------------

/-
  What code is carried out in: the type of results, the
  variable with the request, and the service's response.
-/
structure Surroundings where
  result : TypeName
  request : String
  response : Response
  deriving DecidableEq

/- The truth value of a word. -/
def truth? : String → Option Bool
  | "true" => some true
  | "false" => some false
  | _ => none

/-
  How a statement ends.  What is thrown by the statement
  itself is no error of the service and ends the method: the
  blocks that catch anything catch errors of the service.
-/
def statement?
    (x : Surroundings)
    (errors : Errors) :
    List Token → Option Completion
  | .type _ :: .word _ :: .symbol '=' :: _ => some .next
  | .word "clientHandler" :: .symbol '.' :: .word "execute" ::
      .symbol '(' :: _ =>
      match x.response with
      | .completed => some .next
      | .failed e => some (.thrown e)
  | [.word "throw", .word "new", .type t, .symbol '(',
      .literal message, .symbol ')'] =>
      if t = .class Sdk.amazonClientException then
        some (.ended (.clientError message false))
      else none
  | [.word "throw", .word "new", .type t, .symbol '(',
      .literal message, .symbol ',', .word cause,
      .symbol ')'] =>
      if t = .class Sdk.amazonClientException then do
        let _ ← errors.lookup cause
        some (.ended (.clientError message true))
      else none
  | [.word "return", .word "new", .type t, .symbol '(',
      .word flag, .symbol ',', .word request, .symbol ',',
      .word v, .symbol '.', .word "getMessage", .symbol '(',
      .symbol ')', .symbol ',', .word cause, .symbol ')'] =>
      if t = x.result ∧ request = x.request then do
        let wouldSucceed ← truth? flag
        let e ← errors.lookup v
        let _ ← errors.lookup cause
        some (.ended (.result wouldSucceed e.message))
      else none
  | _ => none

------------------------------------------------------------
-- Execution
------------------------------------------------------------

/-
  Carry out clauses in turn.  A block that throws an error
  hands it to what follows if it was tried.
-/
def execute
    (x : Surroundings)
    (errors : Errors)
    (before : Before) :
    List Clause → Option Completion
  | [] => some (before.thrown?.elim .next .thrown)
  | .simple ts :: rest =>
      match before.thrown? with
      | some e => some (.thrown e)
      | none =>
          match statement? x errors ts with
          | some .next => execute x errors .other rest
          | completion => completion
  | .braced head body :: rest =>
      match (Head.ofTokens head).bind (·.entry errors before) with
      | none => none
      | some (.leave e) => some (.thrown e)
      | some (.skip after) => execute x errors after rest
      | some (.enter inner after) =>
          match execute x inner .other body with
          | some .next => execute x errors after rest
          | some (.thrown e) =>
              if after = .attempted none then
                execute x errors (.attempted (some e)) rest
              else some (.thrown e)
          | completion => completion

/- What a method of one parameter is carried out in. -/
def surroundings?
    (m : Method)
    (response : Response) :
    Option Surroundings :=
  match m.parameters with
  | [request] => some ⟨m.returns, request.name, response⟩
  | _ => none

/- What the caller gets once a method has been ended. -/
def Completion.outcome? : Completion → Option Outcome
  | .ended outcome => some outcome
  | _ => none

/-
  What a method comes to on a response, if its body can be
  read and ends it.
-/
def methodOutcome
    (m : Method)
    (response : Response) :
    Option Outcome := do
  let x ← surroundings? m response
  let clauses ← m.body.clauses
  let completion ← execute x [] .other clauses
  completion.outcome?

------------------------------------------------------------
-- Steps
------------------------------------------------------------

/- What follows is carried out if a completion goes on. -/
def Completion.followedBy
    (completion : Completion)
    (following : Option Completion) :
    Option Completion :=
  match completion with
  | .next => following
  | completion => some completion

/- What follows a block that was tried is handed its error. -/
def Completion.handedTo
    (completion : Completion)
    (following : Before → Option Completion) :
    Option Completion :=
  match completion with
  | .next => following (.attempted none)
  | .thrown e => following (.attempted (some e))
  | .ended outcome => some (.ended outcome)

variable {x : Surroundings}
variable {errors : Errors}
variable {before after : Before}

/- Without an error at hand nothing is left to be done. -/
theorem execute_nil
    (hBefore : before.thrown? = none) :
    execute x errors before [] = some .next := by
  rw [execute, hBefore]
  rfl

/- A statement is carried out, then what follows it. -/
theorem execute_simple
    {ts : List Token}
    {completion : Completion}
    (hBefore : before.thrown? = none)
    (hStatement : statement? x errors ts = some completion)
    (rest : List Clause) :
    execute x errors before (.simple ts :: rest) =
      completion.followedBy (execute x errors .other rest) := by
  rw [execute, hBefore]
  simp only [hStatement]
  cases completion <;> rfl

/- A block that is passed by is not carried out. -/
theorem execute_skip
    {head : List Token}
    {h : Head}
    (hHead : Head.ofTokens head = some h)
    (hEntry : h.entry errors before = some (.skip after))
    (body rest : List Clause) :
    execute x errors before (.braced head body :: rest) =
      execute x errors after rest := by
  rw [execute, hHead, Option.bind_some, hEntry]

/- A block that is entered and not tried is, then the rest. -/
theorem execute_enter
    {head : List Token}
    {h : Head}
    {inner : Errors}
    {body : List Clause}
    {completion : Completion}
    (hHead : Head.ofTokens head = some h)
    (hEntry : h.entry errors before = some (.enter inner after))
    (hAfter : after ≠ .attempted none)
    (hBody :
      execute x inner .other body = some completion)
    (rest : List Clause) :
    execute x errors before (.braced head body :: rest) =
      completion.followedBy (execute x errors after rest) := by
  rw [execute, hHead, Option.bind_some, hEntry]
  simp only [hBody]
  cases completion with
  | next => rfl
  | ended outcome => rfl
  | thrown e =>
      simp only [if_neg hAfter]
      rfl

/- Where a block is tried its error goes to what follows. -/
theorem execute_attempt
    {head : List Token}
    {body : List Clause}
    {completion : Completion}
    (hHead : Head.ofTokens head = some .attempt)
    (hBefore : before.thrown? = none)
    (hBody :
      execute x errors .other body = some completion)
    (rest : List Clause) :
    execute x errors before (.braced head body :: rest) =
      completion.handedTo (execute x errors · rest) := by
  have hEntry :
      Head.attempt.entry errors before =
        some (.enter errors (.attempted none)) := by
    cases before with
    | other => rfl
    | tested taken => rfl
    | attempted thrown =>
        cases hBefore
        rfl
  rw [execute, hHead, Option.bind_some, hEntry]
  simp only [hBody]
  cases completion <;> rfl

end ClientGen.Client.DryRun
