import ClientGen.Proofs.Client.CheckedNames
import ClientGen.Proofs.Client.DryRunExecution
import ClientGen.Proofs.Client.Members
import ClientGen.Proofs.Client.Declared

/-
  The method for dry runs tells what the service's response
  means.

  Main declarations include:
    * `Statement.clauses`
    * `Statement.comprises`
    * `Statement.isScoped`
    * `Statement.performs`
    * `run_program`
    * `dryRun_classifies`

  Statements are written, read back clause by clause, and
  carried out as they are meant, whatever they are nested
  in.  The program of the method is one of them, and running
  it looks the response up in the list of signals.
-/

namespace ClientGen.Client.DryRun

open ClientGen.Java ClientGen.Model Code

------------------------------------------------------------
-- Statements as Clauses
------------------------------------------------------------

/- The type of what the request is sent with. -/
def executionParams :
    TypeName :=
  .generic Sdk.clientExecutionParams [
    sentRequest,
    .generic Sdk.amazonWebServiceResponse
      [.class voidClass]]

/- What the request is sent with, set one by one. -/
def executionSettings :
    List Token :=
  [.symbol '(', .symbol ')', .symbol '.',
    .word "withMarshaller", .symbol '(', .word "input",
    .symbol '-', .symbol '>', .word "input", .symbol ')',
    .symbol '.', .word "withResponseHandler", .symbol '(',
    .word responseHandlerVariable, .symbol ')', .symbol '.',
    .word "withErrorResponseHandler", .symbol '(',
    .word errorHandlerVariable, .symbol ')', .symbol '.',
    .word "withInput", .symbol '(', .word "dryRunRequest",
    .symbol ')', .symbol ')']

/- The tokens of the call that sends the request. -/
def executionTokens :
    List Token :=
  [.word clientHandlerField, .symbol '.', .word "execute",
    .symbol '(', .word "new", .type executionParams] ++
  executionSettings

/- The tokens that throw an error of the client. -/
def throwTokens
    (message : String)
    (hasCause : Bool) :
    List Token :=
  [.word "throw", .word "new",
    .type (.class Sdk.amazonClientException), .symbol '(',
    .literal message] ++
  (if hasCause then [.symbol ',', .word "ase", .symbol ')']
    else [.symbol ')'])

/- The tokens that return a result. -/
def returnTokens
    (names : Names)
    (wouldSucceed : Bool) :
    List Token :=
  [.word "return", .word "new", .type (resultType names),
    .symbol '(', .word (boolText wouldSucceed), .symbol ',',
    .word "request", .symbol ',', .word "ase", .symbol '.',
    .word "getMessage", .symbol '(', .symbol ')', .symbol ',',
    .word "ase", .symbol ')']

/- The tokens that compare an error with a signal. -/
def Signal.conditionTokens
    (signal : Signal) :
    List Token :=
  [.word "ase", .symbol '.', .word "getErrorCode",
    .symbol '(', .symbol ')', .symbol '.', .word "equals",
    .symbol '(', .literal signal.errorCode, .symbol ')',
    .symbol '&', .symbol '&', .word "ase", .symbol '.',
    .word "getStatusCode", .symbol '(', .symbol ')',
    .symbol '=', .symbol '=',
    .word (toString signal.statusCode)]

/- The tokens of the test for a signal. -/
def Signal.testTokens
    (signal : Signal) :
    List Token :=
  [.word "if", .symbol '('] ++ signal.conditionTokens ++
    [.symbol ')']

/- The tokens in front of what handles an error. -/
def catchTokens :
    List Token :=
  [.word "catch", .symbol '(',
    .type (.class Sdk.amazonServiceException), .word "ase",
    .symbol ')']

mutual

/- The clauses of a statement. -/
def Statement.clauses
    (names : Names) :
    Statement → List Clause
  | .execute => [.simple executionTokens]
  | .throwClientError message hasCause =>
      [.simple (throwTokens message hasCause)]
  | .returnResult wouldSucceed =>
      [.simple (returnTokens names wouldSucceed)]
  | .testSignals tests => testClauses names [] tests
  | .tryCatch body handler =>
      [.braced [.word "try"] (allClauses names body),
        .braced catchTokens (allClauses names handler)]

/- The clauses of statements one after the other. -/
def allClauses
    (names : Names) :
    List Statement → List Clause
  | [] => []
  | first :: rest =>
      first.clauses names ++ allClauses names rest

/-
  The clauses of tests.  In front of the first test stands
  what is given, and a word in front of the others.
-/
def testClauses
    (names : Names)
    (lead : List Token) :
    List (Signal × Statement) → List Clause
  | [] => []
  | (signal, reaction) :: rest =>
      .braced (lead ++ signal.testTokens)
          (reaction.clauses names) ::
        testClauses names [.word "else"] rest

end

------------------------------------------------------------
-- Reading Statements Back
------------------------------------------------------------

variable (names : Names)

/- The call that sends the request is read as such. -/
theorem comprises_execution :
    Comprises executionParts [.simple executionTokens] := by
  have hCall :
      Reads [.text (clientHandlerField ++ ".execute(new ")]
        [.word clientHandlerField, .symbol '.',
          .word "execute", .symbol '(', .word "new"] :=
    rfl
  have hSettings :
      Reads
        ([.text "()\n", .indent, .indent] ++
          executionParts.drop 5)
        (executionSettings ++ [.symbol ';']) := by
    unfold Reads
    decide +kernel
  exact .simple
    (hCall.append ((reads_type executionParams).append
      hSettings)) rfl

/- So is an error that is thrown. -/
theorem comprises_throw
    (message : String)
    (hasCause : Bool) :
    Comprises
      ((Statement.throwClientError message hasCause).parts
        names)
      [.simple (throwTokens message hasCause)] := by
  have hThrow :
      Reads [.text "throw new "]
        [.word "throw", .word "new"] :=
    rfl
  have hOpen : Reads [.text "("] [.symbol '('] :=
    rfl
  have hMessage :=
    hThrow.append ((reads_type
      (.class Sdk.amazonClientException)).append
        (hOpen.append (reads_quotedText message)))
  cases hasCause with
  | true =>
      have hCause :
          Reads [.text ", ase)"]
            [.symbol ',', .word "ase", .symbol ')'] :=
        rfl
      exact .statement (hMessage.append hCause) rfl
  | false =>
      have hClose : Reads [.text ")"] [.symbol ')'] :=
        rfl
      exact .statement (hMessage.append hClose) rfl

/- So is a result that is returned. -/
theorem comprises_return
    (wouldSucceed : Bool) :
    Comprises
      ((Statement.returnResult wouldSucceed).parts names)
      [.simple (returnTokens names wouldSucceed)] := by
  have hReturn :
      Reads [.text "return new "]
        [.word "return", .word "new"] :=
    rfl
  have hArguments :
      Reads
        [.text ("(" ++ boolText wouldSucceed ++
          ", request, ase.getMessage(), ase)")]
        ((returnTokens names wouldSucceed).drop 3) := by
    cases wouldSucceed <;> rfl
  have hAll :=
    hReturn.append
      ((reads_type (resultType names)).append hArguments)
  refine .statement hAll ?_
  cases wouldSucceed <;> rfl

/- So is the test for a signal, whatever its code may be. -/
theorem Signal.reads_test
    (signal : Signal) :
    Reads signal.test signal.testTokens := by
  have hCode :
      Reads [.text "if (ase.getErrorCode().equals("]
        [.word "if", .symbol '(', .word "ase", .symbol '.',
          .word "getErrorCode", .symbol '(', .symbol ')',
          .symbol '.', .word "equals", .symbol '('] :=
    rfl
  have hStatus :
      Reads [.text ") && ase.getStatusCode() == "]
        [.symbol ')', .symbol '&', .symbol '&', .word "ase",
          .symbol '.', .word "getStatusCode", .symbol '(',
          .symbol ')', .symbol '=', .symbol '='] :=
    rfl
  have hClose : Reads [.text ")"] [.symbol ')'] :=
    rfl
  have hNumber :=
    hStatus.text_append
      (reads_numeral signal.statusCode (by decide) hClose)
  rw [← String.append_assoc] at hNumber
  exact hCode.append
    ((reads_quotedText signal.errorCode).append hNumber)

/- With what is written in front of it that is a head. -/
theorem reads_testHead
    {lead : List Part}
    {ts : List Token}
    (hLead : Reads lead ts)
    (signal : Signal) :
    Reads (lead ++ signal.test ++ [.text " "])
      (ts ++ signal.testTokens) := by
  have hSpace : Reads [.text " "] [] :=
    rfl
  have hAll := (hLead.append signal.reads_test).append hSpace
  rwa [List.append_nil] at hAll

/- A head with no marks that bound blocks. -/
theorem all_isInner_testHead
    {ts : List Token}
    (hInner : ts.all Token.isInner = true)
    (signal : Signal) :
    (ts ++ signal.testTokens).all Token.isInner = true := by
  rw [List.all_append, hInner]
  rfl

/- A block that handles an error of the service has a head. -/
theorem reads_catch :
    Reads
      ([.text "catch (",
        .type (.class Sdk.amazonServiceException),
        .text " ase)"] ++ [.text " "])
      catchTokens :=
  rfl

mutual

/- A statement is read back as its clauses, -/
theorem Statement.comprises :
    (statement : Statement) →
      Comprises (statement.parts names)
        (statement.clauses names)
  | .execute => by
      rw [Statement.parts, Statement.clauses]
      exact comprises_execution
  | .throwClientError message hasCause => by
      rw [Statement.clauses]
      exact comprises_throw names message hasCause
  | .returnResult wouldSucceed => by
      rw [Statement.clauses]
      exact comprises_return names wouldSucceed
  | .testSignals tests => by
      rw [Statement.parts, Statement.clauses]
      exact comprises_tests reads_nil rfl tests fun _ => rfl
  | .tryCatch body handler => by
      have hTry :
          Reads ([.text "try"] ++ [.text " "])
            [.word "try"] :=
        rfl
      rw [Statement.parts, Statement.clauses]
      exact .followed hTry rfl (comprises_all body)
        reads_catch rfl (comprises_all handler)

/- so are statements one after the other, -/
theorem comprises_all :
    (statements : List Statement) →
      Comprises (allParts names statements)
        (allClauses names statements)
  | [] => by
      rw [allParts, allClauses]
      exact .nil
  | first :: rest => by
      rw [allParts, allClauses]
      exact first.comprises.append (comprises_all rest)

/-
  and tests.  The word in front of a test is written on the
  line that ends the one before.
-/
theorem comprises_tests
    {lead : List Part}
    {ts : List Token}
    (hLead : Reads lead ts)
    (hInner : ts.all Token.isInner = true) :
    (tests : List (Signal × Statement)) →
      (tests = [] → lead = []) →
      Comprises (lead ++ testParts names tests)
        (testClauses names ts tests)
  | [], hNone => by
      rw [hNone rfl, testParts, testClauses]
      exact .nil
  | [(signal, reaction)], _ => by
      have hHead := reads_testHead hLead signal
      have hHeadInner := all_isInner_testHead hInner signal
      refine .of_atoms_eq ?_
        (.block hHead hHeadInner reaction.comprises)
      simp [testParts, Java.block]
  | (signal, reaction) :: next :: more, _ => by
      have hHead := reads_testHead hLead signal
      have hHeadInner := all_isInner_testHead hInner signal
      have hElse : Reads [.text " else "] [.word "else"] :=
        rfl
      have hRest :=
        comprises_tests hElse rfl (next :: more) nofun
      rw [testClauses]
      refine .of_atoms_eq ?_
        ((Comprises.braces hHead hHeadInner
          reaction.comprises).append hRest)
      simp [testParts]

end

------------------------------------------------------------
-- Scopes
------------------------------------------------------------

mutual

/-
  Whether a statement speaks of an error only where one has
  been caught.
-/
def Statement.isScoped
    (isCaught : Bool) :
    Statement → Bool
  | .execute => true
  | .throwClientError _ hasCause => !hasCause || isCaught
  | .returnResult _ => isCaught
  | .testSignals tests => isCaught && areTestsScoped isCaught tests
  | .tryCatch body handler =>
      areScoped isCaught body && areScoped true handler

/- Whether all statements do. -/
def areScoped
    (isCaught : Bool) :
    List Statement → Bool
  | [] => true
  | first :: rest =>
      first.isScoped isCaught && areScoped isCaught rest

/- Whether all reactions to signals do. -/
def areTestsScoped
    (isCaught : Bool) :
    List (Signal × Statement) → Bool
  | [] => true
  | (_, reaction) :: rest =>
      reaction.isScoped isCaught && areTestsScoped isCaught rest

end

------------------------------------------------------------
-- Carrying Out Clauses
------------------------------------------------------------

/- What the method of those names is carried out in. -/
def surroundings
    (names : Names)
    (response : Response) :
    Surroundings where
  result := resultType names
  request := "request"
  response := response

variable {names : Names}
variable {response : Response}
variable {errors : Errors}
variable {caught : Option ServiceError}
variable {before : Before}

/- The call that sends the request is one that executes. -/
theorem statement?_execution :
    statement? (surroundings names response) errors
        executionTokens =
      some (Statement.execute.run response caught) := by
  cases response <;> rfl

/- An error is thrown with a cause where there is one. -/
theorem statement?_throw
    {hasCause : Bool}
    (message : String)
    (hScoped :
      (Statement.throwClientError message hasCause).isScoped
        caught.isSome = true)
    (hErrors : errors.lookup "ase" = caught) :
    statement? (surroundings names response) errors
        (throwTokens message hasCause) =
      some ((Statement.throwClientError message hasCause).run
        response caught) := by
  cases hasCause with
  | false =>
      simp [throwTokens, statement?, Statement.run]
  | true =>
      cases caught with
      | none => cases hScoped
      | some e =>
          simp [throwTokens, statement?, Statement.run, hErrors]

/- A result is returned with the message of the error. -/
theorem statement?_return
    {wouldSucceed : Bool}
    (hScoped :
      (Statement.returnResult wouldSucceed).isScoped
        caught.isSome = true)
    (hErrors : errors.lookup "ase" = caught) :
    statement? (surroundings names response) errors
        (returnTokens names wouldSucceed) =
      some ((Statement.returnResult wouldSucceed).run
        response caught) := by
  cases caught with
  | none => cases hScoped
  | some e =>
      cases wouldSucceed <;>
        simp [returnTokens, statement?, surroundings, truth?,
          boolText, Statement.run, hErrors]

/- What is written for a signal holds where it matches. -/
theorem condition?_signal
    {e : ServiceError}
    (hErrors : errors.lookup "ase" = some e)
    (signal : Signal) :
    condition? errors signal.conditionTokens =
      some (signal.matches e) := by
  have hNumber := numeral?_toString signal.statusCode
  have hConjuncts :
      conjuncts signal.conditionTokens =
        [signal.conditionTokens.take 10,
          signal.conditionTokens.drop 12] :=
    rfl
  have hCode :
      compared? errors (signal.conditionTokens.take 10) =
        some (e.errorCode == signal.errorCode) := by
    simp [Signal.conditionTokens, compared?, hErrors]
  have hStatus :
      compared? errors (signal.conditionTokens.drop 12) =
        some (e.statusCode == signal.statusCode) := by
    simp only [Signal.conditionTokens, List.drop_succ_cons,
      List.drop_zero, compared?, hErrors, hNumber]
    rfl
  unfold condition?
  rw [hConjuncts]
  simp [hCode, hStatus, Signal.matches]

/- A signal is tested, or it is if those before it failed. -/
inductive Leads : List Token → Before → Prop where
  | first {before : Before} :
      before.thrown? = none → Leads [] before
  | later : Leads [.word "else"] (.tested false)

/- No error is at hand where a signal is tested. -/
theorem Leads.thrown?_eq
    {lead : List Token}
    (hLeads : Leads lead before) :
    before.thrown? = none := by
  cases hLeads with
  | first hBefore => exact hBefore
  | later => rfl

/- A test is entered if the error is the signal. -/
theorem Leads.exists_head
    {lead : List Token}
    {e : ServiceError}
    (hLeads : Leads lead before)
    (hErrors : errors.lookup "ase" = some e)
    (signal : Signal) :
    ∃ h, Head.ofTokens (lead ++ signal.testTokens) = some h ∧
      h.entry errors before =
        some (if signal.matches e then
            .enter errors (.tested true)
          else .skip (.tested false)) := by
  have hEntry :
      entryOfTest errors signal.conditionTokens =
        some (if signal.matches e then
            .enter errors (.tested true)
          else .skip (.tested false)) := by
    unfold entryOfTest
    rw [condition?_signal hErrors]
    rfl
  cases hLeads with
  | later =>
      exact ⟨.otherwise signal.conditionTokens, rfl, hEntry⟩
  | first hBefore =>
      refine ⟨.test signal.conditionTokens, rfl, ?_⟩
      rw [← hEntry]
      cases before with
      | other => rfl
      | tested taken => rfl
      | attempted thrown =>
          cases hBefore
          rfl

/- Behind a test that held no other one is made. -/
theorem execute_taken
    {x : Surroundings}
    (names : Names)
    (tests : List (Signal × Statement))
    (rest : List Clause) :
    execute x errors (.tested true)
        (testClauses names [.word "else"] tests ++ rest) =
      execute x errors (.tested true) rest := by
  induction tests with
  | nil => rfl
  | cons first tests ih =>
      rcases first with ⟨signal, reaction⟩
      rw [testClauses, List.cons_append]
      have hHead :
          Head.ofTokens ([.word "else"] ++ signal.testTokens) =
            some (.otherwise signal.conditionTokens) :=
        rfl
      rw [execute_skip hHead rfl, ih]

/-
  Clauses are carried out as something runs: they end as it
  does, or are followed by what comes after them.
-/
def Performs
    (x : Surroundings)
    (errors : Errors)
    (before : Before)
    (cs : List Clause)
    (completion : Completion) :
    Prop :=
  ∃ after : Before, after.thrown? = none ∧
    ∀ rest, execute x errors before (cs ++ rest) =
      completion.followedBy (execute x errors after rest)

/- At the end of a block they end as it does. -/
theorem Performs.execute_eq
    {x : Surroundings}
    {cs : List Clause}
    {completion : Completion}
    (hPerforms : Performs x errors before cs completion) :
    execute x errors before cs = some completion := by
  rcases hPerforms with ⟨after, hAfter, hRest⟩
  have hAll := hRest []
  rw [List.append_nil, execute_nil hAfter] at hAll
  rw [hAll]
  cases completion <;> rfl

/- A single statement is carried out as it runs. -/
theorem Performs.simple
    {x : Surroundings}
    {ts : List Token}
    {completion : Completion}
    (hBefore : before.thrown? = none)
    (hStatement : statement? x errors ts = some completion) :
    Performs x errors before [.simple ts] completion :=
  ⟨.other, rfl, execute_simple hBefore hStatement⟩

mutual

/- A statement is carried out as it runs, -/
theorem Statement.performs
    {caught : Option ServiceError}
    {errors : Errors}
    {before : Before}
    (hErrors : errors.lookup "ase" = caught)
    (hBefore : before.thrown? = none) :
    (statement : Statement) →
      statement.isScoped caught.isSome = true →
      Performs (surroundings names response) errors before
        (statement.clauses names)
        (statement.run response caught)
  | .execute, _ => by
      rw [Statement.clauses]
      exact .simple hBefore statement?_execution
  | .throwClientError message hasCause, hScoped => by
      rw [Statement.clauses]
      exact .simple hBefore
        (statement?_throw message hScoped hErrors)
  | .returnResult wouldSucceed, hScoped => by
      rw [Statement.clauses]
      exact .simple hBefore
        (statement?_return hScoped hErrors)
  | .testSignals tests, hScoped => by
      rw [Statement.isScoped, Bool.and_eq_true] at hScoped
      rcases Option.isSome_iff_exists.mp hScoped.1 with
        ⟨e, rfl⟩
      rw [Statement.clauses, Statement.run]
      exact performs_tests hErrors (.first hBefore) tests
        hScoped.2
  | .tryCatch body handler, hScoped => by
      rw [Statement.isScoped, Bool.and_eq_true] at hScoped
      have hBody :
          execute (surroundings names response) errors .other
              (allClauses names body) =
            some (runAll response caught body) :=
        Performs.execute_eq
          (performs_all hErrors rfl body hScoped.1)
      refine ⟨.other, rfl, fun rest => ?_⟩
      rw [Statement.clauses, List.cons_append,
        List.cons_append, List.nil_append,
        execute_attempt rfl hBefore hBody, Statement.run]
      cases runAll response caught body with
      | next => exact execute_skip rfl rfl _ rest
      | ended outcome => rfl
      | thrown e =>
          have hCaught :
              (("ase", e) :: errors).lookup "ase" = some e := by
            simp
          have hHandler :
              execute (surroundings names response)
                  (("ase", e) :: errors) .other
                  (allClauses names handler) =
                some (runAll response (some e) handler) :=
            Performs.execute_eq
              (performs_all hCaught rfl handler hScoped.2)
          have hEntry :
              (Head.handle "ase").entry errors
                  (.attempted (some e)) =
                some (.enter (("ase", e) :: errors) .other) :=
            rfl
          exact execute_enter rfl hEntry nofun hHandler rest

/- so are statements one after the other, -/
theorem performs_all
    {caught : Option ServiceError}
    {errors : Errors}
    {before : Before}
    (hErrors : errors.lookup "ase" = caught)
    (hBefore : before.thrown? = none) :
    (statements : List Statement) →
      areScoped caught.isSome statements = true →
      Performs (surroundings names response) errors before
        (allClauses names statements)
        (runAll response caught statements)
  | [], _ => ⟨before, hBefore, fun _ => rfl⟩
  | first :: others, hScoped => by
      rw [areScoped, Bool.and_eq_true] at hScoped
      rcases first.performs hErrors hBefore hScoped.1 with
        ⟨between, hBetween, hFirst⟩
      rcases performs_all hErrors hBetween others
          hScoped.2 with
        ⟨after, hAfter, hOthers⟩
      refine ⟨after, hAfter, fun rest => ?_⟩
      rw [allClauses, List.append_assoc, hFirst, hOthers,
        runAll]
      cases first.run response caught <;> rfl

/- and tests: the first that matches decides. -/
theorem performs_tests
    {e : ServiceError}
    {errors : Errors}
    {before : Before}
    {lead : List Token}
    (hErrors : errors.lookup "ase" = some e)
    (hLeads : Leads lead before) :
    (tests : List (Signal × Statement)) →
      areTestsScoped true tests = true →
      Performs (surroundings names response) errors before
        (testClauses names lead tests)
        (runTests response (some e) tests)
  | [], _ => ⟨before, hLeads.thrown?_eq, fun _ => rfl⟩
  | (signal, reaction) :: others, hScoped => by
      rw [areTestsScoped, Bool.and_eq_true] at hScoped
      rcases hLeads.exists_head hErrors signal with
        ⟨h, hHead, hEntry⟩
      rw [testClauses, runTests]
      cases hMatch : signal.matches e with
      | true =>
          rw [hMatch, if_pos rfl] at hEntry
          have hReaction :
              execute (surroundings names response) errors
                  .other (reaction.clauses names) =
                some (reaction.run response (some e)) :=
            Performs.execute_eq
              (reaction.performs hErrors rfl hScoped.1)
          refine ⟨.tested true, rfl, fun rest => ?_⟩
          rw [List.cons_append,
            execute_enter hHead hEntry nofun hReaction,
            execute_taken]
          simp [hMatch]
      | false =>
          rw [hMatch, if_neg Bool.false_ne_true] at hEntry
          rcases performs_tests hErrors .later others
              hScoped.2 with
            ⟨after, hAfter, hOthers⟩
          refine ⟨after, hAfter, fun rest => ?_⟩
          rw [List.cons_append, execute_skip hHead hEntry,
            hOthers]
          simp [hMatch]

end

------------------------------------------------------------
-- The Program
------------------------------------------------------------

/- Tests for signals look the error up among them. -/
theorem runTests_signals
    (e : ServiceError)
    (table : List Signal) :
    runTests response (some e)
        (table.map fun signal =>
          (signal, .returnResult signal.wouldSucceed)) =
      match table.find? (·.matches e) with
      | some signal =>
          .ended (.result signal.wouldSucceed e.message)
      | none => .next := by
  induction table with
  | nil => rfl
  | cons signal table ih =>
      rw [List.map_cons, runTests, List.find?_cons]
      cases hMatch : signal.matches e with
      | true =>
          simp only [Option.any_some, hMatch, if_true]
          rfl
      | false =>
          simpa only [Option.any_some, hMatch,
            Bool.false_eq_true, if_false] using ih

/- The program ends as the response is to be understood. -/
theorem run_program
    (response : Response) :
    program.run response none = .ended (classify response) := by
  cases response with
  | completed => rfl
  | failed e =>
      have hSignals :
          runTests (.failed e) (some e)
              (signals.map fun signal =>
                (signal, .returnResult signal.wouldSucceed)) =
            match signals.find? (·.matches e) with
            | some signal =>
                .ended (.result signal.wouldSucceed e.message)
            | none => .next :=
        runTests_signals e signals
      simp only [program, Statement.run, runAll, hSignals,
        classify]
      cases signals.find? (·.matches e) <;> rfl

------------------------------------------------------------
-- The Method
------------------------------------------------------------

/- The tokens declare a variable and give it a value. -/
def IsDeclaration
    (ts : List Token) :
    Prop :=
  ∃ t w value, ts = .type t :: .word w :: .symbol '=' :: value

/- Nothing comes of declarations. -/
theorem performs_declarations
    {x : Surroundings}
    {declarations : List (List Token)}
    (hAll : ∀ ts ∈ declarations, IsDeclaration ts)
    (hBefore : before.thrown? = none) :
    Performs x errors before (declarations.map .simple)
      .next := by
  induction declarations generalizing before with
  | nil => exact ⟨before, hBefore, fun _ => rfl⟩
  | cons ts declarations ih =>
      rw [List.forall_mem_cons] at hAll
      rcases hAll with ⟨⟨t, w, value, rfl⟩, hOthers⟩
      have hNext :
          Performs x errors .other (declarations.map .simple)
            .next :=
        ih hOthers rfl
      rcases hNext with ⟨after, hAfter, hRest⟩
      refine ⟨after, hAfter, fun rest => ?_⟩
      rw [List.map_cons, List.cons_append,
        execute_simple hBefore rfl, Completion.followedBy,
        hRest]

/- A type, a variable and a value are a declaration. -/
theorem comprises_declaration
    {parts : List Part}
    {w : String}
    {value : List Token}
    (t : TypeName)
    (hReads :
      Reads parts (.word w :: .symbol '=' :: value))
    (hInner : value.all Token.isInner = true) :
    ∃ ts, IsDeclaration ts ∧
      Comprises (statement (.type t :: parts))
        [.simple ts] :=
  ⟨_, ⟨t, w, value, rfl⟩,
    .statement ((reads_type t).append hReads) hInner⟩

/- The handler of the response is declared. -/
theorem comprises_responseHandler
    (handler unmarshaller : TypeName) :
    ∃ ts, IsDeclaration ts ∧
      Comprises
        (statement [.type handler,
          .text (" " ++ responseHandlerVariable ++ " = new "),
          .type handler, .text "(new ", .type unmarshaller,
          .text "())"])
        [.simple ts] := by
  have hVariable :
      Reads
        [.text (" " ++ responseHandlerVariable ++ " = new ")]
        [.word responseHandlerVariable, .symbol '=',
          .word "new"] :=
    rfl
  have hOpen :
      Reads [.text "(new "] [.symbol '(', .word "new"] :=
    rfl
  have hClose :
      Reads [.text "())"]
        [.symbol '(', .symbol ')', .symbol ')'] :=
    rfl
  have hValue :=
    hVariable.append ((reads_type handler).append
      (hOpen.append ((reads_type unmarshaller).append hClose)))
  exact comprises_declaration handler hValue rfl

/- So is that of an error. -/
theorem comprises_errorHandler :
    ∃ ts, IsDeclaration ts ∧
      Comprises Xml.errorHandler [.simple ts] := by
  have hVariable :
      Reads [.text (" " ++ errorHandlerVariable ++ " = new ")]
        [.word errorHandlerVariable, .symbol '=',
          .word "new"] :=
    rfl
  have hUnmarshallers :
      Reads
        [.text ("(" ++ exceptionUnmarshallersField ++ ")")]
        [.symbol '(', .word exceptionUnmarshallersField,
          .symbol ')'] :=
    rfl
  have hValue :=
    hVariable.append
      ((reads_type (.class Sdk.defaultErrorResponseHandler)
        ).append hUnmarshallers)
  exact comprises_declaration
    (.class Sdk.defaultErrorResponseHandler) hValue rfl

/- So is the request, and nothing else is prepared. -/
theorem comprises_preparation :
    ∃ declarations : List (List Token),
      (∀ ts ∈ declarations, IsDeclaration ts) ∧
        Comprises preparation (declarations.map .simple) := by
  have hRequest :
      Reads
        [.text
          " dryRunRequest = request.getDryRunRequest()"]
        [.word "dryRunRequest", .symbol '=', .word "request",
          .symbol '.', .word "getDryRunRequest", .symbol '(',
          .symbol ')'] :=
    rfl
  rcases comprises_declaration sentRequest hRequest rfl with
    ⟨first, hFirst, hFirstClause⟩
  rcases comprises_responseHandler _ _ with
    ⟨second, hSecond, hSecondClause⟩
  rcases comprises_errorHandler with
    ⟨third, hThird, hThirdClause⟩
  refine ⟨[first, second, third], ?_,
    (hFirstClause.append hSecondClause).append hThirdClause⟩
  simp [hFirst, hSecond, hThird]

/-
  The method as it is written comes to what the response is
  to be understood as.
-/
theorem methodOutcome_method
    (names : Names)
    (response : Response) :
    methodOutcome (method names) response =
      some (classify response) := by
  rcases comprises_preparation with
    ⟨declarations, hDeclarations, hPreparation⟩
  have hClauses :
      (method names).body.clauses =
        some (declarations.map .simple ++
          program.clauses names) :=
    (hPreparation.append
      (program.comprises names)).clauses_eq
  have hExecute :
      execute (surroundings names response) [] .other
          (declarations.map .simple ++
            program.clauses names) =
        some (.ended (classify response)) := by
    have hPrepared :
        Performs (surroundings names response) [] .other
          (declarations.map .simple) .next :=
      performs_declarations hDeclarations rfl
    rcases hPrepared with ⟨after, hAfter, hRest⟩
    have hProgram :
        Performs (surroundings names response) [] after
          (program.clauses names)
          (program.run response none) :=
      program.performs rfl hAfter rfl
    rw [hRest, Completion.followedBy, hProgram.execute_eq,
      run_program]
  have hSurroundings :
      surroundings? (method names) response =
        some (surroundings names response) :=
    rfl
  unfold methodOutcome
  rw [hSurroundings, hClauses]
  simp only [Option.bind_eq_bind, Option.bind_some,
    hExecute]
  rfl

/-
  Every strategy for EC2 adds the method for dry runs, and
  the method comes to what the response means: whatever its
  code, its status and its message are.
-/
theorem dryRun_classifies
    {s : Service}
    {t : Strategy}
    (hResolve : Strategy.resolve .ec2 s = .ok t) :
    ∃ m, Assembly.Strategy.additional t = .ok [m] ∧
      m.kind = .method "dryRun" ∧
      ∀ response,
        methodOutcome m response = some (classify response) := by
  have hKind : t.kind = .ec2 :=
    (Strategy.resolve_eq_ok_iff.mp hResolve).2.1
  refine ⟨method t.names, ?_, rfl,
    methodOutcome_method t.names⟩
  rw [Assembly.Strategy.additional_eq, Strategy.additional,
    hKind]

/- The bookshop is asked whether a caller may order. -/
theorem dryRun_classifies_bookshop :
    ∃ t m,
      Strategy.resolve .ec2 bookshop = .ok t ∧
        Assembly.Strategy.additional t = .ok [m] ∧
        methodOutcome m
            (.failed ⟨"UnauthorizedOperation", 403, "No."⟩) =
          some (.result false "No.") := by
  rcases dryRun_classifies
      (s := bookshop) (t := ⟨.ec2, bookshop, _⟩) rfl with
    ⟨m, hMethod, _, hOutcome⟩
  exact ⟨_, m, rfl, hMethod, hOutcome _⟩

end ClientGen.Client.DryRun
