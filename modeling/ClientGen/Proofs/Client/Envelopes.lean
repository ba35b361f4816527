import ClientGen.Proofs.Client.Declarations
import ClientGen.Proofs.Client.Declared
import ClientGen.Proofs.Client.LegalNames
import ClientGen.Proofs.Client.StrategyBinding
import ClientGen.Proofs.Code.Creations
import ClientGen.Proofs.Code.Replacement
import ClientGen.Proofs.Code.Variables
import ClientGen.Proofs.Java.WrittenText

/-
  Whether results come in an envelope, and where that shows
  in the code of an operation.

  Main declarations include:
    * `Assembly.operationCode`
    * `OperationCode.Enveloped`
    * `OperationCode.Unwraps`
    * `Opening.writesWord_executionCall`
    * `envelopes_consistent`

  The shared factory wraps results, one behind a gateway does
  not.  The handler, the parameters of the call and its end
  are written apart from each other.  They agree, and apart
  from the envelope both factories write the same.
-/

namespace ClientGen.Client

open ClientGen.Java ClientGen.Model ClientGen.Text Code

------------------------------------------------------------
-- Code of an Operation
------------------------------------------------------------

/-
  What a strategy writes for an operation: the statement that
  makes the handler of the response, the one that carries out
  the operation, and the method with both of them.
-/
structure OperationCode where
  handler : Code
  call : Code
  method : Method
  deriving DecidableEq, Repr

/- The code of an operation, written in the format language. -/
def Assembly.operationCode
    (t : Client.Strategy)
    (o : Operation) :
    Except GenerationError OperationCode := do
  let handler ← Strategy.responseHandler t o
  let call ← Strategy.executionCall t o
  let method ← implementedOperation t.names t o
  .ok ⟨handler, call, method⟩

/- The code of an operation whose names have been checked. -/
def OperationCode.ofTypes
    (t : Strategy)
    (types : OperationTypes) :
    OperationCode where
  handler := ofParts (t.responseHandler types)
  call := ofParts (t.executionCall types)
  method := implementedOperation t types

/- Nothing but a name can be wrong with it. -/
theorem Assembly.operationCode_eq
    (t : Client.Strategy)
    (o : Operation) :
    operationCode t o =
      (t.names.operation o).map (OperationCode.ofTypes t) := by
  unfold operationCode
  rw [Strategy.responseHandler_eq, Strategy.executionCall_eq,
    implementedOperation_eq]
  cases t.names.operation o <;> rfl

/- What is written of a call before the request. -/
def callFront
    (types : OperationTypes)
    (made : TypeName) :
    List Part :=
  ["return " ++ clientHandlerField ++ ".execute(new ",
    .type (.generic Sdk.clientExecutionParams
      [.class types.request, made]),
    "()\n", .indent, .indent,
    ".withMarshaller(new ", types.marshaller,
    "(" ++ protocolFactoryField ++ "))\n",
    ".withResponseHandler(" ++ responseHandlerVariable ++
      ")\n",
    ".withErrorResponseHandler(" ++ errorHandlerVariable ++
      ")\n"]

/- The request is the last line, and may be opened there. -/
theorem executionCall_eq_callFront
    (types : OperationTypes)
    (envelope : Envelope) :
    executionCall types envelope protocolFactoryField =
      callFront types (envelope.handled types.response) ++
        [.text (".withInput(" ++ types.input.text ++ "))" ++
          envelope.unwrap ++ ";\n")] ++
        [.unindent, .unindent] :=
  rfl

/- The type of a result in its envelope. -/
def responseOf
    (result : TypeName) :
    TypeName :=
  .generic Sdk.amazonWebServiceResponse [result]

/- No result is its own envelope. -/
theorem ne_responseOf
    (result : TypeName) :
    result ≠ responseOf result := by
  intro hSame
  have hSize := congrArg sizeOf hSame
  simp only [responseOf, TypeName.generic.sizeOf_spec,
    List.cons.sizeOf_spec] at hSize
  omega

/- What is written to take a result out of its envelope. -/
def opening :
    String :=
  ".getResult()"

namespace OperationCode

/- The result is taken out at the end of the call. -/
def Opens
    (code : OperationCode)
    (spellClass : ClassName → String) :
    Prop :=
  (opening ++ ";\n").toList <:+
    (renderParts spellClass code.call.parts).toList

/-
  The handler of the response makes what the call is told to
  expect.  That is the result in an envelope exactly if the
  call takes it out, and the result itself otherwise.
-/
structure Enveloped
    (code : OperationCode)
    (made : TypeName) :
    Prop where
  declared :
    declaredTypes responseHandlerVariable code.handler.tokens =
      [handlerOf made]
  expected :
    ∃ request marshaller,
      createdTypes code.call.tokens =
        [.generic Sdk.clientExecutionParams [request, made],
          marshaller]
  wrapped_iff :
    ∀ spellClass, SpellsNames spellClass →
      (made = responseOf code.method.returns ↔
        code.Opens spellClass)
  bare :
    made ≠ responseOf code.method.returns →
      made = code.method.returns

/-
  The code is the other one with all envelopes taken away,
  and with nothing to open at the end of the call.
-/
structure Unwraps
    (bare wrapped : OperationCode) :
    Prop where
  returns : bare.method.returns = wrapped.method.returns
  handler :
    bare.handler =
      wrapped.handler.replaceType
        (responseOf wrapped.method.returns)
        wrapped.method.returns
  call :
    ∃ front,
      wrapped.call =
          ofParts (front ++ [.text opening] ++
            [.text ";\n", .unindent, .unindent]) ∧
        bare.call =
          (ofParts (front ++
            [.text ";\n", .unindent, .unindent])).replaceType
              (responseOf wrapped.method.returns)
              wrapped.method.returns

end OperationCode

------------------------------------------------------------
-- Reading
------------------------------------------------------------

/- Truth values are words. -/
theorem reads_boolText
    {after : String}
    {ts : List Token}
    (flag : Bool)
    (hNext :
      after.toList.head?.any
        (fun c => !isIdentifierPart c) = true)
    (hAfter : Reads [.text after] ts) :
    Reads [.text (boolText flag ++ after)]
      (.word (boolText flag) :: ts) := by
  have hWord :
      boolText flag ≠ "" ∧
        (boolText flag).toList.all isIdentifierPart = true := by
    cases flag <;> decide
  exact reads_word hWord.1 (List.all_eq_true.mp hWord.2) hNext
    hAfter

/- What payloads are like is read, and declares nothing. -/
theorem exists_reads_flags
    (flags : PayloadFlags) :
    ∃ ts,
      Reads
        [.text ("().withPayloadJson(" ++ boolText flags.isJson ++
          ").withHasStreamingSuccessResponse(" ++
          boolText flags.isStreaming ++ "),\n")] ts ∧
        Token.symbol '=' ∉ ts := by
  have hPayload :
      Reads [.text "().withPayloadJson("]
        [.symbol '(', .symbol ')', .symbol '.',
          .word "withPayloadJson", .symbol '('] :=
    rfl
  have hStreaming :
      Reads [.text ").withHasStreamingSuccessResponse("]
        [.symbol ')', .symbol '.',
          .word "withHasStreamingSuccessResponse",
          .symbol '('] := by
    unfold Reads
    decide +kernel
  have hEnd : Reads [.text "),\n"] [.symbol ')', .symbol ','] :=
    rfl
  have hSecond :=
    hStreaming.text_append
      (reads_boolText flags.isStreaming (by decide) hEnd)
  have hNext :
      (").withHasStreamingSuccessResponse(" ++
        (boolText flags.isStreaming ++
          "),\n")).toList.head?.any
            (fun c => !isIdentifierPart c) = true := by
    rw [String.toList_append]
    rfl
  have hAll :=
    hPayload.text_append
      (reads_boolText flags.isJson hNext hSecond)
  simp only [← String.append_assoc] at hAll
  exact ⟨_, hAll, by simp⟩

/- The handler is declared with the type that it makes. -/
theorem Factory.declaredTypes_responseHandler
    (f : Factory)
    (s : Service)
    (types : OperationTypes) :
    declaredTypes responseHandlerVariable
        (ofParts (f.responseHandler s types)).tokens =
      [handlerOf (f.envelope.handled types.response)] := by
  let call : List Token :=
    [.word protocolFactoryField, .symbol '.',
      .word "createResponseHandler", .symbol '(']
  have hHead :
      Reads
        [.text (" " ++ responseHandlerVariable ++ " = " ++
          protocolFactoryField ++ ".createResponseHandler(\n")]
        (.word responseHandlerVariable :: .symbol '=' ::
          call) := by
    unfold Reads
    decide +kernel
  have hNew : Reads [.text "new "] [.word "new"] :=
    rfl
  have hEnd :
      Reads [.text "());\n"]
        [.symbol '(', .symbol ')', .symbol ')',
          .symbol ';'] :=
    rfl
  rcases exists_reads_flags
      (PayloadFlags.ofOperation s types.operation) with
    ⟨flags, hFlags, hNone⟩
  have hReads : Reads (f.responseHandler s types) _ :=
    ((reads_type _).cons hHead).continued
      (hNew.cons ((reads_type _).cons (hFlags.cons
        (hNew.cons ((reads_type _).cons hEnd)))))
  have hRest :
      Token.symbol '=' ∉
        call ++ ([.word "new"] ++
          ([.type (.class Sdk.jsonOperationMetadata)] ++
            (flags ++ ([.word "new"] ++
              ([.type (.class types.unmarshaller)] ++
                [.symbol '(', .symbol ')', .symbol ')',
                  .symbol ';']))))) := by
    simp [call, hNone]
  rw [hReads.tokens_eq]
  exact (declaredTypes_declaration _ _ _).trans
    (congrArg _ (declaredTypes_eq_nil hRest))

/- No word of the language is taken for the request. -/
theorem Identifier.ne_new
    (name : Identifier) :
    name.text ≠ "new" := by
  intro hNew
  have hValid := name.valid
  rw [hNew] at hValid
  revert hValid
  decide

/- The request is handed on, and the result taken out. -/
theorem reads_input
    (input : Identifier)
    (envelope : Envelope) :
    ∃ ts,
      Reads
        [.text (".withInput(" ++ input.text ++ "))" ++
          envelope.unwrap ++ ";\n")] ts ∧
        Token.word "new" ∉ ts := by
  have hText :
      ".withInput(" ++ input.text ++ "))" ++
          envelope.unwrap ++ ";\n" =
        ".withInput(" ++
          (input.text ++ ("))" ++ envelope.unwrap ++ ";\n")) := by
    apply String.toList_injective
    simp
  have hOpening :
      Reads [.text ".withInput("]
        [.symbol '.', .word "withInput", .symbol '('] :=
    rfl
  have hEnding :
      ∃ ts,
        Reads [.text ("))" ++ envelope.unwrap ++ ";\n")] ts ∧
          Token.word "new" ∉ ts := by
    refine ⟨_, reads_text ?_, ?_⟩ <;>
      cases envelope <;> decide +kernel
  rcases hEnding with ⟨ts, hTs, hNone⟩
  have hNext :
      ("))" ++ envelope.unwrap ++ ";\n").toList.head?.any
        (fun c => !isIdentifierPart c) = true := by
    cases envelope <;> rfl
  rw [hText]
  refine ⟨_, hOpening.text_append
    (reads_name input.valid hNext hTs), ?_⟩
  simpa [hNone] using input.ne_new.symm

/-
  The call makes what the request is sent with, and a
  marshaller.
-/
theorem createdTypes_executionCall
    (types : OperationTypes)
    (envelope : Envelope) :
    createdTypes (ofParts (executionCall types envelope
        protocolFactoryField)).tokens =
      [.generic Sdk.clientExecutionParams
          [.class types.request,
            envelope.handled types.response],
        .class types.marshaller] := by
  have hParams :
      Reads
        [.text ("return " ++ clientHandlerField ++
          ".execute(new ")]
        [.word "return", .word clientHandlerField, .symbol '.',
          .word "execute", .symbol '(', .word "new"] := by
    unfold Reads
    decide +kernel
  have hBrackets :
      Reads [.text "()\n"] [.symbol '(', .symbol ')'] :=
    rfl
  have hMarshaller :
      Reads [.text ".withMarshaller(new "]
        [.symbol '.', .word "withMarshaller", .symbol '(',
          .word "new"] :=
    rfl
  have hHandlers :
      ∃ ts,
        Reads
          [.text ("(" ++ protocolFactoryField ++ "))\n"),
            .text (".withResponseHandler(" ++
              responseHandlerVariable ++ ")\n"),
            .text (".withErrorResponseHandler(" ++
              errorHandlerVariable ++ ")\n")] ts ∧
          Token.word "new" ∉ ts := by
    refine ⟨_, .cons (reads_text ?_)
      (.cons (reads_text ?_) (reads_text ?_)), ?_⟩ <;>
      decide +kernel
  rcases hHandlers with ⟨handlers, hHandlers, hNoneHandlers⟩
  rcases reads_input types.input envelope with
    ⟨input, hInput, hNoneInput⟩
  have hReads : Reads (executionCall types envelope
      protocolFactoryField) _ :=
    (hParams.cons ((reads_type _).cons hBrackets)).continued
      (hMarshaller.cons ((reads_type _).cons
        (hHandlers.append hInput)))
  have hBefore :
      Token.word "new" ∉
        [.word "return", .word clientHandlerField, .symbol '.',
          .word "execute", .symbol '('] := by
    decide
  have hBetween :
      Token.word "new" ∉
        [.symbol '(', .symbol ')', .symbol '.',
          .word "withMarshaller", .symbol '('] := by
    decide
  have hAfter : Token.word "new" ∉ handlers ++ input := by
    rw [List.mem_append, not_or]
    exact ⟨hNoneHandlers, hNoneInput⟩
  rw [hReads.tokens_eq]
  refine (createdTypes_new hBefore _ _).trans
    (congrArg _ ?_)
  refine (createdTypes_new hBetween _ _).trans
    (congrArg _ ?_)
  exact createdTypes_eq_nil hAfter

------------------------------------------------------------
-- Opening Envelopes
------------------------------------------------------------

namespace Opening

/- The text as characters. -/
def word :
    List Char :=
  opening.toList

theorem word_ne_nil :
    word ≠ [] := by
  decide

/- It is more than spaces. -/
theorem isSolid_word :
    IsSolid word := by
  constructor <;> decide

/- A bracket is part of it, and foreign to types. -/
theorem isForeign_bracket :
    IsForeign '(' := by
  constructor <;> decide

theorem bracket_mem_word :
    '(' ∈ word := by
  decide

/- It is no part of a name. -/
theorem holds_identifier
    (name : Identifier) :
    Holds word 0 name.text.toList := by
  have hWord : word = '.' :: "getResult()".toList := by
    decide
  have hParts :
      ∀ c, isIdentifierPart c = false →
        c ∉ name.text.toList := by
    intro c hPart hMem
    rw [(all_isIdentifierPart name.valid).2 c hMem] at hPart
    cases hPart
  refine ⟨?_, ?_⟩
  · exact occurrences_eq_zero bracket_mem_word
      (hParts '(' (by decide))
  · rw [hWord]
    exact endsApart_of_head_not_mem (hParts '.' (by decide))

/- Behind the request it is written if there is an envelope. -/
theorem writesWord_input
    (input : Identifier)
    (envelope : Envelope) :
    WritesWord word (occurrences word envelope.unwrap.toList)
      [.text (".withInput(" ++ input.text ++ "))" ++
        envelope.unwrap ++ ";\n")] := by
  have hOpening : Holds word 0 ".withInput(".toList := by
    decide +kernel
  have hEnding :
      Holds word (occurrences word envelope.unwrap.toList)
        ("))" ++ envelope.unwrap ++ ";\n").toList := by
    cases envelope <;> decide +kernel
  have hAll :=
    (hOpening.append word_ne_nil
      (holds_identifier input)).append word_ne_nil hEnding
  apply writesWord_text
  simpa using hAll

/- Types in angle brackets do not write it. -/
theorem writesWord_generic
    {raw : ClassName}
    {arguments : List TypeName}
    (hLegal : (TypeName.generic raw arguments).IsLegal) :
    WritesWord word 0 [.type (.generic raw arguments)] :=
  Java.writesWord_generic isForeign_bracket bracket_mem_word
    hLegal (by decide)

/- Neither do marshallers and unmarshallers. -/
theorem writesWord_marshalling
    {n : Names}
    {o : Operation}
    {types : OperationTypes}
    (hTypes : types.Matches n o) :
    WritesWord word 0 [.type (.class types.marshaller)] ∧
      WritesWord word 0
        [.type (.class types.unmarshaller)] := by
  have hMarshaller := hTypes.isLegal.marshaller
  have hUnmarshaller := hTypes.isLegal.unmarshaller
  have hLast :
      ∀ front : String,
        ['r'] <:+ (front ++ "Marshaller").toList ∧
          ['r'] <:+ (unmarshallerName front).toList := by
    intro front
    unfold unmarshallerName
    rw [String.toList_append, String.toList_append]
    exact ⟨⟨front.toList ++ "Marshalle".toList, by simp⟩,
      ⟨front.toList ++ "Unmarshalle".toList, by simp⟩⟩
  rw [hTypes.marshaller] at hMarshaller ⊢
  rw [hTypes.unmarshaller] at hUnmarshaller ⊢
  refine ⟨?_, ?_⟩
  · exact writesWord_inPackage isForeign_bracket
      bracket_mem_word hMarshaller (hLast _).1 (by decide)
  · exact writesWord_inPackage isForeign_bracket
      bracket_mem_word hUnmarshaller (hLast _).2 (by decide)

/- Nor does the class that says what payloads are like. -/
theorem writesWord_metadata :
    WritesWord word 0
      [.type (.class Sdk.jsonOperationMetadata)] := by
  have hLegal : Sdk.jsonOperationMetadata.IsLegal := by
    simp
  have hLast : ['a'] <:+ "JsonOperationMetadata".toList := by
    decide
  exact writesWord_inPackage isForeign_bracket
    bracket_mem_word hLegal hLast (by decide)

/-
  Carrying out an operation it is written as often as it is
  asked for.
-/
theorem writesWord_executionCall
    {n : Names}
    {o : Operation}
    {types : OperationTypes}
    (hTypes : types.Matches n o)
    (envelope : Envelope) :
    WritesWord word (occurrences word envelope.unwrap.toList)
      (executionCall types envelope protocolFactoryField) := by
  have hParams :
      (TypeName.generic Sdk.clientExecutionParams
        [.class types.request,
          envelope.handled types.response]).IsLegal := by
    have hRequest := hTypes.isLegal.request
    have hResponse := hTypes.isLegal.response
    cases envelope <;>
      simp [Envelope.handled, hRequest, hResponse]
  have hText :
      ∀ {s : String}, Holds word 0 s.toList →
        WritesWord word 0 [.text s] :=
    writesWord_text
  have hIndent := (writesWord_indent word_ne_nil).1
  have hFront :
      WritesWord word 0
        (callFront types (envelope.handled types.response)) := by
    apply writesWord_of_forall word_ne_nil
    simp only [callFront, List.forall_mem_cons]
    refine ⟨hText ?_, writesWord_generic hParams, hText ?_,
      hIndent, hIndent, hText ?_,
      (writesWord_marshalling hTypes).1, hText ?_, hText ?_,
      hText ?_, by simp⟩ <;>
      decide +kernel
  have hEnd : WritesWord word 0 [.unindent, .unindent] := by
    apply writesWord_of_forall word_ne_nil
    simp [writesWord_indent word_ne_nil]
  have hAll :=
    (hFront.append word_ne_nil
      (writesWord_input types.input envelope)).append
        word_ne_nil hEnd
  rwa [Nat.zero_add, Nat.add_zero] at hAll

/- Handlers of responses are made without it. -/
theorem writesWord_responseHandler
    {n : Names}
    {o : Operation}
    {types : OperationTypes}
    (hTypes : types.Matches n o)
    (f : Factory)
    (s : Service) :
    WritesWord word 0 (f.responseHandler s types) := by
  have hFlag : ∀ flag, Holds word 0 (boolText flag).toList := by
    decide
  have hPayload : Holds word 0 "().withPayloadJson(".toList := by
    decide +kernel
  have hStreaming :
      Holds word 0
        ").withHasStreamingSuccessResponse(".toList := by
    decide +kernel
  have hEnd : Holds word 0 "),\n".toList := by
    decide
  have hFlags :
      ∀ isJson isStreaming : Bool,
        Holds word 0
          ("().withPayloadJson(" ++ boolText isJson ++
            ").withHasStreamingSuccessResponse(" ++
            boolText isStreaming ++ "),\n").toList :=
    fun isJson isStreaming =>
      (((hPayload.text_append word_ne_nil
        (hFlag isJson)).text_append word_ne_nil
          hStreaming).text_append word_ne_nil
            (hFlag isStreaming)).text_append word_ne_nil hEnd
  have hLegal :
      (handlerOf
        (f.envelope.handled types.response)).IsLegal := by
    have hResponse := hTypes.isLegal.response
    cases f.envelope <;>
      simp [handlerOf, Envelope.handled, hResponse]
  have hNew : WritesWord word 0 [.text "new "] :=
    writesWord_text (by decide +kernel)
  have hIndent := writesWord_indent word_ne_nil
  apply writesWord_of_forall word_ne_nil
  unfold Factory.responseHandler continued
  simp only [List.forall_mem_append, List.forall_mem_cons]
  refine ⟨⟨⟨⟨writesWord_generic hLegal,
      writesWord_text (by decide +kernel), by simp⟩, ?_⟩, ?_⟩,
    ?_⟩
  · simp [hIndent]
  · exact ⟨hNew, writesWord_metadata,
      writesWord_text (hFlags _ _), hNew,
      (writesWord_marshalling hTypes).2,
      writesWord_text (by decide +kernel), by simp⟩
  · simp [hIndent]

/- So are handlers of errors. -/
theorem writesWord_delegatedErrorHandler
    {error : ClassName}
    (hLegal : error.IsLegal) :
    WritesWord word 0 (delegatedErrorHandler error) := by
  have hHandler : (handlerOf (.class error)).IsLegal := by
    simp [handlerOf, hLegal]
  apply writesWord_of_forall word_ne_nil
  unfold delegatedErrorHandler statement
  simp only [List.forall_mem_append, List.forall_mem_cons]
  exact ⟨⟨writesWord_generic hHandler,
      writesWord_text (by decide +kernel), by simp⟩,
    writesWord_text (by decide +kernel), by simp⟩

end Opening

------------------------------------------------------------
-- Envelopes
------------------------------------------------------------

/- A call that opens an envelope ends with that. -/
theorem suffix_written_executionCall
    (types : OperationTypes)
    (spellClass : ClassName → String) :
    (opening ++ ";").toList ++ ['\n'] <:+
      written spellClass
        (executionCall types .wrapped protocolFactoryField) := by
  have hText :
      (opening ++ ";").toList ++ ['\n'] <:+
        (".withInput(" ++ types.input.text ++ "))" ++
          Envelope.wrapped.unwrap ++ ";\n").toList :=
    ⟨(".withInput(" ++ types.input.text ++ "))").toList,
      by simp [opening, Envelope.unwrap]⟩
  rw [executionCall_eq_callFront, written_append,
    written_append, written_text_cons]
  simp only [written_unindent_cons, written_nil,
    List.append_nil]
  exact hText.trans (List.suffix_append _ _)

variable {n : Names}
variable {o : Operation}
variable {types : OperationTypes}
variable {t : Strategy}
variable {factory : Factory}

/- What goes through a factory is written for it. -/
theorem OperationCode.ofTypes_eq
    (hFactory : t.factory? = some factory) :
    ofTypes t types = {
      handler :=
        ofParts (factory.responseHandler t.service types)
      call :=
        ofParts (executionCall types factory.envelope
          protocolFactoryField)
      method :=
        implemented types.method.text (.class types.response)
          [types.parameter]
          (factory.responseHandler t.service types ++
            [.text "\n"] ++
            delegatedErrorHandler factory.error ++
            [.text "\n"] ++
            executionCall types factory.envelope
              protocolFactoryField) } := by
  unfold ofTypes implementedOperation Strategy.responseHandler
    Strategy.errorHandler Strategy.executionCall
  rw [hFactory]

/- A call opens an envelope exactly if there is one. -/
theorem OperationCode.opens_ofTypes_iff
    (hFactory : t.factory? = some factory)
    (hTypes : types.Matches n o)
    {spellClass : ClassName → String}
    (hSpells : SpellsNames spellClass) :
    (ofTypes t types).Opens spellClass ↔
      factory.envelope = .wrapped := by
  unfold Opens
  rw [ofTypes_eq hFactory]
  cases hEnvelope : factory.envelope with
  | wrapped =>
      have hLine : '\n' ∉ (opening ++ ";").toList := by
        decide
      have hWritten :
          (opening ++ ";").toList ++ ['\n'] <:+
            written spellClass
              (ofParts (executionCall types .wrapped
                protocolFactoryField)).parts := by
        rw [written_ofParts]
        exact suffix_written_executionCall types spellClass
      have hShown := suffix_renderParts hLine hWritten
      simp only [iff_true]
      exact hShown
  | bare =>
      have hNone :=
        (Opening.writesWord_executionCall hTypes
          .bare).occurrences_renderParts Opening.isSolid_word
            hSpells
      simp only [reduceCtorEq, iff_false]
      intro hEnds
      have hSome :=
        occurrences_pos (w := Opening.word)
          (List.IsInfix.trans ⟨[], ";\n".toList, rfl⟩
            hEnds.isInfix)
      rw [hNone] at hSome
      revert hSome
      decide

/- The code that goes through a factory is consistent. -/
theorem OperationCode.enveloped_ofTypes
    (hFactory : t.factory? = some factory)
    (hTypes : types.Matches n o) :
    (ofTypes t types).Enveloped
      (factory.envelope.handled types.response) := by
  have hReturns :
      (ofTypes t types).method.returns =
        .class types.response :=
    rfl
  have hHandled :
      factory.envelope.handled types.response =
          responseOf (.class types.response) ↔
        factory.envelope = .wrapped := by
    cases factory.envelope <;>
      simp [Envelope.handled, responseOf]
  constructor
  case declared =>
    rw [ofTypes_eq hFactory]
    exact factory.declaredTypes_responseHandler _ types
  case expected =>
    rw [ofTypes_eq hFactory]
    exact ⟨_, _, createdTypes_executionCall types _⟩
  case wrapped_iff =>
    intro spellClass hSpells
    rw [hReturns, hHandled,
      opens_ofTypes_iff hFactory hTypes hSpells]
  case bare =>
    rw [hReturns, Ne, hHandled]
    intro hBare
    cases hEnvelope : factory.envelope with
    | wrapped => exact absurd hEnvelope hBare
    | bare => rfl

------------------------------------------------------------
-- Code Without Envelopes
------------------------------------------------------------

/- Classes are no envelopes. -/
@[simp]
theorem replace_class_responseOf
    (result other : TypeName)
    (c : ClassName) :
    TypeName.replace (responseOf result) other (.class c) =
      .class c :=
  TypeName.replace_class_generic

/- Without the envelope a handler makes the result itself. -/
theorem replace_handled
    (response : ClassName) :
    TypeName.replace (responseOf (.class response))
        (.class response) (Envelope.handled response .wrapped) =
      Envelope.handled response .bare :=
  TypeName.replace_self _ _

/- So it is with what types are made of. -/
theorem replace_generic_handled
    {raw : ClassName}
    (hOther : raw ≠ Sdk.amazonWebServiceResponse)
    (before : List ClassName)
    (response : ClassName) :
    TypeName.replace (responseOf (.class response))
        (.class response)
        (.generic raw (before.map .class ++
          [Envelope.handled response .wrapped])) =
      .generic raw (before.map .class ++
        [Envelope.handled response .bare]) := by
  rw [responseOf, TypeName.replace_generic_of_ne hOther]
  congr 1
  induction before with
  | nil =>
      rw [List.map_nil, List.nil_append, TypeName.replaceAll,
        TypeName.replaceAll]
      exact congrArg (· :: []) (replace_handled response)
  | cons c before ih =>
      rw [List.map_cons, List.cons_append,
        TypeName.replaceAll, TypeName.replace_class_generic, ih]
      rfl

/- Handlers of responses differ in no more than that. -/
theorem Factory.map_replaceType_responseHandler
    {wrapping bare : Factory}
    (hWraps : wrapping.envelope = .wrapped)
    (hBare : bare.envelope = .bare)
    (s : Service)
    (types : OperationTypes) :
    (wrapping.responseHandler s types).map
        (Part.replaceType
          (responseOf (.class types.response))
          (.class types.response)) =
      bare.responseHandler s types := by
  have hHandler :
      TypeName.replace (responseOf (.class types.response))
          (.class types.response)
          (handlerOf (Envelope.handled types.response .wrapped)) =
        handlerOf (Envelope.handled types.response .bare) :=
    replace_generic_handled (by decide) [] types.response
  unfold responseHandler continued
  rw [hWraps, hBare]
  simp [Part.replaceType, hHandler]

/- So it is with calls, up to the request. -/
theorem map_replaceType_callFront
    (types : OperationTypes) :
    (callFront types
        (Envelope.handled types.response .wrapped)).map
        (Part.replaceType
          (responseOf (.class types.response))
          (.class types.response)) =
      callFront types
        (Envelope.handled types.response .bare) := by
  have hParams :
      TypeName.replace (responseOf (.class types.response))
          (.class types.response)
          (.generic Sdk.clientExecutionParams
            [.class types.request,
              Envelope.handled types.response .wrapped]) =
        .generic Sdk.clientExecutionParams
          [.class types.request,
            Envelope.handled types.response .bare] :=
    replace_generic_handled (by decide) [types.request]
      types.response
  unfold callFront
  simp [Part.replaceType, hParams]

/- Behind the request there is nothing to open. -/
theorem exists_front_executionCall
    (types : OperationTypes) :
    ∃ front,
      ofParts (executionCall types .wrapped
          protocolFactoryField) =
          ofParts (front ++ [.text opening] ++
            [.text ";\n", .unindent, .unindent]) ∧
        ofParts (executionCall types .bare
          protocolFactoryField) =
          (ofParts (front ++
            [.text ";\n", .unindent, .unindent])).replaceType
              (responseOf (.class types.response))
              (.class types.response) := by
  let input : Part :=
    .text (".withInput(" ++ types.input.text ++ "))")
  refine ⟨callFront types
    (Envelope.handled types.response .wrapped) ++ [input],
    ?_, ?_⟩
  · rw [executionCall_eq_callFront]
    apply ofParts_eq_of_atoms
    simp [input, opening, Envelope.unwrap,
      -String.reduceToList]
  · rw [executionCall_eq_callFront, replaceType_ofParts,
      List.append_assoc, List.append_assoc, List.map_append,
      map_replaceType_callFront]
    apply ofParts_eq_of_atoms
    simp [input, Part.replaceType, Envelope.unwrap,
      -String.reduceToList]

/-
  Factories with and without an envelope write the same but
  for the envelope.
-/
theorem OperationCode.unwraps_ofTypes
    {u : Strategy}
    {bare : Factory}
    (hService : u.service = t.service)
    (hFactory : t.factory? = some factory)
    (hWraps : factory.envelope = .wrapped)
    (hBareFactory : u.factory? = some bare)
    (hBare : bare.envelope = .bare) :
    (ofTypes u types).Unwraps (ofTypes t types) := by
  rw [ofTypes_eq hFactory, ofTypes_eq hBareFactory, hService,
    hWraps, hBare]
  constructor
  case returns => rfl
  case handler =>
    rw [replaceType_ofParts]
    exact congrArg ofParts
      (Factory.map_replaceType_responseHandler hWraps hBare _
        types).symm
  case call => exact exists_front_executionCall types

------------------------------------------------------------
-- Strategies for JSON
------------------------------------------------------------

/- A strategy for JSON goes through the shared factory. -/
theorem Strategy.factory?_json
    (hKind : t.kind = .json) :
    t.factory? = some Factory.shared := by
  unfold factory?
  rw [hKind]

/- Behind a gateway it goes through one of the service. -/
theorem Strategy.factory?_apiGateway
    (hKind : t.kind = .apiGateway) :
    t.factory? = some (Factory.ofGateway t.names) := by
  unfold factory?
  rw [hKind]

/-
  Opening envelopes is written once where there are any, and
  nowhere in the method where there are none.
-/
theorem OperationCode.occurrences_call
    (hFactory : t.factory? = some factory)
    (hWraps : factory.envelope = .wrapped)
    (hTypes : types.Matches n o)
    {spellClass : ClassName → String}
    (hSpells : SpellsNames spellClass) :
    occurrences opening.toList
        (renderParts spellClass
          (ofTypes t types).call.parts).toList = 1 := by
  have hWrites := Opening.writesWord_executionCall hTypes .wrapped
  rw [ofTypes_eq hFactory, hWraps]
  exact hWrites.occurrences_renderParts Opening.isSolid_word
    hSpells

theorem OperationCode.occurrences_method
    (hFactory : t.factory? = some factory)
    (hBare : factory.envelope = .bare)
    (hError : factory.error.IsLegal)
    (hTypes : types.Matches n o)
    {spellClass : ClassName → String}
    (hSpells : SpellsNames spellClass) :
    occurrences opening.toList
        (renderParts spellClass
          (ofTypes t types).method.body.parts).toList = 0 := by
  have hGap : WritesWord Opening.word 0 [.text "\n"] :=
    writesWord_text (by decide)
  have hWrites :=
    ((((Opening.writesWord_responseHandler hTypes factory
      t.service).append Opening.word_ne_nil hGap).append
        Opening.word_ne_nil
        (Opening.writesWord_delegatedErrorHandler
          hError)).append Opening.word_ne_nil hGap).append
        Opening.word_ne_nil
        (Opening.writesWord_executionCall hTypes .bare)
  rw [ofTypes_eq hFactory, hBare]
  exact hWrites.occurrences_renderParts Opening.isSolid_word
    hSpells

/-
  For every service and every operation whose names can be
  used, strategies for JSON and for a gateway are consistent
  about envelopes.  The one wraps the result and opens the
  envelope once, at the end of the call.  The other writes
  the same without envelopes, and opens none anywhere.
-/
theorem envelopes_consistent
    {p : Protocol}
    {s : Service}
    (hFamily : p.isJsonFamily = true)
    (hResolve : Strategy.resolve p s = .ok t)
    (hNames : ∀ r ∈ operationRequirements o, r.holds = true) :
    ∃ u json gateway,
      Strategy.resolve .apiGateway s = .ok u ∧
        Assembly.operationCode t o = .ok json ∧
        Assembly.operationCode u o = .ok gateway ∧
        json.Enveloped (responseOf json.method.returns) ∧
        gateway.Enveloped gateway.method.returns ∧
        gateway.Unwraps json ∧
        ∀ spellClass, SpellsNames spellClass →
          occurrences opening.toList
              (renderParts spellClass
                json.call.parts).toList = 1 ∧
            occurrences opening.toList
              (renderParts spellClass
                gateway.method.body.parts).toList = 0 := by
  rcases Strategy.resolve_eq_ok_iff.mp hResolve with
    ⟨hService, hKind, rfl⟩
  rw [StrategyKind.ofProtocol_eq_json_iff.mpr hFamily] at hKind
  let u : Strategy := ⟨.apiGateway, t.service, t.names⟩
  rcases (t.names.checks_operation o).exists_ok_iff.mpr hNames
    with ⟨types, hOperation⟩
  have hTypes := Names.matches_of_operation hOperation
  have hJson := t.factory?_json hKind
  have hGateway := u.factory?_apiGateway rfl
  have hError : (Factory.ofGateway u.names).error.IsLegal := by
    simp [Factory.ofGateway]
  refine ⟨u, OperationCode.ofTypes t types,
    OperationCode.ofTypes u types, ?_, ?_, ?_, ?_, ?_, ?_, ?_⟩
  · exact Strategy.resolve_eq_ok_iff.mpr ⟨hService, rfl, rfl⟩
  · rw [Assembly.operationCode_eq, hOperation]
    rfl
  · rw [Assembly.operationCode_eq, hOperation]
    rfl
  · exact OperationCode.enveloped_ofTypes hJson hTypes
  · exact OperationCode.enveloped_ofTypes hGateway hTypes
  · exact OperationCode.unwraps_ofTypes rfl hJson rfl hGateway
      rfl
  · intro spellClass hSpells
    exact ⟨OperationCode.occurrences_call hJson rfl hTypes
        hSpells,
      OperationCode.occurrences_method hGateway rfl hError
        hTypes hSpells⟩

/- So it is when the bookshop takes an order. -/
theorem envelopes_consistent_bookshop :
    ∃ t u json gateway,
      Strategy.resolve .json bookshop = .ok t ∧
        Strategy.resolve .apiGateway bookshop = .ok u ∧
        Assembly.operationCode t (Operation.named "Order") =
          .ok json ∧
        Assembly.operationCode u (Operation.named "Order") =
          .ok gateway ∧
        json.Enveloped (responseOf json.method.returns) ∧
        gateway.Enveloped gateway.method.returns ∧
        json.Opens ClassName.relative ∧
        ¬gateway.Opens ClassName.relative := by
  have hResolve :
      Strategy.resolve .json bookshop =
        .ok ⟨.json, bookshop, _⟩ :=
    rfl
  rcases envelopes_consistent rfl hResolve
      (o := Operation.named "Order") (by decide) with
    ⟨u, json, gateway, hGateway, hJsonCode, hGatewayCode,
      hJson, hBare, -, hTexts⟩
  refine ⟨_, u, json, gateway, hResolve, hGateway, hJsonCode,
    hGatewayCode, hJson, hBare, ?_, ?_⟩
  · exact (hJson.wrapped_iff _ spellsNames_relative).mp rfl
  · intro hOpens
    have hSame :=
      (hBare.wrapped_iff _ spellsNames_relative).mpr hOpens
    exact ne_responseOf _ hSame

end ClientGen.Client
