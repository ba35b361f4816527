import ClientGen.Proofs.Client.Declared
import ClientGen.Proofs.Code.Tokens

/-
  The exceptions that a client makes known to the runtime.

  Main declarations include:
    * `errorMetadataCall`
    * `RegistersByCode`
    * `unmarshallerStatement`
    * `RegistersUnmarshallers`
    * `exceptions_registered`

  The body of the initializer is read as code.  With JSON all
  calls that register an error are looked up in it, wherever
  they stand; with XML all of its statements are listed.
-/

namespace ClientGen.Client

open ClientGen.Java ClientGen.Java.Code ClientGen.Model

------------------------------------------------------------
-- Registrations by Code
------------------------------------------------------------

/- The method that registers an error by its code. -/
def errorMetadataMethod : String :=
  "addErrorMetadata"

/-
  What stands behind the name of that method: one error, with
  its code as a literal and the class of the exception.
-/
def errorMetadataCall
    (code : String)
    (exception : ClassName) :
    List Token :=
  List.flatten
    [textTokens "(new ",
      [.type (.class Sdk.jsonErrorShapeMetadata)],
      textTokens "().withErrorCode(", [.literal code],
      textTokens ").withModeledClass(",
      [.type (.class exception)], textTokens ".class))"]

/-
  The code registers the exceptions of the service, once each
  and in order, and no other errors.
-/
def RegistersByCode
    (s : Service)
    (body : Code) :
    Prop :=
  List.Forall₂ (· <+: ·)
    (s.exceptions.map fun x =>
      errorMetadataCall x.errorCodeOrName
        (ClassName.inPackage s.metadata.modelPackage x.name))
    (callsOf errorMetadataMethod body.tokens)

------------------------------------------------------------
-- Lists of Unmarshallers
------------------------------------------------------------

/- The statement that makes an empty list. -/
def emptyListStatement :
    List Token :=
  List.flatten
    [[.type Xml.unmarshallerList],
      textTokens " unmarshallers = new ",
      [.type (.class Sdk.arrayList)], textTokens "<>()"]

/- The statement that adds an unmarshaller to it. -/
def unmarshallerStatement
    (unmarshaller : ClassName) :
    List Token :=
  List.flatten
    [textTokens "unmarshallers.add(new ",
      [.type (.class unmarshaller)], textTokens "())"]

/- The one that adds an unmarshaller for all other errors. -/
def standardStatement
    (base : ClassName) :
    List Token :=
  List.flatten
    [textTokens "unmarshallers.add(new ",
      [.type (.class Sdk.standardErrorUnmarshaller)],
      textTokens "(", [.type (.class base)],
      textTokens ".class))"]

/- The one that returns the list. -/
def returnStatement :
    List Token :=
  textTokens "return unmarshallers"

/-
  The code makes a list, adds an unmarshaller for every
  exception of the service, once each and in order, and one
  for the base exception, and returns the list.  There is
  nothing after that.
-/
def RegistersUnmarshallers
    (s : Service)
    (body : Code) :
    Prop :=
  body.statements =
    emptyListStatement ::
      (s.exceptions.map fun x =>
        unmarshallerStatement
          (ClassName.inPackage s.metadata.transformPackage
            (unmarshallerName x.name))) ++
      [standardStatement
          (ClassName.inPackage s.metadata.modelPackage
            s.metadata.effectiveBaseException),
        returnStatement, []]

/- What a kind of strategy registers. -/
def StrategyKind.Registers
    (s : Service)
    (body : Code) :
    StrategyKind → Prop
  | .json => RegistersByCode s body
  | .apiGateway => RegistersByCode s body
  | .queryXml => RegistersUnmarshallers s body
  | .ec2 => RegistersUnmarshallers s body

------------------------------------------------------------
-- Factories of JSON
------------------------------------------------------------

/- What an exception's setting is read as. -/
def registrationTokens
    (e : ExceptionTypes) :
    List Token :=
  .symbol '.' :: .word errorMetadataMethod ::
    errorMetadataCall e.shape.errorCodeOrName e.exception

theorem reads_errorRegistration
    (e : ExceptionTypes) :
    Reads (errorRegistration e) (registrationTokens e) := by
  have hName :
      registrationTokens e =
        List.flatten
          [textTokens ".addErrorMetadata(new ",
            [.type (.class Sdk.jsonErrorShapeMetadata)],
            textTokens "().withErrorCode(",
            [.literal e.shape.errorCodeOrName],
            textTokens ").withModeledClass(",
            [.type (.class e.exception)],
            textTokens ".class))"] :=
    rfl
  rw [hName]
  refine .cons (reads_text rfl) (.cons (reads_type _) ?_)
  refine .cons (reads_text rfl) ?_
  refine .cons (reads_quotedText _) ?_
  refine .cons (reads_text rfl) (.cons (reads_type _) ?_)
  exact .cons (reads_text rfl) reads_nil

/- A registration calls nothing else. -/
theorem word_not_mem_errorMetadataCall
    (code : String)
    (exception : ClassName) :
    Token.word errorMetadataMethod ∉
      errorMetadataCall code exception := by
  have hTexts :
      Token.word errorMetadataMethod ∉
        textTokens "(new " ++ textTokens "().withErrorCode(" ++
          textTokens ").withModeledClass(" ++
          textTokens ".class))" := by
    decide
  simpa [errorMetadataCall] using hTexts

/- A registration is found, with all that comes after it. -/
theorem callsOf_registration
    (e : ExceptionTypes)
    (rest : List Token) :
    callsOf errorMetadataMethod
        (registrationTokens e ++ rest) =
      (errorMetadataCall e.shape.errorCodeOrName e.exception ++
          rest) ::
        callsOf errorMetadataMethod rest := by
  have hDot :
      Token.word errorMetadataMethod ∉ [Token.symbol '.'] := by
    simp
  have hParts :
      registrationTokens e ++ rest =
        [Token.symbol '.'] ++ Token.word errorMetadataMethod ::
          (errorMetadataCall e.shape.errorCodeOrName
            e.exception ++ rest) :=
    rfl
  rw [hParts, callsOf_append hDot, callsOf_word,
    callsOf_append (word_not_mem_errorMetadataCall _ _)]

/- Registrations in a row are found one after the other. -/
theorem callsOf_registrations
    (exceptions : List ExceptionTypes)
    {after : List Token}
    (hAfter : Token.word errorMetadataMethod ∉ after) :
    List.Forall₂ (· <+: ·)
      (exceptions.map fun e =>
        errorMetadataCall e.shape.errorCodeOrName e.exception)
      (callsOf errorMetadataMethod
        (exceptions.flatMap registrationTokens ++ after)) := by
  induction exceptions with
  | nil =>
      rw [List.flatMap_nil, List.nil_append,
        callsOf_eq_nil hAfter]
      exact .nil
  | cons e exceptions ih =>
      rw [List.map_cons, List.flatMap_cons, List.append_assoc,
        callsOf_registration]
      exact .cons (List.prefix_append _ _) ih

/- What the settings are read as that every service has. -/
def requiredTokens
    (settings : JsonSettings) :
    List (List Token) :=
  [List.flatten
      [textTokens ".withProtocolVersion(",
        [.literal settings.version], textTokens ")"],
    textTokens (".withSupportsCbor(" ++
      boolText settings.supportsCbor ++ ")"),
    textTokens (".withSupportsIon(" ++
      boolText settings.supportsIon ++ ")"),
    List.flatten
      [textTokens ".withBaseServiceExceptionClass(",
        [.type (.class settings.baseException)],
        textTokens ".class)"]]

theorem reads_required
    (settings : JsonSettings) :
    List.Forall₂ Reads settings.required
      (requiredTokens settings) := by
  refine .cons ?_ (.cons ?_ (.cons ?_ (.cons ?_ .nil)))
  · refine .cons (reads_text rfl) ?_
    refine .cons (reads_quotedText _) ?_
    exact .cons (reads_text rfl) reads_nil
  · apply reads_text
    cases settings.supportsCbor <;> rfl
  · apply reads_text
    cases settings.supportsIon <;> rfl
  · refine .cons (reads_text rfl) (.cons (reads_type _) ?_)
    exact .cons (reads_text rfl) reads_nil

/- None of them registers an error. -/
theorem word_not_mem_requiredTokens
    (settings : JsonSettings) :
    Token.word errorMetadataMethod ∉
      (requiredTokens settings).flatten := by
  have hTexts :
      Token.word errorMetadataMethod ∉
        textTokens ".withProtocolVersion(" ++
          textTokens ")" ++
          textTokens ".withBaseServiceExceptionClass(" ++
          textTokens ".class)" := by
    decide
  have hFlags :
      ∀ flag : Bool,
        Token.word errorMetadataMethod ∉
          textTokens (".withSupportsCbor(" ++
            boolText flag ++ ")") ++
          textTokens (".withSupportsIon(" ++
            boolText flag ++ ")") := by
    decide
  have hCbor := hFlags settings.supportsCbor
  have hIon := hFlags settings.supportsIon
  simp only [List.mem_append, not_or] at hTexts hCbor hIon
  simp [requiredTokens, hTexts, hCbor, hIon]

/- Nor does a type of contents. -/
def contentTypeTokens
    (contentType : String) :
    List Token :=
  List.flatten
    [textTokens ".withContentTypeOverride(",
      [.literal contentType], textTokens ")"]

theorem reads_contentTypeOverride
    (contentType : String) :
    Reads (contentTypeOverride contentType)
      (contentTypeTokens contentType) := by
  refine .cons (reads_text rfl) ?_
  refine .cons (reads_quotedText _) ?_
  exact .cons (reads_text rfl) reads_nil

theorem word_not_mem_contentTypeTokens
    (contentType : String) :
    Token.word errorMetadataMethod ∉
      contentTypeTokens contentType := by
  have hTexts :
      Token.word errorMetadataMethod ∉
        textTokens ".withContentTypeOverride(" ++
          textTokens ")" := by
    decide
  simpa [contentTypeTokens] using hTexts

/- What all settings are read as, the exceptions excepted. -/
def generalTokens
    (settings : JsonSettings) :
    List (List Token) :=
  requiredTokens settings ++
    settings.contentType.toList.map contentTypeTokens

theorem word_not_mem_generalTokens
    (settings : JsonSettings) :
    Token.word errorMetadataMethod ∉
      (generalTokens settings).flatten := by
  unfold generalTokens
  rw [List.flatten_append, List.mem_append, not_or]
  refine ⟨word_not_mem_requiredTokens settings, ?_⟩
  intro hMem
  rcases List.mem_flatten.mp hMem with ⟨ts, hTs, hIn⟩
  rcases List.mem_map.mp hTs with ⟨contentType, _, rfl⟩
  exact word_not_mem_contentTypeTokens contentType hIn

/- Settings are read one after the other. -/
theorem reads_parts
    (settings : JsonSettings) :
    List.Forall₂ Reads settings.parts
      (generalTokens settings ++
        settings.exceptions.map registrationTokens) := by
  have hContentType :
      List.Forall₂ Reads
        (settings.contentType.toList.map contentTypeOverride)
        (settings.contentType.toList.map
          contentTypeTokens) :=
    forall₂_map reads_contentTypeOverride _
  have hExceptions :
      List.Forall₂ Reads
        (settings.exceptions.map errorRegistration)
        (settings.exceptions.map registrationTokens) :=
    forall₂_map reads_errorRegistration _
  exact List.rel_append
    (List.rel_append (reads_required settings) hContentType)
    hExceptions

/- What stands before the settings. -/
def factoryTokens
    (f : Factory) :
    List Token :=
  List.flatten
    [textTokens "return new ", [.type (.class f.type)],
      textTokens "(new ",
      [.type (.class Sdk.jsonClientMetadata)],
      textTokens "()\n"]

theorem word_not_mem_factoryTokens
    (f : Factory) :
    Token.word errorMetadataMethod ∉ factoryTokens f := by
  have hTexts :
      Token.word errorMetadataMethod ∉
        textTokens "return new " ++ textTokens "(new " ++
          textTokens "()\n" := by
    decide
  simpa [factoryTokens] using hTexts

/- The whole of the initializer of a factory. -/
theorem Factory.tokens_initializer
    (f : Factory)
    (settings : JsonSettings) :
    (f.initializer settings).body.tokens =
      factoryTokens f ++ ((generalTokens settings).flatten ++
        (settings.exceptions.flatMap registrationTokens ++
          textTokens ");\n")) := by
  have hHead :
      Reads
        ["return new ", f.type, "(new ",
          Sdk.jsonClientMetadata, "()\n"]
        (factoryTokens f) := by
    refine .cons (reads_text rfl) (.cons (reads_type _) ?_)
    refine .cons (reads_text rfl) (.cons (reads_type _) ?_)
    exact .cons (reads_text rfl) reads_nil
  have hLines := reads_join (reads_parts settings)
  have hBody :=
    hHead.continued (hLines.append (reads_text (s := ");\n") rfl))
  rw [List.flatten_append, List.append_assoc,
    ← List.flatMap_def] at hBody
  exact hBody.tokens_eq

/- A factory is told of every exception, in order. -/
theorem Factory.registers_initializer
    (f : Factory)
    (settings : JsonSettings) :
    List.Forall₂ (· <+: ·)
      (settings.exceptions.map fun e =>
        errorMetadataCall e.shape.errorCodeOrName e.exception)
      (callsOf errorMetadataMethod
        (f.initializer settings).body.tokens) := by
  have hAfter :
      Token.word errorMetadataMethod ∉ textTokens ");\n" := by
    decide
  rw [tokens_initializer,
    callsOf_append (word_not_mem_factoryTokens f),
    callsOf_append (word_not_mem_generalTokens settings)]
  exact callsOf_registrations settings.exceptions hAfter

------------------------------------------------------------
-- Initializers of XML
------------------------------------------------------------

/- The statements of the initializer, in order. -/
def addingStatements
    (base : ClassName)
    (exceptions : List ExceptionTypes) :
    List (List Token) :=
  emptyListStatement ::
    (exceptions.map fun e =>
      unmarshallerStatement e.unmarshaller) ++
    [standardStatement base, returnStatement]

/- No statement holds the end of one. -/
theorem semicolon_not_mem_addingStatements
    {base : ClassName}
    {exceptions : List ExceptionTypes} :
    ∀ ts ∈ addingStatements base exceptions,
      Token.symbol ';' ∉ ts := by
  have hTexts :
      Token.symbol ';' ∉
        textTokens " unmarshallers = new " ++
          textTokens "<>()" ++
          textTokens "unmarshallers.add(new " ++
          textTokens "())" ++ textTokens "(" ++
          textTokens ".class))" := by
    decide
  have hReturn : Token.symbol ';' ∉ returnStatement := by
    decide
  simp only [List.mem_append, not_or] at hTexts
  intro ts hTs
  simp only [addingStatements, List.mem_append, List.mem_cons,
    List.mem_map, List.not_mem_nil, or_false] at hTs
  rcases hTs with (rfl | ⟨e, _, rfl⟩) | rfl | rfl
  · simp [emptyListStatement, hTexts]
  · simp [unmarshallerStatement, hTexts]
  · simp [standardStatement, hTexts]
  · exact hReturn

/- The body is read as these statements. -/
theorem Xml.tokens_initializer
    (names : Names)
    (exceptions : List ExceptionTypes) :
    (initializer names exceptions).body.tokens =
      (addingStatements names.baseException
        exceptions).flatMap (· ++ [Token.symbol ';']) := by
  have hEnd : Reads [.text ";\n"] [.symbol ';'] :=
    rfl
  have hEmpty :
      Reads
        (statement [unmarshallerList, " unmarshallers = new ",
          Sdk.arrayList, "<>()"])
        (emptyListStatement ++ [Token.symbol ';']) := by
    refine .append ?_ hEnd
    refine .cons (reads_type _) (.cons (reads_text rfl) ?_)
    refine .cons (reads_type _) ?_
    exact .cons (reads_text rfl) reads_nil
  have hAdded :
      Reads (exceptions.flatMap errorRegistration)
        ((exceptions.map fun e =>
          unmarshallerStatement e.unmarshaller).flatMap
            (· ++ [Token.symbol ';'])) := by
    induction exceptions with
    | nil => exact reads_nil
    | cons e exceptions ih =>
        rw [List.flatMap_cons, List.map_cons,
          List.flatMap_cons]
        refine .append (.append ?_ hEnd) ih
        refine .cons (reads_text rfl) ?_
        refine .cons (reads_type _) ?_
        exact .cons (reads_text rfl) reads_nil
  have hStandard :
      Reads
        (statement ["unmarshallers.add(new ",
          Sdk.standardErrorUnmarshaller, "(",
          names.baseException, ".class))"])
        (standardStatement names.baseException ++
          [Token.symbol ';']) := by
    refine .append ?_ hEnd
    refine .cons (reads_text rfl) (.cons (reads_type _) ?_)
    refine .cons (reads_text rfl) (.cons (reads_type _) ?_)
    exact .cons (reads_text rfl) reads_nil
  -- The word before the semicolon ends only with it.
  have hReturn :
      Reads (statement ["return unmarshallers"])
        (returnStatement ++ [Token.symbol ';']) :=
    rfl
  have hBody :=
    ((hEmpty.append hAdded).append hStandard).append hReturn
  refine hBody.tokens_eq.trans ?_
  simp [addingStatements]

/- A list gets the unmarshaller of every exception. -/
theorem Xml.statements_initializer
    (names : Names)
    (exceptions : List ExceptionTypes) :
    (initializer names exceptions).body.statements =
      addingStatements names.baseException exceptions ++
        [[]] := by
  unfold Code.statements
  rw [tokens_initializer]
  exact splitOn_flatMap semicolon_not_mem_addingStatements

------------------------------------------------------------
-- Strategies
------------------------------------------------------------

/- A factory registers the exceptions of the model. -/
theorem registersByCode_initializer
    {s : Service}
    {names : Names}
    {settings : JsonSettings}
    (hNames : Names.ofService s = .ok names)
    (hExceptions :
      names.exceptions s = .ok settings.exceptions)
    (f : Factory) :
    RegistersByCode s (f.initializer settings).body := by
  have hCalls :
      (settings.exceptions.map fun e =>
          errorMetadataCall e.shape.errorCodeOrName
            e.exception) =
        s.exceptions.map fun x =>
          errorMetadataCall x.errorCodeOrName
            (ClassName.inPackage s.metadata.modelPackage
              x.name) := by
    apply map_eq_of_mapM_eq_ok _ hExceptions
    intro x e hTypes
    have hMatches := Names.matches_of_exception hTypes
    rw [hMatches.shape, hMatches.exception,
      Names.modelClass_eq hNames]
  unfold RegistersByCode
  rw [← hCalls]
  exact f.registers_initializer settings

/- So does a list of unmarshallers. -/
theorem registersUnmarshallers_initializer
    {s : Service}
    {names : Names}
    {exceptions : List ExceptionTypes}
    (hNames : Names.ofService s = .ok names)
    (hExceptions : names.exceptions s = .ok exceptions) :
    RegistersUnmarshallers s
      (Xml.initializer names exceptions).body := by
  have hAdded :
      (exceptions.map fun e =>
          unmarshallerStatement e.unmarshaller) =
        s.exceptions.map fun x =>
          unmarshallerStatement
            (ClassName.inPackage s.metadata.transformPackage
              (unmarshallerName x.name)) := by
    apply map_eq_of_mapM_eq_ok _ hExceptions
    intro x e hTypes
    rw [(Names.matches_of_exception hTypes).unmarshaller,
      Names.transformClass_eq hNames]
  have hBase :
      names.baseException =
        ClassName.inPackage s.metadata.modelPackage
          s.metadata.effectiveBaseException := by
    unfold Names.baseException
    rw [Names.modelClass_eq hNames,
      (Names.ofService_eq_ok_iff.mp hNames).2.2]
  unfold RegistersUnmarshallers
  rw [Xml.statements_initializer, addingStatements, hAdded,
    hBase, List.append_assoc]
  rfl

/-
  The initializer of a strategy, for whatever protocol it is,
  registers the exceptions of its service: all of them, in
  the order of the model, none of them twice, and nothing
  else but what stands for all other errors.
-/
theorem exceptions_registered
    {protocol : Protocol}
    {s : Service}
    {t : Strategy}
    {m : Method}
    (hResolved : Strategy.resolve protocol s = .ok t)
    (hInitializer : Assembly.Strategy.initializer t = .ok m) :
    (StrategyKind.ofProtocol protocol).Registers s m.body := by
  rcases Strategy.resolve_eq_ok_iff.mp hResolved with
    ⟨hNames, hKind, rfl⟩
  rw [Assembly.Strategy.initializer_eq] at hInitializer
  rw [← hKind]
  rcases Strategy.initializer_cases hInitializer with
    ⟨factory, settings, hFactory, hSettings, rfl⟩ |
      ⟨exceptions, hFactory, hExceptions, rfl⟩
  · have hCodes :=
      registersByCode_initializer hNames
        (Strategy.of_settings hSettings).2 factory
    cases hOf : t.kind with
    | json => exact hCodes
    | apiGateway => exact hCodes
    | queryXml => simp [Strategy.factory?, hOf] at hFactory
    | ec2 => simp [Strategy.factory?, hOf] at hFactory
  · have hAdded :=
      registersUnmarshallers_initializer hNames hExceptions
    cases hOf : t.kind with
    | json => simp [Strategy.factory?, hOf] at hFactory
    | apiGateway => simp [Strategy.factory?, hOf] at hFactory
    | queryXml => exact hAdded
    | ec2 => exact hAdded

/- The exceptions of the bookshop, one without a code. -/
theorem exceptions_registered_bookshop :
    ∃ t m, Strategy.resolve .json bookshop = .ok t ∧
      Assembly.Strategy.initializer t = .ok m ∧
      List.Forall₂ (· <+: ·)
        [errorMetadataCall "Stock\"Empty\""
            (ClassName.inPackage "com.example.bookshop.model"
              "SoldOut"),
          errorMetadataCall "LateOrder"
            (ClassName.inPackage "com.example.bookshop.model"
              "LateOrder")]
        (callsOf errorMetadataMethod m.body.tokens) := by
  rcases exists_generate_bookshop Emitter.standard with
    ⟨files, hFiles⟩
  rcases exists_parts_of_generate hFiles with ⟨p, hParts, -⟩
  have hInitializer :
      Assembly.Strategy.initializer p.strategy =
        .ok p.initializer := by
    rw [Assembly.Strategy.initializer_eq, hParts.initializer]
  exact ⟨p.strategy, p.initializer, hParts.resolved,
    hInitializer,
    exceptions_registered hParts.resolved hInitializer⟩

end ClientGen.Client
