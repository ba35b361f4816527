import ClientGen.Proofs.Client.Declared
import ClientGen.Proofs.Client.FilePaths

/-
  What the protocol of a service has a say in: the client
  that talks to the service, and nothing else.

  Main declarations include:
    * `Service.withProtocol`
    * `SyncParts.rebind`
    * `Role.declare_rebind`
    * `SyncParts.ofService_withProtocol`
    * `AgreeBeyond`
    * `generate_withProtocol`

  Two services that differ in their protocol alone are
  generated for side by side.  Both runs make the same
  checks, and their parts differ in what the strategies put
  into the client.
-/

namespace ClientGen.Model

/- The same service with another protocol. -/
def Service.withProtocol
    (s : Service)
    (protocol : Protocol) :
    Service :=
  { s with metadata := { s.metadata with protocol } }

end ClientGen.Model

namespace ClientGen.Client

open ClientGen.Java ClientGen.Model

------------------------------------------------------------
-- Rebinding
------------------------------------------------------------

/- The strategy for another protocol of the service. -/
def Strategy.rebind
    (t : Strategy)
    (protocol : Protocol) :
    Strategy where
  kind := StrategyKind.ofProtocol protocol
  service := t.service.withProtocol protocol
  names := t.names

/- The parts for another protocol, with its initializer. -/
def SyncParts.rebind
    (p : SyncParts)
    (protocol : Protocol)
    (initializer : Method) :
    SyncParts :=
  { p with
    strategy := p.strategy.rebind protocol
    initializer }

variable {s : Service}
variable {p : SyncParts}
variable {protocol : Protocol}

/- No type but the client looks at the protocol. -/
theorem Role.declare_rebind
    {role : Role}
    (hRole : role ≠ .syncClient)
    (initializer : Method) :
    role.declare (p.rebind protocol initializer) =
      role.declare p := by
  cases role with
  | syncClient => exact absurd rfl hRole
  | syncInterface => rfl
  | asyncInterface => rfl
  | asyncClient => rfl
  | baseBuilder => rfl
  | syncBuilderInterface => rfl
  | syncBuilder => rfl
  | asyncBuilderInterface => rfl
  | asyncBuilder => rfl

/- A file is the same if the type in it is. -/
theorem SyncParts.file_rebind
    {role : Role}
    {initializer : Method}
    (hType :
      role.declare (p.rebind protocol initializer) =
        role.declare p)
    (emitter : Emitter) :
    (p.rebind protocol initializer).file emitter role =
      p.file emitter role := by
  unfold file
  rw [hType]
  rfl

/-
  With another protocol the parts are those of the service
  itself, apart from the strategy and its initializer.
-/
theorem SyncParts.Checked.eq_rebind
    {q : SyncParts}
    (hParts : Checked s p)
    (hOther : Checked (s.withProtocol protocol) q) :
    q = p.rebind protocol q.initializer := by
  have hNames : q.strategy.names = p.strategy.names :=
    Except.ok.inj
      (hOther.strategy_eq.1.symm.trans hParts.strategy_eq.1)
  have hStrategy :
      q.strategy = p.strategy.rebind protocol := by
    rw [hOther.strategy_eq.2, hNames, Strategy.rebind,
      hParts.service_eq]
    rfl
  have hAdvanced := hOther.advanced
  have hPresigners := hOther.presigners
  have hOperations := hOther.operations
  rw [hNames] at hAdvanced hPresigners hOperations
  have hAdvancedEq : q.advanced = p.advanced :=
    Except.ok.inj (hAdvanced.symm.trans hParts.advanced)
  have hPresignersEq : q.presigners = p.presigners :=
    Except.ok.inj (hPresigners.symm.trans hParts.presigners)
  have hOperationsEq : q.operations = p.operations :=
    Except.ok.inj (hOperations.symm.trans hParts.operations)
  unfold rebind
  rw [← hStrategy, ← hAdvancedEq, ← hPresignersEq,
    ← hOperationsEq]

/-
  Where the initializers of the strategies are the same, the
  parts are there for both protocols or for neither.
-/
theorem SyncParts.ofService_withProtocol
    (hInitializer :
      ∀ names,
        Strategy.initializer
            ⟨StrategyKind.ofProtocol protocol,
              s.withProtocol protocol, names⟩ =
          Strategy.initializer
            ⟨StrategyKind.ofProtocol s.protocol, s, names⟩) :
    ofService (s.withProtocol protocol) =
      (ofService s).map fun p =>
        p.rebind protocol p.initializer := by
  have hNames :
      Names.ofService (s.withProtocol protocol) =
        Names.ofService s :=
    rfl
  unfold ofService Strategy.resolve
  rw [hNames]
  rcases Names.ofService s with fault | names
  · rfl
  · have hAdvanced :
        names.advancedConfiguration (s.withProtocol protocol) =
          names.advancedConfiguration s :=
      rfl
    have hPresigners :
        names.presigners (s.withProtocol protocol) =
          names.presigners s :=
      rfl
    have hOperations :
        names.operations (s.withProtocol protocol) =
          names.operations s :=
      rfl
    simp only [bind, Except.bind]
    rw [hAdvanced, hPresigners, hOperations]
    rcases names.advancedConfiguration s with
      fault | advanced
    · rfl
    · rcases names.presigners s with fault | presigners
      · rfl
      · rcases names.operations s with fault | operations
        · rfl
        · have hInit := hInitializer names
          simp only [Service.protocol, Service.withProtocol]
            at hInit ⊢
          rw [hInit]
          rcases Strategy.initializer _ with
            fault | initializer <;> rfl

------------------------------------------------------------
-- Clients of Related Protocols
------------------------------------------------------------

/- The client for rest-json is that for json. -/
theorem SyncParts.declaration_rebind_restJson
    (hKind : p.strategy.kind = .json) :
    (p.rebind .restJson p.initializer).declaration =
      p.declaration := by
  rcases p with ⟨⟨kind, service, names⟩, _, _, _, _⟩
  cases hKind
  rfl

/- The client for rest-xml is that for query. -/
theorem SyncParts.declaration_rebind_restXml
    (hKind : p.strategy.kind = .queryXml) :
    (p.rebind .restXml p.initializer).declaration =
      p.declaration := by
  rcases p with ⟨⟨kind, service, names⟩, _, _, _, _⟩
  cases hKind
  rfl

/- The client for ec2 has one more method at its end. -/
theorem SyncParts.declaration_rebind_ec2
    (hKind : p.strategy.kind = .queryXml) :
    (p.rebind .ec2 p.initializer).declaration =
      { p.declaration with
        methods :=
          p.declaration.methods ++
            [DryRun.method p.strategy.names] } := by
  rcases p with ⟨⟨kind, service, names⟩, _, _, _, _⟩
  cases hKind
  simp only [declaration, methods, Strategy.additional,
    List.append_nil]
  rfl

/-
  The same files are generated for another protocol if its
  strategy has the same initializer and makes the same
  client.
-/
theorem generate_withProtocol_eq
    (hInitializer :
      ∀ names,
        Strategy.initializer
            ⟨StrategyKind.ofProtocol protocol,
              s.withProtocol protocol, names⟩ =
          Strategy.initializer
            ⟨StrategyKind.ofProtocol s.protocol, s, names⟩)
    (hClient :
      ∀ p : SyncParts,
        p.strategy.kind = StrategyKind.ofProtocol s.protocol →
        (p.rebind protocol p.initializer).declaration =
          p.declaration)
    (emitter : Emitter) :
    generate (s.withProtocol protocol) emitter =
      generate s emitter := by
  rw [generate_eq, generate_eq,
    SyncParts.ofService_withProtocol hInitializer]
  cases hParts : SyncParts.ofService s with
  | error e => rfl
  | ok p =>
      have hChecked := SyncParts.ofService_eq_ok_iff.mp hParts
      have hKind :
          p.strategy.kind =
            StrategyKind.ofProtocol s.protocol := by
        rw [hChecked.strategy_eq.2]
      refine congrArg Except.ok (List.map_congr_left ?_)
      intro role _
      apply SyncParts.file_rebind
      by_cases hRole : role = .syncClient
      · subst hRole
        exact hClient p hKind
      · exact Role.declare_rebind hRole p.initializer

/-
  The client for ec2 is the one for query and the method for
  dry runs, and there is one exactly if there is the other.
-/
theorem declared_withProtocol_ec2
    (s : Service) :
    declared (s.withProtocol .ec2) .syncClient = (do
      let n ← Names.ofService s
      let client ← declared (s.withProtocol .query) .syncClient
      .ok { client with
        methods := client.methods ++ [DryRun.method n] }) := by
  have hParts :
      SyncParts.ofService (s.withProtocol .ec2) =
        (SyncParts.ofService (s.withProtocol .query)).map
          fun p => p.rebind .ec2 p.initializer :=
    SyncParts.ofService_withProtocol
      (s := s.withProtocol .query) fun _ => rfl
  rw [declared_syncClient_eq, declared_syncClient_eq, hParts]
  cases hQuery :
      SyncParts.ofService (s.withProtocol .query) with
  | error e =>
      cases hNames : Names.ofService s with
      | error fault =>
          -- Without names there are no parts, for that fault.
          have hFault :
              SyncParts.ofService (s.withProtocol .query) =
                .error fault := by
            have hSame :
                Names.ofService (s.withProtocol .query) =
                  .error fault :=
              hNames
            unfold SyncParts.ofService Strategy.resolve
            rw [hSame]
            rfl
          rw [hQuery] at hFault
          cases hFault
          rfl
      | ok n => rfl
  | ok p =>
      have hChecked := SyncParts.ofService_eq_ok_iff.mp hQuery
      have hNames : Names.ofService s = .ok p.strategy.names :=
        hChecked.strategy_eq.1
      have hKind : p.strategy.kind = .queryXml := by
        rw [hChecked.strategy_eq.2]
        rfl
      rw [hNames]
      exact congrArg Except.ok
        (SyncParts.declaration_rebind_ec2 hKind)

------------------------------------------------------------
-- Two Runs
------------------------------------------------------------

/-
  Two runs end alike: with the same fault, or with a file in
  every role, which lies where the names of the service put
  it and is the same in both, that of the one role excepted.
-/
def AgreeBeyond
    (s : Service)
    (exempt : Role)
    (x y : Except GenerationError (List GeneratedFile)) :
    Prop :=
  (∃ e, x = .error e ∧ y = .error e) ∨
    ∃ (n : Names) (file other : Role → GeneratedFile),
      Names.ofService s = .ok n ∧
        x = .ok (Role.all.map file) ∧
        y = .ok (Role.all.map other) ∧
        (∀ role,
          (file role).path = sourcePath (role.className n) ∧
            (other role).path =
              sourcePath (role.className n)) ∧
        ∀ role, role ≠ exempt → file role = other role

/- Another protocol changes no file but the client's. -/
theorem agreeBeyond_withProtocol
    (s : Service)
    (protocol : Protocol)
    (emitter : Emitter) :
    AgreeBeyond s .syncClient (generate s emitter)
      (generate (s.withProtocol protocol) emitter) := by
  have hChecks := checks_generate s emitter
  -- What is required of a service leaves its protocol out.
  have hOtherChecks :
      Checks (generate (s.withProtocol protocol) emitter)
        (requirements s) :=
    checks_generate (s.withProtocol protocol) emitter
  cases hRun : generate s emitter with
  | error e =>
      left
      exact ⟨e, rfl, hOtherChecks.eq_error_iff.mpr
        (hChecks.eq_error_iff.mp hRun)⟩
  | ok files =>
      right
      have hHolds := hChecks.exists_ok_iff.mp ⟨files, hRun⟩
      rcases hOtherChecks.exists_ok_iff.mpr hHolds with
        ⟨others, hOtherRun⟩
      rw [generate_eq] at hRun hOtherRun
      cases hParts : SyncParts.ofService s with
      | error e =>
          rw [hParts] at hRun
          cases hRun
      | ok p =>
          cases hOtherParts :
              SyncParts.ofService (s.withProtocol protocol) with
          | error e =>
              rw [hOtherParts] at hOtherRun
              cases hOtherRun
          | ok q =>
              have hP := SyncParts.ofService_eq_ok_iff.mp hParts
              have hQ :=
                SyncParts.ofService_eq_ok_iff.mp hOtherParts
              rw [hParts] at hRun
              cases hRun
              rw [generate_eq, hOtherParts, hP.eq_rebind hQ]
              refine ⟨p.strategy.names, p.file emitter, _,
                hP.strategy_eq.1, rfl, rfl, ?_, ?_⟩
              · intro role
                exact ⟨p.path_file emitter role,
                  SyncParts.path_file _ emitter role⟩
              · intro role hRole
                exact (SyncParts.file_rebind
                  (Role.declare_rebind hRole _) emitter).symm

/-
  The protocol of a service decides about its client alone:
  services that differ in nothing else meet the same fault
  or get the same files, the client's excepted.  The client
  is the same, too, for the two protocols of JSON and for
  the two of XML, and ec2 adds a method for dry runs at the
  end of the client for query.
-/
theorem generate_withProtocol
    (s : Service)
    (emitter : Emitter) :
    (∀ first second : Protocol,
      AgreeBeyond s .syncClient
        (generate (s.withProtocol first) emitter)
        (generate (s.withProtocol second) emitter)) ∧
      generate (s.withProtocol .restJson) emitter =
        generate (s.withProtocol .json) emitter ∧
      generate (s.withProtocol .restXml) emitter =
        generate (s.withProtocol .query) emitter ∧
      (declared (s.withProtocol .ec2) .syncClient = do
        let n ← Names.ofService s
        let client ←
          declared (s.withProtocol .query) .syncClient
        .ok { client with
          methods := client.methods ++ [DryRun.method n] }) ∧
      ∀ n, (DryRun.method n).kind = .method "dryRun" := by
  have hJson :
      generate ((s.withProtocol .json).withProtocol .restJson)
          emitter =
        generate (s.withProtocol .json) emitter := by
    refine generate_withProtocol_eq ?_ ?_ emitter
    · exact fun _ => rfl
    · exact fun _ => SyncParts.declaration_rebind_restJson
  have hXml :
      generate ((s.withProtocol .query).withProtocol .restXml)
          emitter =
        generate (s.withProtocol .query) emitter := by
    refine generate_withProtocol_eq ?_ ?_ emitter
    · exact fun _ => rfl
    · exact fun _ => SyncParts.declaration_rebind_restXml
  refine ⟨?_, hJson, hXml, declared_withProtocol_ec2 s,
    fun _ => rfl⟩
  intro first second
  exact agreeBeyond_withProtocol (s.withProtocol first) second
    emitter

end ClientGen.Client
