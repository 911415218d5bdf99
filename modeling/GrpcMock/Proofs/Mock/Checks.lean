import GrpcMock.Mock.File
import GrpcMock.Proofs.Contract.Order
import GrpcMock.Proofs.Mock.Verdicts
import GrpcMock.Proofs.Payload.Failures

/-!
What is checked when mocks are made, and in which order. The checks of a contract do not depend on
each other: what is written for one case, and what it imports, has no influence on another.
-/

namespace GrpcMock.Mock

open GrpcMock.Go (Rendering Speller messageLiteral)

variable {σ α β : Type} {speller : Speller σ}

-----------------------------------------------------------------------------------------
-- Cases
-----------------------------------------------------------------------------------------

/-- A case adds to a failure where it arose, and changes nothing else. -/
theorem run_inCase {service method case : String} {rendering : Rendering σ α} {before : σ}
    : (inCase service method case rendering).run.run before
      = ((rendering.run.run before).1.mapError (.inCase service method case),
          (rendering.run.run before).2) := by
  simp only [inCase, tryCatch, tryCatchThe, MonadExceptOf.tryCatch, ExceptT.tryCatch,
    ExceptT.run_mk]
  change (rendering.run >>= _ : StateT σ Id (Except Failure α)).run before = _
  rw [StateT.run_bind]
  rcases rendering.run.run before with ⟨failure | value, between⟩ <;> rfl

/-- What settles a rendering settles it in a case as well, which its failure then names. -/
theorem Settled.inCase {service method case : String} {rendering : Rendering σ α}
    {settled : Except Failure Unit} (h : Settled rendering settled)
    : Settled (inCase service method case rendering)
        (settled.mapError (.inCase service method case)) := by
  intro before
  rw [run_inCase, ← h before]
  cases (rendering.run.run before).1 <;> rfl

-----------------------------------------------------------------------------------------
-- Checks
-----------------------------------------------------------------------------------------

/-- Something that is checked. -/
structure Check where
  /-- The case in which it stands, by the names of its service, its method and itself. -/
  case? : Option (String × String × String)
  verdict : Except Failure Unit

namespace Check

/-- The failure that is reported where a check fails. -/
def report (check : Check) (cause : Failure) : Failure :=
  match check.case? with
  | none => cause
  | some (service, method, case) => .inCase service method case cause

def outcome (check : Check) : Except Failure Unit :=
  check.verdict.mapError check.report

/-- A check comes out well if its verdict does. -/
theorem outcome_eq_ok {check : Check} : check.outcome = .ok () ↔ check.verdict = .ok () := by
  unfold outcome
  cases check.verdict <;> simp [Except.mapError]

/-- It comes out with the failure of its verdict, as it is reported. -/
theorem outcome_eq_error {check : Check} {failure : Failure}
    : check.outcome = .error failure
      ↔ ∃ cause, check.verdict = .error cause ∧ failure = check.report cause := by
  unfold outcome
  cases check.verdict <;> simp [Except.mapError, eq_comm]

end Check

/-- What comes after a demand succeeds if the demand is met. -/
theorem demand_eq_ok {condition : Bool} {failure : Failure} {next : Except Failure Unit}
    : (if !condition then (throw failure : Except Failure PUnit) >>= fun _ => next else next)
        = .ok ()
      ↔ condition ∧ next = .ok () := by
  cases condition with
  | false => exact iff_of_false nofun fun both => Bool.false_ne_true both.1
  | true => exact (and_iff_right rfl).symm

/-- The settings can be used if all names in them are names in Go and there is the code. -/
theorem config_check_eq_ok {config : Config}
    : config.check = .ok ()
      ↔ (∀ name ∈ config.packageName, Config.isGoName name)
        ∧ Config.isGoName config.stubPrefix
        ∧ StatusCode.isName config.unmatchedCode := by
  have last
      : (if !StatusCode.isName config.unmatchedCode then throw (.unknownCode config.unmatchedCode)
          else pure ())
          = (.ok () : Except Failure Unit)
        ↔ StatusCode.isName config.unmatchedCode := by
    split
    · rename_i unknown
      exact iff_of_false nofun (by simpa using unknown)
    · rename_i known
      exact iff_of_true rfl (by simpa using known)
  unfold Config.check
  dsimp only
  split
  · rename_i name given
    rw [demand_eq_ok, demand_eq_ok, last, given]
    simp
  · rename_i given
    rw [demand_eq_ok, last, given]
    simp

/-- The settings that are there from the start are allowed. -/
theorem config_check_standard : Config.standard.check = .ok () :=
  config_check_eq_ok.mpr ⟨nofun, by decide, by decide⟩

/-- Whether a payload can be read and has a literal. The bare names of identifiers are enough to
tell. -/
def payloadVerdict (schema : MessageSchema) (payload : Json) (path : String)
    : Except Failure Unit := do
  let message ← Payload.readMessage schema payload path
  verdict (messageLiteral (.ofFunction GoIdent.name) schema message).outcome

def codeVerdict (code : String) : Except Failure Unit :=
  if code ∈ StatusCode.names then .ok () else .error (.unknownCode code)

/-- In a success, the request comes before the response. -/
def successVerdicts (method : MethodSchema) (case : SuccessCase) : List (Except Failure Unit) :=
  [payloadVerdict method.input case.request "request",
    payloadVerdict method.output case.response "response"]

/-- In a failure, the code comes before the request. -/
def failureVerdicts (method : MethodSchema) (case : FailureCase) : List (Except Failure Unit) :=
  [codeVerdict case.status.code, payloadVerdict method.input case.request "request"]

/-- The checks of cases of one sort, which are numbered. -/
def caseChecks (service : ServiceSchema) (method : MethodSchema) (sort : String)
    (description : α → String) (verdicts : α → List (Except Failure Unit)) (cases : List (α × Nat))
    : List Check :=
  cases.flatMap fun (case, index) =>
    (verdicts case).map fun verdict =>
      ⟨some (service.name, method.name, caseName (description case) sort index), verdict⟩

/-- The successes of a method come before its failures. -/
def allCaseChecks (service : ServiceSchema) (method : MethodSchema) (cases : Cases) : List Check :=
  caseChecks service method "success" SuccessCase.description (successVerdicts method)
      cases.successes.zipIdx
    ++ caseChecks service method "failure" FailureCase.description (failureVerdicts method)
      cases.failures.zipIdx

/-- The checks for a method of a service: that it is declared, and then those of its cases. -/
def methodChecks (name : String) (service : ServiceSchema) (entry : String × Cases) : List Check :=
  match service.method? entry.1 with
  | none => [⟨none, .error (.unknownMethod name entry.1)⟩]
  | some method => allCaseChecks service method entry.2

/-- The checks for a service: that it is declared, and then those of its methods. -/
def serviceChecks (package : Package) (entry : String × List (String × Cases)) : List Check :=
  match package.service? entry.1 with
  | none => [⟨none, .error (.unknownService entry.1)⟩]
  | some service => entry.2.flatMap (methodChecks entry.1 service)

/-- All checks in the order in which they are made: the settings, and then service by service. -/
def checks (package : Package) (contract : Contract) (config : Config) : List Check :=
  ⟨none, config.check⟩ :: contract.services.flatMap (serviceChecks package)

-----------------------------------------------------------------------------------------
-- The checks that a rendering makes
-----------------------------------------------------------------------------------------

/-- Whether a message has a literal is told by the bare names of identifiers. -/
theorem messageLiteral_settled {schema : MessageSchema} {message : MessageValue}
    : Settled (messageLiteral speller schema message)
        (verdict (messageLiteral (.ofFunction GoIdent.name) schema message).outcome) :=
  .of_alike (Go.messageLiteral_alike schema message)

/-- Whether a payload has a literal is told by its verdict. -/
theorem payloadLiteral_settled {schema : MessageSchema} {payload : Json} {path : String}
    : Settled (payloadLiteral speller schema payload path)
        (payloadVerdict schema payload path) := by
  unfold payloadLiteral payloadVerdict
  cases Payload.readMessage schema payload path with
  | error failure => exact .throw_bind
  | ok message => exact messageLiteral_settled

/-- Whether a request can be tested is told by the verdict on its payload. -/
theorem requestTest_settled {method : MethodSchema} {request : Json}
    : Settled (requestTest speller method request)
        (payloadVerdict method.input request "request") :=
  .andThen payloadLiteral_settled fun _ => .after .write fun _ => .pure

/-- Writing the error of a status never fails. -/
theorem statusError_settled {code message : String}
    : Settled (statusError speller code message) (.ok ()) :=
  .after .write fun _ => .after .write fun _ => .pure

/-- A success fails at the first of its verdicts that does. -/
theorem successBranch_settled {method : MethodSchema} {case : SuccessCase}
    : Settled (successBranch speller method case) (forM (successVerdicts method case) id) := by
  simp only [successVerdicts, List.forM_cons, List.forM_nil, bind_pure_unit]
  exact .bind requestTest_settled fun _ => .andThen payloadLiteral_settled fun _ => .pure

/-- So does a failure, whose code is looked at first. -/
theorem failureBranch_settled {method : MethodSchema} {case : FailureCase}
    : Settled (failureBranch speller method case) (forM (failureVerdicts method case) id) := by
  simp only [failureVerdicts, List.forM_cons, List.forM_nil, bind_pure_unit, codeVerdict]
  unfold failureBranch
  by_cases named : case.status.code ∈ StatusCode.names
  · have isName : StatusCode.isName case.status.code := List.contains_iff_mem.mpr named
    rw [if_pos named, isName]
    exact .andThen requestTest_settled fun _ => .after statusError_settled fun _ => .pure
  · have notName : StatusCode.isName case.status.code = false :=
      Bool.eq_false_iff.mpr (mt List.contains_iff_mem.mp named)
    rw [if_neg named, notName]
    exact .throw_bind

/-- The checks of a case, one after the other, fail as the checks of what stands in it do. -/
theorem forM_inCase {service method case : String} (verdicts : List (Except Failure Unit))
    : forM (verdicts.map fun verdict => ⟨some (service, method, case), verdict⟩) Check.outcome
      = Except.mapError (.inCase service method case) (forM verdicts id) := by
  induction verdicts with
  | nil => rfl
  | cons first rest ih =>
      rw [List.map_cons, List.forM_cons, List.forM_cons, ih]
      cases first <;> rfl

/-- Successes fail at the first check that does, by induction on them. -/
theorem successBranches_settled {service : ServiceSchema} {method : MethodSchema} {index : Nat}
    {cases : List SuccessCase}
    : Settled (successBranches speller service method index cases)
        (forM
          (caseChecks service method "success" SuccessCase.description (successVerdicts method)
            (cases.zipIdx index))
          Check.outcome) := by
  induction cases generalizing index with
  | nil => exact .pure
  | cons first rest ih =>
      rw [List.zipIdx_cons, caseChecks, List.flatMap_cons, List.forM_append, forM_inCase]
      exact .bind (.inCase successBranch_settled) fun _ => .andThen ih fun _ => .pure

/-- So do failures. -/
theorem failureBranches_settled {service : ServiceSchema} {method : MethodSchema} {index : Nat}
    {cases : List FailureCase}
    : Settled (failureBranches speller service method index cases)
        (forM
          (caseChecks service method "failure" FailureCase.description (failureVerdicts method)
            (cases.zipIdx index))
          Check.outcome) := by
  induction cases generalizing index with
  | nil => exact .pure
  | cons first rest ih =>
      rw [List.zipIdx_cons, caseChecks, List.flatMap_cons, List.forM_append, forM_inCase]
      exact .bind (.inCase failureBranch_settled) fun _ => .andThen ih fun _ => .pure

/-- A handler fails at the first check of its cases that does. -/
theorem handler_settled {config : Config} {service : ServiceSchema} {method : MethodSchema}
    {cases : Cases}
    : Settled (handler speller config service method cases)
        (forM (allCaseChecks service method cases) Check.outcome) := by
  rw [allCaseChecks, List.forM_append]
  refine .after .write fun _ => .after .write fun _ => .after .write fun _ => ?_
  refine .bind successBranches_settled fun _ => .andThen failureBranches_settled fun _ => ?_
  exact .after statusError_settled fun _ => .pure

/-- The handlers of a service fail at the first check of its methods, by induction on these. -/
theorem handlers_settled {config : Config} {name : String} {service : ServiceSchema}
    {methods : List (String × Cases)}
    : Settled (handlers speller config name service methods)
        (forM (methods.flatMap (methodChecks name service)) Check.outcome) := by
  induction methods with
  | nil => exact .pure
  | cons first rest ih =>
      rw [handlers, List.flatMap_cons, List.forM_append, methodChecks]
      cases service.method? first.1 with
      | none => exact .throw
      | some method => exact .bind handler_settled fun _ => .andThen ih fun _ => .pure

/-- The servers of a contract fail at the first check of its services, by induction on these. -/
theorem servers_settled {config : Config} {package : Package} {contractName : String}
    {services : List (String × List (String × Cases))}
    : Settled (servers speller config package contractName services)
        (forM (services.flatMap (serviceChecks package)) Check.outcome) := by
  induction services with
  | nil => exact .pure
  | cons first rest ih =>
      rw [servers, List.flatMap_cons, List.forM_append, serviceChecks]
      cases package.service? first.1 with
      | none => exact .throw
      | some service =>
          refine .after (.after .write fun _ => .pure) fun _ => ?_
          exact .bind handlers_settled fun _ => .andThen ih fun _ => .pure

/-- Mocks are made if all checks pass, and else the first check that fails decides the failure. -/
theorem verdict_generate (package : Package) (contract : Contract) (config : Config)
    : verdict (generate package contract config)
      = forM (checks package contract config) Check.outcome := by
  have body
      : Settled (servers .imports config package contract.name contract.services) _ :=
    servers_settled
  rw [checks, List.forM_cons, ← body (.empty (localPath config package))]
  unfold generate Check.outcome
  cases config.check with
  | error failure => rfl
  | ok => exact verdict_bind_pure

end GrpcMock.Mock
