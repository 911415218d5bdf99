import GrpcMock.Proofs.Mock.Checks
import GrpcMock.Proofs.Payload.Conformance

/-!
Contracts for which mocks can be made. All that a contract mentions must be declared and all its
payloads must fit; else the first offence in the order of the contract is reported, with the case in
which it lies if it lies in one.
-/

namespace GrpcMock.Mock

open GrpcMock.Go (Speller messageLiteral)

variable {α : Type}

-----------------------------------------------------------------------------------------
-- Sound contracts
-----------------------------------------------------------------------------------------

/-- A payload can be read, and what is read has a literal, whatever is mentioned before it. -/
def Compiles (schema : MessageSchema) (payload : Json) (path : String) : Prop :=
  ∃ message,
    Payload.readMessage schema payload path = .ok message
    ∧ ∀ (σ : Type) (speller : Speller σ) (before : σ),
        ∃ text after, (messageLiteral speller schema message).run.run before = (.ok text, after)

structure SoundSuccess (method : MethodSchema) (case : SuccessCase) : Prop where
  request : Compiles method.input case.request "request"
  response : Compiles method.output case.response "response"

structure SoundFailure (method : MethodSchema) (case : FailureCase) : Prop where
  code : case.status.code ∈ StatusCode.names
  request : Compiles method.input case.request "request"

/-- The settings can be used, the schema declares what the contract mentions, and every case of the
contract can be written. -/
structure Sound (package : Package) (contract : Contract) (config : Config) : Prop where
  settings : config.check = .ok ()
  services
    : ∀ service ∈ contract.services, ∃ declared,
        package.service? service.1 = some declared
        ∧ ∀ method ∈ service.2, ∃ schema,
            declared.method? method.1 = some schema
            ∧ (∀ case ∈ method.2.successes, SoundSuccess schema case)
            ∧ ∀ case ∈ method.2.failures, SoundFailure schema case

-----------------------------------------------------------------------------------------
-- Checks that pass
-----------------------------------------------------------------------------------------

/-- It does not matter in which case something stands if it is in order. -/
def Passes (checks : List Check) : Prop :=
  ∀ check ∈ checks, check.verdict = .ok ()

/-- The check of a payload passes exactly if the payload compiles. The check writes a literal with
one speller only, and whether that succeeds does not depend on the speller. -/
theorem payloadVerdict_eq_ok {schema : MessageSchema} {payload : Json} {path : String}
    : payloadVerdict schema payload path = .ok () ↔ Compiles schema payload path := by
  unfold payloadVerdict
  rw [bind_eq_ok]
  refine exists_congr fun message => and_congr_right fun _ => ?_
  constructor
  · intro passed σ speller before
    have success
        : ∃ text, ((messageLiteral speller schema message).run.run before).1 = .ok text :=
      verdict_eq_ok.mp ((messageLiteral_settled before).trans passed)
    obtain ⟨text, written⟩ := success
    exact ⟨text, _, Prod.ext written rfl⟩
  · intro all
    obtain ⟨text, after, written⟩ := all Unit (.ofFunction GoIdent.name) ()
    exact verdict_eq_ok.mpr ⟨text, congrArg Prod.fst written⟩

/-- The check of a code passes exactly if the code has one of the known names. -/
theorem codeVerdict_eq_ok {code : String}
    : codeVerdict code = .ok () ↔ code ∈ StatusCode.names := by
  unfold codeVerdict
  split <;> simp_all

/-- The checks of some cases pass if all verdicts on each case do; the numbers of the cases do not
matter. -/
theorem passes_caseChecks {service : ServiceSchema} {method : MethodSchema} {sort : String}
    {description : α → String} {verdicts : α → List (Except Failure Unit)} {cases : List α}
    : Passes (caseChecks service method sort description verdicts cases.zipIdx)
      ↔ ∀ case ∈ cases, ∀ verdict ∈ verdicts case, verdict = .ok () := by
  simp only [Passes, caseChecks, List.forall_mem_flatMap, List.forall_mem_map]
  conv_rhs => rw [← List.zipIdx_map_fst 0 cases, List.forall_mem_map]

/-- Checks that come one after the other pass if both parts do. -/
theorem passes_append {left right : List Check}
    : Passes (left ++ right) ↔ Passes left ∧ Passes right :=
  List.forall_mem_append

/-- The checks of several items pass if those of each item do. -/
theorem passes_flatMap {items : List α} {f : α → List Check}
    : Passes (items.flatMap f) ↔ ∀ item ∈ items, Passes (f item) :=
  List.forall_mem_flatMap

/-- The checks of a method's cases pass exactly if every case is sound. -/
theorem passes_allCaseChecks {service : ServiceSchema} {method : MethodSchema} {cases : Cases}
    : Passes (allCaseChecks service method cases)
      ↔ (∀ case ∈ cases.successes, SoundSuccess method case)
        ∧ ∀ case ∈ cases.failures, SoundFailure method case := by
  rw [allCaseChecks, passes_append, passes_caseChecks, passes_caseChecks]
  refine and_congr (forall₂_congr fun case _ => ?_) (forall₂_congr fun case _ => ?_)
  · simp only [successVerdicts, List.forall_mem_cons, payloadVerdict_eq_ok]
    exact ⟨fun sound => ⟨sound.1, sound.2.1⟩,
      fun sound => ⟨sound.1, sound.2, List.forall_mem_nil _⟩⟩
  · simp only [failureVerdicts, List.forall_mem_cons, payloadVerdict_eq_ok, codeVerdict_eq_ok]
    exact ⟨fun sound => ⟨sound.1, sound.2.1⟩,
      fun sound => ⟨sound.1, sound.2, List.forall_mem_nil _⟩⟩

/-- The checks of a method pass exactly if it is declared and its cases are sound. -/
theorem passes_methodChecks {name : String} {service : ServiceSchema} {entry : String × Cases}
    : Passes (methodChecks name service entry)
      ↔ ∃ schema,
          service.method? entry.1 = some schema
          ∧ (∀ case ∈ entry.2.successes, SoundSuccess schema case)
          ∧ ∀ case ∈ entry.2.failures, SoundFailure schema case := by
  unfold methodChecks
  cases service.method? entry.1 with
  | none => simp [Passes]
  | some method => simp [passes_allCaseChecks]

/-- The checks of a service pass exactly if it is declared and its methods are sound. -/
theorem passes_serviceChecks {package : Package} {entry : String × List (String × Cases)}
    : Passes (serviceChecks package entry)
      ↔ ∃ declared,
          package.service? entry.1 = some declared
          ∧ ∀ method ∈ entry.2, ∃ schema,
              declared.method? method.1 = some schema
              ∧ (∀ case ∈ method.2.successes, SoundSuccess schema case)
              ∧ ∀ case ∈ method.2.failures, SoundFailure schema case := by
  unfold serviceChecks
  cases package.service? entry.1 with
  | none => simp [Passes]
  | some service => simp [passes_flatMap, passes_methodChecks]

/-- All checks of a contract pass exactly if it is sound. -/
theorem passes_checks {package : Package} {contract : Contract} {config : Config}
    : Passes (checks package contract config) ↔ Sound package contract config := by
  rw [checks, Passes, List.forall_mem_cons]
  constructor
  · rintro ⟨settings, others⟩
    refine ⟨settings, fun service member => ?_⟩
    exact passes_serviceChecks.mp (passes_flatMap.mp others service member)
  · rintro ⟨settings, services⟩
    refine ⟨settings, passes_flatMap.mpr fun service member => ?_⟩
    exact passes_serviceChecks.mpr (services service member)

-----------------------------------------------------------------------------------------
-- Checks that fail
-----------------------------------------------------------------------------------------

/-- What the checks fail with does not lie in a case until it is reported. -/
def Direct (checks : List Check) : Prop :=
  ∀ check ∈ checks, FailsDirectly check.verdict

/-- The check of the settings knows of no cases. -/
theorem config_direct {config : Config} : FailsDirectly config.check := by
  unfold Config.check
  dsimp only
  split
  · split
    · exact .throw_bind Bool.false_ne_true
    split
    · exact .throw_bind Bool.false_ne_true
    split
    · exact .throw Bool.false_ne_true
    · exact .ok
  · split
    · exact .throw_bind Bool.false_ne_true
    split
    · exact .throw Bool.false_ne_true
    · exact .ok

/-- Neither does the check of a payload, for reading it and for writing its literal. -/
theorem payloadVerdict_direct {schema : MessageSchema} {payload : Json} {path : String}
    : FailsDirectly (payloadVerdict schema payload path) :=
  .bind (Payload.readMessage_direct schema payload path) fun message =>
    .map (Go.messageLiteral_direct schema message)

/-- Neither does the check of a code. -/
theorem codeVerdict_direct {code : String} : FailsDirectly (codeVerdict code) := by
  unfold codeVerdict
  split
  · exact .ok
  · exact .error Bool.false_ne_true

/-- The checks of some cases are direct if all verdicts on them are; the case is added when one is
reported. -/
theorem direct_caseChecks {service : ServiceSchema} {method : MethodSchema} {sort : String}
    {description : α → String} {verdicts : α → List (Except Failure Unit)}
    {cases : List (α × Nat)} (h : ∀ case, ∀ verdict ∈ verdicts case, FailsDirectly verdict)
    : Direct (caseChecks service method sort description verdicts cases) := by
  simp only [Direct, caseChecks, List.forall_mem_flatMap, List.forall_mem_map]
  exact fun numbered _ => h numbered.1

/-- So all verdicts on the cases of a method are direct. -/
theorem direct_allCaseChecks {service : ServiceSchema} {method : MethodSchema} {cases : Cases}
    : Direct (allCaseChecks service method cases) := by
  refine List.forall_mem_append.mpr
    ⟨direct_caseChecks fun case => ?_, direct_caseChecks fun case => ?_⟩
  · simp only [successVerdicts, List.forall_mem_cons]
    exact ⟨payloadVerdict_direct, payloadVerdict_direct, List.forall_mem_nil _⟩
  · simp only [failureVerdicts, List.forall_mem_cons]
    exact ⟨codeVerdict_direct, payloadVerdict_direct, List.forall_mem_nil _⟩

/-- A single failure that lies in no case is a direct check. -/
theorem direct_singleton {failure : Failure} (direct : ¬failure.isInCase)
    : Direct [⟨none, .error failure⟩] :=
  List.forall_mem_singleton.mpr (.error direct)

/-- The checks of a service are direct, those of unknown services and methods too. -/
theorem direct_serviceChecks {package : Package} {entry : String × List (String × Cases)}
    : Direct (serviceChecks package entry) := by
  unfold serviceChecks
  split
  · exact direct_singleton Bool.false_ne_true
  · refine List.forall_mem_flatMap.mpr fun method _ => ?_
    unfold methodChecks
    split
    · exact direct_singleton Bool.false_ne_true
    · exact direct_allCaseChecks

/-- All checks of a contract are direct, so each failure names its case at most once. -/
theorem direct_checks {package : Package} {contract : Contract} {config : Config}
    : Direct (checks package contract config) :=
  List.forall_mem_cons.mpr
    ⟨config_direct, List.forall_mem_flatMap.mpr fun _ _ => direct_serviceChecks⟩

/-- Mocks are made exactly if the settings can be used, all services and methods of the contract
are declared, and all its payloads and codes are in order. Else the first check that fails is
reported: the checks come in the order of the contract, and a failure says in which case it arose
exactly if it arose in one, and says so once. Contracts that are read are in the order of the names
of their services and methods. -/
theorem generate_outcome (package : Package) (contract : Contract) (config : Config)
    : ((∃ text, generate package contract config = .ok text) ↔ Sound package contract config)
      ∧ (∀ failure,
          generate package contract config = .error failure
          ↔ ∃ earlier check later cause,
              checks package contract config = earlier ++ check :: later
              ∧ (∀ other ∈ earlier, other.verdict = .ok ())
              ∧ check.verdict = .error cause
              ∧ ¬cause.isInCase
              ∧ failure = check.report cause)
      ∧ ∀ format text,
          Contract.ofText format text = .ok contract → Contract.Ordered contract.services := by
  refine ⟨?_, fun failure => ?_, fun _ _ => Contract.ordered_of_ofText⟩
  · rw [← passes_checks, ← verdict_eq_ok, verdict_generate, forM_eq_ok]
    exact forall₂_congr fun check _ => check.outcome_eq_ok
  · rw [← verdict_eq_error, verdict_generate, forM_eq_error]
    constructor
    · rintro ⟨earlier, check, later, same, passed, failed⟩
      obtain ⟨cause, arose, reported⟩ := Check.outcome_eq_error.mp failed
      have listed : check ∈ checks package contract config := by simp [same]
      exact ⟨earlier, check, later, cause, same,
        fun other member => Check.outcome_eq_ok.mp (passed other member), arose,
        direct_checks check listed cause arose, reported⟩
    · rintro ⟨earlier, check, later, cause, same, passed, arose, _, reported⟩
      exact ⟨earlier, check, later, same,
        fun other member => Check.outcome_eq_ok.mpr (passed other member),
        Check.outcome_eq_error.mpr ⟨cause, arose, reported⟩⟩

-----------------------------------------------------------------------------------------
-- A lost parcel
-----------------------------------------------------------------------------------------

open GrpcMock.Payload (itemSchema parcelPackage parcelPayload parcelSchema)

def sendMethod : MethodSchema :=
  ⟨"Send", "Send", parcelSchema, itemSchema⟩

/-- The package of parcels, with a service that sends them. -/
def postPackage : Package :=
  { parcelPackage with services := [⟨"Post", "Post", "Post", [sendMethod]⟩] }

/-- A parcel that is sent, and one that is lost with a code that there is not. -/
def postContract : Contract :=
  {
    name := "post",
    services :=
      [("Post", [("Send", ⟨[⟨"", parcelPayload, .null⟩], [⟨"", .null, ⟨"Lost", ""⟩⟩]⟩)])]
  }

/-- A contract whose services are written in another order than that of their names. -/
def swappedText : String :=
  "\x7b\"name\": \"post\", \"services\": \x7b\"Post\": \x7b\x7d, \"Desk\": \x7b\x7d\x7d\x7d"

/-- The first offence comes after three checks that pass. -/
theorem generate_outcome_post
    : generate postPackage postContract .standard
        = .error (.inCase "Post" "Send" "failure case #1" (.unknownCode "Lost"))
      ∧ ∃ contract,
          Contract.ofText .json swappedText = .ok contract
          ∧ contract.services.map Prod.fst = ["Desk", "Post"]
          ∧ Contract.Ordered contract.services := by
  have passed
      : ∀ other ∈ (checks postPackage postContract .standard).take 3, other.verdict = .ok () := by
    have settings : Config.standard.check = .ok () := by rfl
    have request : payloadVerdict parcelSchema parcelPayload "request" = .ok () := by rfl
    have response : payloadVerdict itemSchema .null "response" = .ok () := by rfl
    refine List.forall_mem_cons.mpr ⟨settings, List.forall_mem_cons.mpr ⟨request, ?_⟩⟩
    exact List.forall_mem_singleton.mpr response
  have names
      : (Contract.ofText .json swappedText).toOption.map (·.services.map Prod.fst)
        = some ["Desk", "Post"] := by
    decide +kernel
  obtain ⟨contract, read, sorted⟩ := Option.map_eq_some_iff.mp names
  have given := toOption_eq_some.mp read
  constructor
  · exact ((generate_outcome _ _ _).2.1 _).mpr
      ⟨_, ⟨some ("Post", "Send", "failure case #1"), _⟩, [_], .unknownCode "Lost", rfl, passed, rfl,
        Bool.false_ne_true, rfl⟩
  · exact ⟨contract, given, sorted,
      (generate_outcome postPackage contract .standard).2.2 _ _ given⟩

end GrpcMock.Mock
