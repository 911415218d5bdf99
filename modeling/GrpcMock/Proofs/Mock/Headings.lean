import GrpcMock.Proofs.Go.OneLine
import GrpcMock.Proofs.Mock.Imports

/-!
The lines of a file with mocks. How many there are, and what each of them declares, follows from the
services and methods of the contract and from the number of its cases, whatever its texts say.
-/

namespace GrpcMock

/-- Of the cases of a method, which have no description. -/
def Cases.outline (cases : Cases) : List Bool × List Bool :=
  (cases.successes.map (·.description.isEmpty), cases.failures.map (·.description.isEmpty))

/-- What is left of the services of a contract without all texts that are free. -/
def Contract.outlineOf (services : List (String × List (String × Cases)))
    : List (String × List (String × (List Bool × List Bool))) :=
  services.map fun (service, methods) =>
    (service, methods.map fun (method, cases) => (method, cases.outline))

/-- The services and methods of a contract, and for each case whether it has a description. -/
def Contract.outline (contract : Contract)
    : List (String × List (String × (List Bool × List Bool))) :=
  Contract.outlineOf contract.services

namespace Mock

open GrpcMock.Go (Imports Rendering Speller Yields oneLine_composite)
open GrpcMock.Text
  (OneLine isNameChar lines lines_append newline_not_mem_quote newline_not_mem_singleLine quote
    singleLine stripStart?)

-----------------------------------------------------------------------------------------
-- Declarations
-----------------------------------------------------------------------------------------

/-- What a line at the top of a Go file declares: a type, or a method of a type. -/
inductive Declaration where
  | type (name : String)
  | method (type name : String)
  deriving DecidableEq, Repr

/-- The word with which a text begins. -/
def leadingWord (text : String) : String :=
  String.ofList (text.toList.takeWhile isNameChar)

/-- What a line declares, if it does. The type of a method stands in front of its name. -/
def declaration? (line : String) : Option Declaration :=
  match stripStart? "type " line with
  | some rest => some (.type (leadingWord rest))
  | none => do
      let rest ← stripStart? "func (s *" line
      let type := leadingWord rest
      let rest ← stripStart? (type ++ ") ") rest
      pure (.method type (leadingWord rest))

/-- What each line of a text declares, line by line. -/
def headings (text : String) : List (Option Declaration) :=
  (lines text).map declaration?

/-- A word ends where something else begins. -/
theorem leadingWord_append {word rest : String} (h : IsWord word)
    (ends : rest.toList.head?.all fun c => !isNameChar c)
    : leadingWord (word ++ rest) = word := by
  have none : rest.toList.takeWhile isNameChar = [] := by
    cases chars : rest.toList with
    | nil => rfl
    | cons c more =>
        rw [chars] at ends
        exact List.takeWhile_cons_of_neg (by simpa using ends)
  rw [leadingWord, String.toList_append, List.takeWhile_append_of_pos h, none, List.append_nil,
    String.ofList_toList]

/-- The head of a type declares it. -/
theorem declaration?_type {name : String} (h : IsWord name)
    : declaration? ("type " ++ (name ++ " struct \x7b")) = some (.type name) := by
  have word : leadingWord (name ++ " struct \x7b") = name := leadingWord_append h (by decide)
  rw [declaration?, Text.stripStart?_append]
  simp only [word]

/-- The head of a method declares it for its type. -/
theorem declaration?_method {type name rest : String} (ht : IsWord type) (hn : IsWord name)
    : declaration? ("func (s *" ++ (type ++ (") " ++ (name ++ ("(" ++ rest)))))
      = some (.method type name) := by
  have notType
      : stripStart? "type " ("func (s *" ++ (type ++ (") " ++ (name ++ ("(" ++ rest))))) = none :=
    Text.stripStart?_eq_none (c := 't') (by decide) (by simp)
  have first : leadingWord (type ++ (") " ++ (name ++ ("(" ++ rest)))) = type :=
    leadingWord_append ht (by simp [isNameChar])
  have second : leadingWord (name ++ ("(" ++ rest)) = name :=
    leadingWord_append hn (by simp [isNameChar])
  have typed
      : stripStart? (type ++ ") ") (type ++ (") " ++ (name ++ ("(" ++ rest))))
        = some (name ++ ("(" ++ rest)) := by
    rw [← String.append_assoc, Text.stripStart?_append]
  rw [declaration?, notType]
  dsimp only
  rw [Text.stripStart?_append, Option.bind_eq_bind, Option.bind_some, first, typed]
  simp only [Option.bind_some, Option.pure_def, second]

/-- No line declares anything that begins in another way than declarations do. -/
theorem declaration?_other {start rest : String}
    (h : start.toList.head?.any fun c => c != 't' && c != 'f')
    : declaration? (start ++ rest) = none := by
  obtain ⟨c, begins, other⟩ := (Option.any_eq_true _ _).mp h
  have head : (start ++ rest).toList.head? = some c := by
    rw [String.toList_append, List.head?_append, begins, Option.some_or]
  obtain ⟨notType, notMethod⟩ : c ≠ 't' ∧ c ≠ 'f' := by simpa using other
  have type : stripStart? "type " (start ++ rest) = none :=
    Text.stripStart?_eq_none (c := 't') (by decide) fun same =>
      notType (Option.some.inj (head.symm.trans same))
  have method : stripStart? "func (s *" (start ++ rest) = none :=
    Text.stripStart?_eq_none (c := 'f') (by decide) fun same =>
      notMethod (Option.some.inj (head.symm.trans same))
  rw [declaration?, type, method]
  rfl

-----------------------------------------------------------------------------------------
-- Lines one after the other
-----------------------------------------------------------------------------------------

/-- A line break ends the line before it. -/
theorem headings_line {first rest : String} (h : OneLine first)
    : headings (first ++ ("\n" ++ rest)) = declaration? first :: headings rest := by
  rw [headings, lines_append, h.lines]
  rfl

/-- A text without line breaks is one line. -/
theorem headings_last {text : String} (h : OneLine text) : headings text = [declaration? text] := by
  rw [headings, h.lines]
  rfl

/-- A line that begins with something else than a declaration. -/
theorem headings_other {start middle rest : String} (hs : OneLine start) (hm : OneLine middle)
    (other : start.toList.head?.any fun c => c != 't' && c != 'f')
    : headings (start ++ (middle ++ ("\n" ++ rest))) = none :: headings rest := by
  rw [← String.append_assoc, headings_line (hs.append hm), declaration?_other other]

/-- Texts that are put below each other have the lines of each, by induction on them. -/
theorem headings_intercalate {parts : List String} (filled : parts ≠ [])
    : headings ("\n".intercalate parts) = parts.flatMap headings := by
  rw [headings, Text.lines_intercalate filled, List.map_flatMap]
  rfl

/-- There is one line more than there are line breaks. -/
theorem length_headings (text : String) : (headings text).length = text.toList.count '\n' + 1 := by
  rw [headings, List.length_map, Text.length_lines]

-----------------------------------------------------------------------------------------
-- Branches
-----------------------------------------------------------------------------------------

/-- The lines of a branch, which declare nothing. One of them is the comment, if there is one. -/
def caseHeadings (bare : Bool) : List (Option Declaration) :=
  List.replicate (if bare then 3 else 4) none

/-- A branch of a handler has three lines, and one more for the comment with its description. -/
theorem headings_branch {description test result : String} (ht : OneLine test)
    (hr : OneLine result)
    : headings (branch description test result) = caseHeadings description.isEmpty := by
  have bare
      : headings ("\t" ++ ((test ++ " \x7b")
          ++ ("\n" ++ ("\t\treturn " ++ (result ++ ("\n" ++ "\t\x7d"))))))
        = [none, none, none] := by
    rw [headings_other (by decide) (ht.append (by decide)) (by decide),
      headings_other (by decide) hr (by decide), headings_last (by decide)]
    rfl
  have split : (" \x7b\n\t\treturn " : String) = " \x7b" ++ ("\n" ++ "\t\treturn ") := by decide
  have ending : ("\n\t\x7d" : String) = "\n" ++ "\t\x7d" := by decide
  unfold branch comment caseHeadings
  cases empty : description.isEmpty with
  | true =>
      simp only [if_true, String.empty_append, split, ending, String.append_assoc] at bare ⊢
      exact bare
  | false =>
      simp only [Bool.false_eq_true, if_false, split, ending, String.append_assoc] at bare ⊢
      rw [headings_other (by decide) (newline_not_mem_singleLine description) (by decide), bare]
      rfl

/-- In which case something is rendered matters only if it fails. -/
theorem Yields.inCase {holds : String → Prop} {service method case : String}
    {rendering : Rendering Imports String} (h : Yields holds rendering)
    : Yields holds (inCase service method case rendering) :=
  fun before text after named run => h before text after named (run_inCase_eq_ok run)

/-- The error of a status stands on one line, as its message is quoted. -/
theorem statusError_oneLine {code message : String} (named : StatusCode.isName code)
    : Yields OneLine (statusError .imports code message) := by
  refine Yields.bind (.write (by decide)) fun error oneLine => ?_
  refine Yields.bind (.write (isWord_of_isName named).oneLine) fun status oneLineToo => .pure ?_
  exact ((((oneLine.append (by decide)).append oneLineToo).append (by decide)).append
    (newline_not_mem_quote message)).append (by decide)

section Branches

variable {package : Package} (h : package.WellFormed) (named : package.GoNamed)

include h named

/-- The literal of a payload stands on one line. -/
theorem payloadLiteral_oneLine {schema : MessageSchema} (member : schema ∈ package.messages)
    {payload : Json} {path : String}
    : Yields OneLine (payloadLiteral .imports schema payload path) := by
  unfold payloadLiteral
  cases Payload.readMessage schema payload path with
  | error failure => exact .throw_bind
  | ok fields => exact Go.messageLiteral_oneLine h named member fields

variable {method : MethodSchema} (input : method.input ∈ package.messages)

include input

/-- So does the test of a request. -/
theorem requestTest_oneLine {request : Json}
    : Yields OneLine (requestTest .imports method request) := by
  refine (payloadLiteral_oneLine h named input).bind fun _ literal => ?_
  refine Yields.bind (.write (by decide)) fun _ function => .pure ?_
  exact (((OneLine.append (by decide) function).append (by decide)).append literal).append
    (by decide)

/-- The branch of a success declares nothing, whatever it answers. -/
theorem successBranch_headings (output : method.output ∈ package.messages) {case : SuccessCase}
    : Yields (fun text => headings text = caseHeadings case.description.isEmpty)
        (successBranch .imports method case) := by
  refine (requestTest_oneLine h named input).bind fun _ test => ?_
  refine (payloadLiteral_oneLine h named output).bind fun _ response => .pure ?_
  exact headings_branch test ((OneLine.append (by decide) response).append (by decide))

/-- Neither does that of a failure. -/
theorem failureBranch_headings {case : FailureCase}
    : Yields (fun text => headings text = caseHeadings case.description.isEmpty)
        (failureBranch .imports method case) := by
  unfold failureBranch
  split
  · exact .throw_bind
  rename_i known
  refine (requestTest_oneLine h named input).bind fun _ test => ?_
  refine (statusError_oneLine (by simpa using known)).bind fun _ error => .pure ?_
  exact headings_branch test (OneLine.append (by decide) error)

/-- The branches for successes, by induction on the cases. -/
theorem successBranches_headings (output : method.output ∈ package.messages)
    {service : ServiceSchema} {index : Nat} {cases : List SuccessCase}
    : Yields
        (fun texts =>
          texts.flatMap headings = (cases.map (·.description.isEmpty)).flatMap caseHeadings)
        (successBranches .imports service method index cases) := by
  induction cases generalizing index with
  | nil => exact .pure rfl
  | cons case rest ih =>
      refine (Yields.inCase (successBranch_headings h named input output)).bind fun _ first => ?_
      refine ih.bind fun _ others => .pure ?_
      rw [List.flatMap_cons, first, others]
      rfl

/-- The branches for failures, by induction on the cases. -/
theorem failureBranches_headings {service : ServiceSchema} {index : Nat} {cases : List FailureCase}
    : Yields
        (fun texts =>
          texts.flatMap headings = (cases.map (·.description.isEmpty)).flatMap caseHeadings)
        (failureBranches .imports service method index cases) := by
  induction cases generalizing index with
  | nil => exact .pure rfl
  | cons case rest ih =>
      refine (Yields.inCase (failureBranch_headings h named input)).bind fun _ first => ?_
      refine ih.bind fun _ others => .pure ?_
      rw [List.flatMap_cons, first, others]
      rfl

end Branches

-----------------------------------------------------------------------------------------
-- Servers
-----------------------------------------------------------------------------------------

/-- The lines of a type: a comment, its head, what it embeds, its end and an empty line. -/
def typeHeadings (config : Config) (service : ServiceSchema) : List (Option Declaration) :=
  [none, some (.type (stubName config service)), none, none, none]

/-- The lines of a method: its head, its branches, and the answer to all other requests. -/
def handlerHeadings (config : Config) (service : ServiceSchema) (method : MethodSchema)
    (outline : List Bool × List Bool) : List (Option Declaration) :=
  some (.method (stubName config service) method.goName)
    :: (outline.1.flatMap caseHeadings ++ (outline.2.flatMap caseHeadings ++ [none, none, none]))

/-- The lines of the methods of a contract that a service has. -/
def handlersHeadings (config : Config) (service : ServiceSchema)
    (methods : List (String × (List Bool × List Bool))) : List (Option Declaration) :=
  methods.flatMap fun (name, outline) =>
    match service.method? name with
    | none => []
    | some method => handlerHeadings config service method outline

/-- The lines of all mocks, for the services of a contract that a package has. -/
def serversHeadings (config : Config) (package : Package)
    (services : List (String × List (String × (List Bool × List Bool))))
    : List (Option Declaration) :=
  services.flatMap fun (name, methods) =>
    match package.service? name with
    | none => []
    | some service => typeHeadings config service ++ handlersHeadings config service methods

/-- The type of a server declares itself in its second line. -/
theorem serverType_headings {package : Package} {config : Config}
    (started : Config.isGoName config.stubPrefix) {service : ServiceSchema}
    (named : service.GoNamed) {contractName : String}
    : Yields (fun text => headings text = typeHeadings config service)
        (serverType .imports config package service contractName) := by
  have stub := isWord_stubName started named.goName
  have server : IsWord ("Unimplemented" ++ service.goName ++ "Server") :=
    (IsWord.append (by decide) named.goName).append (by decide)
  refine Yields.bind (.write server.oneLine) fun embedded oneLine => .pure ?_
  have quoted : OneLine (quote contractName) := newline_not_mem_quote contractName
  have comment
      : OneLine (stubName config service ++ (" answers " ++ (service.fullName
          ++ (" calls from contract " ++ (quote contractName ++ "."))))) :=
    stub.oneLine.append (OneLine.append (by decide) (OneLine.append named.fullName
      (OneLine.append (by decide) (quoted.append (by decide)))))
  have opening : OneLine ("type " ++ (stubName config service ++ " struct \x7b")) :=
    OneLine.append (by decide) (stub.oneLine.append (by decide))
  have first : (".\ntype " : String) = "." ++ ("\n" ++ "type ") := by decide
  have second : (" struct \x7b\n\t" : String) = " struct \x7b" ++ ("\n" ++ "\t") := by decide
  have third : ("\n\x7d\n" : String) = "\n" ++ ("\x7d" ++ ("\n" ++ "")) := by decide
  have body
      : headings (("type " ++ (stubName config service ++ " struct \x7b"))
          ++ ("\n" ++ ("\t" ++ (embedded ++ ("\n" ++ ("\x7d" ++ ("\n" ++ "")))))))
        = [some (.type (stubName config service)), none, none, none] := by
    rw [headings_line opening, declaration?_type stub,
      headings_other (by decide) oneLine (by decide), headings_line (by decide),
      headings_last (by decide)]
    rfl
  have whole := (headings_other (by decide : OneLine "// ") comment (by decide)).trans
    (congrArg (none :: ·) body)
  simp only [first, second, third, String.append_assoc] at whole ⊢
  exact whole

section Servers

variable {package : Package} (h : package.WellFormed) (named : package.GoNamed)
  {config : Config} (checked : config.check = .ok ())

include h named checked

/-- The handler of a method declares it and nothing else, however many cases it has. -/
theorem handler_headings {service : ServiceSchema} {method : MethodSchema}
    (member : service ∈ package.services) (listed : method ∈ service.methods) {cases : Cases}
    : Yields (fun text => headings text = handlerHeadings config service method cases.outline)
        (handler .imports config service method cases) := by
  obtain ⟨-, started, coded⟩ := config_check_eq_ok.mp checked
  obtain ⟨inputMember, outputMember⟩ := h.methods service member method listed
  have names := named.services service member
  have stub := isWord_stubName started names.goName
  have name := names.methods method listed
  refine Yields.bind (.write (by decide)) fun context contextLine => ?_
  refine Yields.bind (.write (named.messages _ inputMember).oneLine) fun input inputLine => ?_
  refine Yields.bind (.write (named.messages _ outputMember).oneLine) fun output outputLine => ?_
  refine (successBranches_headings h named inputMember outputMember).bind
    fun successes successLines => ?_
  refine (failureBranches_headings h named inputMember).bind fun failures failureLines => ?_
  refine (statusError_oneLine coded).bind fun unmatched unmatchedLine => .pure ?_
  have types
      : OneLine ("ctx " ++ (context ++ (", req *" ++ (input ++ (") (*" ++ (output
          ++ ", error) \x7b")))))) :=
    OneLine.append (by decide) (contextLine.append (OneLine.append (by decide) (inputLine.append
      (OneLine.append (by decide) (outputLine.append (by decide))))))
  have opening
      : OneLine ("func (s *" ++ (stubName config service ++ (") " ++ (method.goName
          ++ ("(" ++ ("ctx " ++ (context ++ (", req *" ++ (input ++ (") (*" ++ (output
            ++ ", error) \x7b"))))))))))) :=
    OneLine.append (by decide) (stub.oneLine.append (OneLine.append (by decide)
      (name.oneLine.append (OneLine.append (by decide) types))))
  have start : ("(ctx " : String) = "(" ++ "ctx " := by decide
  have last : ("\x7d\n" : String) = "\x7d" ++ ("\n" ++ "") := by decide
  rw [headings_intercalate (List.cons_ne_nil _ _)]
  simp only [start, String.append_assoc, List.append_assoc, List.flatMap_cons, List.flatMap_append,
    List.flatMap_nil, successLines, failureLines]
  rw [headings_last opening, declaration?_method stub name,
    headings_last (OneLine.append (by decide) unmatchedLine), declaration?_other (by decide), last,
    headings_line (by decide), headings_last (by decide)]
  rfl

/-- The methods of a mock, by induction on those of the contract. -/
theorem handlers_headings {service : ServiceSchema} (member : service ∈ package.services)
    {serviceName : String} {methods : List (String × Cases)}
    : Yields
        (fun texts =>
          texts.flatMap headings
            = handlersHeadings config service
                (methods.map fun (method, cases) => (method, cases.outline)))
        (handlers .imports config serviceName service methods) := by
  induction methods with
  | nil => exact .pure rfl
  | cons method rest ih =>
      rw [handlers]
      split
      · exact .throw
      rename_i schema found
      have listed : schema ∈ service.methods := List.mem_of_find?_eq_some found
      refine (handler_headings h named checked member listed).bind fun _ first => ?_
      refine ih.bind fun _ others => .pure ?_
      rw [List.flatMap_cons, first, others]
      simp only [handlersHeadings, List.map_cons, List.flatMap_cons, found]

/-- All mocks of a file, by induction on the services of the contract. -/
theorem servers_headings {contractName : String} {services : List (String × List (String × Cases))}
    : Yields
        (fun texts =>
          texts.flatMap headings
            = serversHeadings config package (Contract.outlineOf services))
        (servers .imports config package contractName services) := by
  induction services with
  | nil => exact .pure rfl
  | cons service rest ih =>
      rw [servers]
      split
      · exact .throw
      rename_i schema found
      have member : schema ∈ package.services := List.mem_of_find?_eq_some found
      have started := (config_check_eq_ok.mp checked).2.1
      refine (serverType_headings started (named.services schema member)).bind fun _ type => ?_
      refine (handlers_headings h named checked member).bind fun _ methods => ?_
      refine ih.bind fun _ others => .pure ?_
      rw [List.cons_append, List.flatMap_cons, List.flatMap_append, type, methods, others]
      simp only [serversHeadings, Contract.outlineOf, List.map_cons, List.flatMap_cons, found,
        List.append_assoc]

end Servers

-----------------------------------------------------------------------------------------
-- Files
-----------------------------------------------------------------------------------------

/-- What a file imports when all its mocks have been written. -/
def imported (package : Package) (contract : Contract) (config : Config) : Imports :=
  ((servers .imports config package contract.name contract.services).run.run
    (.empty (localPath config package))).2

/-- The lines before the mocks: five that open the file, and the import declaration with a line for
each package, if there is one. -/
def frontHeadings (packages : Nat) : List (Option Declaration) :=
  List.replicate 5 none ++ if packages = 0 then [] else List.replicate (packages + 3) none

/-- The lines of the packages that are imported, by induction on the packages. -/
theorem headings_packages {aliases : List (String × String)}
    (words : ∀ entry ∈ aliases, OneLine entry.2) (rest : String)
    : headings
        (String.join
            (aliases.map fun entry => "\t" ++ (entry.2 ++ (" " ++ (quote entry.1 ++ "\n"))))
          ++ rest)
      = List.replicate aliases.length none ++ headings rest := by
  induction aliases with
  | nil => simp
  | cons entry others ih =>
      obtain ⟨word, words⟩ := List.forall_mem_cons.mp words
      have quoted : OneLine (quote entry.1) := newline_not_mem_quote entry.1
      have line : OneLine (entry.2 ++ (" " ++ quote entry.1)) :=
        word.append (OneLine.append (by decide) quoted)
      have first (more : String)
          : headings ("\t" ++ ((entry.2 ++ (" " ++ quote entry.1)) ++ ("\n" ++ more)))
            = none :: headings more :=
        headings_other (by decide) line (by decide)
      simp only [String.append_assoc] at first
      simp only [List.map_cons, String.join_cons, String.append_assoc, first, ih words]
      rfl

/-- The imports declare nothing; they take a line for each package and three for what is around
them. -/
theorem headings_render {imports : Imports} (named : imports.WellNamed)
    (filled : imports.aliases ≠ [])
    : headings imports.render = List.replicate (imports.aliases.length + 3) none := by
  have words : ∀ entry ∈ imports.aliases, OneLine entry.2 := fun entry member =>
    Proto.isIdentifier_newline_not_mem (named.identifiers entry member)
  have front : ("import (\n" : String) = "import (" ++ ("" ++ ("\n" ++ "")) := by decide
  have back : headings ")\n" = List.replicate 2 none := by decide
  rw [Imports.render, if_neg (by simpa using filled), front]
  simp only [String.append_assoc]
  rw [headings_other (by decide) (by decide) (by decide), String.empty_append,
    headings_packages words, back, List.replicate_append_replicate]
  rfl

/-- The name of the Go package of a file is a word. -/
theorem isWord_goPackage (name option : Option String)
    : IsWord (GoPackage.ofFile name option).name := by
  have cleaned (name : String) : IsWord (Naming.goPackageName name) :=
    Proto.isIdentifier_isWord (Go.isIdentifier_goPackageName name)
  unfold GoPackage.ofFile
  split
  · unfold GoPackage.ofOption
    split <;> exact cleaned _
  · exact cleaned _

/-- The name of the package of the mocks is a word. -/
theorem isWord_packageName {schema : String} {package : Package} {config : Config}
    (compiled : Proto.compile schema = .ok package) (checked : config.check = .ok ())
    : IsWord (packageName config package) := by
  unfold packageName
  cases named : config.packageName with
  | some name => exact isWord_of_isGoName ((config_check_eq_ok.mp checked).1 name named)
  | none =>
      obtain ⟨file, _, _, declares⟩ := Proto.compile_declares compiled
      exact declares.goPackage ▸ isWord_goPackage file.package file.goPackage

/-- What the lines of a file declare, for all texts that the contract may have in it. -/
theorem generate_headings {schema text : String} {package : Package} {contract : Contract}
    {config : Config} (compiled : Proto.compile schema = .ok package)
    (made : generate package contract config = .ok text)
    : headings text
      = frontHeadings (imported package contract config).aliases.length
        ++ serversHeadings config package contract.outline := by
  obtain ⟨checked, imports, texts, run, rfl⟩ := generate_eq_ok made
  have same : imported package contract config = imports := by rw [imported, run]
  obtain ⟨named, body⟩ := servers_headings (Proto.compile_wellFormed compiled)
    (Proto.compile_goNamed compiled) checked _ _ _ (Imports.wellNamed_empty _) run
  have opening
      : (openingLines config package contract).flatMap headings = List.replicate 5 none := by
    have name := (isWord_packageName compiled checked).oneLine
    have heading : headings header = [none] := by decide
    have comment : headings ("// contract: " ++ singleLine contract.name) = [none] := by
      rw [headings_last (OneLine.append (by decide) (newline_not_mem_singleLine _)),
        declaration?_other (by decide)]
    have clause : headings ("package " ++ packageName config package) = [none] := by
      rw [headings_last (OneLine.append (by decide) name), declaration?_other (by decide)]
    have blank : headings "" = [none] := by decide
    simp only [openingLines, List.flatMap_cons, List.flatMap_nil, heading, comment, clause, blank]
    rfl
  have declared
      : (importLines imports).flatMap headings
        = if imports.aliases.length = 0 then []
          else List.replicate (imports.aliases.length + 3) none := by
    simp only [importLines, List.isEmpty_iff, List.length_eq_zero_iff]
    split
    · rfl
    · rename_i filled
      rw [List.flatMap_singleton, headings_render named filled]
  have parts
      : assemble (packageName config package) contract.name imports texts
        = "\n".intercalate (openingLines config package contract ++ importLines imports ++ texts) :=
    rfl
  have filled : openingLines config package contract ++ importLines imports ++ texts ≠ [] :=
    List.cons_ne_nil _ _
  rw [parts, headings_intercalate filled, List.flatMap_append, List.flatMap_append, opening,
    declared, body, same]
  rfl

/-- Two files for the same services, methods and cases, with as many imports, have as many line
breaks, whatever the names, descriptions, messages and payloads in the contracts hold. -/
theorem line_breaks_agree {schema text textToo : String} {package : Package}
    {contract other : Contract} {config : Config} (compiled : Proto.compile schema = .ok package)
    (made : generate package contract config = .ok text)
    (madeToo : generate package other config = .ok textToo)
    (sameOutline : contract.outline = other.outline)
    (sameImports
      : (imported package contract config).aliases.length
        = (imported package other config).aliases.length)
    : text.toList.count '\n' = textToo.toList.count '\n' := by
  have headingsToo : headings text = headings textToo := by
    rw [generate_headings compiled made, generate_headings compiled madeToo, sameOutline,
      sameImports]
  have lengths := congrArg List.length headingsToo
  rw [length_headings, length_headings] at lengths
  exact Nat.add_right_cancel lengths

/-- Texts that would add a declaration to the file if they broke a line. -/
def brokenContract : Contract :=
  {
    name := "letters\ntype StubPostServer struct \x7b\x7d",
    services :=
      [
        ("Post",
          [
            ("Send",
              ⟨[⟨"A\nlong\nletter", .object [("text", .string "\n\x7d\nfunc (s *")], .null⟩], []⟩)
          ])
      ]
  }

/-- Line breaks in the texts of a contract break no line in its mocks. -/
theorem line_breaks_agree_letter
    : Proto.compile letterSchemaText = .ok letterPackage
      ∧ letterContract.outline = brokenContract.outline
      ∧ ∃ text textToo,
          generate letterPackage letterContract letterConfig = .ok text
          ∧ generate letterPackage brokenContract letterConfig = .ok textToo
          ∧ text.toList.count '\n' = textToo.toList.count '\n' := by
  have some : (generate letterPackage letterContract letterConfig).toOption.isSome := by
    decide +kernel
  have someToo : (generate letterPackage brokenContract letterConfig).toOption.isSome := by
    decide +kernel
  obtain ⟨text, made⟩ := Option.isSome_iff_exists.mp some
  obtain ⟨textToo, madeToo⟩ := Option.isSome_iff_exists.mp someToo
  have outline : letterContract.outline = brokenContract.outline := by decide
  have imports
      : (imported letterPackage letterContract letterConfig).aliases.length
        = (imported letterPackage brokenContract letterConfig).aliases.length := by
    decide +kernel
  refine ⟨compile_letter, outline, text, textToo, toOption_eq_some.mp made,
    toOption_eq_some.mp madeToo, ?_⟩
  exact line_breaks_agree compile_letter (toOption_eq_some.mp made) (toOption_eq_some.mp madeToo)
    outline imports

end Mock

end GrpcMock
