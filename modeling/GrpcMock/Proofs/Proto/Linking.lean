import GrpcMock.Proofs.Lists
import GrpcMock.Proofs.Proto.Companions
import GrpcMock.Proofs.Proto.Describes
import GrpcMock.Proofs.Proto.Nesting
import GrpcMock.Proofs.Proto.Rules

/-!
Linking gives what a file describes, and it fails only where the file describes nothing. What has
been linked is looked up again by name alone; that is right because names are distinct. The search
runs out of room only for a message that is made of itself, and such a message has no schema.
-/

namespace GrpcMock.Proto

open Relation (TransGen)

-----------------------------------------------------------------------------------------
-- Computations that fail for want of a result
-----------------------------------------------------------------------------------------

section Decides

variable {α β : Type} {possible needed : Prop} {holds : α → Prop} {holdsToo : β → Prop}

/-- A computation has a result with a property, or else it is impossible to have one. -/
def Decides (possible : Prop) (holds : α → Prop) : Except Violation α → Prop
  | .ok value => holds value
  | .error _ => ¬possible

/-- One computation after another, where there is a second result only if there is a first. -/
theorem Decides.bind {first : Except Violation α} {next : α → Except Violation β}
    (hf : Decides needed holds first) (needs : possible → needed)
    (hn : ∀ value, holds value → Decides possible holdsToo (next value))
    : Decides possible holdsToo (first >>= next) := by
  cases first with
  | error violation => exact fun is => hf (needs is)
  | ok value => exact hn value hf

/-- A computation that decides whether there is a result has the result that there is. -/
theorem Decides.eq_ok {result : Except Violation α} {value : α}
    (h : Decides (∃ value, holds value) holds result)
    (unique : ∀ left right, holds left → holds right → left = right)
    : result = .ok value ↔ holds value := by
  cases result with
  | error violation => exact iff_of_false nofun fun is => h ⟨value, is⟩
  | ok other =>
      rw [Except.ok.injEq]
      constructor
      · intro same
        exact same ▸ h
      · exact unique other value h

end Decides

namespace File

variable {file : File}

-----------------------------------------------------------------------------------------
-- What messages are made of
-----------------------------------------------------------------------------------------

/-- The schema of a definition has that of a message in it. A field without a type counts as one
whose type has no name. -/
def MadeOf (file : File) (source target : Definition) : Prop :=
  ∃ field ∈ source.fields,
    file.resolve source.name (field.type.getD "") = some (.definition target)
    ∧ target.kind = .message

/-- All ways into a message, from what it is made of on, come to an end. -/
def Ends (file : File) (message : Definition) : Prop :=
  Acc (fun target source => file.MadeOf source target) message

mutual
/-- Whatever has a schema is made of finitely many parts, by induction on the schema. -/
theorem Describes.ends {message : Definition} {schema : MessageSchema}
    : file.Describes message schema → file.Ends message
  | .message fields =>
      .intro _ fun target ⟨field, inside, resolved, kind⟩ =>
        fields.ends field inside target resolved kind

/-- Messages that described fields refer to lead to no cycle. -/
theorem DescribesFields.ends {message : Definition} {fields : List Field}
    {schemas : List FieldSchema}
    : file.DescribesFields message fields schemas
      → ∀ field ∈ fields,
        ∀ target,
          file.resolve message.name (field.type.getD "") = some (.definition target)
          → target.kind = .message
          → file.Ends target
  | .nil => nofun
  | .cons first rest => List.forall_mem_cons.mpr ⟨first.ends, rest.ends⟩

/-- Neither does the one that the type of such a field refers to. -/
theorem DescribesType.ends {message : Definition} {field : Field} {schema : FieldSchema}
    : file.DescribesType message field schema
      → ∀ target,
          file.resolve message.name (field.type.getD "") = some (.definition target)
          → target.kind = .message
          → file.Ends target
  | .scalar is => fun target resolved _ => by cases is.symm.trans resolved
  | .enum is enum => fun target resolved kind => by
      cases is.symm.trans resolved
      cases enum.symm.trans kind
  | .message is _ described => fun target resolved _ =>
      Target.definition.inj (Option.some.inj (is.symm.trans resolved)) ▸ described.ends
end

/-- The type of a described field refers to something. -/
theorem DescribesType.resolves {message : Definition} {field : Field} {schema : FieldSchema}
    (h : file.DescribesType message field schema)
    : ∃ target, file.resolve message.name (field.type.getD "") = some target := by
  cases h with
  | scalar resolved => exact ⟨_, resolved⟩
  | enum resolved => exact ⟨_, resolved⟩
  | message resolved => exact ⟨_, resolved⟩

/-- A field whose type is a message has a schema only if the message has one. -/
theorem DescribesType.target {message target : Definition} {field : Field} {schema : FieldSchema}
    (h : file.DescribesType message field schema)
    (resolved : file.resolve message.name (field.type.getD "") = some (.definition target))
    (kind : target.kind = .message)
    : ∃ nested, file.Describes target nested := by
  cases h with
  | scalar is => cases is.symm.trans resolved
  | enum is enum =>
      cases is.symm.trans resolved
      cases enum.symm.trans kind
  | message is _ described =>
      cases is.symm.trans resolved
      exact ⟨_, described⟩

-----------------------------------------------------------------------------------------
-- What has been linked
-----------------------------------------------------------------------------------------

/-- Each schema that was linked is the one that the definition of its name stands for. -/
structure Faithful (file : File) (linked : Linked) : Prop where
  messages
    : ∀ name schema,
        (name, schema) ∈ linked.messages
        → ∃ message ∈ file.definitions, message.name = name ∧ file.Describes message schema
  enums
    : ∀ name schema,
        (name, schema) ∈ linked.enums
        → ∃ enum ∈ file.definitions, enum.name = name ∧ schema = file.enumSchema enum

/-- Nothing is remembered wrongly where nothing is remembered. -/
theorem faithful_none : file.Faithful .none :=
  ⟨by simp [Linked.none], by simp [Linked.none]⟩

/-- What is found under a name is listed with it. -/
theorem mem_of_lookup {α : Type} {name : String} {schema : α} {pairs : List (String × α)}
    (h : pairs.lookup name = some schema)
    : (name, schema) ∈ pairs := by
  obtain ⟨_, _, rfl, -⟩ := List.lookup_eq_some_iff.mp h
  simp

/-- What a message's schema is when it was linked before. -/
theorem Faithful.lookup {linked : Linked} {message : Definition} {schema : MessageSchema}
    (faithful : file.Faithful linked) (h : file.Distinct) (member : message ∈ file.definitions)
    (known : linked.messages.lookup message.name = some schema)
    : file.Describes message schema := by
  obtain ⟨other, memberToo, same, described⟩ := faithful.messages _ _ (mem_of_lookup known)
  rwa [h.definition_ext memberToo member same] at described

/-- Remembering the schema of a message keeps everything that is remembered faithful. -/
theorem Faithful.remember {linked : Linked} {message : Definition} {schema : MessageSchema}
    (faithful : file.Faithful linked) (member : message ∈ file.definitions)
    (described : file.Describes message schema)
    : file.Faithful { linked with messages := (message.name, schema) :: linked.messages } := by
  refine ⟨fun name other present => ?_, faithful.enums⟩
  rcases List.mem_cons.mp present with same | earlier
  · cases same
    exact ⟨message, member, rfl, described⟩
  · exact faithful.messages name other earlier

/-- Linking an enum gives its schema, be it remembered or made, and remembers it. -/
theorem linkEnum_faithful {linked : Linked} {enum : Definition} (h : file.Distinct)
    (faithful : file.Faithful linked) (member : enum ∈ file.definitions)
    : (file.linkEnum linked enum).1 = file.enumSchema enum
      ∧ file.Faithful (file.linkEnum linked enum).2 := by
  unfold linkEnum
  split
  · rename_i schema known
    obtain ⟨other, memberToo, same, rfl⟩ :=
      faithful.enums _ _ (mem_of_lookup known)
    exact ⟨by rw [h.definition_ext memberToo member same], faithful⟩
  · refine ⟨rfl, faithful.messages, fun name schema present => ?_⟩
    rcases List.mem_cons.mp present with same | earlier
    · cases same
      exact ⟨enum, member, rfl, rfl⟩
    · exact faithful.enums name schema earlier

-----------------------------------------------------------------------------------------
-- Messages
-----------------------------------------------------------------------------------------

/-- A linking that gives what is described, and leaves only faithful schemas behind. It fails if
nothing is described. -/
def Links {α : Type} (file : File) (describes : α → Prop)
    : Except Violation (α × Linked) → Prop :=
  Decides (∃ value, describes value) fun (value, linked) =>
    describes value ∧ file.Faithful linked

/-- Linking a message decides whether there is a schema for it, by induction along the search. The
path says that a message outside the room is made of itself. -/
theorem linkMessage_links (h : file.Distinct)
    : (∀ room linked message,
        file.Faithful linked
        → message ∈ file.definitions
        → file.PathLeadsTo file.MadeOf room message
        → file.Links (file.Describes message) (file.linkMessage room linked message))
      ∧ (∀ room linked message fields,
          file.Faithful linked
          → fields ⊆ message.fields
          → (∀ target, file.MadeOf message target → file.PathLeadsTo file.MadeOf room target)
          → file.Links (file.DescribesFields message fields)
              (file.linkFields room linked message fields))
      ∧ ∀ room linked message field,
          file.Faithful linked
          → field ∈ message.fields
          → (∀ target, file.MadeOf message target → file.PathLeadsTo file.MadeOf room target)
          → file.Links (file.DescribesType message field)
              (file.linkType room linked message field) := by
  apply linkMessage.mutual_induct
  case case1 =>
    intro room linked message schema known faithful member _
    rw [linkMessage, known]
    exact ⟨faithful.lookup h member known, faithful⟩
  case case2 =>
    intro room linked message unknown inside ih faithful member path
    rw [linkMessage, unknown]
    simp only [if_pos inside]
    have fields := ih faithful (List.Subset.refl _) fun _ => path.extend
    refine Decides.bind fields ?_ fun _ ⟨described, faithful⟩ => ?_
    · intro ⟨_, .message fields⟩
      exact ⟨_, fields⟩
    · exact ⟨.message described, faithful.remember member (.message described)⟩
  case case3 =>
    intro room linked message unknown outside _ member path
    rw [linkMessage, unknown]
    simp only [if_neg outside]
    intro ⟨_, described⟩
    exact not_transGen_of_acc described.ends (path message member outside)
  case case4 =>
    intro room linked message faithful _ _
    rw [linkFields]
    exact ⟨.nil, faithful⟩
  case case5 =>
    intro room linked message field rest first others faithful included path
    rw [linkFields]
    have inside : field ∈ message.fields := included (List.mem_cons_self ..)
    refine Decides.bind (first faithful inside path) ?_ fun ⟨_, linked⟩ ⟨head, faithful⟩ => ?_
    · intro ⟨_, .cons head _⟩
      exact ⟨_, head⟩
    have later := others linked faithful (List.subset_of_cons_subset included) path
    refine Decides.bind later ?_ fun ⟨_, linked⟩ ⟨tail, faithful⟩ => ?_
    · intro ⟨_, .cons _ tail⟩
      exact ⟨_, tail⟩
    · exact ⟨.cons head tail, faithful⟩
  case case6 =>
    intro room linked message field type unresolved _ _ _
    rw [linkType, unresolved]
    intro ⟨_, described⟩
    obtain ⟨target, resolved⟩ := described.resolves
    cases unresolved.symm.trans resolved
  case case7 =>
    intro room linked message field type scalar resolved faithful _ _
    rw [linkType, resolved]
    exact ⟨.scalar resolved, faithful⟩
  case case8 =>
    intro room linked message field type target resolved kind enum after same faithful _ _
    obtain ⟨schema, kept⟩ := linkEnum_faithful h faithful (resolve_mem resolved)
    rw [linkType, resolved]
    simp only [kind]
    exact ⟨schema ▸ .enum resolved kind, kept⟩
  case case9 =>
    intro room linked message field type target resolved kind ih faithful inside path
    have made : file.MadeOf message target := ⟨field, inside, resolved, kind⟩
    rw [linkType, resolved]
    simp only [kind]
    have nested := ih faithful (resolve_mem resolved) (path target made)
    refine Decides.bind nested ?_ fun _ ⟨described, faithful⟩ => ?_
    · intro ⟨_, described⟩
      exact described.target resolved kind
    · exact ⟨.message resolved kind described, faithful⟩

/-- A message of the file can be linked first, with all definitions as the room for it. -/
theorem linkMessage_definitions {linked : Linked} {message : Definition} (h : file.Distinct)
    (faithful : file.Faithful linked) (member : message ∈ file.definitions)
    : file.Links (file.Describes message) (file.linkMessage file.definitions linked message) :=
  (linkMessage_links h).1 _ _ _ faithful member (file.pathLeadsTo_all message)

-----------------------------------------------------------------------------------------
-- Definitions and services
-----------------------------------------------------------------------------------------

/-- All definitions are linked, by induction on the list of them. -/
theorem linkDefinitions_decides {linked : Linked} {definitions : List Definition}
    (h : file.Distinct) (faithful : file.Faithful linked)
    (included : definitions ⊆ file.definitions)
    : Decides
        (∃ messages, List.Forall₂ file.Describes (definitions.filter (·.kind = .message)) messages)
        (fun (messages, enums, after) =>
          List.Forall₂ file.Describes (definitions.filter (·.kind = .message)) messages
          ∧ enums = (definitions.filter (·.kind = .enum)).map file.enumSchema
          ∧ file.Faithful after)
        (file.linkDefinitions linked definitions) := by
  induction definitions generalizing linked with
  | nil => exact ⟨.nil, rfl, faithful⟩
  | cons definition rest ih =>
      have member : definition ∈ file.definitions := included (List.mem_cons_self ..)
      have others : rest ⊆ file.definitions := List.subset_of_cons_subset included
      rw [linkDefinitions]
      cases kind : definition.kind with
      | enum =>
          obtain ⟨same, kept⟩ := linkEnum_faithful h faithful member
          have passed
              : (definition :: rest).filter (·.kind = .message)
                = rest.filter (·.kind = .message) := by
            simp [kind]
          have taken
              : (definition :: rest).filter (·.kind = .enum)
                = definition :: rest.filter (·.kind = .enum) := by
            simp [kind]
          rw [passed, taken]
          refine (ih kept others).bind id fun _ ⟨described, listed, faithful⟩ => ?_
          exact ⟨described, List.cons_eq_cons.mpr ⟨same, listed⟩, faithful⟩
      | message =>
          have taken
              : (definition :: rest).filter (·.kind = .message)
                = definition :: rest.filter (·.kind = .message) := by
            simp [kind]
          rw [taken]
          refine Decides.bind (linkMessage_definitions h faithful member) ?_
            fun _ ⟨first, kept⟩ => ?_
          · intro ⟨_, .cons first _⟩
            exact ⟨_, first⟩
          refine (ih kept others).bind ?_ fun _ ⟨described, listed, faithful⟩ => ?_
          · intro ⟨_, .cons _ described⟩
            exact ⟨_, described⟩
          · exact ⟨.cons first described, by simp [kind, listed], faithful⟩

/-- Linking the type of a method gives what describes it, or fails if nothing does. -/
theorem linkMethodType_links {linked : Linked} {type : String} (h : file.Distinct)
    (faithful : file.Faithful linked)
    : file.Links (file.DescribesName type) (file.linkMethodType linked type) := by
  unfold linkMethodType
  cases resolved : file.resolveMessage? type with
  | none =>
      intro ⟨_, message, is, _⟩
      cases resolved.symm.trans is
  | some message =>
      obtain ⟨target, search, isMessage⟩ := Option.bind_eq_some_iff.mp resolved
      obtain ⟨rfl, kind⟩ := Target.message?_eq_some.mp isMessage
      have same (schema : MessageSchema)
          : file.DescribesName type schema ↔ file.Describes message schema := by
        simp only [DescribesName, resolved, Option.some.injEq, exists_eq_left']
      simpa only [Links, same] using linkMessage_definitions h faithful (resolve_mem search)

/-- So does linking the methods of a service, by induction on them. -/
theorem linkMethods_links {linked : Linked} {methods : List Rpc} (h : file.Distinct)
    (faithful : file.Faithful linked)
    : file.Links (List.Forall₂ file.DescribesMethod methods)
        (file.linkMethods linked methods) := by
  induction methods generalizing linked with
  | nil => exact ⟨.nil, faithful⟩
  | cons method rest ih =>
      rw [linkMethods]
      refine Decides.bind (linkMethodType_links h faithful) ?_ fun _ ⟨input, faithful⟩ => ?_
      · intro ⟨_, .cons method _⟩
        exact ⟨_, method.input⟩
      refine Decides.bind (linkMethodType_links h faithful) ?_ fun _ ⟨output, faithful⟩ => ?_
      · intro ⟨_, .cons method _⟩
        exact ⟨_, method.output⟩
      refine Decides.bind (ih faithful) ?_ fun _ ⟨tail, faithful⟩ => ?_
      · intro ⟨_, .cons _ tail⟩
        exact ⟨_, tail⟩
      · exact ⟨.cons ⟨rfl, rfl, input, output⟩ tail, faithful⟩

/-- So does linking services, after which nothing need be remembered. -/
theorem linkServices_decides {linked : Linked} {services : List Service} (h : file.Distinct)
    (faithful : file.Faithful linked)
    : Decides (∃ schemas, List.Forall₂ file.DescribesService services schemas)
        (List.Forall₂ file.DescribesService services) (file.linkServices linked services) := by
  induction services generalizing linked with
  | nil => exact .nil
  | cons service rest ih =>
      rw [linkServices]
      refine Decides.bind (linkMethods_links h faithful) ?_ fun _ ⟨methods, faithful⟩ => ?_
      · intro ⟨_, .cons service _⟩
        exact ⟨_, service.methods⟩
      refine (ih faithful).bind ?_ fun _ tail => ?_
      · intro ⟨_, .cons _ tail⟩
        exact ⟨_, tail⟩
      · exact .cons ⟨rfl, rfl, rfl, methods⟩ tail

/-- Linking a file with distinct names gives the package that the file declares, if there is one. -/
theorem link_eq_ok (h : file.Distinct) {package : Package}
    : file.link = .ok package ↔ file.Declares package := by
  have decides : Decides (∃ package, file.Declares package) file.Declares file.link := by
    have definitions := linkDefinitions_decides h faithful_none (List.Subset.refl file.definitions)
    refine definitions.bind ?_ fun _ ⟨messages, enums, faithful⟩ => ?_
    · intro ⟨_, declares⟩
      exact ⟨_, declares.messages⟩
    refine (linkServices_decides h faithful).bind ?_ fun _ services => ?_
    · intro ⟨_, declares⟩
      exact ⟨_, declares.services⟩
    · exact ⟨rfl, rfl, messages, enums, services⟩
  exact decides.eq_ok fun _ _ => Declares.unique

-----------------------------------------------------------------------------------------
-- Files that can be linked
-----------------------------------------------------------------------------------------

/-- All fields of messages have types. -/
def Typed (file : File) : Prop :=
  ∀ message ∈ file.definitions,
    message.kind = .message → ∀ field ∈ message.fields, ∃ type, field.type = some type

/-- The type of a field of a message is known, and the rules allow it. -/
theorem Allowed.resolves (h : file.Allowed) (typed : file.Typed) {message : Definition}
    {field : Field} (member : message ∈ file.definitions) (kind : message.kind = .message)
    (inside : field ∈ message.fields)
    : ∃ type target,
        field.type = some type ∧ TypeAllowed file message field type target := by
  obtain ⟨type, same⟩ := typed message member kind field inside
  obtain ⟨target, allowed⟩ := ((h.messages message member kind).fields field inside).type type same
  exact ⟨type, target, same, allowed⟩

/-- What linking relies on. -/
structure Linkable (file : File) : Prop where
  allowed : file.Allowed
  accompanied : Accompanied file.definitions file.definitions
  grounded : ∀ message ∈ file.definitions, message.kind = .message → file.Grounded message

/-- In a file that passes the checks, following references always ends. -/
theorem grounded_of_check (h : file.check = .ok ())
    : ∀ message ∈ file.definitions, message.kind = .message → file.Grounded message := by
  obtain ⟨-, nested⟩ := check_bind_eq_ok.mp h
  rcases file.checkNesting_cases with ⟨-, grounded⟩ | ⟨_, -, -, -, fails⟩
  · exact grounded
  · cases nested.symm.trans fails

/-- The checks, and the way in which a file is read, provide all that linking relies on. -/
theorem Linkable.of_check (written : file.Written) (h : file.check = .ok ()) : file.Linkable :=
  ⟨.of_check (check_bind_eq_ok.mp h).1, written.definitions.accompanied, grounded_of_check h⟩

/-- All that a linkable file mentions is there. -/
theorem Linkable.typed (h : file.Linkable) : file.Typed :=
  fun message member kind field inside => (h.accompanied message member kind field inside).typed

/-- Fields are described if each of them is. -/
theorem exists_describesFields {message : Definition} {fields : List Field}
    (types : ∀ field ∈ fields, ∃ schema, file.DescribesType message field schema)
    : ∃ schemas, file.DescribesFields message fields schemas := by
  induction fields with
  | nil => exact ⟨_, .nil⟩
  | cons field rest ih =>
      obtain ⟨⟨_, first⟩, others⟩ := List.forall_mem_cons.mp types
      obtain ⟨_, later⟩ := ih others
      exact ⟨_, .cons first later⟩

/-- A message has a schema if all ways that lead away from it end, by induction on these ways. -/
theorem exists_describes (allowed : file.Allowed) (typed : file.Typed) {message : Definition}
    (grounded : file.Grounded message) (member : message ∈ file.definitions)
    (kind : message.kind = .message)
    : ∃ schema, file.Describes message schema := by
  induction grounded with
  | intro message _ ih =>
      have types : ∀ field ∈ message.fields, ∃ schema, file.DescribesType message field schema := by
        intro field inside
        obtain ⟨type, target, same, search, _⟩ := allowed.resolves typed member kind inside
        have resolved : file.resolve message.name (field.type.getD "") = some target := by
          rw [same]
          exact search
        cases target with
        | scalar scalar => exact ⟨_, .scalar resolved⟩
        | definition target =>
            cases targetKind : target.kind with
            | enum => exact ⟨_, .enum resolved targetKind⟩
            | message =>
                obtain ⟨_, described⟩ := ih target ⟨field, inside, type, same, search, targetKind⟩
                  (resolve_mem resolved) targetKind
                exact ⟨_, .message resolved targetKind described⟩
      obtain ⟨_, fields⟩ := exists_describesFields types
      exact ⟨_, .message fields⟩

/-- A file that keeps the rules declares a package. -/
theorem exists_declares (allowed : file.Allowed) (typed : file.Typed)
    (grounded : ∀ message ∈ file.definitions, message.kind = .message → file.Grounded message)
    : ∃ package, file.Declares package := by
  have message {name : String} {message : Definition}
      (resolved : file.resolveMessage? name = some message)
      : ∃ schema, file.DescribesName name schema := by
    obtain ⟨target, search, isMessage⟩ := Option.bind_eq_some_iff.mp resolved
    obtain ⟨rfl, kind⟩ := Target.message?_eq_some.mp isMessage
    have member := resolve_mem search
    obtain ⟨schema, described⟩ :=
      exists_describes allowed typed (grounded message member kind) member kind
    exact ⟨schema, message, resolved, described⟩
  have messages : ∃ schemas, List.Forall₂ file.Describes file.messages schemas := by
    refine exists_forall₂ fun message inside => ?_
    obtain ⟨member, kind⟩ := mem_messages.mp inside
    exact exists_describes allowed typed (grounded message member kind) member kind
  have services : ∃ schemas, List.Forall₂ file.DescribesService file.services schemas := by
    refine exists_forall₂ fun service inside => ?_
    have methods : ∃ schemas, List.Forall₂ file.DescribesMethod service.methods schemas := by
      refine exists_forall₂ fun method within => ?_
      obtain ⟨_, _, takes, returns⟩ := allowed.methods service inside method within
      obtain ⟨_, input⟩ := message takes
      obtain ⟨_, output⟩ := message returns
      exact ⟨⟨_, _, _, _⟩, rfl, rfl, input, output⟩
    obtain ⟨_, methods⟩ := methods
    exact ⟨⟨_, _, _, _⟩, rfl, rfl, rfl, methods⟩
  obtain ⟨_, messages⟩ := messages
  obtain ⟨_, services⟩ := services
  exact ⟨⟨_, _, _, _, _⟩, rfl, rfl, messages, rfl, services⟩

/-- Linking a file that passes the checks succeeds, with the package that the file declares. -/
theorem link_declares (h : file.Linkable)
    : ∃ package, file.link = .ok package ∧ file.Declares package := by
  obtain ⟨package, declares⟩ := exists_declares h.allowed h.typed h.grounded
  exact ⟨package, (link_eq_ok h.allowed.names).mpr declares, declares⟩

end File

end GrpcMock.Proto
