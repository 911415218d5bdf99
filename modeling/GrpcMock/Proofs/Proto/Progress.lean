import GrpcMock.Proofs.Proto.Following

/-!
Schema files are read to their end. Every round of a loop and every call that comes back to where it
was made fails at a token or gets ahead, and none but the reading of the whole file goes past the
empty token. As many rounds as there are tokens are enough, for each loop and for what is nested.
-/

namespace GrpcMock.Proto.Walk

variable {α : Type} {tokens : Tokens} {start rounds : Nat}

-----------------------------------------------------------------------------------------
-- Enums and services
-----------------------------------------------------------------------------------------

/-- By induction on the rounds: each item takes a token, and there are as many as tokens. -/
theorem all_follows {round : Walk (Step α)} (reader : ItemReader α)
    (each
      : ∀ stop,
          start ≤ stop
          → stop < tokens.length
          → Follows tokens (Within tokens (stop + 1)) stop round Prod.mk
              (reader.read (tokens.drop stop)))
    (inside : start < tokens.length) (enough : tokens.length ≤ start + rounds)
    : Follows tokens (Within tokens (start + 1)) start (all round rounds) Prod.mk
        (reader.all (tokens.drop start)) := by
  induction rounds generalizing start with
  | zero => omega
  | succ rounds ih =>
      rw [all, reader.all_eq]
      refine (each start (Nat.le_refl _) inside).bind fun step stop ⟨ahead, more⟩ => ?_
      have others
          : Follows tokens (Within tokens (start + 1)) stop (all round rounds) Prod.mk
              (reader.all (tokens.drop stop)) := by
        refine (ih ?_ more (by omega)).weaken (by omega)
        exact fun later behind => each later (by omega)
      cases step with
      | close => exact .pure ⟨ahead, more⟩
      | skipped => exact others
      | item value => exact others.map fun _ _ => rfl

section Items

variable (ended : Ended tokens)

include ended

/-- A round in an enum follows the reader of its items, by the word that comes first. -/
theorem valueRound_follows (inside : start < tokens.length)
    (enough : tokens.length ≤ start + 1 + rounds)
    : Follows tokens (Within tokens (start + 1)) start (valueRound rounds) Prod.mk
        (readValue (tokens.drop start)) := by
  have front := List.drop_eq_getElem_cons inside
  rw [front]
  refine .eat ended inside rfl beq_iff_eq (fun _ more => .pure ⟨Nat.le_refl _, more⟩) fun _ => ?_
  refine .peek inside isEnd_iff (fun _ => .fail inside _) fun _ => ?_
  refine .eat ended inside rfl beq_iff_eq (fun _ more => .pure ⟨Nat.le_refl _, more⟩) fun _ => ?_
  refine .eat ended inside rfl (by simp [beginsSkipped, or_assoc]) (fun _ more => ?_) fun _ => ?_
  · exact ((skipStatement_follows ended more enough 0).weaken (by omega)).map fun _ _ => rfl
  · rw [← front]
    refine (expect_follows ended inside rfl).bind fun name stop ⟨ahead, inside⟩ => ?_
    refine (number_follows ended inside (by omega) rfl).bind fun number stop ⟨ahead, inside⟩ => ?_
    exact .pure ⟨by omega, inside⟩

/-- An enum is read to the token behind its closing brace. -/
theorem enum_follows (inside : start < tokens.length)
    (enough : tokens.length ≤ start + 1 + rounds) (scope : String)
    : Follows tokens (Within tokens (start + 1)) start (enum rounds scope) Prod.mk
        (readEnum scope (tokens.drop start)) := by
  refine (expect_follows ended inside rfl).bind fun name stop ⟨ahead, inside⟩ => ?_
  refine (expectWord_follows ended inside rfl).bind fun _ stop ⟨ahead, inside⟩ => ?_
  refine (all_follows valueReader (fun _ _ within => valueRound_follows ended within (by omega))
    inside (by omega)).bind fun values stop ⟨ahead, inside⟩ => ?_
  exact .pure ⟨by omega, inside⟩

/-- A round between the braces of a method follows the reader of such items. -/
theorem methodOptionRound_follows (inside : start < tokens.length)
    (enough : tokens.length ≤ start + 1 + rounds)
    : Follows tokens (Within tokens (start + 1)) start (methodOptionRound rounds) Prod.mk
        (readMethodOption (tokens.drop start)) := by
  have front := List.drop_eq_getElem_cons inside
  rw [front]
  refine .eat ended inside rfl beq_iff_eq (fun _ more => .pure ⟨Nat.le_refl _, more⟩) fun _ => ?_
  refine .peek inside isEnd_iff (fun _ => .fail inside _) fun _ => ?_
  refine .eat ended inside rfl beq_iff_eq (fun _ more => .pure ⟨Nat.le_refl _, more⟩) fun _ => ?_
  rw [← front]
  refine (expectWord_follows ended inside rfl).bind fun _ stop ⟨ahead, inside⟩ => ?_
  refine (skipStatement_follows ended inside (by omega) 0).bind fun _ stop ⟨ahead, inside⟩ => ?_
  exact .pure ⟨by omega, inside⟩

/-- The end of a method is found alike, with a semicolon or with braces. -/
theorem endMethod_follows (inside : start < tokens.length)
    (enough : tokens.length ≤ start + 1 + rounds)
    : Follows tokens (Within tokens (start + 1)) start (endMethod rounds) (fun _ left => left)
        (Proto.endMethod (tokens.drop start)) := by
  have front := List.drop_eq_getElem_cons inside
  rw [front]
  refine .eat ended inside rfl beq_iff_eq (fun _ more => ?_) fun _ => ?_
  · refine ((all_follows methodOptionReader (fun _ _ within =>
      methodOptionRound_follows ended within (by omega)) more enough).weaken ?_).map fun _ _ => rfl
    omega
  · rw [← front]
    exact expectWord_follows ended inside rfl

/-- The type of a method is read to the token behind its parentheses. -/
theorem typeInParens_follows (inside : start < tokens.length)
    : Follows tokens (Within tokens (start + 1)) start typeInParens Prod.mk
        (readTypeInParens (tokens.drop start)) := by
  refine (expectWord_follows ended inside rfl).bind fun _ stop ⟨ahead, inside⟩ => ?_
  have single
      : refuseStream (tokens.drop stop)
        = if tokens[stop].text = "stream" then
            .error ⟨.unsupported "Streaming", tokens[stop].position⟩
          else .ok () := by
    rw [List.drop_eq_getElem_cons inside]
    rfl
  rw [single, ite_bind]
  refine .peek inside beq_iff_eq (fun _ => .fail inside _) fun _ => ?_
  refine (expect_follows ended inside rfl).bind fun type stop ⟨ahead, inside⟩ => ?_
  refine (expectWord_follows ended inside rfl).bind fun _ stop ⟨ahead, inside⟩ => ?_
  exact .pure ⟨by omega, inside⟩

/-- A round in a service follows the reader of its items, by the word that comes first. -/
theorem methodRound_follows (inside : start < tokens.length)
    (enough : tokens.length ≤ start + 1 + rounds)
    : Follows tokens (Within tokens (start + 1)) start (methodRound rounds) Prod.mk
        (readMethod (tokens.drop start)) := by
  have front := List.drop_eq_getElem_cons inside
  rw [front]
  refine .eat ended inside rfl beq_iff_eq (fun _ more => .pure ⟨Nat.le_refl _, more⟩) fun _ => ?_
  refine .eat ended inside rfl beq_iff_eq (fun _ more => .pure ⟨Nat.le_refl _, more⟩) fun _ => ?_
  refine .eat ended inside rfl beq_iff_eq (fun _ more => ?_) fun _ => ?_
  · exact ((skipStatement_follows ended more enough 0).weaken (by omega)).map fun _ _ => rfl
  · rw [← front]
    refine (expectWord_follows ended inside rfl).bind fun _ stop ⟨ahead, inside⟩ => ?_
    refine (expect_follows ended inside rfl).bind fun name stop ⟨ahead, inside⟩ => ?_
    refine (typeInParens_follows ended inside).bind fun input stop ⟨ahead, inside⟩ => ?_
    refine (expectWord_follows ended inside rfl).bind fun _ stop ⟨ahead, inside⟩ => ?_
    refine (typeInParens_follows ended inside).bind fun output stop ⟨ahead, inside⟩ => ?_
    refine (endMethod_follows ended inside (by omega)).bind fun _ stop ⟨ahead, inside⟩ => ?_
    exact .pure ⟨by omega, inside⟩

/-- A service is read to the token behind its closing brace. -/
theorem service_follows (inside : start < tokens.length)
    (enough : tokens.length ≤ start + 1 + rounds)
    : Follows tokens (Within tokens (start + 1)) start (service rounds)
        (fun service left => (.service service, left)) (readService (tokens.drop start)) := by
  refine (expect_follows ended inside rfl).bind fun name stop ⟨ahead, inside⟩ => ?_
  refine (expectWord_follows ended inside rfl).bind fun _ stop ⟨ahead, inside⟩ => ?_
  refine (all_follows methodReader (fun _ _ within => methodRound_follows ended within (by omega))
    inside (by omega)).bind fun methods stop ⟨ahead, inside⟩ => ?_
  exact .arrives ⟨by omega, inside⟩ rfl

end Items

-----------------------------------------------------------------------------------------
-- Messages
-----------------------------------------------------------------------------------------

/-- Reads a message with all that is nested in it, the keyword already taken. -/
def readNested (scope : String) (tokens : Tokens) : Except Fault (List Definition × Tokens) := do
  let (name, rest) ← Proto.expect .identifier tokens
  let rest ← Proto.expectWord "\x7b" rest
  let (body, rest) ← readBody (inScope scope name.text) rest
  pure (body.definitions (inScope scope name.text) name.position, rest)

/-- What an item adds to the body of a message; the body of a nested message is read for it. -/
def finish (scope : String) : MessageItem × Tokens → Except Fault (Option Addition × Tokens)
  | (.close, rest) => .ok (none, rest)
  | (.skipped, rest) => .ok (some ([], []), rest)
  | (.field field, rest) => .ok (some ([field], []), rest)
  | (.mapField field entry, rest) => .ok (some ([field], [entry]), rest)
  | (.enum definition, rest) => .ok (some ([], [definition]), rest)
  | (.message name field, rest) => do
      let (inner, rest) ← readBody (inScope scope name.text) rest
      let nested := inner.definitions (inScope scope name.text) name.position
      pure (some (field.toList, nested), rest)

/-- What is done with a nested message is done after its name, its brace and its body. -/
theorem readNested_bind {β : Type} (scope : String) (tokens : Tokens)
    (next : List Definition × Tokens → Except Fault β)
    : readNested scope tokens >>= next
      = (do
          let (name, rest) ← Proto.expect .identifier tokens
          let rest ← Proto.expectWord "\x7b" rest
          let (body, rest) ← readBody (inScope scope name.text) rest
          next (body.definitions (inScope scope name.text) name.position, rest)) := by
  unfold readNested
  rw [bind_assoc]
  refine bind_congr fun (name, rest) => ?_
  dsimp only
  rw [bind_assoc]
  refine bind_congr fun rest => ?_
  rw [bind_assoc]
  rfl

/-- A nested message adds what it defines. -/
theorem readMessageName_finish (scope : String) (tokens : Tokens)
    : readMessageName tokens >>= finish scope
      = readNested scope tokens >>= fun (nested, rest) => .ok (some ([], nested), rest) := by
  rw [readNested_bind, readMessageName, bind_assoc]
  refine bind_congr ?_
  rintro ⟨name, rest⟩
  dsimp only
  rw [bind_assoc]
  rfl

/-- The body of a message is read round by round. -/
theorem readBody_rounds (scope : String) (tokens : Tokens)
    : readBody scope tokens
      = readMessageItem scope tokens >>= finish scope >>= fun
          | (none, rest) => .ok (.empty, rest)
          | (some (fields, nested), rest) =>
              (readBody scope rest).map (addBefore fields nested) := by
  rw [readBody_eq, bind_assoc]
  refine bind_congr fun (item, rest) => ?_
  cases item with
  | message name field =>
      change readBody (inScope scope name.text) rest >>= _ = (readBody _ rest >>= _) >>= _
      rw [bind_assoc]
      rfl
  | skipped =>
      change readBody scope rest = (readBody scope rest).map _
      cases readBody scope rest <;> rfl
  | _ => rfl

/-- Reads what comes behind the label of a field. -/
def readLabelled (scope : String) : Label × Tokens → Except Fault (MessageItem × Tokens)
  | (label, rest) =>
      if startsWith "group" rest then readGroup scope label.isRepeated rest.tail
      else do
        let (type, rest) ← Proto.expect .typeName rest
        let (name, rest) ← Proto.expect .identifier rest
        let (number, rest) ← readNumber ";" rest
        pure (.field ⟨name.text, name.position, some type.text, label, number⟩, rest)

/-- A field is read by its label and what comes behind that. -/
theorem readField_labelled (scope : String) (tokens : Tokens)
    : readField scope tokens = .ok (readLabel tokens) >>= readLabelled scope :=
  rfl

section Messages

variable {body : String → Walk MessageBody} (ended : Ended tokens)

include ended

/-- A map field is read to the token behind its semicolon. -/
theorem mapField_follows (inside : start < tokens.length)
    (enough : tokens.length ≤ start + 1 + rounds) (scope : String)
    : Follows tokens (Within tokens (start + 1)) start (mapField rounds scope)
        (fun pair left => (.mapField pair.1 pair.2, left))
        (readMapField scope (tokens.drop start)) := by
  refine (expectWord_follows ended inside rfl).bind fun _ stop ⟨ahead, inside⟩ => ?_
  refine (expect_follows ended inside rfl).bind fun key stop ⟨ahead, inside⟩ => ?_
  refine (expectWord_follows ended inside rfl).bind fun _ stop ⟨ahead, inside⟩ => ?_
  refine (expect_follows ended inside rfl).bind fun value stop ⟨ahead, inside⟩ => ?_
  refine (expectWord_follows ended inside rfl).bind fun _ stop ⟨ahead, inside⟩ => ?_
  refine (expect_follows ended inside rfl).bind fun name stop ⟨ahead, inside⟩ => ?_
  refine (number_follows ended inside (by omega) rfl).bind fun number stop ⟨ahead, inside⟩ => ?_
  exact .pure ⟨by omega, inside⟩

/-- A label is taken if there is one; without one the walk stays where it is. -/
theorem label_follows (inside : start < tokens.length)
    : Follows tokens (Within tokens start) start label Prod.mk
        (.ok (readLabel (tokens.drop start))) := by
  have front := List.drop_eq_getElem_cons inside
  rw [front, readLabel, apply_ite Except.ok, apply_ite Except.ok]
  refine .eat ended inside rfl beq_iff_eq (fun _ more => .pure ⟨by omega, more⟩) fun _ => ?_
  refine .eat ended inside rfl (by simp) (fun _ more => .pure ⟨by omega, more⟩) fun _ => ?_
  rw [← front]
  exact .pure ⟨Nat.le_refl _, inside⟩

/-- A walk follows bodies of messages from every token behind an index. -/
def BodiesFollow (tokens : Tokens) (start : Nat) (body : String → Walk MessageBody) : Prop :=
  ∀ stop,
    start < stop
    → stop < tokens.length
    → ∀ scope,
        Follows tokens (Within tokens (stop + 1)) stop (body scope) Prod.mk
          (readBody scope (tokens.drop stop))

/-- A message is read to the token behind its body, if bodies are read from every later token. -/
theorem message_follows (inside : start < tokens.length) (bodies : BodiesFollow tokens start body)
    (scope : String)
    : Follows tokens (Within tokens (start + 1)) start (message body scope) Prod.mk
        (readNested scope (tokens.drop start)) := by
  refine (expect_follows ended inside rfl).bind fun name stop ⟨ahead, inside⟩ => ?_
  refine (expectWord_follows ended inside rfl).bind fun _ stop ⟨further, inside⟩ => ?_
  refine (bodies stop (by omega) inside _).bind fun body stop ⟨ahead, inside⟩ => ?_
  exact .pure ⟨by omega, inside⟩

/-- So is a field, as one of its own or as a group with a body. -/
theorem field_follows (inside : start < tokens.length)
    (enough : tokens.length ≤ start + 1 + rounds) (bodies : BodiesFollow tokens start body)
    (scope : String)
    : Follows tokens (Within tokens (start + 1)) start (field rounds body scope)
        (fun addition left => (some addition, left))
        (readField scope (tokens.drop start) >>= finish scope) := by
  rw [readField_labelled]
  refine (label_follows ended inside).bindThen fun label stop ⟨ahead, inside⟩ => ?_
  have front := List.drop_eq_getElem_cons inside
  dsimp only [readLabelled]
  rw [ite_bind]
  refine .eat ended inside rfl (by rw [front]; rfl) (fun _ more => ?_) fun _ => ?_
  · rw [List.tail_drop]
    refine (expect_follows ended more rfl).bindThen fun name stop ⟨ahead, inside⟩ => ?_
    refine (number_follows ended inside (by omega) rfl).bindThen
      fun number stop ⟨further, inside⟩ => ?_
    refine (bodies stop (by omega) inside _).bind fun body stop ⟨ahead, inside⟩ => ?_
    exact .arrives ⟨by omega, inside⟩ rfl
  · refine (expect_follows ended inside rfl).bindThen fun type stop ⟨ahead, inside⟩ => ?_
    refine (expect_follows ended inside rfl).bindThen fun name stop ⟨ahead, inside⟩ => ?_
    refine (number_follows ended inside (by omega) rfl).bindThen
      fun number stop ⟨ahead, inside⟩ => ?_
    exact .arrives ⟨by omega, inside⟩ rfl

/-- A round in a message follows the reader of its items and of what is nested in them. -/
theorem messageRound_follows (inside : start < tokens.length)
    (enough : tokens.length ≤ start + 1 + rounds) (bodies : BodiesFollow tokens start body)
    (scope : String)
    : Follows tokens (Within tokens (start + 1)) start (messageRound rounds body scope) Prod.mk
        (readMessageItem scope (tokens.drop start) >>= finish scope) := by
  have front := List.drop_eq_getElem_cons inside
  rw [front, readMessageItem]
  simp only [ite_bind]
  refine .eat ended inside rfl beq_iff_eq (fun _ more => .pure ⟨Nat.le_refl _, more⟩) fun _ => ?_
  refine .peek inside isEnd_iff (fun _ => .fail inside _) fun _ => ?_
  refine .eat ended inside rfl beq_iff_eq (fun _ more => .pure ⟨Nat.le_refl _, more⟩) fun _ => ?_
  refine .eat ended inside rfl beq_iff_eq (fun _ more => ?_) fun _ => ?_
  · have behind : BodiesFollow tokens (start + 1) body := fun stop ahead => bodies stop (by omega)
    rw [readMessageName_finish]
    exact ((message_follows ended more behind scope).weaken (by omega)).bind fun _ _ allowed =>
      .pure allowed
  refine .eat ended inside rfl beq_iff_eq (fun _ more => ?_) fun _ => ?_
  · rw [map_bind]
    exact ((enum_follows ended more (by omega) scope).weaken (by omega)).bind fun _ _ allowed =>
      .pure allowed
  refine .eat ended inside rfl (by simp [beginsSkipped, or_assoc]) (fun _ more => ?_) fun _ => ?_
  · rw [map_bind]
    exact ((skipStatement_follows ended more enough 0).weaken (by omega)).bind fun _ _ allowed =>
      .pure allowed
  refine .peek inside (by simp [isUnsupported]) (fun _ => .fail inside _) fun _ => ?_
  refine .eat ended inside rfl beq_iff_eq (fun _ more => ?_) fun _ => ?_
  · exact ((mapField_follows ended more (by omega) scope).weaken (by omega)).bind
      fun _ _ allowed => .pure allowed
  · rw [← front, ← bind_pure (readField scope (tokens.drop start) >>= finish scope)]
    exact (field_follows ended inside enough bodies scope).bind fun _ _ allowed => .pure allowed

/-- By induction on the rounds: each takes a token, and nested bodies begin behind the index where
it began. -/
theorem messageBody_follows (inside : start < tokens.length)
    (enough : tokens.length ≤ start + rounds) (scope : String)
    : Follows tokens (Within tokens (start + 1)) start (messageBody rounds scope) Prod.mk
        (readBody scope (tokens.drop start)) := by
  induction rounds generalizing start scope with
  | zero => omega
  | succ rounds ih =>
      -- Both the bodies nested in this round and the rounds after it have one round less.
      have bodies : BodiesFollow tokens start (messageBody rounds) := fun stop ahead inside scope =>
        ih inside (by omega) scope
      rw [messageBody, readBody_rounds]
      refine (messageRound_follows ended inside (by omega) bodies scope).bind
        fun part stop ⟨ahead, more⟩ => ?_
      cases part with
      | none => exact .pure ⟨ahead, more⟩
      | some addition =>
          exact ((bodies stop ahead more scope).weaken (by omega)).map fun _ _ => rfl

/-- Bodies are followed from every later token, as enough rounds are left. -/
theorem bodiesFollow (enough : tokens.length ≤ start + 1 + rounds)
    : BodiesFollow tokens start (messageBody rounds) :=
  fun _ behind inside scope => messageBody_follows ended inside (by omega) scope

end Messages

-----------------------------------------------------------------------------------------
-- Files
-----------------------------------------------------------------------------------------

section Files

variable (ended : Ended tokens)

include ended

/-- An option of a file is read to the token behind its semicolon. -/
theorem option_follows (inside : start < tokens.length)
    (enough : tokens.length ≤ start + rounds)
    : Follows tokens (Within tokens (start + 1)) start (option rounds) Prod.mk
        (readOption (tokens.drop start)) := by
  have front := List.drop_eq_getElem_cons inside
  rw [front]
  refine .eat ended inside rfl beq_iff_eq (fun _ inside => ?_) fun _ => ?_
  · refine (expectWord_follows ended inside rfl).bind fun _ stop ⟨ahead, inside⟩ => ?_
    refine (string_follows ended inside).bind fun value stop ⟨ahead, inside⟩ => ?_
    refine (expectWord_follows ended inside rfl).bind fun _ stop ⟨ahead, inside⟩ => ?_
    exact .pure ⟨by omega, inside⟩
  · rw [← front]
    exact (skipStatement_follows ended inside enough 0).map fun _ _ => rfl

/-- A package is read to the token behind its semicolon, or refused as the second one. -/
theorem package_follows (inside : start < tokens.length) (isFirst : Bool)
    : Follows tokens (Within tokens (start + 1)) start (package isFirst) Prod.mk
        (readPackage isFirst (tokens.drop start)) := by
  refine .expecting ended inside rfl fun more => ?_
  cases isFirst with
  | true =>
      refine (expectWord_follows ended more rfl).bind fun _ stop ⟨ahead, inside⟩ => ?_
      exact .pure ⟨by omega, inside⟩
  | false => exact .failAt (List.getElem_mem inside) _

omit ended in
/-- A message of a file is a nested one with no scope around it. -/
theorem readMessage_nested (tokens : Tokens)
    : Proto.readMessage tokens
      = readNested "" tokens >>= fun (nested, rest) => .ok (.definitions nested, rest) := by
  rw [readMessage_eq, readNested_bind]
  rfl

/-- A declaration is read to the token behind it, by the word that it begins with. -/
theorem declaration_follows (inside : start < tokens.length)
    (enough : tokens.length ≤ start + 1 + rounds) (isFirst : Bool)
    : Follows tokens (Within tokens (start + 1)) start (declaration rounds isFirst) Prod.mk
        (readDeclaration isFirst tokens[start] (tokens.drop (start + 1))) := by
  refine .eat ended inside rfl beq_iff_eq (fun _ more => .pure ⟨Nat.le_refl _, more⟩) fun _ => ?_
  refine .eat ended inside rfl beq_iff_eq (fun _ more => ?_) fun _ => ?_
  · exact (package_follows ended more isFirst).weaken (by omega)
  refine .eat ended inside rfl beq_iff_eq (fun _ more => ?_) fun _ => ?_
  · exact (option_follows ended more enough).weaken (by omega)
  refine .peek inside beq_iff_eq (fun _ => .fail inside _) fun _ => ?_
  refine .eat ended inside rfl beq_iff_eq (fun _ more => ?_) fun _ => ?_
  · have bodies : BodiesFollow tokens (start + 1) (messageBody rounds) :=
      bodiesFollow ended (by omega)
    rw [readMessage_nested]
    exact ((message_follows ended more bodies "").weaken (by omega)).bind fun _ _ allowed =>
      .pure allowed
  refine .eat ended inside rfl beq_iff_eq (fun _ more => ?_) fun _ => ?_
  · exact ((enum_follows ended more (by omega) "").weaken (by omega)).map fun _ _ => rfl
  refine .eat ended inside rfl beq_iff_eq (fun _ more => ?_) fun _ => ?_
  · rw [← bind_pure (readService (tokens.drop (start + 1)))]
    exact ((service_follows ended more (by omega)).weaken (by omega)).bind fun _ _ allowed =>
      .pure allowed
  refine .peek inside (by simp [isUnsupported]) (fun _ => .fail inside _) fun _ => ?_
  exact .fail inside _

/-- By induction on the rounds: each declaration takes a token, and only the empty one ends them. -/
theorem declarations_follow (inside : start < tokens.length)
    (enough : tokens.length ≤ start + rounds) (file : File)
    : Follows tokens (· = tokens.length) start (declarations rounds file) Prod.mk
        (readDeclarations file (tokens.drop start)) := by
  induction rounds generalizing start file with
  | zero => omega
  | succ rounds ih =>
      rw [declarations, List.drop_eq_getElem_cons inside, readDeclarations_eq]
      have looked := run_eat isEnd inside
      split
      · rename_i text
        -- Only here is the last token gone past.
        rw [if_pos (isEnd_iff.mpr text)] at looked
        have last : Follows tokens (· = tokens.length) (start + 1) (Pure.pure file) Prod.mk
            (.ok (file, tokens.drop (start + 1))) :=
          .pure ((ended.text_eq_empty_iff inside).mp text)
        exact last.goesOn (bind_of_arrives looked)
      · rename_i text
        rw [if_neg (mt isEnd_iff.mp text)] at looked
        refine Follows.goesOn ?_ (bind_of_arrives looked)
        refine (declaration_follows ended inside (by omega) _).bind
          fun declaration stop ⟨ahead, more⟩ => ?_
        exact ih more (by omega) _

/-- A header is read to the token behind it; without one the walk stays where it is. -/
theorem dialect_follows (inside : start < tokens.length)
    : Follows tokens (Within tokens start) start dialect Prod.mk
        (readDialect (tokens.drop start)) := by
  have front := List.drop_eq_getElem_cons inside
  rw [front]
  refine .eat ended inside rfl beq_iff_eq (fun _ inside => ?_) fun _ => ?_
  · refine (expectWord_follows ended inside rfl).bind fun _ stop ⟨ahead, inside⟩ => ?_
    refine .current inside ?_
    refine (string_follows ended inside).bind fun name stop ⟨further, more⟩ => ?_
    dsimp only
    cases Dialect.ofName? name with
    | none => exact .failAt (List.getElem_mem inside) _
    | some dialect =>
        refine (expectWord_follows ended more rfl).bind fun _ stop ⟨ahead, inside⟩ => ?_
        exact .pure ⟨by omega, inside⟩
  · rw [← front]
    exact .pure ⟨Nat.le_refl _, inside⟩

/-- A whole file is read to the end of its tokens. -/
theorem schema_follows (enough : tokens.length ≤ rounds)
    : Follows tokens (· = tokens.length) 0 (schema rounds) Prod.mk (readFile tokens) := by
  refine (dialect_follows ended ended.nonempty).bind fun dialect stop ⟨_, more⟩ => ?_
  exact declarations_follow ended more (by omega) _

end Files

-----------------------------------------------------------------------------------------
-- All loops and calls
-----------------------------------------------------------------------------------------

/-- Reads the next declaration of a file. -/
def nextDeclaration (isFirst : Bool) : Tokens → Except Fault (Declaration × Tokens)
  | [] => .error (unexpected [])
  | token :: rest => readDeclaration isFirst token rest

/-- From every token a walk fails at one of them or goes past at least so many, though never past
the last, as a reader does. -/
def Proceeds {β : Type} (tokens : Tokens) (least : Nat) (walk : Walk α) (pack : α → Tokens → β)
    (read : Tokens → Except Fault β)
    : Prop :=
  ∀ start < tokens.length,
    Follows tokens (Within tokens (start + least)) start walk pack (read (tokens.drop start))

/-- The rounds of all loops go past a token each, and so do the calls that come back to where they
were made; what is passed over ends before the last token. -/
structure Progress (rounds : Nat) (tokens : Tokens) : Prop where
  statements : ∀ depth, Proceeds tokens 1 (statementRound depth) Prod.mk (statementStep depth)
  options : ∀ depth, Proceeds tokens 1 (bracketsRound depth) Prod.mk (bracketsStep depth)
  values : Proceeds tokens 1 (valueRound rounds) Prod.mk readValue
  methods : Proceeds tokens 1 (methodRound rounds) Prod.mk readMethod
  methodOptions : Proceeds tokens 1 (methodOptionRound rounds) Prod.mk readMethodOption
  parts
    : ∀ scope,
        Proceeds tokens 1 (messageRound rounds (messageBody rounds) scope) Prod.mk fun tokens =>
          readMessageItem scope tokens >>= finish scope
  declarations
    : ∀ isFirst, Proceeds tokens 1 (declaration rounds isFirst) Prod.mk (nextDeclaration isFirst)
  bodies : ∀ scope, Proceeds tokens 1 (messageBody rounds scope) Prod.mk (readBody scope)
  messages
    : ∀ scope, Proceeds tokens 1 (message (messageBody rounds) scope) Prod.mk (readNested scope)
  fields
    : ∀ scope,
        Proceeds tokens 1 (field rounds (messageBody rounds) scope)
          (fun addition left => (some addition, left))
          fun tokens => readField scope tokens >>= finish scope
  skippedStatements
    : ∀ depth,
        Proceeds tokens 1 (skipStatement rounds depth) (fun _ left => left)
          (Proto.skipStatement depth)
  skippedOptions : Proceeds tokens 0 (skipOptions rounds) (fun _ left => left) Proto.skipOptions

/-- Every loop gets ahead, over tokens that end with an empty one. -/
theorem progress_of_ended (ended : Ended tokens) (enough : tokens.length ≤ rounds)
    : Progress rounds tokens where
  statements depth _ inside := statementRound_follows ended inside depth
  options depth _ inside := bracketsRound_follows ended inside depth
  values _ inside := valueRound_follows ended inside (by omega)
  methods _ inside := methodRound_follows ended inside (by omega)
  methodOptions _ inside := methodOptionRound_follows ended inside (by omega)
  parts scope _ inside :=
    messageRound_follows ended inside (by omega) (bodiesFollow ended (by omega)) scope
  declarations isFirst _ inside := by
    rw [List.drop_eq_getElem_cons inside]
    exact declaration_follows ended inside (by omega) isFirst
  bodies scope _ inside := messageBody_follows ended inside (by omega) scope
  messages scope _ inside := message_follows ended inside (bodiesFollow ended (by omega)) scope
  fields scope _ inside :=
    field_follows ended inside (by omega) (bodiesFollow ended (by omega)) scope
  skippedStatements depth _ inside := skipStatement_follows ended inside (by omega) depth
  skippedOptions _ inside := skipOptions_follows ended inside (by omega)

/-- Reading a file by a cursor comes to an end and never looks where there is no token, as each of
its loops and calls goes ahead: as many rounds as there are tokens are enough, and more change
nothing. It takes all tokens and none is left, or it fails with the line and column of one of them;
the file or the fault is what the tokens are parsed as. -/
theorem schema_comes_to_end (ended : Ended tokens) (enough : tokens.length ≤ rounds)
    : Progress rounds tokens
      ∧ ((∃ file,
            schema rounds tokens 0 = some (.ok (file, tokens.length))
            ∧ readFile tokens = .ok (file, [])
            ∧ parse tokens = .ok file)
        ∨ ∃ cause,
            ∃ token ∈ tokens,
              schema rounds tokens 0 = some (.error (.fault ⟨cause, token.position⟩))
              ∧ parse tokens = .error ⟨cause, token.position⟩) := by
  refine ⟨progress_of_ended ended enough, ?_⟩
  have follows := schema_follows ended enough
  unfold parse
  generalize readFile tokens = result at follows
  cases follows with
  | @arrives file stop atEnd run =>
      subst atEnd
      exact .inl ⟨file, run, by rw [List.drop_length], rfl⟩
  | @fails cause token member run => exact .inr ⟨cause, token, member, run, rfl⟩

/-- A group in a message, and a service with a method that has an option. -/
def clinicText : String :=
  "message Visit \x7b group Room = 1 [a=[1]] \x7b ; \x7d reserved 2; \x7d\n"
    ++ "service Desk \x7b rpc Book(Visit) returns (Visit) \x7b option a=\x7b;\x7d; \x7d \x7d"

/-- The clinic is read to its end, over a group, options in brackets and a method in braces. -/
theorem schema_comes_to_end_clinic
    : ∃ tokens file,
        tokenize clinicText = .ok tokens
        ∧ Ended tokens
        ∧ Progress tokens.length tokens
        ∧ schema tokens.length tokens 0 = some (.ok (file, tokens.length))
        ∧ readFile tokens = .ok (file, [])
        ∧ parse tokens = .ok file
        ∧ file.definitions.map (·.name) = ["Visit", "Visit.Room"] := by
  have names
      : (tokenize clinicText).toOption.bind (fun tokens =>
          (parse tokens).toOption.map fun file => file.definitions.map (·.name))
        = some ["Visit", "Visit.Room"] := by
    decide +kernel
  obtain ⟨tokens, read, rest⟩ := Option.bind_eq_some_iff.mp names
  obtain ⟨file, parsed, listed⟩ := Option.map_eq_some_iff.mp rest
  have ended : Ended tokens := .of_tokenize (toOption_eq_some.mp read)
  obtain ⟨progress, ⟨_, run, left, same⟩ | ⟨cause, token, -, -, failed⟩⟩ :=
    schema_comes_to_end ended (Nat.le_refl _)
  · cases (toOption_eq_some.mp parsed).symm.trans same
    exact ⟨tokens, file, toOption_eq_some.mp read, ended, progress, run, left, same, listed⟩
  · rw [failed] at parsed
    contradiction

end GrpcMock.Proto.Walk
