import GrpcMock.Proofs.Proto.Moved
import GrpcMock.Proofs.Proto.Reading
import GrpcMock.Proofs.Proto.Unplaced

/-!
Reading does not look at places. Where the places of tokens are moved, the places in the file or the
fault that they are read as are moved alike, and nothing else changes. So tokens that differ in
their places only are read as files that differ in places only, or as faults with the same cause.
-/

namespace GrpcMock.Proto

variable {move : Move}

-----------------------------------------------------------------------------------------
-- Single tokens
-----------------------------------------------------------------------------------------

/-- A token is accepted or refused by its text alone, wherever it stands. -/
theorem expect_moved (want : Want) : Steady move (expect want)
  | [] => error_moved move _
  | _ :: _ => ite_moved rfl rfl

/-- So is a token that must be a certain word. -/
theorem expectWord_moved (word : String) : Steady move (expectWord word) := by
  intro tokens
  unfold expectWord
  rw [expect_moved]
  cases expect (.word word) tokens <;> rfl

/-- A number has the same value at every place, and so has the fault if it is out of range. -/
theorem expectInteger_moved : Steady move expectInteger := by
  intro tokens
  unfold expectInteger
  rw [expect_moved]
  cases expect .integer tokens with
  | error => rfl
  | ok result =>
      dsimp only [moved, Prod.map]
      cases Decimal.Range.int32.read? result.1.text.toList <;> rfl

/-- A literal has the same value at every place; its own place is moved with it. -/
theorem expectString_moved : Steady move expectString := by
  intro tokens
  unfold expectString
  rw [expect_moved]
  cases expect .string tokens with
  | error => rfl
  | ok result =>
      dsimp only [moved, Prod.map]
      cases Text.unquote? result.1.text <;> rfl

/-- A skipped statement ends at the same token, by induction on the tokens. -/
theorem skipStatement_moved (depth : Nat) : Steady move (skipStatement depth) := by
  intro tokens
  induction tokens generalizing depth with
  | nil => exact error_moved move _
  | cons token rest ih =>
      refine ite_moved rfl (ite_moved (ih _) (ite_moved (ih _) (ite_moved rfl (ih _))))

/-- Skipped brackets end at the same token, by induction on the tokens. -/
theorem skipBrackets_moved (depth : Nat) : Steady move (skipBrackets depth) := by
  intro tokens
  induction tokens generalizing depth with
  | nil => exact ite_moved rfl (error_moved move _)
  | cons token rest ih =>
      exact ite_moved rfl (ite_moved rfl (ite_moved (ih _) (ite_moved (ih _) (ih _))))

/-- Options of a field are skipped alike, whether there are any or none. -/
theorem skipOptions_moved : Steady move skipOptions
  | [] => rfl
  | _ :: rest => ite_moved (skipBrackets_moved 1 rest) rfl

/-- The number of a field or value, with the options after it, is read alike. -/
theorem readNumber_moved (closing : String) : Steady move (readNumber closing) := by
  intro tokens
  refine bind_moved (expectWord_moved "=" tokens) fun rest => ?_
  refine bind_moved (expectInteger_moved rest) fun (number, rest) => ?_
  refine bind_moved (skipOptions_moved rest) fun rest => ?_
  exact bind_moved (expectWord_moved closing rest) fun rest => rfl

-----------------------------------------------------------------------------------------
-- Items of enums and services
-----------------------------------------------------------------------------------------

/-- By induction on how many tokens there are: each item takes at least one. -/
theorem ItemReader.all_moved {α : Type} [Movable α] {reader : ItemReader α}
    (h : Steady move reader.read)
    : Steady move reader.all := by
  intro tokens
  induction left : tokens.length using Nat.strongRecOn generalizing tokens with
  | ind count ih =>
      rw [ItemReader.all_eq, ItemReader.all_eq]
      refine bind_moved_of_ok (h tokens) fun (item, rest) read => ?_
      have others := ih _ (left ▸ reader.shorter read) rest rfl
      cases item with
      | close => rfl
      | skipped => exact others
      | item value => exact map_moved others fun _ => rfl

/-- Whatever may stand in an enum is read alike: its end, something to skip, or a value. -/
theorem readValue_moved : Steady move readValue
  | [] => error_moved move _
  | token :: rest => by
      refine ite_moved rfl (ite_moved rfl (ite_moved rfl (ite_moved ?_ ?_)))
      · exact map_moved (skipStatement_moved 0 rest) fun _ => rfl
      · refine bind_moved (expect_moved .identifier (token :: rest)) fun (name, rest) => ?_
        exact bind_moved (readNumber_moved ";" rest) fun _ => rfl

/-- A stream is refused at every place, with a fault at its own. -/
theorem refuseStream_moved : Steady move refuseStream
  | [] => rfl
  | _ :: _ => ite_moved rfl rfl

/-- Whatever may stand between the braces of a method is read alike. -/
theorem readMethodOption_moved : Steady move readMethodOption
  | [] => error_moved move _
  | token :: rest => by
      refine ite_moved rfl (ite_moved rfl (ite_moved rfl ?_))
      refine bind_moved (expectWord_moved "option" (token :: rest)) fun rest => ?_
      exact bind_moved (skipStatement_moved 0 rest) fun _ => rfl

/-- A method ends alike with a semicolon or with options in braces. -/
theorem endMethod_moved : Steady move endMethod
  | [] => expectWord_moved ";" []
  | token :: rest =>
      ite_moved
        (map_moved (ItemReader.all_moved readMethodOption_moved rest) fun _ => rfl)
        (expectWord_moved ";" (token :: rest))

/-- The type that a method takes or returns is read alike. -/
theorem readTypeInParens_moved : Steady move readTypeInParens := by
  intro tokens
  refine bind_moved (expectWord_moved "(" tokens) fun rest => ?_
  refine bind_moved (refuseStream_moved rest) fun _ => ?_
  refine bind_moved (expect_moved .typeName rest) fun (type, rest) => ?_
  exact bind_moved (expectWord_moved ")" rest) fun _ => rfl

/-- Whatever may stand in a service is read alike: its end, something to skip, or a method. -/
theorem readMethod_moved : Steady move readMethod
  | [] => error_moved move _
  | token :: rest => by
      refine ite_moved rfl (ite_moved rfl (ite_moved ?_ ?_))
      · exact map_moved (skipStatement_moved 0 rest) fun _ => rfl
      · refine bind_moved (expectWord_moved "rpc" (token :: rest)) fun rest => ?_
        refine bind_moved (expect_moved .identifier rest) fun (name, rest) => ?_
        refine bind_moved (readTypeInParens_moved rest) fun (input, rest) => ?_
        refine bind_moved (expectWord_moved "returns" rest) fun rest => ?_
        refine bind_moved (readTypeInParens_moved rest) fun (output, rest) => ?_
        exact bind_moved (endMethod_moved rest) fun _ => rfl

-----------------------------------------------------------------------------------------
-- Messages
-----------------------------------------------------------------------------------------

/-- An enum is read alike and takes the place of its name. -/
theorem readEnum_moved (scope : String) : Steady move (readEnum scope) := by
  intro tokens
  refine bind_moved (expect_moved .identifier tokens) fun (name, rest) => ?_
  refine bind_moved (expectWord_moved "\x7b" rest) fun rest => ?_
  exact bind_moved (ItemReader.all_moved readValue_moved rest) fun _ => rfl

/-- A map field is read alike; its entry message and the fields in it are moved with it. -/
theorem readMapField_moved (scope : String) : Steady move (readMapField scope) := by
  intro tokens
  refine bind_moved (expectWord_moved "<" tokens) fun rest => ?_
  refine bind_moved (expect_moved .mapKeyType rest) fun (key, rest) => ?_
  refine bind_moved (expectWord_moved "," rest) fun rest => ?_
  refine bind_moved (expect_moved .mapValueType rest) fun (value, rest) => ?_
  refine bind_moved (expectWord_moved ">" rest) fun rest => ?_
  refine bind_moved (expect_moved .identifier rest) fun (name, rest) => ?_
  exact bind_moved (readNumber_moved ";" rest) fun _ => rfl

/-- A group is read alike; both its field and its message take the place of its name. -/
theorem readGroup_moved (scope : String) (isRepeated : Bool)
    : Steady move (readGroup scope isRepeated) := by
  intro tokens
  refine bind_moved (expect_moved .identifier tokens) fun (name, rest) => ?_
  exact bind_moved (readNumber_moved "\x7b" rest) fun _ => rfl

/-- A label is known by its word, and what is left after it is moved. -/
theorem readLabel_moved : Steady move readLabel
  | [] => rfl
  | _ :: _ => ite_moved rfl (ite_moved rfl rfl)

/-- Whether a word comes first can be told at every place. -/
theorem startsWith_moved (word : String) (tokens : Tokens)
    : startsWith word (moved move tokens) = startsWith word tokens := by
  cases tokens <;> rfl

/-- Moving places and dropping the first token can be done in either order. -/
theorem tail_moved : Steady move (List.tail : Tokens → Tokens)
  | [] => rfl
  | _ :: _ => rfl

/-- A field is read alike, as a group or as a field of its own. -/
theorem readField_moved (scope : String) : Steady move (readField scope) := by
  intro tokens
  unfold readField
  rw [readLabel_moved]
  obtain ⟨label, rest⟩ := readLabel tokens
  change (if startsWith "group" (moved move rest) then _ else _) = _
  rw [startsWith_moved]
  refine ite_moved ?_ ?_
  · exact (congrArg _ (tail_moved rest)).trans (readGroup_moved scope label.isRepeated rest.tail)
  · refine bind_moved (expect_moved .typeName rest) fun (type, rest) => ?_
    refine bind_moved (expect_moved .identifier rest) fun (name, rest) => ?_
    exact bind_moved (readNumber_moved ";" rest) fun _ => rfl

/-- The head of a nested message is read alike. -/
theorem readMessageName_moved : Steady move readMessageName := by
  intro tokens
  refine bind_moved (expect_moved .identifier tokens) fun (name, rest) => ?_
  exact bind_moved (expectWord_moved "\x7b" rest) fun _ => rfl

/-- Whatever may stand in a message is read alike, by the word it begins with. -/
theorem readMessageItem_moved (scope : String) : Steady move (readMessageItem scope)
  | [] => error_moved move _
  | token :: rest => by
      refine ite_moved rfl (ite_moved rfl (ite_moved rfl ?_))
      refine ite_moved (readMessageName_moved rest) (ite_moved ?_ (ite_moved ?_ ?_))
      · exact map_moved (readEnum_moved scope rest) fun _ => rfl
      · exact map_moved (skipStatement_moved 0 rest) fun _ => rfl
      · refine ite_moved rfl (ite_moved (readMapField_moved scope rest) ?_)
        exact readField_moved scope (token :: rest)

/-- A body with more fields and definitions before it is moved part by part. -/
theorem after_moved (fields : List Field) (nested : List Definition) (body : MessageBody)
    : (moved move body).after (moved move fields) (moved move nested)
      = moved move (body.after fields nested) := by
  simp only [MessageBody.after, moved, List.map_append]

/-- The same goes for a body that was read with tokens left after it. -/
theorem addBefore_moved (fields : List Field) (nested : List Definition)
    (result : MessageBody × Tokens)
    : addBefore (moved move fields) (moved move nested) (moved move result)
      = moved move (addBefore fields nested result) :=
  Prod.ext (after_moved fields nested result.1) rfl

/-- By induction on how many tokens there are, as a nested body and what comes after it are both
read from fewer. -/
theorem readBody_moved (scope : String) : Steady move (readBody scope) := by
  intro tokens
  induction left : tokens.length using Nat.strongRecOn generalizing scope tokens with
  | ind count ih =>
      rw [readBody_eq, readBody_eq]
      refine bind_moved_of_ok (readMessageItem_moved scope tokens) fun (item, rest) read => ?_
      have fewer := readMessageItem_length read
      have others := ih _ (left ▸ fewer) scope rest rfl
      cases item with
      | close => rfl
      | skipped => exact others
      | field field => exact map_moved others (addBefore_moved [field] [])
      | mapField field entry => exact map_moved others (addBefore_moved [field] [entry])
      | enum definition => exact map_moved others (addBefore_moved [] [definition])
      | message name field =>
          have inside := ih _ (left ▸ fewer) (inScope scope name.text) rest rfl
          refine bind_moved_of_ok inside fun (inner, after) nested => ?_
          have fewerStill := readBody_length nested
          have others := ih _ (by omega) scope after rfl
          let added := inner.definitions (inScope scope name.text) name.position
          cases field with
          | none => exact map_moved others (addBefore_moved [] added)
          | some field => exact map_moved others (addBefore_moved [field] added)

-----------------------------------------------------------------------------------------
-- Files
-----------------------------------------------------------------------------------------

/-- Options of files are read alike; only the one for the package in Go is kept. -/
theorem readOption_moved : Steady move readOption
  | [] => error_moved move _
  | token :: rest => by
      refine ite_moved ?_ ?_
      · refine bind_moved (expectWord_moved "=" rest) fun rest => ?_
        refine bind_moved (expectString_moved rest) fun (value, _, rest) => ?_
        exact bind_moved (expectWord_moved ";" rest) fun _ => rfl
      · exact map_moved (skipStatement_moved 0 (token :: rest)) fun _ => rfl

/-- A message of a file is read alike with all that is nested in it. -/
theorem readMessage_moved : Steady move readMessage := by
  intro tokens
  rw [readMessage_eq, readMessage_eq]
  refine bind_moved (expect_moved .identifier tokens) fun (name, rest) => ?_
  refine bind_moved (expectWord_moved "\x7b" rest) fun rest => ?_
  exact bind_moved (readBody_moved name.text rest) fun _ => rfl

/-- A service is read alike with all its methods. -/
theorem readService_moved : Steady move readService := by
  intro tokens
  refine bind_moved (expect_moved .identifier tokens) fun (name, rest) => ?_
  refine bind_moved (expectWord_moved "\x7b" rest) fun rest => ?_
  exact bind_moved (ItemReader.all_moved readMethod_moved rest) fun _ => rfl

/-- A package is read alike, or refused as the second one. -/
theorem readPackage_moved (isFirst : Bool) : Steady move (readPackage isFirst) := by
  intro tokens
  refine bind_moved (expect_moved .packageName tokens) fun (name, rest) => ?_
  refine ite_moved ?_ rfl
  exact bind_moved (expectWord_moved ";" rest) fun _ => rfl

/-- A declaration is read alike, by the word it begins with. -/
theorem readDeclaration_moved (isFirst : Bool) (token : Token) (rest : Tokens)
    : readDeclaration isFirst (moved move token) (moved move rest)
      = moved move (readDeclaration isFirst token rest) := by
  refine ite_moved rfl (ite_moved (readPackage_moved isFirst rest) ?_)
  refine ite_moved (readOption_moved rest) (ite_moved rfl ?_)
  refine ite_moved (readMessage_moved rest) (ite_moved ?_ ?_)
  · exact map_moved (readEnum_moved "" rest) fun _ => rfl
  · exact ite_moved (readService_moved rest) (ite_moved rfl rfl)

/-- Adding a declaration to a file and moving places can be done in either order. -/
theorem declare_moved (file : File) (declaration : Declaration)
    : (moved move file).declare (moved move declaration)
      = moved move (file.declare declaration) := by
  cases declaration with
  | definitions => simp only [File.declare, moved, List.map_append]
  | service =>
      simp only [File.declare, moved, List.map_append]
      rfl
  | _ => rfl

/-- All declarations are read alike, by induction on how many tokens there are, as each takes at
least one. -/
theorem readDeclarations_moved (file : File) (tokens : Tokens)
    : readDeclarations (moved move file) (moved move tokens)
      = moved move (readDeclarations file tokens) := by
  induction left : tokens.length using Nat.strongRecOn generalizing file tokens with
  | ind count ih =>
      cases tokens with
      | nil =>
          change readDeclarations _ [] = _
          rw [readDeclarations, readDeclarations]
          rfl
      | cons token rest =>
          change readDeclarations _ (moved move token :: moved move rest) = _
          rw [readDeclarations_eq, readDeclarations_eq]
          refine ite_moved rfl ?_
          refine bind_moved_of_ok (readDeclaration_moved _ token rest) ?_
          rintro ⟨declaration, after⟩ read
          have fewer := readDeclaration_length read
          have shorter : after.length < count := left ▸ Nat.lt_succ_of_le fewer
          have others := ih _ shorter (file.declare declaration) after rfl
          rwa [← declare_moved] at others

/-- The dialect of a file does not depend on places; a fault about it lies at its literal. -/
theorem readDialect_moved : Steady move readDialect
  | [] => rfl
  | token :: rest => by
      refine ite_moved ?_ rfl
      refine bind_moved (expectWord_moved "=" rest) fun rest => ?_
      refine bind_moved (expectString_moved rest) fun (name, position, rest) => ?_
      dsimp only [moved, Prod.map, id]
      cases Dialect.ofName? name with
      | none => rfl
      | some dialect => exact bind_moved (expectWord_moved ";" rest) fun _ => rfl

/-- A whole file is read alike, from its dialect to its last declaration. -/
theorem readFile_moved : Steady move readFile := by
  intro tokens
  refine bind_moved (readDialect_moved tokens) fun (dialect, rest) => ?_
  exact readDeclarations_moved { File.empty with dialect } rest

/-- Where the places of tokens are moved, so are those in what they are parsed as. -/
theorem parse_moved (move : Move) : Steady move parse :=
  fun tokens => map_moved (readFile_moved tokens) fun _ => rfl

/-- Tokens that differ in places only are parsed alike. -/
theorem parse_blind : Blind parse := by
  intro tokens
  refine (parse_moved .toStart tokens).trans ?_
  cases parse tokens <;> rfl

end GrpcMock.Proto
