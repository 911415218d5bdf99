import GrpcMock.Proofs.Lists
import GrpcMock.Proofs.Proto.Blind
import GrpcMock.Proofs.Proto.Places

/-!
Where the parts of a schema file stand. Each of them has the place of a token that the file is read
from, so no line or column in a file is beyond what its text has bytes for.
-/

namespace GrpcMock.Proto

open GrpcMock.Text (byteCount)

-----------------------------------------------------------------------------------------
-- The places of tokens
-----------------------------------------------------------------------------------------

def Definition.places (definition : Definition) : List Position :=
  definition.position :: definition.fields.map (·.position)

def Service.places (service : Service) : List Position :=
  service.position :: service.methods.map (·.position)

/-- The places of all that a file declares. -/
def File.places (file : File) : List Position :=
  file.definitions.flatMap Definition.places ++ file.services.flatMap Service.places

/-- The places in a definition are moved with it. -/
theorem Definition.places_moved (move : Move) (definition : Definition)
    : (moved move definition).places = definition.places.map move.place := by
  simp only [places, moved, List.map_map, List.map_cons]
  rfl

/-- So are those in a service. -/
theorem Service.places_moved (move : Move) (service : Service)
    : (moved move service).places = service.places.map move.place := by
  simp only [places, moved, List.map_map, List.map_cons]
  rfl

/-- So are those in a list, item by item. -/
theorem flatMap_moved {α : Type} [Movable α] {move : Move} {places : α → List Position}
    (each : ∀ item, places (moved move item) = (places item).map move.place) (items : List α)
    : (moved move items).flatMap places = (items.flatMap places).map move.place := by
  change (items.map (moved move)).flatMap places = _
  rw [List.flatMap_map, List.map_flatMap]
  exact congrArg (fun places => List.flatMap places items) (funext each)

/-- So are all those in a file. -/
theorem File.places_moved (move : Move) (file : File)
    : (moved move file).places = file.places.map move.place := by
  rw [places, places, List.map_append, ← flatMap_moved (Definition.places_moved move),
    ← flatMap_moved (Service.places_moved move)]
  rfl

/-- All places but some are moved to the start. -/
def Move.keeping (places : List Position) : Move where
  place position := if position ∈ places then position else .start
  start := ite_self _

/-- A move that keeps some places leaves them where they are. -/
theorem Move.keeping_of_mem {places : List Position} {position : Position}
    (inside : position ∈ places)
    : (keeping places).place position = position :=
  if_pos inside

/-- The places in a file are those of tokens, as moving all others would not change the file. -/
theorem mem_of_parse {tokens : Tokens} {file : File} (h : parse tokens = .ok file)
    {position : Position} (inside : position ∈ file.places)
    : position = .start ∨ position ∈ tokens.map (·.position) := by
  let move := Move.keeping (tokens.map (·.position))
  have kept : moved move tokens = tokens := by
    refine (List.map_congr_left fun token member => ?_).trans (List.map_id tokens)
    have same := Move.keeping_of_mem (List.mem_map_of_mem (f := (·.position)) member)
    exact congrArg (Token.mk token.text) same
  have unchanged : moved move file = file := by
    have parsed := parse_moved move tokens
    rw [kept, h] at parsed
    exact (Except.ok.inj parsed).symm
  have fixed : file.places.map move.place = file.places.map id := by
    rw [← file.places_moved, unchanged, List.map_id]
  have stays : move.place position = position := List.map_inj_left.mp fixed position inside
  by_cases member : position ∈ tokens.map (·.position)
  · exact .inr member
  · exact .inl (stays.symm.trans (if_neg member))

-----------------------------------------------------------------------------------------
-- How large they are
-----------------------------------------------------------------------------------------

/-- Every character has at least one byte. -/
theorem length_le_byteCount (text : List Char) : text.length ≤ byteCount text := by
  induction text with
  | nil => exact Nat.zero_le _
  | cons c rest ih =>
      have front : byteCount (c :: rest) = byteCount [c] + byteCount rest :=
        byteCount_append [c] rest
      have := byteCount_pos (List.cons_ne_nil c [])
      rw [List.length_cons]
      omega

/-- A place in a text is on none but the lines that it has, and no further to the right than it has
bytes. -/
theorem Position.after_le (before after : List Char)
    : (Position.after before).line ≤ 1 + byteCount (before ++ after)
      ∧ (Position.after before).column ≤ 1 + byteCount (before ++ after) := by
  have whole := byteCount_append before after
  have lines : before.count '\n' ≤ byteCount before :=
    Nat.le_trans List.count_le_length (length_le_byteCount before)
  have columns : byteCount (before.rtakeWhile (· ≠ '\n')) ≤ byteCount before := by
    obtain ⟨front, same⟩ := List.rtakeWhile_suffix (· ≠ '\n') before
    have := byteCount_append front (before.rtakeWhile (· ≠ '\n'))
    rw [same] at this
    omega
  simp only [Position.after]
  omega

/-- No line or column of a token exceeds the bytes of the text by more than one. -/
theorem Token.StandsAt.le {text : List Char} {token : Token} {offset : Nat}
    (h : token.StandsAt text offset)
    : token.position.line ≤ 1 + byteCount text ∧ token.position.column ≤ 1 + byteCount text := by
  obtain ⟨before, after, rfl, -, place, -⟩ := h
  rw [place, List.append_assoc]
  exact Position.after_le before _

/-- No line or column in a file is beyond what its text has bytes for. -/
theorem File.place_le {text : String} {file : File} (h : File.ofText text = .ok file)
    {position : Position} (inside : position ∈ file.places)
    : position.line ≤ 1 + byteCount text.toList
      ∧ position.column ≤ 1 + byteCount text.toList := by
  obtain ⟨tokens, read, parsed⟩ := bind_eq_ok.mp h
  have places : Places [] text.toList (tokenize text) := tokensFrom_places [] text.toList
  rw [read] at places
  obtain ⟨offsets, standing⟩ := places
  rcases mem_of_parse parsed inside with rfl | member
  · exact Position.after_le [] text.toList
  · obtain ⟨token, among, rfl⟩ := List.mem_map.mp member
    obtain ⟨offset, -, stands⟩ := standing.stand.exists_right among
    exact stands.le

end GrpcMock.Proto
