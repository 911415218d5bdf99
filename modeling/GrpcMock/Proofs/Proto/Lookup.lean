import GrpcMock.Proofs.Proto.Compile

/-!
Messages looked up by name. A name is taken for a full name and for one relative to the package at
once, and the first message with either reading is found, so that a message can hide another one
behind it from its own full name.
-/

namespace GrpcMock

namespace Package

variable {package : Package} {message other : MessageSchema} {name : String}

/-- A name is the full name of a message, or its name relative to the package. -/
def Denotes (package : Package) (name : String) (message : MessageSchema) : Prop :=
  message.fullName = name ∨ message.fullName = qualify package.name name

/-- A message stands before another one in a package, and its name relative to the package is the
full name of the other. -/
def Hides (package : Package) (front back : MessageSchema) : Prop :=
  ∃ before after,
    package.messages = before ++ back :: after
    ∧ front ∈ before
    ∧ front.fullName = qualify package.name back.fullName

theorem denotes_of_find? {messages : List MessageSchema}
    (found
      : messages.find? (fun message =>
          message.fullName == name || message.fullName == qualify package.name name)
        = some message)
    : message ∈ messages ∧ package.Denotes name message :=
  ⟨List.mem_of_find?_eq_some found, by simpa [Denotes] using List.find?_some found⟩

section Distinct

variable (distinct : (package.messages.map (·.fullName)).Nodup)

include distinct

theorem fullName_ne_of_earlier {before after : List MessageSchema}
    (split : package.messages = before ++ message :: after) (earlier : other ∈ before)
    : other.fullName ≠ message.fullName := by
  intro same
  rw [split, List.map_append, List.map_cons] at distinct
  exact List.disjoint_of_nodup_append distinct (List.mem_map_of_mem earlier)
    (same ▸ List.mem_cons_self ..)

/-- A message that hides another one has a longer name, so there is none without a package. -/
theorem not_hides (unnamed : package.name = none) : ¬package.Hides other message := by
  rintro ⟨before, after, split, earlier, named⟩
  rw [unnamed, qualify] at named
  exact fullName_ne_of_earlier distinct split earlier named

/-- What stands before a message has another full name, so if it goes by that of the message all the
same, it hides the message. -/
theorem hides_of_denotes {before after : List MessageSchema}
    (split : package.messages = before ++ message :: after) (earlier : other ∈ before)
    (denotes : package.Denotes message.fullName other)
    : package.Hides other message := by
  rcases denotes with same | named
  · exact absurd same (fullName_ne_of_earlier distinct split earlier)
  · exact ⟨before, after, split, earlier, named⟩

/-- A hidden message is not found by its full name, but the one that hides it is. -/
theorem message?_of_hides (hides : package.Hides other message)
    : package.message? message.fullName = some other := by
  obtain ⟨before, after, split, earlier, named⟩ := hides
  rw [message?, split, List.find?_append]
  cases search
      : before.find? fun other =>
          other.fullName == message.fullName
          || other.fullName == qualify package.name message.fullName with
  | none =>
      have missed := List.find?_eq_none.mp search other earlier
      simp [named] at missed
  | some found =>
      obtain ⟨inside, denotes⟩ := denotes_of_find? search
      obtain ⟨_, _, _, _, namedToo⟩ := hides_of_denotes distinct split inside denotes
      have inside : found ∈ package.messages := split ▸ List.mem_append_left _ inside
      have earlier : other ∈ package.messages := split ▸ List.mem_append_left _ earlier
      rw [List.inj_on_of_nodup_map distinct inside earlier (namedToo.trans named.symm)]
      rfl

/-- A message that nothing hides is found by its full name. -/
theorem message?_of_not_hides (member : message ∈ package.messages)
    (clear : ∀ other, ¬package.Hides other message)
    : package.message? message.fullName = some message := by
  obtain ⟨before, after, split⟩ := List.append_of_mem member
  rw [message?, split, List.find?_append]
  cases search
      : before.find? fun other =>
          other.fullName == message.fullName
          || other.fullName == qualify package.name message.fullName with
  | none => simp
  | some found =>
      obtain ⟨inside, denotes⟩ := denotes_of_find? search
      exact absurd (hides_of_denotes distinct split inside denotes) (clear found)

end Distinct

end Package

namespace Proto

/-- In a package that compiles, a message is found by its full name just if no other one hides it.
One that hides it is found in its place, which cannot happen in a file that names no package. -/
theorem message?_fullName_iff {text : String} {package : Package} {message : MessageSchema}
    (compiled : compile text = .ok package) (member : message ∈ package.messages)
    : (package.message? message.fullName = some message ↔ ∀ other, ¬package.Hides other message)
      ∧ (∀ other,
          package.Hides other message → package.message? message.fullName = some other)
      ∧ (package.name = none → ∀ other, ¬package.Hides other message) := by
  have distinct : (package.messages.map (·.fullName)).Nodup :=
    (List.nodup_append.mp (compile_wellFormed compiled).fullNames).1
  refine ⟨⟨?_, ?_⟩, ?_, ?_⟩
  · intro found other hides
    obtain rfl : message = other :=
      Option.some.inj (found.symm.trans (Package.message?_of_hides distinct hides))
    obtain ⟨before, after, split, earlier, -⟩ := hides
    exact Package.fullName_ne_of_earlier distinct split earlier rfl
  · exact Package.message?_of_not_hides distinct member
  · exact fun other => Package.message?_of_hides distinct
  · exact fun unnamed other => Package.not_hides distinct unnamed

def kioskText : String :=
  "package shop; message shop \x7b message Item \x7b \x7d \x7d message Item \x7b \x7d"

/-- The item of the message that is called like the package. -/
def kioskInner : MessageSchema :=
  {
    fullName := "shop.shop.Item",
    ident := ⟨"Shop_Item", "shop"⟩,
    fields := [],
    isMapEntry := false
  }

def kioskItem : MessageSchema :=
  {
    fullName := "shop.Item",
    ident := ⟨"Item", "shop"⟩,
    fields := [],
    isMapEntry := false
  }

def kioskPackage : Package :=
  {
    name := some "shop",
    goPackage := ⟨"shop", "shop"⟩,
    messages := [⟨"shop.shop", ⟨"Shop", "shop"⟩, [], false⟩, kioskInner, kioskItem],
    enums := [],
    services := []
  }

/-- Whoever asks for the item of the package gets the one within the other message. -/
theorem message?_fullName_kiosk
    : compile kioskText = .ok kioskPackage
      ∧ kioskItem ∈ kioskPackage.messages
      ∧ kioskPackage.Hides kioskInner kioskItem
      ∧ kioskPackage.message? kioskItem.fullName = some kioskInner
      ∧ kioskPackage.message? kioskItem.fullName ≠ some kioskItem := by
  have compiled : compile kioskText = .ok kioskPackage :=
    toOption_eq_some.mp (by decide +kernel)
  have member : kioskItem ∈ kioskPackage.messages := by simp [kioskPackage]
  have hides : kioskPackage.Hides kioskInner kioskItem :=
    ⟨[_, kioskInner], [], rfl, by simp, by decide⟩
  obtain ⟨found, front, -⟩ := message?_fullName_iff compiled member
  exact ⟨compiled, member, hides, front kioskInner hides,
    fun itself => found.mp itself kioskInner hides⟩

end Proto

end GrpcMock
