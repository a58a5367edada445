import CardLimits.Model.Block
import CardLimits.Proofs.RecordReadings
import CardLimits.Proofs.TokenTexts
/-!
# Blocks and their known members

A text that is made of the tokens of a value, with any white space between them, is read like the
tree of the value (`readWhole_of_spaced`).  So the reading of an object depends on its members
(`WrittenMember`) and not on the white space, and that of a block on the members with the names of
its fields alone: neither their order counts nor other members between them, and an array of all
fourteen values comes to the same (`Block.reading_depends_on_known_members`).
-/

namespace CardLimits.Json

/-! ## Values as they are written -/

/-- What stands in a list stands between the separators of lists as well. -/
theorem mem_intercalate {α : Type} {separator item : α} {list : List α} {lists : List (List α)}
    (member : list ∈ lists) (inside : item ∈ list) : item ∈ List.intercalate [separator] lists := by
  cases lists with
  | nil => cases member
  | cons first later =>
    rw [intercalate_cons, List.mem_append]
    rcases List.mem_cons.mp member with rfl | isLater
    · exact .inl inside
    · exact .inr (List.mem_flatMap.mpr ⟨list, isLater, List.mem_cons_of_mem _ inside⟩)

/-- Lists with separators between them are mapped one by one. -/
theorem map_intercalate {α β : Type} (change : α → β) (separator : α) (lists : List (List α)) :
    (List.intercalate [separator] lists).map change =
      List.intercalate [change separator] (lists.map (List.map change)) := by
  cases lists with
  | nil => rfl
  | cons first later =>
    rw [List.map_cons, intercalate_cons, intercalate_cons, List.map_append, List.map_flatMap,
      List.flatMap_map]
    rfl

/-- A value can be passed over if all its tokens can. -/
theorem Tree.Forms.skip {tokens : List Token} {tree : Tree} (forms : Forms tokens tree)
    (whole : ∀ token ∈ tokens, token.Whole) : tree.skip = .ok () := by
  induction forms with
  | quoted text => exact whole _ (List.mem_singleton_self _)
  | bare content => exact whole _ (List.mem_singleton_self _)
  | array items _ passed =>
    have together : skip.skipItems (items.map Prod.snd) = .ok () := by
      refine skipItems_eq_ok (List.forall_mem_map.mpr fun item member => ?_)
      refine passed item member fun token inside => whole token ?_
      exact List.mem_cons_of_mem _ (List.mem_append_left _
        (mem_intercalate (List.mem_map_of_mem member) inside))
    rw [Tree.skip, together]
    rfl
  | object members _ passed =>
    have together : skip.skipMembers (members.map fun member => (member.1, member.2.2)) =
        .ok () := by
      refine skipMembers_eq_ok (List.forall_mem_map.mpr fun member isMember => ?_)
      have inObject (token : Token) (inside : token ∈ .quoted member.1 :: .colon :: member.2.1) :
          token.Whole :=
        whole token <| List.mem_cons_of_mem _ <| List.mem_append_left _ <|
          mem_intercalate (List.mem_map_of_mem isMember) inside
      refine ⟨inObject (.quoted member.1) (List.mem_cons_self ..), ?_⟩
      exact passed member isMember fun token inside =>
        inObject token (List.mem_cons_of_mem _ (List.mem_cons_of_mem _ inside))
    rw [Tree.skip, together]
    rfl

/-- A text that is made of the tokens of a value is read like the tree of the value, whatever the
white space between the tokens is. -/
theorem readWhole_of_spaced {α : Type} (read : Source → Tree → Except ReadFault α)
    {parts : List TokenText} {tree : Tree}
    (forms : Tree.Forms (parts.map TokenText.token) tree) {text : String}
    (spaced : Spaced parts text.toList) : readWhole read text = read .whole tree := by
  have apart := forms.apart follow_nil
  rw [List.append_nil] at apart
  exact readWhole_of_forms read (tokens_of_spaced spaced apart ▸ forms)

/-- A member of an object as it is written, white space aside: a text of its name, and the tokens
of its value. -/
structure WrittenMember where
  name : String
  nameText : TokenText
  named : nameText.token = .quoted (.value name)
  value : List TokenText
  tree : Tree
  forms : Tree.Forms (value.map TokenText.token) tree

namespace TokenText

/-! The brackets, the comma and the colon. -/

def openArray : TokenText := ⟨'[', [], .openArray, rfl, rfl, trivial⟩
def closeArray : TokenText := ⟨']', [], .closeArray, rfl, rfl, trivial⟩
def openObject : TokenText := ⟨'{', [], .openObject, rfl, rfl, trivial⟩
def closeObject : TokenText := ⟨'}', [], .closeObject, rfl, rfl, trivial⟩
def comma : TokenText := ⟨',', [], .comma, rfl, rfl, trivial⟩
def colon : TokenText := ⟨':', [], .colon, rfl, rfl, trivial⟩

end TokenText

namespace WrittenMember

/-- The texts of the tokens of a member. -/
def parts (member : WrittenMember) : List TokenText :=
  member.nameText :: .colon :: member.value

/-- The member in a tree, under its name. -/
def entry (member : WrittenMember) : String × Tree :=
  (member.name, member.tree)

/-- The value of a member can be passed over. -/
theorem skip_tree (member : WrittenMember) : member.tree.skip = .ok () :=
  member.forms.skip (List.forall_mem_map.mpr fun part _ => part.whole)

/-- The texts of the tokens of an object with the members. -/
def object (members : List WrittenMember) : List TokenText :=
  .openObject :: (List.intercalate [.comma] (members.map parts) ++ [.closeObject])

/-- The texts of the tokens of an array with the values of the members. -/
def array (members : List WrittenMember) : List TokenText :=
  .openArray :: (List.intercalate [.comma] (members.map value) ++ [.closeArray])

/-- The tokens of an object form its tree. -/
theorem forms_object (members : List WrittenMember) :
    Tree.Forms ((object members).map TokenText.token)
      (.object (Fields.named (members.map entry)) .closed) := by
  have whole := Tree.Forms.object
    (members.map fun member => (.value member.name, member.value.map TokenText.token, member.tree))
    (List.forall_mem_map.mpr fun member _ => member.forms)
  have tokens : List.map TokenText.token ∘ parts = fun member =>
      .quoted (.value member.name) :: .colon :: member.value.map TokenText.token := by
    refine funext fun member => ?_
    rw [Function.comp_apply, parts, List.map_cons, member.named]
    rfl
  rw [List.map_map, List.map_map] at whole
  rw [object, List.map_cons, List.map_append, map_intercalate, List.map_map, tokens,
    Fields.named, List.map_map]
  exact whole

/-- The tokens of an array form its tree. -/
theorem forms_array (members : List WrittenMember) :
    Tree.Forms ((array members).map TokenText.token)
      (.array ((members.map entry).map Prod.snd) .closed) := by
  have whole := Tree.Forms.array
    (members.map fun member => (member.value.map TokenText.token, member.tree))
    (List.forall_mem_map.mpr fun member _ => member.forms)
  rw [List.map_map, List.map_map] at whole
  rw [array, List.map_cons, List.map_append, map_intercalate, List.map_map, List.map_map]
  exact whole

end WrittenMember

end CardLimits.Json

namespace CardLimits

open Json

/-- What a block is read from are its known members, of which there are no two with one name.
Neither their order nor members under other names nor the white space between tokens count, and
an array of all fourteen values in the order of the fields comes to the same. -/
theorem Block.reading_depends_on_known_members {members others : List WrittenMember}
    (known : ∀ member ∈ members, member.name ∈ record.fields.names)
    (distinct : (members.map WrittenMember.name).Nodup)
    (same : (others.filter fun member => member.name ∈ record.fields.names).Perm members)
    {text otherText : String} (written : Spaced (WrittenMember.object members) text.toList)
    (otherWritten : Spaced (WrittenMember.object others) otherText.toList) :
    (codec.readText otherText).toOption = (codec.readText text).toOption ∧
      ∀ ordered : List WrittenMember, ordered.Perm members →
        ordered.map WrittenMember.name = record.fields.names →
        ∀ arrayText : String, Spaced (WrittenMember.array ordered) arrayText.toList →
          (codec.readText arrayText).toOption = (codec.readText text).toOption := by
  have distinctFields : record.fields.names.Nodup := by decide
  have passed (written : List WrittenMember) :
      ∀ member ∈ written.map WrittenMember.entry, member.2.skip = .ok () :=
    List.forall_mem_map.mpr fun member _ => member.skip_tree
  have knownEntries : ∀ member ∈ members.map WrittenMember.entry,
      member.1 ∈ record.fields.names := List.forall_mem_map.mpr known
  have distinctEntries : ((members.map WrittenMember.entry).map Prod.fst).Nodup := by
    rwa [List.map_map]
  have readObject : codec.readText text = _ :=
    readWhole_of_spaced codec.read (WrittenMember.forms_object members) written
  have readOther : codec.readText otherText = _ :=
    readWhole_of_spaced codec.read (WrittenMember.forms_object others) otherWritten
  refine ⟨?_, fun ordered permuted inOrder arrayText arrayWritten => ?_⟩
  · have sameEntries : ((others.map WrittenMember.entry).filter fun member =>
        member.1 ∈ record.fields.names).Perm (members.map WrittenMember.entry) := by
      rw [List.filter_map]
      exact same.map _
    rw [readObject, readOther]
    exact Record.toOption_read_object_eq distinctFields (passed members) knownEntries
      distinctEntries (passed others) sameEntries
  · have readArray : codec.readText arrayText = _ :=
      readWhole_of_spaced codec.read (WrittenMember.forms_array ordered) arrayWritten
    have inOrderEntries : (ordered.map WrittenMember.entry).map Prod.fst =
        record.fields.names := by
      rwa [List.map_map]
    rw [readObject, readArray]
    exact Record.toOption_read_array_eq distinctFields (passed members) knownEntries
      distinctEntries (permuted.map WrittenMember.entry) inOrderEntries

/-! ## Fourteen members -/

namespace SampleMembers

/-- A text in quotation marks. -/
def quoted (text : String) : TokenText where
  first := '"'
  later := text.toList.flatMap Json.escapeChar ++ ['"']
  token := .quoted (.value text)
  solid := rfl
  cut := by
    obtain ⟨found, cut, content⟩ := Quoted.pieces_escaped text.toList []
    simp only [Token.next, Token.string, Quoted.scan, cut, content, String.ofList_toList]
  whole := rfl

def null : TokenText := ⟨'n', ['u', 'l', 'l'], .bare (.value .null), rfl, rfl, rfl⟩

def no : TokenText := ⟨'f', ['a', 'l', 's', 'e'], .bare (.value (.bool false)), rfl, rfl, rfl⟩

def seven : TokenText := ⟨'7', [], .bare (.value (.number (.integer 7))), rfl, rfl, rfl⟩

/-- A member with a text. -/
def textMember (name text : String) : WrittenMember :=
  ⟨name, quoted name, rfl, [quoted text], .quoted (.value text), .quoted _⟩

/-- All members of a block. -/
def members : List WrittenMember :=
  [textMember "id" "b", textMember "parentId" "", textMember "rootId" "board",
    textMember "createdBy" "", textMember "modifiedBy" "",
    ⟨"schema", quoted "schema", rfl, [seven], _, .bare _⟩, textMember "type" "card",
    textMember "title" "\"", ⟨"fields", quoted "fields", rfl, [null], _, .bare _⟩,
    ⟨"createAt", quoted "createAt", rfl, [seven], _, .bare _⟩,
    ⟨"updateAt", quoted "updateAt", rfl, [seven], _, .bare _⟩,
    ⟨"deleteAt", quoted "deleteAt", rfl, [seven], _, .bare _⟩, textMember "workspaceId" "0",
    ⟨"limited", quoted "limited", rfl, [no], _, .bare _⟩]

/-- A member that no block has, with an array for its value. -/
def stranger : WrittenMember :=
  ⟨"stranger", quoted "stranger", rfl, [.openArray, .closeArray], .array [] .closed,
    .array [] (List.forall_mem_nil _)⟩

/-- The members the other way round, with strangers at both ends. -/
def others : List WrittenMember :=
  stranger :: (members.reverse ++ [stranger])

/-- The text of tokens with white space in front of each. -/
def text (blank : List Char) (parts : List TokenText) : String :=
  String.ofList (parts.flatMap fun part => blank ++ part.text)

/-- Such a text is made of the tokens. -/
theorem spaced_text {blank : List Char} (white : ∀ character ∈ blank, isSpace character)
    (parts : List TokenText) : Spaced parts (text blank parts).toList := by
  rw [text, String.toList_ofList]
  induction parts with
  | nil => exact .nil (List.forall_mem_nil _)
  | cons part later inductionHypothesis =>
    rw [List.flatMap_cons, List.append_assoc]
    exact .cons white inductionHypothesis

/-- The fourteen members without white space are read, and so are, as the same block, the members
the other way round between two strangers with white space, and the array of the values. -/
theorem reading_of_members :
    (∀ member ∈ members, member.name ∈ Block.record.fields.names) ∧
      (members.map WrittenMember.name).Nodup ∧
      (others.filter fun member => member.name ∈ Block.record.fields.names).Perm members ∧
      members.map WrittenMember.name = Block.record.fields.names ∧
      (Block.codec.readText (text [] (WrittenMember.object members))).toOption.isSome = true ∧
      (Block.codec.readText (text [' ', '\n'] (WrittenMember.object others))).toOption =
        (Block.codec.readText (text [] (WrittenMember.object members))).toOption ∧
      (Block.codec.readText (text ['\t'] (WrittenMember.array members))).toOption =
        (Block.codec.readText (text [] (WrittenMember.object members))).toOption := by
  have inOrder : members.map WrittenMember.name = Block.record.fields.names := rfl
  have known : ∀ member ∈ members, member.name ∈ Block.record.fields.names :=
    fun member isMember => inOrder ▸ List.mem_map_of_mem isMember
  have distinct : (members.map WrittenMember.name).Nodup := by
    rw [inOrder]
    decide
  have strange : stranger.name ∉ Block.record.fields.names := by decide
  have same :
      (others.filter fun member => member.name ∈ Block.record.fields.names).Perm members := by
    rw [others, List.filter_cons_of_neg (by simpa using strange), List.filter_append,
      List.filter_eq_self.mpr fun member isMember =>
        decide_eq_true (known member (List.mem_reverse.mp isMember)),
      List.filter_cons_of_neg (by simpa using strange), List.filter_nil, List.append_nil]
    exact List.reverse_perm members
  have written : Spaced (WrittenMember.object members) (text [] _).toList :=
    spaced_text (List.forall_mem_nil _) _
  have otherWritten : Spaced (WrittenMember.object others) (text [' ', '\n'] _).toList :=
    spaced_text (List.all_eq_true.mp rfl) _
  have arrayWritten : Spaced (WrittenMember.array members) (text ['\t'] _).toList :=
    spaced_text (List.all_eq_true.mp rfl) _
  obtain ⟨otherRead, arrayRead⟩ :=
    Block.reading_depends_on_known_members known distinct same written otherWritten
  refine ⟨known, distinct, same, inOrder, ?_, otherRead,
    arrayRead members (.refl _) inOrder _ arrayWritten⟩
  have read : Block.codec.readText (text [] (WrittenMember.object members)) = _ :=
    readWhole_of_spaced Block.codec.read (WrittenMember.forms_object members) written
  rw [read]
  rfl

end SampleMembers

end CardLimits
