import CardLimits.Json.Tree
/-!
# The trees of values

Tokens form a value (`Tree.Forms`) if they are one scalar, or items or members with commas
between them in brackets.  The tree of such a value is built from its tokens whatever
frames are open around it and whatever tokens follow (`Tree.Forms.buildFrom`).  A value
that is written in full determines a tree, `Json.asTree`, and the tokens that form it,
`Json.asTokens`.
-/

namespace CardLimits.Json

/-- What holds of the scalars, and of an array or object when it holds of all that
stands in it, holds of every value. -/
@[elab_as_elim]
theorem inductionOn {motive : Json → Prop} (value : Json)
    (null : motive .null)
    (bool : ∀ flag, motive (.bool flag))
    (number : ∀ number, motive (.number number))
    (string : ∀ text, motive (.string text))
    (array : ∀ items, (∀ item ∈ items, motive item) → motive (.array items))
    (object : ∀ members, (∀ member ∈ members, motive member.2) → motive (.object members)) :
    motive value := by
  refine @Json.rec motive (fun items => ∀ item ∈ items, motive item)
    (fun members => ∀ member ∈ members, motive member.2) (fun member => motive member.2)
    null bool number string array object ?_ ?_ ?_ ?_ ?_ value
  · exact List.forall_mem_nil _
  · intro first rest firstHolds restHold
    exact List.forall_mem_cons.mpr ⟨firstHolds, restHold⟩
  · exact List.forall_mem_nil _
  · intro first rest firstHolds restHold
    exact List.forall_mem_cons.mpr ⟨firstHolds, restHold⟩
  · intro name held holds
    exact holds

/-- The tree of a value that is written in full. -/
def asTree : Json → Tree
  | .null => .bare (.value .null)
  | .bool flag => .bare (.value (.bool flag))
  | .number value => .bare (.value (.number value))
  | .string text => .quoted (.value text)
  | .array items => .array (itemTrees items) .closed
  | .object members => .object (memberTrees members) .closed
where
  itemTrees : List Json → List Tree
    | [] => []
    | item :: rest => item.asTree :: itemTrees rest
  memberTrees : List (String × Json) → List (Lexeme String × Tree)
    | [] => []
    | (name, value) :: rest => (.value name, value.asTree) :: memberTrees rest

/-- A member of an object, as it stands in the tree of the object. -/
def memberTree (member : String × Json) : Lexeme String × Tree :=
  (.value member.1, member.2.asTree)

theorem itemTrees_eq_map (items : List Json) : asTree.itemTrees items = items.map asTree := by
  induction items with
  | nil => rfl
  | cons item rest inductionHypothesis =>
    rw [asTree.itemTrees, inductionHypothesis, List.map_cons]

theorem memberTrees_eq_map (members : List (String × Json)) :
    asTree.memberTrees members = members.map memberTree := by
  induction members with
  | nil => rfl
  | cons member rest inductionHypothesis =>
    rw [asTree.memberTrees, inductionHypothesis, List.map_cons, memberTree]

@[simp]
theorem asTree_null : asTree .null = .bare (.value .null) := rfl

@[simp]
theorem asTree_bool (flag : Bool) : asTree (.bool flag) = .bare (.value (.bool flag)) := rfl

@[simp]
theorem asTree_number (value : Number) :
    asTree (.number value) = .bare (.value (.number value)) := rfl

@[simp]
theorem asTree_string (text : String) : asTree (.string text) = .quoted (.value text) := rfl

@[simp]
theorem asTree_array (items : List Json) :
    asTree (.array items) = .array (items.map asTree) .closed := by
  rw [asTree, itemTrees_eq_map]

@[simp]
theorem asTree_object (members : List (String × Json)) :
    asTree (.object members) = .object (members.map memberTree) .closed := by
  rw [asTree, memberTrees_eq_map]

/-- How deeply arrays and objects are nested in a value. -/
def depth : Json → Nat
  | .array items => itemsDepth items + 1
  | .object members => membersDepth members + 1
  | _ => 0
where
  itemsDepth : List Json → Nat
    | [] => 0
    | item :: rest => max item.depth (itemsDepth rest)
  membersDepth : List (String × Json) → Nat
    | [] => 0
    | (_, value) :: rest => max value.depth (membersDepth rest)

/-- An item is less deep than its array. -/
theorem depth_lt_of_mem_items {item : Json} {items : List Json} (member : item ∈ items) :
    item.depth < (Json.array items).depth := by
  rw [depth, Nat.lt_succ_iff]
  induction items with
  | nil => cases member
  | cons first rest inductionHypothesis =>
    rw [depth.itemsDepth]
    cases member with
    | head => exact Nat.le_max_left ..
    | tail _ later => exact Nat.le_trans (inductionHypothesis later) (Nat.le_max_right ..)

/-- The value of a member is less deep than its object. -/
theorem depth_lt_of_mem_members {member : String × Json} {members : List (String × Json)}
    (present : member ∈ members) : member.2.depth < (Json.object members).depth := by
  rw [depth, Nat.lt_succ_iff]
  induction members with
  | nil => cases present
  | cons first rest inductionHypothesis =>
    rw [depth.membersDepth]
    cases present with
    | head => exact Nat.le_max_left ..
    | tail _ later => exact Nat.le_trans (inductionHypothesis later) (Nat.le_max_right ..)

/-- The tokens that a value is written with. -/
def asTokens : Json → List Token
  | .null => [.bare (.value .null)]
  | .bool flag => [.bare (.value (.bool flag))]
  | .number value => [.bare (.value (.number value))]
  | .string text => [.quoted (.value text)]
  | .array [] => [.openArray, .closeArray]
  | .array (item :: rest) => .openArray :: (item.asTokens ++ laterItems rest)
  | .object [] => [.openObject, .closeObject]
  | .object ((name, value) :: rest) =>
    .openObject :: .quoted (.value name) :: .colon :: (value.asTokens ++ laterMembers rest)
where
  /-- The tokens behind an item, up to the end of its array. -/
  laterItems : List Json → List Token
    | [] => [.closeArray]
    | item :: rest => .comma :: (item.asTokens ++ laterItems rest)
  /-- The tokens behind a member, up to the end of its object. -/
  laterMembers : List (String × Json) → List Token
    | [] => [.closeObject]
    | (name, value) :: rest =>
      .comma :: .quoted (.value name) :: .colon :: (value.asTokens ++ laterMembers rest)

/-- Lists one behind the other: every one but the first stands behind a separator. -/
theorem intercalate_cons {α : Type} (separator : α) (first : List α) (later : List (List α)) :
    List.intercalate [separator] (first :: later) =
      first ++ later.flatMap (separator :: ·) := by
  induction later generalizing first with
  | nil => simp [List.intercalate]
  | cons second others inductionHypothesis =>
    rw [List.intercalate_cons_cons, inductionHypothesis, List.flatMap_cons, List.append_assoc]
    rfl

namespace Tree

/-- Tokens that make up a value, and the tree of the value. -/
inductive Forms : List Token → Tree → Prop
  | quoted (text : Lexeme String) : Forms [.quoted text] (.quoted text)
  | bare (content : Lexeme Bare) : Forms [.bare content] (.bare content)
  | array (items : List (List Token × Tree)) (inside : ∀ item ∈ items, Forms item.1 item.2) :
      Forms (.openArray :: (List.intercalate [.comma] (items.map Prod.fst) ++ [.closeArray]))
        (.array (items.map Prod.snd) .closed)
  | object (members : List (Lexeme String × List Token × Tree))
      (inside : ∀ member ∈ members, Forms member.2.1 member.2.2) :
      Forms
        (.openObject ::
          (List.intercalate [.comma]
            (members.map fun member => .quoted member.1 :: .colon :: member.2.1) ++
            [.closeObject]))
        (.object (members.map fun member => (member.1, member.2.2)) .closed)

/-- A token that may stand at a place leads on to the next place. -/
theorem buildFrom_of_advance {place next : Place} {token : Token}
    (step : place.advance token = some next) (rest : List Token) :
    buildFrom place (token :: rest) = buildFrom next rest := by
  cases place with
  | finished tree => simp [Place.advance] at step
  | _ => simp only [buildFrom, step]

/-- At the start of an array a value is taken in like an item behind a comma. -/
theorem Forms.buildFrom_firstItem {tokens : List Token} {tree : Tree} (forms : Forms tokens tree)
    (frames : List Frame) (rest : List Token) :
    buildFrom (.firstItem frames) (tokens ++ rest) =
      buildFrom (.value (.array [] :: frames)) (tokens ++ rest) := by
  cases forms with
  | quoted text => rfl
  | bare content => rfl
  | array items inside => rfl
  | object members inside => rfl

/-- The further items of an array are taken in behind the items read so far, and then
the array is complete. -/
theorem buildFrom_laterItems {items : List (List Token × Tree)}
    (taken : ∀ item ∈ items, ∀ frames rest,
      buildFrom (.value frames) (item.1 ++ rest) = buildFrom (.after item.2 frames) rest)
    (before : List Tree) (frames : List Frame) (rest : List Token) :
    buildFrom (.afterItem before frames)
        ((items.map Prod.fst).flatMap (.comma :: ·) ++ .closeArray :: rest) =
      buildFrom (.after (.array (before.reverse ++ items.map Prod.snd) .closed) frames) rest := by
  induction items generalizing before with
  | nil =>
    rw [List.map_nil, List.map_nil, List.append_nil]
    exact buildFrom_of_advance rfl rest
  | cons item later inductionHypothesis =>
    obtain ⟨first, others⟩ := List.forall_mem_cons.mp taken
    rw [List.map_cons, List.flatMap_cons, List.cons_append, List.cons_append, List.append_assoc,
      buildFrom_of_advance rfl, first, Place.after, inductionHypothesis others,
      List.reverse_cons, List.append_assoc, List.singleton_append, List.map_cons]

/-- The further members of an object are taken in behind the members read so far, and
then the object is complete. -/
theorem buildFrom_laterMembers {members : List (Lexeme String × List Token × Tree)}
    (taken : ∀ member ∈ members, ∀ frames rest,
      buildFrom (.value frames) (member.2.1 ++ rest) = buildFrom (.after member.2.2 frames) rest)
    (before : List (Lexeme String × Tree)) (frames : List Frame) (rest : List Token) :
    buildFrom (.afterMember before frames)
        ((members.map fun member => .quoted member.1 :: .colon :: member.2.1).flatMap
          (.comma :: ·) ++ .closeObject :: rest) =
      buildFrom
        (.after (.object (before.reverse ++ members.map fun member => (member.1, member.2.2))
          .closed) frames) rest := by
  induction members generalizing before with
  | nil =>
    rw [List.map_nil, List.map_nil, List.append_nil]
    exact buildFrom_of_advance rfl rest
  | cons member later inductionHypothesis =>
    obtain ⟨first, others⟩ := List.forall_mem_cons.mp taken
    simp only [List.map_cons, List.flatMap_cons, List.cons_append, List.append_assoc]
    rw [buildFrom_of_advance rfl, buildFrom_of_advance rfl, buildFrom_of_advance rfl, first,
      Place.after, inductionHypothesis others, List.reverse_cons, List.append_assoc,
      List.singleton_append]

/-- Where a value is due, the tokens of a value are taken in as its tree. -/
theorem Forms.buildFrom {tokens : List Token} {tree : Tree} (forms : Forms tokens tree)
    (frames : List Frame) (rest : List Token) :
    Tree.buildFrom (.value frames) (tokens ++ rest) =
      Tree.buildFrom (.after tree frames) rest := by
  induction forms generalizing frames rest with
  | quoted text => exact buildFrom_of_advance rfl rest
  | bare content => exact buildFrom_of_advance rfl rest
  | array items inside taken =>
    cases items with
    | nil => rfl
    | cons item later =>
      obtain ⟨first, others⟩ := List.forall_mem_cons.mp taken
      obtain ⟨firstInside, -⟩ := List.forall_mem_cons.mp inside
      rw [List.map_cons, intercalate_cons, List.cons_append, List.append_assoc,
        List.append_assoc, buildFrom_of_advance rfl, firstInside.buildFrom_firstItem, first,
        Place.after, List.cons_append, List.nil_append, buildFrom_laterItems others]
      rfl
  | object members inside taken =>
    cases members with
    | nil => rfl
    | cons member later =>
      obtain ⟨first, others⟩ := List.forall_mem_cons.mp taken
      rw [List.map_cons, intercalate_cons, List.cons_append, List.append_assoc,
        List.append_assoc, List.cons_append, List.cons_append, buildFrom_of_advance rfl,
        buildFrom_of_advance rfl, buildFrom_of_advance rfl, first, Place.after,
        List.cons_append, List.nil_append, buildFrom_laterMembers others]
      rfl

/-- The tokens of a value make up its tree, and nothing behind them is looked at. -/
theorem Forms.ofTokens {tokens : List Token} {tree : Tree} (forms : Forms tokens tree)
    (rest : List Token) : Tree.ofTokens (tokens ++ rest) = (tree, rest) := by
  rw [Tree.ofTokens, forms.buildFrom, Place.after]
  cases rest <;> rfl

end Tree

/-- The tokens behind an item are those of the other items, each behind a comma. -/
theorem laterItems_eq_flatMap (items : List Json) :
    asTokens.laterItems items = (items.map asTokens).flatMap (.comma :: ·) ++ [.closeArray] := by
  induction items with
  | nil => rfl
  | cons item later inductionHypothesis =>
    rw [asTokens.laterItems, inductionHypothesis, List.map_cons, List.flatMap_cons,
      List.cons_append, List.cons_append, List.append_assoc]

/-- The tokens of a member. -/
def memberTokens (member : String × Json) : List Token :=
  .quoted (.value member.1) :: .colon :: member.2.asTokens

/-- The tokens behind a member are those of the other members, each behind a comma. -/
theorem laterMembers_eq_flatMap (members : List (String × Json)) :
    asTokens.laterMembers members =
      (members.map memberTokens).flatMap (.comma :: ·) ++ [.closeObject] := by
  induction members with
  | nil => rfl
  | cons member later inductionHypothesis =>
    simp only [asTokens.laterMembers, inductionHypothesis, List.map_cons, List.flatMap_cons,
      memberTokens, List.cons_append, List.append_assoc]

/-- The tokens of an array are those of its items with commas between them. -/
theorem asTokens_array (items : List Json) :
    asTokens (.array items) =
      .openArray :: (List.intercalate [.comma] (items.map asTokens) ++ [.closeArray]) := by
  cases items with
  | nil => rfl
  | cons item later =>
    rw [asTokens, laterItems_eq_flatMap, List.map_cons, intercalate_cons, List.append_assoc]

/-- The tokens of an object are those of its members with commas between them. -/
theorem asTokens_object (members : List (String × Json)) :
    asTokens (.object members) =
      .openObject ::
        (List.intercalate [.comma] (members.map memberTokens) ++ [.closeObject]) := by
  cases members with
  | nil => rfl
  | cons member later =>
    rw [asTokens, laterMembers_eq_flatMap, List.map_cons, intercalate_cons, List.append_assoc]
    rfl

/-- The tokens of a value form its tree. -/
theorem forms_asTokens (value : Json) : Tree.Forms value.asTokens value.asTree := by
  induction value using Json.inductionOn with
  | null => exact .bare _
  | bool flag => exact .bare _
  | number number => exact .bare _
  | string text => exact .quoted _
  | array items forms =>
    have whole := Tree.Forms.array (items.map fun item => (item.asTokens, item.asTree)) (by
      intro pair member
      obtain ⟨item, present, rfl⟩ := List.mem_map.mp member
      exact forms item present)
    rw [List.map_map, List.map_map] at whole
    rw [asTokens_array, asTree_array]
    exact whole
  | object members forms =>
    have whole := Tree.Forms.object
      (members.map fun member => (.value member.1, member.2.asTokens, member.2.asTree)) (by
        intro part present
        obtain ⟨member, isMember, rfl⟩ := List.mem_map.mp present
        exact forms member isMember)
    rw [List.map_map, List.map_map] at whole
    rw [asTokens_object, asTree_object]
    exact whole

/-- The tokens of a value make up its tree, and nothing behind them is looked at. -/
theorem Tree.ofTokens_asTokens (value : Json) (rest : List Token) :
    ofTokens (value.asTokens ++ rest) = (value.asTree, rest) :=
  (forms_asTokens value).ofTokens rest

end CardLimits.Json
