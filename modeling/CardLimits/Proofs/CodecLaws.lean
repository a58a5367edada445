import CardLimits.Json.Free
import CardLimits.Proofs.Tables
import CardLimits.Proofs.WrittenTokens
/-!
# What codecs keep

A codec keeps a value (`Codec.Keeps`) if it writes it with exact numbers and reads the
tree of what it wrote as that value, wherever arrays and objects may be nested that
deeply.  Then it also restores the value from its text (`Codec.Keeps.restores`).
A codec that is made of others keeps what they keep.
-/

namespace CardLimits.Json

/-- If two steps one after the other succeed, so do both. -/
theorem exists_of_bind_eq_ok {α β ε : Type} {first : Except ε α} {next : α → Except ε β}
    {result : β} (ran : first >>= next = .ok result) :
    ∃ value, first = .ok value ∧ next value = .ok result := by
  cases first with
  | error fault => cases ran
  | ok value => exact ⟨value, rfl, ran⟩

/-- A name without a fault is read. -/
theorem Lexeme.eq_value {α : Type} {lexeme : Lexeme α} {value : α}
    (read : liftFault lexeme.read = .ok value) : lexeme = .value value := by
  cases lexeme with
  | value content =>
    cases read
    rfl
  | valueless fault => cases read
  | broken place => cases read

/-- Finding something else than was expected is a failure. -/
theorem Tree.mismatch_ne_ok {α : Type} (tree : Tree) (expected : Expected) (value : α) :
    tree.mismatch expected ≠ .ok value := by
  intro accepted
  obtain ⟨found, -, thrown⟩ := exists_of_bind_eq_ok accepted
  cases thrown

/-- The tree that a text starts with. -/
def Tree.ofText (text : String) : Tree :=
  (Tree.ofTokens (tokens text.toList)).1

/-- A whole text is read like its tree, and then nothing may be left over. -/
theorem readWhole_eq {α : Type} (read : Source → Tree → Except ReadFault α) (text : String) :
    readWhole read text = read .whole (Tree.ofText text) >>= fun value =>
      if (Tree.ofTokens (tokens text.toList)).2.isEmpty then .ok value
      else .error (.text .trailingText) := rfl

/-- If a whole text is read, so is its tree, and nothing is left over. -/
theorem of_readWhole {α : Type} {read : Source → Tree → Except ReadFault α} {text : String}
    {value : α} (accepted : readWhole read text = .ok value) :
    read .whole (Tree.ofText text) = .ok value ∧
      (Tree.ofTokens (tokens text.toList)).2.isEmpty = true := by
  rw [readWhole_eq] at accepted
  obtain ⟨held, treeRead, finished⟩ := exists_of_bind_eq_ok accepted
  split at finished
  · rename_i ended
    cases finished
    exact ⟨treeRead, ended⟩
  · cases finished

/-- A text with the tokens of a value is read like the tree that they form. -/
theorem readWhole_of_forms {α : Type} (read : Source → Tree → Except ReadFault α)
    {text : String} {tree : Tree} (forms : Tree.Forms (tokens text.toList) tree) :
    readWhole read text = read .whole tree := by
  have built := forms.ofTokens []
  rw [List.append_nil] at built
  rw [readWhole_eq, Tree.ofText, built]
  cases read .whole tree <;> rfl

/-- A text that spells a value is cut into the tokens of the value. -/
theorem tokens_of_spells {text : List Char} {value : Json} (spelled : Spells text value) :
    tokens (String.ofList text).toList = value.asTokens := by
  have whole := spelled [] rfl
  rwa [tokens, List.append_nil, List.append_nil, ← String.toList_ofList (l := text)] at whole

/-- A text that spells a value is made into the tree of the value, and nothing is left over. -/
theorem ofTokens_of_spells {text : List Char} {value : Json} (spelled : Spells text value) :
    Tree.ofTokens (tokens (String.ofList text).toList) = (value.asTree, []) := by
  rw [tokens_of_spells spelled, ← List.append_nil value.asTokens, Tree.ofTokens_asTokens]

/-- A text that spells a value is read like the tree of the value. -/
theorem readWhole_of_spells {α : Type} (read : Source → Tree → Except ReadFault α)
    {text : List Char} {value : Json} (spelled : Spells text value) :
    readWhole read (String.ofList text) = read .whole value.asTree :=
  readWhole_of_forms read (tokens_of_spells spelled ▸ forms_asTokens value)

namespace Source

/-- A text can be entered only if there is room, and then what is inside is text as well. -/
theorem enter_text {room : Nat} {inside : Source}
    (entered : (Source.text room).enter = .ok inside) : inside = .text (room - 1) := by
  rw [Source.enter] at entered
  split at entered
  · cases entered
  · cases entered
    rfl

/-- Whether arrays and objects may be nested as deeply as given. -/
def Admits : Source → Nat → Prop
  | .text room, depth => depth < room
  | .settled, _ => True

/-- A source admits what is nested less deeply. -/
theorem Admits.mono {source : Source} {deep shallow : Nat} (admits : source.Admits deep)
    (bound : shallow ≤ deep) : source.Admits shallow := by
  cases source with
  | text room => exact Nat.lt_of_le_of_lt bound admits
  | settled => trivial

/-- What a source admits can be entered, and inside everything less deep is admitted. -/
theorem Admits.enter {source : Source} {depth : Nat} (admits : source.Admits (depth + 1)) :
    ∃ inside, source.enter = .ok inside ∧ inside.Admits depth := by
  cases source with
  | text room =>
    simp only [Admits] at admits
    refine ⟨.text (room - 1), if_neg (by omega), ?_⟩
    simp only [Admits]
    omega
  | settled => exact ⟨.settled, rfl, trivial⟩

/-- An array that a source admits can be entered, and its items are admitted inside. -/
theorem Admits.enterArray {source : Source} {items : List Json}
    (admits : source.Admits (Json.array items).depth) :
    ∃ inside, source.enter = .ok inside ∧ ∀ item ∈ items, inside.Admits item.depth := by
  obtain ⟨inside, entered, room⟩ := admits.enter
  exact ⟨inside, entered, fun item member =>
    room.mono (Nat.lt_succ_iff.mp (depth_lt_of_mem_items member))⟩

/-- An object that a source admits can be entered, and its values are admitted inside. -/
theorem Admits.enterObject {source : Source} {members : List (String × Json)}
    (admits : source.Admits (Json.object members).depth) :
    ∃ inside, source.enter = .ok inside ∧ ∀ member ∈ members, inside.Admits member.2.depth := by
  obtain ⟨inside, entered, room⟩ := admits.enter
  exact ⟨inside, entered, fun member present =>
    room.mono (Nat.lt_succ_iff.mp (depth_lt_of_mem_members present))⟩

end Source

/-- Items that are passed over one by one are passed over together. -/
theorem Tree.skipItems_eq_ok {items : List Tree} (skipped : ∀ item ∈ items, item.skip = .ok ()) :
    skip.skipItems items = .ok () := by
  induction items with
  | nil => rfl
  | cons item later inductionHypothesis =>
    obtain ⟨first, others⟩ := List.forall_mem_cons.mp skipped
    rw [skip.skipItems, first]
    exact inductionHypothesis others

/-- Members whose names and values are passed over one by one are passed over together. -/
theorem Tree.skipMembers_eq_ok {members : List (Lexeme String × Tree)}
    (skipped : ∀ member ∈ members, member.1.skip = .ok () ∧ member.2.skip = .ok ()) :
    skip.skipMembers members = .ok () := by
  induction members with
  | nil => rfl
  | cons member later inductionHypothesis =>
    obtain ⟨⟨name, value⟩, others⟩ := List.forall_mem_cons.mp skipped
    rw [skip.skipMembers, name, value]
    exact inductionHypothesis others

/-- The tree of a value is passed over. -/
@[simp]
theorem skip_asTree (value : Json) : value.asTree.skip = .ok () := by
  induction value using inductionOn with
  | null => rfl
  | bool flag => rfl
  | number value => rfl
  | string text => rfl
  | array items skipped =>
    rw [asTree_array, Tree.skip, Tree.skipItems_eq_ok (List.forall_mem_map.mpr skipped)]
    rfl
  | object members skipped =>
    have together : Tree.skip.skipMembers (members.map memberTree) = .ok () :=
      Tree.skipMembers_eq_ok
        (List.forall_mem_map.mpr fun member present => ⟨rfl, skipped member present⟩)
    rw [asTree_object, Tree.skip, together]
    rfl

/-- A reader that undoes a writer reads back all that was written. -/
theorem mapM_of_reads {α β ε : Type} {read : β → Except ε α} {write : α → β} {values : List α}
    (reads : ∀ value ∈ values, read (write value) = .ok value) :
    (values.map write).mapM read = .ok values := by
  induction values with
  | nil => rfl
  | cons value later inductionHypothesis =>
    obtain ⟨first, others⟩ := List.forall_mem_cons.mp reads
    rw [List.map_cons, List.mapM_cons, first, inductionHypothesis others]
    rfl

namespace Codec

/-- A codec keeps a value if it reads what it wrote for it as the value. -/
structure Keeps {α : Type} (codec : Codec α) (value : α) : Prop where
  exact : (codec.write value).Exact
  read : ∀ source : Source, source.Admits (codec.write value).depth →
    codec.read source (codec.write value).asTree = .ok value

/-- A codec restores a value if it reads both texts that are written for it as the
value. -/
def Restores {α : Type} (codec : Codec α) (value : α) : Prop :=
  codec.readText (codec.writeText value) = .ok value ∧
    codec.readText (codec.write value).toSpreadString = .ok value

/-- A value that is kept is restored if it is nested no deeper than a whole text may be. -/
theorem Keeps.restores {α : Type} {codec : Codec α} {value : α} (keeps : codec.Keeps value)
    (shallow : (codec.write value).depth ≤ 127) : codec.Restores value := by
  have read := keeps.read .whole (Nat.lt_succ_of_le shallow)
  constructor
  · exact (readWhole_of_spells codec.read (spells_compact keeps.exact)).trans read
  · exact (readWhole_of_spells codec.read (spells_spread keeps.exact 0)).trans read

theorem Keeps.string (text : String) : Codec.string.Keeps text :=
  ⟨.string text, fun _ _ => rfl⟩

theorem Keeps.boolean (flag : Bool) : Codec.boolean.Keeps flag :=
  ⟨.bool flag, fun _ _ => rfl⟩

/-- A codec of integers keeps an exact value that its width takes back. -/
theorem Keeps.integer {α : Type} {width : Width α} {value : α}
    (exact : (Json.integer (width.toInt value)).Exact)
    (takesBack : width.ofInt? (width.toInt value) = some value) :
    (Codec.integer width).Keeps value where
  exact := exact
  read source admits := by
    simp only [Codec.integer, Json.integer, asTree, Tree.found, Lexeme.read, Except.map,
      Bare.found, liftFault, bind, Except.bind, takesBack]
    rfl

theorem Keeps.int32 (value : Int32) : Codec.int32.Keeps value := by
  have lower := Int32.le_toInt value
  have upper := Int32.toInt_lt value
  refine .integer (.of_bounds (by dsimp only; omega) (by dsimp only; omega)) ?_
  dsimp only
  rw [if_pos ⟨Int32.minValue_le_toInt value, Int32.toInt_le value⟩, Int32.ofInt_toInt]

theorem Keeps.int64 (value : Int64) : Codec.int64.Keeps value := by
  have lower := Int64.le_toInt value
  have upper := Int64.toInt_lt value
  refine .integer (.of_bounds (by dsimp only; omega) (by dsimp only; omega)) ?_
  dsimp only
  rw [if_pos ⟨Int64.minValue_le_toInt value, Int64.toInt_le value⟩, Int64.ofInt_toInt]

theorem Keeps.size (value : UInt64) : Codec.size.Keeps value := by
  have upper := value.toNat_lt
  have inRange : (0 : Int) ≤ value.toNat ∧ (value.toNat : Int) < UInt64.size :=
    ⟨Int.natCast_nonneg _, Int.ofNat_lt.mpr upper⟩
  refine .integer (.of_bounds (by dsimp only; omega) (by dsimp only; omega)) ?_
  dsimp only
  rw [if_pos inRange, Int.toNat_natCast, UInt64.ofNat_toNat]

/-- The tree of `null` belongs to no other value. -/
theorem asTree_eq_null {value : Json} (equal : value.asTree = .bare (.value .null)) :
    value = .null := by
  cases value <;> simp_all [asTree]

/-- A value that may be absent is kept if it is absent, or kept and not written as
`null`. -/
theorem Keeps.optional {α : Type} {codec : Codec α} {value : Option α}
    (keeps : ∀ held ∈ value, codec.Keeps held ∧ codec.write held ≠ .null) :
    codec.optional.Keeps value := by
  cases value with
  | none => exact ⟨.null, fun _ _ => rfl⟩
  | some held =>
    obtain ⟨kept, present⟩ := keeps held rfl
    refine ⟨kept.exact, fun source admits => ?_⟩
    simp only [Codec.optional]
    split
    · rename_i null
      exact absurd (asTree_eq_null null) present
    · rw [kept.read source admits]
      rfl

/-- A list of values that are kept is kept. -/
theorem Keeps.list {α : Type} {codec : Codec α} {values : List α}
    (keeps : ∀ value ∈ values, codec.Keeps value) : codec.list.Keeps values where
  exact := .array _ (by
    intro item member
    obtain ⟨value, present, rfl⟩ := List.mem_map.mp member
    exact (keeps value present).exact)
  read source admits := by
    obtain ⟨inside, entered, room⟩ := Source.Admits.enterArray admits
    have items : ((values.map codec.write).map asTree).mapM (codec.read inside) = .ok values := by
      rw [List.map_map]
      refine mapM_of_reads fun value member => ?_
      exact (keeps value member).read inside (room _ (List.mem_map_of_mem member))
    simp only [Codec.list, asTree_array, entered, items, bind, Except.bind]
    rfl

/-- A table of values that are kept is kept, in whatever order its entries are written. -/
theorem Keeps.tableArranged {α : Type} {codec : Codec α} {values : Table α}
    {arrange : List (String × α) → List (String × α)}
    (permutes : (arrange values.entries).Perm values.entries)
    (keeps : ∀ entry ∈ values.entries, codec.Keeps entry.2) :
    (codec.tableArranged arrange).Keeps values where
  exact := .object _ (by
    intro written member
    obtain ⟨entry, present, rfl⟩ := List.mem_map.mp member
    exact (keeps entry (permutes.mem_iff.mp present)).exact)
  read source admits := by
    obtain ⟨inside, entered, room⟩ := Source.Admits.enterObject admits
    have members : readMembers (codec.read inside) (((arrange values.entries).map fun entry =>
        (entry.1, codec.write entry.2)).map memberTree) = .ok (arrange values.entries) := by
      rw [readMembers, List.map_map]
      refine mapM_of_reads fun entry member => ?_
      have value := (keeps entry (permutes.mem_iff.mp member)).read inside
        (room _ (List.mem_map_of_mem member))
      simp only [Function.comp_apply, memberTree, Lexeme.read, liftFault, value, bind, Except.bind]
      rfl
    simp only [Codec.tableArranged, Codec.table, asTree_object, entered, members, bind,
      Except.bind, Table.ofList_of_perm permutes]
    rfl

/-- A table of values that are kept is kept. -/
theorem Keeps.table {α : Type} {codec : Codec α} {values : Table α}
    (keeps : ∀ entry ∈ values.entries, codec.Keeps entry.2) : codec.table.Keeps values :=
  @Keeps.tableArranged α codec values id (.refl _) keeps

end Codec

/-! ## Free values -/

/-- A value that a reader of free values takes for itself: every object in it is made of a
table, and its first member is none that announces the text of a value. -/
inductive Plain : Json → Prop
  | null : Plain .null
  | bool (flag : Bool) : Plain (.bool flag)
  | number (value : Number) : Plain (.number value)
  | string (text : String) : Plain (.string text)
  | array (items : List Json) (inside : ∀ item ∈ items, Plain item) : Plain (.array items)
  | object (members : Table Json)
      (unannounced : ∀ first ∈ members.entries.head?, first.1 ≠ Free.textName)
      (inside : ∀ member ∈ members.entries, Plain member.2) : Plain (.ofTable members)

namespace Free

variable {ofText : String → Except ReadFault Json} {source : Source}

/-- Items are read like those of a list. -/
theorem readItems_eq_mapM (items : List Tree) :
    readWith.readItems ofText source items = items.mapM (readWith ofText source) := by
  induction items with
  | nil => rfl
  | cons item later inductionHypothesis =>
    rw [readWith.readItems, List.mapM_cons, inductionHypothesis]

/-- Members are read like those of a table. -/
theorem readEntries_eq_readMembers (members : List (Lexeme String × Tree)) :
    readWith.readEntries ofText source members =
      Codec.readMembers (readWith ofText source) members := by
  induction members with
  | nil => rfl
  | cons member later inductionHypothesis =>
    obtain ⟨written, part⟩ := member
    rw [readWith.readEntries, Codec.readMembers, List.mapM_cons, inductionHypothesis]
    dsimp only
    cases liftFault written.read with
    | error fault => rfl
    | ok name => cases readWith ofText source part <;> rfl

/-- Items that are read as themselves are read one after the other. -/
theorem readItems_asTree {items : List Json}
    (reads : ∀ item ∈ items, readWith ofText source item.asTree = .ok item) :
    readWith.readItems ofText source (items.map asTree) = .ok items :=
  (readItems_eq_mapM _).trans (mapM_of_reads reads)

/-- Members whose values are read as themselves are read one after the other. -/
theorem readEntries_memberTree {members : List (String × Json)}
    (reads : ∀ member ∈ members, readWith ofText source member.2.asTree = .ok member.2) :
    readWith.readEntries ofText source (members.map memberTree) = .ok members := by
  rw [readEntries_eq_readMembers, Codec.readMembers]
  refine mapM_of_reads fun member present => ?_
  simp only [memberTree, Lexeme.read, liftFault, reads member present, bind, Except.bind]
  rfl

/-- A plain value is read as itself, whatever texts of values are read as. -/
theorem readWith_asTree {value : Json} (plain : value.Plain) {source : Source}
    (admits : source.Admits value.depth) :
    readWith ofText source value.asTree = .ok value := by
  induction plain generalizing source with
  | null => rfl
  | bool flag => rfl
  | number value => rfl
  | string text => rfl
  | array items _ reads =>
    obtain ⟨inside, entered, room⟩ := admits.enterArray
    have values := readItems_asTree fun item member => reads item member (room item member)
    rw [asTree_array, readWith, entered]
    simp only [values, bind, Except.bind]
    rfl
  | object table unannounced _ reads =>
    obtain ⟨inside, entered, room⟩ := admits.enterObject
    obtain ⟨members, ascending⟩ := table
    rw [ofTable, asTree_object]
    cases members with
    | nil =>
      rw [List.map_nil, readWith, entered]
      rfl
    | cons member later =>
      obtain ⟨first, others⟩ := List.forall_mem_cons.mp reads
      obtain ⟨firstRoom, otherRoom⟩ := List.forall_mem_cons.mp room
      have value := first firstRoom
      have entries := readEntries_memberTree fun other present =>
        others other present (otherRoom other present)
      have ordinary : member.1 ≠ textName := unannounced member rfl
      have whole := Table.ofList_entries ⟨member :: later, ascending⟩
      rw [List.map_cons, memberTree, readWith, entered]
      simp only [Lexeme.read, liftFault, ordinary, value, entries, bind, Except.bind, if_false]
      exact congrArg Except.ok (congrArg ofTable whole)

/-- Items that are set aside one by one are set aside together. -/
theorem setAsideItems_asTree {source : Source} {items : List Json}
    (aside : ∀ item ∈ items, setAside source item.asTree = .ok ()) :
    setAside.setAsideItems source (items.map asTree) = .ok () := by
  induction items with
  | nil => rfl
  | cons item later inductionHypothesis =>
    obtain ⟨first, others⟩ := List.forall_mem_cons.mp aside
    rw [List.map_cons, setAside.setAsideItems, first]
    exact inductionHypothesis others

/-- Members whose values are set aside one by one are set aside together. -/
theorem setAsideMembers_memberTree {source : Source} {members : List (String × Json)}
    (aside : ∀ member ∈ members, setAside source member.2.asTree = .ok ()) :
    setAside.setAsideMembers source (members.map memberTree) = .ok () := by
  induction members with
  | nil => rfl
  | cons member later inductionHypothesis =>
    obtain ⟨first, others⟩ := List.forall_mem_cons.mp aside
    rw [List.map_cons, memberTree, setAside.setAsideMembers, first]
    exact inductionHypothesis others

/-- A value is set aside without a fault. -/
theorem setAside_asTree (value : Json) {source : Source} (admits : source.Admits value.depth) :
    setAside source value.asTree = .ok () := by
  induction value using inductionOn generalizing source with
  | null => rfl
  | bool flag => rfl
  | number value => rfl
  | string text => rfl
  | array items aside =>
    obtain ⟨inside, entered, room⟩ := admits.enterArray
    have done := setAsideItems_asTree fun item member => aside item member (room item member)
    rw [asTree_array, setAside, entered]
    simp only [done, bind, Except.bind]
    rfl
  | object members aside =>
    obtain ⟨inside, entered, room⟩ := admits.enterObject
    have done := setAsideMembers_memberTree fun member present =>
      aside member present (room member present)
    rw [asTree_object, setAside, entered]
    simp only [done, bind, Except.bind]
    rfl

end Free

/-- A free value is kept if it is plain and its numbers are exact. -/
theorem Codec.Keeps.free {value : Json} (exact : value.Exact) (plain : value.Plain) :
    Codec.free.Keeps value :=
  ⟨exact, fun _ admits => Free.readWith_asTree plain admits⟩

end CardLimits.Json
