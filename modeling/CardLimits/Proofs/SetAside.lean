import CardLimits.Proofs.RecordParts
/-!
# Reading what was set aside

A tree that was set aside without a fault can be read in two ways: as part of its text, or
afterwards as a value that was read whole.  Reading it afterwards is the more lenient way.  A
reader agrees with itself but for some trees (`AgreesBut`) if whatever it accepts afterwards it
accepts as part of the text, with the same value, and only those trees are refused there, all
with one failure.  Most readers agree on every tree (`never`), and what is made of readers that
agree does so as well.
-/

namespace CardLimits.Json

/-- What holds of the trees without parts, and of an array or object when it holds of all that
stands in it, holds of every tree. -/
@[elab_as_elim]
theorem Tree.inductionOn {motive : Tree → Prop} (tree : Tree)
    (quoted : ∀ text, motive (.quoted text))
    (bare : ∀ content, motive (.bare content))
    (array : ∀ items ending, (∀ item ∈ items, motive item) → motive (.array items ending))
    (object : ∀ members ending, (∀ member ∈ members, motive member.2) →
      motive (.object members ending))
    (missing : ∀ fault, motive (.missing fault)) : motive tree := by
  refine @Tree.rec motive (fun items => ∀ item ∈ items, motive item)
    (fun members => ∀ member ∈ members, motive member.2) (fun member => motive member.2)
    quoted bare (fun items ending hold => array items ending hold)
    (fun members ending hold => object members ending hold) missing ?_ ?_ ?_ ?_ ?_ tree
  · exact List.forall_mem_nil _
  · intro first rest firstHolds restHold
    exact List.forall_mem_cons.mpr ⟨firstHolds, restHold⟩
  · exact List.forall_mem_nil _
  · intro first rest firstHolds restHold
    exact List.forall_mem_cons.mpr ⟨firstHolds, restHold⟩
  · intro name held holds
    exact holds

/-! ## What was set aside -/

/-- An ending without a fault is a closing bracket. -/
theorem Ending.eq_closed {ending : Ending} (fine : liftFault ending.check = .ok ()) :
    ending = .closed := by
  cases ending with
  | closed => rfl
  | unclosed gap => cases fine

namespace Free

/-- Items that are set aside together are set aside one by one. -/
theorem setAside_of_setAsideItems {source : Source} {items : List Tree}
    (aside : setAside.setAsideItems source items = .ok ()) :
    ∀ item ∈ items, setAside source item = .ok () := by
  induction items with
  | nil => exact List.forall_mem_nil _
  | cons item later inductionHypothesis =>
    rw [setAside.setAsideItems] at aside
    obtain ⟨⟨⟩, first, rest⟩ := exists_of_bind_eq_ok aside
    exact List.forall_mem_cons.mpr ⟨first, inductionHypothesis rest⟩

/-- The values of members that are set aside together are set aside one by one. -/
theorem setAside_of_setAsideMembers {source : Source} {members : List (Lexeme String × Tree)}
    (aside : setAside.setAsideMembers source members = .ok ()) :
    ∀ member ∈ members, setAside source member.2 = .ok () := by
  induction members with
  | nil => exact List.forall_mem_nil _
  | cons member later inductionHypothesis =>
    obtain ⟨written, value⟩ := member
    rw [setAside.setAsideMembers] at aside
    obtain ⟨name, read, others⟩ := exists_of_bind_eq_ok aside
    obtain ⟨⟨⟩, first, rest⟩ := exists_of_bind_eq_ok others
    exact List.forall_mem_cons.mpr ⟨first, inductionHypothesis rest⟩

variable {room : Nat} {ending : Ending}

/-- An array that is set aside leaves room for its items, which are set aside, and is closed. -/
theorem of_setAside_array {items : List Tree}
    (aside : setAside (.text room) (.array items ending) = .ok ()) :
    (Source.text room).enter = .ok (.text (room - 1)) ∧
      (∀ item ∈ items, setAside (.text (room - 1)) item = .ok ()) ∧ ending = .closed := by
  rw [setAside] at aside
  obtain ⟨inside, entered, behind⟩ := exists_of_bind_eq_ok aside
  obtain ⟨⟨⟩, done, ended⟩ := exists_of_bind_eq_ok behind
  cases Source.enter_text entered
  exact ⟨entered, setAside_of_setAsideItems done, Ending.eq_closed ended⟩

/-- An object that is set aside leaves room for its members, whose values are set aside, and is
closed. -/
theorem of_setAside_object {members : List (Lexeme String × Tree)}
    (aside : setAside (.text room) (.object members ending) = .ok ()) :
    (Source.text room).enter = .ok (.text (room - 1)) ∧
      (∀ member ∈ members, setAside (.text (room - 1)) member.2 = .ok ()) ∧
        ending = .closed := by
  rw [setAside] at aside
  obtain ⟨inside, entered, behind⟩ := exists_of_bind_eq_ok aside
  obtain ⟨⟨⟩, done, ended⟩ := exists_of_bind_eq_ok behind
  cases Source.enter_text entered
  exact ⟨entered, setAside_of_setAsideMembers done, Ending.eq_closed ended⟩

end Free

/-! ## Readers that agree -/

/-- Whether a reader, of every tree that was set aside and that it accepts afterwards, reads the
same value as part of the text, unless the tree is one of those that differ: these it refuses
there with a certain failure. -/
def AgreesBut (fault : ReadFault) (differs : Tree → Bool) {α : Type}
    (read : Source → Tree → Except ReadFault α) : Prop :=
  ∀ room tree value, Free.setAside (.text room) tree = .ok () → read .settled tree = .ok value →
    read (.text room) tree = if differs tree then .error fault else .ok value

/-- No tree differs. -/
def never (_ : Tree) : Bool := false

variable {fault : ReadFault} {differs : Tree → Bool} {α : Type}

/-- Which trees differ can be said in other words. -/
theorem AgreesBut.congr {others : Tree → Bool} {read : Source → Tree → Except ReadFault α}
    (agrees : AgreesBut fault differs read) (same : ∀ tree, differs tree = others tree) :
    AgreesBut fault others read := by
  intro room tree value aside settled
  rw [agrees room tree value aside settled, same]

/-- A reader that does not mind where a tree comes from agrees on every tree. -/
theorem AgreesBut.of_same {read : Source → Tree → Except ReadFault α}
    (same : ∀ room tree, read (.text room) tree = read .settled tree) :
    AgreesBut fault never read := by
  intro room tree value _ settled
  rw [same, settled]
  rfl

/-- If a value may be refused and so may what comes after it, both may. -/
theorem bind_refused {β : Type} {refused later : Bool} {value : α}
    {next : α → Except ReadFault β} {result : β}
    (rest : next value = if later then .error fault else .ok result) :
    (if refused then .error fault else .ok value) >>= next =
      if refused || later then .error fault else .ok result := by
  cases refused with
  | true => rfl
  | false => exact rest

/-- If a value may be refused and what comes after it is fine, only the value may. -/
theorem bind_refused_of_ok {β : Type} {refused : Bool} {value : α}
    {next : α → Except ReadFault β} {result : β} (rest : next value = .ok result) :
    (if refused then .error fault else .ok value) >>= next =
      if refused then .error fault else .ok result := by
  cases refused with
  | true => rfl
  | false => exact rest

/-- If the readings of the parts agree but for some, so does reading all parts. -/
theorem mapM_but {β : Type} {differs : β → Bool} {settled text : β → Except ReadFault α}
    {parts : List β} {values : List α}
    (agree : ∀ part ∈ parts, ∀ value, settled part = .ok value →
      text part = if differs part then .error fault else .ok value)
    (read : parts.mapM settled = .ok values) :
    parts.mapM text = if parts.any differs then .error fault else .ok values := by
  induction parts generalizing values with
  | nil =>
    cases read
    rfl
  | cons part later inductionHypothesis =>
    obtain ⟨agreesFirst, agreeLater⟩ := List.forall_mem_cons.mp agree
    rw [List.mapM_cons] at read ⊢
    obtain ⟨value, first, others⟩ := exists_of_bind_eq_ok read
    obtain ⟨rest, readRest, whole⟩ := exists_of_bind_eq_ok others
    cases whole
    rw [agreesFirst value first, inductionHypothesis agreeLater readRest, List.any_cons]
    exact bind_refused (bind_refused_of_ok rfl)

/-- What accepts whatever another reading accepts of each part, with the same value, accepts what
the other one accepts of all parts. -/
theorem mapM_of_agree {β ε : Type} {read other : β → Except ε α} {parts : List β}
    {values : List α}
    (agree : ∀ part ∈ parts, ∀ value, read part = .ok value → other part = .ok value)
    (accepted : parts.mapM read = .ok values) : parts.mapM other = .ok values := by
  induction parts generalizing values with
  | nil => exact accepted
  | cons part later inductionHypothesis =>
    obtain ⟨agreesFirst, agreeLater⟩ := List.forall_mem_cons.mp agree
    rw [List.mapM_cons] at accepted ⊢
    obtain ⟨value, first, others⟩ := exists_of_bind_eq_ok accepted
    obtain ⟨rest, readRest, whole⟩ := exists_of_bind_eq_ok others
    rw [agreesFirst value first, inductionHypothesis agreeLater readRest]
    exact whole

/-- Members whose values are read alike are read alike. -/
theorem Codec.readMembers_of_agree {read other : Tree → Except ReadFault α}
    {members : List (Lexeme String × Tree)} {entries : List (String × α)}
    (agree : ∀ member ∈ members, ∀ value, read member.2 = .ok value → other member.2 = .ok value)
    (accepted : readMembers read members = .ok entries) :
    readMembers other members = .ok entries := by
  refine mapM_of_agree (fun member present entry readEntry => ?_) accepted
  obtain ⟨written, tree⟩ := member
  obtain ⟨name, nameRead, rest⟩ := exists_of_bind_eq_ok readEntry
  obtain ⟨value, valueRead, whole⟩ := exists_of_bind_eq_ok rest
  cases whole
  simp only [nameRead, agree _ present value valueRead, bind, Except.bind]
  rfl

namespace AgreesBut

/-- A list is refused as part of the text if an item of it is. -/
theorem list {codec : Codec α} (agrees : AgreesBut fault differs codec.read) :
    AgreesBut fault (fun tree => tree.items.any differs) codec.list.read := by
  intro room tree values aside settled
  cases tree with
  | array items ending =>
    obtain ⟨entered, itemsAside, rfl⟩ := Free.of_setAside_array aside
    obtain ⟨inside, ⟨⟩, behind⟩ := exists_of_bind_eq_ok settled
    obtain ⟨held, read, whole⟩ := exists_of_bind_eq_ok behind
    cases whole
    have text := mapM_but (fun item member value =>
      agrees (room - 1) item value (itemsAside item member)) read
    simp only [Codec.list, entered]
    change items.mapM (codec.read (.text (room - 1))) >>= _ = _
    rw [text]
    exact bind_refused_of_ok rfl
  | quoted | bare | object | missing => exact absurd settled (Tree.mismatch_ne_ok _ _ _)

/-- A table agrees if its values do. -/
theorem table {codec : Codec α} (agrees : AgreesBut fault never codec.read) :
    AgreesBut fault never codec.table.read := by
  intro room tree values aside settled
  cases tree with
  | object members ending =>
    obtain ⟨entered, membersAside, rfl⟩ := Free.of_setAside_object aside
    obtain ⟨inside, ⟨⟩, behind⟩ := exists_of_bind_eq_ok settled
    obtain ⟨entries, read, whole⟩ := exists_of_bind_eq_ok behind
    cases whole
    have text : Codec.readMembers (codec.read (.text (room - 1))) members = .ok entries :=
      Codec.readMembers_of_agree (fun member present value =>
        agrees (room - 1) member.2 value (membersAside member present)) read
    simp only [Codec.table, entered, text, bind, Except.bind]
    rfl
  | quoted | bare | array | missing => exact absurd settled (Tree.mismatch_ne_ok _ _ _)

/-- A value that may be absent agrees if it does when it is there. -/
theorem optional {codec : Codec α} (agrees : AgreesBut fault never codec.read) :
    AgreesBut fault never codec.optional.read := by
  intro room tree value aside settled
  by_cases absent : tree = .bare (.value .null)
  · subst absent
    exact settled
  · simp only [Codec.optional] at settled ⊢
    cases read : codec.read .settled tree with
    | error fault =>
      rw [read] at settled
      cases settled
    | ok held =>
      rw [read] at settled
      rw [agrees room tree held aside read]
      exact settled

end AgreesBut

/-! ## Free values -/

namespace Free

variable {ofText : String → Except ReadFault Json} {room : Nat}

/-- The text of a value stands alone in an object that is closed behind it. -/
theorem checkAlone_text {further : List (Lexeme String × Tree)}
    (settled : checkAlone .settled further .closed = .ok ()) :
    checkAlone (.text room) further .closed = .ok () := by
  cases further with
  | nil => rfl
  | cons member later => cases settled

/-- A free value that was set aside is read as part of the text as it is read afterwards. -/
theorem readWith_text {tree : Tree} {value : Json} (aside : setAside (.text room) tree = .ok ())
    (settled : readWith ofText .settled tree = .ok value) :
    readWith ofText (.text room) tree = .ok value := by
  induction tree using Tree.inductionOn generalizing room value with
  | quoted text => exact settled
  | bare content => exact settled
  | missing fault => cases settled
  | array items ending inductionHypothesis =>
    obtain ⟨entered, itemsAside, rfl⟩ := of_setAside_array aside
    rw [readWith] at settled ⊢
    obtain ⟨inside, ⟨⟩, behind⟩ := exists_of_bind_eq_ok settled
    obtain ⟨values, read, whole⟩ := exists_of_bind_eq_ok behind
    rw [readItems_eq_mapM] at read
    have text : items.mapM (readWith ofText (.text (room - 1))) = .ok values :=
      mapM_of_agree (fun item member value =>
        inductionHypothesis item member (itemsAside item member)) read
    rw [entered]
    simp only [readItems_eq_mapM, text, bind, Except.bind]
    exact whole
  | object members ending inductionHypothesis =>
    obtain ⟨entered, membersAside, rfl⟩ := of_setAside_object aside
    cases members with
    | nil =>
      rw [readWith] at settled ⊢
      rw [entered]
      exact settled
    | cons member later =>
      obtain ⟨written, tree⟩ := member
      obtain ⟨firstAgrees, laterAgree⟩ := List.forall_mem_cons.mp inductionHypothesis
      obtain ⟨firstAside, laterAside⟩ := List.forall_mem_cons.mp membersAside
      rw [readWith] at settled ⊢
      obtain ⟨inside, ⟨⟩, behind⟩ := exists_of_bind_eq_ok settled
      obtain ⟨name, nameRead, meaning⟩ := exists_of_bind_eq_ok behind
      rw [entered]
      simp only [nameRead, bind, Except.bind]
      split at meaning
      · rename_i announced
        obtain ⟨text, readText, behindText⟩ := exists_of_bind_eq_ok meaning
        obtain ⟨held, heldRead, rest⟩ := exists_of_bind_eq_ok behindText
        obtain ⟨⟨⟩, alone, whole⟩ := exists_of_bind_eq_ok rest
        rw [if_pos announced]
        simp only [readText, heldRead, checkAlone_text alone]
        exact whole
      · rename_i ordinary
        obtain ⟨held, heldRead, rest⟩ := exists_of_bind_eq_ok meaning
        obtain ⟨entries, entriesRead, whole⟩ := exists_of_bind_eq_ok rest
        rw [readEntries_eq_readMembers] at entriesRead
        have textEntries := Codec.readMembers_of_agree (fun member present value =>
          laterAgree member present (laterAside member present)) entriesRead
        rw [if_neg ordinary]
        simp only [firstAgrees firstAside heldRead, readEntries_eq_readMembers, textEntries]
        exact whole

end Free

/-- Free values agree. -/
theorem AgreesBut.free : AgreesBut fault never Codec.free.read :=
  fun _ _ _ aside settled => Free.readWith_text aside settled

/-! ## Records -/

/-- Whether something holds of a part that a record is read from. -/
def Tree.anyPart (names : List String) (holds : String → Tree → Bool) (tree : Tree) : Bool :=
  (tree.parts names).any fun part => holds part.1 part.2

/-- A condition on the field of one name, that no other field meets. -/
def onlyField (special : String) (holds : Tree → Bool) (name : String) (tree : Tree) : Bool :=
  name = special && holds tree

/-- Any other field agrees on every tree. -/
theorem AgreesBut.otherField {read : Source → Tree → Except ReadFault α} {name special : String}
    (other : name ≠ special) (agrees : AgreesBut fault never read) :
    AgreesBut fault (onlyField special differs name) read :=
  agrees.congr fun tree => by simp [onlyField, other, never]

/-- The field itself agrees but for the trees that meet the condition. -/
theorem AgreesBut.sameField {read : Source → Tree → Except ReadFault α} {name : String}
    (agrees : AgreesBut fault differs read) :
    AgreesBut fault (onlyField name differs name) read :=
  agrees.congr fun tree => by simp [onlyField]

namespace Fields

/-- Every field agrees but for some trees. -/
def AgreeBut (fault : ReadFault) (differs : String → Tree → Bool) :
    {slots values : Type} → Fields slots values → Prop
  | _, _, done => True
  | _, _, field first rest =>
    AgreesBut fault (differs first.name) first.read ∧ rest.AgreeBut fault differs

variable {slots values : Type} {fields : Fields slots values} {differs : String → Tree → Bool}
  {room : Nat}

/-- A member is refused as part of the text if the value of a field differs. -/
theorem accept_text (agree : fields.AgreeBut fault differs) {name : String} {tree : Tree}
    (aside : name ∈ fields.names → Free.setAside (.text room) tree = .ok ()) {known after : slots}
    (settled : fields.accept .settled name tree known = .ok after) :
    fields.accept (.text room) name tree known =
      if fields.names.contains name && differs name tree then .error fault else .ok after := by
  induction fields with
  | done => exact settled
  | field first rest inductionHypothesis =>
    obtain ⟨slot, others⟩ := known
    simp only [accept] at settled ⊢
    split at settled
    · rename_i named
      subst named
      cases slot with
      | some held => cases settled
      | none =>
        obtain ⟨value, read, whole⟩ := exists_of_bind_eq_ok settled
        cases whole
        have text := agree.1 room tree value (aside (List.mem_cons_self ..)) read
        have isField : (names (field first rest)).contains first.name = true := by simp [names]
        rw [if_pos rfl, isField, Bool.true_and, text]
        exact bind_refused_of_ok rfl
    · rename_i other
      obtain ⟨later, read, whole⟩ := exists_of_bind_eq_ok settled
      cases whole
      have text := inductionHypothesis agree.2 (fun member => aside (List.mem_cons_of_mem _ member))
        read
      have sameField : (names (field first rest)).contains name = rest.names.contains name := by
        simp [names, Ne.symm other]
      rw [if_neg other, sameField, text]
      exact bind_refused_of_ok rfl

/-- The parts among members are the first one, if it is a field's, and those behind it. -/
theorem any_filterMap_cons (names : List String) (name : String) (tree : Tree)
    (later : List (Lexeme String × Tree)) (holds : String × Tree → Bool) :
    (((Lexeme.value name, tree) :: later).filterMap (partOfMember? names)).any holds =
      (names.contains name && holds (name, tree) ||
        (later.filterMap (partOfMember? names)).any holds) := by
  by_cases isField : name ∈ names <;> simp [isField]

/-- The members are refused as part of the text if the value of a field differs. -/
theorem acceptAll_text (agree : fields.AgreeBut fault differs)
    {members : List (Lexeme String × Tree)}
    (aside : ∀ member ∈ members, ∀ name ∈ fields.names, member.1 = .value name →
      Free.setAside (.text room) member.2 = .ok ()) {known after : slots}
    (settled : fields.acceptAll .settled known members = .ok after) :
    fields.acceptAll (.text room) known members =
      if (members.filterMap (partOfMember? fields.names)).any fun part => differs part.1 part.2
      then .error fault else .ok after := by
  induction members generalizing known with
  | nil => exact settled
  | cons member later inductionHypothesis =>
    obtain ⟨firstAside, laterAside⟩ := List.forall_mem_cons.mp aside
    obtain ⟨written, tree⟩ := member
    rw [acceptAll, List.foldlM_cons] at settled ⊢
    obtain ⟨reached, accepted, others⟩ := exists_of_bind_eq_ok settled
    obtain ⟨name, nameRead, taken⟩ := exists_of_bind_eq_ok accepted
    cases Lexeme.eq_value nameRead
    have text := accept_text agree (fun isField => firstAside name isField rfl) taken
    change fields.accept (.text room) name tree known >>=
      (fun known => fields.acceptAll (.text room) known later) = _
    rw [text, any_filterMap_cons]
    exact bind_refused (inductionHypothesis laterAside others)

/-- An object is refused as part of the text if the value of a field differs. -/
theorem ofMembers_text (agree : fields.AgreeBut fault differs)
    {members : List (Lexeme String × Tree)}
    (aside : ∀ member ∈ members, ∀ name ∈ fields.names, member.1 = .value name →
      Free.setAside (.text room) member.2 = .ok ()) {ending : Ending} {held : values}
    (settled : fields.ofMembers .settled members ending = .ok held) :
    fields.ofMembers (.text room) members ending =
      if Tree.anyPart fields.names differs (.object members ending) then .error fault
      else .ok held := by
  rw [ofMembers] at settled ⊢
  obtain ⟨known, taken, behind⟩ := exists_of_bind_eq_ok settled
  rw [acceptAll_text agree aside taken]
  exact bind_refused_of_ok behind

/-- An array is refused as part of the text if the item of a field differs. -/
theorem ofItems_text (agree : fields.AgreeBut fault differs)
    {wrongLength further textFurther : Nat → ReadFault} {position : Nat} {items : List Tree}
    (aside : ∀ item ∈ items, Free.setAside (.text room) item = .ok ()) {ending : Ending}
    {held : values}
    (settled : fields.ofItems .settled wrongLength further position items ending = .ok held) :
    fields.ofItems (.text room) wrongLength textFurther position items ending =
      if (fields.names.zip items).any fun field => differs field.1 field.2 then .error fault
      else .ok held := by
  induction fields generalizing position items with
  | done =>
    cases items with
    | nil => exact settled
    | cons item later => cases settled
  | field first rest inductionHypothesis =>
    cases items with
    | nil =>
      rw [ofItems] at settled ⊢
      obtain ⟨⟨⟩, ended, others⟩ := exists_of_bind_eq_ok settled
      rw [ended]
      cases absent : first.absent with
      | none =>
        rw [absent] at others
        cases others
      | some value =>
        rw [absent] at others
        obtain ⟨later, read, whole⟩ := exists_of_bind_eq_ok others
        cases whole
        rw [names, List.zip_nil_right]
        change rest.ofItems (.text room) wrongLength textFurther (position + 1) [] ending >>= _ = _
        rw [inductionHypothesis agree.2 aside read, List.zip_nil_right]
        rfl
    | cons item later =>
      obtain ⟨firstAside, laterAside⟩ := List.forall_mem_cons.mp aside
      rw [ofItems] at settled ⊢
      obtain ⟨value, first, others⟩ := exists_of_bind_eq_ok settled
      obtain ⟨rest, restRead, whole⟩ := exists_of_bind_eq_ok others
      cases whole
      rw [agree.1 room item value firstAside first]
      exact bind_refused
        ((congrArg (· >>= _) (inductionHypothesis agree.2 laterAside restRead)).trans
          (bind_refused_of_ok rfl))

end Fields

/-- A record is refused as part of the text if the value of a field differs. -/
theorem AgreesBut.record {record : Record α} {differs : String → Tree → Bool}
    (agree : record.fields.AgreeBut fault differs) :
    AgreesBut fault (Tree.anyPart record.fields.names differs) record.read := by
  intro room tree value aside settled
  cases tree with
  | object members ending =>
    obtain ⟨entered, membersAside, rfl⟩ := Free.of_setAside_object aside
    obtain ⟨inside, ⟨⟩, behind⟩ := exists_of_bind_eq_ok settled
    obtain ⟨held, read, whole⟩ := exists_of_bind_eq_ok behind
    cases whole
    have text := Fields.ofMembers_text agree
      (fun member present _ _ _ => membersAside member present) read
    rw [Record.read, entered]
    change record.fields.ofMembers (.text (room - 1)) members .closed >>= _ = _
    rw [text]
    exact bind_refused_of_ok rfl
  | array items ending =>
    obtain ⟨entered, itemsAside, rfl⟩ := Free.of_setAside_array aside
    obtain ⟨inside, ⟨⟩, behind⟩ := exists_of_bind_eq_ok settled
    obtain ⟨held, read, whole⟩ := exists_of_bind_eq_ok behind
    cases whole
    rw [Record.read, entered]
    change record.fields.ofItems (.text (room - 1)) record.tooFew (record.tooMany (.text room)) 0
      items .closed >>= _ = _
    rw [Fields.ofItems_text agree itemsAside read]
    exact bind_refused_of_ok rfl
  | quoted | bare | missing => exact absurd settled (Tree.mismatch_ne_ok _ _ _)

/-- A record agrees on every tree if its fields do. -/
theorem AgreesBut.record_never {record : Record α}
    (agree : record.fields.AgreeBut fault fun _ => never) : AgreesBut fault never record.read := by
  refine (AgreesBut.record agree).congr fun tree => ?_
  exact List.any_eq_false.mpr fun _ _ => Bool.false_ne_true

end CardLimits.Json
