import CardLimits.Json.Record
import CardLimits.Proofs.CodecLaws
/-!
# What records keep

A record keeps a value whose fields are kept (`Record.codec_keeps`), if no two of its
fields have one name.  A field that is left out is kept if its absence stands for its
value.  The members that a record writes are taken in by its reader in the same order,
and further members make no difference (`Record.read_members`).
-/

namespace CardLimits.Json

namespace Field

variable {α : Type}

/-- A field keeps a value if it reads what it wrote for it as the value, or is left out
and has the value when it is absent. -/
structure Keeps (field : Field α) (value : α) : Prop where
  exact : ∀ written ∈ field.write value, written.Exact
  read : ∀ written ∈ field.write value, ∀ source : Source, source.Admits written.depth →
    field.read source written.asTree = .ok value
  absent : field.write value = none → field.absent = some value

/-- A field that is written keeps its value if what was written is exact and read back. -/
theorem Keeps.of_written {field : Field α} {value : α} {written : Json}
    (writes : field.write value = some written) (exact : written.Exact)
    (reads : ∀ source : Source, source.Admits written.depth →
      field.read source written.asTree = .ok value) : field.Keeps value where
  exact other otherWritten := by
    rw [writes] at otherWritten
    cases otherWritten
    exact exact
  read other otherWritten := by
    rw [writes] at otherWritten
    cases otherWritten
    exact reads
  absent leftOut := by
    rw [writes] at leftOut
    cases leftOut

theorem Keeps.required {codec : Codec α} {value : α} {name : String}
    (keeps : codec.Keeps value) : (Field.required name codec).Keeps value :=
  .of_written rfl keeps.exact keeps.read

theorem Keeps.withDefault {codec : Codec α} {value default : α} {name : String}
    (keeps : codec.Keeps value) : (Field.withDefault name codec default).Keeps value :=
  .of_written rfl keeps.exact keeps.read

/-- A field that may be left out keeps nothing, and every value that is kept and not
written as `null`. -/
theorem Keeps.leftOut {codec : Codec α} {value : Option α} {name : String}
    (keeps : ∀ held ∈ value, codec.Keeps held ∧ codec.write held ≠ .null) :
    (Field.leftOut name codec).Keeps value := by
  cases value with
  | none =>
    exact {
      exact := fun _ => nofun
      read := fun _ => nofun
      absent := fun _ => rfl }
  | some held =>
    have optional := Codec.Keeps.optional keeps
    exact .of_written rfl optional.exact optional.read

end Field

namespace Fields

/-- The names of fields. -/
def names : {slots values : Type} → Fields slots values → List String
  | _, _, done => []
  | _, _, field first rest => first.name :: rest.names

/-- Every field keeps its value. -/
def Keep : {slots values : Type} → Fields slots values → values → Prop
  | _, _, done, () => True
  | _, _, field first rest, (value, others) => first.Keeps value ∧ rest.Keep others

/-- What a reader holds when it has taken in all members that were written. -/
def filled : {slots values : Type} → Fields slots values → values → slots
  | _, _, done, () => ()
  | _, _, field first rest, (value, others) =>
    ((first.write value).map fun _ => value, rest.filled others)

variable {slots values : Type} (fields : Fields slots values) {held : values}

/-- Every member that is written stands under the name of a field. -/
theorem mem_names {member : String × Json} (written : member ∈ fields.members held) :
    member.1 ∈ fields.names := by
  induction fields with
  | done => cases written
  | field first rest inductionHypothesis =>
    obtain ⟨value, others⟩ := held
    rw [members] at written
    rw [names]
    split at written
    · rcases List.mem_cons.mp written with rfl | later
      · exact List.mem_cons_self ..
      · exact List.mem_cons_of_mem _ (inductionHypothesis later)
    · exact List.mem_cons_of_mem _ (inductionHypothesis written)

/-- The members of fields that keep their values have exact numbers. -/
theorem exact_of_mem (keep : fields.Keep held) :
    ∀ member ∈ fields.members held, member.2.Exact := by
  induction fields with
  | done => exact List.forall_mem_nil _
  | field first rest inductionHypothesis =>
    obtain ⟨value, others⟩ := held
    rw [members]
    split
    · rename_i written found
      exact List.forall_mem_cons.mpr ⟨keep.1.exact written found, inductionHypothesis keep.2⟩
    · exact inductionHypothesis keep.2

/-- A member whose name is no field's is passed over. -/
theorem accept_unknown {name : String} (unknown : name ∉ fields.names) (source : Source)
    (value : Json) (known : slots) :
    fields.accept source name value.asTree known = .ok known := by
  induction fields with
  | done => exact congrArg liftFault (skip_asTree value)
  | field first rest inductionHypothesis =>
    obtain ⟨slot, others⟩ := known
    have different : first.name ≠ name := (List.ne_of_not_mem_cons unknown).symm
    have later := inductionHypothesis (List.not_mem_of_not_mem_cons unknown) others
    simp only [accept, different, later, if_false]
    rfl

/-- The members are taken in one after the other. -/
theorem acceptAll_cons (source : Source) (known : slots) (member : String × Json)
    (later : List (Lexeme String × Tree)) :
    fields.acceptAll source known (memberTree member :: later) =
      (fields.accept source member.1 member.2.asTree known).bind fun known =>
        fields.acceptAll source known later := by
  rw [acceptAll, List.foldlM_cons]
  rfl

/-- Members that are none of the first field's are taken in by the other fields. -/
theorem acceptAll_rest {α : Type} {first : Field α} {rest : Fields slots values}
    {members : List (String × Json)} (apart : ∀ member ∈ members, first.name ≠ member.1)
    (source : Source) (slot : Option α) (others : slots) :
    (field first rest).acceptAll source (slot, others) (members.map memberTree) =
      (rest.acceptAll source others (members.map memberTree)).map fun known => (slot, known) := by
  induction members generalizing others with
  | nil => rfl
  | cons member later inductionHypothesis =>
    obtain ⟨different, laterApart⟩ := List.forall_mem_cons.mp apart
    rw [List.map_cons, acceptAll_cons, acceptAll_cons]
    simp only [accept, different, if_false]
    cases rest.accept source member.1 member.2.asTree others with
    | error fault => rfl
    | ok known => exact inductionHypothesis laterApart known

/-- The members that fields write are taken in by them. -/
theorem acceptAll_members (keep : fields.Keep held) (distinct : fields.names.Nodup)
    {source : Source} (admits : ∀ member ∈ fields.members held, source.Admits member.2.depth) :
    fields.acceptAll source fields.blank ((fields.members held).map memberTree) =
      .ok (fields.filled held) := by
  induction fields with
  | done => rfl
  | field first rest inductionHypothesis =>
    obtain ⟨value, others⟩ := held
    obtain ⟨alone, laterDistinct⟩ := List.nodup_cons.mp distinct
    have apart : ∀ member ∈ rest.members others, first.name ≠ member.1 := by
      intro member written equal
      exact alone (equal ▸ rest.mem_names written)
    rw [members] at admits ⊢
    rw [filled, blank]
    split at admits
    · rename_i written found
      obtain ⟨room, laterRoom⟩ := List.forall_mem_cons.mp admits
      have taken := inductionHypothesis keep.2 laterDistinct laterRoom
      have read := keep.1.read written found source room
      rw [List.map_cons, acceptAll_cons]
      simp only [accept, read, if_true]
      exact (acceptAll_rest apart source (some value) rest.blank).trans (by rw [taken, found]; rfl)
    · rename_i leftOut
      have taken := inductionHypothesis keep.2 laterDistinct admits
      rw [leftOut, acceptAll_rest apart source none rest.blank, taken]
      rfl

/-- Members whose names are no fields' make no difference. -/
theorem acceptAll_unknown {members : List (String × Json)}
    (unknown : ∀ member ∈ members, member.1 ∉ fields.names) (source : Source) (known : slots) :
    fields.acceptAll source known (members.map memberTree) = .ok known := by
  induction members with
  | nil => rfl
  | cons member later inductionHypothesis =>
    obtain ⟨first, others⟩ := List.forall_mem_cons.mp unknown
    rw [List.map_cons, acceptAll_cons, fields.accept_unknown first]
    exact inductionHypothesis others

/-- When all written members are taken in, the values are known. -/
theorem finish_filled (keep : fields.Keep held) :
    fields.finish (fields.filled held) = .ok held := by
  induction fields with
  | done => rfl
  | field first rest inductionHypothesis =>
    obtain ⟨value, others⟩ := held
    have known : ((first.write value).map fun _ => value).or first.absent = some value := by
      cases written : first.write value with
      | none => exact keep.1.absent written
      | some content => rfl
    simp only [filled, finish, known, inductionHypothesis keep.2]
    rfl

/-- The members that fields write are read as the values, also in front of members that
are none of the fields'. -/
theorem ofMembers_members (keep : fields.Keep held) (distinct : fields.names.Nodup)
    {others : List (String × Json)} (unknown : ∀ member ∈ others, member.1 ∉ fields.names)
    {source : Source} (admits : ∀ member ∈ fields.members held, source.Admits member.2.depth) :
    fields.ofMembers source ((fields.members held ++ others).map memberTree) .closed =
      .ok held := by
  have taken : fields.acceptAll source fields.blank
      ((fields.members held ++ others).map memberTree) = .ok (fields.filled held) := by
    rw [List.map_append, acceptAll, List.foldlM_append, ← acceptAll,
      fields.acceptAll_members keep distinct admits]
    exact fields.acceptAll_unknown unknown source _
  rw [ofMembers, taken]
  exact fields.finish_filled keep

end Fields

namespace Record

variable {α : Type} (record : Record α) {value : α}

/-- The object that a record writes is read as its value, also with further members that
are none of the record's, if no two fields have one name and each keeps its value. -/
theorem read_members (keep : record.fields.Keep (record.toValues value))
    (distinct : record.fields.names.Nodup)
    (whole : record.ofValues (record.toValues value) = value) {others : List (String × Json)}
    (unknown : ∀ member ∈ others, member.1 ∉ record.fields.names) {source : Source}
    (admits : source.Admits
      (Json.object (record.fields.members (record.toValues value) ++ others)).depth) :
    record.read source
        (Json.object (record.fields.members (record.toValues value) ++ others)).asTree =
      .ok value := by
  obtain ⟨inside, entered, room⟩ := admits.enterObject
  have values := record.fields.ofMembers_members keep distinct unknown
    fun member written => room member (List.mem_append_left _ written)
  simp only [read, asTree_object, entered, values, bind, Except.bind, pure, Except.pure, whole]

/-- A record keeps a value whose fields are kept, if it makes the value of its fields
again and no two fields have one name. -/
theorem codec_keeps (keep : record.fields.Keep (record.toValues value))
    (distinct : record.fields.names.Nodup)
    (whole : record.ofValues (record.toValues value) = value) : record.codec.Keeps value where
  exact := .object _ (record.fields.exact_of_mem keep)
  read source admits := by
    have written := @read_members _ record _ keep distinct whole [] (List.forall_mem_nil _) source
    rw [List.append_nil] at written
    exact written admits

end Record

end CardLimits.Json
