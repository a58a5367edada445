import CardLimits.Proofs.Literals
import CardLimits.Proofs.PageOffsets
/-!
# Roles are whole words

A separator divides a text into two that are cut for themselves (`split_append_separator`).  So a
stretch of a text is a piece without separators that reaches from one of them, or the start of the
text, to the next one, or its end (`mem_split_iff`), and a word is a stretch between blanks that is
not empty (`mem_words_iff`).  A role is one of the roles of a user exactly if it stands among them
as a whole word.  Therefore a host that is asked for a role with a blank in it answers with nobody
on every page, and it never answers with a user whose roles hold the role only within longer words
(`roles_match_as_whole_words`).
-/

namespace CardLimits

open Text

namespace Text

variable {separates : Char → Bool} {piece text : List Char}

/-! ## Stretches -/

/-- Whether a piece holds no separator and stands in a text between separators or the ends of the
text. -/
structure StandsAlone (separates : Char → Bool) (piece text : List Char) : Prop where
  solid : ∀ character ∈ piece, separates character = false
  placed : ∃ before after, text = before ++ (piece ++ after) ∧
    (∀ last ∈ before.getLast?, separates last = true) ∧
    ∀ first ∈ after.head?, separates first = true

/-- A text without separators stands alone. -/
theorem StandsAlone.itself (solid : ∀ character ∈ piece, separates character = false) :
    StandsAlone separates piece piece :=
  ⟨solid, [], [], (List.append_nil piece).symm, nofun, nofun⟩

/-- A text without separators stands alone in front of any separator. -/
theorem StandsAlone.inFront {separator : Char} (separates_separator : separates separator = true)
    (solid : ∀ character ∈ piece, separates character = false) (after : List Char) :
    StandsAlone separates piece (piece ++ separator :: after) := by
  refine ⟨solid, [], separator :: after, rfl, nofun, ?_⟩
  rintro first ⟨⟩
  exact separates_separator

/-- What stands alone in a text does so behind any separator. -/
theorem StandsAlone.behind {separator : Char} (separates_separator : separates separator = true)
    (alone : StandsAlone separates piece text) (front : List Char) :
    StandsAlone separates piece (front ++ separator :: text) := by
  obtain ⟨solid, before, after, rfl, border, borderBehind⟩ := alone
  refine ⟨solid, front ++ separator :: before, after, ?_, fun last ends => ?_, borderBehind⟩
  · rw [List.append_assoc, List.cons_append]
  · rw [List.getLast?_append_cons] at ends
    rcases List.eq_nil_or_concat' before with rfl | ⟨inner, ending, rfl⟩
    · obtain rfl : separator = last := Option.some.inj ends
      exact separates_separator
    · rw [← List.cons_append, List.getLast?_concat] at ends
      exact border last (List.getLast?_concat.trans ends)

/-- Each stretch stands alone.  By induction on what is still to be cut; in front of it stands the
stretch that has been begun. -/
theorem standsAlone_of_mem_split_append {begun : List Char}
    (solid : ∀ character ∈ begun, separates character = false)
    (member : piece ∈ split separates (begun ++ text)) :
    StandsAlone separates piece (begun ++ text) := by
  induction text generalizing begun with
  | nil =>
    rw [List.append_nil] at member ⊢
    rw [split_of_solid solid, List.mem_singleton] at member
    rw [member]
    exact .itself solid
  | cons character rest inductionHypothesis =>
    by_cases separator : separates character = true
    · rw [split_append_separator separator, split_of_solid solid, List.singleton_append,
        List.mem_cons] at member
      rcases member with rfl | member
      · exact .inFront separator solid rest
      · have alone : StandsAlone separates piece ([] ++ rest) :=
          inductionHypothesis (List.forall_mem_nil _) member
        exact alone.behind separator begun
    · have stillSolid : ∀ other ∈ begun ++ [character], separates other = false :=
        List.forall_mem_append.mpr
          ⟨solid, List.forall_mem_singleton.mpr (Bool.eq_false_of_not_eq_true separator)⟩
      rw [List.append_cons] at member ⊢
      exact inductionHypothesis stillSolid member

/-- The stretches of a text are the pieces that stand alone in it. -/
theorem mem_split_iff : piece ∈ split separates text ↔ StandsAlone separates piece text := by
  refine ⟨standsAlone_of_mem_split_append (List.forall_mem_nil _), ?_⟩
  rintro ⟨solid, before, after, rfl, border, borderBehind⟩
  have firstStretch : piece ∈ split separates (piece ++ after) := by
    cases after with
    | nil => rw [List.append_nil, split_of_solid solid, List.mem_singleton]
    | cons separator rest =>
      rw [split_append_separator (borderBehind separator rfl), split_of_solid solid]
      exact List.mem_cons_self ..
  rcases List.eq_nil_or_concat' before with rfl | ⟨front, separator, rfl⟩
  · exact firstStretch
  · rw [List.append_assoc, List.singleton_append,
      split_append_separator (border separator List.getLast?_concat)]
    exact List.mem_append_right _ firstStretch

/-- Words are the pieces without blanks that stand between blanks and are not empty. -/
theorem mem_words_iff {word : List Char} :
    word ∈ words text ↔ word ≠ [] ∧ StandsAlone isBlank word text := by
  rw [words, List.mem_filter, stretches, mem_split_iff, and_comm, Bool.not_eq_true',
    List.isEmpty_eq_false_iff]

/-- For texts as strings, what stands in front of a piece and behind it are strings as well. -/
theorem standsAlone_toList_iff {piece text : String} :
    StandsAlone separates piece.toList text.toList ↔
      (∀ character ∈ piece.toList, separates character = false) ∧ ∃ before after : String,
        text = before ++ piece ++ after ∧
        (∀ last ∈ before.toList.getLast?, separates last = true) ∧
        ∀ first ∈ after.toList.head?, separates first = true := by
  constructor
  · rintro ⟨solid, before, after, placed, border, borderBehind⟩
    refine ⟨solid, .ofList before, .ofList after, ?_, ?_, ?_⟩
    · apply String.toList_injective
      rw [placed, String.toList_append, String.toList_append, String.toList_ofList,
        String.toList_ofList, List.append_assoc]
    · rwa [String.toList_ofList]
    · rwa [String.toList_ofList]
  · rintro ⟨solid, before, after, placed, border, borderBehind⟩
    refine ⟨solid, before.toList, after.toList, ?_, border, borderBehind⟩
    rw [placed, String.toList_append, String.toList_append, List.append_assoc]

/-- All of at most one character satisfies a condition exactly if there is none or one that does. -/
theorem forall_mem_iff_eq_none_or {border : Option Char} {condition : Char → Prop} :
    (∀ character ∈ border, condition character) ↔
      border = none ∨ ∃ character ∈ border, condition character := by
  cases border <;> simp

/-! ## Pieces within longer stretches -/

/-- Whether a piece occurs in a text only within longer stretches: wherever it occurs, a character
that does not separate stands right in front of it or right behind it. -/
def OnlyWithinLonger (separates : Char → Bool) (piece text : List Char) : Prop :=
  ∀ before after, text = before ++ (piece ++ after) →
    (∃ last ∈ before.getLast?, separates last = false) ∨
      ∃ first ∈ after.head?, separates first = false

/-- A piece without separators occurs only within longer stretches exactly if it is no stretch. -/
theorem onlyWithinLonger_iff (solid : ∀ character ∈ piece, separates character = false) :
    OnlyWithinLonger separates piece text ↔ piece ∉ split separates text := by
  rw [mem_split_iff]
  constructor
  · rintro longer ⟨-, before, after, placed, border, borderBehind⟩
    rcases longer before after placed with ⟨last, ends, inside⟩ | ⟨first, begins, inside⟩
    · exact Bool.false_ne_true (inside.symm.trans (border last ends))
    · exact Bool.false_ne_true (inside.symm.trans (borderBehind first begins))
  · intro notAlone before after placed
    by_contra noNeighbour
    rw [not_or, not_exists, not_exists] at noNeighbour
    refine notAlone ⟨solid, before, after, placed, fun last ends => ?_, fun first begins => ?_⟩
    · exact Bool.eq_true_of_not_eq_false fun inside => noNeighbour.1 last ⟨ends, inside⟩
    · exact Bool.eq_true_of_not_eq_false fun inside => noNeighbour.2 first ⟨begins, inside⟩

end Text

/-! ## Roles of a user -/

namespace User

variable {user : User} {role : String}

/-- A user has the roles that are words of the user's roles. -/
theorem hasRole_iff_mem_words :
    user.hasRole role = true ↔ role.toList ∈ words user.roles.toList :=
  List.contains_iff_mem

/-- A user has the roles that stand as whole words among the user's roles. -/
theorem hasRole_iff_placed :
    user.hasRole role = true ↔
      role ≠ "" ∧ Solid role.toList ∧ ∃ before after : String,
        user.roles = before ++ role ++ after ∧
        (before = "" ∨ ∃ last ∈ before.toList.getLast?, isBlank last = true) ∧
        (after = "" ∨ ∃ first ∈ after.toList.head?, isBlank first = true) := by
  rw [hasRole_iff_mem_words, mem_words_iff, standsAlone_toList_iff]
  simp only [forall_mem_iff_eq_none_or, List.getLast?_eq_none_iff, List.head?_eq_none_iff,
    String.toList_eq_nil_iff, Ne, Solid]

/-- Nobody has a role with a blank in it. -/
theorem hasRole_eq_false_of_blank (blank : ∃ character ∈ role.toList, isBlank character = true) :
    user.hasRole role = false := by
  obtain ⟨character, member, blank⟩ := blank
  rw [← Bool.not_eq_true, hasRole_iff_placed]
  rintro ⟨-, solid, -⟩
  exact Bool.false_ne_true ((solid character member).symm.trans blank)

/-- Nobody has a role that the user's roles hold only within longer words. -/
theorem hasRole_eq_false_of_onlyWithinLonger
    (longer : OnlyWithinLonger isBlank role.toList user.roles.toList) :
    user.hasRole role = false := by
  rw [← Bool.not_eq_true, hasRole_iff_mem_words]
  intro member
  have alone := (mem_words_iff.mp member).2
  exact (onlyWithinLonger_iff alone.solid).mp longer (mem_split_iff.mpr alone)

end User

/-! ## Users with a role -/

/-- A query for a role selects no user without it. -/
theorem UserQuery.selects_eq_false {query : UserQuery} {user : User} (named : query.role ≠ "")
    (without : user.hasRole query.role = false) : query.selects user = false := by
  have nonempty : query.role.isEmpty = false := by simpa using named
  rw [selects, nonempty, without, Bool.or_false, Bool.and_false]

namespace Directory

variable {host : UserQuery → Action Directory (List User)} (either : host ∈ [ask, askInWords])

include either

/-- Wherever a host looks for a page, the answer is a part of the users that the query selects. -/
theorem exists_outcome_host (query : UserQuery) (directory : Directory) :
    ∃ place, outcome (host query) directory =
      (if query.perPage = 0 then .error (.hostApi "per_page must be positive")
        else .ok (((directory.users.filter query.selects).drop place).take query.perPage.toNat),
        { directory with requests := directory.requests ++ [query] }) := by
  rcases List.mem_pair.mp either with rfl | rfl
  · exact ⟨_, outcome_ask query directory⟩
  · exact ⟨_, outcome_askInWords query directory⟩

/-- The users that a host answers with are selected by the query. -/
theorem selects_of_mem_listed {query : UserQuery} {directory : Directory} {listed : List User}
    (answered : (outcome (host query) directory).1 = .ok listed) {user : User}
    (member : user ∈ listed) : query.selects user = true := by
  obtain ⟨place, ran⟩ := exists_outcome_host either query directory
  rw [ran] at answered
  dsimp only at answered
  split at answered
  · cases answered
  · cases answered
    exact (List.mem_filter.mp (List.mem_of_mem_drop (List.mem_of_mem_take member))).2

end Directory

/-- A user has a role exactly if it is not empty, holds no blank and stands among the user's roles
with nothing or a blank in front of it and with nothing or a blank behind it.  So a host that is
asked for a role with a blank in it answers with nobody, whatever the page is and whether or not
its place is computed with words, and whatever it answers with for a role, there is no user in it
whose roles hold the role only within longer words. -/
theorem roles_match_as_whole_words :
    (∀ (user : User) (role : String),
      user.hasRole role = true ↔
        role ≠ "" ∧ (∀ character ∈ role.toList, isBlank character = false) ∧
          ∃ before after : String, user.roles = before ++ role ++ after ∧
            (before = "" ∨ ∃ last ∈ before.toList.getLast?, isBlank last = true) ∧
            (after = "" ∨ ∃ first ∈ after.toList.head?, isBlank first = true)) ∧
    ∀ host ∈ [Directory.ask, Directory.askInWords], ∀ (directory : Directory) (query : UserQuery),
      query.role ≠ "" →
      ((∃ blank ∈ query.role.toList, isBlank blank = true) →
        outcome (host query) directory =
          (if query.perPage = 0 then .error (.hostApi "per_page must be positive") else .ok [],
            { directory with requests := directory.requests ++ [query] })) ∧
      ∀ user : User, OnlyWithinLonger isBlank query.role.toList user.roles.toList →
        ∀ listed, (outcome (host query) directory).1 = .ok listed → user ∉ listed := by
  refine ⟨fun user role => ?_, fun host either directory query named => ⟨fun spaced => ?_, ?_⟩⟩
  · exact User.hasRole_iff_placed
  · obtain ⟨place, ran⟩ := Directory.exists_outcome_host either query directory
    have nobody : directory.users.filter query.selects = [] := by
      refine List.filter_eq_nil_iff.mpr fun user _ => ?_
      rw [UserQuery.selects_eq_false named (User.hasRole_eq_false_of_blank spaced)]
      exact Bool.false_ne_true
    rw [ran, nobody, List.drop_nil, List.take_nil]
  · intro user longer listed answered member
    have selected := Directory.selects_of_mem_listed either answered member
    rw [UserQuery.selects_eq_false named (User.hasRole_eq_false_of_onlyWithinLonger longer)]
      at selected
    cases selected

/-- An administrator whose roles are divided by a wide blank, and a user with two roles that are
longer words with the role of administrators in them. -/
def spacedDirectory : Directory where
  users :=
    [{ id := "first", username := "first", roles := "system_user\u2003system_admin " },
      { id := "second", username := "second", roles := "system_admins sub_system_admin" }]

/-- Whoever asks the sample host for administrators gets the first user and not the second one,
and nobody for a role with a blank in it. -/
theorem roles_match_as_whole_words_spacedDirectory :
    (∃ before after : String, "system_user\u2003system_admin " = before ++ "system_admin" ++ after ∧
      (before = "" ∨ ∃ last ∈ before.toList.getLast?, isBlank last = true) ∧
      (after = "" ∨ ∃ first ∈ after.toList.head?, isBlank first = true)) ∧
    OnlyWithinLonger isBlank "system_admin".toList "system_admins sub_system_admin".toList ∧
    (outcome (Directory.ask (.systemAdmins 7)) spacedDirectory).1 =
      .ok (spacedDirectory.users.take 1) ∧
    (∀ user ∈ spacedDirectory.users.drop 1, user ∉ spacedDirectory.users.take 1) ∧
    (∃ blank ∈ "user system_admin".toList, isBlank blank = true) ∧
    (outcome (Directory.askInWords { UserQuery.systemAdmins 7 with role := "user system_admin" })
      spacedDirectory).1 = .ok [] := by
  have answered : (outcome (Directory.ask (.systemAdmins 7)) spacedDirectory).1 =
      .ok (spacedDirectory.users.take 1) := by decide
  obtain ⟨placed, hosts⟩ := roles_match_as_whole_words
  have administrator :=
    (placed { id := "first", username := "first", roles := "system_user\u2003system_admin " }
      "system_admin").mp (by decide)
  have longer : OnlyWithinLonger isBlank "system_admin".toList
      "system_admins sub_system_admin".toList :=
    (onlyWithinLonger_iff administrator.2.1).mpr (by decide)
  refine ⟨administrator.2.2, longer, answered, ?_, ⟨' ', by decide, by decide⟩, ?_⟩
  · intro user member
    refine (hosts Directory.ask (List.mem_cons_self ..) spacedDirectory (.systemAdmins 7)
      (by decide)).2 user ?_ _ answered
    rw [List.mem_singleton.mp member]
    exact longer
  · rw [(hosts Directory.askInWords (List.mem_cons_of_mem _ (List.mem_cons_self ..))
      spacedDirectory { UserQuery.systemAdmins 7 with role := "user system_admin" }
      (by decide)).1 ⟨' ', by decide, by decide⟩]
    rfl

end CardLimits
