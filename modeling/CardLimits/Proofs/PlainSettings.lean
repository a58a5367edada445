import CardLimits.Config.Environment
import CardLimits.Proofs.Literals
/-!
# Plain files of settings

A plain file of settings (`PlainLine.text`) holds a `NAME=value` to a line, between empty lines
and comments, and nothing that is quoted, escaped or substituted.  Such a file sets exactly what
its lines say (`ofText_plain`), so the value of a variable is that of the process and, without
one, that of the first line with the name (`get?_ofSettings_plain`).
-/

namespace CardLimits

namespace Settings

open Text

/-! ## Plain lines -/

/-- Whether a character stands for itself wherever it is in a line: it is no blank, quotes,
escapes and substitutes nothing, and a variable can hold it. -/
def isPlain (character : Char) : Bool :=
  !(isBlank character || ['\x27', '"', '\\', '$', '\x00'].contains character)

/-- A variable with a name and a value that can be written without quotation marks. -/
structure PlainSetting where
  name : String
  value : String
  starts : name.toList.head?.any startsName = true
  continues : ∀ character ∈ name.toList, continuesName character = true
  plain : ∀ character ∈ value.toList, isPlain character = true
  noComment : value.toList.head? ≠ some '#'

/-- A line of a plain file of settings. -/
inductive PlainLine where
  | setting (written : PlainSetting)
  | comment (text : String) (oneLine : '\n' ∉ text.toList)
  | empty

/-- The characters of a setting. -/
def PlainSetting.characters (setting : PlainSetting) : List Char :=
  setting.name.toList ++ '=' :: setting.value.toList

/-- The characters of a line. -/
def PlainLine.characters : PlainLine → List Char
  | setting written => written.characters
  | comment text _ => '#' :: text.toList
  | empty => []

/-- The text of a file with the lines. -/
def PlainLine.text (lines : List PlainLine) : String :=
  String.ofList (List.intercalate ['\n'] (lines.map characters))

/-- The variable of a line. -/
def PlainLine.assigned? : PlainLine → Option (String × String)
  | setting written => some (written.name, written.value)
  | comment _ _ | empty => none

/-- The variables of the lines, in their order. -/
def PlainLine.variables (lines : List PlainLine) : Variables :=
  lines.filterMap assigned?

/-! ## Characters -/

/-- A plain character is no blank. -/
theorem isBlank_of_isPlain {character : Char} (plain : isPlain character = true) :
    isBlank character = false := by
  simp only [isPlain, Bool.not_eq_true', Bool.or_eq_false_iff] at plain
  exact plain.1

/-- A plain character opens no quotation, escapes and substitutes nothing. -/
theorem ne_of_isPlain {character : Char} (plain : isPlain character = true) :
    character ≠ '\x27' ∧ character ≠ '"' ∧ character ≠ '\\' ∧ character ≠ '$' := by
  simp only [isPlain, Bool.not_eq_true', Bool.or_eq_false_iff, List.contains_eq_mem,
    decide_eq_false_iff_not, List.mem_cons, not_or] at plain
  exact ⟨plain.2.1, plain.2.2.1, plain.2.2.2.1, plain.2.2.2.2.1⟩

/-- A plain character does not end a line. -/
theorem ne_lineFeed_of_isPlain {character : Char} (plain : isPlain character = true) :
    character ≠ '\n' := by
  rintro rfl
  exact absurd plain (by decide)

/-- Names are made of letters and digits, underscores and points. -/
theorem range_of_continuesName {character : Char} (continues : continuesName character = true) :
    (65 ≤ character.toNat ∧ character.toNat ≤ 90 ∨ 97 ≤ character.toNat ∧ character.toNat ≤ 122 ∨
      48 ≤ character.toNat ∧ character.toNat ≤ 57) ∨ character = '_' ∨ character = '.' := by
  simp only [continuesName, Bool.or_eq_true, decide_eq_true_eq] at continues
  obtain (alphanumeric | underscore) | point := continues
  · left
    obtain alphabetic | digit := Bool.or_eq_true_iff.mp alphanumeric
    · obtain upper | lower := Bool.or_eq_true_iff.mp alphabetic
      · exact .inl (of_decide_eq_true upper)
      · obtain ⟨least, most⟩ := Bool.and_eq_true_iff.mp lower
        exact .inr (.inl ⟨of_decide_eq_true least, of_decide_eq_true most⟩)
    · obtain ⟨least, most⟩ := Bool.and_eq_true_iff.mp digit
      exact .inr (.inr ⟨of_decide_eq_true least, of_decide_eq_true most⟩)
  · exact .inr (.inl underscore)
  · exact .inr (.inr point)

/-- Names are made of plain characters. -/
theorem isPlain_of_continuesName {character : Char} (continues : continuesName character = true) :
    isPlain character = true := by
  obtain range | rfl | rfl := range_of_continuesName continues
  · have visible : isBlank character = false := by
      simp only [isBlank, Bool.or_eq_false_iff, Bool.and_eq_false_iff, decide_eq_false_iff_not,
        beq_eq_false_iff_ne]
      omega
    rw [isPlain, visible, Bool.false_or, Bool.not_eq_true', List.contains_eq_mem,
      decide_eq_false_iff_not]
    intro special
    simp only [List.mem_cons, List.not_mem_nil, or_false] at special
    obtain rfl | rfl | rfl | rfl | rfl := special
    all_goals exact absurd range (by decide)
  · decide
  · decide

/-- A name does not start with the sign of a comment. -/
theorem ne_of_startsName {character : Char} (starts : startsName character = true) :
    character ≠ '#' := by
  rintro rfl
  exact absurd starts (by decide)

/-! ## Lines of a text -/

/-- Whether a text goes on behind a line with the other lines, wherever the line ends. -/
def Continues (rest : List Char) (others : List (List Char)) : Prop :=
  ∀ place : Place, place.mayEnd = true → linesFrom place rest = [] :: others

/-- Nothing is behind the last line. -/
theorem continues_nil : Continues [] [] := by
  intro place mayEnd
  rw [linesFrom, if_pos mayEnd]

/-- Behind a line feed is the next line. -/
theorem continues_lineFeed (rest : List Char) : Continues ('\n' :: rest) (lines rest) := by
  intro place mayEnd
  cases place with
  | start | plain | comment => rfl
  | blank | escape | quotation | quotedEscape => cases mayEnd

/-- A plain character is kept, and what follows it stands in the same line. -/
theorem linesFrom_plain_cons {place : Place} {character : Char} (rest : List Char)
    (plain : isPlain character = true) (kept : place = .plain ∨ place = .start ∧ character ≠ '#') :
    linesFrom place (character :: rest) =
      (linesFrom .plain rest).modifyHead (character :: ·) := by
  obtain ⟨noSingle, noDouble, noEscape, -⟩ := ne_of_isPlain plain
  have behind : Place.behind character = .plain := by
    simp only [Place.behind, Mark.character, noSingle, noDouble, noEscape, if_false]
  have next : place.next character = .plain := by
    obtain rfl | ⟨rfl, noComment⟩ := kept
    · rw [Place.next, isBlank_of_isPlain plain, Bool.false_and, behind]
      rfl
    · rw [Place.next, isBlank_of_isPlain plain, behind, if_neg noComment]
      rfl
  rw [linesFrom, if_neg (by simp [ne_lineFeed_of_isPlain plain]), next]
  rfl

/-- Plain characters are kept in their line. -/
theorem linesFrom_plain {text rest : List Char} {others : List (List Char)}
    (plain : ∀ character ∈ text, isPlain character = true) (continues : Continues rest others) :
    linesFrom .plain (text ++ rest) = text :: others := by
  induction text with
  | nil => exact continues .plain rfl
  | cons first later inductionHypothesis =>
    obtain ⟨plainFirst, plainLater⟩ := List.forall_mem_cons.mp plain
    rw [List.cons_append, linesFrom_plain_cons _ plainFirst (.inl rfl),
      inductionHypothesis plainLater]
    rfl

/-- Nothing of a comment is kept in its line. -/
theorem linesFrom_comment {text rest : List Char} {others : List (List Char)}
    (oneLine : '\n' ∉ text) (continues : Continues rest others) :
    linesFrom .comment (text ++ rest) = [] :: others := by
  induction text with
  | nil => exact continues .comment rfl
  | cons first later inductionHypothesis =>
    obtain ⟨noFeed, oneLineLater⟩ := not_or.mp (List.mem_cons.not.mp oneLine)
    rw [List.cons_append, linesFrom, if_neg (by simp [Ne.symm noFeed])]
    exact inductionHypothesis oneLineLater

/-- What is kept of a line when a text is divided. -/
def PlainLine.kept : PlainLine → List Char
  | setting written => written.characters
  | comment _ _ | empty => []

namespace PlainSetting

variable (setting : PlainSetting)

/-- A name has a first character. -/
theorem exists_name : ∃ first later, setting.name.toList = first :: later ∧
    startsName first = true := by
  obtain ⟨name, _, starts, _⟩ := setting
  cases equal : name.toList with
  | nil =>
    rw [equal] at starts
    cases starts
  | cons first later =>
    rw [equal] at starts
    exact ⟨first, later, rfl, by simpa using starts⟩

/-- A setting is made of plain characters. -/
theorem isPlain_of_mem_characters :
    ∀ character ∈ setting.characters, isPlain character = true := by
  intro character member
  obtain named | rfl | valued := by
    simpa only [characters, List.mem_append, List.mem_cons] using member
  · exact isPlain_of_continuesName (setting.continues character named)
  · decide
  · exact setting.plain character valued

/-- A setting holds no blank. -/
theorem solid : Solid setting.characters :=
  fun character member => isBlank_of_isPlain (setting.isPlain_of_mem_characters character member)

/-- A setting is no comment. -/
theorem exists_characters : ∃ first later, setting.characters = first :: later ∧ first ≠ '#' := by
  obtain ⟨first, later, name, starts⟩ := setting.exists_name
  refine ⟨first, later ++ '=' :: setting.value.toList, ?_, ne_of_startsName starts⟩
  rw [characters, name, List.cons_append]

end PlainSetting

/-- A line is divided from those behind it. -/
theorem linesFrom_characters (line : PlainLine) {rest : List Char} {others : List (List Char)}
    (continues : Continues rest others) :
    linesFrom .start (line.characters ++ rest) = line.kept :: others := by
  cases line with
  | setting written =>
    have plain := written.isPlain_of_mem_characters
    obtain ⟨first, later, characters, noComment⟩ := written.exists_characters
    rw [PlainLine.characters, PlainLine.kept]
    rw [characters] at plain ⊢
    obtain ⟨plainFirst, plainLater⟩ := List.forall_mem_cons.mp plain
    rw [List.cons_append, linesFrom_plain_cons _ plainFirst (.inr ⟨rfl, noComment⟩),
      linesFrom_plain plainLater continues]
    rfl
  | comment text oneLine => exact linesFrom_comment oneLine continues
  | empty => exact continues .start rfl

/-- A plain text is divided into its lines. -/
theorem lines_characters (first : PlainLine) (later : List PlainLine) :
    lines (List.intercalate ['\n'] ((first :: later).map PlainLine.characters)) =
      (first :: later).map PlainLine.kept := by
  induction later generalizing first with
  | nil =>
    have divided := linesFrom_characters first continues_nil
    rw [List.append_nil] at divided
    simpa [List.intercalate, lines] using divided
  | cons second later inductionHypothesis =>
    have divided := linesFrom_characters first (continues_lineFeed
      (List.intercalate ['\n'] ((second :: later).map PlainLine.characters)))
    rw [inductionHypothesis] at divided
    simpa [List.intercalate_cons_cons, lines] using divided

/-! ## Settings of a text -/

/-- The name of a setting is read off its line. -/
theorem assignment?_characters (setting : PlainSetting) :
    assignment? setting.characters = some (setting.name.toList, setting.value.toList) := by
  obtain ⟨first, later, name, starts⟩ := setting.exists_name
  have continues := setting.continues
  have noName : continuesName '=' = false := rfl
  have named : name? setting.characters =
      some (setting.name.toList, '=' :: setting.value.toList) := by
    rw [name?, PlainSetting.characters, List.takeWhile_append_of_pos continues,
      List.dropWhile_append_of_pos continues, List.takeWhile_cons_of_neg (by simp [noName]),
      List.dropWhile_cons_of_neg (by simp [noName]), List.append_nil, name]
    exact if_pos (by simpa using starts)
  rw [assignment?, named]
  rfl

/-- Plain characters stand for themselves in a value. -/
theorem valueFrom_plain (valueOf : List Char → List Char) {value : List Char}
    (plain : ∀ character ∈ value, isPlain character = true) :
    valueFrom valueOf .bare value = some value := by
  induction value with
  | nil => rfl
  | cons first later inductionHypothesis =>
    obtain ⟨plainFirst, plainLater⟩ := List.forall_mem_cons.mp plain
    obtain ⟨noSingle, noDouble, noEscape, noName⟩ := ne_of_isPlain plainFirst
    have noEnd : endsValue first = false := by
      rw [endsValue, Bool.or_eq_false_iff, decide_eq_false_iff_not, decide_eq_false_iff_not]
      exact ⟨by rintro rfl; exact absurd plainFirst (by decide),
        by rintro rfl; exact absurd plainFirst (by decide)⟩
    simp only [valueFrom, Mark.character, noName, noSingle, noDouble, noEscape, noEnd,
      Bool.false_eq_true, if_false, inductionHypothesis plainLater, Option.map_some]

/-- A plain value stands for itself. -/
theorem value?_plain (valueOf : List Char → List Char) (setting : PlainSetting) :
    value? valueOf setting.value.toList = some setting.value.toList := by
  have solid : Solid setting.value.toList :=
    fun character member => isBlank_of_isPlain (setting.plain character member)
  have kept : setting.value.toList.dropWhile isBlank = setting.value.toList := by
    by_cases empty : setting.value.toList = []
    · rw [empty]
      rfl
    · simpa using dropWhile_isBlank_of_solid solid [] empty
  rw [value?, kept]
  exact (if_neg setting.noComment).trans (valueFrom_plain valueOf setting.plain)

/-- A line sets its variable. -/
theorem setting?_kept (known : Variables) (line : PlainLine) :
    setting? known line.kept = some line.assigned? := by
  cases line with
  | comment text oneLine => rfl
  | empty => rfl
  | setting written =>
    obtain ⟨first, later, characters, noComment⟩ := written.exists_characters
    have sets : (written.characters.isEmpty || written.characters.head? = some '#') = false := by
      simp [characters, noComment]
    rw [setting?, PlainLine.kept, trim_of_solid written.solid]
    simp only [sets, Bool.false_eq_true, if_false, assignment?_characters, value?_plain, bind,
      Option.bind_some, pure, String.ofList_toList, PlainLine.assigned?]

/-- Lines set their variables, one after the other. -/
theorem ofLines_kept (known : Variables) (lines : List PlainLine) :
    ofLines known (lines.map PlainLine.kept) = PlainLine.variables lines := by
  induction lines generalizing known with
  | nil => rfl
  | cons first later inductionHypothesis =>
    rw [List.map_cons, ofLines, setting?_kept, PlainLine.variables, List.filterMap_cons]
    cases first.assigned? with
    | none => exact inductionHypothesis known
    | some setting => exact congrArg (setting :: ·) (inductionHypothesis _)

/-- A line does not start with a byte order mark. -/
theorem PlainLine.head?_characters_ne (line : PlainLine) :
    line.characters.head? ≠ some '\uFEFF' := by
  cases line with
  | setting written =>
    obtain ⟨first, later, name, starts⟩ := written.exists_name
    rw [characters, PlainSetting.characters, name]
    rintro ⟨rfl⟩
    exact absurd starts (by decide)
  | comment text oneLine => exact nofun
  | empty => exact nofun

/-- A plain text does not start with a byte order mark. -/
theorem head?_intercalate_ne (lines : List PlainLine) :
    (List.intercalate ['\n'] (lines.map PlainLine.characters)).head? ≠ some '\uFEFF' := by
  match lines with
  | [] => exact nofun
  | [line] => simpa [List.intercalate] using line.head?_characters_ne
  | first :: second :: later =>
    have own := first.head?_characters_ne
    rw [List.map_cons, List.map_cons, List.intercalate_cons_cons, List.append_assoc,
      List.head?_append]
    cases head : first.characters.head? with
    | none => exact nofun
    | some character =>
      rw [head] at own
      exact own

/-- A plain text sets the variables of its lines. -/
theorem ofText_plain (process : Variables) (written : List PlainLine) :
    ofText process (PlainLine.text written) = PlainLine.variables written := by
  have noMark := head?_intercalate_ne written
  rw [ofText, PlainLine.text, String.toList_ofList]
  split
  · rename_i equal
    rw [equal] at noMark
    exact absurd rfl noMark
  · cases written with
    | nil => rfl
    | cons first later => rw [lines_characters, ofLines_kept]

end Settings

/-- The value of a variable is that of the process and, without one, that of the first line of a
plain file with the name. -/
theorem Environment.get?_ofSettings_plain (process : Variables)
    (written : List Settings.PlainLine) (name : String) :
    (ofSettings process (Settings.PlainLine.text written)).get? name =
      (process.lookup name).or ((Settings.PlainLine.variables written).lookup name) := by
  rw [get?, ofSettings, Settings.ofText_plain, List.lookup_append]

end CardLimits
