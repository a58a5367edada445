import CardLimits.Failure
/-!
# Chains of causes

The detailed message of an error lists its causes one after the other and counts them as it goes
(`AppError.listCauses`).  Whatever the length of the chain, what comes out are the first causes
in their order, and a last line exactly if there are more (`listCauses_eq`).  A failure that was
explained several times over has every explanation among its causes, the latest one first
(`Failure.messages_explained`).
-/

namespace CardLimits

/-- A failure with a message, explained by some contexts one after the other. -/
def Failure.explained (root : String) (contexts : List String) : Failure :=
  contexts.foldl Failure.context { message := root }

/-- The message of a failure and those of its causes. -/
def Failure.messages (failure : Failure) : List String :=
  failure.message :: failure.causes

/-- An explanation stands in front of all messages. -/
theorem Failure.messages_context (failure : Failure) (text : String) :
    (failure.context text).messages = text :: failure.messages := rfl

/-- Explanations stand in front of the messages, the latest one first. -/
theorem Failure.messages_foldl_context (failure : Failure) (contexts : List String) :
    (contexts.foldl Failure.context failure).messages = contexts.reverse ++ failure.messages := by
  induction contexts generalizing failure with
  | nil => rfl
  | cons text later inductionHypothesis =>
    rw [List.foldl_cons, inductionHypothesis, messages_context, List.reverse_cons,
      List.append_assoc, List.singleton_append]

/-- The messages of a failure that was explained are all texts that it was made of, the latest
one first. -/
theorem Failure.messages_explained (root : String) (contexts : List String) :
    (Failure.explained root contexts).messages = (root :: contexts).reverse := by
  rw [explained, messages_foldl_context, List.reverse_cons]
  rfl

namespace AppError

/-- The line for a cause. -/
def causeLine (cause : String) : String :=
  "\n  Caused by: " ++ cause

/-- The line that says that there are further causes. -/
def truncationLine : String :=
  "\n  ... (truncated)"

/-- With some lines there already, as many causes are listed as there is room for, in their
order, and a last line exactly if there are more.  By induction on the causes; the room left for
lines is what the count stands for. -/
theorem listCauses_eq (text : String) {listed room : Nat} (counted : listed + room = listedCauses)
    (causes : List String) :
    listCauses text listed causes =
      text ++ String.join ((causes.take room).map causeLine) ++
        if room < causes.length then truncationLine else "" := by
  induction causes generalizing text listed room with
  | nil => simp [listCauses]
  | cons cause deeper inductionHypothesis =>
    rw [listCauses]
    cases room with
    | zero =>
      have full : listedCauses < listed + 1 := by omega
      simp [full, truncationLine]
    | succ room =>
      have stillCounted : listed + 1 + room = listedCauses := by omega
      rw [if_neg (by omega), inductionHypothesis _ stillCounted, List.take_succ_cons,
        List.map_cons, String.join_cons, List.length_cons]
      simp only [Nat.succ_lt_succ_iff, causeLine, String.append_assoc]

/-- The detailed message of an error with any number of causes is its message, a line for each of
the first five causes in their order, and a last line exactly if there are more than five.  The
causes of an error that keeps an explained failure are all texts that the failure was made of,
the latest one first, and this one is also the message that the failure itself shows. -/
theorem detailedMessage_lists_causes :
    (∀ error : AppError,
      error.detailedMessage = error.message ++
        String.join ((error.causes.take (min error.causes.length 5)).map fun cause =>
          "\n  Caused by: " ++ cause) ++
        if 5 < error.causes.length then "\n  ... (truncated)" else "") ∧
    ∀ root contexts,
      (internalFrom (Failure.explained root contexts)).causes = (root :: contexts).reverse ∧
      (internalFrom (Failure.explained root contexts)).causes.length = contexts.length + 1 ∧
      (internalFrom (Failure.explained root contexts)).causes.head? =
        some (Failure.explained root contexts).message := by
  refine ⟨fun error => ?_, fun root contexts => ?_⟩
  · have first : error.causes.take (min error.causes.length 5) = error.causes.take 5 := by
      rw [Nat.min_comm, ← List.take_take, List.take_length]
    rw [first]
    exact listCauses_eq error.message (Nat.zero_add _) error.causes
  · have all : (internalFrom (Failure.explained root contexts)).causes =
        (root :: contexts).reverse := Failure.messages_explained root contexts
    refine ⟨all, ?_, rfl⟩
    rw [all, List.length_reverse, List.length_cons]

end AppError

end CardLimits
