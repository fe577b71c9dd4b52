import TypeCatalog.Inspect.Arguments

/-! # Commands with words and with a question for help

A command followed by words without dashes is understood as the command with these words
(`ofArguments_words`).  Help asked for behind a command is help about it
(`ofArguments_help`). -/

namespace TypeCatalog.Inspect

theorem collectBehind_append {words : List String} (h : ∀ word ∈ words, isDashed word = false)
    (name : CommandName) (c : Collected) (rest : List String) :
    collectBehind name c (words ++ rest) =
      collectBehind name { c with words := words.reverse ++ c.words } rest := by
  induction words generalizing c with
  | nil => rfl
  | cons word words ih =>
      rw [List.forall_mem_cons] at h
      have notEnd : word ≠ "--" := by
        rintro rfl
        exact absurd h.1 (by decide)
      rw [List.cons_append]
      conv => lhs; unfold collectBehind
      rw [if_neg notEnd, if_neg (ne_true_of_eq_false h.1), ih h.2, List.reverse_cons,
        List.append_assoc, List.singleton_append]

theorem isDashed_of_ofWord? {word : String} {name : CommandName}
    (h : CommandName.ofWord? word = some name) : isDashed word = false := by
  unfold CommandName.ofWord? at h
  split at h
  · rfl
  · rfl
  · rfl
  · rfl
  · rfl
  · cases h

theorem ofArguments_command {word : String} {name : CommandName}
    (h : CommandName.ofWord? word = some name) (args : List String) :
    Invocation.ofArguments (word :: args) =
      collectBehind name {} args >>= Invocation.ofCollected name {} := by
  have plain := isDashed_of_ofWord? h
  have notEnd : word ≠ "--" := by
    rintro rfl
    exact absurd plain (by decide)
  unfold Invocation.ofArguments collect
  rw [if_neg notEnd, if_neg (ne_true_of_eq_false plain), h]
  dsimp only
  cases collectBehind name {} args with
  | ok behind => rfl
  | error r => rfl

/-- **A command and words without dashes.** -/
theorem ofArguments_words {word : String} {name : CommandName}
    (h : CommandName.ofWord? word = some name) {words : List String}
    (hw : ∀ word ∈ words, isDashed word = false) :
    Invocation.ofArguments (word :: words) =
      Invocation.ofCollected name {} { words := words.reverse } := by
  have collected := collectBehind_append hw name {} []
  rw [List.append_nil, List.append_nil] at collected
  rw [ofArguments_command h, collected]
  rfl

/-- **Help behind a command** is help about the command, whatever follows, if the words so far are
such as the command takes. -/
theorem ofArguments_help {word : String} {name : CommandName}
    (h : CommandName.ofWord? word = some name) {words : List String}
    (hw : ∀ word ∈ words, isDashed word = false) (admitted : name.admits words.reverse = true)
    (rest : List String) : Invocation.ofArguments (word :: (words ++ "--help" :: rest)) =
      Invocation.ofArguments ["help", word] := by
  have asked (c : Collected) : takeDashed (switches (some name)) c "--help" =
      .error (.help .program) := by
    cases name <;> rfl
  have about : Invocation.ofArguments ["help", word] = .error (.help (.command name)) := by
    show Except.error (Refusal.ofHelpWords [word]) = _
    rw [Refusal.ofHelpWords, h]
  have collected : collectBehind name {} (words ++ "--help" :: rest) =
      .error (.help (.command name)) := by
    rw [collectBehind_append hw, List.append_nil]
    unfold collectBehind
    rw [if_neg (by decide), if_pos (by decide), asked]
    simp only [Refusal.behind, admitted, if_true]
  rw [ofArguments_command h, collected, about]
  rfl

end TypeCatalog.Inspect
