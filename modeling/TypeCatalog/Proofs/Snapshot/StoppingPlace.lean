import TypeCatalog.Proofs.Json.Offset
import TypeCatalog.Proofs.Snapshot.Framing
import TypeCatalog.Proofs.Snapshot.Place
import TypeCatalog.Proofs.Text.Bytes

/-! # Where reading stops

The JSON reader does not see the snapshot text: a declaration is cut off in front, and the trailing
commas are dropped.  `StopsAt` maps the place where the reader stops back to the text.  What it has
read is left of what is in front of this place when the dropped commas are deleted
(`exists_loses_of_stopsAt`).  None of them is a line break, so the line in the error is the line of
the place (`line_of_unreadable`); the column in the error is smaller than its column by the commas
that are dropped from this line in front of it (`column_of_unreadable`). -/

namespace TypeCatalog.Snapshot

open Text

/-! ### Dropped commas -/

/-- The byte offsets of the trailing commas of a text that starts at an offset. -/
def trailingCommas (scan : Scan) (offset : Nat) : List Char → List Nat
  | [] => []
  | c :: cs =>
    if isTrailingComma scan c cs then
      offset :: trailingCommas (scan.next c) (offset + c.utf8Size) cs
    else trailingCommas (scan.next c) (offset + c.utf8Size) cs

/-- The byte offsets in a snapshot text of the commas that are dropped before its value is read. -/
def droppedCommas (text : String) : List Nat :=
  match cutDeclaration text.toList with
  | .ok cut => trailingCommas .outside (byteLength cut.skipped) (trimBody cut.body)
  | .error _ => []

/-- These are the commas outside strings that only blanks separate from a closing bracket. -/
theorem mem_trailingCommas_iff {scan : Scan} {offset o : Nat} {text : List Char} :
    o ∈ trailingCommas scan offset text ↔ ∃ front rest, text = front ++ ',' :: rest ∧
      scan.behind front = .outside ∧ closesNext rest = true ∧ o = offset + byteLength front := by
  induction text generalizing scan offset with
  | nil => simp [trailingCommas]
  | cons c cs ih =>
      have first : o ∈ trailingCommas scan offset (c :: cs) ↔
          isTrailingComma scan c cs = true ∧ o = offset ∨
            o ∈ trailingCommas (scan.next c) (offset + c.utf8Size) cs := by
        rw [trailingCommas]
        split <;> simp [*]
      rw [first, ih, isTrailingComma_iff]
      constructor
      · rintro (⟨⟨rfl, rfl, closes⟩, rfl⟩ | ⟨front, rest, rfl, outside, closes, rfl⟩)
        · exact ⟨[], cs, rfl, rfl, closes, rfl⟩
        · exact ⟨c :: front, rest, rfl, outside, closes, Nat.add_assoc ..⟩
      · rintro ⟨front, rest, htext, outside, closes, rfl⟩
        cases front with
        | nil =>
            cases htext
            exact .inl ⟨⟨outside, rfl, closes⟩, rfl⟩
        | cons d front =>
            cases htext
            exact .inr ⟨front, rest, rfl, outside, closes, (Nat.add_assoc ..).symm⟩

theorem loses_dropTrailingCommasFrom {bytes left : List UInt8} {offsets : List Nat}
    (h : Loses bytes offsets left) (scan : Scan) (text : List Char) :
    Loses (bytes ++ encode text) (offsets ++ trailingCommas scan bytes.length text)
      (left ++ encode (dropTrailingCommasFrom scan text)) := by
  induction text generalizing bytes left offsets scan with
  | nil =>
      rw [dropTrailingCommasFrom, trailingCommas, List.append_nil]
      exact h.append _
  | cons c cs ih =>
      rw [trailingCommas, encode_cons, ← List.append_assoc]
      cases hc : isTrailingComma scan c cs with
      | true =>
          obtain ⟨rfl, rfl, -⟩ := isTrailingComma_iff.mp hc
          have comma : Loses (bytes ++ String.utf8EncodeChar ',') (offsets ++ [bytes.length])
              left := h.delete (by decide)
          have rest := ih comma .outside
          rw [List.length_append, String.length_utf8EncodeChar, List.append_assoc offsets] at rest
          rw [dropTrailingCommasFrom, hc, if_pos rfl, if_pos rfl]
          exact rest
      | false =>
          have rest := ih (h.append (String.utf8EncodeChar c)) (scan.next c)
          rw [List.length_append, String.length_utf8EncodeChar, List.append_assoc left,
            ← encode_cons] at rest
          rw [dropTrailingCommasFrom_cons hc, if_neg Bool.false_ne_true]
          exact rest

/-- **A snapshot text loses its dropped commas.** -/
theorem exists_loses_droppedCommas {text : String} {cut : Cut}
    (h : cutDeclaration text.toList = .ok cut) :
    ∃ tail, Loses (bytesOf text) (droppedCommas text)
      (encode (cut.skipped ++ dropTrailingCommas (trimBody cut.body)) ++ tail) := by
  obtain ⟨tail, -, body⟩ := exists_trimBody_append cut.body
  refine ⟨encode tail, ?_⟩
  have whole : bytesOf text = encode cut.skipped ++ encode (trimBody cut.body) ++ encode tail := by
    rw [bytesOf_eq, eq_append_of_cutDeclaration h, ← encode, List.append_assoc,
      ← encode_append (trimBody cut.body), ← body, encode_append]
  have commas : droppedCommas text =
      trailingCommas .outside (encode cut.skipped).length (trimBody cut.body) := by
    rw [droppedCommas, h, length_encode]
  rw [whole, commas, encode_append]
  exact (loses_dropTrailingCommasFrom (.refl _) .outside _).append _

/-! ### The place -/

/-- The reader stops behind so many bytes of a snapshot text: those that are skipped, those of the
value that it has read, and the dropped commas among them. -/
inductive StopsAt (text : String) (n : Nat) : Prop
  | stop {cut : Cut} {fault : Json.Fault} : cutDeclaration text.toList = .ok cut →
      Json.parse (dropTrailingCommas (trimBody cut.body)) = .error fault →
      n = byteLength cut.skipped + fault.offset + (droppedCommas text).countP (· < n) →
      StopsAt text n

theorem exists_cut_of_unreadable {text : String} {position : Position} {cause : Json.Cause}
    (h : read text = .error (.unreadable position (.json cause))) :
    ∃ cut fault, cutDeclaration text.toList = .ok cut ∧
      Json.parse (dropTrailingCommas (trimBody cut.body)) = .error fault ∧
      position = .behind ((encode (cut.skipped ++ dropTrailingCommas (trimBody cut.body))).take
        (byteLength cut.skipped + fault.offset)) := by
  rw [read, readChars] at h
  split at h
  · cases h
  · rename_i cut hc
    rw [readBody] at h
    split at h
    · cases h
    · dsimp only at h
      split at h
      · cases h
      · rename_i fault failed
        simp only [Except.error.injEq, TextError.unreadable.injEq] at h
        refine ⟨cut, fault, hc, failed, ?_⟩
        rw [← h.1, ← ofOffset_append, Position.ofOffset_eq]

/-- What the reader has read of the bytes that are left is what is left of the bytes up to the
place. -/
theorem exists_loses_of_unreadable {text : String} {position : Position} {cause : Json.Cause}
    (h : read text = .error (.unreadable position (.json cause))) : ∃ left k,
      Loses (bytesOf text) (droppedCommas text) left ∧ k ≤ left.length ∧
        position = .behind (left.take k) ∧
        ∀ n, StopsAt text n ↔ n = k + (droppedCommas text).countP (· < n) := by
  obtain ⟨cut, fault, hc, failed, place⟩ := exists_cut_of_unreadable h
  obtain ⟨tail, loses⟩ := exists_loses_droppedCommas hc
  have inside : byteLength cut.skipped + fault.offset ≤
      (encode (cut.skipped ++ dropTrailingCommas (trimBody cut.body))).length := by
    rw [length_encode, byteLength_append]
    exact Nat.add_le_add_left (Json.offset_le_of_parseWithin failed) _
  refine ⟨_, byteLength cut.skipped + fault.offset, loses, ?_, ?_, fun n => ⟨?_, .stop hc failed⟩⟩
  · rw [List.length_append]
    exact Nat.le_add_right_of_le inside
  · rw [List.take_append_of_le_length inside]
    exact place
  · rintro ⟨hc', failed', mapped⟩
    cases hc.symm.trans hc'
    cases failed.symm.trans failed'
    exact mapped

theorem exists_stopsAt {text : String} {position : Position} {cause : Json.Cause}
    (h : read text = .error (.unreadable position (.json cause))) : ∃ n, StopsAt text n := by
  obtain ⟨left, k, loses, inside, -, stops⟩ := exists_loses_of_unreadable h
  obtain ⟨n, hn⟩ := loses.exists_eq_add_countP inside
  exact ⟨n, (stops n).mpr hn⟩

theorem exists_loses_of_stopsAt {text : String} {position : Position} {cause : Json.Cause} {n : Nat}
    (h : read text = .error (.unreadable position (.json cause))) (hn : StopsAt text n) :
    n ≤ (bytesOf text).length ∧ ∃ part,
      Loses ((bytesOf text).take n) ((droppedCommas text).filter (· < n)) part ∧
        position = .behind part := by
  obtain ⟨left, k, loses, inside, place, stops⟩ := exists_loses_of_unreadable h
  have mapped := (stops n).mp hn
  have whole := loses.le_length inside mapped
  have read : n - (droppedCommas text).countP (· < n) = k := by omega
  refine ⟨whole, left.take k, ?_, place⟩
  rw [← read]
  exact loses.take whole

/-! ### Lines and columns -/

/-- **The line in an error of the JSON reader.**  It is the line of the snapshot text in which
reading stops. -/
theorem line_of_unreadable {text : String} {position : Position} {cause : Json.Cause}
    (h : read text = .error (.unreadable position (.json cause))) :
    (∃ n, StopsAt text n) ∧ ∀ n, StopsAt text n → n ≤ (bytesOf text).length ∧
      position.line = 1 + ((bytesOf text).take n).count lineBreak := by
  refine ⟨exists_stopsAt h, fun n hn => ?_⟩
  obtain ⟨inside, part, loses, rfl⟩ := exists_loses_of_stopsAt h hn
  refine ⟨inside, ?_⟩
  rw [loses.count_eq]
  rfl

/-- A declared list of lists, with two trailing commas in front of a missing comma. -/
def missingComma : String := "let x = [\n[1,], [2,] 3]"

theorem droppedCommas_missingComma : droppedCommas missingComma = [12, 18] := rfl

theorem stopsAt_missingComma : StopsAt missingComma 22 := by
  have cut : cutDeclaration missingComma.toList =
      .ok ⟨"let x =".toList, " [\n[1,], [2,] 3]".toList⟩ := rfl
  have failed : Json.parse (dropTrailingCommas (trimBody " [\n[1,], [2,] 3]".toList)) =
      .error ⟨.expectedListEnd, 13⟩ := rfl
  refine .stop cut failed ?_
  rw [droppedCommas_missingComma]
  rfl

/-- It stops in the second line. -/
theorem line_of_missingComma :
    read missingComma = .error (.unreadable ⟨2, 10⟩ (.json .expectedListEnd)) ∧
      StopsAt missingComma 22 ∧
      2 = 1 + ((bytesOf missingComma).take 22).count lineBreak := by
  have refused : read missingComma = .error (.unreadable ⟨2, 10⟩ (.json .expectedListEnd)) := rfl
  obtain ⟨-, line⟩ := line_of_unreadable refused
  exact ⟨refused, stopsAt_missingComma, (line 22 stopsAt_missingComma).2⟩

/-- The commas that are dropped from the last line of the first bytes of a text. -/
def droppedOnLine (text : String) (n : Nat) : List Nat :=
  ((droppedCommas text).filter (· < n)).filter (lineStart ((bytesOf text).take n) ≤ ·)

/-- **The column in an error of the JSON reader.**  It is too small by the commas that are dropped
from the line in which reading stops, in front of the place, and so it is the column of the place
iff there are none. -/
theorem column_of_unreadable {text : String} {position : Position} {cause : Json.Cause}
    (h : read text = .error (.unreadable position (.json cause))) :
    (∃ n, StopsAt text n) ∧ ∀ n, StopsAt text n →
      position.column + (droppedOnLine text n).length = lineLength ((bytesOf text).take n) ∧
        (position.column = lineLength ((bytesOf text).take n) ↔ droppedOnLine text n = []) := by
  refine ⟨exists_stopsAt h, fun n hn => ?_⟩
  obtain ⟨-, part, loses, rfl⟩ := exists_loses_of_stopsAt h hn
  have line : (Position.behind part).column + (droppedOnLine text n).length =
      lineLength ((bytesOf text).take n) := by
    rw [droppedOnLine, ← List.countP_eq_length_filter, loses.lineLength_eq, Position.behind]
  refine ⟨line, ?_⟩
  rw [← line, ← List.length_eq_zero_iff]
  omega

/-- Two commas are dropped from the second line in front of the place, and the column is two bytes
too small. -/
theorem column_of_missingComma :
    read missingComma = .error (.unreadable ⟨2, 10⟩ (.json .expectedListEnd)) ∧
      StopsAt missingComma 22 ∧ droppedOnLine missingComma 22 = [12, 18] ∧
      10 + 2 = lineLength ((bytesOf missingComma).take 22) := by
  have refused : read missingComma = .error (.unreadable ⟨2, 10⟩ (.json .expectedListEnd)) := rfl
  have dropped : droppedOnLine missingComma 22 = [12, 18] := by
    rw [droppedOnLine, droppedCommas_missingComma, bytesOf_eq]
    rfl
  obtain ⟨-, column⟩ := column_of_unreadable refused
  have sum := (column 22 stopsAt_missingComma).1
  rw [dropped] at sum
  exact ⟨refused, stopsAt_missingComma, dropped, sum⟩

/-- In `[1,] x` reading stops in the sixth column, and the error names the fifth. -/
theorem column_of_trailingComma :
    read "[1,] x" = .error (.unreadable ⟨1, 5⟩ (.json .trailingCharacters)) ∧
      (∀ n, StopsAt "[1,] x" n ↔ n = 6) ∧ lineLength ((bytesOf "[1,] x").take 6) = 6 := by
  have cut : cutDeclaration "[1,] x".toList = .ok ⟨[], "[1,] x".toList⟩ := rfl
  have failed : Json.parse (dropTrailingCommas (trimBody "[1,] x".toList)) =
      .error ⟨.trailingCharacters, 5⟩ := rfl
  have commas : droppedCommas "[1,] x" = [2] := rfl
  refine ⟨rfl, fun n => ⟨?_, ?_⟩, ?_⟩
  · rintro ⟨cut', failed', mapped⟩
    cases cut.symm.trans cut'
    cases failed.symm.trans failed'
    rw [commas, List.countP_singleton] at mapped
    split at mapped
    · exact mapped
    · rename_i front
      have five : n = 5 := mapped
      exact absurd (five ▸ rfl) front
  · rintro rfl
    refine .stop cut failed ?_
    rw [commas]
    rfl
  · rw [bytesOf_eq]
    rfl

end TypeCatalog.Snapshot
