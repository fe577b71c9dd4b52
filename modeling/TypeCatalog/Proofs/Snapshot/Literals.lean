import Mathlib.Order.Fin.Basic
import Mathlib.Order.Hom.Basic
import TypeCatalog.Proofs.Snapshot.Scan

/-! # String literals and dropped commas

Dropping the trailing commas leaves every string literal of a text alone, whether or not the text
is JSON.  The positions of the characters that are kept (`keptPositions`) are those without a
trailing comma (`mem_keptPositions_iff`), and each character stands in what is left where it stood
in the text (`map_getElem?_keptPositions`); so the literals are the same
(`literalsFrom_dropTrailingCommasFrom`). -/

namespace TypeCatalog.Snapshot

/-! ### Characters and literals of a text -/

/-- The characters of a text, each with where it stands. -/
def scanned (scan : Scan) : List Char → List (Char × Scan)
  | [] => []
  | c :: cs => (c, scan) :: scanned (scan.next c) cs

/-- Where the character at a position of a text stands. -/
def scanAt (text : List Char) (i : Nat) : Scan := Scan.behind .outside (text.take i)

/-- The string literals of a text with their quotes, from a place on.  If the place is in a
literal, the first one is the rest of it; if the last one is not closed, it ends with the text. -/
def literalsFrom (scan : Scan) : List Char → List (List Char)
  | [] => if scan = .outside then [] else [[]]
  | c :: cs =>
    let later := literalsFrom (scan.next c) cs
    if scan = .outside ∧ c ≠ '"' then later
    else if scan.next c = .outside then [c] :: later
    else later.modifyHead (c :: ·)

/-- The string literals of a text with their quotes. -/
def literals (text : List Char) : List (List Char) := literalsFrom .outside text

/-- The first character behind a position of a text that is no blank. -/
def nextMark? (text : List Char) (i : Nat) : Option Char :=
  (Text.trimStart (text.drop (i + 1))).head?

/-- Outside string literals a comma stands at a position, and the next character that is no blank
closes a list or an object. -/
def HasTrailingComma (text : List Char) (i : Nat) : Prop :=
  text[i]? = some ',' ∧ scanAt text i = .outside ∧
    (nextMark? text i = some '}' ∨ nextMark? text i = some ']')

theorem length_scanned (scan : Scan) (text : List Char) :
    (scanned scan text).length = text.length := by
  induction text generalizing scan with
  | nil => rfl
  | cons c cs ih => rw [scanned, List.length_cons, ih, List.length_cons]

theorem getElem?_scanned (scan : Scan) (text : List Char) (i : Nat) :
    (scanned scan text)[i]? = text[i]?.map fun c => (c, scan.behind (text.take i)) := by
  induction text generalizing scan i with
  | nil => rfl
  | cons c cs ih =>
      cases i with
      | zero => rfl
      | succ i => simpa [scanned] using ih (scan.next c) i

theorem closesNext_eq_true_iff (text : List Char) :
    closesNext text = true ↔
      (Text.trimStart text).head? = some '}' ∨ (Text.trimStart text).head? = some ']' := by
  rw [closesNext]
  split <;> simp [*]

/-! ### What is kept -/

/-- The positions of the characters of a text that are kept, from a place on. -/
def keptPositions (scan : Scan) : List Char → List Nat
  | [] => []
  | c :: cs =>
    let later := (keptPositions (scan.next c) cs).map (· + 1)
    if isTrailingComma scan c cs then later else 0 :: later

theorem keptPositions_ascending (scan : Scan) (text : List Char) :
    (keptPositions scan text).Pairwise (· < ·) := by
  induction text generalizing scan with
  | nil => exact .nil
  | cons c cs ih =>
      have later : ((keptPositions (scan.next c) cs).map (· + 1)).Pairwise (· < ·) :=
        (ih _).map _ fun _ _ => Nat.succ_lt_succ
      rw [keptPositions]
      split
      · exact later
      · exact later.cons fun _ hi => by
          obtain ⟨i, -, rfl⟩ := List.mem_map.mp hi
          exact Nat.succ_pos i

theorem mem_keptPositions_iff {scan : Scan} {text : List Char} {i : Nat} :
    i ∈ keptPositions scan text ↔ ∃ c, text[i]? = some c ∧
      isTrailingComma (scan.behind (text.take i)) c (text.drop (i + 1)) = false := by
  induction text generalizing scan i with
  | nil => simp [keptPositions]
  | cons c cs ih =>
      cases i with
      | zero => cases hc : isTrailingComma scan c cs <;> simp [keptPositions, hc]
      | succ i => cases hc : isTrailingComma scan c cs <;> simp [keptPositions, hc, ih]

/-- What is left are the characters at the kept positions, and they stand where they stood. -/
theorem map_getElem?_keptPositions (scan : Scan) (text : List Char) :
    (keptPositions scan text).map ((scanned scan text)[·]?) =
      (scanned scan (dropTrailingCommasFrom scan text)).map some := by
  induction text generalizing scan with
  | nil => rfl
  | cons c cs ih =>
      have later : ((keptPositions (scan.next c) cs).map (· + 1)).map
          ((scanned scan (c :: cs))[·]?) =
            (scanned (scan.next c) (dropTrailingCommasFrom (scan.next c) cs)).map some := by
        rw [← ih, List.map_map]
        rfl
      cases hc : isTrailingComma scan c cs with
      | true =>
          -- a comma outside strings does not move the scan
          obtain ⟨rfl, rfl, -⟩ := isTrailingComma_iff.mp hc
          rw [keptPositions, dropTrailingCommasFrom, hc, if_pos rfl, if_pos rfl]
          exact later
      | false =>
          rw [dropTrailingCommasFrom_cons hc, keptPositions, hc, if_neg Bool.false_ne_true,
            List.map_cons, later]
          rfl

theorem literalsFrom_dropTrailingCommasFrom (scan : Scan) (text : List Char) :
    literalsFrom scan (dropTrailingCommasFrom scan text) = literalsFrom scan text := by
  induction text generalizing scan with
  | nil => rfl
  | cons c cs ih =>
      cases hc : isTrailingComma scan c cs with
      | true =>
          obtain ⟨rfl, rfl, -⟩ := isTrailingComma_iff.mp hc
          rw [dropTrailingCommasFrom, hc, if_pos rfl, ih]
          rfl
      | false => rw [dropTrailingCommasFrom_cons hc, literalsFrom, ih, literalsFrom]

/-! ### Whole texts -/

theorem exists_char_of_keptPositions {text : List Char} {j p : Nat}
    (h : (keptPositions .outside text)[j]? = some p) :
    ∃ c, (dropTrailingCommas text)[j]? = some c ∧ text[p]? = some c ∧
      scanAt (dropTrailingCommas text) j = scanAt text p := by
  have same := congrArg (·[j]?) (map_getElem?_keptPositions .outside text)
  simp only [List.getElem?_map, h, Option.map_some, getElem?_scanned] at same
  rw [← dropTrailingCommas] at same
  cases hj : (dropTrailingCommas text)[j]? with
  | none =>
      rw [hj] at same
      cases same
  | some c =>
      rw [hj] at same
      obtain ⟨d, hd, pair⟩ := Option.map_eq_some_iff.mp (Option.some.inj same)
      obtain ⟨rfl, stands⟩ := Prod.mk.inj pair
      exact ⟨d, rfl, hd, stands.symm⟩

theorem length_keptPositions (text : List Char) :
    (keptPositions .outside text).length = (dropTrailingCommas text).length := by
  have same := congrArg List.length (map_getElem?_keptPositions .outside text)
  rwa [List.length_map, List.length_map, length_scanned] at same

/-- The kept positions place what is left in the text. -/
theorem exists_place (text : List Char) :
    ∃ place : Fin (dropTrailingCommas text).length ↪o Fin text.length,
      ∀ j : Fin _, (keptPositions .outside text)[j.val]? = some (place j).val := by
  have size := length_keptPositions text
  have kept (j : Fin (dropTrailingCommas text).length) :
      ∃ p : Fin text.length, (keptPositions .outside text)[j.val]? = some p.val := by
    have hj : j < (keptPositions .outside text).length := j.isLt.trans_eq size.symm
    have hp := List.getElem?_eq_getElem hj
    obtain ⟨c, -, hc, -⟩ := exists_char_of_keptPositions hp
    exact ⟨⟨_, (List.getElem?_eq_some_iff.mp hc).1⟩, hp⟩
  choose place hplace using kept
  refine ⟨.ofStrictMono place fun j k hjk => ?_, hplace⟩
  obtain ⟨hj, ej⟩ := List.getElem?_eq_some_iff.mp (hplace j)
  obtain ⟨hk, ek⟩ := List.getElem?_eq_some_iff.mp (hplace k)
  rw [Fin.lt_def, ← ej, ← ek]
  exact List.pairwise_iff_getElem.mp (keptPositions_ascending .outside text) _ _ hj hk hjk

theorem mem_keptPositions_iff_not {text : List Char} {i : Nat} (hi : i < text.length) :
    i ∈ keptPositions .outside text ↔ ¬ HasTrailingComma text i := by
  rw [mem_keptPositions_iff, HasTrailingComma, nextMark?, ← closesNext_eq_true_iff,
    List.getElem?_eq_getElem hi]
  simp only [Option.some.injEq, exists_eq_left', ← Bool.not_eq_true, isTrailingComma_iff, scanAt]
  tauto

/-- **Dropping commas leaves string literals alone.**  What is left of any text are its characters
at ascending positions, which are all but those with a trailing comma; each of them stands in a
literal, behind a backslash, or outside as it did before, and the literals are the same. -/
theorem dropTrailingCommas_keeps_literals (text : List Char) :
    (∃ place : Fin (dropTrailingCommas text).length ↪o Fin text.length,
      (∀ j : Fin _, (dropTrailingCommas text)[j] = text[place j]) ∧
      (∀ j : Fin _, scanAt (dropTrailingCommas text) j = scanAt text (place j)) ∧
      ∀ i : Fin _, i ∉ Set.range place ↔ HasTrailingComma text i) ∧
    literals (dropTrailingCommas text) = literals text := by
  obtain ⟨place, hplace⟩ := exists_place text
  have same (j : Fin (dropTrailingCommas text).length) :
      (dropTrailingCommas text)[j] = text[place j] ∧
        scanAt (dropTrailingCommas text) j = scanAt text (place j) := by
    obtain ⟨c, hl, ht, stands⟩ := exists_char_of_keptPositions (hplace j)
    obtain ⟨_, el⟩ := List.getElem?_eq_some_iff.mp hl
    obtain ⟨_, et⟩ := List.getElem?_eq_some_iff.mp ht
    exact ⟨el.trans et.symm, stands⟩
  have range (i : Fin text.length) :
      i ∈ Set.range place ↔ i.val ∈ keptPositions .outside text := by
    constructor
    · rintro ⟨j, rfl⟩
      exact List.mem_of_getElem? (hplace j)
    · intro hi
      obtain ⟨j, hj, ej⟩ := List.getElem_of_mem hi
      rw [length_keptPositions] at hj
      refine ⟨⟨j, hj⟩, Fin.ext ?_⟩
      obtain ⟨_, ep⟩ := List.getElem?_eq_some_iff.mp (hplace ⟨j, hj⟩)
      exact ep.symm.trans ej
  refine ⟨⟨place, fun j => (same j).1, fun j => (same j).2, fun i => ?_⟩,
    literalsFrom_dropTrailingCommasFrom .outside text⟩
  rw [range, mem_keptPositions_iff_not i.isLt, not_not]

/-- A quote behind a backslash does not end a literal, and the last literal here has no end. -/
example : literals "[\"a,\\\"]\",] \"b,]".toList = ["\"a,\\\"]\"".toList, "\"b,]".toList] := rfl

end TypeCatalog.Snapshot
