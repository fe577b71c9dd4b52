import TypeCatalog.Proofs.Fields
import TypeCatalog.Proofs.Json.Outside
import TypeCatalog.Proofs.Json.Readable

/-! # What the reader makes

A value that was read is normal and not too deep (`fits_of_parseWithin`): objects keep their keys
in order however they were written, integers fit their range because no more digits are kept, and
no more containers are opened than allowed.  The invariant `State.Fits` says this of all the parts
of values that the reader holds, each at the depth where it stands. -/

namespace TypeCatalog.Json

/-- The value is normal, and with `level` containers around it not too deep. -/
structure Fits (limit level : Nat) (v : Json) : Prop where
  normal : v.Normal
  depth : level + v.depth ≤ limit

theorem fits_of_scalar {limit level : Nat} {v : Json} (normal : v.Normal) (flat : v.depth = 0)
    (h : level ≤ limit) : v.Fits limit level :=
  ⟨normal, by omega⟩

theorem Fits.arr {limit level : Nat} {items : List Json} (room : level < limit)
    (h : ∀ v ∈ items, v.Fits limit (level + 1)) : (Json.arr items).Fits limit level where
  normal := normalItems_iff.mpr fun v hv => (h v hv).normal
  depth := by
    have inner : depthItems items ≤ limit - (level + 1) := by
      refine depthItems_le_iff.mpr fun v hv => ?_
      have := (h v hv).depth
      omega
    show level + (depthItems items + 1) ≤ limit
    omega

theorem Fits.obj {limit level : Nat} {fields : Fields Json} (room : level < limit)
    (normal : fields.Normal) (h : ∀ field ∈ fields, field.2.Fits limit (level + 1)) :
    (Json.obj fields).Fits limit level where
  normal := ⟨normal, normalFields_iff.mpr fun field hf => (h field hf).normal⟩
  depth := by
    have inner : depthFields fields ≤ limit - (level + 1) := by
      refine depthFields_le_iff.mpr fun field hf => ?_
      have := (h field hf).depth
      omega
    show level + (depthFields fields + 1) ≤ limit
    omega

/-! ### Numbers -/

namespace Numeral

theorem lt_of_digit? {c : Char} {d : Nat} (h : digit? c = some d) : d < significandBound := by
  unfold digit? at h
  split at h
  · rename_i digit
    have range : 48 ≤ c.toNat ∧ c.toNat ≤ 57 := Char.isDigit_iff_toNat.mp digit
    have zero : '0'.toNat = 48 := rfl
    have bound : 10 ≤ significandBound := by decide
    cases h
    omega
  · cases h

theorem significand_lt_of_keep? {n n' : Numeral} {d : Nat} (h : n.keep? d = some n') :
    n'.significand < significandBound := by
  unfold keep? at h
  split at h <;> cases h
  assumption

theorem significand_fractionDigit_lt {n : Numeral} (h : n.significand < significandBound)
    (d : Nat) : (n.fractionDigit d).significand < significandBound := by
  unfold fractionDigit
  split
  · rename_i kept
    have fits := significand_lt_of_keep? kept
    exact fits
  · exact h

theorem significand_of_afterWhole {n n' : Numeral} {c : Char} (h : n.afterWhole c = some n') :
    n'.significand = n.significand := by
  unfold afterWhole at h
  split at h
  · cases h
    rfl
  · split at h <;> cases h
    rfl

theorem significand_of_afterFraction {n n' : Numeral} {c : Char}
    (h : n.afterFraction c = some n') : n'.significand = n.significand := by
  unfold afterFraction at h
  split at h <;> cases h
  rfl

theorem significand_of_exponentDigit {n n' : Numeral} {negative : Bool} {value d : Nat}
    (h : n.exponentDigit negative value d = .ok n') : n'.significand = n.significand := by
  unfold exponentDigit at h
  split at h
  · cases h
    rfl
  · split at h <;> cases h
    rfl

theorem significand_lt_of_start? {c : Char} {n : Numeral} (h : start? c = some n) :
    n.significand < significandBound := by
  have bound : 0 < significandBound := by decide
  unfold start? at h
  split at h
  · cases h
    exact bound
  · split at h
    · cases h
      exact bound
    · obtain ⟨d, hd, rfl⟩ := Option.map_eq_some_iff.mp h
      exact lt_of_digit? hd

/-- The digits that are kept always fit. -/
theorem significand_lt_of_step {n n' : Numeral} {c : Char} (h : n.significand < significandBound)
    (hs : n.step c = .ok (some n')) : n'.significand < significandBound := by
  cases hd : digit? c with
  | none =>
      cases hp : n.phase with
      | sign | point | exponentSign | exponent | exponentExcess =>
          simp only [step, hp, hd] at hs
          cases hs
      | zero | whole | wholeExcess =>
          simp only [step, hp, hd, Except.ok.injEq] at hs
          rwa [significand_of_afterWhole hs]
      | fraction | fractionExcess =>
          simp only [step, hp, hd, Except.ok.injEq] at hs
          rwa [significand_of_afterFraction hs]
      | mark =>
          simp only [step, hp, hd] at hs
          split at hs
          · cases hs
            exact h
          · split at hs <;> cases hs
            exact h
  | some d =>
      cases hp : n.phase with
      | zero =>
          simp only [step, hp, hd] at hs
          cases hs
      | sign =>
          simp only [step, hp, hd] at hs
          cases hs
          exact lt_of_digit? hd
      | whole =>
          simp only [step, hp, hd] at hs
          split at hs
          · rename_i kept
            cases hs
            exact significand_lt_of_keep? kept
          · cases hs
            exact h
      | point | fraction =>
          simp only [step, hp, hd] at hs
          cases hs
          exact significand_fractionDigit_lt h d
      | wholeExcess | fractionExcess | mark | exponentSign | exponentExcess =>
          simp only [step, hp, hd] at hs
          cases hs
          exact h
      | exponent negative value =>
          simp only [step, hp, hd] at hs
          cases he : n.exponentDigit negative value d with
          | error cause =>
              rw [he] at hs
              cases hs
          | ok m =>
              rw [he] at hs
              cases hs
              rwa [significand_of_exponentDigit he]

/-- A number is normal and no container. -/
theorem normal_wholeValue {n : Numeral} (h : n.significand < significandBound) :
    n.wholeValue.Normal ∧ n.wholeValue.depth = 0 := by
  have below : minInt ≤ 0 := by decide
  have above : (0 : Int) < intBound := by decide
  unfold wholeValue
  split
  · split
    · rename_i fits
      exact ⟨⟨fits.2, by omega⟩, rfl⟩
    · exact ⟨trivial, rfl⟩
  · have fits : (n.significand : Int) < intBound := Int.ofNat_lt.mpr h
    exact ⟨⟨by omega, fits⟩, rfl⟩

theorem normal_of_scaledValue {n : Numeral} {e : Int} {v : Json} (h : n.scaledValue e = .ok v) :
    v.Normal ∧ v.depth = 0 := by
  unfold scaledValue at h
  cases hx : scaleBy n.significand.toUInt64.toFloat (n.scale + e) with
  | error cause =>
      rw [hx] at h
      cases h
  | ok x =>
      rw [hx] at h
      cases h
      exact ⟨trivial, rfl⟩

theorem normal_of_finish {n : Numeral} {v : Json} (h : n.significand < significandBound)
    (hf : n.finish = .ok v) : v.Normal ∧ v.depth = 0 := by
  unfold finish at hf
  split at hf
  case h_5 | h_6 =>
    cases hf
    exact normal_wholeValue h
  case h_7 | h_8 | h_9 | h_10 => exact normal_of_scaledValue hf
  case h_11 =>
    cases hf
    exact ⟨trivial, rfl⟩
  all_goals cases hf

end Numeral

namespace Reader

variable {limit : Nat}

/-! ### The invariant -/

/-- The elements or fields so far fit where they stand; the containers on the stack are around
them. -/
def Place.Fits (limit : Nat) (stack : List Frame) : Place → Prop
  | .whole v => v.Fits limit 0
  | .inList done => stack.length < limit ∧ ∀ v ∈ done, v.Fits limit (stack.length + 1)
  | .inObject done => stack.length < limit ∧ done.Normal ∧
      ∀ field ∈ done, field.2.Fits limit (stack.length + 1)

/-- Every open container fits where it stands. -/
def StackFits (limit : Nat) : List Frame → Prop
  | [] => True
  | .list done :: below => Place.Fits limit below (.inList done) ∧ StackFits limit below
  | .field done _ :: below => Place.Fits limit below (.inObject done) ∧ StackFits limit below

/-- What the reader holds besides the stack fits. -/
def Mode.Fits (limit : Nat) (stack : List Frame) : Mode → Prop
  | .value | .string _ => True
  | .listStart => Place.Fits limit stack (.inList [])
  | .listItem done => Place.Fits limit stack (.inList done)
  | .objectStart => Place.Fits limit stack (.inObject [])
  | .objectKey done | .key done _ | .colon done _ => Place.Fits limit stack (.inObject done)
  | .numeral n => n.significand < Numeral.significandBound
  | .word _ _ v => v.Normal ∧ v.depth = 0
  | .after place => place.Fits limit stack

/-- All that the reader holds is normal and not too deep. -/
structure State.Fits (limit : Nat) (s : State) : Prop where
  stack : StackFits limit s.stack
  mode : s.mode.Fits limit s.stack

theorem State.fits_start (limit : Nat) : State.Fits limit .start := ⟨trivial, trivial⟩

theorem StackFits.length_le {stack : List Frame} (h : StackFits limit stack) :
    stack.length ≤ limit := by
  cases stack with
  | nil => exact Nat.zero_le limit
  | cons frame below =>
      cases frame with
      | list | field => exact h.1.1

/-! ### One more character -/

/-- A complete value that fits is handed on. -/
theorem fits_behind {stack : List Frame} {v : Json} (hs : StackFits limit stack)
    (hv : v.Fits limit stack.length) : State.Fits limit (behind v stack) := by
  cases stack with
  | nil => exact ⟨trivial, hv⟩
  | cons frame below =>
      cases frame with
      | list done =>
          obtain ⟨⟨room, items⟩, hb⟩ := hs
          exact ⟨hb, room, List.forall_mem_cons.mpr ⟨hv, items⟩⟩
      | field done key =>
          obtain ⟨⟨room, normal, fields⟩, hb⟩ := hs
          refine ⟨hb, room, normal.insert, fun field hf => ?_⟩
          rcases Fields.mem_insert hf with rfl | hf
          · exact hv
          · exact fields field hf

theorem fits_behind_arr {stack : List Frame} {done : List Json} (hs : StackFits limit stack)
    (h : Place.Fits limit stack (.inList done)) :
    State.Fits limit (behind (.arr done.reverse) stack) :=
  fits_behind hs (.arr h.1 fun v hv => h.2 v (List.mem_reverse.mp hv))

theorem fits_behind_obj {stack : List Frame} {done : Fields Json} (hs : StackFits limit stack)
    (h : Place.Fits limit stack (.inObject done)) :
    State.Fits limit (behind (.obj done) stack) :=
  fits_behind hs (.obj h.1 h.2.1 h.2.2)

theorem fits_startValue {stack : List Frame} {c : Char} {s : State} (hs : StackFits limit stack)
    (h : startValue limit stack c = .ok s) : State.Fits limit s := by
  unfold startValue at h
  split at h
  · cases h
    exact ⟨hs, trivial⟩
  · split at h <;> cases h
    rename_i room
    exact ⟨hs, room, nofun⟩
  · split at h <;> cases h
    rename_i room
    exact ⟨hs, room, .nil, nofun⟩
  · cases h
    exact ⟨hs, trivial, rfl⟩
  · cases h
    exact ⟨hs, trivial, rfl⟩
  · cases h
    exact ⟨hs, trivial, rfl⟩
  · split at h <;> cases h
    rename_i first
    exact ⟨hs, Numeral.significand_lt_of_start? first⟩

theorem fits_stepAfter {place : Place} {stack : List Frame} {c : Char} {s : State}
    (hs : StackFits limit stack) (hp : place.Fits limit stack)
    (h : stepAfter place stack c = .ok s) : State.Fits limit s := by
  unfold stepAfter at h
  split at h
  · cases h
    exact ⟨hs, hp⟩
  · cases place with
    | whole => cases h
    | inList done =>
        dsimp only at h
        split at h
        · cases h
          exact ⟨hs, hp⟩
        · split at h <;> cases h
          exact fits_behind_arr hs hp
    | inObject done =>
        dsimp only at h
        split at h
        · cases h
          exact ⟨hs, hp⟩
        · split at h <;> cases h
          exact fits_behind_obj hs hp

/-- The reader takes one more character. -/
theorem State.Fits.step {s s' : State} {c : Char} (h : s.Fits limit)
    (hs : Reader.step limit s c = .ok s') : s'.Fits limit := by
  obtain ⟨mode, stack⟩ := s
  obtain ⟨hstack, hmode⟩ := h
  dsimp only at hstack hmode
  cases mode with
  | value =>
      simp only [Reader.step] at hs
      split at hs
      · cases hs
        exact ⟨hstack, trivial⟩
      · exact fits_startValue hstack hs
  | listStart =>
      simp only [Reader.step] at hs
      split at hs
      · cases hs
        exact ⟨hstack, hmode⟩
      · split at hs
        · cases hs
          exact fits_behind_arr hstack hmode
        · have inside : StackFits limit (.list [] :: stack) := ⟨hmode, hstack⟩
          exact fits_startValue inside hs
  | listItem done =>
      simp only [Reader.step] at hs
      split at hs
      · cases hs
        exact ⟨hstack, hmode⟩
      · split at hs
        · cases hs
        · have inside : StackFits limit (.list done :: stack) := ⟨hmode, hstack⟩
          exact fits_startValue inside hs
  | objectStart =>
      simp only [Reader.step] at hs
      split at hs
      · cases hs
        exact ⟨hstack, hmode⟩
      · split at hs
        · cases hs
          exact ⟨hstack, hmode⟩
        · split at hs <;> cases hs
          exact fits_behind_obj hstack hmode
  | objectKey done =>
      simp only [Reader.step] at hs
      split at hs
      · cases hs
        exact ⟨hstack, hmode⟩
      · split at hs
        · cases hs
          exact ⟨hstack, hmode⟩
        · split at hs <;> cases hs
  | colon done key =>
      simp only [Reader.step] at hs
      split at hs
      · cases hs
        exact ⟨hstack, hmode⟩
      · split at hs <;> cases hs
        exact ⟨⟨hmode, hstack⟩, trivial⟩
  | key done l =>
      cases hl : l.step c with
      | error r => simp [Reader.step, hl, Except.map] at hs
      | ok o =>
          simp only [Reader.step, hl, Except.map] at hs
          cases o <;> cases hs <;> exact ⟨hstack, hmode⟩
  | string l =>
      cases hl : l.step c with
      | error r => simp [Reader.step, hl, Except.map] at hs
      | ok o =>
          simp only [Reader.step, hl, Except.map] at hs
          cases o with
          | more l' =>
              cases hs
              exact ⟨hstack, trivial⟩
          | closed text =>
              cases hs
              exact fits_behind hstack (fits_of_scalar trivial rfl hstack.length_le)
  | numeral n =>
      simp only [Reader.step] at hs
      split at hs
      · cases hs
      · rename_i hn
        cases hs
        exact ⟨hstack, Numeral.significand_lt_of_step hmode hn⟩
      · split at hs
        · cases hs
        · -- the number ends here, and the character stands behind it
          rename_i v hv
          obtain ⟨normal, flat⟩ := Numeral.normal_of_finish hmode hv
          have before := fits_behind hstack (fits_of_scalar normal flat hstack.length_le)
          exact fits_stepAfter before.stack before.mode hs
  | word next rest v =>
      simp only [Reader.step] at hs
      split at hs
      · cases rest with
        | nil =>
            cases hs
            exact fits_behind hstack (fits_of_scalar hmode.1 hmode.2 hstack.length_le)
        | cons d rest =>
            cases hs
            exact ⟨hstack, hmode⟩
      · cases hs
  | after place => exact fits_stepAfter hstack hmode hs

/-! ### To the end of the text -/

theorem State.Fits.passes {s t : State} {text : List Char} (h : s.Fits limit)
    (hp : Passes limit s text t) : t.Fits limit := by
  induction hp with
  | nil s => exact h
  | cons hs _ ih => exact ih (h.step hs)

theorem fits_of_finishAfter {place : Place} {stack : List Frame} {v : Json}
    (h : place.Fits limit stack) (hf : finishAfter place = .ok v) : v.Fits limit 0 := by
  cases place with
  | whole =>
      cases hf
      exact h
  | inList | inObject => cases hf

theorem State.Fits.finish {s : State} {v : Json} (h : s.Fits limit)
    (hf : Reader.finish s = .ok v) : v.Fits limit 0 := by
  obtain ⟨mode, stack⟩ := s
  obtain ⟨hstack, hmode⟩ := h
  dsimp only at hstack hmode
  cases mode with
  | value | listStart | listItem | objectStart | objectKey | key | colon | string | word =>
      cases hf
  | after place => exact fits_of_finishAfter hmode hf
  | numeral n =>
      simp only [Reader.finish] at hf
      split at hf
      · cases hf
      · rename_i w hw
        obtain ⟨normal, flat⟩ := Numeral.normal_of_finish hmode hw
        have before := fits_behind hstack (fits_of_scalar normal flat hstack.length_le)
        exact fits_of_finishAfter before.mode hf

/-- **A value that was read is normal and not too deep.** -/
theorem fits_of_parseWithin {text : List Char} {v : Json} (h : parseWithin limit text = .ok v) :
    v.Normal ∧ v.depth ≤ limit := by
  obtain ⟨s, hp, hf⟩ := parseWithin_eq_ok_iff.mp h
  have fits : v.Fits limit 0 := ((State.fits_start limit).passes hp).finish hf
  exact ⟨fits.normal, by simpa using fits.depth⟩

end Reader
end TypeCatalog.Json
