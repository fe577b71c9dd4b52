import TypeCatalog.Proofs.Json.Settled
import TypeCatalog.Proofs.Snapshot.Loosened

/-! # What the reader has read

If the reader takes what is left of a text without its trailing commas, then the text is a JSON
text with commas put in, and what is left is this JSON text (`loosened_of_parseWithin`).  The
induction is on the text, one character at a time; its invariant is `Reading`, which says for each
mode of the reader what was read before: the complete parts on both sides, container by container
from the outside, and then what there is of a string, a number or a word. -/

namespace TypeCatalog.Snapshot

open Json Json.Reader

variable {limit : Nat} {bare : Prop}

/-! ### Places in a text -/

/-- A place between the parts of a text, with the containers that are open around it. -/
inductive Spot where
  /-- In front of a value. -/
  | value (stack : List Frame)
  /-- Behind the opening bracket of a container. -/
  | opened (k : Container) (stack : List Frame)
  /-- Behind an entry of a container. -/
  | filled (k : Container) (stack : List Frame)
  /-- Behind a comma in a container. -/
  | next (k : Container) (stack : List Frame)
  /-- In front of an entry of a container. -/
  | entry (k : Container) (stack : List Frame)
  /-- Behind a key. -/
  | named (stack : List Frame)
  /-- Behind the value that is the whole text. -/
  | done

/-- The first text leads to the place, and the second is the same with commas put in before
closing brackets. -/
inductive Reaches (bare : Prop) : Spot → List Char → List Char → Prop
  | whole {gap : List Char} : Gap gap → Reaches bare (.value []) gap gap
  | opened {k : Container} {stack : List Frame} {a b gap : List Char} :
      Reaches bare (.value stack) a b → Gap gap →
      Reaches bare (.opened k stack) (a ++ k.opening :: gap) (b ++ k.opening :: gap)
  | filled {k : Container} {stack : List Frame} {a b s t gap : List Char} :
      Reaches bare (.value stack) a b → Loosened bare (.entries k) s t → Gap gap →
      Reaches bare (.filled k stack) (a ++ k.opening :: (s ++ gap)) (b ++ k.opening :: (t ++ gap))
  | next {k : Container} {stack : List Frame} {a b gap : List Char} :
      Reaches bare (.filled k stack) a b → Gap gap →
      Reaches bare (.next k stack) (a ++ ',' :: gap) (b ++ ',' :: gap)
  | first {k : Container} {stack : List Frame} {a b : List Char} :
      Reaches bare (.opened k stack) a b → Reaches bare (.entry k stack) a b
  | further {k : Container} {stack : List Frame} {a b : List Char} :
      Reaches bare (.next k stack) a b → Reaches bare (.entry k stack) a b
  | element {done : List Json} {stack : List Frame} {a b : List Char} :
      Reaches bare (.entry .list stack) a b → Reaches bare (.value (.list done :: stack)) a b
  | named {stack : List Frame} {a b key gap : List Char} :
      Reaches bare (.entry .object stack) a b → IsQuoted key → Gap gap →
      Reaches bare (.named stack) (a ++ (key ++ gap)) (b ++ (key ++ gap))
  | member {done : Fields Json} {key : String} {stack : List Frame} {a b gap : List Char} :
      Reaches bare (.named stack) a b → Gap gap →
      Reaches bare (.value (.field done key :: stack)) (a ++ ':' :: gap) (b ++ ':' :: gap)
  | done {s t : List Char} : Loosened bare .text s t → Reaches bare .done s t

namespace Reaches

variable {k : Container} {stack : List Frame} {a b : List Char}

theorem blank {spot : Spot} {c : Char} (h : Reaches bare spot a b)
    (hc : Reader.isBlank c = true) : Reaches bare spot (a ++ [c]) (b ++ [c]) := by
  induction h with
  | whole hg => exact .whole (hg.concat hc)
  | opened hv hg _ => simpa using Reaches.opened hv (hg.concat hc)
  | filled hv he hg _ => simpa using Reaches.filled hv he (hg.concat hc)
  | next hf hg _ => simpa using Reaches.next hf (hg.concat hc)
  | first _ ih => exact .first ih
  | further _ ih => exact .further ih
  | element _ ih => exact .element ih
  | named he hq hg _ => simpa using Reaches.named he hq (hg.concat hc)
  | member hn hg _ => simpa using Reaches.member hn (hg.concat hc)
  | done ht =>
      cases ht with
      | text hf hv hb => simpa using Reaches.done (.text hf hv (hb.concat hc))

/-- A complete entry stands behind those before it. -/
theorem filled_of_entry {s t : List Char} (h : Reaches bare (.entry k stack) a b)
    (he : Loosened bare (.entry k) s t) : Reaches bare (.filled k stack) (a ++ s) (b ++ t) := by
  cases h with
  | first h =>
      cases h with
      | opened hv hg => simpa using Reaches.filled hv (.one (he.behind_gap hg)) .nil
  | further h =>
      cases h with
      | next h hg =>
          cases h with
          | filled hv hs hg' => simpa using Reaches.filled hv (.more hs hg' (he.behind_gap hg)) .nil

theorem value_of_opened {e e' : List Char} (h : Reaches bare (.opened k stack) a b)
    (he : Ending bare e e') : ∃ a₀ b₀ s t, Reaches bare (.value stack) a₀ b₀ ∧
      Loosened bare .value s t ∧ a ++ (e ++ [k.closing]) = a₀ ++ s ∧
      b ++ (e' ++ [k.closing]) = b₀ ++ t := by
  cases h with
  | opened hv hg => exact ⟨_, _, _, _, hv, .empty (k := k) (he.behind_gap hg), by simp, by simp⟩

theorem value_of_filled {e e' : List Char} (h : Reaches bare (.filled k stack) a b)
    (he : Ending True e e') : ∃ a₀ b₀ s t, Reaches bare (.value stack) a₀ b₀ ∧
      Loosened bare .value s t ∧ a ++ (e ++ [k.closing]) = a₀ ++ s ∧
      b ++ (e' ++ [k.closing]) = b₀ ++ t := by
  cases h with
  | filled hv hs hg => exact ⟨_, _, _, _, hv, .full hs (he.behind_gap hg), by simp, by simp⟩

end Reaches

/-! ### The text read -/

/-- Where the reader is if it is between the parts of a text. -/
def spot? (s : Reader.State) : Option Spot :=
  match s.mode with
  | .value => some (.value s.stack)
  | .listStart => some (.opened .list s.stack)
  | .listItem _ => some (.next .list s.stack)
  | .objectStart => some (.opened .object s.stack)
  | .objectKey _ => some (.next .object s.stack)
  | .colon .. => some (.named s.stack)
  | .after (.whole _) => some .done
  | .after (.inList _) => some (.filled .list s.stack)
  | .after (.inObject _) => some (.filled .object s.stack)
  | .key .. | .string _ | .numeral _ | .word .. => none

theorem skipsBlanks_of_spot? {s : Reader.State} {spot : Spot} (h : spot? s = some spot) :
    SkipsBlanks s.mode := by
  obtain ⟨mode, stack⟩ := s
  cases mode with
  | key | string | numeral | word => cases h
  | value | listStart | listItem | objectStart | objectKey | colon | after => trivial

/-- Behind a complete value the reader is behind an entry or at the end of the text. -/
theorem Reaches.exists_behind {stack : List Frame} {a b part part' : List Char}
    (h : Reaches bare (.value stack) a b) (hv : Loosened bare .value part part') (v : Json) :
    ∃ spot, spot? (behind v stack) = some spot ∧ Reaches bare spot (a ++ part) (b ++ part') := by
  cases h with
  | whole hg =>
      have text := Loosened.text hg hv .nil
      rw [List.append_nil, List.append_nil] at text
      exact ⟨_, rfl, .done text⟩
  | element he => exact ⟨_, rfl, he.filled_of_entry (.element .nil hv)⟩
  | @member _ _ stack _ _ _ hn hg =>
      cases hn with
      | named he hq hg' =>
          have filled := he.filled_of_entry (.member .nil hq hg' hg hv)
          refine ⟨.filled .object stack, rfl, ?_⟩
          simpa using filled

theorem closed_of_step {s s' : Reader.State} {c : Char} (hb : SkipsBlanks s.mode)
    (hc : c = '}' ∨ c = ']') (hs : Reader.step limit s c = .ok s') :
    ∃ (k : Container) (v : Json) (stack : List Frame), c = k.closing ∧ s' = Reader.behind v stack ∧
      (spot? s = some (.opened k stack) ∨ spot? s = some (.filled k stack)) := by
  obtain ⟨mode, stack⟩ := s
  cases mode with
  | key | string | numeral | word => exact hb.elim
  | value | colon | listItem | objectKey => rcases hc with rfl | rfl <;> cases hs
  | listStart =>
      rcases hc with rfl | rfl <;> cases hs
      exact ⟨.list, _, _, rfl, rfl, .inl rfl⟩
  | objectStart =>
      rcases hc with rfl | rfl <;> cases hs
      exact ⟨.object, _, _, rfl, rfl, .inl rfl⟩
  | after place =>
      cases place <;> rcases hc with rfl | rfl <;> cases hs
      · exact ⟨.list, _, _, rfl, rfl, .inr rfl⟩
      · exact ⟨.object, _, _, rfl, rfl, .inr rfl⟩

/-- The first text takes the reader to the state, and the second is the same with commas put in
before closing brackets. -/
inductive Reading (bare : Prop) : Reader.State → List Char → List Char → Prop
  | between {s : Reader.State} {spot : Spot} {a b : List Char} : spot? s = some spot →
      Reaches bare spot a b → Reading bare s a b
  | key {done : Fields Json} {l : StringLiteral} {stack : List Frame} {a b text : List Char} :
      Reaches bare (.entry .object stack) a b → l.Spelled text →
      Reading bare ⟨.key done l, stack⟩ (a ++ '"' :: text) (b ++ '"' :: text)
  | string {l : StringLiteral} {stack : List Frame} {a b text : List Char} :
      Reaches bare (.value stack) a b → l.Spelled text →
      Reading bare ⟨.string l, stack⟩ (a ++ '"' :: text) (b ++ '"' :: text)
  | numeral {n : Numeral} {stack : List Frame} {a b text : List Char} :
      Reaches bare (.value stack) a b → n.Spelled text →
      Reading bare ⟨.numeral n, stack⟩ (a ++ text) (b ++ text)
  | word {next : Char} {rest : List Char} {v : Json} {stack : List Frame} {a b text : List Char} :
      Reaches bare (.value stack) a b → text ++ next :: rest ∈ words →
      Reading bare ⟨.word next rest v, stack⟩ (a ++ text) (b ++ text)

namespace Reading

variable {s s' : Reader.State} {stack : List Frame} {a b : List Char} {c : Char}

theorem start (bare : Prop) : Reading bare .start [] [] := .between rfl (.whole .nil)

theorem behind {part part' : List Char} (h : Reaches bare (.value stack) a b)
    (hv : Loosened bare .value part part') (v : Json) :
    Reading bare (Reader.behind v stack) (a ++ part) (b ++ part') := by
  obtain ⟨spot, hs, hr⟩ := h.exists_behind hv v
  exact .between hs hr

theorem exists_spot_of_settles {t : Reader.State} (h : Reading bare s a b) (ht : Settles s t) :
    ∃ spot, spot? t = some spot ∧ Reaches bare spot a b := by
  cases ht with
  | same hb =>
      cases h with
      | key | string | numeral | word => exact hb.elim
      | between hspot hr => exact ⟨_, hspot, hr⟩
  | @completed v stack hc =>
      cases hc with
      | behind =>
          generalize hs : Reader.behind v stack = s at h
          cases h with
          | key | string | numeral | word => cases hs
          | between hspot hr => exact ⟨_, hspot, hr⟩
      | numeral _ finished =>
          cases h with
          | between hspot _ => cases hspot
          | numeral hr hn => exact hr.exists_behind (.scalar (.number hn finished)) v

/-! ### One more character -/

theorem startValue (h : Reaches bare (.value stack) a b)
    (hs : Reader.startValue limit stack c = .ok s) : Reading bare s (a ++ [c]) (b ++ [c]) := by
  unfold Reader.startValue at hs
  split at hs
  · cases hs
    exact .string h .start
  · split at hs <;> cases hs
    exact .between rfl (.opened (k := .list) h .nil)
  · split at hs <;> cases hs
    exact .between rfl (.opened (k := .object) h .nil)
  · cases hs
    exact .word h (by decide)
  · cases hs
    exact .word h (by decide)
  · cases hs
    exact .word h (by decide)
  · split at hs
    · rename_i hn
      cases hs
      exact .numeral h (.first hn)
    · cases hs

theorem close {e e' : List Char} (h : Reading bare s a b) (hb : SkipsBlanks s.mode)
    (hc : c = '}' ∨ c = ']') (he : Ending bare e e') (hs : Reader.step limit s c = .ok s') :
    Reading bare s' (a ++ (e ++ [c])) (b ++ (e' ++ [c])) := by
  obtain ⟨k, v, stack, rfl, rfl, place⟩ := closed_of_step hb hc hs
  cases h with
  | key | string | numeral | word => exact hb.elim
  | between hspot hr =>
      have value : ∃ a₀ b₀ s t, Reaches bare (.value stack) a₀ b₀ ∧ Loosened bare .value s t ∧
          a ++ (e ++ [k.closing]) = a₀ ++ s ∧ b ++ (e' ++ [k.closing]) = b₀ ++ t := by
        rcases place with place | place <;> rw [place] at hspot <;> cases hspot
        · exact hr.value_of_opened he
        · exact hr.value_of_filled he.mono
      obtain ⟨a₀, b₀, part, part', before, hv, strict, loose⟩ := value
      rw [strict, loose]
      exact behind before hv v

theorem step_between {spot : Spot} (hspot : spot? s = some spot) (hr : Reaches bare spot a b)
    (hs : Reader.step limit s c = .ok s') : Reading bare s' (a ++ [c]) (b ++ [c]) := by
  have skips : SkipsBlanks s.mode := skipsBlanks_of_spot? hspot
  by_cases hb : Reader.isBlank c = true
  · rw [step_blank skips hb] at hs
    cases hs
    exact .between hspot (hr.blank hb)
  by_cases hc : c = '}' ∨ c = ']'
  · exact close (.between hspot hr) skips hc (.plain .nil) hs
  rw [not_or] at hc
  obtain ⟨mode, stack⟩ := s
  cases mode with
  | key | string | numeral | word => cases hspot
  | value =>
      cases hspot
      simp only [Reader.step, if_neg hb] at hs
      exact startValue hr hs
  | listStart =>
      cases hspot
      simp only [Reader.step, if_neg hb, if_neg hc.2] at hs
      exact startValue (.element (.first hr)) hs
  | listItem =>
      cases hspot
      simp only [Reader.step, if_neg hb, if_neg hc.2] at hs
      exact startValue (.element (.further hr)) hs
  | objectStart =>
      cases hspot
      simp only [Reader.step, if_neg hb, if_neg hc.1] at hs
      split at hs <;> cases hs
      subst c
      exact .key (.first hr) .start
  | objectKey =>
      cases hspot
      simp only [Reader.step, if_neg hb, if_neg hc.1] at hs
      split at hs <;> cases hs
      subst c
      exact .key (.further hr) .start
  | colon =>
      cases hspot
      simp only [Reader.step, if_neg hb] at hs
      split at hs <;> cases hs
      subst c
      exact .between rfl (.member hr .nil)
  | after place =>
      cases place with
      | whole =>
          simp only [Reader.step, stepAfter, if_neg hb] at hs
          cases hs
      | inList =>
          cases hspot
          simp only [Reader.step, stepAfter, if_neg hb, if_neg hc.2] at hs
          split at hs <;> cases hs
          subst c
          exact .between rfl (.next hr .nil)
      | inObject =>
          cases hspot
          simp only [Reader.step, stepAfter, if_neg hb, if_neg hc.1] at hs
          split at hs <;> cases hs
          subst c
          exact .between rfl (.next hr .nil)

theorem step (h : Reading bare s a b) (hs : Reader.step limit s c = .ok s') :
    Reading bare s' (a ++ [c]) (b ++ [c]) := by
  cases h with
  | between hspot hr => exact step_between hspot hr hs
  | @key done l stack a b text hr hl =>
      cases hl' : l.step c with
      | error r => simp [Reader.step, hl', Except.map] at hs
      | ok o =>
          simp only [Reader.step, hl', Except.map] at hs
          cases o with
          | more l' =>
              cases hs
              simpa using Reading.key hr (hl.next hl')
          | closed name =>
              cases hs
              have named := hr.named (.quoted hl hl') .nil
              have here : spot? ⟨.colon done name, stack⟩ = some (.named stack) := rfl
              exact .between here (by simpa using named)
  | @string l stack a b text hr hl =>
      cases hl' : l.step c with
      | error r => simp [Reader.step, hl', Except.map] at hs
      | ok o =>
          simp only [Reader.step, hl', Except.map] at hs
          cases o with
          | more l' =>
              cases hs
              simpa using Reading.string hr (hl.next hl')
          | closed content =>
              cases hs
              simpa using behind hr (.scalar (.string (.quoted hl hl'))) (.str content)
  | @numeral n stack a b text hr hn =>
      rcases step_numeral_cases hs with ⟨n', hn', rfl⟩ | ⟨place, stack', ha⟩
      · simpa using Reading.numeral hr (hn.next hn')
      · -- the number ends here, and the character stands behind it
        have follows : Follows c := follows_of_stepAfter ha
        obtain ⟨t, ht⟩ := exists_settles (s := ⟨.numeral n, stack⟩) trivial follows hs
        obtain ⟨spot, hspot, hr'⟩ := exists_spot_of_settles (.numeral hr hn) ht
        exact step_between hspot hr' ((ht.step_eq follows).symm.trans hs)
  | @word next rest v stack a b text hr hw =>
      simp only [Reader.step] at hs
      split at hs
      · subst c
        cases rest with
        | nil =>
            cases hs
            simpa using behind hr (.scalar (.word hw)) v
        | cons d rest =>
            cases hs
            have word : text ++ [next] ++ d :: rest ∈ words := by simpa using hw
            simpa using Reading.word (v := v) hr word
      · cases hs

/-! ### To the end of the text -/

theorem exists_of_dropped {gap rest : List Char} {u : Reader.State} (h : Reading bare s a b)
    (allowed : bare) (ho : Outside s.mode) (hg : Gap gap) (hc : c = '}' ∨ c = ']')
    (hp : Passes limit s (gap ++ c :: rest) u) : ∃ s', Outside s'.mode ∧
      Passes limit s' rest u ∧ Reading bare s' (a ++ (gap ++ [c])) (b ++ ',' :: (gap ++ [c])) := by
  have follows : Follows c := follows_of_closing hc
  obtain ⟨t, ht⟩ := exists_settles_of_passes ho hg follows hp
  obtain ⟨spot, hspot, hr⟩ := h.exists_spot_of_settles ht
  have end_ : Ending bare gap (',' :: gap) := by
    simpa using Ending.comma allowed .nil hg .nil .nil
  cases (ht.passes_gap_iff hg follows).mp hp with
  | @cons _ s' _ _ _ hs hrest =>
      refine ⟨s', ?_, hrest, ?_⟩
      · obtain ⟨k, v, stack, -, rfl, -⟩ := closed_of_step ht.skipsBlanks hc hs
        trivial
      · simpa using close (.between hspot hr) ht.skipsBlanks hc end_ hs

/-- What the reader takes of a text without its trailing commas, it takes of a text with commas
put in; if there are no such commas, then of the text itself. -/
theorem of_passes {scan : Scan} {text : List Char} {u : Reader.State} {v : Json}
    (h : Reading bare s a b) (ha : Agrees scan s)
    (hb : bare ∨ dropTrailingCommasFrom scan text = text)
    (hp : Passes limit s (dropTrailingCommasFrom scan text) u) (hf : finish u = .ok v) :
    Reading bare u (a ++ dropTrailingCommasFrom scan text) (b ++ text) := by
  -- on the length of the text: a dropped comma goes together with the closing bracket behind it
  induction hn : text.length using Nat.strongRecOn generalizing scan s a b text with
  | ind n ih =>
      cases text with
      | nil =>
          cases hp
          simpa [dropTrailingCommasFrom] using h
      | cons c cs =>
          cases hc : isTrailingComma scan c cs with
          | false =>
              rw [dropTrailingCommasFrom_cons hc] at hb hp ⊢
              cases hp with
              | cons hs hr =>
                  have read := ih cs.length (by simp [← hn]) (h.step hs) (ha.step hs)
                    (hb.imp id List.tail_eq_of_cons_eq) hr rfl
                  simpa using read
          | true =>
              obtain ⟨rfl, rfl, closes⟩ := isTrailingComma_iff.mp hc
              obtain ⟨gap, d, rest, rfl, hg, hd⟩ := closesNext_iff.mp closes
              rw [dropTrailingCommasFrom_comma hg hd] at hb hp ⊢
              have allowed : bare := hb.resolve_right dropTrailingCommasFrom_ne
              have ho : Outside s.mode := ha.mode_outside hp hf
              obtain ⟨s', ho', hr, h'⟩ :=
                h.exists_of_dropped allowed ho (forall_isBlank_of_passes ho hg hp) hd hp
              have length : rest.length < n := by
                simp only [← hn, List.length_cons, List.length_append]
                omega
              have read := ih rest.length length h' (.outside ho') (.inl allowed) hr rfl
              simpa using read

/-- At the end of the text the reader has read a whole JSON text. -/
theorem text_of_finish {v : Json} (h : Reading bare s a b) (hf : finish s = .ok v) :
    Loosened bare .text a b := by
  have settled {s : Reader.State} {spot : Spot} (hspot : spot? s = some spot)
      (hr : Reaches bare spot a b) (hf : finish s = .ok v) : Loosened bare .text a b := by
    obtain ⟨mode, stack⟩ := s
    cases mode with
    | key | string | numeral | word => cases hspot
    | value | listStart | listItem | objectStart | objectKey | colon => cases hf
    | after place =>
        cases place with
        | inList | inObject => cases hf
        | whole =>
            cases hspot
            cases hr with
            | done ht => exact ht
  cases h with
  | key | string | word => cases hf
  | between hspot hr => exact settled hspot hr hf
  | @numeral n stack _ _ _ hr hn =>
      simp only [finish] at hf
      split at hf
      · cases hf
      · rename_i w hw
        obtain ⟨spot, hspot, hr'⟩ := hr.exists_behind (.scalar (.number hn hw)) w
        exact settled hspot hr' hf

end Reading

/-! ### Whole texts -/

/-- **What is left of a text without its trailing commas, if it is read, is the text without some
commas before closing brackets**; these do not stand in empty containers if there are none. -/
theorem loosened_of_parseWithin {text : List Char} {v : Json}
    (hb : bare ∨ dropTrailingCommas text = text)
    (h : parseWithin limit (dropTrailingCommas text) = .ok v) :
    Loosened bare .text (dropTrailingCommas text) text := by
  obtain ⟨u, hp, hf⟩ := parseWithin_eq_ok_iff.mp h
  exact ((Reading.start bare).of_passes (.outside trivial) hb hp hf).text_of_finish hf

theorem withTrailingCommas_self {text : List Char} {v : Json} (h : parseWithin limit text = .ok v) :
    WithTrailingCommas text text := by
  have same : dropTrailingCommas text = text := dropTrailingCommas_of_parseWithin h
  have loosened : Loosened False .text (dropTrailingCommas text) text :=
    loosened_of_parseWithin (.inr same) (same.symm ▸ h)
  rwa [same] at loosened

end TypeCatalog.Snapshot
