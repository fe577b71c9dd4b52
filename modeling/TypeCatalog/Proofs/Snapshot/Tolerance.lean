import TypeCatalog.Proofs.Snapshot.Framing
import TypeCatalog.Proofs.Snapshot.Reading

/-! # Reading texts with trailing commas

A JSON text with trailing commas put in is read as the text without them
(`readChars_of_loosened`).  What is left of it when trailing commas are dropped differs from the
text without them in the blanks in front of closing brackets only, and these do not matter to the
reader (`Padded.closing`). -/

namespace TypeCatalog.Snapshot

open Json Json.Reader

variable {limit : Nat}

/-! ### Blanks put in -/

/-- Put in place of `part`, the text `padded` leads outside strings, and in a text that is read to
its end it takes the reader to the same place. -/
structure Padded (part padded : List Char) : Prop where
  outside : OutsideStrings padded
  passes : ∀ {limit : Nat} {s u : Reader.State} {rest : List Char} {v : Json}, Outside s.mode →
    Passes limit s (part ++ rest) u → finish u = .ok v → Passes limit s (padded ++ rest) u

theorem Padded.same {part : List Char} (h : OutsideStrings part) : Padded part part :=
  ⟨h, fun _ hp _ => hp⟩

theorem Padded.append {a a' b b' : List Char} (h₁ : Padded a a') (h₂ : Padded b b') :
    Padded (a ++ b) (a' ++ b') := by
  refine ⟨h₁.outside.append h₂.outside, fun ho hp hf => ?_⟩
  rw [List.append_assoc] at hp
  rw [List.append_assoc]
  have front := h₁.passes ho hp hf
  obtain ⟨t, ha, hb⟩ := front.exists_of_append
  exact ha.append (h₂.passes (h₁.outside.mode_outside ho ha hb hf) hb hf)

theorem Padded.closing {gap gap' : List Char} (h : Gap gap) (h' : Gap gap') (k : Container) :
    Padded (gap ++ [k.closing]) (gap' ++ [k.closing]) := by
  constructor
  · have bracket : OutsideStrings [k.closing] :=
      outsideStrings_of_forall_ne (List.forall_mem_singleton.mpr k.closing_ne.1)
    exact (outsideStrings_of_isBlank h'.isBlank).append bracket
  · intro limit s u rest v ho hp _
    rw [List.append_assoc, List.singleton_append] at hp ⊢
    exact (passes_gap_iff ho h h' (follows_of_closing k.closing_eq)).mp hp

/-! ### Commas dropped -/

/-- When trailing commas are dropped from `loose`, what is left is `strict`, but for blanks. -/
def Restores (strict loose : List Char) : Prop := ∃ left, Cleans loose left ∧ Padded strict left

theorem Restores.append {a a' b b' : List Char} (h₁ : Restores a a') (h₂ : Restores b b') :
    Restores (a ++ b) (a' ++ b') := by
  obtain ⟨left₁, clean₁, pad₁⟩ := h₁
  obtain ⟨left₂, clean₂, pad₂⟩ := h₂
  exact ⟨left₁ ++ left₂, clean₁.append clean₂, pad₁.append pad₂⟩

theorem restores_of_forall_ne {text : List Char} (h : ∀ c ∈ text, c ≠ '"' ∧ c ≠ ',') :
    Restores text text :=
  ⟨text, cleans_of_forall_ne h, .same (outsideStrings_of_forall_ne fun c hc => (h c hc).1)⟩

theorem Gap.restores {gap : List Char} (h : Gap gap) : Restores gap gap :=
  ⟨gap, cleans_of_isBlank h.isBlank, .same (outsideStrings_of_isBlank h.isBlank)⟩

theorem restores_of_isQuoted {text : List Char} (h : IsQuoted text) : Restores text text :=
  ⟨text, (cleans_of_isQuoted h).1, .same (cleans_of_isQuoted h).2⟩

theorem restores_of_isScalar {text : List Char} (h : IsScalar text) : Restores text text :=
  ⟨text, (cleans_of_isScalar h).1, .same (cleans_of_isScalar h).2⟩

theorem restores_opening (k : Container) : Restores [k.opening] [k.opening] :=
  restores_of_forall_ne (List.forall_mem_singleton.mpr k.opening_ne)

theorem Gap.cleans_closing {gap : List Char} (h : Gap gap) (k : Container) :
    Cleans (gap ++ [k.closing]) (gap ++ [k.closing]) :=
  (cleans_of_isBlank h.isBlank).append
    (cleans_of_forall_ne (List.forall_mem_singleton.mpr k.closing_ne))

theorem Ending.restores {allowed : Prop} {e e' : List Char} (h : Ending allowed e e')
    (k : Container) : Restores (e ++ [k.closing]) (e' ++ [k.closing]) := by
  cases h with
  | plain hg => exact ⟨e ++ [k.closing], hg.cleans_closing k, .closing hg hg k⟩
  | @comma front back before behind _ hf hb hbefore hbehind =>
      have head : Gap (front ++ before) := hf.append hbefore
      have gap : Gap (behind ++ back) := hbehind.append hb
      have closes (rest : List Char) : closesNext (behind ++ back ++ [k.closing] ++ rest) = true :=
        closesNext_iff.mpr ⟨_, k.closing, rest, by simp, gap.isBlank, k.closing_eq⟩
      refine ⟨(front ++ before) ++ (behind ++ back ++ [k.closing]), ?_, ?_⟩
      · have clean := (cleans_of_isBlank head.isBlank).append
          ((gap.cleans_closing k).trailing closes)
        have same : front ++ (before ++ ',' :: (behind ++ back)) ++ [k.closing] =
            (front ++ before) ++ ',' :: (behind ++ back ++ [k.closing]) := by simp
        rwa [same]
      · rw [← List.append_assoc]
        exact .closing (hf.append hb) (head.append gap) k

/-- **Dropping trailing commas undoes putting them in**, but for blanks. -/
theorem Loosened.restores {bare : Prop} {p : Part} {strict loose : List Char}
    (h : Loosened bare p strict loose) : Restores strict loose := by
  induction h with
  | scalar hs => exact restores_of_isScalar hs
  | @empty k e e' he => exact (restores_opening k).append (he.restores k)
  | @full k s t e e' _ he ih => exact (restores_opening k).append (ih.append (he.restores k))
  | element hg _ ih => exact hg.restores.append ih
  | @member gap key before behind s t hg hq hb hb' _ ih =>
      have colon : Restores [':'] [':'] :=
        restores_of_forall_ne (List.forall_mem_singleton.mpr (by decide))
      exact hg.restores.append ((restores_of_isQuoted hq).append
        (hb.restores.append (colon.append (hb'.restores.append ih))))
  | one _ ih => exact ih
  | @more k gap s t s' t' _ hg hn ih ih' =>
      obtain ⟨left, clean, pad⟩ := ih'
      have comma : Restores (',' :: s') (',' :: t') := by
        have mark : OutsideStrings [','] := rfl
        exact ⟨',' :: left, clean.comma hn.closesNext_eq_false, (Padded.same mark).append pad⟩
      exact ih.append (hg.restores.append comma)
  | text hf _ hb ih => exact hf.restores.append (ih.append hb.restores)

/-! ### Reading -/

/-- A value that stands between blanks may have blanks put in, and lose those around it. -/
theorem parseWithin_of_padded {front part back left : List Char} {v : Json} (hf : Gap front)
    (hb : Gap back) (h : Padded part left)
    (hp : parseWithin limit (front ++ (part ++ back)) = .ok v) :
    parseWithin limit left = .ok v := by
  obtain ⟨u, hp, hv⟩ := parseWithin_eq_ok_iff.mp hp
  have start : Outside State.start.mode := trivial
  have skips : SkipsBlanks State.start.mode := trivial
  have whole : Passes limit .start (left ++ back) u :=
    h.passes start ((passes_blanks_append_iff skips hf).mp hp) hv
  obtain ⟨t, hl, hr⟩ := whole.exists_of_append
  refine parseWithin_eq_ok_iff.mpr ⟨t, hl, ?_⟩
  rw [finish_eq_of_passes_blanks (h.outside.mode_outside start hl hr hv) hb hr, hv]

/-- **A JSON text with trailing commas put in reads as the text without them.** -/
theorem readChars_of_loosened {bare : Prop} {strict loose text : List Char} {v : Json}
    (h : Loosened bare .text strict loose) (hp : parse strict = .ok v) (ht : Framed loose text) :
    readChars text = .ok v := by
  cases h with
  | @text front back part value hf hl hb =>
      obtain ⟨left, clean, pad⟩ := hl.restores
      have parsed : parse left = .ok v := parseWithin_of_padded hf hb pad hp
      have cleaned : dropTrailingCommas value = left := by
        simpa [dropTrailingCommas, dropTrailingCommasFrom] using clean []
      -- blanks and a semicolon around the text are cut off with the blanks that belong to it
      cases ht with
      | @frame front' _ tail hf' ht =>
          have before : ∀ c ∈ front' ++ front, Text.isBlank c = true :=
            List.forall_mem_append.mpr ⟨hf', hf.isBlank⟩
          have same : front' ++ (front ++ (value ++ back) ++ tail) =
              (front' ++ front) ++ (value ++ (back ++ tail)) := by simp
          obtain ⟨c, rest, s, hfirst, hc⟩ := hl.exists_start
          obtain ⟨init, d, hlast, blank, semicolon⟩ := hl.exists_last
          have plain : ¬ StartsDeclaration (front' ++ front ++ (value ++ (back ++ tail))) := by
            rw [hfirst]
            exact not_startsDeclaration before hc
          have start : Text.trimStart (front' ++ front ++ (value ++ (back ++ tail))) =
              value ++ (back ++ tail) := by
            rw [Text.trimStart_append_of_blank before, hfirst, List.cons_append, Text.trimStart,
              List.dropWhile_cons_of_neg (by simp [isBlank_of_startValue hc])]
          have body : trimBody (value ++ (back ++ tail)) = value := by
            rw [hlast, trimBody_append blank semicolon (ht.append hb.isBlank)]
          have mem : d ∈ value := by simp [hlast]
          rw [same, readChars_eq plain, start, body, readBody_eq mem blank, cleaned, parsed]

/-- **A JSON text reads as its value, whatever trailing commas it has, and whatever blanks around
it and a semicolon behind it.** -/
theorem read_of_trailingCommas {strict : List Char} {v : Json} (h : parse strict = .ok v) :
    WithTrailingCommas strict strict ∧
      ∀ (loose : List Char) (text : String), WithTrailingCommas strict loose →
        Framed loose text.toList → read text = .ok v :=
  ⟨withTrailingCommas_self h, fun _ _ hl ht => readChars_of_loosened hl h ht⟩

/-- A list with a comma and a bracket in a string, and the same with a comma behind the string,
blanks around it and a semicolon. -/
theorem read_of_stringList :
    parse "[\"a,]\"]".toList = .ok (.arr [.str "a,]"]) ∧
      WithTrailingCommas "[\"a,]\"]".toList "[\"a,]\" ,\n]".toList ∧
      Framed "[\"a,]\" ,\n]".toList "\u00a0[\"a,]\" ,\n] ;\n".toList ∧
      read "\u00a0[\"a,]\" ,\n] ;\n" = .ok (.arr [.str "a,]"]) := by
  have parsed : parse "[\"a,]\"]".toList = .ok (.arr [.str "a,]"]) := rfl
  have string : IsScalar ['"', 'a', ',', ']', '"'] :=
    .string (.quoted (.next (.next (.next .start rfl) rfl) rfl) rfl)
  have ending : Ending True [] [' ', ',', '\n'] :=
    @Ending.comma True [] [] [' '] ['\n'] trivial .nil .nil (List.forall_mem_singleton.mpr rfl)
      (List.forall_mem_singleton.mpr rfl)
  have list : Loosened False .value "[\"a,]\"]".toList "[\"a,]\" ,\n]".toList :=
    .full (k := .list) (.one (.element .nil (.scalar string))) ending
  have loosened : WithTrailingCommas "[\"a,]\"]".toList "[\"a,]\" ,\n]".toList :=
    .text .nil list .nil
  have framed : Framed "[\"a,]\" ,\n]".toList "\u00a0[\"a,]\" ,\n] ;\n".toList :=
    .frame (List.forall_mem_singleton.mpr rfl)
      (.semicolon (List.forall_mem_singleton.mpr rfl) (List.forall_mem_singleton.mpr rfl))
  exact ⟨parsed, loosened, framed, (read_of_trailingCommas parsed).2 _ _ loosened framed⟩

end TypeCatalog.Snapshot
