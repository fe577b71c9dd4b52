import TypeCatalog.Proofs.Fields
import TypeCatalog.Proofs.Json.Readable
import TypeCatalog.Proofs.Json.Settled

/-! # Reading printed values back

The printer writes a readable value in a form that the reader takes as this value
(`parseWithin_render`).  The induction runs over the value together with what is open around it:
the further parts of a container are read from behind its first part, wherever the reader stands
there (`passes_renderItems`, `passes_renderFields`). -/

namespace TypeCatalog.Json

/-! ### Layouts -/

/-- A layout adds nothing but blanks to a value. -/
structure Layout.Blank (layout : Layout) : Prop where
  lineBreak : ∀ level, ∀ c ∈ layout.lineBreak level, Reader.isBlank c = true
  colon : ∃ gap, layout.colon = ':' :: gap ∧ ∀ c ∈ gap, Reader.isBlank c = true

theorem Layout.blank_indented : Layout.indented.Blank where
  lineBreak level := by
    simp only [Layout.indented, List.mem_cons, List.mem_replicate]
    rintro c (rfl | ⟨-, rfl⟩) <;> rfl
  colon := ⟨[' '], rfl, List.forall_mem_singleton.mpr rfl⟩

namespace Reader

variable {limit : Nat}

/-! ### Steps between the parts of a container -/

theorem Completes.passes_gap {v : Json} {stack : List Frame} {s t : State} {gap : List Char}
    {c : Char} (h : Completes v stack s) (hg : ∀ b ∈ gap, isBlank b = true) (hc : Follows c)
    (ht : step limit (Reader.behind v stack) c = .ok t) : Passes limit s (gap ++ [c]) t :=
  ((Settles.completed h).passes_gap_iff hg hc).mpr (.single ht)

/-- The key of a field, from the place in front of it: `mode` is this place, and `done` are the
fields before it. -/
theorem passes_fieldKey {layout : Layout} (hl : layout.Blank) (level : Nat) {mode : Mode}
    {done : Fields Json} {stack : List Frame} (key : String)
    (hm : mode = .objectKey done ∨ mode = .objectStart ∧ done = []) :
    Passes limit ⟨mode, stack⟩ (layout.lineBreak level ++ StringLiteral.quote key ++ layout.colon)
      ⟨.value, .field done key :: stack⟩ := by
  have hb : SkipsBlanks mode := by
    rcases hm with rfl | ⟨rfl, -⟩ <;> trivial
  have quote : step limit ⟨mode, stack⟩ '"' = .ok ⟨.key done .start, stack⟩ := by
    rcases hm with rfl | ⟨rfl, rfl⟩ <;> rfl
  obtain ⟨gap, hcolon, hgap⟩ := hl.colon
  rw [hcolon]
  refine ((passes_blanks hb (hl.lineBreak level)).append
    (.cons quote (passes_quote_key done stack key))).append (.cons rfl ?_)
  exact passes_blanks trivial hgap

/-! ### Values -/

mutual

/-- A printed value is read as this value, whatever containers are open around it. -/
theorem exists_passes_render {layout : Layout} (hl : layout.Blank) (level : Nat)
    (stack : List Frame) : (v : Json) → v.Normal → v.Integral →
    stack.length + v.depth ≤ limit →
    ∃ s, Passes limit ⟨.value, stack⟩ (v.render layout level) s ∧ Completes v stack s
  | .null, _, _, _ => ⟨_, .cons rfl (.cons rfl (.cons rfl (.single rfl))), .behind⟩
  | .bool true, _, _, _ => ⟨_, .cons rfl (.cons rfl (.cons rfl (.single rfl))), .behind⟩
  | .bool false, _, _, _ =>
    ⟨_, .cons rfl (.cons rfl (.cons rfl (.cons rfl (.single rfl)))), .behind⟩
  | .int n, hn, _, _ => exists_passes_intText stack hn.1 hn.2
  | .float _, _, hi, _ => hi.elim
  | .str s, _, _, _ => ⟨_, passes_quote_value stack s, .behind⟩
  | .arr [], _, _, hd => by
    have room : stack.length < limit := by
      simp only [depth, depthItems] at hd
      omega
    exact ⟨_, .cons (if_pos room) (.single rfl), .behind⟩
  | .arr (v :: vs), hn, hi, hd => by
    have room : stack.length < limit ∧ stack.length + 1 + v.depth ≤ limit ∧
        stack.length + 1 + depthItems vs ≤ limit := by
      simp only [depth, depthItems] at hd
      omega
    obtain ⟨s, hp, hc⟩ := exists_passes_render hl (level + 1) (.list [] :: stack) v hn.1 hi.1
      room.2.1
    have rest := passes_renderItems hl (level + 1) (hl.lineBreak level) vs hn.2 hi.2 room.2.2 hc
    refine ⟨_, .cons (if_pos room.1) ?_, .behind⟩
    rw [List.append_assoc, List.append_assoc]
    have front : Passes limit ⟨.listStart, stack⟩ (layout.lineBreak (level + 1))
        ⟨.listStart, stack⟩ := passes_blanks trivial (hl.lineBreak (level + 1))
    exact (front.append (passes_element (.inr ⟨rfl, rfl⟩) hp hc.mode_ne_value)).append rest
  | .obj [], _, _, hd => by
    have room : stack.length < limit := by
      simp only [depth, depthFields] at hd
      omega
    exact ⟨_, .cons (if_pos room) (.single rfl), .behind⟩
  | .obj ((key, v) :: fields), hn, hi, hd => by
    have room : stack.length < limit ∧ stack.length + 1 + v.depth ≤ limit ∧
        stack.length + 1 + depthFields fields ≤ limit := by
      simp only [depth, depthFields] at hd
      omega
    obtain ⟨s, hp, hc⟩ := exists_passes_render hl (level + 1) (.field [] key :: stack) v hn.2.1
      hi.1 room.2.1
    have rest := passes_renderFields hl (level + 1) (hl.lineBreak level) fields hn.1 hn.2.2 hi.2
      room.2.2 hc
    refine ⟨_, .cons (if_pos room.1) ?_, .behind⟩
    rw [List.append_assoc, List.append_assoc]
    exact ((passes_fieldKey hl (level + 1) key (.inr ⟨rfl, rfl⟩)).append hp).append rest

theorem passes_renderItems {layout : Layout} (hl : layout.Blank) (level : Nat)
    {stack : List Frame} {gap : List Char} (hg : ∀ c ∈ gap, isBlank c = true)
    {v : Json} {done : List Json} {s : State} : (vs : List Json) → NormalItems vs →
    IntegralItems vs → stack.length + 1 + depthItems vs ≤ limit →
    Completes v (.list done :: stack) s →
    Passes limit s (renderItems layout level vs ++ (gap ++ [']']))
      (behind (.arr (done.reverse ++ v :: vs)) stack)
  | [], _, _, _, hc => by
    refine hc.passes_gap hg (.inr (.inr (.inl rfl))) ?_
    simp [Reader.behind, complete, step, stepAfter, isBlank]
  | w :: ws, hn, hi, hd, hc => by
    have room : stack.length + 1 + w.depth ≤ limit ∧
        stack.length + 1 + depthItems ws ≤ limit := by
      simp only [depthItems] at hd
      omega
    obtain ⟨t, hp, ht⟩ := exists_passes_render hl level (.list (v :: done) :: stack) w hn.1 hi.1
      room.1
    -- from here on `w` is the element read last, and `v` one of those before it
    have rest := passes_renderItems hl level hg ws hn.2 hi.2 room.2 ht
    rw [List.reverse_cons, List.append_assoc, List.singleton_append] at rest
    have front : Passes limit ⟨.listItem (v :: done), stack⟩ (layout.lineBreak level)
        ⟨.listItem (v :: done), stack⟩ := passes_blanks trivial (hl.lineBreak level)
    rw [renderItems, List.cons_append, List.append_assoc]
    refine .cons (hc.step_eq (.inr (.inl rfl))) ?_
    exact (front.append (passes_element (.inl rfl) hp ht.mode_ne_value)).append rest

theorem passes_renderFields {layout : Layout} (hl : layout.Blank) (level : Nat)
    {stack : List Frame} {gap : List Char} (hg : ∀ c ∈ gap, isBlank c = true)
    {v : Json} {done : Fields Json} {key : String} {s : State} : (fields : Fields Json) →
    Fields.Normal (done ++ (key, v) :: fields) → NormalFields fields → IntegralFields fields →
    stack.length + 1 + depthFields fields ≤ limit →
    Completes v (.field done key :: stack) s →
    Passes limit s (renderFields layout level fields ++ (gap ++ ['}']))
      (behind (.obj (done ++ (key, v) :: fields)) stack)
  | [], hk, _, _, _, hc => by
    refine hc.passes_gap hg (.inr (.inr (.inr rfl))) ?_
    rw [← Fields.insert_of_normal hk]
    rfl
  | (key', w) :: fields, hk, hn, hi, hd, hc => by
    have room : stack.length + 1 + w.depth ≤ limit ∧
        stack.length + 1 + depthFields fields ≤ limit := by
      simp only [depthFields] at hd
      omega
    -- the keys ascend, so the reader puts the field behind those before it
    have step : step limit s ',' = .ok ⟨.objectKey (done ++ [(key, v)]), stack⟩ := by
      rw [hc.step_eq (.inr (.inl rfl)), ← Fields.insert_of_normal hk]
      rfl
    have hk : Fields.Normal ((done ++ [(key, v)]) ++ (key', w) :: fields) := by
      rwa [List.append_assoc]
    obtain ⟨t, hp, ht⟩ := exists_passes_render hl level
      (.field (done ++ [(key, v)]) key' :: stack) w hn.1 hi.1 room.1
    have rest := passes_renderFields hl level hg fields hk hn.2 hi.2 room.2 ht
    rw [List.append_assoc, List.singleton_append] at rest
    rw [renderFields, List.cons_append, List.append_assoc]
    refine .cons step ?_
    exact ((passes_fieldKey hl level key' (.inl rfl)).append hp).append rest

end

theorem Completes.exists_passes_blanks {v : Json} {s : State} (h : Completes v [] s)
    {gap : List Char} (hg : ∀ c ∈ gap, isBlank c = true) :
    ∃ t, Passes limit s gap t ∧ finish t = .ok v := by
  cases gap with
  | nil => exact ⟨s, .nil s, h.finish_eq⟩
  | cons c cs =>
      have behind : Passes limit (Reader.behind v []) (c :: cs) (Reader.behind v []) :=
        passes_blanks trivial hg
      cases behind with
      | cons first rest =>
          exact ⟨_, .cons ((h.step_eq (.inl (hg c (List.mem_cons_self ..)))).trans first) rest, rfl⟩

/-- **A printed value is read back**, also between blanks. -/
theorem parseWithin_render_append {layout : Layout} (hl : layout.Blank) (level : Nat) {v : Json}
    (h : v.ReadableWithin limit) {front back : List Char} (hf : ∀ c ∈ front, isBlank c = true)
    (hb : ∀ c ∈ back, isBlank c = true) :
    parseWithin limit (front ++ (v.render layout level ++ back)) = .ok v := by
  have room : ([] : List Frame).length + v.depth ≤ limit := by
    rw [List.length_nil, Nat.zero_add]
    exact h.depth
  obtain ⟨s, hp, hc⟩ := exists_passes_render hl level [] v h.normal h.integral room
  obtain ⟨t, ht, finished⟩ := hc.exists_passes_blanks hb
  have start : Passes limit .start front .start := passes_blanks trivial hf
  exact parseWithin_eq_ok_iff.mpr ⟨t, start.append (hp.append ht), finished⟩

theorem parseWithin_render {layout : Layout} (hl : layout.Blank) (level : Nat) {v : Json}
    (h : v.ReadableWithin limit) {front : List Char} (hf : ∀ c ∈ front, isBlank c = true) :
    parseWithin limit (front ++ v.render layout level) = .ok v := by
  have back : ∀ c ∈ ([] : List Char), isBlank c = true := nofun
  have read := parseWithin_render_append hl level h hf back
  rwa [List.append_nil] at read

end Reader
end TypeCatalog.Json
