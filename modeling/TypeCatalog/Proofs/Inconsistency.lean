import Mathlib.Data.List.Nodup
import Std.Data.TreeMap.Lemmas
import TypeCatalog.Proofs.Catalog

/-! # The first inconsistency of a catalog's parts

A list is searched for repeats from its start, with the positions of the elements so far in a table
(`Holds`); the repeat that is found is the only one with no repeat before it
(`firstRepeat?_eq_some_iff`).  `FirstInconsistency` says which defect of a package list and a type
list counts, in the order packages, qualified names, declared packages; parts that are consistent
make a catalog, and all others are refused with the error of this defect
(`assemble_reports_firstInconsistency`). -/

namespace TypeCatalog

/-! ### First failures and first repeats -/

section
variable {α : Type}

/-- The element at `i` is the first one without the property. -/
structure FirstFailure (P : α → Prop) (xs : List α) (i : Nat) (x : α) : Prop where
  element : xs[i]? = some x
  fails : ¬ P x
  earlier : ∀ y ∈ xs.take i, P y

theorem firstFailure_cons_of_holds {P : α → Prop} {x : α} (hx : P x) {xs : List α} {i : Nat}
    {y : α} : FirstFailure P (x :: xs) i y ↔ ∃ j, i = j + 1 ∧ FirstFailure P xs j y := by
  constructor
  · rintro ⟨element, fails, earlier⟩
    cases i with
    | zero =>
        cases element
        exact absurd hx fails
    | succ j =>
        rw [List.take_succ_cons, List.forall_mem_cons] at earlier
        exact ⟨j, rfl, element, fails, earlier.2⟩
  · rintro ⟨j, rfl, element, fails, earlier⟩
    refine ⟨element, fails, ?_⟩
    rw [List.take_succ_cons, List.forall_mem_cons]
    exact ⟨hx, earlier⟩

theorem firstFailure_cons_of_fails {P : α → Prop} {x : α} (hx : ¬ P x) {xs : List α} {i : Nat}
    {y : α} : FirstFailure P (x :: xs) i y ↔ i = 0 ∧ y = x := by
  constructor
  · rintro ⟨element, -, earlier⟩
    cases i with
    | zero =>
        cases element
        exact ⟨rfl, rfl⟩
    | succ j =>
        rw [List.take_succ_cons, List.forall_mem_cons] at earlier
        exact absurd earlier.1 hx
  · rintro ⟨rfl, rfl⟩
    exact ⟨rfl, hx, nofun⟩

/-- The element at `r.again` is the first one that occurred before.  Those in front of it are
distinct, so it occurred once, at `r.first`. -/
structure FirstRepeat (xs : List α) (r : Repeat α) : Prop where
  again : xs[r.again]? = some r.value
  first : xs[r.first]? = some r.value
  lt : r.first < r.again
  earlier : (xs.take r.again).Nodup

theorem eq_of_getElem?_eq_some {xs : List α} (h : xs.Nodup) {i j : Nat} {x : α}
    (hi : xs[i]? = some x) (hj : xs[j]? = some x) : i = j :=
  (List.getElem?_inj (List.getElem?_eq_some_iff.mp hi).1 h).mp (hi.trans hj.symm)

theorem eq_of_nodup_take {xs : List α} {n i j : Nat} {x : α} (h : (xs.take n).Nodup)
    (hin : i < n) (hjn : j < n) (hi : xs[i]? = some x) (hj : xs[j]? = some x) : i = j :=
  eq_of_getElem?_eq_some h ((List.getElem?_take_of_lt hin).trans hi)
    ((List.getElem?_take_of_lt hjn).trans hj)

theorem FirstRepeat.not_nodup_take {xs : List α} {r : Repeat α} (h : FirstRepeat xs r) {n : Nat}
    (hn : r.again < n) : ¬ (xs.take n).Nodup := fun nodup =>
  Nat.ne_of_lt h.lt (eq_of_nodup_take nodup (Nat.lt_trans h.lt hn) hn h.first h.again)

theorem FirstRepeat.not_nodup {xs : List α} {r : Repeat α} (h : FirstRepeat xs r) :
    ¬ xs.Nodup :=
  fun nodup => Nat.ne_of_lt h.lt (eq_of_getElem?_eq_some nodup h.first h.again)

theorem FirstRepeat.unique {xs : List α} {r r' : Repeat α} (h : FirstRepeat xs r)
    (h' : FirstRepeat xs r') : r = r' := by
  have again : r.again = r'.again := by
    rcases Nat.lt_trichotomy r.again r'.again with hlt | heq | hgt
    · exact absurd h'.earlier (h.not_nodup_take hlt)
    · exact heq
    · exact absurd h.earlier (h'.not_nodup_take hgt)
  have value : r.value = r'.value := by
    have same := h.again.symm.trans (again ▸ h'.again)
    exact Option.some.inj same
  have first : r.first = r'.first :=
    eq_of_nodup_take h.earlier h.lt (again ▸ h'.lt) h.first (value ▸ h'.first)
  obtain ⟨value₁, first₁, again₁⟩ := r
  obtain ⟨value₂, first₂, again₂⟩ := r'
  exact Repeat.mk.injEq .. ▸ ⟨value, first, again⟩

end

section
variable {α : Type} [Ord α]

/-- The table holds the position of each element of a list, and nothing else. -/
def Holds (seen : Std.TreeMap α Nat compare) (front : List α) : Prop :=
  ∀ (x : α) (i : Nat), seen[x]? = some i ↔ front[i]? = some x

theorem Holds.nodup {seen : Std.TreeMap α Nat compare} {front : List α} (h : Holds seen front) :
    front.Nodup := by
  rw [List.nodup_iff_getElem?_ne_getElem?]
  intro i j hij hj same
  have at_j : front[j]? = some front[j] := List.getElem?_eq_getElem hj
  have first := (h _ i).mpr (same.trans at_j)
  have again := (h _ j).mpr at_j
  exact Nat.ne_of_lt hij (Option.some.inj (first.symm.trans again))

variable [Std.TransOrd α]

theorem holds_empty : Holds (∅ : Std.TreeMap α Nat compare) [] := by
  intro x i
  simp

variable [Std.LawfulEqOrd α]

/-- The next element takes the next position. -/
theorem Holds.insert {seen : Std.TreeMap α Nat compare} {front : List α} {x : α}
    (h : Holds seen front) (hx : seen[x]? = none) :
    Holds (seen.insert x front.length) (front ++ [x]) := by
  intro y i
  rw [Std.TreeMap.getElem?_insert, List.getElem?_append]
  by_cases hxy : x = y
  · subst hxy
    have absent : front[i]? ≠ some x := fun hi => by
      rw [(h x i).mpr hi] at hx
      cases hx
    rw [if_pos (Std.LawfulEqCmp.compare_eq_iff_eq.mpr rfl), Option.some.injEq]
    split
    · rename_i hi
      exact iff_of_false (Nat.ne_of_gt hi) absent
    · rename_i hi
      rw [List.getElem?_singleton]
      split <;> simp <;> omega
  · have other : compare x y ≠ .eq := fun he => hxy (Std.LawfulEqCmp.compare_eq_iff_eq.mp he)
    rw [if_neg other, h y i]
    split
    · rfl
    · rename_i hi
      rw [List.getElem?_eq_none (Nat.not_lt.mp hi), List.getElem?_singleton]
      split <;> simp [hxy]

theorem firstRepeatFrom?_eq_some_iff {seen : Std.TreeMap α Nat compare} {front xs : List α}
    {r : Repeat α} (h : Holds seen front) :
    firstRepeatFrom? seen front.length xs = some r ↔ FirstRepeat (front ++ xs) r := by
  induction xs generalizing seen front with
  | nil =>
      rw [List.append_nil, firstRepeatFrom?]
      exact iff_of_false (Option.some_ne_none r).symm fun hr => hr.not_nodup h.nodup
  | cons x xs ih =>
      unfold firstRepeatFrom?
      cases hx : seen[x]? with
      | some first =>
          have at_first : front[first]? = some x := (h x first).mp hx
          have lt : first < front.length := (List.getElem?_eq_some_iff.mp at_first).1
          have found : FirstRepeat (front ++ x :: xs) ⟨x, first, front.length⟩ := by
            refine ⟨?_, ?_, lt, ?_⟩
            · simp
            · rw [List.getElem?_append_left lt, at_first]
            · rw [List.take_left]
              exact h.nodup
          rw [Option.some.injEq]
          constructor
          · rintro rfl
            exact found
          · exact found.unique
      | none =>
          have next := ih (h.insert hx)
          rw [List.length_append, List.length_singleton, List.append_assoc] at next
          exact next

/-- **The search finds the first repeat.** -/
theorem firstRepeat?_eq_some_iff {xs : List α} {r : Repeat α} :
    firstRepeat? xs = some r ↔ FirstRepeat xs r :=
  firstRepeatFrom?_eq_some_iff holds_empty

end

namespace Catalog

/-! ### Packages -/

/-- These packages can be declared together. -/
structure ConsistentPackages (packages : List String) : Prop where
  wellFormed : ∀ p ∈ packages, Name.isPackageName p = true
  nodup : packages.Nodup

/-- What is wrong with the declared package at a position: its name, or else that it was declared
before. -/
inductive PackageRefused (packages : List String) (i : Nat) : Reason → Prop
  | illFormed {p : String} (element : packages[i]? = some p)
      (illFormed : Name.isPackageName p = false) : PackageRefused packages i (.badPackageName p)
  | repeated {p : String} {j : Nat} (element : packages[i]? = some p)
      (wellFormed : Name.isPackageName p = true) (lt : j < i) (first : packages[j]? = some p) :
      PackageRefused packages i (.repeatedPackage p j)

theorem ConsistentPackages.take {packages : List String} (h : ConsistentPackages packages)
    (n : Nat) : ConsistentPackages (packages.take n) :=
  ⟨fun p hp => h.wellFormed p (List.mem_of_mem_take hp), h.nodup.sublist (List.take_sublist n _)⟩

theorem packagesDefect?_eq_none_iff_consistent {packages : List String} :
    packagesDefect? packages = none ↔ ConsistentPackages packages := by
  rw [packagesDefect?_eq_none_iff]
  exact ⟨fun h => ⟨h.1, h.2⟩, fun h => ⟨h.wellFormed, h.nodup⟩⟩

theorem illFormedPackage?_eq_some_iff {pos n : Nat} {packages : List String} {p : String} :
    illFormedPackage? pos packages = some (n, p) ↔
      ∃ i, n = pos + i ∧ FirstFailure (Name.isPackageName · = true) packages i p := by
  induction packages generalizing pos with
  | nil => exact iff_of_false (by simp [illFormedPackage?]) fun ⟨_, _, h⟩ => by cases h.element
  | cons q qs ih =>
      unfold illFormedPackage?
      split
      · rename_i hq
        simp only [ih, firstFailure_cons_of_holds (P := (Name.isPackageName · = true)) hq]
        constructor
        · rintro ⟨i, rfl, found⟩
          exact ⟨i + 1, by omega, i, rfl, found⟩
        · rintro ⟨_, rfl, i, rfl, found⟩
          exact ⟨i, by omega, found⟩
      · rename_i hq
        simp only [firstFailure_cons_of_fails (P := (Name.isPackageName · = true)) hq]
        constructor
        · rintro ⟨⟩
          exact ⟨0, rfl, rfl, rfl⟩
        · rintro ⟨_, rfl, rfl, rfl⟩
          rfl

theorem PackageRefused.not_consistent {packages : List String} {i n : Nat} {reason : Reason}
    (h : PackageRefused packages i reason) (hn : i < n) :
    ¬ ConsistentPackages (packages.take n) := by
  intro consistent
  cases h with
  | @illFormed p element illFormed =>
      have mem : p ∈ packages.take n :=
        List.mem_of_getElem? ((List.getElem?_take_of_lt hn).trans element)
      rw [consistent.wellFormed p mem] at illFormed
      cases illFormed
  | repeated element _ lt first =>
      have same := eq_of_nodup_take consistent.nodup (Nat.lt_trans lt hn) hn first element
      exact Nat.ne_of_lt lt same

/-- At most one thing is wrong with a package behind packages that can be declared. -/
theorem PackageRefused.unique {packages : List String} {i : Nat} {reason reason' : Reason}
    (h : PackageRefused packages i reason) (h' : PackageRefused packages i reason')
    (consistent : ConsistentPackages (packages.take i)) : reason = reason' := by
  cases h with
  | @illFormed p element illFormed =>
      cases h' with
      | illFormed element' => rw [Option.some.inj (element.symm.trans element')]
      | repeated element' wellFormed =>
          rw [← Option.some.inj (element.symm.trans element'), illFormed] at wellFormed
          cases wellFormed
  | @repeated p j element wellFormed lt first =>
      cases h' with
      | illFormed element' illFormed =>
          rw [← Option.some.inj (element.symm.trans element'), wellFormed] at illFormed
          cases illFormed
      | @repeated p' j' element' _ lt' first' =>
          obtain rfl : p = p' := Option.some.inj (element.symm.trans element')
          rw [eq_of_nodup_take consistent.nodup lt lt' first first']

theorem refused_of_packagesDefect? {packages : List String} {d : EntryDefect}
    (h : packagesDefect? packages = some d) :
    ∃ i reason, PackageRefused packages i reason ∧ ConsistentPackages (packages.take i) ∧
      d = packageDefect i reason := by
  unfold packagesDefect? at h
  split at h
  · cases h
  · rename_i i p hi hr
    cases h
    obtain ⟨i, rfl, element, fails, earlier⟩ := illFormedPackage?_eq_some_iff.mp hi
    have nodup : packages.Nodup := firstRepeat?_eq_none_iff.mp hr
    rw [Nat.zero_add]
    exact ⟨i, _, .illFormed element (eq_false_of_ne_true fails),
      ⟨earlier, nodup.sublist (List.take_sublist i _)⟩, rfl⟩
  · rename_i r hi hr
    cases h
    have wellFormed := illFormedPackage?_eq_none_iff.mp hi
    have found := firstRepeat?_eq_some_iff.mp hr
    have element := wellFormed r.value (List.mem_of_getElem? found.again)
    exact ⟨r.again, _, .repeated found.again element found.lt found.first,
      ⟨fun p hp => wellFormed p (List.mem_of_mem_take hp), found.earlier⟩, rfl⟩
  · -- both defects are there, and the one that stands further in front counts
    rename_i i p r hi hr
    obtain ⟨i, rfl, element, fails, earlier⟩ := illFormedPackage?_eq_some_iff.mp hi
    have found := firstRepeat?_eq_some_iff.mp hr
    rw [Nat.zero_add] at h
    split at h
    · rename_i le
      cases h
      refine ⟨i, _, .illFormed element (eq_false_of_ne_true fails), ⟨earlier, ?_⟩, rfl⟩
      exact found.earlier.sublist (List.take_sublist_take_left le)
    · rename_i lt
      cases h
      have lt : r.again < i := Nat.not_le.mp lt
      have again : r.value ∈ packages.take i :=
        List.mem_of_getElem? ((List.getElem?_take_of_lt lt).trans found.again)
      refine ⟨r.again, _, .repeated found.again (earlier _ again) found.lt found.first,
        ⟨fun p hp => earlier p ?_, found.earlier⟩, rfl⟩
      exact (List.take_sublist_take_left (Nat.le_of_lt lt)).subset hp

/-- **The package list is refused for its first bad element.** -/
theorem packagesDefect?_eq_some_iff {packages : List String} {d : EntryDefect} :
    packagesDefect? packages = some d ↔
      ∃ i reason, PackageRefused packages i reason ∧ ConsistentPackages (packages.take i) ∧
        d = packageDefect i reason := by
  refine ⟨refused_of_packagesDefect?, ?_⟩
  rintro ⟨i, reason, refused, consistent, rfl⟩
  cases hd : packagesDefect? packages with
  | none =>
      have all : ConsistentPackages packages := packagesDefect?_eq_none_iff_consistent.mp hd
      exact absurd (all.take (i + 1)) (refused.not_consistent (Nat.lt_succ_self i))
  | some d =>
      obtain ⟨i', reason', refused', consistent', rfl⟩ := refused_of_packagesDefect? hd
      rcases Nat.lt_trichotomy i i' with hlt | rfl | hgt
      · exact absurd consistent' (refused.not_consistent hlt)
      · rw [refused.unique refused' consistent]
      · exact absurd consistent (refused'.not_consistent hgt)

/-! ### Types -/

theorem undeclared?_eq_some_iff {packages : List String} {all types : List Descriptor}
    {pos : Nat} {e : LoadError} :
    undeclared? (.build packages all) pos types = some e ↔
      ∃ i d, FirstFailure (Descriptor.package · ∈ packages) types i d ∧
        e = .undeclaredPackage d.package d.name (pos + i) := by
  induction types generalizing pos with
  | nil => exact iff_of_false (by simp [undeclared?]) fun ⟨_, _, h, _⟩ => by cases h.element
  | cons d ds ih =>
      unfold undeclared?
      split
      · rename_i declared
        rw [PackageIndex.packageExists_build] at declared
        simp only [ih, firstFailure_cons_of_holds (P := (Descriptor.package · ∈ packages)) declared]
        constructor
        · rintro ⟨i, x, found, rfl⟩
          exact ⟨i + 1, x, ⟨i, rfl, found⟩, by rw [Nat.add_right_comm, Nat.add_assoc]⟩
        · rintro ⟨_, x, ⟨i, rfl, found⟩, rfl⟩
          exact ⟨i, x, found, by rw [Nat.add_right_comm, Nat.add_assoc]⟩
      · rename_i undeclared
        rw [PackageIndex.packageExists_build] at undeclared
        simp only [firstFailure_cons_of_fails (P := (Descriptor.package · ∈ packages)) undeclared]
        constructor
        · rintro ⟨⟩
          exact ⟨0, d, ⟨rfl, rfl⟩, rfl⟩
        · rintro ⟨_, _, ⟨rfl, rfl⟩, rfl⟩
          rfl

/-! ### The defect that counts -/

/-- The first thing that is wrong with a package list and a type list: each case names one defect,
and excludes those that are looked for before it and those of its own sort in front of it. -/
inductive FirstInconsistency (packages : List String) (types : List Descriptor) : LoadError → Prop
  | package {i : Nat} {reason : Reason} (refused : PackageRefused packages i reason)
      (earlier : ConsistentPackages (packages.take i)) :
      FirstInconsistency packages types (.invalid ⟨elementPlace "packages" i, none, reason⟩)
  | duplicate {i j : Nat} {d d' : Descriptor} (consistent : ConsistentPackages packages)
      (element : types[i]? = some d) (lt : j < i) (first : types[j]? = some d')
      (same : d'.qualifiedName = d.qualifiedName)
      (earlier : ((types.take i).map Descriptor.qualifiedName).Nodup) :
      FirstInconsistency packages types (.duplicateType d.package d.name j i)
  | undeclared {i : Nat} {d : Descriptor} (consistent : ConsistentPackages packages)
      (distinct : (types.map Descriptor.qualifiedName).Nodup) (element : types[i]? = some d)
      (undeclared : d.package ∉ packages) (earlier : ∀ d' ∈ types.take i, d'.package ∈ packages) :
      FirstInconsistency packages types (.undeclaredPackage d.package d.name i)

theorem firstRepeat?_qualifiedName_eq_some_iff {types : List Descriptor}
    {r : Repeat QualifiedName} :
    firstRepeat? (types.map Descriptor.qualifiedName) = some r ↔
      ∃ d d', types[r.again]? = some d ∧ d.qualifiedName = r.value ∧ r.first < r.again ∧
        types[r.first]? = some d' ∧ d'.qualifiedName = r.value ∧
        ((types.take r.again).map Descriptor.qualifiedName).Nodup := by
  rw [firstRepeat?_eq_some_iff]
  constructor
  · rintro ⟨again, first, lt, earlier⟩
    rw [List.getElem?_map, Option.map_eq_some_iff] at again first
    obtain ⟨d, hd, named⟩ := again
    obtain ⟨d', hd', named'⟩ := first
    rw [← List.map_take] at earlier
    exact ⟨d, d', hd, named, lt, hd', named', earlier⟩
  · rintro ⟨d, d', hd, named, lt, hd', named', earlier⟩
    refine ⟨?_, ?_, lt, ?_⟩
    · rw [List.getElem?_map, hd, Option.map_some, named]
    · rw [List.getElem?_map, hd', Option.map_some, named']
    · rwa [← List.map_take]

variable {documents modules : List Json} {packages : List String} {types : List Descriptor}

/-- The three searches, one after the other. -/
theorem assemble_eq_error_iff_search {e : LoadError} :
    assemble documents modules packages types = .error e ↔
      (∃ d, packagesDefect? packages = some d ∧ e = .invalid d) ∨
      packagesDefect? packages = none ∧
        ((∃ r, firstRepeat? (types.map Descriptor.qualifiedName) = some r ∧
            e = .duplicateType r.value.package r.value.name r.first r.again) ∨
          firstRepeat? (types.map Descriptor.qualifiedName) = none ∧
            undeclared? (.build packages types) 0 types = some e) := by
  unfold assemble
  split
  · rename_i d hp
    simp [hp, eq_comm]
  · rename_i hp
    split
    · rename_i r hn
      simp [hp, hn, eq_comm]
    · rename_i hn
      split
      · rename_i e' hd
        simp [hp, hn, hd]
      · rename_i hd
        simp [hp, hn, hd]

theorem assemble_eq_error_iff {e : LoadError} :
    assemble documents modules packages types = .error e ↔
      FirstInconsistency packages types e := by
  rw [assemble_eq_error_iff_search]
  constructor
  · rintro (⟨d, hp, rfl⟩ | ⟨hp, ⟨r, hn, rfl⟩ | ⟨hn, hd⟩⟩)
    · obtain ⟨i, reason, refused, earlier, rfl⟩ := packagesDefect?_eq_some_iff.mp hp
      exact .package refused earlier
    · obtain ⟨d, d', element, named, lt, first, named', earlier⟩ :=
        firstRepeat?_qualifiedName_eq_some_iff.mp hn
      rw [← named] at named' ⊢
      exact .duplicate (packagesDefect?_eq_none_iff_consistent.mp hp) element lt first named'
        earlier
    · obtain ⟨i, d, found, rfl⟩ := undeclared?_eq_some_iff.mp hd
      rw [Nat.zero_add]
      exact .undeclared (packagesDefect?_eq_none_iff_consistent.mp hp)
        (firstRepeat?_eq_none_iff.mp hn) found.element found.fails found.earlier
  · intro h
    cases h with
    | package refused earlier =>
        exact .inl ⟨_, packagesDefect?_eq_some_iff.mpr ⟨_, _, refused, earlier, rfl⟩, rfl⟩
    | @duplicate i j d d' consistent element lt first same earlier =>
        refine .inr ⟨packagesDefect?_eq_none_iff_consistent.mpr consistent,
          .inl ⟨⟨d.qualifiedName, j, i⟩, ?_, rfl⟩⟩
        exact firstRepeat?_qualifiedName_eq_some_iff.mpr
          ⟨d, d', element, rfl, lt, first, same, earlier⟩
    | undeclared consistent distinct element undeclared earlier =>
        refine .inr ⟨packagesDefect?_eq_none_iff_consistent.mpr consistent,
          .inr ⟨firstRepeat?_eq_none_iff.mpr distinct, ?_⟩⟩
        exact undeclared?_eq_some_iff.mpr
          ⟨_, _, ⟨element, undeclared, earlier⟩, by rw [Nat.zero_add]⟩

/-- **Consistent parts make a catalog, and others are refused for their first inconsistency.** -/
theorem assemble_reports_firstInconsistency (documents modules : List Json)
    (packages : List String) (types : List Descriptor) :
    ((∃ c, assemble documents modules packages types = .ok c) ↔
      (∀ p ∈ packages, Name.isPackageName p = true) ∧ packages.Nodup ∧
        (types.map Descriptor.qualifiedName).Nodup ∧ ∀ d ∈ types, d.package ∈ packages) ∧
    (∀ c, assemble documents modules packages types = .ok c ↔
      c.HasParts documents modules packages types) ∧
    ∀ e, assemble documents modules packages types = .error e ↔
      FirstInconsistency packages types e := by
  refine ⟨?_, fun c => assemble_eq_ok_iff, fun e => assemble_eq_error_iff⟩
  calc (∃ c, assemble documents modules packages types = .ok c)
      ↔ ∃ c : Catalog, c.HasParts documents modules packages types :=
        exists_congr fun c => assemble_eq_ok_iff
    _ ↔ _ := exists_catalog_iff

/-- Of two bad packages the one that stands first is reported. -/
example : assemble [] [] ["tree", "tree.", "tree"] [] =
    .error (.invalid ⟨"packages[1]", none, .badPackageName "tree."⟩) := rfl

end Catalog
end TypeCatalog
