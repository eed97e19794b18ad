import Mathlib.Data.List.Forall2
import Mathlib.Data.List.Nodup
import Mathlib.Data.List.Perm.Basic
import Mathlib.Data.List.Perm.Subperm
import Mathlib.Data.Option.Basic
import NodeQuery.Value.Basic

/-!
# Equality of values

Two maps count as equal if they have equally many entries and every entry of the one has a partner
in the other.  Since keys are distinct, no partner serves two entries, so that none is left over.
Hence the question has the same answer in both directions: equal maps have equal values at all keys,
and lack the same keys.  Without floats, which need not equal themselves, this makes equality an
equivalence, and one value equals another just if it is a rearrangement of its maps.
-/

namespace NodeQuery

/-! ## Entries with distinct keys -/

namespace Entries

variable {α : Type} {left middle right : List (String × α)} {relation : α → α → Prop}

/-- No key occurs twice. -/
def Distinct (entries : List (String × α)) : Prop := (entries.map Prod.fst).Nodup

instance (entries : List (String × α)) : Decidable (Distinct entries) :=
  inferInstanceAs (Decidable (entries.map Prod.fst).Nodup)

theorem lookup_eq_none {key : String} :
    left.lookup key = none ↔ key ∉ left.map Prod.fst := by
  rw [List.lookup_eq_none_iff]
  simp only [List.mem_map, not_exists, not_and, bne_iff_ne]
  exact ⟨fun other entry member same => other entry member same.symm,
    fun other entry member same => other entry member same.symm⟩

theorem lookup_eq_some (distinct : Distinct left) {key : String} {value : α} :
    left.lookup key = some value ↔ (key, value) ∈ left := by
  induction left with
  | nil => simp
  | cons entry left ih =>
      obtain ⟨other, first⟩ := entry
      obtain ⟨fresh, distinct⟩ := List.nodup_cons.mp distinct
      rw [List.lookup_cons]
      cases same : key == other with
      | false =>
          have different : key ≠ other := by simpa using same
          simpa [different] using ih distinct
      | true =>
          have equal : key = other := by simpa using same
          subst equal
          have absent : (key, value) ∉ left :=
            fun member => fresh (List.mem_map.mpr ⟨_, member, rfl⟩)
          simp [absent, eq_comm]

/-- At every key, either both lists have related values or both have none. -/
def Agree (relation : α → α → Prop) (left right : List (String × α)) : Prop :=
  ∀ key, Option.Rel relation (left.lookup key) (right.lookup key)

theorem Agree.lookup_eq_none_iff (agree : Agree relation left right) (key : String) :
    left.lookup key = none ↔ right.lookup key = none := by
  have same := agree key
  generalize left.lookup key = first at same
  generalize right.lookup key = second at same
  cases same <;> simp

theorem Agree.exists_partner (agree : Agree relation left right) {key : String} {value : α}
    (found : left.lookup key = some value) :
    ∃ other, right.lookup key = some other ∧ relation value other := by
  have same := agree key
  rw [found] at same
  generalize right.lookup key = second at same
  cases same with
  | some related => exact ⟨_, rfl, related⟩

/-- If every entry has a partner in a list that is no longer, every entry of that list is a partner:
the keys of the one list are among those of the other, and as many. -/
theorem agree_iff_partners (distinct : Distinct left) (distinct' : Distinct right) :
    Agree relation left right ↔ left.length = right.length ∧ ∀ entry ∈ left,
      ∃ other, right.lookup entry.1 = some other ∧ relation entry.2 other := by
  constructor
  · intro agree
    have keys : (left.map Prod.fst).Perm (right.map Prod.fst) := by
      rw [List.perm_ext_iff_of_nodup distinct distinct']
      intro key
      rw [← not_iff_not, ← lookup_eq_none, ← lookup_eq_none, agree.lookup_eq_none_iff]
    refine ⟨by simpa using keys.length_eq, ?_⟩
    intro entry member
    exact agree.exists_partner ((lookup_eq_some distinct).mpr member)
  · rintro ⟨equallyMany, partners⟩ key
    have subset : left.map Prod.fst ⊆ right.map Prod.fst := by
      intro key member
      obtain ⟨entry, present, rfl⟩ := List.mem_map.mp member
      obtain ⟨other, found, _⟩ := partners entry present
      exact List.mem_map.mpr ⟨_, (lookup_eq_some distinct').mp found, rfl⟩
    have keys : (left.map Prod.fst).Perm (right.map Prod.fst) :=
      (List.Nodup.subperm distinct subset).perm_of_length_le (by simp [equallyMany])
    cases found : left.lookup key with
    | some value =>
        obtain ⟨other, found', related⟩ := partners _ ((lookup_eq_some distinct).mp found)
        rw [found']
        exact .some related
    | none =>
        rw [lookup_eq_none, keys.mem_iff, ← lookup_eq_none] at found
        rw [found]
        exact .none

/-- Entries with distinct keys are told apart by looking up keys, up to their order. -/
theorem perm_iff_lookup (distinct : Distinct left) (distinct' : Distinct right) :
    left.Perm right ↔ ∀ key, left.lookup key = right.lookup key := by
  rw [List.perm_ext_iff_of_nodup distinct.of_map distinct'.of_map]
  constructor
  · intro same key
    apply Option.ext
    intro value
    rw [lookup_eq_some distinct, lookup_eq_some distinct', same]
  · rintro same ⟨key, value⟩
    rw [← lookup_eq_some distinct, ← lookup_eq_some distinct', same]

theorem agree_of_forall₂ (keys : left.map Prod.fst = right.map Prod.fst)
    (values : List.Forall₂ relation (left.map Prod.snd) (right.map Prod.snd)) :
    Agree relation left right := by
  intro key
  induction left generalizing right with
  | nil =>
      cases right with
      | nil => exact .none
      | cons entry right => cases keys
  | cons entry left ih =>
      cases right with
      | nil => cases keys
      | cons entry' right =>
          obtain ⟨same, keys⟩ := List.cons.inj keys
          cases values with
          | cons first values =>
              rw [List.lookup_cons, List.lookup_cons, same]
              cases key == entry'.1 with
              | true => exact .some first
              | false => exact ih keys values

theorem lookup_map (f : String → α → α) (entries : List (String × α)) (key : String) :
    (entries.map fun entry => (entry.1, f entry.1 entry.2)).lookup key =
      (entries.lookup key).map (f key) := by
  induction entries with
  | nil => rfl
  | cons entry entries ih =>
      rw [List.map_cons, List.lookup_cons, List.lookup_cons, ih]
      cases same : key == entry.1 with
      | false => rfl
      | true => rw [beq_iff_eq.mp same]; rfl

theorem Distinct.of_keys (distinct : Distinct left)
    (keys : left.map Prod.fst = right.map Prod.fst) : Distinct right := by
  rw [Distinct, ← keys]
  exact distinct

/-- The value of an entry's partner; an entry without one keeps its own. -/
def partner (right : List (String × α)) (key : String) (value : α) : α :=
  (right.lookup key).getD value

/-- The entries of the first list in their order, with the values of their partners in the
second. -/
def aligned (left right : List (String × α)) : List (String × α) :=
  left.map fun entry => (entry.1, partner right entry.1 entry.2)

theorem keys_aligned (left right : List (String × α)) :
    left.map Prod.fst = (aligned left right).map Prod.fst := by
  simp [aligned]

theorem Agree.forall₂_aligned (agree : Agree relation left right) (distinct : Distinct left) :
    List.Forall₂ relation (left.map Prod.snd) ((aligned left right).map Prod.snd) := by
  rw [aligned, List.map_map, List.forall₂_map_left_iff, List.forall₂_map_right_iff,
    List.forall₂_same]
  intro entry member
  obtain ⟨other, found, related⟩ := agree.exists_partner ((lookup_eq_some distinct).mpr member)
  simpa [partner, found] using related

theorem Agree.lookup_aligned (agree : Agree relation left right) (key : String) :
    (aligned left right).lookup key = right.lookup key := by
  rw [aligned, lookup_map (partner right)]
  cases found : left.lookup key with
  | none => exact ((agree.lookup_eq_none_iff key).mp found).symm
  | some value =>
      obtain ⟨other, found', _⟩ := agree.exists_partner found
      simp [partner, found']

/-- Lists agree if the one becomes the other by changing values to related ones and then the
order. -/
theorem agree_iff_rearranged (distinct : Distinct left) (distinct' : Distinct right) :
    Agree relation left right ↔ ∃ middle : List (String × α),
      left.map Prod.fst = middle.map Prod.fst ∧
      List.Forall₂ relation (left.map Prod.snd) (middle.map Prod.snd) ∧ middle.Perm right := by
  constructor
  · intro agree
    have distinctAligned := distinct.of_keys (keys_aligned left right)
    exact ⟨aligned left right, keys_aligned left right, agree.forall₂_aligned distinct,
      (perm_iff_lookup distinctAligned distinct').mpr agree.lookup_aligned⟩
  · rintro ⟨middle, keys, values, order⟩ key
    rw [← (perm_iff_lookup (distinct.of_keys keys) distinct').mp order key]
    exact agree_of_forall₂ keys values key

theorem Agree.congr {relation' : α → α → Prop} (distinct : Distinct left)
    (distinct' : Distinct right)
    (same : ∀ entry ∈ left, ∀ other ∈ right, relation entry.2 other.2 ↔ relation' entry.2 other.2) :
    Agree relation left right ↔ Agree relation' left right := by
  apply forall_congr'
  intro key
  cases found : left.lookup key with
  | none => cases right.lookup key <;> simp
  | some value =>
      cases found' : right.lookup key with
      | none => simp
      | some other =>
          simpa using same _ ((lookup_eq_some distinct).mp found) _
            ((lookup_eq_some distinct').mp found')

end Entries

theorem forall₂_congr_of_mem {α : Type} {relation relation' : α → α → Prop} {left right : List α}
    (same : ∀ value ∈ left, ∀ other ∈ right, relation value other ↔ relation' value other) :
    List.Forall₂ relation left right ↔ List.Forall₂ relation' left right := by
  simp only [List.forall₂_iff_zip]
  apply and_congr_right
  intro _
  constructor
  · intro related value other member
    have inside := List.of_mem_zip member
    exact (same value inside.1 other inside.2).mp (related member)
  · intro related value other member
    have inside := List.of_mem_zip member
    exact (same value inside.1 other inside.2).mpr (related member)

/-! ## Values -/

namespace Value

/-- There is no float in the value, and in each of its maps the keys are distinct. -/
inductive Exact : Value → Prop where
  | null : Exact .null
  | bool (value : Bool) : Exact (.bool value)
  | int (value : Int64) : Exact (.int value)
  | string (value : String) : Exact (.string value)
  | list {items : List Value} (members : ∀ item ∈ items, Exact item) : Exact (.list items)
  | map {entries : List (String × Value)} (distinct : Entries.Distinct entries)
      (members : ∀ entry ∈ entries, Exact entry.2) : Exact (.map entries)

/-- The second value is the first one with the entries of its maps in any order, at every level.
Lists stay in order. -/
inductive Rearranges : Value → Value → Prop where
  | null : Rearranges .null .null
  | bool (value : Bool) : Rearranges (.bool value) (.bool value)
  | int (value : Int64) : Rearranges (.int value) (.int value)
  | string (value : String) : Rearranges (.string value) (.string value)
  | list {items others : List Value} (inner : List.Forall₂ Rearranges items others) :
      Rearranges (.list items) (.list others)
  | map {entries middle others : List (String × Value)}
      (keys : entries.map Prod.fst = middle.map Prod.fst)
      (inner : List.Forall₂ Rearranges (entries.map Prod.snd) (middle.map Prod.snd))
      (order : middle.Perm others) : Rearranges (.map entries) (.map others)

/-- What is left of a value if maps are functions. -/
inductive Denotation where
  | null
  | bool (value : Bool)
  | int (value : Int64)
  | float (value : Float)
  | string (value : String)
  | list (items : List Denotation)
  | map (entries : String → Option Denotation)

mutual

def denote : Value → Denotation
  | .null => .null
  | .bool value => .bool value
  | .int value => .int value
  | .float value => .float value
  | .string value => .string value
  | .list items => .list (denoteItems items)
  | .map entries => .map (denoteEntries entries)

def denoteItems : List Value → List Denotation
  | [] => []
  | item :: items => denote item :: denoteItems items

def denoteEntries : List (String × Value) → String → Option Denotation
  | [], _ => none
  | (name, value) :: entries, key =>
      if key == name then some (denote value) else denoteEntries entries key

end

theorem denoteItems_eq (items : List Value) : denoteItems items = items.map denote := by
  induction items with
  | nil => rfl
  | cons item items ih => rw [denoteItems, ih, List.map_cons]

theorem denoteEntries_eq (entries : List (String × Value)) (key : String) :
    denoteEntries entries key = (entries.lookup key).map denote := by
  induction entries with
  | nil => rfl
  | cons entry entries ih =>
      rw [denoteEntries, List.lookup_cons, ih]
      cases key == entry.1 <;> rfl

/-- Predicates take the one value for the other. -/
def Equals (left right : Value) : Prop := left.looseEq right = true

theorem looseEqList_iff {left right : List Value} :
    looseEqList left right = true ↔ List.Forall₂ Equals left right := by
  induction left generalizing right with
  | nil => cases right <;> simp [looseEqList]
  | cons item left ih => cases right <;> simp [looseEqList, ih, Equals]

theorem looseEqEntries_iff {left right : List (String × Value)} :
    looseEqEntries left right = true ↔ ∀ entry ∈ left,
      ∃ other, right.lookup entry.1 = some other ∧ entry.2.Equals other := by
  induction left with
  | nil => simp [looseEqEntries]
  | cons entry left ih =>
      rw [looseEqEntries, Bool.and_eq_true, ih, List.forall_mem_cons]
      apply and_congr_left
      intro _
      cases right.lookup entry.1 <;> simp [Equals]

theorem equals_list {left right : List Value} :
    Equals (.list left) (.list right) ↔ List.Forall₂ Equals left right := by
  rw [Equals, looseEq, looseEqList_iff]

theorem equals_map {left right : List (String × Value)} (distinct : Entries.Distinct left)
    (distinct' : Entries.Distinct right) :
    Equals (.map left) (.map right) ↔ Entries.Agree Equals left right := by
  rw [Equals, looseEq, Bool.and_eq_true, beq_iff_eq, looseEqEntries_iff,
    Entries.agree_iff_partners distinct distinct']

theorem equals_iff_denote {left right : Value} (exact : left.Exact) (exact' : right.Exact) :
    left.Equals right ↔ left.denote = right.denote := by
  induction exact generalizing right with
  | null => cases exact' <;> simp [Equals, looseEq, denote]
  | bool => cases exact' <;> simp [Equals, looseEq, denote]
  | int => cases exact' <;> simp [Equals, looseEq, denote]
  | string => cases exact' <;> simp [Equals, looseEq, denote]
  | @list items members ih =>
      cases exact' with
      | @list others members' =>
          rw [equals_list, denote, denote, Denotation.list.injEq, denoteItems_eq, denoteItems_eq,
            ← List.forall₂_eq_eq_eq, List.forall₂_map_left_iff, List.forall₂_map_right_iff]
          exact forall₂_congr_of_mem fun item inside other inside' =>
            ih item inside (members' other inside')
      | _ => simp [Equals, looseEq, denote]
  | @map entries distinct members ih =>
      cases exact' with
      | @map others distinct' members' =>
          have same : Entries.Agree Equals entries others ↔
              Entries.Agree (fun value other => value.denote = other.denote) entries others :=
            Entries.Agree.congr distinct distinct' fun entry inside other inside' =>
              ih entry inside (members' other inside')
          rw [equals_map distinct distinct', same, denote, denote, Denotation.map.injEq, funext_iff]
          apply forall_congr'
          intro key
          rw [denoteEntries_eq, denoteEntries_eq]
          cases entries.lookup key <;> cases others.lookup key <;> simp
      | _ => simp [Equals, looseEq, denote]

theorem rearranges_list {left right : List Value} :
    Rearranges (.list left) (.list right) ↔ List.Forall₂ Rearranges left right :=
  ⟨fun | .list inner => inner, .list⟩

theorem rearranges_map {left right : List (String × Value)} (distinct : Entries.Distinct left)
    (distinct' : Entries.Distinct right) :
    Rearranges (.map left) (.map right) ↔ Entries.Agree Rearranges left right := by
  rw [Entries.agree_iff_rearranged distinct distinct']
  exact ⟨fun | .map keys inner order => ⟨_, keys, inner, order⟩,
    fun ⟨_, keys, inner, order⟩ => .map keys inner order⟩

theorem equals_iff_rearranges {left right : Value} (exact : left.Exact) (exact' : right.Exact) :
    left.Equals right ↔ left.Rearranges right := by
  induction exact generalizing right with
  | null =>
      cases exact' with
      | null => exact ⟨fun _ => .null, fun _ => rfl⟩
      | _ => exact ⟨nofun, nofun⟩
  | bool value =>
      cases exact' with
      | bool other =>
          exact ⟨fun equals => beq_iff_eq.mp equals ▸ .bool value, fun | .bool _ => BEq.rfl⟩
      | _ => exact ⟨nofun, nofun⟩
  | int value =>
      cases exact' with
      | int other =>
          exact ⟨fun equals => beq_iff_eq.mp equals ▸ .int value, fun | .int _ => BEq.rfl⟩
      | _ => exact ⟨nofun, nofun⟩
  | string value =>
      cases exact' with
      | string other =>
          exact ⟨fun equals => beq_iff_eq.mp equals ▸ .string value, fun | .string _ => BEq.rfl⟩
      | _ => exact ⟨nofun, nofun⟩
  | @list items members ih =>
      cases exact' with
      | @list others members' =>
          rw [equals_list, rearranges_list]
          exact forall₂_congr_of_mem fun item inside other inside' =>
            ih item inside (members' other inside')
      | _ => exact ⟨nofun, nofun⟩
  | @map entries distinct members ih =>
      cases exact' with
      | @map others distinct' members' =>
          rw [equals_map distinct distinct', rearranges_map distinct distinct']
          exact Entries.Agree.congr distinct distinct' fun entry inside other inside' =>
            ih entry inside (members' other inside')
      | _ => exact ⟨nofun, nofun⟩

theorem strictEqList_eq {left right : List Value}
    (same : ∀ value ∈ left, ∀ other ∈ right, value.strictEq other = value.looseEq other) :
    strictEqList left right = looseEqList left right := by
  induction left generalizing right with
  | nil => cases right <;> rfl
  | cons value left ih =>
      cases right with
      | nil => rfl
      | cons other right =>
          have first := same value List.mem_cons_self other List.mem_cons_self
          rw [strictEqList, looseEqList, first, ih]
          intro value inside other inside'
          exact same value (.tail _ inside) other (.tail _ inside')

theorem strictEqEntries_eq {left right : List (String × Value)}
    (distinct : Entries.Distinct right)
    (same : ∀ entry ∈ left, ∀ other ∈ right,
      entry.2.strictEq other.2 = entry.2.looseEq other.2) :
    strictEqEntries left right = looseEqEntries left right := by
  induction left with
  | nil => rfl
  | cons entry left ih =>
      rw [strictEqEntries, looseEqEntries, ih fun entry inside => same entry (.tail _ inside)]
      cases found : right.lookup entry.1 with
      | none => rfl
      | some other =>
          have inside := (Entries.lookup_eq_some distinct).mp found
          simp only [same entry List.mem_cons_self _ inside]

/-- The two equalities differ only in what they say of numbers of different kinds. -/
theorem strictEq_eq_looseEq {left right : Value} (exact : left.Exact) (exact' : right.Exact) :
    left.strictEq right = left.looseEq right := by
  induction exact generalizing right with
  | null | bool | int | string => cases exact' <;> rfl
  | @list items members ih =>
      cases exact' with
      | @list others members' =>
          exact strictEqList_eq fun item inside other inside' =>
            ih item inside (members' other inside')
      | _ => rfl
  | @map entries distinct members ih =>
      cases exact' with
      | @map others distinct' members' =>
          rw [strictEq, looseEq, strictEqEntries_eq distinct' fun entry inside other inside' =>
            ih entry inside (members' other inside')]
      | _ => rfl

/-- Among values without floats, equality is an equivalence and the same as strict equality.  Two
such values are equal just if one is a rearrangement of the other: the order of the entries of maps
does not count at any level, and that of the elements of lists counts at all. -/
theorem equality_is_equivalence {first second third : Value} (exact : first.Exact)
    (exact' : second.Exact) (exact'' : third.Exact) :
    first.looseEq first = true ∧
      first.looseEq second = second.looseEq first ∧
      (first.looseEq second = true → second.looseEq third = true → first.looseEq third = true) ∧
      first.looseEq second = first.strictEq second ∧
      (first.looseEq second = true ↔ first.Rearranges second) := by
  have same {left right : Value} (exact : left.Exact) (exact' : right.Exact) :
      left.looseEq right = true ↔ left.denote = right.denote := equals_iff_denote exact exact'
  refine ⟨(same exact exact).mpr rfl, ?_, ?_, (strictEq_eq_looseEq exact exact').symm,
    equals_iff_rearranges exact exact'⟩
  · rw [Bool.eq_iff_iff, same exact exact', same exact' exact]
    exact eq_comm
  · rw [same exact exact', same exact' exact'', same exact exact'']
    exact Eq.trans

/-- Maps in other orders inside and outside are equal; a list the other way round is not. -/
theorem equality_is_equivalence_for_nested_maps :
    let inner : Value := .map [("x", .null), ("y", .bool true)]
    let turned : Value := .map [("y", .bool true), ("x", .null)]
    let first : Value := .map [("a", .list [.int 1, inner]), ("b", .string "s")]
    let second : Value := .map [("b", .string "s"), ("a", .list [.int 1, turned])]
    let third : Value := .map [("a", .list [.int 1, turned]), ("b", .string "s")]
    let other : Value := .map [("a", .list [inner, .int 1]), ("b", .string "s")]
    first.looseEq first = true ∧ first.looseEq second = true ∧ second.looseEq first = true ∧
      first.looseEq third = true ∧ first.strictEq second = true ∧ first.Rearranges second ∧
      ¬ first.Rearranges other := by
  intro inner turned first second third other
  have exactInner : inner.Exact := .map (by decide) (by simp [Exact.null, Exact.bool])
  have exactTurned : turned.Exact := .map (by decide) (by simp [Exact.null, Exact.bool])
  have exactFirst : first.Exact :=
    .map (by decide) (by simp [Exact.list, Exact.int, Exact.string, exactInner])
  have exactSecond : second.Exact :=
    .map (by decide) (by simp [Exact.list, Exact.int, Exact.string, exactTurned])
  have exactThird : third.Exact :=
    .map (by decide) (by simp [Exact.list, Exact.int, Exact.string, exactTurned])
  have exactOther : other.Exact :=
    .map (by decide) (by simp [Exact.list, Exact.int, Exact.string, exactInner])
  obtain ⟨self, symmetric, transitive, strict, rearranged⟩ :=
    equality_is_equivalence exactFirst exactSecond exactThird
  obtain ⟨_, _, _, _, ordered⟩ := equality_is_equivalence exactFirst exactOther exactThird
  have equal : first.looseEq second = true := by decide
  refine ⟨self, equal, symmetric ▸ equal, transitive equal (by decide), strict ▸ equal,
    rearranged.mp equal, ?_⟩
  rw [← ordered]
  decide

end Value

end NodeQuery
